/-
**Definitions of roles and users.**

A role stands for rights; it may log in like a user.  A policy says which rows of a table a role
sees.

Main definitions:

* `Sql.Parser.createRole`, `Sql.Parser.alterRole` — a new role and a changed one;
* `Sql.Parser.createUser`, `Sql.Parser.alterUser` — a new user and a changed one;
* `Sql.Parser.createPolicy`, `Sql.Parser.alterPolicy` — a new policy and a changed one.
-/

import Pushdown.Sql.Parser.Definition.Table

set_option autoImplicit false

namespace Pushdown

namespace Sql

namespace Parser

/-! ### Roles -/

/-- The abilities of a role in the order they are written; each may be denied with `NO` in front. -/
def abilities : List String :=
  ["SUPERUSER", "CREATEDB", "CREATEROLE", "INHERIT", "LOGIN", "REPLICATION", "BYPASSRLS"]

/-- The other properties of a role in the order they are written. -/
def roleProperties : List String :=
  ["CONNECTION LIMIT", "PASSWORD", "VALID UNTIL", "IN ROLE", "IN GROUP", "ROLE", "USER", "ADMIN"]

/-- An ability, with or without `NO` in front: its name and its text. -/
def ability? : Parser (Option (String × Text)) := do
  let token ← peek
  let found := abilities.find? fun name => isAnyKeyword [name, "NO" ++ name] token
  match found, keywordOf? token with
  | some name, some word =>
      skip
      return some (name, ' ' :: word)
  | _, _ => return none

/-- The password of a role, behind the word. -/
def password (g : Grammar) : Parser Text := do
  if ← keyword? "NULL" then return clause "PASSWORD" "NULL".toList
  else return clause "PASSWORD" (← literalText g)

/-- A property with a value, which may stand in a change of a role as well: its name and text. -/
def valuedProperty? (g : Grammar) : Parser (Option (String × Text)) := do
  if ← keyword? "PASSWORD" then return some ("PASSWORD", ← password g)
  else if ← keyword? "CONNECTION" then
    keyword "LIMIT"
    return some ("CONNECTION LIMIT", clause "CONNECTION LIMIT" (← unsignedNumber g))
  else if ← keyword? "VALID" then
    keyword "UNTIL"
    return some ("VALID UNTIL", clause "VALID UNTIL" (← literalText g))
  else return none

/-- A property that names other roles: its name and text. -/
def membership? (g : Grammar) : Parser (Option (String × Text)) := do
  let named (name : String) : Parser (Option (String × Text)) := do
    return some (name, clause name (← g.list identifierText))
  if ← keyword? "IN" then
    if ← keyword? "ROLE" then named "IN ROLE"
    else
      keyword "GROUP"
      named "IN GROUP"
  else if ← keyword? "ROLE" then named "ROLE"
  else if ← keyword? "USER" then named "USER"
  else if ← keyword? "ADMIN" then named "ADMIN"
  else return none

/-- A property of a new role: its name and its text. -/
def roleProperty? (g : Grammar) : Parser (Option (String × Text)) := do
  match ← ability? with
  | some found => return some found
  | none =>
      match ← valuedProperty? g with
      | some found => return some found
      | none => membership? g

/-- The properties of a role in the order they are written, or nothing if one is given twice. -/
def sortedProperties (found : List (String × Text)) : Option Text :=
  if (found.map Prod.fst).Nodup then
    some ((abilities ++ roleProperties).flatMap fun name => (found.lookup name).getD [])
  else none

/-- A new role, behind the word. -/
def createRole (g : Grammar) : Parser Text := do
  let guard ← unlessExists?
  let names ← g.list objectNameText
  let _ ← keyword? "WITH"
  let found ← if g.dialect.name = .postgresql then repeated (roleProperty? g) else pure []
  match sortedProperties found with
  | some text => return "CREATE ROLE".toList ++ guard ++ ' ' :: names ++ text
  | none => fail

/-- The setting of a role, behind the word. -/
def roleSetting (g : Grammar) : Parser Text := do
  let name ← objectNameText
  if ← keywords? ["FROM", "CURRENT"] then return "SET ".toList ++ name ++ " FROM CURRENT".toList
  else
    let isThere ← symbol? "="
    if !isThere then keyword "TO"
    let value ← if ← keyword? "DEFAULT" then pure "DEFAULT".toList else g.exprText
    return "SET ".toList ++ name ++ clause "TO" value

/-- A property of a changed role. -/
def changedProperty? (g : Grammar) : Parser (Option Text) := do
  let found ← attempt do
    match ← ability? with
    | some found => return found.2
    | none =>
        match ← valuedProperty? g with
        | some found => return found.2
        | none => fail
  return found

/-- A changed role, behind the word. -/
def alterRole (g : Grammar) : Parser Text := do
  if g.dialect.name != .postgresql then fail
  let name ← identifierText
  let lead := "ALTER ROLE ".toList ++ name ++ [' ']
  let database ←
    if ← keywords? ["IN", "DATABASE"] then
      let database ← attempt objectNameText
      pure (database.elim [] fun text => "IN DATABASE ".toList ++ text ++ [' '])
    else pure []
  if ← keyword? "RENAME" then
    keyword "TO"
    return lead ++ "RENAME TO ".toList ++ (← identifierText)
  else if ← keyword? "SET" then return lead ++ database ++ (← roleSetting g)
  else if ← keyword? "RESET" then
    let what ← if ← keyword? "ALL" then pure "ALL".toList else objectNameText
    return lead ++ database ++ "RESET ".toList ++ what
  else
    let _ ← keyword? "WITH"
    let properties ← repeated (changedProperty? g)
    if properties.isEmpty then fail
    return lead ++ "WITH".toList ++ properties.flatten

/-! ### Users -/

/-- A value of an option of a user: a literal, a word, or several in parentheses.  Options in
parentheses are nested at most as deep as there is fuel. -/
def userOptionValue (g : Grammar) (inner : Parser Text) : Parser Text := do
  match ← peek with
  | some (.string .single _) => literalText g
  | some (.number _ _) => literalText g
  | some (.word text quote) =>
      if quote.isNone && ["TRUE".toList, "FALSE".toList].contains (Keyword.capitals text) then
        literalText g
      else
        skip
        return text
  | some (.symbol ['(']) =>
      let values := do
        symbol "("
        let values ← commaSeparatedUnless g.dialect ")" (literalText g)
        symbol ")"
        return inParens (listed values)
      orTry values do
        symbol "("
        return inParens (← inner)
  | _ => fail

/-- Options of a user up to their end, and whether a comma stands between some.  In parentheses they
end with the closing one; else they end with the statement or in front of some words. -/
def userOptionsFrom (g : Grammar) (closed : Bool) (ends : List String) (inner : Parser Text) :
    Nat → Bool → Parser (List Text × Bool)
  | 0, _ => fail
  | fuel + 1, hasComma => do
      let token ← peek
      if isAnyKeyword ends token then return ([], hasComma)
      else
        skip
        match token with
        | none => return ([], hasComma)
        | some (.semicolon _) => return ([], hasComma)
        | some (.symbol [',']) => userOptionsFrom g closed ends inner fuel true
        | some (.symbol [')']) => if closed then return ([], hasComma) else fail
        | some (.word key _) =>
            symbol "="
            let value ← userOptionValue g inner
            let (others, hasComma) ← userOptionsFrom g closed ends inner fuel hasComma
            return ((key ++ '=' :: value) :: others, hasComma)
        | _ => fail

/-- Options as text. -/
def renderUserOptions (found : List Text × Bool) : Text :=
  Text.joinWith (if found.2 then comma else [' ']) found.1

/-- Options in parentheses behind the opening one, nested at most as deep as there is fuel, and
whether a comma stands between some. -/
def innerUserOptions (g : Grammar) : Nat → Parser (List Text × Bool)
  | 0 => fail
  | fuel + 1 => do
      let inner := renderUserOptions <$> innerUserOptions g fuel
      userOptionsFrom g true [] inner ((← get).length + 2) false

/-- Options of a user up to the end of the statement or one of some words, and whether a comma
stands between some. -/
def userOptions (g : Grammar) (ends : List String) : Parser (List Text × Bool) := do
  let size := (← get).length + 2
  userOptionsFrom g false ends (renderUserOptions <$> innerUserOptions g size) size false

/-- A new user, behind the word.  Blanks stand between the options, and commas between the tags. -/
def createUser (g : Grammar) (lead : Text) : Parser Text := do
  let guard ← unlessExists?
  let name ← identifierText
  let (options, _) ← userOptions g ["WITH", "TAG"]
  let joined ← phrase? [["WITH"]]
  let tags ←
    if ← keyword? "TAG" then
      symbol "("
      Prod.fst <$> innerUserOptions g ((← get).length + 1)
    else pure []
  let tags := if tags.isEmpty then [] else joined ++ " TAG ".toList ++ inParens (listed tags)
  let options := options.flatMap fun text => ' ' :: text
  return lead ++ "USER".toList ++ guard ++ ' ' :: name ++ options ++ tags

/-- A role that another service may act for, given to it or taken from it, if it is said. -/
def delegation? : Parser Text := do
  let added ←
    clauseBehind? ["ADD", "DELEGATED", "AUTHORIZATION", "OF", "ROLE"] do
      let role ← identifierText
      keywords ["TO", "SECURITY", "INTEGRATION"]
      return role ++ clause "TO SECURITY INTEGRATION" (← identifierText)
  let removed ←
    clauseBehind? ["REMOVE", "DELEGATED"] do
      let what ←
        if ← keyword? "AUTHORIZATIONS" then pure "AUTHORIZATIONS".toList
        else do
          keywords ["AUTHORIZATION", "OF", "ROLE"]
          pure ("AUTHORIZATION OF ROLE ".toList ++ (← identifierText))
      keywords ["FROM", "SECURITY", "INTEGRATION"]
      return what ++ clause "FROM SECURITY INTEGRATION" (← identifierText)
  return added ++ removed

/-- The further proofs of who a user is, as far as they are changed. -/
def furtherProof? (g : Grammar) : Parser Text := do
  let method := oneOf ["PASSKEY", "TOTP", "DUO"]
  let enrolled ← phrase? [["ENROLL", "MFA"]]
  let default ← clauseBehind? ["SET", "DEFAULT_MFA_METHOD"] method
  let removed ← clauseBehind? ["REMOVE", "MFA", "METHOD"] method
  let modified ←
    clauseBehind? ["MODIFY", "MFA", "METHOD"] do
      let kind ← method
      keywords ["SET", "COMMENT"]
      return kind ++ clause "SET COMMENT" (← quotedText g)
  let added ← phrase? [["ADD", "MFA", "METHOD", "OTP"]]
  let count ←
    if !added.isEmpty then
      if ← keyword? "COUNT" then
        symbol "="
        clause "COUNT =" <$> literalText g
      else pure []
    else pure []
  return enrolled ++ default ++ removed ++ modified ++ added ++ count

/-- The policies of a user, as far as they are set or unset. -/
def userPolicy? : Parser Text := do
  let policies (word : String) : List (List String) :=
    ["AUTHENTICATION", "PASSWORD", "SESSION"].map fun kind => [word, kind, "POLICY"]
  let set ← phrase? (policies "SET")
  let name ← if set.isEmpty then pure [] else (' ' :: ·) <$> identifierText
  return set ++ name ++ (← phrase? (policies "UNSET"))

/-- Options behind some words, if they are there and there are some. -/
def setOptions? (g : Grammar) (words : List String) : Parser Text := do
  let lead ← phrase? [words]
  if lead.isEmpty then return []
  else
    let found ← userOptions g []
    return if found.1.isEmpty then [] else lead ++ ' ' :: renderUserOptions found

/-- A changed user, behind the word. -/
def alterUser (g : Grammar) : Parser Text := do
  let guard ← ifExists?
  let name ← identifierText
  let newName ← clauseBehind? ["RENAME", "TO"] identifierText
  let reset ← phrase? [["RESET", "PASSWORD"]]
  let abort ← phrase? [["ABORT", "ALL", "QUERIES"]]
  let access := (← delegation?) ++ (← furtherProof? g) ++ (← userPolicy?)
  let tags := (← setOptions? g ["SET", "TAG"]) ++
    (← clauseBehind? ["UNSET", "TAG"] (g.list identifierText))
  let settings := (← setOptions? g ["SET"]) ++ (← clause? "UNSET" (g.list identifierText))
  return "ALTER USER".toList ++ guard ++ ' ' :: name ++ newName ++ reset ++ abort ++ access ++
    tags ++ settings

/-! ### Policies -/

/-- A role that owns something, by its name or by a word. -/
def owner : Parser Text := do
  match ← oneOf? ["CURRENT_USER", "CURRENT_ROLE", "SESSION_USER"] with
  | some word => return word
  | none => identifierText

/-- The roles of a policy and the rows that they see and may write, as far as they are given. -/
def policyScope (g : Grammar) : Parser Text := do
  let inner : Parser Text := inParens <$> parenthesized g.exprText
  let roles ← clause? "TO" (g.list owner)
  let seen ← clause? "USING" inner
  return roles ++ seen ++ (← clauseBehind? ["WITH", "CHECK"] inner)

/-- The name of a policy and its table. -/
def policyName : Parser Text := do
  let name ← identifierText
  keyword "ON"
  return name ++ clause "ON" (← objectNameText)

/-- A new policy, behind the word. -/
def createPolicy (g : Grammar) : Parser Text := do
  let name ← policyName
  let kind ← clause? "AS" (oneOf ["PERMISSIVE", "RESTRICTIVE"])
  let commands ← clause? "FOR" (oneOf ["ALL", "SELECT", "INSERT", "UPDATE", "DELETE"])
  return "CREATE POLICY ".toList ++ name ++ kind ++ commands ++ (← policyScope g)

/-- A changed policy, behind the word. -/
def alterPolicy (g : Grammar) : Parser Text := do
  let name ← policyName
  if ← keyword? "RENAME" then
    keyword "TO"
    return "ALTER POLICY ".toList ++ name ++ " RENAME TO ".toList ++ (← identifierText)
  else return "ALTER POLICY ".toList ++ name ++ (← policyScope g)

end Parser

end Sql

end Pushdown
