/-
**Rights of users.**

Rights on tables and other things are granted to users and roles, refused and taken away.

Main definitions:

* `Sql.Parser.privileges` — rights and what they are about;
* `Sql.Parser.grantees` — who has them;
* `Sql.Parser.grant`, `Sql.Parser.revoke`, `Sql.Parser.deny` — the statements.
-/

import Pushdown.Sql.Parser.Session.Transaction

set_option autoImplicit false

namespace Pushdown

namespace Sql

namespace Parser

/-! ### Rights -/

/-- Rights that are named by their words alone; a longer one stands in front of its beginning. -/
def plainRights : List (List String) :=
  [["IMPORTED", "PRIVILEGES"], ["ADD", "SEARCH", "OPTIMIZATION"], ["ATTACH", "LISTING"],
    ["ATTACH", "POLICY"], ["BIND", "SERVICE", "ENDPOINT"], ["EVOLVE", "SCHEMA"],
    ["IMPORT", "SHARE"], ["MANAGE", "VERSIONS"], ["MANAGE", "RELEASES"],
    ["OVERRIDE", "SHARE", "RESTRICTIONS"], ["PURCHASE", "DATA", "EXCHANGE", "LISTING"],
    ["RESOLVE", "ALL"], ["READ", "SESSION"], ["APPLYBUDGET"], ["AUDIT"], ["CONNECT"], ["DELETE"],
    ["FAILOVER"], ["OPERATE"], ["READ"], ["REPLICATE"], ["TEMPORARY"], ["TRIGGER"], ["TRUNCATE"],
    ["USAGE"], ["OWNERSHIP"], ["DROP"]]

/-- What may be created with a right. -/
def creatableThings : List (List String) :=
  [["APPLICATION", "PACKAGE"], ["COMPUTE", "POOL"], ["DATA", "EXCHANGE", "LISTING"],
    ["EXTERNAL", "VOLUME"], ["FAILOVER", "GROUP"], ["NETWORK", "POLICY"],
    ["ORGANIZATION", "LISTING"], ["REPLICATION", "GROUP"], ["ACCOUNT"], ["APPLICATION"],
    ["DATABASE"], ["INTEGRATION"], ["ROLE"], ["SCHEMA"], ["SHARE"], ["USER"], ["WAREHOUSE"]]

/-- What may be run with a right. -/
def runnableThings : List (List String) :=
  [["DATA", "METRIC", "FUNCTION"], ["MANAGED", "ALERT"], ["MANAGED", "TASK"], ["ALERT"], ["TASK"]]

/-- What may be applied with a right. -/
def applicableThings : List (List String) :=
  [["AGGREGATION", "POLICY"], ["AUTHENTICATION", "POLICY"], ["JOIN", "POLICY"],
    ["MASKING", "POLICY"], ["PACKAGES", "POLICY"], ["PASSWORD", "POLICY"],
    ["PROJECTION", "POLICY"], ["ROW", "ACCESS", "POLICY"], ["SESSION", "POLICY"], ["TAG"]]

/-- What may be managed with a right. -/
def manageableThings : List (List String) :=
  [["ACCOUNT", "SUPPORT", "CASES"], ["EVENT", "SHARING"], ["GRANTS"],
    ["LISTING", "AUTO", "FULFILLMENT"], ["ORGANIZATION", "SUPPORT", "CASES"],
    ["USER", "SUPPORT", "CASES"], ["WAREHOUSES"]]

/-- What may be modified with a right. -/
def modifiableThings : List (List String) :=
  [["LOG", "LEVEL"], ["TRACE", "LEVEL"], ["SESSION", "LOG", "LEVEL"], ["SESSION", "TRACE", "LEVEL"]]

/-- What may be watched with a right. -/
def watchableThings : List (List String) := [["EXECUTION"], ["SECURITY"], ["USAGE"]]

/-- Some words that have to be there, with a blank in front. -/
def somePhrase (choices : List (List String)) : Parser Text := do
  let words ← phrase? choices
  if words.isEmpty then fail else return words

/-- What a right with one of some words is about, behind the word. -/
def rightObject (g : Grammar) (word : Text) : Parser Text :=
  let isOne (words : List String) : Bool := words.any fun w => w.toList == word
  if isOne ["SELECT", "INSERT", "UPDATE", "REFERENCES"] then parenthesizedNames? g
  else if isOne ["CREATE"] then phrase? creatableThings
  else if isOne ["EXECUTE", "EXEC"] then phrase? runnableThings
  else if isOne ["APPLY"] then somePhrase applicableThings
  else if isOne ["MANAGE"] then somePhrase manageableThings
  else if isOne ["MODIFY"] then phrase? modifiableThings
  else if isOne ["MONITOR"] then phrase? watchableThings
  else return ' ' :: (← objectNameText)

/-- A right with a blank in front. -/
def privilege (g : Grammar) : Parser Text := do
  let plain ← phrase? plainRights
  if !plain.isEmpty then return plain
  else if ← keywords? ["DATABASE", "ROLE"] then
    return " DATABASE ROLE ".toList ++ (← objectNameText)
  else
    let word ←
      oneOf ["SELECT", "INSERT", "UPDATE", "REFERENCES", "CREATE", "EXECUTE", "EXEC", "APPLY",
        "MANAGE", "MODIFY", "MONITOR", "ROLE"]
    return ' ' :: word ++ (← rightObject g word)

/-- Whether a list of rights ends in front of a token. -/
def endsRights (token : Option Token) : Bool :=
  token.isNone || isSemicolon token || isKeyword "ON" token ||
    [")", "]", "\x7d"].any fun s => isSymbol s token

/-- Rights with commas between and a blank in front, at most as many as there is fuel. -/
def privilegesFrom (g : Grammar) : Nat → Parser Text
  | 0 => fail
  | fuel + 1 => do
      let right ← privilege g
      if ← symbol? "," then
        if g.dialect.trailingCommas && endsRights (← peek) then return right
        else return right ++ ',' :: (← privilegesFrom g fuel)
      else return right

/-- Rights with commas between and a blank in front. -/
def privilegeList (g : Grammar) : Parser Text := do privilegesFrom g ((← get).length + 1)

/-! ### What rights are about -/

/-- Groups of things in a place, and things with a name of several words. -/
def thingGroups : List (List String) :=
  [["ALL", "TABLES", "IN", "SCHEMA"], ["ALL", "EXTERNAL", "TABLES", "IN", "SCHEMA"],
    ["ALL", "VIEWS", "IN", "SCHEMA"], ["ALL", "MATERIALIZED", "VIEWS", "IN", "SCHEMA"],
    ["ALL", "FUNCTIONS", "IN", "SCHEMA"], ["FUTURE", "SCHEMAS", "IN", "DATABASE"],
    ["FUTURE", "TABLES", "IN", "SCHEMA"], ["FUTURE", "EXTERNAL", "TABLES", "IN", "SCHEMA"],
    ["FUTURE", "VIEWS", "IN", "SCHEMA"], ["FUTURE", "MATERIALIZED", "VIEWS", "IN", "SCHEMA"],
    ["ALL", "SEQUENCES", "IN", "SCHEMA"], ["FUTURE", "SEQUENCES", "IN", "SCHEMA"],
    ["RESOURCE", "MONITOR"], ["COMPUTE", "POOL"], ["FAILOVER", "GROUP"], ["REPLICATION", "GROUP"],
    ["EXTERNAL", "VOLUME"]]

/-- The kinds of single things. -/
def thingKinds : List String :=
  ["SEQUENCE", "DATABASE", "SCHEMA", "TABLE", "VIEW", "WAREHOUSE", "INTEGRATION", "USER",
    "CONNECTION", "PROCEDURE", "FUNCTION"]

/-- A part of a name, or a star for all names. -/
def nameOrStar : Parser Text := do if ← symbol? "*" then return ['*'] else identifierText

/-- A period and a further part of a name. -/
def furtherNameOrStar? : Parser (Option Text) := do
  if ← symbol? "." then return some ('.' :: (← nameOrStar)) else return none

/-- A name of several parts, of which some may be stars. -/
def starredName : Parser Text := do
  return (← nameOrStar) ++ (← repeated furtherNameOrStar?).flatten

/-- The types of the arguments of a routine, if they are given. -/
def routineTypes? (g : Grammar) : Parser Text := do
  if ← peekSymbol "(" then
    let types ← g.anyInParens (dataTypeText g)
    return if types = "()".toList then [] else types
  else return []

/-- What rights are about, with a blank in front. -/
def rightTarget (g : Grammar) : Parser Text := do
  let group ← phrase? thingGroups
  if !group.isEmpty then return group ++ ' ' :: (← g.list objectNameText)
  else
    let kind := (← oneOf? thingKinds).getD []
    let names ← commaSeparated g.dialect starredName
    if ["PROCEDURE", "FUNCTION"].any fun word => word.toList == kind then
      -- Of several routines only the first one is meant.
      return ' ' :: kind ++ ' ' :: (names.headD []) ++ (← routineTypes? g)
    else if kind.isEmpty || kind = "TABLE".toList then return ' ' :: listed names
    else return ' ' :: kind ++ ' ' :: listed names

/-- Rights and what they are about, each with a blank in front; the latter may be left out. -/
def privileges (g : Grammar) : Parser (Text × Text) := do
  let rights ←
    if ← keyword? "ALL" then
      pure (" ALL".toList ++ mark "PRIVILEGES" (← keyword? "PRIVILEGES"))
    else privilegeList g
  let target ← if ← keyword? "ON" then (" ON".toList ++ ·) <$> rightTarget g else pure []
  return (rights, target)

/-! ### Who has rights -/

/-- The kinds of those who have rights. -/
def granteeKinds : List (List String) :=
  [["ROLE"], ["USER"], ["SHARE"], ["GROUP"], ["PUBLIC"], ["DATABASE", "ROLE"],
    ["APPLICATION", "ROLE"], ["APPLICATION"]]

/-- A colon and a name behind a space of names. -/
def colonName? : Parser (Option Text) := do
  match ← peek with
  | some (.colon _) =>
      skip
      some <$> identifierText
  | _ => return none

/-- Someone who has rights, by name. -/
def granteeName (g : Grammar) : Parser Text := do
  let before ← get
  let plain ← objectNameText
  set before
  let name ← userName g
  match ← colonName? with
  -- A user at a host is in no space of names.
  | some member => return if name = plain then name ++ ':' :: member else name
  | none => return name

/-- Those who have rights, at most as many as there is fuel; one without a kind is of the kind of
the one in front. -/
def granteesFrom (g : Grammar) : Nat → Text → Parser (List Text)
  | 0, _ => fail
  | fuel + 1, kind => do
      let found ← phrase? granteeKinds
      let kind := if found.isEmpty then kind else found.drop 1 ++ [' ']
      -- Everybody has no name.
      let name ← if kind = "PUBLIC ".toList then pure [] else granteeName g
      if ← symbol? "," then return (kind ++ name) :: (← granteesFrom g fuel kind)
      else return [kind ++ name]

/-- Those who have rights. -/
def grantees (g : Grammar) : Parser Text := do
  return listed (← granteesFrom g ((← get).length + 1) [])

/-! ### Statements -/

/-- Rights that are granted, behind the word. -/
def grant (g : Grammar) : Parser Text := do
  let (rights, target) ← privileges g
  keyword "TO"
  let names ← grantees g
  let option ← phrase? [["WITH", "GRANT", "OPTION"]]
  let current ← phrase? [["COPY", "CURRENT", "GRANTS"], ["REVOKE", "CURRENT", "GRANTS"]]
  let grantor ← clause? "AS" identifierText
  let granter ← clauseBehind? ["GRANTED", "BY"] identifierText
  return "GRANT".toList ++ rights ++ target ++ clause "TO" names ++ option ++ current ++ grantor ++
    granter

/-- Rights that are taken away, behind the word. -/
def revoke (g : Grammar) : Parser Text := do
  let (rights, target) ← privileges g
  keyword "FROM"
  let names ← grantees g
  let granter ← clauseBehind? ["GRANTED", "BY"] identifierText
  let manner ← dropBehavior?
  return "REVOKE".toList ++ rights ++ target ++ clause "FROM" names ++ granter ++ manner

/-- Rights that are refused, behind the word; what they are about has to be said. -/
def deny (g : Grammar) : Parser Text := do
  let (rights, target) ← privileges g
  if target.isEmpty then fail
  keyword "TO"
  let names ← grantees g
  let manner ← dropBehavior?
  let grantor ← clause? "AS" identifierText
  return "DENY".toList ++ rights ++ target ++ clause "TO" names ++ manner ++ grantor

end Parser

end Sql

end Pushdown
