/-
**What follows the body of a SQL query.**

Behind its body a query has an order, limits, locks, and the form in which the answer is given.

Main definitions:

* `Sql.Parser.orderBy?`, `Sql.Parser.limits`, `Sql.Parser.fetch` — the order and the limits;
* `Sql.Parser.locksFrom` — locks and the form of the answer;
* `Sql.Parser.queryTail` — all of them.
-/

import Pushdown.Sql.Parser.Select

set_option autoImplicit false

namespace Pushdown

namespace Sql

namespace Parser

/-! ### Order -/

/-- A column that is interpolated, and how. -/
def interpolated (g : Grammar) : Parser Text :=
  return (← identifierText) ++ (← clause? "AS" g.exprText)

/-- How columns are interpolated in rows that fill gaps, if it is said. -/
def interpolation? (g : Grammar) : Parser Text := do
  if ← keyword? "INTERPOLATE" then
    if ← peekSymbol "(" then return " INTERPOLATE ".toList ++ (← g.anyInParens (interpolated g))
    else return " INTERPOLATE".toList
  else return []

/-- The order of a query, if it has one. -/
def orderBy? (g : Grammar) : Parser Text := do
  if ← keywords? ["ORDER", "BY"] then
    let all ← if g.dialect.name = .duckdb then keyword? "ALL" else pure false
    if all then return clause "ORDER BY" ("ALL".toList ++ (← orderOptions))
    else
      let items ← g.list (orderItem g)
      return clause "ORDER BY" items ++ (← textIf (g.dialect.name = .generic) (interpolation? g))
  else return []

/-! ### Limits -/

/-- The number of rows to leave out, behind its word. -/
def offset (g : Grammar) : Parser Text := do
  let amount ← g.exprText
  return clause "OFFSET" (amount ++ markOf (← oneOf? ["ROW", "ROWS"]))

/-- The number of rows behind its word, or nothing for all of them. -/
def limit (g : Grammar) : Parser (Option Text) := do
  if ← keyword? "ALL" then return none else some <$> g.exprText

/-- The limits of a query: a number of rows to give and one to leave out, in either order. -/
def limits (g : Grammar) : Parser Text := do
  -- The two may stand in either order, and are written with the limit in front.
  let early ← if ← keyword? "OFFSET" then offset g else pure []
  if ← keyword? "LIMIT" then
    let amount ← limit g
    let pair ←
      if g.dialect.limitCommas ∧ early.isEmpty ∧ amount.isSome then symbol? "," else pure false
    if pair then return clause "LIMIT" (amount.getD [] ++ comma ++ (← g.exprText))
    else
      let groups ←
        if g.dialect.name = .generic then clause? "BY" (g.list g.exprText) else pure []
      let late ←
        if early.isEmpty then
          if ← keyword? "OFFSET" then offset g else pure []
        else pure []
      return clauseOf "LIMIT" amount ++ early ++ late ++ groups
  else return early

/-- A number of rows to fetch, behind its word. -/
def fetch (g : Grammar) : Parser Text := do
  let _ ← oneOf? ["FIRST", "NEXT"]
  let amount ←
    match ← oneOf? ["ROW", "ROWS"] with
    | some _ => pure []
    | none => do
        let amount ← literalText g
        let percent ← phrase? [["PERCENT"]]
        let _ ← oneOf? ["ROW", "ROWS"]
        pure (' ' :: amount ++ percent)
  let ties ←
    if ← keyword? "ONLY" then pure false else keywords? ["WITH", "TIES"]
  return " FETCH FIRST".toList ++ amount ++ " ROWS".toList ++
    if ties then " WITH TIES".toList else " ONLY".toList

/-! ### Locks and forms -/

/-- A lock behind `FOR`. -/
def lock : Parser Text := do
  let kind ← oneOf ["UPDATE", "SHARE"]
  let tables ← clause? "OF" objectNameText
  let waiting ← phrase? [["NOWAIT"], ["SKIP", "LOCKED"]]
  return " FOR ".toList ++ kind ++ tables ++ waiting

/-- A name in parentheses and in quotes, if it is there. -/
def elementName? (g : Grammar) : Parser Text := do
  if ← peekSymbol "(" then
    let name ← parenthesized (stringContent g)
    return inParens ('\'' :: name ++ ['\''])
  else return []

/-- The choices of a structured form, each behind a comma. -/
structure FormChoices where
  root : Text := []
  elements : Bool := false
  base64 : Bool := false
  typed : Bool := false
  nulls : Bool := false
  unwrapped : Bool := false

/-- The name of the root element behind its word. -/
def rootName (g : Grammar) : Parser Text := do
  if ← peekSymbol "(" then elementName? g else fail

/-- A choice of the form in XML; without one of its words the choices stay as they are. -/
def xmlChoice (g : Grammar) (c : FormChoices) : Parser FormChoices := do
  if ← keyword? "ELEMENTS" then return { c with elements := true }
  else if ← keyword? "BINARY" then
    keyword "BASE64"
    return { c with base64 := true }
  else if ← keyword? "ROOT" then return { c with root := ", ROOT".toList ++ (← rootName g) }
  else if ← keyword? "TYPE" then return { c with typed := true }
  else return c

/-- A choice of the form in JSON; without one of its words the choices stay as they are. -/
def jsonChoice (g : Grammar) (c : FormChoices) : Parser FormChoices := do
  if ← keyword? "ROOT" then return { c with root := ", ROOT".toList ++ (← rootName g) }
  else if ← keyword? "INCLUDE_NULL_VALUES" then return { c with nulls := true }
  else if ← keyword? "WITHOUT_ARRAY_WRAPPER" then return { c with unwrapped := true }
  else return c

/-- Choices behind commas, at most as many as there is fuel. -/
def formChoices (choice : FormChoices → Parser FormChoices) : Nat → FormChoices → Parser FormChoices
  | 0, c => return c
  | fuel + 1, c => do
      if ← symbol? "," then formChoices choice fuel (← choice c) else return c

/-- A word behind a comma where a condition holds. -/
def furtherWord (word : String) (condition : Bool) : Text :=
  if condition then comma ++ word.toList else []

/-- The form of the answer in XML, behind the word. -/
def xmlForm (g : Grammar) : Parser Text := do
  let kind ← oneOf ["RAW", "AUTO", "EXPLICIT", "PATH"]
  let name ← textIf (["RAW", "PATH"].any fun w => w.toList == kind) (elementName? g)
  let c ← formChoices (xmlChoice g) ((← get).length + 1) {}
  return " FOR XML ".toList ++ kind ++ name ++ furtherWord "BINARY BASE64" c.base64 ++
    furtherWord "TYPE" c.typed ++ c.root ++ furtherWord "ELEMENTS" c.elements

/-- The form of the answer in JSON, behind the word. -/
def jsonForm (g : Grammar) : Parser Text := do
  let kind ← oneOf ["AUTO", "PATH"]
  let c ← formChoices (jsonChoice g) ((← get).length + 1) {}
  return " FOR JSON ".toList ++ kind ++ c.root ++ furtherWord "INCLUDE_NULL_VALUES" c.nulls ++
    furtherWord "WITHOUT_ARRAY_WRAPPER" c.unwrapped

/-- Locks and then the form of the answer, each behind `FOR`, at most as many as there is fuel. -/
def locksFrom (g : Grammar) : Nat → Parser Text
  | 0 => return []
  | fuel + 1 => do
      if !(← keyword? "FOR") then return []
      else if ← keyword? "XML" then xmlForm g
      else if ← keyword? "JSON" then jsonForm g
      else if ← keyword? "BROWSE" then return " FOR BROWSE".toList
      else return (← lock) ++ (← locksFrom g fuel)

/-- The format in which the rows are given, if it is said. -/
def format? : Parser Text := do
  if ← keyword? "FORMAT" then
    if ← keyword? "NULL" then return " FORMAT NULL".toList
    else return clause "FORMAT" (← identifierText)
  else return []

/-! ### Everything -/

/-- Everything behind the body of a query but steps. -/
def queryTail (g : Grammar) : Parser Text := do
  let isGeneric := g.dialect.name == .generic
  let order ← orderBy? g
  let limits ← limits g
  let settings ← textIf isGeneric (clause? "SETTINGS" (g.list (keyValue g)))
  let fetched ← if ← keyword? "FETCH" then fetch g else pure []
  let locks ← locksFrom g ((← get).length + 1)
  let format ← textIf isGeneric format?
  return order ++ limits ++ settings ++ fetched ++ locks ++ format

end Parser

end Sql

end Pushdown
