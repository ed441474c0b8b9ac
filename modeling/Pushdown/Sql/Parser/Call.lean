/-
**Function calls in SQL.**

A call is a name with arguments in parentheses and, behind them, the clauses of aggregates and
window functions.  An argument is an expression, a star, or a name and a value.

Main definitions:

* `Sql.Parser.wildcardOr` — a star, or else an expression;
* `Sql.Parser.arguments` — the arguments of a call;
* `Sql.Parser.call` — a function call.
-/

import Pushdown.Sql.Parser.Window

set_option autoImplicit false

namespace Pushdown

namespace Sql

namespace Parser

/-! ### Stars -/

/-- The names before a qualified star, up to the star itself. -/
def wildcardParts : Nat → List Ident → Parser (Option Text)
  | 0, _ => fail
  | fuel + 1, parts => do
      if ← symbol? "." then
        match ← next with
        | .word text quote => wildcardParts fuel (parts ++ [⟨text, quote⟩])
        | .string .single content => wildcardParts fuel (parts ++ [⟨content, some '\''⟩])
        | .placeholder text => wildcardParts fuel (parts ++ [⟨text, none⟩])
        | .symbol ['*'] => return some (renderName parts ++ ".*".toList)
        | _ => fail
      else return none

/-- A star with names in front of it, if one is there. -/
def qualifiedWildcard : Parser (Option Text) := do
  let fuel := (← get).length + 1
  match ← next with
  | .word text quote => wildcardParts fuel [⟨text, quote⟩]
  | .string .single content => wildcardParts fuel [⟨content, some '\''⟩]
  | .symbol ['*'] => return some ['*']
  | _ => return none

/-- A star, or else an expression. -/
def wildcardOr (g : Grammar) : Parser (Text ⊕ Expr) := do
  let tokens ← get
  match ← qualifiedWildcard with
  | some text => return .inl text
  | none =>
      set tokens
      .inr <$> g.expr

/-! ### Arguments -/

/-- The operator between the name of an argument and its value, if it is there. -/
def argumentOperator? (g : Grammar) : Parser (Option Text) := do
  if ← keyword? "VALUE" then return some "VALUE".toList
  else if ← symbol? "=>" then return some "=>".toList
  else
    match ← peek with
    | some (.symbol ['=']) => taken (g.dialect.name == .duckdb) ['=']
    | some (.symbol [':', '=']) => taken (g.speaks [.duckdb, .generic]) ":=".toList
    | some (.colon _) => taken (g.dialect.name == .postgresql) [':']
    | _ => return none
where
  /-- Takes an operator where the dialect has it. -/
  taken (allowed : Bool) (s : Text) : Parser (Option Text) := do
    if allowed then
      skip
      return some s
    else return none

/-- A star or an expression, as text. -/
def wildcardText (g : Grammar) : Parser Text := do
  match ← wildcardOr g with
  | .inl text => return text
  | .inr e => return e.render

/-- The value of an argument behind its name. -/
def namedValue (g : Grammar) : Parser Text := do
  match ← argumentOperator? g with
  | some op => return ' ' :: op ++ ' ' :: (← wildcardText g)
  | none => fail

/-- An argument.  In PostgreSQL any expression may name it, elsewhere any word. -/
def argument (g : Grammar) : Parser Text := do
  if g.dialect.name = .postgresql then
    let text ← wildcardText g
    if text = ['*'] then return text else return text ++ (← orNothing (namedValue g))
  else orTry (do return (← identifierText) ++ (← namedValue g)) (wildcardText g)

/-- `IGNORE NULLS` and its opposite, if they are there. -/
def nullTreatment? : Parser Text := do
  match ← oneOf? ["RESPECT", "IGNORE"] with
  | some word =>
      keyword "NULLS"
      return word ++ " NULLS".toList
  | none => return []

/-- A keyword and a text behind it, if the keyword is there. -/
def behind (word : String) (p : Parser Text) : Parser Text := do
  if ← keyword? word then return word.toList ++ ' ' :: (← p) else return []

/-- What happens to nulls in a structured value, if it is said. -/
def nullMembers? : Parser Text := do
  if ← keywords? ["ABSENT", "ON", "NULL"] then return "ABSENT ON NULL".toList
  else if ← keywords? ["NULL", "ON", "NULL"] then return "NULL ON NULL".toList
  else return []

/-- Whether a token is a string that may fill up a cut list. -/
def isFiller : Option Token → Bool
  | some (.string .single _) => true
  | some (.string .escaped _) => true
  | some (.string .unicode _) => true
  | some (.string .national _) => true
  | some (.string .hex _) => true
  | _ => false

/-- What happens to a list that is too long, if it is said. -/
def overflow? (g : Grammar) : Parser Text := do
  if ← keywords? ["ON", "OVERFLOW"] then
    if ← keyword? "ERROR" then return "ON OVERFLOW ERROR".toList
    else
      keyword "TRUNCATE"
      let token ← peek
      let filler ←
        if isFiller token then (' ' :: ·) <$> g.exprText
        else if isAnyKeyword ["WITH", "WITHOUT"] token then pure []
        else fail
      let manner ← oneOf ["WITH", "WITHOUT"]
      keyword "COUNT"
      return "ON OVERFLOW TRUNCATE".toList ++ filler ++ ' ' :: manner ++ " COUNT".toList
  else return []

/-- The bound of an aggregate behind `HAVING`. -/
def havingBound (g : Grammar) : Parser Text := do
  let kind ← oneOf ["MIN", "MAX"]
  return kind ++ ' ' :: (← g.exprText)

/-- The arguments of a call behind the opening parenthesis, up to and with the closing one, and
whether they say how nulls are treated. -/
def arguments (g : Grammar) : Parser (Text × Bool) := do
  let members ← nullMembers?
  let type ← behind "RETURNING" (dataTypeText g)
  if ← symbol? ")" then return (inParens (spaced [members, type]), false)
  else
    let treatment ← oneOf? ["ALL", "DISTINCT"]
    if treatment = some "ALL".toList ∧ (← peekKeyword "DISTINCT") then fail
    let items ← g.list (argument g)
    let nulls ← textIf (g.dialect.name = .generic) nullTreatment?
    let order ← listBehind g ["ORDER", "BY"] (orderItem g)
    let limit ← behind "LIMIT" g.exprText
    let bound ← textIf (g.dialect.name = .generic) (behind "HAVING" (havingBound g))
    let separator ← textIf (g.speaks [.generic, .mysql]) (behind "SEPARATOR" (literalText g))
    let overflow ← overflow? g
    let lastMembers ← nullMembers?
    let lastType ← behind "RETURNING" (dataTypeText g)
    symbol ")"
    return (inParens (spaced [treatment.getD [], items, members, type, nulls, order, limit, bound,
      separator, overflow, lastMembers, lastType]), !nulls.isEmpty)

/-- The arguments of a call behind the opening parenthesis, as text. -/
def argumentsText (g : Grammar) : Parser Text := Prod.fst <$> arguments g

/-! ### Calls -/

/-- The condition behind `FILTER`, if it is there.  The word is passed over with what follows it as
far as it fits. -/
def callFilter? (g : Grammar) : Parser Text := do
  if !g.dialect.callFilters then return []
  else if !(← keyword? "FILTER") then return []
  else if !(← symbol? "(") then return []
  else if !(← keyword? "WHERE") then return []
  else
    let condition ← g.exprText
    symbol ")"
    return "FILTER ".toList ++ inParens ("WHERE ".toList ++ condition)

/-- The order behind `WITHIN GROUP`, if it is there. -/
def withinGroup? (g : Grammar) : Parser Text := do
  if ← keywords? ["WITHIN", "GROUP"] then
    let order ← parenthesized do
      keywords ["ORDER", "BY"]
      g.list (orderItem g)
    return "WITHIN GROUP ".toList ++ inParens ("ORDER BY ".toList ++ order)
  else return []

/-- The window behind `OVER`, if it is there. -/
def over? (g : Grammar) : Parser Text := do
  if ← keyword? "OVER" then
    if ← symbol? "(" then return "OVER ".toList ++ inParens (← windowSpec g)
    else return "OVER ".toList ++ (← identifierText)
  else return []

/-- A call behind the name of its function, as text. -/
def callText (g : Grammar) (name : Text) : Parser Text := do
  symbol "("
  let (first, treated) ← arguments g
  let again ← if g.dialect.name = .generic then symbol? "(" else pure false
  let (second, treated) ← if again then arguments g else pure ([], treated)
  let group ← withinGroup? g
  let filter ← callFilter? g
  let nulls ← textIf (!treated) nullTreatment?
  let window ← over? g
  return spaced [name ++ first ++ second, group, filter, nulls, window]

/-- A call behind the name of its function. -/
def call (g : Grammar) (name : Text) : Parser Expr := Expr.call <$> callText g name

end Parser

end Sql

end Pushdown
