/-
**Samples of tables in SQL.**

A sample takes part of the rows of a table: a number of them, a share, or one of several buckets.

Main definitions:

* `Sql.Parser.sample` — a sample;
* `Sql.Parser.sample?` — a sample, if one is taken.
-/

import Pushdown.Sql.Parser.Call

set_option autoImplicit false

namespace Pushdown

namespace Sql

namespace Parser

/-- The amount of rows to take: an expression, or a word. -/
def sampleAmount (g : Grammar) : Parser Text := do
  match ← attempt g.exprText with
  | some text => return text
  | none =>
      match ← next with
      | .word text _ => return text
      | _ => fail

/-- One of several buckets, behind the word. -/
def bucket (g : Grammar) : Parser Text := do
  let chosen ← unsignedNumber g
  keywords ["OUT", "OF"]
  let total ← unsignedNumber g
  return "BUCKET ".toList ++ chosen ++ " OUT OF ".toList ++ total ++ (← clause? "ON" g.exprText)

/-- The amount with its unit. -/
def sampleQuantity (g : Grammar) : Parser Text :=
  return (← sampleAmount g) ++ markOf (← oneOf? ["ROWS", "PERCENT"])

/-- A seed of the choice, if it is given. -/
def seed? (g : Grammar) : Parser Text := do
  match ← oneOf? ["REPEATABLE", "SEED"] with
  | some word => return ' ' :: word ++ ' ' :: inParens (← parenthesized (unsignedNumber g))
  | none => return []

/-- A sample behind its word, with a blank in front. -/
def sample (g : Grammar) : Parser Text := do
  let method := markOf (← oneOf? ["BERNOULLI", "ROW", "SYSTEM", "BLOCK"])
  if ← symbol? "(" then
    if ← keyword? "BUCKET" then
      let text ← bucket g
      symbol ")"
      -- The seed of a bucket is written in front of it.
      let seed ← seed? g
      return method ++ seed ++ ' ' :: inParens text ++ (← clause? "OFFSET" g.exprText)
    else
      let text ← sampleQuantity g
      symbol ")"
      return method ++ ' ' :: inParens text ++ (← seed? g) ++ (← clause? "OFFSET" g.exprText)
  else
    let text ← sampleQuantity g
    return method ++ ' ' :: text ++ (← seed? g) ++ (← clause? "OFFSET" g.exprText)

/-- A sample with a blank in front, if one is taken. -/
def sample? (g : Grammar) : Parser Text := do
  match ← oneOf? ["TABLESAMPLE", "SAMPLE"] with
  | none => return []
  | some word => return ' ' :: word ++ (← sample g)

end Parser

end Sql

end Pushdown
