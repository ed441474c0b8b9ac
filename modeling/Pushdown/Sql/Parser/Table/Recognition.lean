/-
**Patterns of rows in SQL.**

Rows that follow each other are matched against a pattern, much like the characters of a text.  The
symbols of the pattern are conditions on a row.

Main definitions:

* `Sql.Parser.rowPattern` — a pattern;
* `Sql.Parser.recognized` — a table with a pattern of its rows.
-/

import Pushdown.Sql.Parser.Call

set_option autoImplicit false

namespace Pushdown

namespace Sql

namespace Parser

/-! ### Patterns -/

/-- The text of a repetition in braces behind the opening one. -/
def repetitionRange : Parser Text := do
  let inner ←
    if ← symbol? "," then (',' :: ·) <$> natural
    else do
      let low ← natural
      if ← symbol? "," then
        let high ← if ← peekSymbol "\x7d" then pure [] else natural
        pure (low ++ ',' :: high)
      else pure low
  symbol "\x7d"
  return '\x7b' :: inner ++ ['\x7d']

/-- How often a part of a pattern is repeated, if it is. -/
def repetition? : Parser (Option Text) := do
  match ← peek with
  | some (.symbol ['*']) => taken ['*']
  | some (.symbol ['+']) => taken ['+']
  | some (.placeholder ['?']) => taken ['?']
  | some (.symbol ['\x7b']) =>
      skip
      some <$> repetitionRange
  | _ => return none
where
  /-- Takes the sign of a repetition. -/
  taken (s : Text) : Parser (Option Text) := do
    skip
    return some s

/-- A part of a pattern that is not repeated: a symbol, an end of the rows, or a group. -/
def patternBase (g : Grammar) (inner : Parser Text) : Parser Text := do
  match ← peek with
  | some (.symbol ['^']) =>
      skip
      return ['^']
  | some (.placeholder ['$']) =>
      skip
      return ['$']
  | some (.symbol ['\x7b']) =>
      skip
      symbol "-"
      let name ← identifierText
      symbol "-"
      symbol "\x7d"
      return "\x7b- ".toList ++ name ++ " -\x7d".toList
  | some (.symbol ['(']) =>
      skip
      let text ← inner
      symbol ")"
      return "( ".toList ++ text ++ " )".toList
  | token =>
      if token = some (.word "PERMUTE".toList none) then
        skip
        return "PERMUTE".toList ++ (← g.listInParens identifierText)
      else identifierText

/-- A part of a pattern with its repetitions. -/
def patternPart (g : Grammar) (inner : Parser Text) : Parser Text :=
  return (← patternBase g inner) ++ (← repeated repetition?).flatten

/-- A further part of a sequence, if it does not end. -/
def furtherPatternPart? (g : Grammar) (inner : Parser Text) : Parser (Option Text) := do
  if (← peekSymbol ")") || (← peekSymbol "|") then return none
  else return some (' ' :: (← patternPart g inner))

/-- A pattern: a sequence of parts, or a choice of sequences.  It is nested at most as deep, and has
at most as many choices, as there is fuel. -/
def rowPatternFrom (g : Grammar) : Nat → Parser Text
  | 0 => fail
  | fuel + 1 => do
      let first ← patternPart g (rowPatternFrom g fuel)
      let others ← repeated (furtherPatternPart? g (rowPatternFrom g fuel))
      let sequence := first ++ others.flatten
      if ← symbol? "|" then return sequence ++ " | ".toList ++ (← rowPatternFrom g fuel)
      else return sequence

/-- A pattern. -/
def rowPattern (g : Grammar) : Parser Text := do rowPatternFrom g ((← get).length + 1)

/-! ### Clauses -/

/-- A value that is computed from the matched rows, and its name. -/
def measure (g : Grammar) : Parser Text := do
  let value ← g.exprText
  let _ ← keyword? "AS"
  return value ++ clause "AS" (← identifierText)

/-- Which rows are given for a match, if it is said. -/
def rowsPerMatch? : Parser Text := do
  if ← keywords? ["ONE", "ROW", "PER", "MATCH"] then return "ONE ROW PER MATCH".toList
  else if ← keywords? ["ALL", "ROWS", "PER", "MATCH"] then
    return "ALL ROWS PER MATCH".toList ++ (← phrase?
      [["SHOW", "EMPTY", "MATCHES"], ["OMIT", "EMPTY", "MATCHES"], ["WITH", "UNMATCHED", "ROWS"]])
  else return []

/-- Where the search goes on behind a match, if it is said. -/
def afterMatch? : Parser Text := do
  if ← keywords? ["AFTER", "MATCH", "SKIP"] then
    let front := "AFTER MATCH SKIP ".toList
    if ← keywords? ["PAST", "LAST", "ROW"] then return front ++ "PAST LAST ROW".toList
    else if ← keywords? ["TO", "NEXT", "ROW"] then return front ++ " TO NEXT ROW".toList
    else if ← keywords? ["TO", "FIRST"] then
      return front ++ "TO FIRST ".toList ++ (← identifierText)
    else
      keywords ["TO", "LAST"]
      return front ++ "TO LAST ".toList ++ (← identifierText)
  else return []

/-- A symbol of the pattern and its condition. -/
def patternSymbol (g : Grammar) : Parser Text := do
  let name ← identifierText
  keyword "AS"
  return name ++ clause "AS" (← g.exprText)

/-- A table with a pattern of its rows, behind the word. -/
def recognition (g : Grammar) (table : Text) : Parser TableFactor := do
  let inner ← parenthesized do
    let partition ← listBehind g ["PARTITION", "BY"] g.exprText
    let order ← listBehind g ["ORDER", "BY"] (orderItem g)
    let measures ← behind "MEASURES" (g.list (measure g))
    let rows ← rowsPerMatch?
    let after ← afterMatch?
    keyword "PATTERN"
    let pattern ← parenthesized (rowPattern g)
    keyword "DEFINE"
    let symbols ← g.list (patternSymbol g)
    return spaced [partition, order, measures, rows, after, "PATTERN".toList, inParens pattern,
      "DEFINE".toList, symbols]
  return .other (table ++ " MATCH_RECOGNIZE".toList ++ inParens inner) (← tableAlias? g) []

/-- A table with a pattern of its rows, if there is one. -/
def recognized (g : Grammar) (table : TableFactor) : Parser TableFactor := do
  if ← keywordIf? (g.dialect.name == .generic) "MATCH_RECOGNIZE" then recognition g table.render
  else return table

end Parser

end Sql

end Pushdown
