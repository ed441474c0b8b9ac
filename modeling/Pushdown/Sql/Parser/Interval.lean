/-
**Intervals in SQL.**

An interval is an expression behind `INTERVAL` and the unit of time that it counts.  The units are
also the parts that a date has.

Main definitions:

* `Sql.Parser.timeField` — a part of a date;
* `Sql.Parser.interval` — an interval.
-/

import Pushdown.Sql.Parser.Alias

set_option autoImplicit false

namespace Pushdown

namespace Sql

namespace Parser

/-- The words of a unit that a number of an interval may have. -/
def timeUnits : List String :=
  ["YEAR", "YEARS", "MONTH", "MONTHS", "WEEK", "WEEKS", "DAY", "DAYS", "HOUR", "HOURS",
    "MINUTE", "MINUTES", "SECOND", "SECONDS", "CENTURY", "DECADE", "DOW", "DOY", "EPOCH", "ISODOW",
    "ISOYEAR", "JULIAN", "MICROSECOND", "MICROSECONDS", "MILLENIUM", "MILLENNIUM", "MILLISECOND",
    "MILLISECONDS", "NANOSECOND", "NANOSECONDS", "QUARTER", "TIMEZONE", "TIMEZONE_HOUR",
    "TIMEZONE_MINUTE"]

/-- Further words for a part of a date. -/
def dateParts : List String :=
  ["DAYOFWEEK", "DAYOFYEAR", "DATE", "DATETIME", "ISOWEEK", "TIME", "TIMEZONE_ABBR",
    "TIMEZONE_REGION"]

/-- A part of a date: a unit of time, or in some dialects another name. -/
def timeField (g : Grammar) : Parser Text := do
  match ← oneOf? (timeUnits ++ dateParts) with
  | some unit =>
      if ← symbolIf? (unit == "WEEK".toList && g.dialect.name == .generic) "(" then
        let day ← identifierText
        symbol ")"
        return unit ++ inParens day
      else return unit
  | none =>
      match ← peek with
      | some (.word _ _) => if g.speaks [.postgresql, .generic] then identifierText else fail
      | some (.string .single _) =>
          if g.speaks [.postgresql, .generic] then identifierText else fail
      | _ => fail

/-- A precision in parentheses with a blank in front, if it is there. -/
def spacedPrecision? : Parser Text := do
  let precision ← precision?
  return if precision.isEmpty then [] else ' ' :: precision

/-- The end of an interval behind its first unit, if it has one. -/
def intervalEnd (g : Grammar) (unit : Text) : Parser Text := do
  if unit = "SECOND".toList then
    if ← symbol? "(" then
      let first ← natural
      let second ← if ← symbol? "," then (comma ++ ·) <$> natural else pure []
      symbol ")"
      return ' ' :: inParens (first ++ second)
    else return []
  else
    let precision ← spacedPrecision?
    if ← keyword? "TO" then
      let last ← timeField g
      let fraction ← textIf (last = "SECOND".toList) spacedPrecision?
      return precision ++ " TO ".toList ++ last ++ fraction
    else return precision

/-- An interval behind its keyword. -/
def interval (g : Grammar) : Parser Text := do
  let value ← Expr.render <$> if g.dialect.intervalUnits then g.expr else g.prime
  if isAnyKeyword timeUnits (← peek) then
    let unit ← timeField g
    return "INTERVAL ".toList ++ value ++ ' ' :: unit ++ (← intervalEnd g unit)
  else if g.dialect.intervalUnits then fail
  else return "INTERVAL ".toList ++ value ++ (← intervalEnd g [])

end Parser

end Sql

end Pushdown
