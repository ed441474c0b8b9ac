/-
**SQL dialects.**

A dialect is a record of the choices in which the six dialects differ: which characters names are
made of, which literals exist, how tightly operators bind, and which clauses are allowed.

Main definitions:

* `Sql.Strengths` — how tightly each class of operators binds;
* `Sql.Dialect` — the record of choices;
* `DialectName.dialect` — the record of each dialect.
-/

import Pushdown.Config.Basic
import Pushdown.Text.Letter
import Pushdown.Text.Numeral

set_option autoImplicit false

namespace Pushdown

namespace Sql

/-- How tightly each class of operators binds; a greater number binds tighter. -/
structure Strengths where
  period : Nat
  cast : Nat
  subscript : Nat
  collate : Nat
  atTimeZone : Nat
  product : Nat
  sum : Nat
  xor : Nat
  ampersand : Nat
  caret : Nat
  pipe : Nat
  between : Nat
  comparison : Nat
  like : Nat
  is : Nat
  /-- String concatenation. -/
  concat : Nat
  /-- Shifts and the sign `#`. -/
  shift : Nat
  /-- Arrows and operators of the dialect's own. -/
  arrow : Nat
  not : Nat
  and : Nat
  or : Nat

/-- The strengths of most dialects. -/
def Strengths.common : Strengths where
  period := 100
  cast := 50
  subscript := 50
  collate := 42
  atTimeZone := 41
  product := 40
  sum := 30
  xor := 24
  ampersand := 23
  caret := 22
  pipe := 21
  between := 20
  comparison := 20
  like := 19
  is := 17
  concat := 40
  shift := 22
  arrow := 16
  not := 15
  and := 10
  or := 5

/-- The strengths of PostgreSQL. -/
def Strengths.postgresql : Strengths where
  period := 200
  cast := 140
  subscript := 130
  collate := 120
  atTimeZone := 110
  product := 90
  sum := 80
  xor := 75
  ampersand := 70
  caret := 100
  pipe := 70
  between := 60
  comparison := 50
  like := 60
  is := 40
  concat := 70
  shift := 70
  arrow := 70
  not := 30
  and := 20
  or := 10

/-- The choices in which dialects differ. -/
structure Dialect where
  name : DialectName
  /-- A character that starts an unquoted name. -/
  startsName : Char → Bool
  /-- A further character of an unquoted name. -/
  continuesName : Char → Bool
  /-- The quotes of names. -/
  nameQuotes : List Char
  /-- How tightly operators bind. -/
  strengths : Strengths
  /-- A backslash in a string escapes the next character. -/
  backslashEscapes : Bool
  /-- Strings next to each other are one string. -/
  joinsStrings : Bool
  /-- A `#` starts a comment. -/
  hashComments : Bool
  /-- A space has to follow the two dashes of a comment. -/
  spacedComments : Bool
  /-- Comments nest. -/
  nestedComments : Bool
  /-- A comment that starts with an exclamation mark holds tokens. -/
  telltaleComments : Bool
  /-- A name may start with digits. -/
  numericNames : Bool
  /-- An underscore may stand between the digits of a number. -/
  spacedNumbers : Bool
  /-- Strings behind `B`. -/
  byteStrings : Bool
  /-- Strings behind `R`. -/
  rawStrings : Bool
  /-- Strings behind `E`. -/
  escapeStrings : Bool
  /-- Strings behind `U&`. -/
  unicodeStrings : Bool
  /-- A `$` starts a placeholder and never a string. -/
  dollarPlaceholders : Bool
  /-- Signs run together into operators of the dialect's own. -/
  customOperators : Bool
  /-- The operator `//`. -/
  doubleSlash : Bool
  /-- The operator `&&`. -/
  overlap : Bool
  /-- Steps behind `|>` may follow a query. -/
  pipeSteps : Bool
  /-- The operators `<<` and `>>`. -/
  shifts : Bool
  /-- The operator `NOTNULL`. -/
  notNullOperator : Bool
  /-- The operators `MATCH` and `REGEXP`, with everything behind them as operand. -/
  matchOperators : Bool
  /-- The operator `DIV`, with everything behind it as operand. -/
  divOperator : Bool
  /-- An interval needs a unit. -/
  intervalUnits : Bool
  /-- Functions of one lambda parameter. -/
  lambdas : Bool
  /-- The words for users and catalogs are expressions. -/
  sessionWords : Bool
  /-- A call may be filtered by a condition. -/
  callFilters : Bool
  /-- A list in parentheses behind `IN` may be empty. -/
  emptyInLists : Bool
  /-- A list may end in a comma. -/
  trailingCommas : Bool
  /-- A query may start with `FROM`. -/
  fromFirst : Bool
  /-- A query may select no column. -/
  emptyProjections : Bool
  /-- `LIMIT` may give an offset before a comma. -/
  limitCommas : Bool
  /-- A single table may stand in parentheses. -/
  parenthesizedTables : Bool
  /-- `VALUES` may stand for a table. -/
  valuesTables : Bool
  /-- `UNNEST` may stand for a table. -/
  unnestTables : Bool
  /-- `GROUPING SETS`, `CUBE` and `ROLLUP` are groupings. -/
  groupingSets : Bool
  /-- `WITH ROLLUP` and its like may follow a grouping. -/
  groupModifiers : Bool
  /-- Types may be followed by brackets. -/
  arrayTypes : Bool
  /-- A common table may be marked as materialized. -/
  materialized : Bool
  /-- `EXCLUDE` may follow a star. -/
  excludeColumns : Bool
  /-- `EXCEPT` may follow a star. -/
  exceptColumns : Bool

namespace Dialect

/-- A letter or one of some signs. -/
def isLetterOr (signs : Text) (c : Char) : Bool := Text.isLetter c || signs.contains c

/-- A character outside ASCII. -/
def isWide (c : Char) : Bool := 0x80 ≤ c.toNat

/-- Names and literals of the SQL standard, and no extension. -/
def ansi : Dialect where
  name := .ansi
  startsName := Char.isAlpha
  continuesName c := c.isAlphanum || c = '_'
  nameQuotes := ['"', '\x60']
  strengths := .common
  backslashEscapes := false
  joinsStrings := false
  hashComments := false
  spacedComments := false
  nestedComments := true
  telltaleComments := false
  numericNames := false
  spacedNumbers := false
  byteStrings := false
  rawStrings := false
  escapeStrings := false
  unicodeStrings := false
  dollarPlaceholders := false
  customOperators := false
  doubleSlash := false
  overlap := false
  pipeSteps := false
  shifts := false
  notNullOperator := false
  matchOperators := false
  divOperator := false
  intervalUnits := true
  lambdas := false
  sessionWords := false
  callFilters := false
  emptyInLists := false
  trailingCommas := false
  fromFirst := false
  emptyProjections := false
  limitCommas := false
  parenthesizedTables := false
  valuesTables := false
  unnestTables := false
  groupingSets := false
  groupModifiers := false
  arrayTypes := false
  materialized := false
  excludeColumns := false
  exceptColumns := false

/-- The most permissive dialect. -/
def generic : Dialect :=
  { ansi with
    name := .generic
    startsName := isLetterOr ['_', '#', '@']
    continuesName := fun c => isLetterOr ['_', '#', '@', '$'] c || c.isDigit
    intervalUnits := false
    byteStrings := true
    rawStrings := true
    escapeStrings := true
    unicodeStrings := true
    doubleSlash := true
    overlap := true
    pipeSteps := true
    shifts := true
    sessionWords := true
    callFilters := true
    fromFirst := true
    emptyProjections := true
    limitCommas := true
    parenthesizedTables := true
    valuesTables := true
    unnestTables := true
    groupingSets := true
    groupModifiers := true
    arrayTypes := true
    excludeColumns := true
    exceptColumns := true }

/-- PostgreSQL. -/
def postgresql : Dialect :=
  { ansi with
    name := .postgresql
    startsName := fun c => isLetterOr ['_'] c || isWide c
    continuesName := fun c => isLetterOr ['_', '$'] c || c.isDigit || isWide c
    nameQuotes := ['"']
    spacedNumbers := true
    strengths := .postgresql
    intervalUnits := false
    byteStrings := true
    escapeStrings := true
    unicodeStrings := true
    customOperators := true
    overlap := true
    shifts := true
    notNullOperator := true
    sessionWords := true
    callFilters := true
    emptyProjections := true
    unnestTables := true
    groupingSets := true
    arrayTypes := true
    materialized := true }

/-- MySQL. -/
def mysql : Dialect :=
  { ansi with
    name := .mysql
    startsName := fun c => isLetterOr ['_', '$', '@'] c || isWide c
    continuesName := fun c => isLetterOr ['_', '$', '@'] c || c.isDigit || isWide c
    nameQuotes := ['\x60']
    nestedComments := false
    telltaleComments := true
    backslashEscapes := true
    joinsStrings := true
    hashComments := true
    spacedComments := true
    numericNames := true
    byteStrings := true
    divOperator := true
    limitCommas := true }

/-- SQLite. -/
def sqlite : Dialect :=
  { ansi with
    name := .sqlite
    startsName := fun c => c.isAlpha || c = '_' || (0x7F ≤ c.toNat && c.toNat ≤ 0xFFFF)
    continuesName := fun c => c.isAlphanum || c = '_' || (0x7F ≤ c.toNat && c.toNat ≤ 0xFFFF)
    nameQuotes := ['"', '\x60', '[']
    nestedComments := false
    intervalUnits := false
    dollarPlaceholders := true
    notNullOperator := true
    matchOperators := true
    callFilters := true
    emptyInLists := true
    limitCommas := true }

/-- DuckDB. -/
def duckdb : Dialect :=
  { ansi with
    name := .duckdb
    startsName := isLetterOr ['_']
    continuesName := fun c => isLetterOr ['_', '$'] c || c.isDigit
    nestedComments := false
    intervalUnits := false
    doubleSlash := true
    shifts := true
    notNullOperator := true
    lambdas := true
    callFilters := true
    trailingCommas := true
    fromFirst := true
    groupingSets := true
    arrayTypes := true
    excludeColumns := true }

end Dialect

end Sql

/-- The choices of a dialect. -/
def DialectName.dialect : DialectName → Sql.Dialect
  | generic => .generic
  | postgresql => .postgresql
  | mysql => .mysql
  | sqlite => .sqlite
  | ansi => .ansi
  | duckdb => .duckdb

end Pushdown
