/-
**How the rows of a table are stored.**

Behind its columns a table says how its rows are divided, in which format they are written and where
they are kept, and gives further options of the storage engine.

Main definitions:

* `Sql.Parser.storage` — the format of the rows and the place of a table;
* `Sql.Parser.plainOptions` — options of the storage engine;
* `Sql.Parser.tableSettings` — the options of a table.
-/

import Pushdown.Sql.Parser.Definition.Column

set_option autoImplicit false

namespace Pushdown

namespace Sql

namespace Parser

/-! ### Formats -/

/-- What separates the parts of a row, if it is said. -/
def rowDelimiter? : Parser (Option Text) := do
  let words ← phrase? [["FIELDS", "TERMINATED", "BY"], ["COLLECTION", "ITEMS", "TERMINATED", "BY"],
    ["MAP", "KEYS", "TERMINATED", "BY"], ["LINES", "TERMINATED", "BY"], ["NULL", "DEFINED", "AS"]]
  if words.isEmpty then return none
  else
    let sign ← identifierText
    let escape ←
      textIf (words = " FIELDS TERMINATED BY".toList)
        (clauseBehind? ["ESCAPED", "BY"] identifierText)
    return some (words ++ ' ' :: sign ++ escape)

/-- The format of rows, behind the word. -/
def rowFormat (g : Grammar) : Parser Text := do
  keyword "FORMAT"
  if ← keyword? "SERDE" then return " ROW FORMAT SERDE ".toList ++ (← rawQuotedText g)
  else
    let _ ← keyword? "DELIMITED"
    return " ROW FORMAT DELIMITED".toList ++ (← repeated rowDelimiter?).flatten

/-- How the rows of a table are written, and where. -/
structure Storage where
  rows : Text := []
  /-- Formats of reading and of writing. -/
  inOut : Text := []
  file : Text := []
  location : Text := []
  properties : Text := []

/-- A format behind `STORED AS`; it takes the place of an earlier one. -/
def storedAs (g : Grammar) (s : Storage) : Parser Storage := do
  if ← keyword? "INPUTFORMAT" then
    let reading ← g.exprText
    keyword "OUTPUTFORMAT"
    let writing ← g.exprText
    let text := clause "STORED AS INPUTFORMAT" reading ++ clause "OUTPUTFORMAT" writing
    return { s with inOut := text, file := [] }
  else
    let format ← fileFormat
    return { s with inOut := [], file := clause "STORED AS" format }

/-- How the rows of a table are written, in any order, as far as there is fuel. -/
def storageFrom (g : Grammar) : Nat → Storage → Parser Storage
  | 0, s => return s
  | fuel + 1, s => do
      if ← keyword? "ROW" then storageFrom g fuel { s with rows := ← rowFormat g }
      else if ← keyword? "STORED" then
        keyword "AS"
        storageFrom g fuel (← storedAs g s)
      else if ← keyword? "LOCATION" then
        storageFrom g fuel { s with location := clause "LOCATION" (← rawQuotedText g) }
      else if ← keywords? ["WITH", "SERDEPROPERTIES"] then
        let options ← g.listInParens (tableOption g)
        storageFrom g fuel { s with properties := clause "WITH SERDEPROPERTIES" options }
      else return s

/-- How the rows of a table are written, if it is said. -/
def storage (g : Grammar) : Parser Storage := do storageFrom g ((← get).length + 1) {}

/-- The text of a storage. -/
def Storage.render (s : Storage) : Text := s.rows ++ s.inOut ++ s.file ++ s.properties ++ s.location

/-- The text of a storage outside the database, where the place stands behind the format. -/
def Storage.renderExternal (s : Storage) : Text :=
  s.rows ++ s.inOut ++ s.properties ++ s.file ++ s.location

/-- The columns by which a table is divided, if they are given. -/
def partitioned? (g : Grammar) : Parser Text :=
  clauseBehind? ["PARTITIONED", "BY"] (g.listInParens g.column)

/-- The buckets of a table, if there are some. -/
def buckets? (g : Grammar) : Parser Text := do
  if ← keywordsIf? (g.dialect.name == .generic) ["CLUSTERED", "BY"] then
    let columns ← parenthesizedNames g
    let order ← clauseBehind? ["SORTED", "BY"] (g.listInParens (orderItem g))
    keyword "INTO"
    let number ← unsignedNumber g
    keyword "BUCKETS"
    return " CLUSTERED BY ".toList ++ columns ++ order ++ clause "INTO" number ++ " BUCKETS".toList
  else return []

/-! ### Options -/

/-- The words of options that have a value. -/
def valueOptions : List (List String) :=
  [["DEFAULT", "CHARSET"], ["CHARSET"], ["DEFAULT", "CHARACTER", "SET"], ["CHARACTER", "SET"],
    ["DEFAULT", "COLLATE"], ["COLLATE"], ["DATA", "DIRECTORY"], ["INDEX", "DIRECTORY"],
    ["KEY_BLOCK_SIZE"], ["ROW_FORMAT"], ["PACK_KEYS"], ["STATS_AUTO_RECALC"],
    ["STATS_PERSISTENT"], ["STATS_SAMPLE_PAGES"], ["DELAY_KEY_WRITE"], ["COMPRESSION"],
    ["ENCRYPTION"], ["MAX_ROWS"], ["MIN_ROWS"], ["AUTOEXTEND_SIZE"], ["AVG_ROW_LENGTH"],
    ["CHECKSUM"], ["CONNECTION"], ["ENGINE_ATTRIBUTE"], ["PASSWORD"],
    ["SECONDARY_ENGINE_ATTRIBUTE"], ["INSERT_METHOD"], ["AUTO_INCREMENT"]]

/-- The storage engine, behind the word. -/
def engine (g : Grammar) : Parser Text := do
  let _ ← symbol? "="
  match ← next with
  | .word name _ =>
      let columns ← if ← peekSymbol "(" then parenthesizedNames g else pure []
      return " ENGINE = ".toList ++ name ++ columns
  | _ => fail

/-- The place of a table, behind the word. -/
def tablespace : Parser Text := do
  let _ ← symbol? "="
  let name ←
    match ← next with
    | .word name _ => pure name
    | .string .single name => pure name
    | _ => fail
  if ← keyword? "STORAGE" then
    let _ ← symbol? "="
    match ← next with
    | .word kind _ =>
        let kind := Keyword.capitals kind
        if kind = "DISK".toList ∨ kind = "MEMORY".toList then
          return clause "TABLESPACE" name ++ clause "STORAGE" kind
        else fail
    | _ => fail
  else return clause "TABLESPACE" name

/-- A remark on a table, behind the word. -/
def tableRemark : Parser Text := do
  let sign := if ← symbol? "=" then " = " else " "
  match ← next with
  | .string .single content =>
      return " COMMENT".toList ++ sign.toList ++ '\'' :: content ++ ['\'']
  | _ => fail

/-- An option of the storage engine with a blank in front, if there is one. -/
def plainOption? (g : Grammar) : Parser (Option Text) := do
  if ← keywords? ["START", "TRANSACTION"] then return some " START TRANSACTION".toList
  else if ← keyword? "COMMENT" then some <$> tableRemark
  else if ← keyword? "ENGINE" then some <$> engine g
  else if ← keyword? "TABLESPACE" then some <$> tablespace
  else if ← keyword? "UNION" then
    let _ ← symbol? "="
    symbol "("
    let tables ← commaSeparatedUnless g.dialect ")" identifierText
    symbol ")"
    return some (" UNION = ".toList ++ if tables.isEmpty then [] else inParens (listed tables))
  else
    let words ← phrase? valueOptions
    if words.isEmpty then return none
    else
      let _ ← symbol? "="
      return some (words ++ " = ".toList ++ (← orTry (literalText g) identifierText))

/-- Options of the storage engine, at most as many as there is fuel; a comma may stand behind
each. -/
def plainOptionsFrom (g : Grammar) : Nat → Parser Text
  | 0 => return []
  | fuel + 1 => do
      match ← plainOption? g with
      | none => return []
      | some text =>
          let _ ← symbol? ","
          return text ++ (← plainOptionsFrom g fuel)

/-- Options of the storage engine. -/
def plainOptions (g : Grammar) : Parser Text := do plainOptionsFrom g ((← get).length + 1)

/-- Options in parentheses behind a word, or nothing if there are none. -/
def someOptions? (g : Grammar) (word : String) : Parser Text := do
  if ← keyword? word then
    symbol "("
    let options ← commaSeparatedUnless g.dialect ")" (tableOption g)
    symbol ")"
    return if options.isEmpty then [] else clause word (inParens (listed options))
  else return []

/-- The options of a table and how its rows are divided. -/
structure TableSettings where
  inherited : Text := []
  options : Text := []
  partition : Text := []
  clusters : Text := []
  /-- Options that are written behind the rest. -/
  late : Text := []

/-- The options of a table. -/
def tableSettings (g : Grammar) : Parser TableSettings := do
  let isGeneric := g.dialect.name == .generic
  let inherited ← clause? "INHERITS" (g.listInParens objectNameText)
  let bound ← someOptions? g "WITH"
  let properties ← someOptions? g "TBLPROPERTIES"
  let options := if properties.isEmpty then bound else properties
  let partition ←
    textIf (g.speaks [.postgresql, .generic]) (clauseBehind? ["PARTITION", "BY"] g.exprText)
  let clusters ← textIf isGeneric (clauseBehind? ["CLUSTER", "BY"] (g.list g.exprText))
  -- Options behind `OPTIONS` take the place of others, and of those that could follow.
  let isLate := isGeneric && (← peekKeyword "OPTIONS")
  let late ← textIf isLate (options? g "OPTIONS")
  if isLate then return ⟨inherited, [], partition, clusters, late⟩
  else
    let options ← if options.isEmpty then plainOptions g else pure options
    return ⟨inherited, options, partition, clusters, []⟩

end Parser

end Sql

end Pushdown
