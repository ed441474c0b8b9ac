/-
**Rows to and from files.**

Rows of a table are copied from a file or from the statement itself, and rows of a table or a query
are copied to a file.  Rows in the statement stand behind its semicolon as plain text: values with
tabs and ends of lines between, up to a backslash and a period.

Main definitions:

* `Sql.Parser.copyRows` — the values behind a semicolon;
* `Sql.Parser.plainCopyOption`, `Sql.Parser.copyOption` — how the values are written;
* `Sql.Parser.copy`, `Sql.Parser.unload` — the statements.
-/

import Pushdown.Sql.Parser.Session.Transaction

set_option autoImplicit false

namespace Pushdown

namespace Sql

namespace Parser

/-! ### Rows in a statement -/

/-- A token as it stands among rows. -/
def tokenText : Token → Text
  | .word text none => text
  | .word text (some quote) => quote :: text ++ [Token.closingQuote quote]
  | .number digits long => digits ++ if long then ['L'] else []
  | .string style content => style.enclose content
  | .placeholder text => text
  | .symbol text => if text = "!=".toList then "<>".toList else text
  | .semicolon _ => [';']
  | .operator text => text
  | .colon _ => [':']
  | .atSign _ => ['@']

/-- The text of a blank or comment that reaches up to the rest of a text. -/
def blankText (s rest : Text) : Text :=
  match s.take (s.length - rest.length) with
  | [c] => if c = '\t' ∨ c = '\n' then [c] else if c = '\r' then ['\n'] else [' ']
  | text => text

/-- What the rows are read from: the text, the token in front, and how many tokens are read. -/
structure RowSource where
  text : Text
  before : Option Token
  taken : Nat

/-- Passes over blanks and takes the next token. -/
def RowSource.nextToken (d : Dialect) : Nat → RowSource → Option (Token × RowSource)
  | 0, _ => none
  | fuel + 1, source =>
      match source.text with
      | [] => none
      | c :: rest =>
          match Token.readOne d source.before c rest with
          | none => none
          | some (none, rest) => nextToken d fuel ⟨rest, none, source.taken⟩
          | some (some token, rest) => some (token, ⟨rest, some token, source.taken + 1⟩)

/-- Values as text: nothing is written as an `N` behind a backslash. -/
def rowValues (d : Dialect) : Nat → RowSource → Text → List Text × Nat
  | 0, source, _ => ([], source.taken)
  | fuel + 1, source, value =>
      match source.text with
      -- A value without an end is none.
      | [] => ([], source.taken)
      | c :: rest =>
          match Token.readOne d source.before c rest with
          | none => ([], source.taken)
          | some (none, rest) =>
              let blank := blankText (c :: rest) rest
              let source := ⟨rest, none, source.taken⟩
              if blank = ['\t'] ∨ blank = ['\n'] then
                let rest := if c = '\r' ∧ rest.head? = some '\n' then rest.tail else rest
                let (values, taken) := rowValues d fuel { source with text := rest } []
                (value :: values, taken)
              else rowValues d fuel source (value ++ blank)
          | some (some (.symbol ['\\']), rest) =>
              let source : RowSource := ⟨rest, some (.symbol ['\\']), source.taken + 1⟩
              match source.nextToken d (rest.length + 1) with
              | none => ([], source.taken)
              | some (.symbol ['.'], source) => ([], source.taken)
              | some (.word ['N'] _, source) =>
                  let (values, taken) := rowValues d fuel source value
                  ("\\N".toList :: values, taken)
              | some (_, source) => rowValues d fuel source value
          | some (some token, rest) =>
              rowValues d fuel ⟨rest, some token, source.taken + 1⟩ (value ++ tokenText token)

/-- The values behind a semicolon, which has to be there. -/
def copyRows (g : Grammar) : Parser Text := do
  match ← next with
  | .semicolon behind =>
      let (values, taken) := rowValues g.dialect (behind.length + 1) ⟨behind, none, 0⟩ []
      modify (List.drop taken)
      if values.isEmpty then return []
      else return ";\n".toList ++ Text.joinWith ['\t'] values ++ "\n\\.".toList
  | _ => fail

/-! ### Options -/

/-- A single character in quotes. -/
def quotedCharacter (g : Grammar) : Parser Text := do
  match ← stringContent g with
  | [c] => if c.toNat < 0x80 then return ['\'', c, '\''] else fail
  | _ => fail

/-- A truth value that is true unless it is said to be false. -/
def unlessFalse : Parser Text := do
  let value ← oneOf? ["TRUE", "FALSE"]
  return mark "FALSE" (value == some "FALSE".toList)

/-- What is read behind the word of an option. -/
def copyValue (g : Grammar) (word : Text) : Parser Text :=
  let isOne (words : List String) : Bool := words.any fun w => w.toList == word
  if isOne ["FORMAT"] then (' ' :: ·) <$> identifierText
  else if isOne ["FREEZE", "HEADER"] then unlessFalse
  else if isOne ["DELIMITER", "QUOTE", "ESCAPE"] then (' ' :: ·) <$> quotedCharacter g
  else if isOne ["NULL", "ENCODING"] then (' ' :: ·) <$> quotedText g
  else (' ' :: ·) <$> parenthesizedNames g

/-- How values are written, as an option in parentheses. -/
def copyOption (g : Grammar) : Parser Text := do
  let word ←
    oneOf ["FORMAT", "FREEZE", "DELIMITER", "NULL", "HEADER", "QUOTE", "ESCAPE", "FORCE_QUOTE",
      "FORCE_NOT_NULL", "FORCE_NULL", "ENCODING"]
  return word ++ (← copyValue g word)

/-- How values with separators are written: an option behind `CSV`. -/
def separatedOption (g : Grammar) : Parser Text := do
  if ← keyword? "HEADER" then return " HEADER".toList
  else
    match ← oneOf? ["QUOTE", "ESCAPE"] with
    | some word => do
        let _ ← keyword? "AS"
        return ' ' :: word ++ ' ' :: (← quotedCharacter g)
    | none => do
        keyword "FORCE"
        let kind ← phrase? [["NOT", "NULL"], ["QUOTE"]]
        if kind.isEmpty then fail
        return " FORCE".toList ++ kind ++ ' ' :: (← g.list identifierText)

/-- A string with a blank in front, if one is there; a word may stand in front of it. -/
def stringBehindAs? (g : Grammar) : Parser Text := do
  let _ ← keyword? "AS"
  match ← peek with
  | some (.string .single _) => (' ' :: ·) <$> quotedText g
  | _ => return []

/-- A choice that is on or off, if it is said. -/
def choice? : Parser Text := do
  match ← oneOf? ["TRUE", "FALSE", "ON", "OFF"] with
  | none => return []
  | some word =>
      let isOn := word = "TRUE".toList ∨ word = "ON".toList
      return if isOn then " TRUE".toList else " FALSE".toList

/-- The size of a file. -/
def fileSize (g : Grammar) : Parser Text := do
  let size ← unsignedNumber g
  return ' ' :: size ++ (← phrase? [["MB"], ["GB"]])

/-- The role with whose rights a file is opened. -/
def fileRole (g : Grammar) : Parser Text := do
  if ← keyword? "DEFAULT" then return "DEFAULT".toList else rawQuotedText g

/-- Options that are words alone. -/
def plainCopyWords : List String :=
  ["ACCEPTANYDATE", "ADDQUOTES", "ALLOWOVERWRITE", "BINARY", "BLANKSASNULL", "BZIP2", "CLEANPATH",
    "EMPTYASNULL", "ESCAPE", "GZIP", "HEADER", "PARQUET", "REMOVEQUOTES", "TRUNCATECOLUMNS", "ZSTD"]

/-- Options with a value. -/
def valuedCopyWords : List String :=
  ["ACCEPTINVCHARS", "COMPUPDATE", "CREDENTIALS", "CSV", "DATEFORMAT", "DELIMITER", "ENCRYPTED",
    "EXTENSION", "FIXEDWIDTH", "IAM_ROLE", "IGNOREHEADER", "JSON", "MANIFEST", "MAXFILESIZE",
    "NULL", "PARALLEL", "PARTITION", "REGION", "ROWGROUPSIZE", "STATUPDATE", "TIMEFORMAT"]

/-- A text behind a word that may be there. -/
def behindAs (p : Parser Text) : Parser Text := do
  let _ ← keyword? "AS"
  p

/-- How often statistics are brought up to date while rows are copied. -/
def compressionUpdate : Parser Text := do
  let preset ← phrase? [["PRESET"]]
  let choice ← choice?
  return if preset.isEmpty then choice else preset

/-- The columns by which files are divided. -/
def filePartition (g : Grammar) : Parser Text := do
  keyword "BY"
  let columns ← parenthesizedNames g
  return " BY ".toList ++ columns ++ (← phrase? [["INCLUDE"]])

/-- What is read behind the word of an option outside parentheses. -/
def plainCopyValue (g : Grammar) (word : Text) : Parser Text :=
  let isOne (words : List String) : Bool := words.any fun w => w.toList == word
  if isOne ["ACCEPTINVCHARS", "DATEFORMAT", "TIMEFORMAT"] then stringBehindAs? g
  else if isOne ["JSON"] then do
    let text ← stringBehindAs? g
    return if text.isEmpty then [] else " AS".toList ++ text
  else if isOne ["COMPUPDATE"] then compressionUpdate
  else if isOne ["PARALLEL", "STATUPDATE"] then choice?
  else if isOne ["CREDENTIALS", "EXTENSION", "FIXEDWIDTH"] then (' ' :: ·) <$> quotedText g
  else if isOne ["NULL", "REGION"] then behindAs ((' ' :: ·) <$> quotedText g)
  else if isOne ["DELIMITER"] then behindAs ((' ' :: ·) <$> quotedCharacter g)
  else if isOne ["IGNOREHEADER"] then behindAs ((' ' :: ·) <$> natural)
  else if isOne ["MAXFILESIZE", "ROWGROUPSIZE"] then behindAs (fileSize g)
  else if isOne ["CSV"] then return (← repeated (attempt (separatedOption g))).flatten
  else if isOne ["ENCRYPTED"] then phrase? [["AUTO"]]
  else if isOne ["MANIFEST"] then phrase? [["VERBOSE"]]
  else if isOne ["IAM_ROLE"] then (' ' :: ·) <$> fileRole g
  else filePartition g

/-- How values are written, as an option outside parentheses, with a blank in front. -/
def plainCopyOption (g : Grammar) : Parser Text := do
  if ← keyword? "FORMAT" then
    let _ ← keyword? "AS"
  match ← oneOf? plainCopyWords with
  | some word => return ' ' :: word
  | none => do
      let word ← oneOf valuedCopyWords
      return ' ' :: word ++ (← plainCopyValue g word)

/-- Options outside parentheses. -/
def plainCopyOptions (g : Grammar) : Parser Text := do
  return (← repeated (attempt (plainCopyOption g))).flatten

/-! ### Statements -/

/-- What is copied, and whether it is a query. -/
def copySource (g : Grammar) : Parser (Text × Bool) := do
  if ← peekSymbol "(" then
    let query ← parenthesized g.queryText
    return (inParens query, true)
  else
    let name ← objectNameText
    return (name ++ (← parenthesizedNames? g), false)

/-- Where rows are copied from or to. -/
def copyTarget (g : Grammar) : Parser Text := do
  match ← oneOf? ["STDIN", "STDOUT"] with
  | some word => return word
  | none =>
      if ← keyword? "PROGRAM" then return "PROGRAM ".toList ++ (← quotedText g) else quotedText g

/-- Rows that are copied, behind the word.  Nothing is copied into a query. -/
def copy (g : Grammar) : Parser Text := do
  let (source, isQuery) ← copySource g
  let way ← oneOf ["FROM", "TO"]
  if isQuery && way = "FROM".toList then fail
  let target ← copyTarget g
  let _ ← keyword? "WITH"
  let options ← if ← peekSymbol "(" then (' ' :: ·) <$> g.listInParens (copyOption g) else pure []
  let plain ← plainCopyOptions g
  let rows ← textIf (target = "STDIN".toList) (copyRows g)
  return "COPY ".toList ++ source ++ ' ' :: way ++ ' ' :: target ++ options ++ plain ++ rows

/-- Rows of a query that are written to files, behind the word; the query may be a string. -/
def unload (g : Grammar) : Parser Text := do
  let source ← parenthesized do
    match ← peek with
    | some (.string .single _) => rawQuotedText g
    | _ => g.queryText
  keyword "TO"
  let target ← identifierText
  let role ← clause? "IAM_ROLE" (fileRole g)
  let options ← someOptions? g "WITH"
  return "UNLOAD".toList ++ inParens source ++ clause "TO" target ++ role ++ options ++
    (← plainCopyOptions g)

end Parser

end Sql

end Pushdown
