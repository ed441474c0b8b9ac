/-
**Types in SQL.**

A type is a word of the language, with a length, a precision or further words where it takes them,
or a name of its own.  Some types hold others between angle brackets or in parentheses.  Types of
the language are written in their own spelling, others as they stand.

Main definitions:

* `Sql.Parser.dataType` — a type;
* `Sql.Parser.simpleType` — a type of the language that holds no other;
* `Sql.Parser.compositeType?` — a type of the language that holds others.
-/

import Pushdown.Sql.Parser.Option

set_option autoImplicit false

namespace Pushdown

namespace Sql

namespace Parser

/-! ### What follows the word of a type -/

/-- A number in parentheses, if it is there. -/
def precision? : Parser Text := do
  if ← peekSymbol "(" then return inParens (← parenthesized natural) else return []

/-- A precision and a scale in parentheses, if they are there. -/
def scale? : Parser Text := do
  if ← symbol? "(" then
    let precision ← natural
    let scale ← if ← symbol? "," then (',' :: ·) <$> signedNatural else pure []
    symbol ")"
    return inParens (precision ++ scale)
  else return []

/-- A number of characters in parentheses, if it is there. -/
def length? : Parser Text := do
  if ← symbol? "(" then
    if ← keyword? "MAX" then
      symbol ")"
      return "(MAX)".toList
    else
      let size ← natural
      let unit ← oneOf? ["CHARACTERS", "OCTETS"]
      symbol ")"
      return inParens (size ++ markOf unit)
  else return []

/-- A number of octets in parentheses, if it is there. -/
def binaryLength? : Parser Text := do
  if ← symbol? "(" then
    let size ← if ← keyword? "MAX" then pure "MAX".toList else natural
    symbol ")"
    return inParens size
  else return []

/-- `WITH TIME ZONE` and its opposite, if they are there. -/
def timeZone? : Parser Text := do
  if ← keyword? "WITH" then
    keywords ["TIME", "ZONE"]
    return " WITH TIME ZONE".toList
  else if ← keyword? "WITHOUT" then
    keywords ["TIME", "ZONE"]
    return " WITHOUT TIME ZONE".toList
  else return []

/-- `UNSIGNED`, if it is there. -/
def unsigned? : Parser Text := phrase? [["UNSIGNED"]]

/-- `UNSIGNED`, if it is there, or `SIGNED`, which is not written. -/
def signedness? (g : Grammar) : Parser Text := do
  let unsigned ← unsigned?
  if unsigned.isEmpty ∧ g.speaks [.mysql, .generic] then
    let _ ← keyword? "SIGNED"
    return []
  else return unsigned

/-- The units that a period of time spans, if they are given. -/
def timeSpan? : Parser Text := do
  match ← oneOf? ["YEAR", "DAY", "HOUR", "MINUTE", "MONTH", "SECOND"] with
  | none => return []
  | some unit =>
      let isOne (words : List String) : Bool := words.any fun w => w.toList == unit
      let last :=
        if isOne ["YEAR"] then ["MONTH"]
        else if isOne ["DAY"] then ["HOUR", "MINUTE", "SECOND"]
        else if isOne ["HOUR"] then ["MINUTE", "SECOND"]
        else if isOne ["MINUTE"] then ["SECOND"]
        else []
      if ← keywordIf? (!last.isEmpty) "TO" then
        return ' ' :: unit ++ " TO ".toList ++ (← oneOf last)
      else return ' ' :: unit

/-! ### Types that hold no other -/

/-- Types that are a single word in capital letters. -/
def bareTypes : List String :=
  ["BOOLEAN", "BOOL", "FLOAT4", "FLOAT8", "FLOAT64", "INT64", "HUGEINT", "UHUGEINT",
    "UTINYINT", "USMALLINT", "UBIGINT", "UUID", "DATE", "TINYBLOB", "MEDIUMBLOB", "LONGBLOB",
    "JSON", "JSONB", "REGCLASS", "TEXT", "TINYTEXT", "MEDIUMTEXT", "LONGTEXT", "BYTEA", "TRIGGER"]

/-- Types that are a single word with small letters in it. -/
def mixedTypes : List String :=
  ["Int16", "Int32", "Int128", "Int256", "UInt8", "UInt16", "UInt32", "UInt64", "UInt128",
    "UInt256", "Float32", "Date32"]

/-- Whole numbers, with a width and a sign. -/
def wholeTypes : List String :=
  ["TINYINT", "INT2", "SMALLINT", "MEDIUMINT", "INT", "INT4", "INT8", "INTEGER", "BIGINT"]

/-- Decimal numbers, with a precision and a scale. -/
def scaledTypes : List String := ["NUMERIC", "BIGNUMERIC", "BIGDECIMAL"]

/-- Decimal numbers, with a precision and a scale, and possibly without a sign. -/
def unsignedTypes : List String := ["DECIMAL", "DEC", "FLOAT"]

/-- Types with a precision. -/
def precisionTypes : List String :=
  ["DATETIME", "TIMESTAMPTZ", "TIMETZ", "CLOB", "BLOB", "BINARY", "VARBIT", "BYTES", "STRING",
    "TIMESTAMP_NTZ"]

/-- A type of characters behind its first word. -/
def characterType (word : Text) : Parser Text := do
  if ← keyword? "VARYING" then return word ++ " VARYING".toList ++ (← length?)
  else if ← keywords? ["LARGE", "OBJECT"] then
    return word ++ " LARGE OBJECT".toList ++ (← precision?)
  else return word ++ (← length?)

/-- A number with a fraction behind the word `DOUBLE`. -/
def doubleType : Parser Text := do
  if ← keyword? "PRECISION" then return "DOUBLE PRECISION".toList ++ (← unsigned?)
  else return "DOUBLE".toList ++ (← scale?) ++ (← unsigned?)

/-- A point in time with a precision and a zone. -/
def zonedTime (g : Grammar) : Parser Text := do
  let inner ← parenthesized do
    let precision ← natural
    if ← symbol? "," then return precision ++ comma ++ (← rawQuotedText g) else return precision
  return "DateTime64".toList ++ inParens inner

/-- A value of an enumeration, which may have a number. -/
def enumValue (g : Grammar) : Parser Text := do
  let name ← quotedText g
  if ← symbol? "=" then return name ++ " = ".toList ++ (← signedNumber g) else return name

/-- A string in single quotes. -/
def plainString : Parser Text := do
  match ← next with
  | .string .single content => return quoted content
  | _ => fail

/-- A type of the language that holds no other and is not just a word, if its word is one. -/
def simpleType? (g : Grammar) (word : Text) : Option (Parser Text) :=
  let isOne (words : List String) : Bool := words.any fun w => w.toList == word
  if isOne wholeTypes then some (return word ++ (← precision?) ++ (← signedness? g))
  else if isOne scaledTypes then some (return word ++ (← scale?))
  else if isOne unsignedTypes then some (return word ++ (← scale?) ++ (← unsigned?))
  else if isOne ["REAL"] then some (return word ++ (← unsigned?))
  else if isOne ["DOUBLE"] then some doubleType
  else if isOne ["VARCHAR", "NVARCHAR"] then some (return word ++ (← length?))
  else if isOne ["VARBINARY"] then some (return word ++ (← binaryLength?))
  else if isOne precisionTypes then some (return word ++ (← precision?))
  else if isOne ["CHARACTER", "CHAR"] then some (characterType word)
  else if isOne ["TIMESTAMP", "TIME"] then
    some (return word ++ (← precision?) ++ (← timeZone?))
  else if isOne ["DATETIME64"] then some (zonedTime g)
  else if isOne ["FIXEDSTRING"] then
    some (return "FixedString".toList ++ inParens (← parenthesized natural))
  else if isOne ["BIT"] then
    some (return word ++ mark "VARYING" (← keyword? "VARYING") ++ (← precision?))
  else if isOne ["ENUM", "ENUM8", "ENUM16"] then
    some (return word ++ (← g.listInParens (enumValue g)))
  else if isOne ["SET"] then
    some (return word ++ inParens (listed (← parenthesized (listOf false plainString))))
  else if isOne ["SIGNED", "UNSIGNED"] then some (return word ++ (← phrase? [["INTEGER"]]))
  else if isOne ["TSVECTOR", "TSQUERY"] && g.speaks [.postgresql, .generic] then
    some (return word)
  else none

/-- The spelling of a type that is a single word, if a word is one. -/
def bareType? (word : Text) : Option Text :=
  if bareTypes.any fun w => w.toList == word then some word
  else (mixedTypes.map String.toList).find? fun w => Text.toUpper w == word

/-! ### Types that hold others -/

/-- Takes the bracket that closes a list of types; two of them may be one token.  `closed` tells
whether the token in front closed this list as well, and the answer whether the token closes the
list around it. -/
def closeAngle (closed : Bool) : Parser Bool := do
  if closed then return false
  else if ← symbol? ">" then return false
  else
    symbol ">>"
    return true

/-- A type in parentheses, with them. -/
def innerType (inner : Parser (DataType × Bool)) : Parser Text := do
  symbol "("
  let (type, closed) ← inner
  if closed then fail
  symbol ")"
  return inParens type.render

/-- A field of a structure: its type, and its name if it has one. -/
def structField (g : Grammar) (inner : Parser (DataType × Bool)) : Parser (Text × Bool) := do
  let isWord (token : Option Token) : Bool :=
    match token with
    | some (.word _ _) => true
    | _ => false
  let isColon (token : Option Token) : Bool :=
    match token with
    | some (.colon _) => true
    | _ => false
  let second ← peekAt 1
  let name ←
    if isWord (← peek) && (isWord second || isColon second) then do
      let name ← identifierText
      if isColon (← peek) then skip
      pure (name ++ [' '])
    else pure []
  let (type, closed) ← inner
  return (name ++ type.render ++ (← options? g "OPTIONS"), closed)

/-- The fields of a structure, up to the first that closes the list as well. -/
def structFields (field : Parser (Text × Bool)) : Nat → Parser (List Text × Bool)
  | 0 => fail
  | fuel + 1 => do
      let (text, closed) ← field
      if ← symbolIf? (!closed) "," then
        let (others, closed) ← structFields field fuel
        return (text :: others, closed)
      else return ([text], closed)

/-- The fields of a structure between angle brackets, or nothing. -/
def angleFields? (g : Grammar) (inner : Parser (DataType × Bool)) : Parser (Text × Bool) := do
  if ← symbol? "<" then
    let (fields, closed) ← structFields (structField g inner) ((← get).length + 1)
    return ('<' :: listed fields ++ ['>'], ← closeAngle closed)
  else return ([], false)

/-- A field with its name. -/
def namedField (inner : Parser (DataType × Bool)) : Parser Text := do
  let name ← identifierText
  let (type, closed) ← inner
  if closed then fail
  return name ++ ' ' :: type.render

/-- A type of the language that holds others, if its word is one, and whether it closes the list
around it. -/
def compositeType? (g : Grammar) (inner : Parser (DataType × Bool)) (word : Text) :
    Option (Parser (Text × Bool)) :=
  let isOne (words : List String) : Bool := words.any fun w => w.toList == word
  let isGeneric := g.dialect.name == .generic
  let closing (p : Parser Text) : Parser (Text × Bool) := return (← p, false)
  if isOne ["ARRAY"] then
    some do
      symbol "<"
      let (type, closed) ← inner
      return ("ARRAY<".toList ++ type.render ++ ['>'], ← closeAngle closed)
  else if isOne ["STRUCT"] && g.dialect.name == .duckdb then
    some (closing do return word ++ (← g.listInParens (namedField inner)))
  else if isOne ["STRUCT"] && isGeneric then
    some do
      let (fields, closed) ← angleFields? g inner
      return (word ++ fields, closed)
  else if isOne ["UNION"] && g.speaks [.duckdb, .generic] then
    some (closing do return word ++ (← g.listInParens (namedField inner)))
  else if isOne ["NULLABLE"] && isGeneric then
    some (closing do return "Nullable".toList ++ (← innerType inner))
  else if isOne ["LOWCARDINALITY"] && isGeneric then
    some (closing do return "LowCardinality".toList ++ (← innerType inner))
  else if isOne ["MAP"] && isGeneric then
    some (closing do
      symbol "("
      let (key, isKeyClosed) ← inner
      symbol ","
      let (value, isClosed) ← inner
      symbol ")"
      if isKeyClosed || isClosed then fail
      return "Map".toList ++ inParens (key.render ++ comma ++ value.render))
  else if isOne ["NESTED"] && isGeneric then
    some (closing do return "Nested".toList ++ (← g.listInParens g.column))
  else if isOne ["TUPLE"] && isGeneric then
    some (closing do
      let fields ← parenthesized (listOf false (Prod.fst <$> structField g inner))
      return "Tuple".toList ++ inParens (listed fields))
  else if isOne ["TABLE"] then
    some (closing do
      if ← peekSymbol "(" then return word ++ (← g.listInParens g.column) else return word)
  else none

/-! ### Types -/

/-- The parts of what stands in parentheses behind the name of a type, up to and with the closing
parenthesis; commas between them may be left out or doubled. -/
def typeModifiers : Nat → Parser (List Text)
  | 0 => fail
  | fuel + 1 => do
      match ← next with
      | .word text quote => return Ident.render ⟨text, quote⟩ :: (← typeModifiers fuel)
      | .number digits _ => return digits :: (← typeModifiers fuel)
      | .string .single content => return content :: (← typeModifiers fuel)
      | .symbol [','] => typeModifiers fuel
      | .symbol [')'] => return []
      | _ => fail

/-- A type with a name of its own. -/
def customType : Parser Text := do
  let name ← objectNameText
  if ← symbol? "(" then
    let parts ← typeModifiers ((← get).length + 1)
    return if parts.isEmpty then name else name ++ inParens (listed parts)
  else return name

/-- A type without brackets, and whether it closes the list around it. -/
def typeFront (g : Grammar) (inner : Parser (DataType × Bool)) : Parser (DataType × Bool) := do
  match keywordOf? (← peek) with
  | none =>
      match ← peek with
      | some (.word _ _) => return (.custom (← customType), false)
      | _ => fail
  | some word =>
      match bareType? word with
      | some text =>
          skip
          return (.known text, false)
      | none =>
          match simpleType? g word with
          | some p =>
              skip
              return (.known (← p), false)
          | none =>
              match compositeType? g inner word with
              | some p =>
                  skip
                  let (text, closed) ← p
                  return (.known text, closed)
              | none =>
                  if ← keywords? ["ANY", "TYPE"] then return (.known "ANY TYPE".toList, false)
                  else if ← keyword? "INTERVAL" then
                    let span ← textIf (g.speaks [.postgresql, .generic]) do
                      return (← timeSpan?) ++ (← precision?)
                    return (.interval ("INTERVAL".toList ++ span), false)
                  else return (.custom (← customType), false)

/-- A pair of brackets behind a type, if it is there. -/
def brackets? : Parser (Option Text) := do
  if ← symbol? "[" then
    let size ← attempt natural
    symbol "]"
    return some ('[' :: size.getD [] ++ [']'])
  else return none

/-- A type with all brackets behind it; an array of any type is a type of the language. -/
def bracketed (g : Grammar) (type : DataType) : Parser DataType := do
  if g.dialect.arrayTypes then
    let brackets := (← repeated brackets?).flatten
    return if brackets.isEmpty then type else .known (type.render ++ brackets)
  else return type

/-- A type, and whether it closes the list around it; types are nested at most as deep as there is
fuel. -/
def typeFrom (g : Grammar) : Nat → Parser (DataType × Bool)
  | 0 => fail
  | fuel + 1 => do
      let (type, closed) ← typeFront g (typeFrom g fuel)
      return (← bracketed g type, closed)

/-- A type. -/
def dataType (g : Grammar) : Parser DataType := do
  let (type, closed) ← typeFrom g ((← get).length + 1)
  if closed then fail else return type

/-- The text of a type. -/
def dataTypeText (g : Grammar) : Parser Text := DataType.render <$> dataType g

/-- A definition that a structure starts with, for the values that follow: the fields between angle
brackets, or nothing. -/
def structHead (g : Grammar) : Parser Text := do
  let (fields, closed) ← angleFields? g (typeFrom g ((← get).length + 1))
  if closed then fail else return fields

end Parser

end Sql

end Pushdown
