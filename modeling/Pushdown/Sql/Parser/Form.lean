/-
**Special forms of SQL.**

Some words start an expression with a notation of its own, such as `CASE` or `CAST`.  Where the
notation does not fit, most of these words are plain names.

Main definitions:

* `Sql.Parser.specialForm?` — the notation that belongs to a word;
* `Sql.Parser.isNeverName` — the words that are no plain names.
-/

import Pushdown.Sql.Parser.Call

set_option autoImplicit false

namespace Pushdown

namespace Sql

namespace Parser

/-! ### Conditions and conversions -/

/-- A condition and a result of a `CASE`. -/
def caseBranch (g : Grammar) : Parser Text := do
  let condition ← g.exprText
  keyword "THEN"
  return "WHEN ".toList ++ condition ++ " THEN ".toList ++ (← g.exprText)

/-- A further branch of a `CASE`, if it is there. -/
def furtherBranch? (g : Grammar) : Parser (Option Text) := do
  if ← keyword? "WHEN" then some <$> caseBranch g else return none

/-- `CASE` behind its word. -/
def caseForm (g : Grammar) : Parser Expr := do
  let operand ←
    if ← keyword? "WHEN" then pure []
    else
      let operand ← g.exprText
      keyword "WHEN"
      pure operand
  let first ← caseBranch g
  let others ← repeated (furtherBranch? g)
  let last ← behind "ELSE" g.exprText
  keyword "END"
  return .other (spaced (["CASE".toList, operand, first] ++ others ++ [last, "END".toList]))

/-- The shape of a converted value behind its word: a literal, possibly with a time zone. -/
def castShape (g : Grammar) : Parser Text :=
  return (← literalText g) ++ (← clauseBehind? ["AT", "TIME", "ZONE"] (literalText g))

/-- A conversion to a type, behind its word. -/
def castForm (g : Grammar) (word : Text) : Parser Expr := do
  let inner ← parenthesized do
    let value ← g.exprText
    keyword "AS"
    let type ← dataTypeText g
    let shape ← behind "FORMAT" (castShape g)
    return spaced [value, "AS".toList, type, shape]
  return .other (word ++ inParens inner)

/-- A conversion to a type or a character set, behind its word. -/
def convertForm (g : Grammar) (word : Text) : Parser Expr := do
  let inner ← parenthesized do
    let value ← g.exprText
    if ← keyword? "USING" then return value ++ clause "USING" (← objectNameText)
    else
      symbol ","
      let type ← dataTypeText g
      let charset ←
        if ← keywords? ["CHARACTER", "SET"] then clause "CHARACTER SET" <$> objectNameText
        else pure []
      return value ++ comma ++ type ++ charset
  return .other (word ++ inParens inner)

/-! ### Functions with words between their arguments -/

/-- `EXTRACT` behind its word. -/
def extractForm (g : Grammar) : Parser Expr := do
  let inner ← parenthesized do
    let field ← timeField g
    if ← keyword? "FROM" then return field ++ clause "FROM" (← g.exprText)
    else if g.dialect.name = .generic then
      symbol ","
      return field ++ comma ++ (← g.exprText)
    else fail
  return .other ("EXTRACT".toList ++ inParens inner)

/-- `CEIL` and `FLOOR` behind their word. -/
def roundingForm (g : Grammar) (word : Text) : Parser Expr := do
  let inner ← parenthesized do
    let value ← g.exprText
    if ← keyword? "TO" then return value ++ clause "TO" (← timeField g)
    else if ← symbol? "," then
      match ← next with
      | .number digits long => return value ++ comma ++ digits ++ if long then ['L'] else []
      | _ => fail
    else return value
  return .other (word ++ inParens inner)

/-- `POSITION` with `IN` between its arguments. -/
def positionForm (g : Grammar) : Parser Expr := do
  let inner ← parenthesized do
    let needle ← Expr.render <$> g.subexpr g.dialect.strengths.between
    keyword "IN"
    return needle ++ clause "IN" (← g.exprText)
  return .other ("POSITION".toList ++ inParens inner)

/-- `SUBSTRING` behind its word. -/
def substringForm (g : Grammar) (word : Text) : Parser Expr := do
  let inner ← parenthesized do
    let value ← g.exprText
    let special ← symbol? ","
    let start ← if special then some <$> g.exprText
      else if ← keyword? "FROM" then some <$> g.exprText else pure none
    let counted ← keyword? "FOR"
    let counted ← if counted then pure true else symbol? ","
    let count ← if counted then some <$> g.exprText else pure none
    if special then return listed (value :: (start.toList ++ count.toList))
    else return value ++ clauseOf "FROM" start ++ clauseOf "FOR" count
  return .other (word ++ inParens inner)

/-- `OVERLAY` behind its word. -/
def overlayForm (g : Grammar) : Parser Expr := do
  let inner ← parenthesized do
    let value ← g.exprText
    keyword "PLACING"
    let inserted ← g.exprText
    keyword "FROM"
    let start ← g.exprText
    let count ← behind "FOR" g.exprText
    return spaced [value, "PLACING".toList, inserted, "FROM".toList, start, count]
  return .other ("OVERLAY".toList ++ inParens inner)

/-- `TRIM` behind its word. -/
def trimForm (g : Grammar) : Parser Expr := do
  let inner ← parenthesized do
    let side := (← oneOf? ["BOTH", "LEADING", "TRAILING"]).getD []
    let first ← g.exprText
    if ← keyword? "FROM" then return spaced [side, first, "FROM".toList, ← g.exprText]
    else if (← symbol? ",") && g.speaks [.duckdb, .generic] then
      -- Which side is meant is not written in front of a list.
      return first ++ comma ++ (← g.list g.exprText)
    else return spaced [side, first]
  return .other ("TRIM".toList ++ inParens inner)

/-- `MATCH … AGAINST` behind its first word. -/
def matchForm (g : Grammar) : Parser Expr := do
  let columns ← parenthesized (g.list objectNameText)
  keyword "AGAINST"
  let inner ← parenthesized do
    let value ← literalText g
    if ← keywords? ["IN", "NATURAL", "LANGUAGE", "MODE", "WITH", "QUERY", "EXPANSION"] then
      return value ++ " IN NATURAL LANGUAGE MODE WITH QUERY EXPANSION".toList
    else if ← keywords? ["IN", "NATURAL", "LANGUAGE", "MODE"] then
      return value ++ " IN NATURAL LANGUAGE MODE".toList
    else if ← keywords? ["IN", "BOOLEAN", "MODE"] then return value ++ " IN BOOLEAN MODE".toList
    else if ← keywords? ["WITH", "QUERY", "EXPANSION"] then
      return value ++ " WITH QUERY EXPANSION".toList
    else return value
  return .other ("MATCH ".toList ++ inParens columns ++ " AGAINST ".toList ++ inParens inner)

/-! ### Queries, arrays, negation -/

/-- `EXISTS` behind its word. -/
def existsForm (g : Grammar) (negated : Bool) : Parser Expr := do
  return .existence (← parenthesized g.query) negated

/-- `NOT` behind its word. -/
def notForm (g : Grammar) : Parser Expr := do
  if ← keyword? "EXISTS" then existsForm g true
  else return .unary ⟨"NOT".toList, .spaced⟩ (← g.subexpr g.dialect.strengths.not)

/-- The elements of an array behind the opening bracket, up to and with the closing one. -/
def elements (g : Grammar) : Parser Text := do
  let items ← commaSeparatedUnless g.dialect "]" g.exprText
  symbol "]"
  return '[' :: listed items ++ [']']

/-- `ARRAY` behind its word. -/
def arrayForm (g : Grammar) (name : Ident) : Parser Expr := do
  if ← symbol? "[" then return .other ("ARRAY".toList ++ (← elements g))
  else return .call (name.render ++ inParens (← parenthesized g.queryText))

/-- The words for points in time, with or without arguments. -/
def clockForm (g : Grammar) (name : Ident) : Parser Expr := do
  if ← symbol? "(" then return .call (name.render ++ (← argumentsText g))
  else return .call name.render

/-- A geometric type and a literal. -/
def geometricForm (g : Grammar) (word : Text) : Parser Expr := do
  return .other (Text.toLower word ++ ' ' :: (← literalText g))

/-! ### Structured values -/

/-- A value of a structure; where the fields are not given in front it may have a name. -/
def structValue (g : Grammar) (hasFields : Bool) : Parser Text := do
  let value ← g.exprText
  if ← keyword? "AS" then
    if hasFields then fail else return value ++ clause "AS" (← identifierText)
  else return value

/-- `STRUCT` with its fields and values, behind its word. -/
def structForm (g : Grammar) : Parser Expr := do
  let fields ← structHead g
  let values ← g.listInParens (structValue g (!fields.isEmpty))
  return .other ("STRUCT".toList ++ fields ++ values)

/-- A text in braces. -/
def inBraces (s : Text) : Text := '\x7b' :: s ++ ['\x7d']

/-- Takes the colon between a key and its value. -/
def keyColon : Parser Unit := do
  match ← next with
  | .colon _ => return ()
  | _ => fail

/-- Entries in braces behind the opening one, with a parser of their keys. -/
def entries (g : Grammar) (key : Parser Text) : Parser Text := do
  let items ← commaSeparatedUnless g.dialect "\x7d" do
    let name ← key
    keyColon
    return name ++ ": ".toList ++ (← g.exprText)
  symbol "\x7d"
  return inBraces (listed items)

/-- `MAP` and its entries, behind its word. -/
def mapForm (g : Grammar) : Parser Expr := do
  symbol "\x7b"
  return .other ("MAP ".toList ++ (← entries g g.exprText))

/-- A function or a point in time between braces, in the form that every dialect reads. -/
def escapedForm (g : Grammar) : Parser Text := do
  if ← keyword? "FN" then
    let name ← objectNameText
    return "fn ".toList ++ (← callText g name)
  else
    match ← next with
    | .word text none =>
        if [['t'], ['d'], "ts".toList].contains text then return text ++ ' ' :: (← literalText g)
        else fail
    | _ => fail

/-- What stands in braces behind the opening one: an escaped form, or else entries. -/
def braceExpr (g : Grammar) : Parser Expr := do
  match ← attempt (escapedForm g) with
  | some text =>
      symbol "\x7d"
      return .other (inBraces text)
  | none =>
      if g.speaks [.duckdb, .generic] then return .other (← entries g identifierText) else fail

/-- `PRIOR` and what it refers to, behind its word. -/
def priorForm (g : Grammar) : Parser Expr := do
  return .other ("PRIOR ".toList ++ (← g.subexpr g.dialect.strengths.sum).render)

/-! ### The table of forms -/

/-- The notation that belongs to a keyword in front of a token. -/
def formOf? (g : Grammar) (name : Ident) (word : Text) (next : Option Token) :
    Option (Parser Expr) :=
  let isOne (words : List String) : Bool := words.any fun w => w.toList == word
  let isPostgres := g.dialect.name == .postgresql
  let isGeneric := g.dialect.name == .generic
  if isOne ["TRUE", "FALSE"] then some (return .literal (.plain (Text.toLower word)))
  else if isOne ["NULL"] then some (return .literal (.plain word))
  else if isOne ["CURRENT_CATALOG", "CURRENT_USER", "SESSION_USER", "USER"] &&
      g.dialect.sessionWords then
    some (return .call name.render)
  else if isOne ["CURRENT_TIMESTAMP", "CURRENT_TIME", "CURRENT_DATE", "LOCALTIME",
      "LOCALTIMESTAMP"] then
    some (clockForm g name)
  else if isOne ["CASE"] then some (caseForm g)
  else if isOne ["CONVERT"] then some (convertForm g word)
  else if isOne ["TRY_CONVERT"] && isGeneric then some (convertForm g word)
  else if isOne ["CAST", "TRY_CAST", "SAFE_CAST"] then some (castForm g word)
  else if isOne ["EXISTS"] then some (existsForm g false)
  else if isOne ["EXTRACT"] then some (extractForm g)
  else if isOne ["CEIL", "FLOOR"] then some (roundingForm g word)
  else if isOne ["POSITION"] && isSymbol "(" next then
    some (orTry (positionForm g) (call g name.render))
  else if isOne ["SUBSTR", "SUBSTRING"] then some (substringForm g word)
  else if isOne ["OVERLAY"] then some (overlayForm g)
  else if isOne ["TRIM"] then some (trimForm g)
  else if isOne ["INTERVAL"] then some (.other <$> interval g)
  else if isOne ["MATCH"] && g.speaks [.mysql, .generic] then some (matchForm g)
  else if isOne ["ARRAY"] && (isSymbol "[" next || isSymbol "(" next) then some (arrayForm g name)
  else if isOne ["NOT"] then some (notForm g)
  else if isOne ["STRUCT"] && isGeneric then some (structForm g)
  else if isOne ["PRIOR"] && g.place == .hierarchy then some (priorForm g)
  else if isOne ["MAP"] && isSymbol "\x7b" next && g.speaks [.duckdb, .generic] then
    some (mapForm g)
  else if isOne ["POINT", "BOX", "CIRCLE", "LINE", "LSEG", "PATH", "POLYGON"] && isPostgres then
    some (geometricForm g word)
  else none

/-- The notation that belongs to a name in front of a token, if the name is a keyword with one. -/
def specialForm? (g : Grammar) (name : Ident) (next : Option Token) : Option (Parser Expr) :=
  name.keyword?.bind fun word => formOf? g name word next

/-- Whether a name is a keyword that is no plain name where its notation does not fit. -/
def isNeverName (g : Grammar) (name : Ident) : Bool :=
  match name.keyword? with
  | none => false
  | some word =>
      ["EXISTS", "TRIM", "STRUCT"].any (fun w => w.toList == word) ||
        (word == "INTERVAL".toList && g.dialect.name != .postgresql)

end Parser

end Sql

end Pushdown
