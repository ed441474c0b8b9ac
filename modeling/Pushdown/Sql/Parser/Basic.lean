/-
**Parsers of SQL.**

A parser reads tokens from the front of a list and leaves the rest.  It fails in one of two ways:
the tokens do not fit, after which an alternative may be tried, or the tree is too deep, after which
nothing is tried any more.

The grammar is recursive: expressions hold queries, which hold expressions.  Each production gets
the others, one level further down, as a value of `Sql.Grammar`; the grammar of a level is built
from the one below, and at the bottom everything is too deep.

Main definitions:

* `Sql.Failure`, `Sql.Parser` — parsers and how they fail;
* `Sql.Parser.attempt` — an alternative that may fail;
* `Sql.Parser.keyword?`, `Sql.Parser.symbol?` — an optional token;
* `Sql.Parser.commaSeparated` — a list;
* `Sql.Grammar` — the productions of the level below.
-/

import Pushdown.Sql.Syntax

set_option autoImplicit false

namespace Pushdown

namespace Sql

/-- How a parser fails. -/
inductive Failure where
  /-- The tokens do not fit. -/
  | unexpected
  /-- The tree is too deep. -/
  | tooDeep
  deriving DecidableEq, Repr

/-- A parser reads tokens and leaves the rest. -/
abbrev Parser := StateT (List Token) (Except Failure)

namespace Parser

variable {α : Type}

/-! ### Failure and choice -/

/-- The parser that nothing fits. -/
def fail : Parser α := throw .unexpected

/-- The value of a parser, or nothing if the tokens do not fit; then no token is taken. -/
def attempt (p : Parser α) : Parser (Option α) := fun tokens =>
  match p tokens with
  | .ok (a, rest) => .ok (some a, rest)
  | .error .unexpected => .ok (none, tokens)
  | .error .tooDeep => .error .tooDeep

/-- The first parser, or the second one where the tokens do not fit the first. -/
def orTry (p q : Parser α) : Parser α := do
  match ← attempt p with
  | some a => return a
  | none => q

/-! ### Tokens -/

/-- The next token, left in place. -/
def peek : Parser (Option Token) := return (← get).head?

/-- A token further on, left in place. -/
def peekAt (n : Nat) : Parser (Option Token) := return (← get)[n]?

/-- Takes the next token. -/
def next : Parser Token := do
  match ← get with
  | [] => fail
  | token :: rest =>
      set rest
      return token

/-- Passes over the next token. -/
def skip : Parser Unit := modify List.tail

/-- The keyword that a token may be: a word without quotes, in capital letters. -/
def keywordOf? : Option Token → Option Text
  | some (.word text none) => some (Keyword.capitals text)
  | _ => none

/-- Whether a token is a keyword. -/
def isKeyword (word : String) (token : Option Token) : Bool := keywordOf? token == some word.toList

/-- Whether a token is one of some keywords. -/
def isAnyKeyword (words : List String) (token : Option Token) : Bool :=
  words.any fun word => isKeyword word token

/-- Whether a token is a symbol. -/
def isSymbol (s : String) (token : Option Token) : Bool := token == some (.symbol s.toList)

/-- Whether a token is a semicolon. -/
def isSemicolon : Option Token → Bool
  | some (.semicolon _) => true
  | _ => false

/-- Whether the next token is a keyword. -/
def peekKeyword (word : String) : Parser Bool := return isKeyword word (← peek)

/-- Whether the next token is a symbol. -/
def peekSymbol (s : String) : Parser Bool := return isSymbol s (← peek)

/-- Takes a keyword if it is there. -/
def keyword? (word : String) : Parser Bool := do
  if ← peekKeyword word then
    skip
    return true
  else return false

/-- Whether tokens start with keywords. -/
def startsWith : List String → List Token → Bool
  | [], _ => true
  | _ :: _, [] => false
  | word :: words, token :: rest => isKeyword word (some token) && startsWith words rest

/-- Takes several keywords if they are all there. -/
def keywords? (words : List String) : Parser Bool := do
  let tokens ← get
  if startsWith words tokens then
    set (tokens.drop words.length)
    return true
  else return false

/-- Takes one of several keywords if it is there. -/
def oneOf? (words : List String) : Parser (Option Text) := do
  let token ← peek
  if isAnyKeyword words token then
    skip
    return keywordOf? token
  else return none

/-- Takes a symbol if it is there. -/
def symbol? (s : String) : Parser Bool := do
  if ← peekSymbol s then
    skip
    return true
  else return false

/-- Takes a keyword. -/
def keyword (word : String) : Parser Unit := do
  if ← keyword? word then return () else fail

/-- Takes several keywords. -/
def keywords (words : List String) : Parser Unit := do
  if ← keywords? words then return () else fail

/-- Takes one of several keywords. -/
def oneOf (words : List String) : Parser Text := do
  match ← oneOf? words with
  | some word => return word
  | none => fail

/-- Takes the first of some groups of keywords that is there; the text is its keywords with a blank
in front of each, or nothing if there is none. -/
def phrase? : List (List String) → Parser Text
  | [] => return []
  | words :: rest => do
      if ← keywords? words then return words.flatMap fun word => ' ' :: word.toList
      else phrase? rest

/-- Takes a semicolon if it is there. -/
def semicolon? : Parser Bool := do
  if isSemicolon (← peek) then
    skip
    return true
  else return false

/-- Takes a symbol. -/
def symbol (s : String) : Parser Unit := do
  if ← symbol? s then return () else fail

/-- A value between parentheses. -/
def parenthesized (p : Parser α) : Parser α := do
  symbol "("
  let a ← p
  symbol ")"
  return a

/-- The number that decimal digits stand for, if it fits into 64 bits. -/
def natural? (digits : Text) : Option Nat :=
  let n := digits.foldl (fun n c => n * 10 + (c.toNat - '0'.toNat)) 0
  if digits.all Char.isDigit ∧ n < 0x10000000000000000 then some n else none

/-- A natural number, without leading zeros. -/
def natural : Parser Text := do
  match ← next with
  | .number digits _ =>
      match natural? digits with
      | some n => return Text.ofNat n
      | none => fail
  | _ => fail

/-- A number with a sign or without, whose value fits into 63 bits. -/
def signedNatural : Parser Text := do
  let isNegative ← symbol? "-"
  let _ ← if isNegative then pure false else symbol? "+"
  match ← next with
  | .number digits _ =>
      match natural? digits with
      | some n =>
          if n ≥ 0x8000000000000000 then fail
          return if isNegative ∧ 0 < n then '-' :: Text.ofNat n else Text.ofNat n
      | none => fail
  | _ => fail

/-! ### Lists -/

/-- The words that are never the second name of a column without `AS`. -/
def columnAliasRefused : List String :=
  ["WITH", "EXPLAIN", "ANALYZE", "SELECT", "WHERE", "GROUP", "SORT", "HAVING", "ORDER", "TOP",
    "LATERAL", "VIEW", "LIMIT", "OFFSET", "FETCH", "UNION", "EXCEPT", "EXCLUDE", "INTERSECT",
    "MINUS", "CLUSTER", "DISTRIBUTE", "RETURNING", "FROM", "INTO", "END"]

/-- Whether a list ends at a token behind its last comma. -/
def endsList : Option Token → Bool
  | none => true
  | some (.semicolon _) => true
  | some (.symbol s) => [[')'], [']'], ['\x7d']].contains s
  | token => isAnyKeyword columnAliasRefused token

/-- Takes the comma in front of a further element; the answer tells whether one follows.  With
`trailing`, a comma may stand behind the last element. -/
def listGoesOn (trailing : Bool) : Parser Bool := do
  if ← symbol? "," then
    if trailing then return !endsList (← peek) else return true
  else return false

/-- A list of at most as many elements as there is fuel. -/
def listFrom (trailing : Bool) (p : Parser α) : Nat → Parser (List α)
  | 0 => fail
  | fuel + 1 => do
      let a ← p
      if ← listGoesOn trailing then return a :: (← listFrom trailing p fuel) else return [a]

/-- A list with commas between its elements, of at least one element, in any dialect. -/
def listOf (trailing : Bool) (p : Parser α) : Parser (List α) := do
  listFrom trailing p ((← get).length + 1)

/-- A list with commas between its elements, of at least one element. -/
def commaSeparated (d : Dialect) (p : Parser α) : Parser (List α) := listOf d.trailingCommas p

/-- A list that may be empty in front of a closing symbol. -/
def commaSeparatedUnless (d : Dialect) (close : String) (p : Parser α) : Parser (List α) := do
  if ← peekSymbol close then return []
  else if d.trailingCommas && (← peekSymbol ",") && isSymbol close (← peekAt 1) then
    skip
    return []
  else commaSeparated d p

/-- The values of a parser as long as it gives some; each takes a token, so as many as there is fuel
at most. -/
def repeatFrom (p : Parser (Option α)) : Nat → Parser (List α)
  | 0 => return []
  | fuel + 1 => do
      match ← p with
      | some a => return a :: (← repeatFrom p fuel)
      | none => return []

/-- The values of a parser as long as it gives some. -/
def repeated (p : Parser (Option α)) : Parser (List α) := do
  repeatFrom p ((← get).length + 1)

end Parser

/-! ### Text of pieces -/

/-- The pieces that are not empty with a blank between. -/
def spaced (pieces : List Text) : Text := Text.joinWith [' '] (pieces.filter fun s => !s.isEmpty)

/-- A word and a text with a blank between, and a blank in front. -/
def clause (word : String) (s : Text) : Text := ' ' :: word.toList ++ ' ' :: s

/-- A clause of an optional text, or nothing. -/
def clauseOf (word : String) : Option Text → Text
  | none => []
  | some s => clause word s

/-- A word with a blank in front where a condition holds. -/
def mark (word : String) (condition : Bool) : Text := if condition then ' ' :: word.toList else []

/-- A word with a blank in front, or nothing. -/
def markOf : Option Text → Text
  | none => []
  | some word => ' ' :: word

/-- The texts of a list with commas between. -/
def listed (pieces : List Text) : Text := Text.joinWith comma pieces

namespace Parser

/-- A text behind a word, with a blank in front, if the word is there. -/
def clause? (word : String) (p : Parser Text) : Parser Text := do
  if ← keyword? word then return clause word (← p) else return []

/-- A text behind several words, with a blank in front, if the words are there. -/
def clauseBehind? (words : List String) (p : Parser Text) : Parser Text := do
  if ← keywords? words then
    return words.flatMap (fun word => ' ' :: word.toList) ++ ' ' :: (← p)
  else return []

/-- A text where a condition holds, and else nothing. -/
def textIf (condition : Bool) (p : Parser Text) : Parser Text :=
  if condition then p else return []

/-- Takes a keyword; the answer tells whether it is there and means something.  Where it does not it
is passed over. -/
def keywordWhere (word : String) (allowed : Bool) : Parser Bool :=
  return (← keyword? word) && allowed

/-- Takes several keywords; the answer tells whether they are there and mean something.  Where they
do not they are passed over. -/
def keywordsWhere (words : List String) (allowed : Bool) : Parser Bool :=
  return (← keywords? words) && allowed

/-- Takes a keyword where a condition holds.  Where it does not the keyword stays. -/
def keywordIf? (condition : Bool) (word : String) : Parser Bool :=
  if condition then keyword? word else return false

/-- Takes several keywords where a condition holds.  Where it does not they stay. -/
def keywordsIf? (condition : Bool) (words : List String) : Parser Bool :=
  if condition then keywords? words else return false

/-- Takes a symbol where a condition holds.  Where it does not the symbol stays. -/
def symbolIf? (condition : Bool) (s : String) : Parser Bool :=
  if condition then symbol? s else return false

/-- A text that is taken if it is there. -/
def orNothing (p : Parser Text) : Parser Text := return (← attempt p).getD []

end Parser

/-! ### Grammar -/

/-- The type of a value. -/
inductive DataType where
  /-- A type of the language. -/
  | known (text : Text)
  /-- A period of time, which is no type in front of a value. -/
  | interval (text : Text)
  /-- A type with a name of its own. -/
  | custom (text : Text)
  deriving DecidableEq, Repr

/-- The text of a type. -/
def DataType.render : DataType → Text
  | known text => text
  | interval text => text
  | custom text => text

/-- Where an expression stands. -/
inductive Place where
  | anywhere
  /-- In the definition of a column, whose properties follow an expression: `NOT NULL` is no test
  there and `COLLATE` no operator. -/
  | column
  /-- Behind `CONNECT BY`, where `PRIOR` refers to the row above. -/
  | hierarchy
  deriving DecidableEq, Repr

/-- The productions of the level below, and where the text stands that they read. -/
structure Grammar where
  dialect : Dialect
  place : Place
  /-- An expression of operators that bind tighter than a strength. -/
  subexprAt : Place → Nat → Parser Expr
  /-- An expression in front of any operator. -/
  primeAt : Place → Parser Expr
  queryAt : Place → Parser Query
  tableTreeAt : Place → Parser TableTree
  /-- The definition of a column. -/
  columnAt : Place → Parser Text
  statementAt : Place → Parser Statement

namespace Grammar

/-- The grammar below every level. -/
def tooDeep (d : Dialect) (place : Place) : Grammar where
  dialect := d
  place := place
  subexprAt _ _ := throw .tooDeep
  primeAt _ := throw .tooDeep
  queryAt _ := throw .tooDeep
  tableTreeAt _ := throw .tooDeep
  columnAt _ := throw .tooDeep
  statementAt _ := throw .tooDeep

/-- The same productions at another place. -/
def placed (g : Grammar) (place : Place) : Grammar := { g with place := place }

/-- An expression of operators that bind tighter than a strength. -/
def subexpr (g : Grammar) : Nat → Parser Expr := g.subexprAt g.place

/-- An expression in front of any operator. -/
def prime (g : Grammar) : Parser Expr := g.primeAt g.place

/-- A query. -/
def query (g : Grammar) : Parser Query := g.queryAt g.place

/-- A table with its joins. -/
def tableTree (g : Grammar) : Parser TableTree := g.tableTreeAt g.place

/-- The definition of a column. -/
def column (g : Grammar) : Parser Text := g.columnAt g.place

/-- A statement. -/
def statement (g : Grammar) : Parser Statement := g.statementAt g.place

/-- An expression. -/
def expr (g : Grammar) : Parser Expr := g.subexpr 0

/-- The text of an expression. -/
def exprText (g : Grammar) : Parser Text := Expr.render <$> g.expr

/-- The text of a query. -/
def queryText (g : Grammar) : Parser Text := Query.render <$> g.query

/-- The texts of a list of expressions. -/
def exprTexts (g : Grammar) : Parser (List Text) := Parser.commaSeparated g.dialect g.exprText

/-- A list of texts with commas between, as text. -/
def list (g : Grammar) (p : Parser Text) : Parser Text :=
  listed <$> Parser.commaSeparated g.dialect p

/-- A list of texts in parentheses, with them. -/
def listInParens (g : Grammar) (p : Parser Text) : Parser Text :=
  inParens <$> Parser.parenthesized (g.list p)

/-- A list of texts in parentheses that may be empty, with them. -/
def anyInParens (g : Grammar) (p : Parser Text) : Parser Text := do
  Parser.symbol "("
  let items ← Parser.commaSeparatedUnless g.dialect ")" p
  Parser.symbol ")"
  return inParens (listed items)

/-- Whether the dialect is one of some. -/
def speaks (g : Grammar) (names : List DialectName) : Bool := names.contains g.dialect.name

end Grammar

end Sql

end Pushdown
