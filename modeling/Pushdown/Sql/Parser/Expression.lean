/-
**Expressions of SQL.**

An expression starts with an operand; operators follow as long as they bind tighter than the
operator in front of the operand.  Every operator has a strength, and its right operand is read with
that strength as the bound, so operators of one strength group to the left.

Main definitions:

* `Sql.Parser.prime` — an operand;
* `Sql.Parser.compound` — accesses to its parts;
* `Sql.Parser.strengthOf` — how tightly the next operator binds;
* `Sql.Parser.infixed` — an operator and its right operand;
* `Sql.Parser.subexpr` — an expression.
-/

import Pushdown.Sql.Parser.Form

set_option autoImplicit false

namespace Pushdown

namespace Sql

namespace Parser

/-! ### Operands -/

/-- A value with its type in front. -/
def typedLiteral (g : Grammar) : Parser Expr := do
  match ← dataType g with
  | .interval _ => return .other (← interval g)
  | .custom _ => fail
  | .known type => return .other (type ++ ' ' :: (← literalText g))

/-- A string behind the name of its character set. -/
def introduced (g : Grammar) (name : Ident) : Parser Expr := do
  return .other (name.render ++ ' ' :: (← literalText { g with dialect := .ansi }))

/-- Whether a token is a string that may stand behind the name of its character set. -/
def isIntroducible : Option Token → Bool
  | some (.string .single _) => true
  | some (.string .double _) => true
  | some (.string .hex _) => true
  | _ => false

/-- A name and what makes it a call, a string or a function of one parameter. -/
def named (g : Grammar) (name : Ident) : Parser Expr := do
  let token ← peek
  if isSymbol "(" token then call g name.render
  else if isIntroducible token && name.value.head? == some '_' then introduced g name
  else if g.dialect.lambdas && isSymbol "->" token then
    skip
    return .other (name.render ++ " -> ".toList ++ (← g.exprText))
  else return .ident name

/-- An operand, and whether the order of its characters may follow. -/
abbrev Operand := Expr × Bool

/-- A name, or the special form that belongs to it. -/
def wordExpr (g : Grammar) (name : Ident) : Parser Operand := do
  match specialForm? g name (← peek) with
  | none => return (← named g name, true)
  | some form =>
      match ← attempt form with
      | some e => return (e, true)
      | none => if isNeverName g name then fail else return (← named g name, false)

/-- The parameters and the body of a function behind its opening parenthesis. -/
def lambda (g : Grammar) : Parser Expr := do
  if !g.dialect.lambdas then fail
  let params ← g.list identifierText
  symbol ")"
  symbol "->"
  return .other (inParens params ++ " -> ".toList ++ (← g.exprText))

/-- What stands behind an opening parenthesis: a query, an expression or several. -/
def group (g : Grammar) : Parser Operand := do
  let token ← peek
  if isAnyKeyword ["SELECT", "WITH"] token then
    let query ← g.query
    symbol ")"
    return (.subquery query, true)
  else
    -- Where there are no functions of parameters this fails at once and takes no token.
    match ← attempt (lambda g) with
    | some e => return (e, false)
    | none =>
        let items ← commaSeparated g.dialect g.expr
        symbol ")"
        match items with
        | [item] => return (.nested item, true)
        | items => return (.other (inParens (listed (items.map Expr.render))), true)

/-- Signs of PostgreSQL in front of an operand. -/
def signs : List Text := ["!!".toList, "|/".toList, "||/".toList]

/-- Operators of geometry in front of an operand. -/
def geometricSigns : List Text :=
  [['#'], "@-@".toList, "@@".toList, "?-".toList, "?|".toList]

/-- An operand that starts with a symbol. -/
def symbolExpr (g : Grammar) (s : Text) : Parser Expr := do
  let isPostgres := g.dialect.name == .postgresql
  if s = ['['] then return .other (← elements g)
  else if s = ['\x7b'] then braceExpr g
  else if s = ['+'] ∨ s = ['-'] then
    -- A sign binds tighter than a product, so its operand holds no product.
    return .unary ⟨s, .attached⟩ (← g.subexpr g.dialect.strengths.product)
  else if s = ['~'] ∨ (isPostgres ∧ signs.contains s) then
    return .unary ⟨s, .attached⟩ (← g.subexpr g.dialect.strengths.sum)
  else if isPostgres ∧ geometricSigns.contains s then
    return .unary ⟨s, .spaced⟩ (← g.subexpr g.dialect.strengths.sum)
  else fail

/-- An operand that starts with a token. -/
def tokenExpr (g : Grammar) (token : Token) : Parser Operand :=
  match token with
  | .word text quote => wordExpr g ⟨text, quote⟩
  | .symbol s => if s = ['('] then group g else whole (symbolExpr g s)
  | .semicolon _ => fail
  | .operator _ => fail
  | .atSign joined =>
      whole do
        if g.dialect.name = .postgresql then
          return .unary ⟨['@'], .attached⟩ (← g.subexpr g.dialect.strengths.sum)
        else .literal <$> placeholderName '@' joined
  | .colon joined => whole (.literal <$> placeholderName ':' joined)
  | .number digits long =>
      return (.literal (.plain (digits ++ if long then ['L'] else [])), true)
  | .string .single content =>
      whole do return .literal (.string .single (← joined g.dialect content))
  | .string .double content =>
      whole do return .literal (.string .double (← joined g.dialect content))
  | .string style content => return (.literal (.string style content), true)
  | .placeholder text => return (.literal (.plain text), true)
where
  /-- An operand that the order of its characters may follow. -/
  whole (p : Parser Expr) : Parser Operand := return (← p, true)

/-- An operand with the order of its characters, if that is given. -/
def collated (g : Grammar) (operand : Operand) : Parser Expr := do
  if ← keywordIf? (operand.2 && g.place != .column) "COLLATE" then
    return .other (operand.1.render ++ clause "COLLATE" (← objectNameText))
  else return operand.1

/-- An operand.  A value with its type in front is tried first. -/
def prime (g : Grammar) : Parser Expr := do
  match ← attempt (typedLiteral g) with
  | some e => return e
  | none => collated g (← tokenExpr g (← next))

/-! ### Parts of a value -/

/-- A part of a value: what follows a period, or what stands in brackets. -/
inductive Access where
  | part (text : Text) (isName : Bool)
  | subscript (text : Text)

/-- The text of an access. -/
def Access.render : Access → Text
  | part text _ => '.' :: text
  | subscript text => '[' :: text ++ [']']

/-- A part behind a period that is more than a name. -/
def partExpr (g : Grammar) : Parser Access := do
  match ← g.subexpr g.dialect.strengths.period with
  | .ident name => return .part name.render true
  | .compound text => return .part text false
  | .literal value => return .part value.render false
  | .call text => return .part text false
  | _ => fail

/-- A part behind a period. -/
def part (g : Grammar) : Parser Access := do
  match ← peek with
  | some (.string .single content) =>
      skip
      return .part (Ident.render ⟨content, some '\''⟩) true
  | some (.placeholder text) =>
      skip
      return .part text true
  | _ => orTry (partExpr g) do return .part (← identifierText) true

/-- The upper end and the step of a range of subscripts. -/
def subscriptEnd (g : Grammar) : Parser Text := do
  if ← peekSymbol "]" then return []
  else
    let upper ← g.exprText
    match ← peek with
    | some (.colon _) =>
        skip
        if ← peekSymbol "]" then return upper ++ [':'] else return upper ++ ':' :: (← g.exprText)
    | _ => return upper

/-- A subscript or a range of them behind the opening bracket. -/
def subscript (g : Grammar) : Parser Access := do
  let lower ←
    match ← peek with
    | some (.colon _) => pure []
    | _ => g.exprText
  let inner ←
    match ← peek with
    | some (.colon _) =>
        skip
        pure (lower ++ ':' :: (← subscriptEnd g))
    | _ => pure lower
  symbol "]"
  return .subscript inner

/-- The next access, if there is one.  A star behind a period is none. -/
def access? (g : Grammar) : Parser (Option Access) := do
  if ← peekSymbol "." then
    if isSymbol "*" (← peekAt 1) then return none
    else
      skip
      some <$> part g
  else if ← symbol? "[" then some <$> subscript g
  else return none

/-- Whether an expression and its accesses are a name of several parts. -/
def isNameChain (root : Expr) (chain : List Access) : Bool :=
  (match root with
    | .ident _ => true
    | _ => false) &&
    chain.all fun a =>
      match a with
      | .part _ isName => isName
      | .subscript _ => false

/-- An operand with the accesses to its parts. -/
def compound (g : Grammar) : Parser Expr := do
  let root ← prime g
  let chain ← repeated (access? g)
  let text := root.render ++ (chain.map Access.render).flatten
  let whole := if chain.isEmpty then root else .compound text
  let starred ←
    if g.dialect.name = .postgresql ∧ isNameChain root chain then keywordStar else pure false
  return if starred then .other (text ++ ".*".toList) else whole
where
  /-- Takes a period and a star if they are there. -/
  keywordStar : Parser Bool := do
    if (← peekSymbol ".") && isSymbol "*" (← peekAt 1) then
      skip
      skip
      return true
    else return false

/-! ### Strengths -/

/-- Whether a symbol is one of some. -/
def isOneOf (symbols : List String) (s : Text) : Bool := symbols.any fun t => t.toList == s

/-- The operators of geometry. -/
def geometricOperators : List String :=
  ["##", "&<", "&>", "&<|", "|&>", "?-", "?-|", "?#", "?||", "<->", "<^", ">^", "~=", "<<|", "|>>"]

/-- How tightly a symbol binds, or zero if it is no operator. -/
def symbolStrength (d : Dialect) (s : Text) : Nat :=
  let postgres := d.name == .postgresql
  let w := d.strengths
  if isOneOf ["=", "<", "<=", "<>", "!=", ">", ">=", "==", "<=>", ":=", "~", "~*", "!~", "!~*",
      "~~", "~~*", "!~~", "!~~*"] s then w.comparison
  else if isOneOf ["+", "-"] s then w.sum
  else if isOneOf ["*", "/", "//", "%"] s then w.product
  else if isOneOf ["||"] s then w.concat
  else if isOneOf ["|"] s then w.pipe
  else if isOneOf ["&&"] s then (if postgres then w.arrow else w.pipe)
  else if isOneOf ["^"] s then w.caret
  else if isOneOf ["#", "<<", ">>"] s then w.shift
  else if isOneOf ["&"] s then w.ampersand
  else if isOneOf ["::"] s then w.cast
  else if isOneOf ["!", "^@"] s then (if postgres then w.arrow else w.cast)
  else if isOneOf ["["] s then w.subscript
  else if isOneOf ["->", "->>", "#>", "#>>", "@>", "<@", "#-", "@?", "@@", "?", "?&", "?|"] s then
    w.arrow
  else if isOneOf geometricOperators s then w.pipe
  else 0

/-- How tightly an operator behind `NOT` binds. -/
def negatedStrength (g : Grammar) (token : Option Token) : Nat :=
  let w := g.dialect.strengths
  if isAnyKeyword ["IN", "BETWEEN"] token then w.between
  else if isAnyKeyword ["LIKE", "ILIKE", "RLIKE", "REGEXP", "MATCH", "SIMILAR", "MEMBER"] token then
    w.like
  else if isKeyword "NULL" token && g.place != .column then w.is
  else 0

/-- How tightly a word binds, or zero if it is no operator. -/
def wordStrength (g : Grammar) (token : Option Token) (rest : List Token) : Nat :=
  let w := g.dialect.strengths
  if isKeyword "OR" token then w.or
  else if isKeyword "AND" token then w.and
  else if isKeyword "XOR" token then w.xor
  else if isKeyword "AT" token then
    if startsWith ["TIME", "ZONE"] rest then w.atTimeZone else 0
  else if isKeyword "NOT" token then negatedStrength g rest.head?
  else if isKeyword "NOTNULL" token then (if g.dialect.notNullOperator then w.is else 0)
  else if isKeyword "IS" token then w.is
  else if isAnyKeyword ["IN", "BETWEEN", "OVERLAPS", "OPERATOR"] token then w.between
  else if isAnyKeyword ["LIKE", "ILIKE", "RLIKE", "REGEXP", "MATCH", "SIMILAR", "MEMBER"] token then
    w.like
  else if isKeyword "DIV" token then w.product
  -- Here the word binds tightly and yet is no operator.
  else if isKeyword "COLLATE" token && g.dialect.name == .postgresql && g.place != .column then
    w.collate
  else 0

/-- How tightly the operator at the front of some tokens binds, or zero if there is none. -/
def strengthOf (g : Grammar) : List Token → Nat
  | [] => 0
  | token :: rest =>
      match token with
      | .word _ none => wordStrength g (some token) rest
      | .symbol s => symbolStrength g.dialect s
      | .operator _ => g.dialect.strengths.arrow
      | .atSign _ => if g.dialect.name = .postgresql then g.dialect.strengths.pipe else 0
      | _ => 0

/-! ### Operators -/

/-- The operator that a symbol is in a dialect. -/
def symbolOperator? (d : Dialect) (s : Text) : Option Operator :=
  let postgres := d.name == .postgresql
  if isOneOf ["=", "=="] s then some .eq
  else if isOneOf ["!=", "<>"] s then some (.other "<>".toList)
  else if isOneOf ["#"] s then (if postgres then some (.other s) else none)
  else if isOneOf ["&&"] s then
    if d.overlap then some (.other s) else none
  else if isOneOf ["//"] s then (if d.doubleSlash then some (.other s) else none)
  else if isOneOf ["<<", ">>"] s then (if d.shifts then some (.other s) else none)
  else if isOneOf ["^@"] s then
    if postgres || d.name == .generic then some (.other s) else none
  else if isOneOf ["::", "[", "!"] s then none
  else some (.other s)

/-- The operator at the front that takes one operand on each side, if it is one. -/
def binaryOperator? (d : Dialect) (token : Token) : Parser (Option Operator) := do
  if isKeyword "AND" (some token) then return some .and
  else if isKeyword "OR" (some token) then return some .or
  else if isAnyKeyword ["XOR", "OVERLAPS"] (some token) then
    return (keywordOf? (some token)).map .other
  else if isKeyword "OPERATOR" (some token) && d.sessionWords then
    let name ← parenthesized operatorName
    return some (.other ("OPERATOR".toList ++ inParens name))
  else
    match token with
    | .symbol s => return symbolOperator? d s
    | .operator s => return some (.other s)
    | .atSign _ =>
        return if d.name = .postgresql then some (.other ['@']) else none
    | _ => return none

/-- Whether an operator may compare with all or any elements. -/
def comparesElements : Operator → Bool
  | .eq => true
  | .other s =>
      isOneOf ["<>", "<", "<=", ">", ">=", "~", "~*", "!~", "!~*", "~~", "~~*", "!~~", "!~~*"] s
  | _ => false

/-- The elements that an operator compares with, behind `ANY` or `ALL`: an expression or a query. -/
def comparedElements (g : Grammar) (strength : Nat) : Parser Text := do
  if isAnyKeyword ["SELECT", "WITH"] (← peekAt 1) then
    match ← g.subexpr strength with
    | .subquery query => return inParens query.render
    | right => return inParens right.render
  else return inParens (← parenthesized (g.subexpr strength)).render

/-- An operator with its right operand. -/
def binaryTail (g : Grammar) (strength : Nat) (left : Expr) (op : Operator) : Parser Expr := do
  match ← oneOf? ["ANY", "ALL", "SOME"] with
  | some quantifier =>
      if !(← peekSymbol "(") then fail
      let elements ← comparedElements g strength
      if !comparesElements op then fail
      return .other (left.render ++ ' ' :: op.render ++ ' ' :: quantifier ++ elements)
  | none => return .binary op left (← g.subexpr strength)

/-! ### Predicates -/

/-- What follows `IS`. -/
def isTail (g : Grammar) (left : Expr) : Parser Expr := do
  let negation := renderNot (← keyword? "NOT")
  match ← oneOf? ["NULL", "TRUE", "FALSE", "UNKNOWN"] with
  | some word => return .other (left.render ++ " IS ".toList ++ negation ++ word)
  | none =>
      if ← keywords? ["DISTINCT", "FROM"] then
        return .other
          (left.render ++ " IS ".toList ++ negation ++ "DISTINCT FROM ".toList ++ (← g.exprText))
      else
        let form := (← oneOf? ["NFC", "NFD", "NFKC", "NFKD"]).getD []
        keyword "NORMALIZED"
        return .other (spaced [left.render, "IS".toList] ++ ' ' :: negation ++
          spaced [form, "NORMALIZED".toList])

/-- What follows `IN`. -/
def inTail (g : Grammar) (left : Expr) (negated : Bool) : Parser Expr := do
  let front := left.render ++ ' ' :: renderNot negated ++ "IN ".toList
  if ← keyword? "UNNEST" then
    let array ← parenthesized g.exprText
    return .other (front ++ "UNNEST".toList ++ inParens array)
  else
    symbol "("
    match ← attempt g.query with
    | some query =>
        symbol ")"
        return .other (front ++ inParens query.render)
    | none =>
        let items ←
          if g.dialect.emptyInLists then commaSeparatedUnless g.dialect ")" g.expr
          else commaSeparated g.dialect g.expr
        symbol ")"
        return .inList left items negated

/-- The escape character behind a pattern, if it is there. -/
def escape? (g : Grammar) : Parser Text := do
  if ← keyword? "ESCAPE" then return clause "ESCAPE" (← literalText g) else return []

/-- A pattern and its escape character. -/
def pattern (g : Grammar) : Parser Text := do
  let text ← Expr.render <$> g.subexpr g.dialect.strengths.like
  return text ++ (← escape? g)

/-- A predicate that starts at its first word, behind its left side. -/
def predicateTail (g : Grammar) (left : Expr) : Parser Expr := do
  let negated ← keyword? "NOT"
  let front := left.render ++ ' ' :: renderNot negated
  let regexp ← keyword? "REGEXP"
  let rlike ← keyword? "RLIKE"
  let isNull ← if g.place = .column then pure false else keyword? "NULL"
  if regexp || rlike then
    let word := if regexp then "REGEXP ".toList else "RLIKE ".toList
    return .other (front ++ word ++ (← g.subexpr g.dialect.strengths.like).render)
  else if negated && isNull then return .other (left.render ++ " IS NOT NULL".toList)
  else if ← keyword? "IN" then inTail g left negated
  else if ← keyword? "BETWEEN" then
    let low ← g.subexpr g.dialect.strengths.between
    keyword "AND"
    let high ← g.subexpr g.dialect.strengths.between
    return .other
      (front ++ "BETWEEN ".toList ++ low.render ++ " AND ".toList ++ high.render)
  else
    match ← oneOf? ["LIKE", "ILIKE"] with
    | some word =>
        let quantifier := if ← keyword? "ANY" then "ANY ".toList else []
        return .other (front ++ word ++ ' ' :: quantifier ++ (← pattern g))
    | none =>
        keywords ["SIMILAR", "TO"]
        return .other (front ++ "SIMILAR TO ".toList ++ (← pattern g))

/-- What follows `MEMBER`. -/
def memberTail (g : Grammar) (left : Expr) : Parser Expr := do
  keyword "OF"
  return .other (left.render ++ " MEMBER OF".toList ++ inParens (← parenthesized g.exprText))

/-- A type behind `::`. -/
def castTail (g : Grammar) (left : Expr) : Parser Expr := do
  return .other (left.render ++ "::".toList ++ (← dataTypeText g))

/-- Operators of single dialects with everything behind them as operand. -/
def greedyOperator? (d : Dialect) : Parser (Option Operator) := do
  let words := (if d.matchOperators then ["MATCH", "REGEXP"] else []) ++
    (if d.divOperator then ["DIV"] else [])
  return (← oneOf? words).map .other

/-- The operator at the front and what belongs to it, behind its left operand. -/
def infixed (g : Grammar) (strength : Nat) (left : Expr) : Parser Expr := do
  match ← greedyOperator? g.dialect with
  | some op => return .binary op left (← g.expr)
  | none =>
      let tokens ← get
      let token ← next
      match ← binaryOperator? g.dialect token with
      | some op => binaryTail g strength left op
      | none =>
          if isKeyword "IS" (some token) then isTail g left
          else if isKeyword "AT" (some token) then
            keywords ["TIME", "ZONE"]
            return .other (left.render ++ clause "AT TIME ZONE" (← g.subexpr strength).render)
          else if isAnyKeyword ["NOT", "IN", "BETWEEN", "LIKE", "ILIKE", "SIMILAR", "REGEXP",
              "RLIKE"] (some token) then
            set tokens
            predicateTail g left
          else if isKeyword "NOTNULL" (some token) then
            return .other (left.render ++ " IS NOT NULL".toList)
          else if isKeyword "MEMBER" (some token) then memberTail g left
          else if isSymbol "::" (some token) then castTail g left
          else if isSymbol "!" (some token) && g.dialect.name == .postgresql then
            return .unary ⟨['!'], .behind⟩ left
          else fail

/-- An expression whose operators bind tighter than a bound, behind its first operand; there are at
most as many operators as there is fuel. -/
def operatorsFrom (g : Grammar) (bound : Nat) : Nat → Expr → Parser Expr
  | 0, _ => fail
  | fuel + 1, left => do
      -- An operator of the strength of the bound belongs to the expression around this one.
      let strength := strengthOf g (← get)
      if strength ≤ bound then return left
      else operatorsFrom g bound fuel (← infixed g strength left)

/-- An expression whose operators bind tighter than a bound. -/
def subexpr (g : Grammar) (bound : Nat) : Parser Expr := do
  let first ← compound g
  operatorsFrom g bound ((← get).length + 1) first

end Parser

end Sql

end Pushdown
