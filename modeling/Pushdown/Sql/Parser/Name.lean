/-
**Names and literals in SQL.**

A name is a word or a quoted string.  A literal is a string, a number, a truth value or a
placeholder.

Main definitions:

* `Sql.Parser.identifier`, `Sql.Parser.objectName` — a name, and a name of several parts;
* `Sql.Parser.literal`, `Sql.Parser.stringContent` — a literal, and a string.
-/

import Pushdown.Sql.Parser.Basic

set_option autoImplicit false

namespace Pushdown

namespace Sql

namespace Parser

/-! ### Names -/

/-- The name that a token may be. -/
def identOf? : Token → Option Ident
  | .word text quote => some ⟨text, quote⟩
  | .string .single content => some ⟨content, some '\''⟩
  | .string .double content => some ⟨content, some '"'⟩
  | _ => none

/-- A name. -/
def identifier : Parser Ident := do
  match identOf? (← next) with
  | some name => return name
  | none => fail

/-- The text of a name. -/
def identifierText : Parser Text := Ident.render <$> identifier

/-- A period and a name, if they are there. -/
def furtherPart? : Parser (Option Ident) := do
  if ← symbol? "." then some <$> identifier else return none

/-- A name of several parts. -/
def objectName : Parser (List Ident) := do
  return (← identifier) :: (← repeated furtherPart?)

/-- The text of a name of several parts. -/
def objectNameText : Parser Text := renderName <$> objectName

/-- A part of the name of an operator: a token, which need not be a word. -/
def operatorPart : Parser Text := do
  match ← next with
  | .word text quote => return Ident.render ⟨text, quote⟩
  | .number digits long => return if long then digits ++ ['L'] else digits
  | .string style content => return style.enclose content
  | .placeholder text => return text
  | .symbol s => return s
  | .semicolon _ => return [';']
  | .operator s => return s
  | .colon _ => return [':']
  | .atSign _ => return ['@']

/-- A further part of the name of an operator, if it is there. -/
def furtherOperatorPart? : Parser (Option Text) := do
  if ← symbol? "." then some <$> operatorPart else return none

/-- The name of an operator. -/
def operatorName : Parser Text := do
  let first ← operatorPart
  return Text.joinWith ['.'] (first :: (← repeated furtherOperatorPart?))

/-- Names in parentheses, as text. -/
def parenthesizedNames (g : Grammar) : Parser Text :=
  inParens <$> parenthesized (g.list identifierText)

/-- Names in parentheses with a blank in front, if they are there. -/
def parenthesizedNames? (g : Grammar) : Parser Text := do
  if ← peekSymbol "(" then return ' ' :: (← parenthesizedNames g) else return []

/-- The names up to the end of a statement, the next step of a query or an equals sign.  Everything
between them is passed over. -/
def wordsToEnd : Parser (List Text) := do
  let isInside (token : Token) : Bool :=
    !isSemicolon (some token) && !([['='], ['|', '>']].any fun s => token == .symbol s)
  let tokens := (← get).takeWhile isInside
  set ((← get).dropWhile isInside)
  return tokens.filterMap fun token =>
    match token with
    | .word text quote => some (Ident.render ⟨text, quote⟩)
    | _ => none

/-! ### Literals -/

/-- Strings that follow a string and are one with it. -/
def furtherString? : Parser (Option Text) := do
  match ← peek with
  | some (.string .single content) =>
      skip
      return some content
  | some (.string .double content) =>
      skip
      return some content
  | _ => return none

/-- The content of a string with what the strings behind it add. -/
def joined (d : Dialect) (content : Text) : Parser Text := do
  if d.joinsStrings then return content ++ (← repeated furtherString?).flatten else return content

/-- The rest of a placeholder behind its sign: a word or a number directly behind it. -/
def placeholderName (sign : Char) (joined : Bool) : Parser Literal := do
  if !joined then fail
  match ← next with
  | .word text _ => return .plain (sign :: text)
  | .number digits false => return .plain (sign :: digits)
  | _ => fail

/-- A literal. -/
def literal (d : Dialect) : Parser Literal := do
  match ← next with
  | .word text none =>
      let word := Keyword.capitals text
      if word = "TRUE".toList then return .plain "true".toList
      else if word = "FALSE".toList then return .plain "false".toList
      else if word = "NULL".toList then return .plain word
      else fail
  | .word text (some quote) => if quote = '"' then return .string .double text else fail
  | .number digits long => return .plain (digits ++ if long then ['L'] else [])
  | .string .single content => return .string .single (← joined d content)
  | .string .double content => return .string .double (← joined d content)
  | .string style content => return .string style content
  | .placeholder text => return .plain text
  | .colon joined => placeholderName ':' joined
  | .atSign joined => placeholderName '@' joined
  | _ => fail

/-- The text of a literal. -/
def literalText (g : Grammar) : Parser Text := Literal.render <$> literal g.dialect

/-- The content of a string, or a word that is no keyword. -/
def stringContent (g : Grammar) : Parser Text := do
  match ← next with
  | .word text quote =>
      if quote.isSome || !Keyword.isReserved (Keyword.capitals text) then return text else fail
  | .string .single content => return content
  | .string .double content => return content
  | .string .unicode content => return content
  | .string .escaped content => if g.speaks [.postgresql, .generic] then return content else fail
  | _ => fail

/-- A content in single quotes. -/
def quoted (content : Text) : Text := '\'' :: doubleQuotes '\'' content ++ ['\'']

/-- The text of a string. -/
def quotedText (g : Grammar) : Parser Text := quoted <$> stringContent g

/-- The text of a string in single quotes, with its content as it is. -/
def rawQuotedText (g : Grammar) : Parser Text := do
  return '\'' :: (← stringContent g) ++ ['\'']

/-- A number or placeholder, with a sign or without. -/
def signedNumber (g : Grammar) : Parser Text := do
  let sign ←
    if ← symbol? "+" then pure ['+'] else if ← symbol? "-" then pure ['-'] else pure []
  let token ← peek
  let value ← literalText g
  match token with
  | some (.number _ _) => return sign ++ value
  | some (.placeholder _) => return sign ++ value
  | some (.colon _) => return sign ++ value
  | some (.atSign _) => return sign ++ value
  | _ => fail

/-- A number or placeholder without a sign. -/
def unsignedNumber (g : Grammar) : Parser Text := do
  if (← peekSymbol "+") || (← peekSymbol "-") then fail else signedNumber g

end Parser

end Sql

end Pushdown
