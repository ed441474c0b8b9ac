/-
**Configuration documents.**

A configuration is written in YAML.  Every part may be left out, and parts with other names are
ignored.  A value that is not written stands for an empty text, list or mapping, as its place asks.

Main definitions:

* `Config.ofNode?` — the configuration of a document;
* `Config.parse?` — the configuration of a text.
-/

import Pushdown.Config.Basic
import Pushdown.Yaml.Node

set_option autoImplicit false

namespace Pushdown

namespace Yaml

namespace Node

/-! ### Reading nodes -/

/-- The text of a scalar. -/
def text? : Node → Option Text
  | scalar _ _ text => some text
  | _ => none

/-- Whether a node is an empty scalar. -/
def isEmptyScalar : Node → Bool
  | scalar _ _ text => text.isEmpty
  | _ => false

/-- The elements of a sequence of scalars. -/
def texts? : Node → Option (List Text)
  | sequence items => items.mapM text?
  | node => if node.isEmptyScalar then some [] else none

/-- The entries of a mapping whose keys are scalars. -/
def entries? : Node → Option (List (Text × Node))
  | mapping entries => entries.mapM fun e => (text? e.1).map fun key => (key, e.2)
  | node => if node.isEmptyScalar then some [] else none

/-- The dictionary of a mapping of scalars to scalars. -/
def dictionary? (node : Node) : Option (Dictionary Text) :=
  match node.entries? with
  | none => none
  | some entries =>
      (entries.mapM fun e => (text? e.2).map fun text => (e.1, text)).map Dictionary.ofList

/-- The value of a part that may be written once: the default if it is not written, and nothing at
all if it is written twice or is not readable. -/
def part? {α : Type} (name : String) (default : α) (read? : Node → Option α)
    (entries : List (Text × Node)) : Option α :=
  match entries.filter fun e => e.1 == name.toList with
  | [] => some default
  | [(_, node)] => read? node
  | _ => none

/-- The ways to write that a tag has no value. -/
def nullTexts : List Text := [[], ['~'], "null".toList, "Null".toList, "NULL".toList]

/-- The name of a choice: a scalar, or a tag without a value. -/
def choice? : Node → Option Text
  | scalar none _ text => some text
  | scalar (some tag) isPlain text =>
      if isPlain && nullTexts.contains text then
        some (match tag with
          | '!' :: name => name
          | name => name)
      else none
  | _ => none

end Node

end Yaml

namespace Config

open Yaml

/-- The whitelist of a node. -/
def whitelistOf? (node : Node) : Option Whitelist := do
  let entries ← node.entries?
  let headers ← Node.part? "headers" Dictionary.empty Node.dictionary? entries
  let params ← Node.part? "query_params" Dictionary.empty Node.dictionary? entries
  return ⟨headers, params⟩

/-- The authentication of a node. -/
def authOf? (node : Node) : Option Auth := do
  let entries ← node.entries?
  let token ← Node.part? "token_env" Auth.default.tokenVariable Node.text? entries
  let domains ←
    Node.part? "whitelisted_domains_env" Auth.default.domainsVariable Node.text? entries
  let hosts ← Node.part? "whitelisted_domains" [] Node.texts? entries
  return ⟨token, domains, hosts⟩

/-- The dialect of a node. -/
def dialectOf? (node : Node) : Option DialectName := do DialectName.ofName? (← node.choice?)

/-- The configuration of a document. -/
def ofNode? (node : Node) : Option Config := do
  let entries ← node.entries?
  let dialect ← Node.part? "dialect" .postgresql dialectOf? entries
  let whitelist ← Node.part? "whitelist" .empty whitelistOf? entries
  let auth ← Node.part? "auth" .default authOf? entries
  return ⟨dialect, whitelist, auth⟩

/-- The configuration of a text, or nothing if the text is no document of that form.  A text without
a document stands for all defaults. -/
def parse? (text : Text) : Option Config :=
  if Text.isBlankText text then some default
  else
    match Node.parse? text with
    | none => none
    | some none => some default
    | some (some node) => ofNode? node

end Config

end Pushdown
