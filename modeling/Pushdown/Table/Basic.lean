/-
**Virtual tables.**

A virtual table is one text that carries all that a request needs:

    path ? parameters & header1=name:value & body=JSON # fragment

Query names that start with `header` carry header pairs, the name `body` carries the JSON body, and
every other name is a parameter.  The fragment is a JSONPath that selects rows of the response.  A
text that holds `://` is an absolute URL, of which path, query and fragment count.

Main definitions:

* `Table` — the parts of a virtual table;
* `Table.encode`, `Table.decode` — writing and reading;
* `SingleTable`, `SingleTable.decode` — reading with one value for each parameter and header;
* `Table.DecodeError` — why a text is no virtual table.
-/

import Pushdown.Codec.Form
import Pushdown.Json.Parser
import Pushdown.Json.Printer
import Pushdown.Table.Header
import Pushdown.Table.Params
import Pushdown.Text.Blank
import Pushdown.Url.Basic

set_option autoImplicit false

namespace Pushdown

/-- A virtual table. -/
structure Table where
  path : Text
  params : Params
  /-- One value for each name; several values are joined by commas. -/
  headers : Dictionary Text
  body : Option Json
  /-- The JSONPath that selects rows of the response. -/
  fragment : Text
  deriving DecidableEq

namespace Table

/-- The fragment of a table that has none: all items of a list. -/
def defaultFragment : Text := "$[*]".toList

/-- What a query name starts with whose value is a header pair. -/
def headerPrefix : Text := "header".toList

/-- The query name whose value is the body. -/
def bodyName : Text := "body".toList

/-! ### Building -/

/-- The table with a path and nothing else. -/
def ofPath (path : Text) : Table := ⟨path, Params.empty, Dictionary.empty, none, defaultFragment⟩

/-- The table with one more parameter value. -/
def withParam (t : Table) (name value : Text) : Table :=
  { t with params := t.params.append name value }

/-- The table with a header. -/
def withHeader (t : Table) (name value : Text) : Table :=
  { t with headers := t.headers.insert name value }

/-- The table with a body. -/
def withBody (t : Table) (body : Json) : Table := { t with body := some body }

/-- The table with a fragment; an empty one stands for the default. -/
def withFragment (t : Table) (fragment : Text) : Table :=
  { t with fragment := if fragment.isEmpty then defaultFragment else fragment }

/-! ### Writing -/

/-- A body as a query value. -/
def encodeBody (body : Json) : Text := Percent.encode body.compact

/-- Header pairs numbered from `n` on. -/
def headerPairs (n : Nat) : List (Text × Text) → List Text
  | [] => []
  | (name, value) :: rest =>
      (headerPrefix ++ Text.ofNat n ++ '=' :: Percent.encode name ++
        ':' :: Percent.encode value) :: headerPairs (n + 1) rest

/-- The pairs of the query: parameters, then headers, then the body. -/
def queryPieces (t : Table) : List Text :=
  (if t.params.isEmpty then [] else [Form.writePairs t.params.pairs]) ++
    headerPairs 1 t.headers.entries ++
    (match t.body with
      | none => []
      | some body => [bodyName ++ '=' :: encodeBody body])

/-- The query behind its question mark; nothing if there are no pairs. -/
def queryText (t : Table) : Text :=
  match t.queryPieces with
  | [] => []
  | pieces => '?' :: Text.joinWith ['&'] pieces

/-- A fragment as written: reading decodes escapes, so a percent sign is escaped. -/
def encodeFragment (fragment : Text) : Text := Text.replaceChar '%' "%25".toList fragment

/-- The text of a virtual table. -/
def encode (t : Table) : Text := t.path ++ t.queryText ++ '#' :: encodeFragment t.fragment

/-! ### Reading -/

/-- Why a text is no virtual table. -/
inductive DecodeError where
  /-- A header pair has no colon. -/
  | malformedHeader (pair : Text)
  /-- A body is not JSON. -/
  | body (cause : Json.ReadError)
  /-- The octets of an escaped text are not UTF-8. -/
  | encoding (fault : Utf8.Fault)
  /-- A text that counts as an absolute URL is not one. -/
  | url (cause : Url.Error)
  deriving DecidableEq, Repr

/-- The description of a fault in a body. -/
def bodyFaultText : Json.ReadError → Text
  | .unexpected => "unexpected character".toList
  | .tooDeep => "nesting too deep".toList
  | .outOfRange => "number out of range".toList

/-- The description of an error. -/
def DecodeError.message : DecodeError → Text
  | .malformedHeader pair =>
      "malformed header pair '".toList ++ pair ++ "', expected <name>:<value>".toList
  | .body cause => "malformed request body: ".toList ++ bodyFaultText cause
  | .encoding fault => "malformed percent-encoding: ".toList ++ fault.message
  | .url cause => "invalid URL: ".toList ++ cause.message

/-- The body an escaped text stands for. -/
def decodeBody (s : Text) : Except DecodeError Json :=
  match Percent.decode s with
  | .error fault => .error (.encoding fault)
  | .ok text =>
      match Json.parse text with
      | .error cause => .error (.body cause)
      | .ok body => .ok body

/-- Path, query and fragment of a text without blanks at its ends. -/
def split (s : Text) : Except DecodeError (Text × Text × Text) :=
  if Text.isInfix "://".toList s then
    match Url.parse s with
    | .error cause => .error (.url cause)
    | .ok url => .ok (url.path, url.query, url.fragment)
  else
    let halves := (Text.splitFirst? '#' s).getD (s, [])
    let front := (Text.splitFirst? '?' halves.1).getD (halves.1, [])
    .ok (front.1, front.2, halves.2)

/-- The parts of a query. -/
structure QueryParts where
  params : Params
  headers : List Header
  body : Option Json

/-- Adds one pair to the parts of a query; a pair with an empty value counts for nothing. -/
def addPair (parts : QueryParts) (name value : Text) : Except DecodeError QueryParts :=
  if value.isEmpty then .ok parts
  else if headerPrefix.isPrefixOf name then
    match Header.parse? value with
    | some header => .ok { parts with headers := parts.headers ++ [header] }
    | none => .error (.malformedHeader value)
  else if name = bodyName then
    match Json.parse value with
    | .ok body => .ok { parts with body := some body }
    | .error cause => .error (.body cause)
  else .ok { parts with params := parts.params.append name value }

/-- Adds pairs in order, up to the first error. -/
def addPairs (parts : QueryParts) : List (Text × Text) → Except DecodeError QueryParts
  | [] => .ok parts
  | (name, value) :: rest =>
      match addPair parts name value with
      | .error e => .error e
      | .ok parts => addPairs parts rest

/-- The parts of a query in form encoding. -/
def readQuery (query : Text) : Except DecodeError QueryParts :=
  addPairs ⟨Params.empty, [], none⟩ (Form.readPairs query)

/-- The fragment an escaped text stands for; an empty one is the default. -/
def readFragment (s : Text) : Except DecodeError Text :=
  match Percent.decode s with
  | .error fault => .error (.encoding fault)
  | .ok [] => .ok defaultFragment
  | .ok fragment => .ok fragment

/-- A table as its parts were read, with the header pairs in order. -/
structure Scan where
  path : Text
  parts : QueryParts
  fragment : Text

/-- Reads the parts of a table.  An error in the query comes before one in the fragment. -/
def scan (s : Text) : Except DecodeError Scan :=
  match split (Text.trim s) with
  | .error e => .error e
  | .ok (path, query, fragment) =>
      match readQuery query with
      | .error e => .error e
      | .ok parts =>
          match readFragment fragment with
          | .error e => .error e
          | .ok fragment => .ok ⟨path, parts, fragment⟩

/-- Reads a table; repeated headers are merged. -/
def decode (s : Text) : Except DecodeError Table :=
  (scan s).map fun r =>
    ⟨r.path, r.parts.params, Header.mergeAll r.parts.headers, r.parts.body, r.fragment⟩

/-! ### JSON -/

/-- A body that may be missing. -/
def bodyJson (body : Option Json) : Json := body.getD .null

/-- The JSON object of a table. -/
def toJson (t : Table) : Json :=
  .object
    [("path".toList, .string t.path), ("query_params".toList, t.params.toJson),
      ("headers".toList, .ofDictionary t.headers), ("body".toList, bodyJson t.body),
      ("fragment".toList, .string t.fragment)]

end Table

/-- A virtual table with one value for each parameter and header. -/
structure SingleTable where
  path : Text
  /-- Repeated parameters are joined by commas. -/
  params : List (Text × Text)
  /-- Of a repeated header the last value counts. -/
  headers : Dictionary Text
  body : Option Json
  fragment : Text
  deriving DecidableEq

namespace SingleTable

/-- Reads a table with single values. -/
def decode (s : Text) : Except Table.DecodeError SingleTable :=
  (Table.scan s).map fun r =>
    ⟨r.path, r.parts.params.joined, Header.mergeLast r.parts.headers, r.parts.body, r.fragment⟩

/-- The JSON object of a table with single values; parameters are pairs, to keep their order. -/
def toJson (t : SingleTable) : Json :=
  .object
    [("path".toList, .string t.path),
      ("query_params".toList,
        .array (t.params.map fun p => .array [.string p.1, .string p.2])),
      ("headers".toList, .ofDictionary t.headers), ("body".toList, Table.bodyJson t.body),
      ("fragment".toList, .string t.fragment)]

end SingleTable

end Pushdown
