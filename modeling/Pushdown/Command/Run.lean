/-
**Running commands.**

A command prints its result, or a report of what went wrong with the causes behind it.  It looks at
the world in two ways only, both given to it: the environment variables and the texts of files.

Main definitions:

* `Command.Report` — what went wrong;
* `Command.Outcome` — what a command prints, and its exit code;
* `Command.Finding`, `Command.findings` — what the check of a configuration finds;
* `Command.run` — the outcome of a command;
* `Command.execute` — the outcome of arguments.
-/

import Pushdown.Command.Basic
import Pushdown.Config.Document
import Pushdown.Json.Printer
import Pushdown.Plan
import Pushdown.Table.Request

set_option autoImplicit false

namespace Pushdown

namespace Command

/-! ### Reports and outcomes -/

/-- What went wrong, and the causes behind it, nearest first. -/
structure Report where
  message : Text
  causes : List Text
  deriving DecidableEq, Repr

/-- A text whose further lines start with some blanks. -/
def indentLines (indent : Text) (s : Text) : Text := Text.replaceChar '\n' ('\n' :: indent) s

/-- Causes with numbers in front, from a number on. -/
def numbered : Nat → List Text → List Text
  | _, [] => []
  | n, cause :: rest =>
      let digits := Text.ofNat n
      let number := List.replicate (5 - digits.length) ' ' ++ digits ++ ": ".toList
      (number ++ indentLines (List.replicate 7 ' ') cause) :: numbered (n + 1) rest

/-- The text of a report.  A single cause has no number. -/
def Report.text (r : Report) : Text :=
  "Error: ".toList ++ r.message ++
    match r.causes with
    | [] => []
    | [cause] =>
        "\n\nCaused by:\n    ".toList ++ indentLines (List.replicate 4 ' ') cause
    | causes => "\n\nCaused by:\n".toList ++ Text.joinWith ['\n'] (numbered 0 causes)

/-- What a command prints, and its exit code. -/
structure Outcome where
  code : Nat
  output : Text
  errors : Text
  deriving DecidableEq, Repr

namespace Outcome

/-- A line was printed. -/
def printed (text : Text) : Outcome := ⟨0, text ++ ['\n'], []⟩

/-- Something went wrong. -/
def failed (r : Report) : Outcome := ⟨1, [], r.text ++ ['\n']⟩

/-- A result in JSON, or a report. -/
def ofJson : Except Report Json → Outcome
  | .ok j => printed j.pretty
  | .error r => failed r

end Outcome

/-- The texts of files, or why a file cannot be read. -/
abbrev Files := Text → Except Text Text

/-! ### Configurations -/

/-- Why a configuration cannot be used. -/
inductive LoadError where
  /-- The file cannot be read. -/
  | unreadable (reason : Text)
  /-- The file is no configuration document. -/
  | malformed
  | refused (e : ConfigError)
  deriving DecidableEq, Repr

/-- The description of an error, and the cause behind it. -/
def LoadError.chain : LoadError → List Text
  | unreadable reason => ["IO error: ".toList ++ reason, reason]
  | malformed => ["YAML parse error: malformed document".toList, "malformed document".toList]
  | refused e => [e.message]

/-- The configuration of a file, not yet judged. -/
def loadUnchecked (files : Files) (path : Text) : Except LoadError Config :=
  match files path with
  | .error reason => .error (.unreadable reason)
  | .ok text =>
      match Config.parse? text with
      | none => .error .malformed
      | some c => .ok c

/-- The configuration of a file, found valid. -/
def loadValid (files : Files) (path : Text) : Except LoadError Config :=
  match loadUnchecked files path with
  | .error e => .error e
  | .ok c =>
      match c.validate with
      | .error e => .error (.refused e)
      | .ok () => .ok c

/-- The configuration of a file, or the default without one. -/
def load (files : Files) : Option Text → Except Report Config
  | none => .ok .default
  | some path =>
      match loadValid files path with
      | .ok c => .ok c
      | .error e => .error ⟨"Failed to load configuration from ".toList ++ path, e.chain⟩

/-- The environment variables that the configuration of a command names. -/
def namedVariables (files : Files) (c : Command) : List Text :=
  let auth : Auth :=
    match c.configPath?.map (loadUnchecked files) with
    | some (.ok c) => c.auth
    | _ => .default
  [auth.tokenVariable, auth.domainsVariable]

/-! ### Checks -/

/-- What a check finds. -/
structure Finding where
  isError : Bool
  category : Text
  message : Text
  deriving DecidableEq, Repr

/-- The line of a finding. -/
def Finding.text (f : Finding) : Text :=
  "  [".toList ++ (if f.isError then "ERROR".toList else "WARN".toList) ++ "] ".toList ++
    f.category ++ ": ".toList ++ f.message

/-- The warning about a whitelist without names. -/
def whitelistWarnings (c : Config) : List Finding :=
  if c.whitelist.isEmpty then
    [⟨false, "whitelist".toList,
      "no whitelisted names; only QUERY_PARAM/HEADER tagged predicates will be pushed down".toList⟩]
  else []

/-- Whether hosts are trusted, by the configuration or by the environment. -/
def trustsHosts (c : Config) (env : Environment) : Bool :=
  !c.auth.domains.isEmpty ||
    ((Auth.readVariable env c.auth.domainsVariable).map fun v => !Text.isBlankText v).getD false

/-- The warning about trusted hosts without a header for them. -/
def authWarnings (c : Config) (env : Environment) : List Finding :=
  if trustsHosts c env && (c.auth.token? env).isNone then
    [⟨false, "auth".toList,
      "trusted hosts are configured but ".toList ++ c.auth.tokenVariable ++
        " does not hold a <header>=<value> token".toList⟩]
  else []

/-- What a check of a configuration file finds. -/
def findings (env : Environment) (files : Files) (path : Text) : List Finding :=
  match loadUnchecked files path with
  | .error e => [⟨true, "parse".toList, e.chain.headD []⟩]
  | .ok c =>
      (match c.validate with
        | .ok () => []
        | .error e => [⟨true, "validate".toList, e.message⟩]) ++
        whitelistWarnings c ++ authWarnings c env

/-- The last line of a check. -/
def verdict (found : List Finding) : Text :=
  if found.any Finding.isError then "✘ Configuration has errors that must be fixed.".toList
  else if found.isEmpty then "✔ All checks passed!".toList
  else
    "✔ Configuration is valid (".toList ++ Text.ofNat found.length ++ " warning(s)).".toList

/-- The outcome of a check. -/
def checkOutcome (env : Environment) (files : Files) (path : Text) : Outcome :=
  let found := findings env files path
  let lines := ("Checked ".toList ++ path) :: found.map Finding.text ++ [verdict found]
  let output := lines.flatMap fun line => line ++ ['\n']
  if found.any Finding.isError then
    ⟨1, output, Report.text ⟨path ++ " is invalid".toList, []⟩ ++ ['\n']⟩
  else ⟨0, output, []⟩

/-! ### Tables -/

/-- The report of a virtual table that cannot be decoded. -/
def decodeReport (e : Table.DecodeError) : Report :=
  ⟨e.message,
    match e with
    | .url fault => [fault.message]
    | .body fault => [Table.bodyFaultText fault]
    | _ => []⟩

/-- A table with parameters written as `key=value`. -/
def addParams : Table → List Text → Except Report Table
  | t, [] => .ok t
  | t, p :: rest =>
      match Text.splitFirst? '=' p with
      | some (name, value) => addParams (t.withParam name value) rest
      | none =>
          .error ⟨"Query parameter '".toList ++ p ++ "' must be of the form key=value".toList, []⟩

/-- A table with headers written as `name:value`. -/
def addHeaders : Table → List Text → Except Report Table
  | t, [] => .ok t
  | t, h :: rest =>
      match Header.parse? h with
      | some header => addHeaders (t.withHeader header.name header.value) rest
      | none => .error (decodeReport (.malformedHeader h))

/-- A table with a body in JSON, if there is one. -/
def addBody (t : Table) : Option Text → Except Report Table
  | none => .ok t
  | some body =>
      match Json.parse body with
      | .ok body => .ok (t.withBody body)
      | .error e => .error ⟨"Request body is not valid JSON".toList, [Table.bodyFaultText e]⟩

/-- A table of its parts. -/
def build (path : Text) (params headers : List Text) (body fragment : Option Text) :
    Except Report Table := do
  let t ← addParams (.ofPath path) params
  let t ← addHeaders t headers
  let t ← addBody t body
  return match fragment with
    | some f => t.withFragment f
    | none => t

/-! ### Commands -/

/-- The outcome of a command. -/
def run (env : Environment) (files : Files) : Command → Outcome
  | plan uri sql config =>
      .ofJson do
        let c ← load files config
        match Plan.make c uri sql with
        | .ok r => return r.toJson
        | .error e => throw ⟨e.message, []⟩
  | parse uri single =>
      .ofJson <|
        if single then ((SingleTable.decode uri).map SingleTable.toJson).mapError decodeReport
        else ((Table.decode uri).map Table.toJson).mapError decodeReport
  | encode path params headers body fragment =>
      match build path params headers body fragment with
      | .ok t => .printed t.encode
      | .error r => .failed r
  | request uri host secure config =>
      .ofJson do
        let c ← load files config
        match Request.plan c.auth env uri host secure with
        | .ok r => return r.toJson
        | .error e => throw (decodeReport e)
  | .check path => checkOutcome env files path

/-- The outcome of what arguments stand for. -/
def perform (env : Environment) (files : Files) : Invocation → Outcome
  | .command c => run env files c
  | .print text => .printed text
  | .usage => ⟨2, [], "Error: the arguments do not fit; see --help\n".toList⟩

/-- The outcome of arguments. -/
def execute (env : Environment) (files : Files) (arguments : List Text) : Outcome :=
  perform env files (parseArguments env arguments)

end Command

end Pushdown
