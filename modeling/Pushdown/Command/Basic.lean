/-
**Commands.**

The program has five commands: plan a statement, take a virtual table apart, put one together,
describe its request, and check a configuration.

Main definitions:

* `Command` — a command with its arguments;
* `Command.Invocation` — a command, or a text to print, or arguments that do not fit;
* `Command.parse` — the invocation that arguments stand for.
-/

import Pushdown.Command.Help

set_option autoImplicit false

namespace Pushdown

/-- A command with its arguments. -/
inductive Command where
  | plan (uri sql : Text) (config : Option Text)
  | parse (uri : Text) (single : Bool)
  | encode (path : Text) (params headers : List Text) (body fragment : Option Text)
  | request (uri host : Text) (secure : Bool) (config : Option Text)
  | check (config : Text)
  deriving DecidableEq, Repr

namespace Command

/-! ### Signatures -/

/-- An option with a value. -/
def flag (name value help : String) : Flag :=
  ⟨name.toList, none, some value.toList, false, false, false, none, help.toList⟩

/-- An option that has to be given. -/
def requiredFlag (name value help : String) : Flag := { flag name value help with required := true }

/-- An option that may be given several times. -/
def repeatedFlag (name value help : String) : Flag := { flag name value help with repeats := true }

/-- An option without a value. -/
def switch (name help : String) : Flag := { flag name "" help with value := none }

/-- The variable that names a configuration file. -/
def configVariable : Text := "RESTDB_CONFIG".toList

/-- The option for a configuration file. -/
def configFlag : Flag :=
  { flag "config" "CONFIG" "Configuration file (YAML)" with
    letter := some 'c', isPath := true, envName := some configVariable }

/-- The signature of the command that plans a statement. -/
def planSignature : Signature where
  name := "rewrite".toList
  about := "Push request-bound predicates from a SQL statement into its virtual table".toList
  operands := []
  flags :=
    [requiredFlag "uri" "URI" "Virtual table the statement reads from",
      requiredFlag "sql" "SQL" "SQL statement to rewrite", configFlag]

/-- The signature of `parse`. -/
def parseSignature : Signature where
  name := "parse".toList
  about := "Decode a virtual table and print its parts as JSON".toList
  operands := [⟨"URI".toList, false⟩]
  flags := [switch "single-valued" "One value per query parameter and header"]

/-- The signature of `encode`. -/
def encodeSignature : Signature where
  name := "encode".toList
  about := "Build a virtual table from its parts".toList
  operands := []
  flags :=
    [requiredFlag "path" "PATH" "Endpoint path, e.g. /reports/v2.0/ledgers",
      repeatedFlag "param" "PARAMS" "Query parameter as key=value (repeatable)",
      repeatedFlag "header" "HEADERS" "Header as name:value (repeatable)",
      flag "body" "BODY" "JSON request body",
      flag "fragment" "FRAGMENT" "JSONPath selecting rows from the response"]

/-- The signature of `request`. -/
def requestSignature : Signature where
  name := "request".toList
  about := "Print the HTTP request a virtual table stands for".toList
  operands := [⟨"URI".toList, false⟩]
  flags :=
    [requiredFlag "host" "HOST" "Host serving the endpoint, e.g. api.example.com",
      switch "http" "Use plain HTTP instead of HTTPS", configFlag]

/-- The signature of `check`. -/
def checkSignature : Signature where
  name := "check".toList
  about := "Validate a configuration file".toList
  operands := [⟨"CONFIG".toList, true⟩]
  flags := []

/-- All signatures. -/
def signatures : List Signature :=
  [planSignature, parseSignature, encodeSignature, requestSignature, checkSignature]

/-! ### Arguments -/

/-- What arguments stand for. -/
inductive Invocation where
  | command (c : Command)
  /-- A text is wanted and no command. -/
  | print (text : Text)
  /-- The arguments do not fit. -/
  | usage
  deriving DecidableEq, Repr

/-- The name of the program. -/
def program : Text := "restdb".toList

/-- The name and the version of the program. -/
def versionText : Text := program ++ " 0.4.0".toList

/-- The help text of the program. -/
def helpText : Text := programHelp program "RestDB CLI".toList signatures

/-- The command of a complete reading. -/
def ofReading (s : Signature) (r : Reading) : Command :=
  let value (name : String) : Text := (r.value? name).getD []
  let operand : Text := r.operands.headD []
  if s.name = planSignature.name then .plan (value "uri") (value "sql") (r.value? "config")
  else if s.name = parseSignature.name then .parse operand (r.has "single-valued".toList)
  else if s.name = encodeSignature.name then
    .encode (value "path") (r.values "param") (r.values "header") (r.value? "body")
      (r.value? "fragment")
  else if s.name = requestSignature.name then
    .request operand (value "host") (!r.has "http".toList) (r.value? "config")
  else .check operand

/-- The signature of a name. -/
def signature? (name : Text) : Option Signature := signatures.find? fun s => s.name == name

/-- The help that is wanted about a command, or about the program. -/
def parseHelp (env : Environment) : List Text → Invocation
  | [] => .print helpText
  | [name] =>
      match signature? name with
      | some s => .print (s.helpText program env)
      | none => if name = helpName then .print (helpAbout program) else .usage
  | _ => .usage

/-- The invocation that arguments stand for. -/
def parseArguments (env : Environment) : List Text → Invocation
  | [] => .usage
  | first :: rest =>
      match signature? first with
      | some s =>
          match s.read env rest with
          | .ok r => .command (ofReading s r)
          | .error .help => .print (s.helpText program env)
          | .error .usage => .usage
      | none =>
          if first = helpName then parseHelp env rest
          else if first = "--help".toList ∨ "-h".toList.isPrefixOf first then .print helpText
          else if first = "--version".toList ∨ "-V".toList.isPrefixOf first then .print versionText
          else .usage

/-- The path of the configuration that a command reads, if it reads one. -/
def configPath? : Command → Option Text
  | plan _ _ config => config
  | request _ _ _ config => config
  | check config => some config
  | parse _ _ => none
  | encode _ _ _ _ _ => none

end Command

end Pushdown
