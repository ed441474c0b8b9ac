/-
**Help texts of commands.**

A help text says what a command does, how it is called, and what its operands and options are, in
two columns.

Main definitions:

* `Command.Signature.helpText` — the help text of a command;
* `Command.programHelp` — the help text of a program of several commands.
-/

import Pushdown.Command.Signature

set_option autoImplicit false

namespace Pushdown

namespace Command

/-! ### Columns -/

/-- A line of two columns, the first of a given width. -/
def columns (width : Nat) (row : Text × Text) : Text :=
  "  ".toList ++ row.1 ++ List.replicate (width - row.1.length) ' ' ++ "  ".toList ++ row.2

/-- A title and lines of two columns below it; nothing without lines. -/
def block (title : String) (rows : List (Text × Text)) : List Text :=
  let width := (rows.map fun r => r.1.length).foldl max 0
  if rows.isEmpty then [] else [[], title.toList] ++ rows.map (columns width)

/-- A word between angle brackets. -/
def bracketed (s : Text) : Text := '<' :: s ++ ['>']

/-- The long name of an option with its value. -/
def Flag.longForm (f : Flag) : Text :=
  "--".toList ++ f.name ++
    match f.value with
    | some value => ' ' :: bracketed value
    | none => []

/-- The row of an option: its forms, and what it is for. -/
def Flag.row (env : Environment) (f : Flag) : Text × Text :=
  let lead :=
    match f.letter with
    | some c => ['-', c, ',', ' ']
    | none => "    ".toList
  let source :=
    match f.envName with
    | some name => " [env: ".toList ++ name ++ '=' :: (env name).getD [] ++ [']']
    | none => []
  (lead ++ f.longForm, f.help ++ source)

/-- The row of the option for help. -/
def helpRow : Text × Text := ("-h, --help".toList, "Print help".toList)

/-! ### Texts -/

/-- How a command is called. -/
def Signature.usage (program : Text) (s : Signature) : Text :=
  let optional := s.flags.any fun f => !f.required
  Text.joinWith [' '] <|
    ["Usage:".toList, program, s.name] ++ (if optional then ["[OPTIONS]".toList] else []) ++
      (s.flags.filter fun f => f.required).map Flag.longForm ++
      s.operands.map fun o => bracketed o.value

/-- The help text of a command. -/
def Signature.helpText (program : Text) (env : Environment) (s : Signature) : Text :=
  Text.joinWith ['\n'] <|
    [s.about, [], s.usage program] ++
      block "Arguments:" (s.operands.map fun o => (bracketed o.value, [])) ++
      block "Options:" (s.flags.map (Flag.row env) ++ [helpRow])

/-- The name of the command for help. -/
def helpName : Text := "help".toList

/-- What the command for help does. -/
def helpPurpose : Text := "Print this message or the help of the given subcommand(s)".toList

/-- The help text of the command for help. -/
def helpAbout (program : Text) : Text :=
  Text.joinWith ['\n'] <|
    [helpPurpose, [],
      Text.joinWith [' '] ["Usage:".toList, program, helpName, "[COMMAND]...".toList]]
      ++ block "Arguments:" [("[COMMAND]...".toList, "Print help for the subcommand(s)".toList)]

/-- The help text of a program. -/
def programHelp (program about : Text) (commands : List Signature) : Text :=
  Text.joinWith ['\n'] <|
    [about, [], "Usage: ".toList ++ program ++ " <COMMAND>".toList] ++
      block "Commands:"
        (commands.map (fun s => (s.name, s.about)) ++
          [(helpName, helpPurpose)]) ++
      block "Options:" [helpRow, ("-V, --version".toList, "Print version".toList)]

end Command

end Pushdown
