/-
**Signatures of commands.**

A command has operands, given by position, and options, given by name.  An option has a long name
and possibly a letter; it takes a value or is a switch.  The signature says which are required, and
from it both the reading of arguments and the help text follow.

Main definitions:

* `Command.Flag`, `Command.Signature` — options and commands;
* `Command.Stop` — why the reading of arguments ends early;
* `Command.Reading` — the arguments that are read;
* `Command.Signature.read` — the reading of arguments.
-/

import Pushdown.Config.Auth

set_option autoImplicit false

namespace Pushdown

namespace Command

/-- An option. -/
structure Flag where
  name : Text
  letter : Option Char
  /-- The word for the value in the help text; a switch has none. -/
  value : Option Text
  /-- Whether the option may be given several times. -/
  repeats : Bool
  required : Bool
  /-- Whether the value is a path, which is never empty. -/
  isPath : Bool
  /-- The environment variable that is read if the option is not given. -/
  envName : Option Text
  help : Text
  deriving DecidableEq, Repr

/-- An operand. -/
structure Operand where
  value : Text
  /-- Whether it is a path, which is never empty. -/
  isPath : Bool
  deriving DecidableEq, Repr

/-- A command. -/
structure Signature where
  name : Text
  about : Text
  operands : List Operand
  flags : List Flag
  deriving DecidableEq, Repr

/-- Why the reading of arguments ends early. -/
inductive Stop where
  /-- The arguments do not fit. -/
  | usage
  /-- Help is wanted. -/
  | help
  deriving DecidableEq, Repr

/-- The arguments that are read: operands in order, and options with their values. -/
structure Reading where
  operands : List Text
  given : List (Text × Text)
  deriving DecidableEq, Repr

namespace Reading

/-- Nothing. -/
def empty : Reading := ⟨[], []⟩

/-- The values of an option. -/
def values (r : Reading) (name : String) : List Text :=
  (r.given.filter fun g => g.1 == name.toList).map Prod.snd

/-- The value of an option. -/
def value? (r : Reading) (name : String) : Option Text := (r.values name).head?

/-- Whether an option is given. -/
def has (r : Reading) (name : Text) : Bool := r.given.any fun g => g.1 == name

end Reading

namespace Signature

/-! ### Options -/

/-- Records an option with its value; a switch has an empty one. -/
def give (r : Reading) (f : Flag) (value : Text) : Except Stop Reading :=
  if (!f.repeats && r.has f.name) || (f.isPath && value.isEmpty) then .error .usage
  else .ok { r with given := r.given ++ [(f.name, value)] }

/-- Records an operand. -/
def giveOperand (s : Signature) (r : Reading) (value : Text) : Except Stop Reading :=
  match s.operands[r.operands.length]? with
  | none => .error .usage
  | some o =>
      if o.isPath && value.isEmpty then .error .usage
      else .ok { r with operands := r.operands ++ [value] }

/-- An option by its long name, with the value behind an equals sign, if there is one.  The answer
tells which option still waits for its value. -/
def readLong (s : Signature) (r : Reading) (text : Text) : Except Stop (Reading × Option Flag) :=
  let (name, value) :=
    match Text.splitFirst? '=' text with
    | some (name, value) => (name, some value)
    | none => (text, none)
  if name = "help".toList then .error (if value.isNone then .help else .usage)
  else
    match s.flags.find? fun f => f.name == name with
    | none => .error .usage
    | some f =>
        match f.value, value with
        | some _, some value => (give r f value).map fun r => (r, none)
        | some _, none => .ok (r, some f)
        | none, some _ => .error .usage
        | none, none => (give r f []).map fun r => (r, none)

/-- Options by their letters; the rest behind the letter of an option with a value is the value. -/
def readLetters (s : Signature) : Reading → Text → Except Stop (Reading × Option Flag)
  | r, [] => .ok (r, none)
  | r, c :: rest =>
      if c = 'h' then .error .help
      else
        match s.flags.find? fun f => f.letter == some c with
        | none => .error .usage
        | some f =>
            if f.value.isNone then
              match give r f [] with
              | .error e => .error e
              | .ok r => readLetters s r rest
            else
              match rest with
              | [] => .ok (r, some f)
              | '=' :: value => (give r f value).map fun r => (r, none)
              | value => (give r f value).map fun r => (r, none)

/-! ### Arguments -/

/-- Operands only. -/
def readOperands (s : Signature) : Reading → List Text → Except Stop Reading
  | r, [] => .ok r
  | r, a :: rest =>
      match s.giveOperand r a with
      | .error e => .error e
      | .ok r => readOperands s r rest

/-- Arguments from left to right; `waiting` is the option that waits for its value.  Behind two
dashes there are operands only. -/
def readFrom (s : Signature) : Reading → Option Flag → List Text → Except Stop Reading
  | r, none, [] => .ok r
  | _, some _, [] => .error .usage
  | r, waiting, a :: rest =>
      match a, waiting with
      | ['-', '-'], some _ => .error .usage
      | ['-', '-'], none => s.readOperands r rest
      | '-' :: _ :: _, some _ => .error .usage
      | '-' :: '-' :: text, none =>
          match s.readLong r text with
          | .error e => .error e
          | .ok (r, waiting) => readFrom s r waiting rest
      | '-' :: c :: text, none =>
          match s.readLetters r (c :: text) with
          | .error e => .error e
          | .ok (r, waiting) => readFrom s r waiting rest
      | value, some f =>
          match give r f value with
          | .error e => .error e
          | .ok r => readFrom s r none rest
      | value, none =>
          match s.giveOperand r value with
          | .error e => .error e
          | .ok r => readFrom s r none rest

/-- Adds the values of environment variables for options that are not given. -/
def addVariables (env : Environment) : List Flag → Reading → Except Stop Reading
  | [], r => .ok r
  | f :: rest, r =>
      match (f.envName.filter fun _ => !r.has f.name).bind env with
      | none => addVariables env rest r
      | some value =>
          match give r f value with
          | .error e => .error e
          | .ok r => addVariables env rest r

/-- Whether everything that is required is given. -/
def isComplete (s : Signature) (r : Reading) : Bool :=
  r.operands.length = s.operands.length && s.flags.all fun f => !f.required || r.has f.name

/-- The reading of the arguments of a command. -/
def read (s : Signature) (env : Environment) (arguments : List Text) : Except Stop Reading :=
  match s.readFrom .empty none arguments with
  | .error e => .error e
  | .ok r =>
      match addVariables env s.flags r with
      | .error e => .error e
      | .ok r => if s.isComplete r then .ok r else .error .usage

end Signature

end Command

end Pushdown
