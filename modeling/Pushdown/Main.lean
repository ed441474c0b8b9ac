/-
**The program.**

The outer layer of the commands: it reads the arguments, the environment variables and the file that
a command needs, and prints its outcome.

Main definitions:

* `main` — runs the command that the arguments stand for.
-/

import Pushdown.Command.Run

set_option autoImplicit false

namespace Pushdown

namespace Command

/-- Why a file cannot be read, in the words of the operating system. -/
def describeFailure (e : IO.Error) : Text :=
  let coded (details : String) (code : UInt32) : Text :=
    (details ++ " (os error " ++ toString code ++ ")").toList
  match e with
  | .noFileOrDirectory _ code details => coded details code
  | .noSuchThing _ code details => coded details code
  | .permissionDenied _ code details => coded details code
  | .inappropriateType _ code details => coded details code
  | .illegalOperation code details => coded details code
  | .invalidArgument _ code details => coded details code
  | .otherError code details => coded details code
  | .userError _ => "stream did not contain valid UTF-8".toList
  | e => (toString e).toList

/-- The text of a file, or why it cannot be read. -/
def readText (path : Text) : IO (Except Text Text) := do
  try
    let text ← IO.FS.readFile (String.ofList path)
    return .ok text.toList
  catch e => return .error (describeFailure e)

/-- The environment variables of some names. -/
def readVariables (names : List Text) : IO Environment := do
  let found ← names.mapM fun name => do
    return (name, (← IO.getEnv (String.ofList name)).map String.toList)
  return fun name => (found.lookup name).join

/-- Runs what arguments stand for and gives the exit code. -/
def runProgram (arguments : List Text) : IO UInt32 := do
  let invocation := parseArguments (← readVariables [configVariable]) arguments
  let outcome ←
    match invocation with
    | .command c =>
        let content ←
          match c.configPath? with
          | some path => readText path
          | none => pure (.error [])
        let files : Files := fun _ => content
        let env ← readVariables (c.namedVariables files)
        pure (perform env files invocation)
    | _ => pure (perform (fun _ => none) (fun _ => .error []) invocation)
  IO.print (String.ofList outcome.output)
  IO.eprint (String.ofList outcome.errors)
  return outcome.code.toUInt32

end Command

end Pushdown

/-- Runs the command that the arguments stand for. -/
def main (arguments : List String) : IO UInt32 :=
  Pushdown.Command.runProgram (arguments.map String.toList)
