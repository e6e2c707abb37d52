import SqlBridge.Command.Arguments

/-!
# The program
-/

namespace SqlBridge

/-- The fault that an error of the system tells of. -/
def FileFault.ofError : IO.Error → FileFault
  | .noFileOrDirectory .. => .missing
  | .permissionDenied .. => .denied
  | .inappropriateType _ code _ => if code == 21 then .isDirectory else .notDirectory
  | .invalidArgument .. => .nameTooLong
  | _ => .notText

/-- The text of the options file, if one is named. -/
def readOptions (path : Option String) : IO (Except CommandFailure (Option String)) := do
  match path with
  | none => return .ok none
  | some path =>
    try
      return .ok (some (← IO.FS.readFile path))
    catch e =>
      return .error (.unreadableOptions path (.ofError e))

/-- Runs a command line and gives the exit code. -/
def runProgram (arguments : List String) : IO UInt32 := do
  match Invocation.ofArguments? arguments with
  | none =>
    (← IO.getStderr).putStrLn "Usage: kbsql [OPTIONS] <COMMAND>"
    return 2
  | some i =>
    let palette := i.colour.palette (← (← IO.getStdout).isTty)
    match i.run palette (← readOptions i.config) with
    | .success output =>
      (← IO.getStdout).putStr output
      return 0
    | .failure message =>
      (← IO.getStderr).putStr message
      return 1

end SqlBridge

/-- The program. -/
def main (arguments : List String) : IO UInt32 :=
  SqlBridge.runProgram arguments
