import Kaleidoscope.Command.Report

/-!
The command: reads the source that its arguments name, reports on it, and leaves with the
report's status.
-/

namespace Kaleidoscope.Command

/-- The fault that the system gives a number, which may come negated. -/
def SourceFault.ofCode (code : UInt32) (details : String) : SourceFault :=
  let negated := 0 - code
  let code := if negated < code then negated else code
  if code = 20 then .notFolder
  else if code = 21 then .folder
  else if code = 36 then .nameTooLong
  else .other (details ++ " (os error " ++ toString code ++ ")")

/-- Why the system could not read a file. -/
def SourceFault.ofError : IO.Error → SourceFault
  | .noFileOrDirectory _ _ _ => .missing
  | .permissionDenied _ _ _ => .forbidden
  | .inappropriateType _ code details => ofCode code details
  | .invalidArgument _ code details => ofCode code details
  | .resourceExhausted _ code details => ofCode code details
  | e => .other (toString e)

def readSource (input : Option String) : IO (Except SourceFault Contents) :=
  try
    match input with
    | none => return .ok (← (← IO.getStdin).readBinToEnd).toList
    | some name => return .ok (← IO.FS.readBinFile name).toList
  catch e => return .error (.ofError e)

/-- The time stamp of journal lines: milliseconds on the clock of the system. -/
def timeStamp : IO String :=
  return toString (← IO.monoMsNow)

end Kaleidoscope.Command

open Kaleidoscope.Command in
def main (arguments : List String) : IO UInt32 := do
  let filter := filterOf (← IO.getEnv "RUST_LOG")
  let source ←
    match Request.ofArguments arguments with
    | .ok (.parse options) => readSource options.input
    | _ => pure (.ok [])
  let r := report filter (← timeStamp) arguments fun _ => source
  IO.eprint r.errors
  IO.print r.output
  return r.status.toUInt32
