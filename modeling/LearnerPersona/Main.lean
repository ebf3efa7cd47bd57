import LearnerPersona.CommandLine

/-!
# The program

Runs a command line over the files of the machine.
-/

open LearnerPersona

def readFile (path : String) : IO (Except FileFault (List UInt8)) := do
  try
    return .ok (← IO.FS.readBinFile path).toList
  catch error =>
    return .error (.reported (toString error))

def main (arguments : List String) : IO UInt32 := do
  let path? := (CommandLine.Options.ofArguments? arguments).bind CommandLine.Options.profile?
  let content ← path?.elim (pure (.error .missing)) readFile
  let outcome := CommandLine.run arguments fun _ => content
  match outcome with
  | .printed text => IO.print text
  | .refused refusal => IO.eprintln ("Error: " ++ refusal.message)
  | .misused => IO.eprintln "error: the command line is not understood"
  return outcome.exitCode
