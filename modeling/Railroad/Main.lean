import Railroad.CommandLine

/-!
# The program

Reads the command line, carries out the command and prints what it leaves.
-/

open Railroad CommandLine

/-- The content of a file, unless it cannot be read. -/
def readFile? (path : String) : IO (Option ByteArray) := do
  try
    return some (← IO.FS.readBinFile path)
  catch _ =>
    return none

/-- What the command needs to read. -/
def readInputs (command : Command) : IO Inputs := do
  match command with
  | .test _ (some path) _ _ _ _ _ =>
    let content ← readFile? path
    return ⟨ByteArray.empty, fun _ => content⟩
  | .test _ none _ _ _ _ _ => return ⟨← (← IO.getStdin).readBinToEnd, fun _ => none⟩
  | _ => return ⟨ByteArray.empty, fun _ => none⟩

/-- The exit code of a command without an outcome. -/
def noOutcomeCode : UInt32 := 101

def main (args : List String) : IO UInt32 := do
  match readArguments args with
  | .error usage =>
    IO.eprintln usage.name
    return usage.exitCode.toUInt32
  | .ok command =>
    match run (← readInputs command) command with
    | none => return noOutcomeCode
    | some report =>
      IO.print report.stdout
      IO.eprint report.stderr
      return report.exit.toUInt32
