import PerfStates.Console.Arguments

namespace PerfStates.Console

/-- Read a file, keeping apart the one reason that has a wording of its own. -/
private def readFile (path : String) : IO (Except ReadError ByteArray) := do
  try
    return .ok (← IO.FS.readBinFile path)
  catch problem =>
    match problem with
    | .noFileOrDirectory .. => return .error .notFound
    | other => return .error (.other (toString other))

def carryOut (invocation : Invocation) : IO UInt32 := do
  let files : Files :=
    { config := ← readFile invocation.paths.config
      table := ← readFile invocation.paths.table }
  let exit := run invocation.task invocation.paths files
  for line in messageLines invocation.level exit.journal do
    IO.eprintln line
  IO.print exit.output
  IO.eprint exit.errors
  return UInt32.ofNat exit.code

/-- Carry out what the arguments ask for, or show how to ask. -/
def start (arguments : List String) : IO UInt32 := do
  match parse? arguments with
  | some invocation => carryOut invocation
  | none =>
    IO.eprint usage
    return 2

end PerfStates.Console

def main (arguments : List String) : IO UInt32 := PerfStates.Console.start arguments
