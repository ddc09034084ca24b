import PathRoute.Cli.Run

/-!
# The command line
-/

open PathRoute

/-- The configuration in a file. -/
def loadFile (file : String) : IO (Except Config.Error Config) := do
  try
    let bytes ← IO.FS.readBinFile file
    return Config.load bytes.toList
  catch _ => return .error .unreadable

def main (args : List String) : IO UInt32 := do
  let outcome ← match Cli.readTask none args with
    | .error refusal => pure (Cli.refuse refusal)
    | .ok task => do pure (Cli.runOn (← loadFile task.file) task.command)
  IO.print outcome.output
  IO.eprint outcome.errors
  return .ofNat outcome.status
