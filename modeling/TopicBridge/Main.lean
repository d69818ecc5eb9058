import TopicBridge.Cli.Run
/-!
# The command line program

Runs `TopicBridge.Cli.run` on the program's arguments. When a command needs the settings,
the settings file is read from disk and the environment variables the loader consults
are looked up; then the outcome is printed and its exit code returned.
-/

open TopicBridge

/-- The settings file at a path as the loader sees it: the file with its contents, nothing
when it is missing, and a directory when it cannot be read. -/
def readSettingsFile (path : String) : IO Host.Files := do
  if path.isEmpty then return {}
  try
    let bytes ← IO.FS.readBinFile path
    return { files := [(path, bytes)] }
  catch e =>
    match e with
    | .noFileOrDirectory .. => return {}
    | _ => return { dirs := [path] }

/-- The variables among those named that are set, with their values. -/
def lookupVariables (names : List String) : IO Settings.Environment := do
  let mut env : Settings.Environment := []
  for name in names do
    match ← IO.getEnv name with
    | some v => env := env ++ [(name, v)]
    | none => pure ()
  return env

def main (args : List String) : IO UInt32 := do
  let outcome ← match Cli.run args with
    | .finished o => pure o
    | .needsSettings path resume => do
      let files ← readSettingsFile path
      let env ← lookupVariables (Settings.variablesAsked path files)
      pure (resume (Settings.load path files env))
  IO.print outcome.stdout
  IO.eprint outcome.stderr
  return outcome.exit.toUInt32
