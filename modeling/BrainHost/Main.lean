import BrainHost.CommandLine
import BrainHost.Script.Engine

/-! # The program -/

open BrainHost

def readText (path : String) : IO (Except FileError String) := do
  try
    pure (fileText (← IO.FS.readBinFile path))
  catch e =>
    match e with
    | .noFileOrDirectory _ _ _ => pure (.error .notFound)
    | .inappropriateType _ _ _ => pure (.error .isDirectory)
    | e => pure (.error (.other e.toString))

def readFiles (paths : List String) : IO Files := do
  let texts ← paths.mapM fun path => do pure (path, ← readText path)
  pure fun path => (texts.lookup path).getD (.error .notFound)

def printLine : CommandLine.Line → IO Unit
  | .output text => IO.println text
  | .error text => IO.eprintln text

/-- Updates a brain once. -/
def main (args : List String) : IO UInt32 := do
  let home ← IO.getEnv "HOME"
  let names := ["BRAIN_RUNTIME_MEMORY_LIMIT", "BRAIN_RUNTIME_MAX_STACK_SIZE", "BRAIN_RUNTIME_MAX_PENDING_JOBS",
    "BRAIN_RUNTIME_LOG_LEVEL"]
  let settings ← names.mapM fun name => do pure (name, ← IO.getEnv name)
  let files ← readFiles ((Config.candidates home).map (·.2) ++ args.take 2)
  let result := CommandLine.run Script.engine
    { args, files, home, environment := fun name => (settings.lookup name).getD none
      directory := (← IO.currentDir).toString }
  result.lines.forM printLine
  pure result.code.toUInt32
