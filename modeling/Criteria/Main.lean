import Criteria.CommandLine.Run

namespace Criteria

/-! ## The program -/

def fileContent? (path : String) : IO (Option String) :=
  tryCatch (some <$> IO.FS.readFile path) fun _ => pure none

/-- The files among the paths that arguments may name, read before the run. -/
def foundFiles (arguments : List String) : IO (Keyed String) := do
  match CommandLine.Invocation.ofArguments arguments with
  | .error _ => pure []
  | .ok invocation =>
    let sourcePath :=
      match invocation.source with
      | .file path => [path]
      | .argument _ => []
    let paths := sourcePath ++ invocation.schemaPath.toList
    let found ← paths.mapM fun path => do
      let content ← fileContent? path
      pure (content.map (path, ·))
    pure (found.filterMap id)

def defaultLogLevel : String := "info"

end Criteria

open Criteria in
def main (arguments : List String) : IO UInt32 := do
  let logLevel ← IO.getEnv "LOG_LEVEL"
  let files ← foundFiles arguments
  let outcome := CommandLine.run
    { logLevel := logLevel.getD defaultLogLevel, file? := fun path => Keyed.get? path files }
    arguments
  IO.print outcome.output
  for notice in outcome.notices do
    IO.eprintln notice.text
  pure (UInt32.ofNat outcome.exitCode)
