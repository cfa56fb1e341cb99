import DeltaRobot.Run.Report

/-!
Contract: the command line.

`delta-robot [SCRIPT] [--params FILE]` runs a script with a parameter file. The files that the run
reads are gathered first; the run itself is `Invocation.execute`.

Owns: real files and printing.
Does not own: anything that a run decides.
-/

namespace DeltaRobot.CommandLine

/-- Adds the text of a real file to the tree, if it can be read. -/
def gather (files : FileTree) (path : String) : IO FileTree := do
  try
    let text ← IO.FS.readFile path
    return files.place path text
  catch _ => return files

/-- Writes the copies and the log of a run into its session. -/
def keep (session : Session) (execution : Execution) : IO Unit := do
  IO.FS.createDirAll session.inputs
  for (name, text) in session.archived execution.files do
    IO.FS.writeFile (Path.join session.inputs name) text
  let lines := execution.lines .exact Run.fileVerbosity
  let log := lines.map (fun line => line.render ++ "\n")
  IO.FS.writeFile (Path.join session.directory "run.log") (String.join log)

def run (arguments : Arguments) : IO UInt32 := do
  let root ← IO.getEnv rootVariable
  let now ← IO.monoMsNow
  let invocation : Invocation :=
    { toArguments := arguments, root, sessionName := s!"run_{now}" }
  let parameters := root.map (fun root => parameterPath root arguments.parameterFile)
  let files ← (parameters.toList ++ arguments.script.toList).foldlM gather FileTree.empty
  let execution := invocation.execute files
  match root with
  | some root => keep (Run.session root invocation.sessionName) execution
  | none => pure ()
  for line in execution.lines .exact Run.screenVerbosity do
    IO.println line.render
  match execution.failure with
  | some failure =>
      for reason in failure.reasons do
        IO.eprintln reason
  | none => pure ()
  return UInt32.ofNat execution.exitCode

def usage : String := "usage: delta-robot [SCRIPT] [-p|--params FILE] [-h|--help] [-V|--version]"

/-- Answers arguments that start no run. -/
def dismiss (dismissal : Dismissal) : IO UInt32 := do
  match dismissal with
  | .help => IO.println usage
  | .version => IO.println "delta-robot 0.1.0"
  | .misuse => IO.eprintln usage
  return UInt32.ofNat dismissal.exitCode

end DeltaRobot.CommandLine

def main (texts : List String) : IO UInt32 :=
  match DeltaRobot.Arguments.ofList texts with
  | .ok arguments => DeltaRobot.CommandLine.run arguments
  | .error dismissal => DeltaRobot.CommandLine.dismiss dismissal
