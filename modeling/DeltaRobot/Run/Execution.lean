import DeltaRobot.Command.Script
import DeltaRobot.Configuration
import DeltaRobot.Files.Load
import DeltaRobot.Files.Session
import DeltaRobot.Log.Severity
import DeltaRobot.Machine.Build
import DeltaRobot.Run.Arguments
import DeltaRobot.Run.Script

/-!
Contract: one run of the program, from its arguments to its last record.

A run opens a session, loads its configuration, builds and initialises the machine, and follows a
script if one is given. Each of these can fail and ends the run if it does; once the script has
been accepted as a whole nothing fails any more. Inputs are copied into the session as soon as they
are known to be used.

Owns: `Invocation.execute`, the ways in which a run fails, and what it leaves behind.
Does not own: the wording of the records, and the real files.
-/

namespace DeltaRobot

structure Invocation extends Arguments where
  /-- The software root, if the environment names one. -/
  root : Option String
  /-- The name of the session's directory. -/
  sessionName : String

inductive Failure where
  | noSession
  | notLoaded (file : String) (cause : LoadError)
  | noTable (kind file : String)
  | parametersNotArchived (cause : ArchiveError)
  | notBuilt (cause : BuildError)
  | scriptNotRead (path : String) (cause : FileError)
  | scriptInvalid (cause : CommandError)
  | scriptNotArchived (cause : ArchiveError)

inductive RunEvent where
  | logging (screen file : Verbosity)
  | started
  | parametersLoaded
  | notice (notice : Notice Float)
  | machineReady
  | noScript
  | scriptStarted (moves : Nat) (path : String)
  | script (event : ScriptEvent Float)
  | scriptCompleted

structure Execution where
  failure : Option Failure
  events : List RunEvent
  steps : List (ScriptStep Float)
  files : FileTree

namespace Execution

def fail (files : FileTree) (failure : Failure) : Execution :=
  { failure := some failure, events := [], steps := [], files }

/-- The run, with records in front of its own. -/
def after (execution : Execution) (events : List RunEvent) : Execution :=
  { execution with events := events ++ execution.events }

/-- A run that failed exits with one, any other with zero. -/
def exitCode (execution : Execution) : Nat :=
  if execution.failure.isSome then 1 else 0

end Execution

namespace Run

/-- What is shown while a run goes on. -/
def screenVerbosity : Verbosity := .upTo .information

/-- What the log file of a run keeps. -/
def fileVerbosity : Verbosity := .upTo .trace

def session (root name : String) : Session :=
  { directory := Path.join (Path.join root "sessions") name }

def followScript (files : FileTree) (machine : Machine Float) (path : String)
    (commands : List (MoveCommand Float)) : Execution :=
  let steps := (ScriptState.initial machine).run 0 commands
  { failure := none
    events :=
      .scriptStarted commands.length path ::
        steps.flatMap (fun step => step.events.map .script) ++ [.scriptCompleted]
    steps
    files }

/-- Reads a script and follows it. -/
def withMachine (session : Session) (files : FileTree) (machine : Machine Float) (path : String) :
    Execution :=
  match files.read path with
  | .error cause => .fail files (.scriptNotRead path cause)
  | .ok text =>
      match MoveCommand.scriptOfText text with
      | .error cause => .fail files (.scriptInvalid cause)
      | .ok commands =>
          match session.archive files path with
          | (.error cause, files) => .fail files (.scriptNotArchived cause)
          | (.ok _, files) => followScript files machine path commands

/-- Initialises a machine, and follows the script if there is one. -/
def start (session : Session) (files : FileTree) (machine : Machine Float)
    (script : Option String) : Execution :=
  let (machine, notices) := machine.initialise
  let rest : Execution :=
    match script with
    | none => { failure := none, events := [.noScript], steps := [], files }
    | some path => withMachine session files machine path
  rest.after (notices.map .notice ++ [.machineReady])

/-- Builds the machine of a configuration and starts it. -/
def withTable (session : Session) (files : FileTree) (kind : String) (table : Toml.Value)
    (script : Option String) : Execution :=
  match Machine.build kind table with
  | .error cause => .fail files (.notBuilt cause)
  | .ok machine => start session files machine script

/-- Loads the configuration and goes on with its table. -/
def withSession (session : Session) (files : FileTree) (root parameterFile : String)
    (script : Option String) : Execution :=
  match loadFile Configuration.ofText? files (some root) parameterFile with
  | .error cause => .fail files (.notLoaded parameterFile cause)
  | .ok configuration =>
      match configuration.table? with
      | none => .fail files (.noTable configuration.kind parameterFile)
      | some table =>
          match session.archive files (parameterPath root parameterFile) with
          | (.error cause, files) => .fail files (.parametersNotArchived cause)
          | (.ok _, files) =>
              (withTable session files configuration.kind table script).after [.parametersLoaded]

end Run

def Invocation.execute (invocation : Invocation) (files : FileTree) : Execution :=
  match invocation.root with
  | none => .fail files .noSession
  | some root =>
      let session := Run.session root invocation.sessionName
      let files := files.makeDirectory session.directory
      (Run.withSession session files root invocation.parameterFile invocation.script).after
        [.logging Run.screenVerbosity Run.fileVerbosity, .started]

end DeltaRobot
