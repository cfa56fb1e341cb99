import DeltaRobot.Run.Execution

/-!
Contract: the stages of a run.

A run needs a root, a configuration with a table for its kind of machine, a machine, and a script
that is accepted as a whole, in this order; two inputs are copied on the way. `Invocation.Ran` lists
every way in which a run comes out, with what each stage found and what the run leaves behind.
`Invocation.ran_iff` says that the list is exact: what is proved of a run is proved by cases on it.

Owns: the stages, and the files that each of them works on.
Does not own: what copying does to the files, and what a script does to its machine.
-/

namespace DeltaRobot

/-- The records of a machine that is made ready. -/
def Machine.readyEvents (machine : Machine Float) : List RunEvent :=
  machine.initialise.2.map .notice ++ [.machineReady]

namespace Invocation

/-- The records in front of all others once a session is open. -/
def opening : List RunEvent := [.logging Run.screenVerbosity Run.fileVerbosity, .started]

section

variable (invocation : Invocation) (files : FileTree) (root : String)

def session : Session := Run.session root invocation.sessionName

/-- Where the parameter file is. -/
def parametersPath : String := parameterPath root invocation.parameterFile

/-- The files once the session is open. -/
def opened : FileTree := files.makeDirectory (invocation.session root).directory

/-- Copies the parameter file into the session. -/
def archiveParameters : Except ArchiveError String × FileTree :=
  (invocation.session root).archive (invocation.opened files root) (invocation.parametersPath root)

/-- The files once the parameter file is copied. A script is read from these. -/
def provisioned : FileTree := (invocation.archiveParameters files root).2

/-- Copies a script into the session. -/
def archiveScript (path : String) : Except ArchiveError String × FileTree :=
  (invocation.session root).archive (invocation.provisioned files root) path

end

/-- A run has a configuration. -/
structure Loaded (invocation : Invocation) (files : FileTree) (root : String)
    (configuration : Configuration) : Prop where
  isRoot : invocation.root = some root
  loaded : loadFile Configuration.ofText? (invocation.opened files root) (some root)
    invocation.parameterFile = .ok configuration

/-- A run has the table of its kind of machine. -/
structure Configured (invocation : Invocation) (files : FileTree) (root : String)
    (configuration : Configuration) (table : Toml.Value) : Prop
    extends invocation.Loaded files root configuration where
  isTable : configuration.table? = some table

/-- A run has a machine. -/
def Built (invocation : Invocation) (files : FileTree) (root : String)
    (machine : Machine Float) : Prop :=
  ∃ configuration table, invocation.Configured files root configuration table ∧
    Machine.build configuration.kind table = .ok machine

/-- A run has a script, and all of it is usable. -/
structure Accepted (invocation : Invocation) (files : FileTree) (root : String)
    (machine : Machine Float) (path text : String) (commands : List (MoveCommand Float)) :
    Prop where
  built : invocation.Built files root machine
  isScript : invocation.script = some path
  read : (invocation.provisioned files root).read path = .ok text
  decoded : MoveCommand.scriptOfText text = .ok commands

/-- The records of a run that are there before it looks at its script. -/
def beforeScript (machine : Machine Float) : List RunEvent :=
  opening ++ .parametersLoaded :: machine.readyEvents

section

variable (invocation : Invocation) (files : FileTree)

/-- The parameter file has been copied. -/
def Supplied (root : String) : Prop :=
  ∃ copy, (invocation.archiveParameters files root).1 = .ok copy

/-- The ways in which a run comes out. -/
inductive Ran : Execution → Prop where
  | noRoot (unset : invocation.root = none) : Ran (.fail files .noSession)
  | notLoaded {root : String} {cause : LoadError} (isRoot : invocation.root = some root)
      (unloaded : loadFile Configuration.ofText? (invocation.opened files root) (some root)
        invocation.parameterFile = .error cause) :
      Ran ((Execution.fail (invocation.opened files root)
        (.notLoaded invocation.parameterFile cause)).after opening)
  | noTable {root : String} {configuration : Configuration}
      (loaded : invocation.Loaded files root configuration)
      (absent : configuration.table? = none) :
      Ran ((Execution.fail (invocation.opened files root)
        (.noTable configuration.kind invocation.parameterFile)).after opening)
  | parametersNotArchived {root : String} {configuration : Configuration} {table : Toml.Value}
      {cause : ArchiveError} (configured : invocation.Configured files root configuration table)
      (uncopied : (invocation.archiveParameters files root).1 = .error cause) :
      Ran ((Execution.fail (invocation.provisioned files root)
        (.parametersNotArchived cause)).after opening)
  | notBuilt {root : String} {configuration : Configuration} {table : Toml.Value}
      {cause : BuildError} (configured : invocation.Configured files root configuration table)
      (supplied : invocation.Supplied files root)
      (unbuilt : Machine.build configuration.kind table = .error cause) :
      Ran ((Execution.fail (invocation.provisioned files root) (.notBuilt cause)).after
        (opening ++ [.parametersLoaded]))
  | noScript {root : String} {machine : Machine Float}
      (built : invocation.Built files root machine) (supplied : invocation.Supplied files root)
      (unscripted : invocation.script = none) :
      Ran
        { failure := none
          events := beforeScript machine ++ [.noScript]
          steps := []
          files := invocation.provisioned files root }
  | scriptNotRead {root path : String} {machine : Machine Float} {cause : FileError}
      (built : invocation.Built files root machine) (supplied : invocation.Supplied files root)
      (isScript : invocation.script = some path)
      (unread : (invocation.provisioned files root).read path = .error cause) :
      Ran ((Execution.fail (invocation.provisioned files root)
        (.scriptNotRead path cause)).after (beforeScript machine))
  | scriptInvalid {root path text : String} {machine : Machine Float} {cause : CommandError}
      (built : invocation.Built files root machine) (supplied : invocation.Supplied files root)
      (isScript : invocation.script = some path)
      (read : (invocation.provisioned files root).read path = .ok text)
      (refused : MoveCommand.scriptOfText text = .error cause) :
      Ran ((Execution.fail (invocation.provisioned files root) (.scriptInvalid cause)).after
        (beforeScript machine))
  | scriptNotArchived {root path text : String} {machine : Machine Float}
      {commands : List (MoveCommand Float)} {cause : ArchiveError}
      (accepted : invocation.Accepted files root machine path text commands)
      (supplied : invocation.Supplied files root)
      (uncopied : (invocation.archiveScript files root path).1 = .error cause) :
      Ran ((Execution.fail (invocation.archiveScript files root path).2
        (.scriptNotArchived cause)).after (beforeScript machine))
  | followed {root path text copy : String} {machine : Machine Float}
      {commands : List (MoveCommand Float)}
      (accepted : invocation.Accepted files root machine path text commands)
      (supplied : invocation.Supplied files root)
      (copied : (invocation.archiveScript files root path).1 = .ok copy) :
      Ran ((Run.followScript (invocation.archiveScript files root path).2 machine.initialise.1
        path commands).after (beforeScript machine))

end

-- Comparing two runs would otherwise follow the paths of the copies.
attribute [local irreducible] Session.archive

variable {invocation : Invocation} {files : FileTree} {root : String}

theorem execute_of_root (isRoot : invocation.root = some root) :
    invocation.execute files =
      (match loadFile Configuration.ofText? (invocation.opened files root) (some root)
          invocation.parameterFile with
      | .error cause =>
          .fail (invocation.opened files root) (.notLoaded invocation.parameterFile cause)
      | .ok configuration =>
          match configuration.table? with
          | none =>
              .fail (invocation.opened files root)
                (.noTable configuration.kind invocation.parameterFile)
          | some table =>
              match invocation.archiveParameters files root with
              | (.error cause, files) => .fail files (.parametersNotArchived cause)
              | (.ok _, files) =>
                  (Run.withTable (invocation.session root) files configuration.kind table
                    invocation.script).after [.parametersLoaded] : Execution).after opening := by
  rw [execute, isRoot]
  rfl

theorem execute_of_configured {configuration : Configuration} {table : Toml.Value}
    (configured : invocation.Configured files root configuration table) :
    invocation.execute files =
      match (invocation.archiveParameters files root).1 with
      | .error cause =>
          (Execution.fail (invocation.provisioned files root)
            (.parametersNotArchived cause)).after opening
      | .ok _ =>
          ((Run.withTable (invocation.session root) (invocation.provisioned files root)
            configuration.kind table invocation.script).after [.parametersLoaded]).after
              opening := by
  rw [execute_of_root configured.isRoot, configured.loaded]
  dsimp only
  rw [configured.isTable, provisioned]
  dsimp only
  cases invocation.archiveParameters files root with
  | mk copied files => cases copied <;> rfl

theorem execute_of_built {machine : Machine Float} (built : invocation.Built files root machine)
    (supplied : invocation.Supplied files root) :
    invocation.execute files =
      (match invocation.script with
      | none =>
          { failure := none, events := [.noScript], steps := []
            files := invocation.provisioned files root }
      | some path =>
          Run.withMachine (invocation.session root) (invocation.provisioned files root)
            machine.initialise.1 path : Execution).after (beforeScript machine) := by
  obtain ⟨configuration, table, configured, built⟩ := built
  obtain ⟨copy, copied⟩ := supplied
  rw [execute_of_configured configured, copied]
  dsimp only
  rw [Run.withTable, built]
  cases invocation.script with
  | none => simp [Run.start, Execution.after, beforeScript, Machine.readyEvents]
  | some path => simp [Run.start, Execution.after, beforeScript, Machine.readyEvents]

theorem execute_of_accepted {machine : Machine Float} {path text : String}
    {commands : List (MoveCommand Float)}
    (accepted : invocation.Accepted files root machine path text commands)
    (supplied : invocation.Supplied files root) :
    invocation.execute files =
      (match (invocation.archiveScript files root path).1 with
      | .error cause =>
          Execution.fail (invocation.archiveScript files root path).2 (.scriptNotArchived cause)
      | .ok _ =>
          Run.followScript (invocation.archiveScript files root path).2 machine.initialise.1 path
            commands).after (beforeScript machine) := by
  rw [execute_of_built accepted.built supplied, accepted.isScript]
  dsimp only
  rw [Run.withMachine, accepted.read]
  dsimp only
  rw [accepted.decoded]
  change Execution.after (match invocation.archiveScript files root path with
    | (.error cause, files) => _
    | (.ok _, files) => _) _ = _
  cases invocation.archiveScript files root path with
  | mk copied files => cases copied <;> rfl

variable {execution : Execution}

theorem execute_eq_of_ran (ran : invocation.Ran files execution) :
    invocation.execute files = execution := by
  cases ran with
  | noRoot unset => rw [execute, unset]
  | notLoaded isRoot unloaded => rw [execute_of_root isRoot, unloaded]
  | noTable loaded absent =>
      rw [execute_of_root loaded.isRoot, loaded.loaded]
      dsimp only
      rw [absent]
  | parametersNotArchived configured uncopied => rw [execute_of_configured configured, uncopied]
  | notBuilt configured supplied unbuilt =>
      obtain ⟨copy, copied⟩ := supplied
      rw [execute_of_configured configured, copied]
      dsimp only
      rw [Run.withTable, unbuilt]
      rfl
  | noScript built supplied unscripted =>
      rw [execute_of_built built supplied, unscripted]
      rfl
  | scriptNotRead built supplied isScript unread =>
      rw [execute_of_built built supplied, isScript]
      dsimp only
      rw [Run.withMachine, unread]
  | scriptInvalid built supplied isScript read refused =>
      rw [execute_of_built built supplied, isScript]
      dsimp only
      rw [Run.withMachine, read]
      dsimp only
      rw [refused]
  | scriptNotArchived accepted supplied uncopied =>
      rw [execute_of_accepted accepted supplied, uncopied]
  | followed accepted supplied copied => rw [execute_of_accepted accepted supplied, copied]

/-- Every stage has an outcome. -/
theorem exists_ran (invocation : Invocation) (files : FileTree) :
    ∃ execution, invocation.Ran files execution := by
  cases isRoot : invocation.root with
  | none => exact ⟨_, .noRoot isRoot⟩
  | some root =>
    cases loaded : loadFile Configuration.ofText? (invocation.opened files root) (some root)
        invocation.parameterFile with
    | error cause => exact ⟨_, .notLoaded isRoot loaded⟩
    | ok configuration =>
      cases isTable : configuration.table? with
      | none => exact ⟨_, .noTable ⟨isRoot, loaded⟩ isTable⟩
      | some table =>
        have configured : invocation.Configured files root configuration table :=
          ⟨⟨isRoot, loaded⟩, isTable⟩
        cases copied : (invocation.archiveParameters files root).1 with
        | error cause => exact ⟨_, .parametersNotArchived configured copied⟩
        | ok copy =>
          cases build : Machine.build configuration.kind table with
          | error cause => exact ⟨_, .notBuilt configured ⟨copy, copied⟩ build⟩
          | ok machine =>
            have built : invocation.Built files root machine := ⟨_, _, configured, build⟩
            cases isScript : invocation.script with
            | none => exact ⟨_, .noScript built ⟨copy, copied⟩ isScript⟩
            | some path =>
              cases read : (invocation.provisioned files root).read path with
              | error cause => exact ⟨_, .scriptNotRead built ⟨copy, copied⟩ isScript read⟩
              | ok text =>
                cases decoded : MoveCommand.scriptOfText text with
                | error cause =>
                    exact ⟨_, .scriptInvalid built ⟨copy, copied⟩ isScript read decoded⟩
                | ok commands =>
                  have accepted :
                      invocation.Accepted files root machine path text commands :=
                    ⟨built, isScript, read, decoded⟩
                  cases scriptCopied : (invocation.archiveScript files root path).1 with
                  | error cause =>
                      exact ⟨_, .scriptNotArchived accepted ⟨copy, copied⟩ scriptCopied⟩
                  | ok scriptCopy =>
                      exact ⟨_, .followed accepted ⟨copy, copied⟩ scriptCopied⟩

/-- A run comes out in exactly one of the listed ways. -/
theorem ran_iff : invocation.Ran files execution ↔ invocation.execute files = execution := by
  refine ⟨execute_eq_of_ran, ?_⟩
  rintro rfl
  obtain ⟨execution, ran⟩ := invocation.exists_ran files
  rwa [execute_eq_of_ran ran]

theorem ran_execute (invocation : Invocation) (files : FileTree) :
    invocation.Ran files (invocation.execute files) :=
  ran_iff.2 rfl

end Invocation

/-! ### A small run -/

/-- A configuration whose table is an array, in the order of the fields. -/
def sampleParameters : String :=
  "kinematics = \"parallel_delta\"
parallel_delta = [100, 200, 100, 50, -1, 1, 2]
"

def sampleRun (parameterFile : String) : Invocation :=
  { script := some "script.json", parameterFile, root := some "/sw", sessionName := "run" }

/-- The files of a small run, with a given script. -/
def sampleFiles (parameterFile script : String) : FileTree :=
  { files := [(["sw", "params", parameterFile], sampleParameters),
      (["work", "script.json"], script)]
    directories := []
    here := ["work"] }

end DeltaRobot
