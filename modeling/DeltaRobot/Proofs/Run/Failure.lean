import DeltaRobot.Proofs.Files.Archive
import DeltaRobot.Proofs.Run.Records

/-!
Contract: when a run fails, and what it leaves behind.

A run fails if something is missing that it needs before its first move: `Invocation.Defective`
lists what. Moves never make it fail. What it has copied by then depends on how far it got:
`Invocation.Archives` lists which inputs have a copy. Both are said of the inputs alone, and the
runs are shown to agree with them wherever readable inputs can be copied.

Owns: the reasons for which a run fails, and the copies that it makes.
Does not own: arguments that start no run.
-/

namespace DeltaRobot

namespace Invocation

section

variable (invocation : Invocation) (files : FileTree)

/-- Something is missing that a run needs. The failure says what. -/
inductive Defective : Failure → Prop where
  | noRoot (unset : invocation.root = none) : Defective .noSession
  | notLoaded {root : String} {cause : LoadError} (isRoot : invocation.root = some root)
      (unloaded : loadFile Configuration.ofText? (invocation.opened files root) (some root)
        invocation.parameterFile = .error cause) :
      Defective (.notLoaded invocation.parameterFile cause)
  | noTable {root : String} {configuration : Configuration}
      (loaded : invocation.Loaded files root configuration)
      (absent : configuration.table? = none) :
      Defective (.noTable configuration.kind invocation.parameterFile)
  | notBuilt {root : String} {configuration : Configuration} {table : Toml.Value}
      {cause : BuildError} (configured : invocation.Configured files root configuration table)
      (unbuilt : Machine.build configuration.kind table = .error cause) :
      Defective (.notBuilt cause)
  | scriptNotRead {root path : String} {machine : Machine Float} {cause : FileError}
      (built : invocation.Built files root machine) (isScript : invocation.script = some path)
      (unread : (invocation.provisioned files root).read path = .error cause) :
      Defective (.scriptNotRead path cause)
  | scriptInvalid {root path text : String} {machine : Machine Float} {cause : CommandError}
      (built : invocation.Built files root machine) (isScript : invocation.script = some path)
      (read : (invocation.provisioned files root).read path = .ok text)
      (refused : MoveCommand.scriptOfText text = .error cause) :
      Defective (.scriptInvalid cause)

/-- The inputs of a run can be copied if they can be read. -/
structure CopiesInputs : Prop where
  parameters : ∀ root, invocation.root = some root →
    (invocation.session root).Copies (invocation.opened files root)
      (invocation.parametersPath root)
  script : ∀ root path, invocation.root = some root → invocation.script = some path →
    (invocation.session root).Copies (invocation.provisioned files root) path

/-- The copies that a run makes, each with its place. The parameter file is copied once it is known
to have a table, and the script once all of it is known to be usable. -/
inductive Archives : List (Location × String) → Prop where
  | nothing
      (unconfigured : ∀ root configuration table,
        ¬ invocation.Configured files root configuration table) : Archives []
  | parameters {root text : String} {configuration : Configuration} {table : Toml.Value}
      {place : Location} (configured : invocation.Configured files root configuration table)
      (read : (invocation.opened files root).read (invocation.parametersPath root) = .ok text)
      (isPlace : (invocation.session root).copyPlace? files (invocation.parametersPath root) =
        some place)
      (unaccepted : ∀ root machine path text commands,
        ¬ invocation.Accepted files root machine path text commands) :
      Archives [(place, text)]
  | both {root text path scriptText : String} {machine : Machine Float}
      {commands : List (MoveCommand Float)} {place scriptPlace : Location}
      (accepted : invocation.Accepted files root machine path scriptText commands)
      (read : (invocation.opened files root).read (invocation.parametersPath root) = .ok text)
      (isPlace : (invocation.session root).copyPlace? files (invocation.parametersPath root) =
        some place)
      (isScriptPlace : (invocation.session root).copyPlace? files path = some scriptPlace) :
      Archives [(place, text), (scriptPlace, scriptText)]

end

-- Comparing two runs would otherwise follow the paths of the copies.
attribute [local irreducible] Session.archive

variable {invocation : Invocation} {files : FileTree} {root : String}

theorem CopiesInputs.of_root {path : String} (isRoot : invocation.root = some root)
    (isScript : invocation.script = some path)
    (parameters : (invocation.session root).Copies (invocation.opened files root)
      (invocation.parametersPath root))
    (script : (invocation.session root).Copies (invocation.provisioned files root) path) :
    invocation.CopiesInputs files := by
  constructor
  · intro other isOther
    cases isRoot.symm.trans isOther
    exact parameters
  · intro other otherPath isOther isOtherPath
    cases isRoot.symm.trans isOther
    cases isScript.symm.trans isOtherPath
    exact script

/-! ### The parameter file -/

theorem exists_read_of_loadFile {β : Type} {readText : String → Option β} {tree : FileTree}
    {file : String} {value : β} (loaded : loadFile readText tree (some root) file = .ok value) :
    ∃ text, tree.read (parameterPath root file) = .ok text ∧ readText text = some value := by
  delta loadFile at loaded
  dsimp only at loaded
  cases read : tree.read (parameterPath root file) with
  | error cause =>
      rw [read] at loaded
      cases loaded
  | ok text =>
      rw [read] at loaded
      cases found : readText text with
      | none =>
          simp only [found] at loaded
          cases loaded
      | some other =>
          simp only [found] at loaded
          exact ⟨text, rfl, found.trans (congrArg some (Except.ok.inj loaded))⟩

theorem Configured.supplied {configuration : Configuration} {table : Toml.Value}
    (configured : invocation.Configured files root configuration table)
    (copies : invocation.CopiesInputs files) : invocation.Supplied files root := by
  obtain ⟨text, read, -⟩ := exists_read_of_loadFile configured.loaded
  obtain ⟨copy, copied, -⟩ := copies.parameters root configured.isRoot text read
  exact ⟨copy, copied⟩

theorem Built.supplied {machine : Machine Float}
    (built : invocation.Built files root machine)
    (copies : invocation.CopiesInputs files) : invocation.Supplied files root := by
  obtain ⟨configuration, table, configured, -⟩ := built
  exact configured.supplied copies

/-! ### Failing -/

/-- A defect ends the run before its first move, and is what the run reports. -/
theorem Defective.ran {failure : Failure} (defective : invocation.Defective files failure)
    (copies : invocation.CopiesInputs files) :
    ∃ execution, invocation.Ran files execution ∧ execution.failure = some failure ∧
      execution.steps = [] := by
  cases defective with
  | noRoot unset => exact ⟨_, .noRoot unset, rfl, rfl⟩
  | notLoaded isRoot unloaded => exact ⟨_, .notLoaded isRoot unloaded, rfl, rfl⟩
  | noTable loaded absent => exact ⟨_, .noTable loaded absent, rfl, rfl⟩
  | notBuilt configured unbuilt =>
      exact ⟨_, .notBuilt configured (configured.supplied copies) unbuilt, rfl, rfl⟩
  | scriptNotRead built isScript unread =>
      exact ⟨_, .scriptNotRead built (built.supplied copies) isScript unread, rfl, rfl⟩
  | scriptInvalid built isScript read refused =>
      exact ⟨_, .scriptInvalid built (built.supplied copies) isScript read refused, rfl, rfl⟩

theorem Defective.exitCode_eq_one {failure : Failure}
    (defective : invocation.Defective files failure)
    (copies : invocation.CopiesInputs files) : (invocation.execute files).exitCode = 1 := by
  obtain ⟨execution, ran, failed, -⟩ := defective.ran copies
  rw [ran_iff.1 ran, Execution.exitCode, failed]
  rfl

theorem Accepted.copied {machine : Machine Float} {path text : String}
    {commands : List (MoveCommand Float)}
    (accepted : invocation.Accepted files root machine path text commands)
    (copies : invocation.CopiesInputs files) :
    ∃ copy, (invocation.archiveScript files root path).1 = .ok copy := by
  obtain ⟨configuration, table, configured, -⟩ := accepted.built
  obtain ⟨copy, copied, -⟩ :=
    copies.script root path configured.isRoot accepted.isScript text accepted.read
  exact ⟨copy, copied⟩

/-- A run that has its script accepted does not fail. -/
theorem Accepted.ran {machine : Machine Float} {path text : String}
    {commands : List (MoveCommand Float)}
    (accepted : invocation.Accepted files root machine path text commands)
    (copies : invocation.CopiesInputs files) :
    ∃ execution, invocation.Ran files execution ∧ execution.failure = none := by
  obtain ⟨copy, copied⟩ := accepted.copied copies
  exact ⟨_, .followed accepted (accepted.built.supplied copies) copied, rfl⟩

variable {execution : Execution}

/-- Nothing but a defect makes a run fail. -/
theorem Ran.defective (ran : invocation.Ran files execution)
    (copies : invocation.CopiesInputs files) {failure : Failure}
    (failed : execution.failure = some failure) : invocation.Defective files failure := by
  cases ran with
  | noRoot unset =>
      cases failed
      exact .noRoot unset
  | notLoaded isRoot unloaded =>
      cases failed
      exact .notLoaded isRoot unloaded
  | noTable loaded absent =>
      cases failed
      exact .noTable loaded absent
  | parametersNotArchived configured uncopied =>
      obtain ⟨copy, copied⟩ := configured.supplied copies
      cases uncopied.symm.trans copied
  | notBuilt configured supplied unbuilt =>
      cases failed
      exact .notBuilt configured unbuilt
  | noScript built supplied unscripted => cases failed
  | scriptNotRead built supplied isScript unread =>
      cases failed
      exact .scriptNotRead built isScript unread
  | scriptInvalid built supplied isScript read refused =>
      cases failed
      exact .scriptInvalid built isScript read refused
  | scriptNotArchived accepted supplied uncopied =>
      obtain ⟨copy, copied⟩ := accepted.copied copies
      cases uncopied.symm.trans copied
  | followed accepted supplied copied => cases failed

/-! ### Copying -/

/-- The contents of files once copies are put in their places, one after the other. -/
def withCopies (contents : Location → Option String) (copies : List (Location × String)) :
    Location → Option String :=
  copies.foldl (fun contents copy => Function.update contents copy.1 (some copy.2)) contents

theorem here_provisioned (invocation : Invocation) (files : FileTree) (root : String) :
    (invocation.provisioned files root).here = files.here := by
  rw [provisioned, archiveParameters, Session.here_archive, opened,
    FileTree.here_makeDirectory]

theorem Configured.contents?_provisioned {configuration : Configuration} {table : Toml.Value}
    (configured : invocation.Configured files root configuration table)
    (copies : invocation.CopiesInputs files) :
    ∃ text place,
      (invocation.opened files root).read (invocation.parametersPath root) = .ok text ∧
        (invocation.session root).copyPlace? files (invocation.parametersPath root) = some place ∧
        (invocation.provisioned files root).contents? =
          Function.update files.contents? place (some text) := by
  obtain ⟨text, read, -⟩ := exists_read_of_loadFile configured.loaded
  obtain ⟨place, isPlace, contents⟩ :=
    (copies.parameters root configured.isRoot).contents? read
  rw [opened, Session.copyPlace?_congr (files.here_makeDirectory _)] at isPlace
  rw [opened, FileTree.contents?_makeDirectory] at contents
  exact ⟨text, place, read, isPlace, contents⟩

theorem Accepted.contents?_archiveScript {machine : Machine Float} {path text : String}
    {commands : List (MoveCommand Float)}
    (accepted : invocation.Accepted files root machine path text commands)
    (copies : invocation.CopiesInputs files) :
    ∃ place, (invocation.session root).copyPlace? files path = some place ∧
      (invocation.archiveScript files root path).2.contents? =
        Function.update (invocation.provisioned files root).contents? place (some text) := by
  obtain ⟨configuration, table, configured, -⟩ := accepted.built
  obtain ⟨place, isPlace, contents⟩ :=
    (copies.script root path configured.isRoot accepted.isScript).contents? accepted.read
  rw [Session.copyPlace?_congr (invocation.here_provisioned files root)] at isPlace
  exact ⟨place, isPlace, contents⟩

/-- A run without a script that is accepted keeps the parameter file. -/
private theorem Configured.archives {configuration : Configuration} {table : Toml.Value}
    (configured : invocation.Configured files root configuration table)
    (copies : invocation.CopiesInputs files)
    (unaccepted : ∀ root machine path text commands,
      ¬ invocation.Accepted files root machine path text commands) :
    ∃ inputs, invocation.Archives files inputs ∧
      (invocation.provisioned files root).contents? = withCopies files.contents? inputs := by
  obtain ⟨text, place, read, isPlace, contents⟩ := configured.contents?_provisioned copies
  exact ⟨_, .parameters configured read isPlace unaccepted, contents⟩

/-- The files of a run are the given ones with the copies that are due, and nothing else. -/
theorem Ran.archives (ran : invocation.Ran files execution)
    (copies : invocation.CopiesInputs files) :
    ∃ inputs, invocation.Archives files inputs ∧
      execution.files.contents? = withCopies files.contents? inputs := by
  -- A run that failed, or had no script, cannot have had one accepted, since runs come out in one
  -- way only.
  have unaccepted (other : execution.failure ≠ none ∨ invocation.script = none) :
      ∀ root machine path text commands,
        ¬ invocation.Accepted files root machine path text commands := by
    intro root machine path text commands accepted
    obtain ⟨same, ranSame, unfailed⟩ := accepted.ran copies
    rcases other with failed | unscripted
    · rw [← ran_iff.1 ran, ran_iff.1 ranSame] at failed
      exact failed unfailed
    · cases accepted.isScript.symm.trans unscripted
  cases ran with
  | noRoot unset =>
      refine ⟨[], .nothing fun root configuration table configured => ?_, rfl⟩
      cases unset.symm.trans configured.isRoot
  | notLoaded isRoot unloaded =>
      refine ⟨[], .nothing fun root configuration table configured => ?_,
        FileTree.contents?_makeDirectory _ _⟩
      cases isRoot.symm.trans configured.isRoot
      cases unloaded.symm.trans configured.loaded
  | noTable loaded absent =>
      refine ⟨[], .nothing fun root configuration table configured => ?_,
        FileTree.contents?_makeDirectory _ _⟩
      cases loaded.isRoot.symm.trans configured.isRoot
      cases loaded.loaded.symm.trans configured.loaded
      cases absent.symm.trans configured.isTable
  | parametersNotArchived configured uncopied =>
      obtain ⟨copy, copied⟩ := configured.supplied copies
      cases uncopied.symm.trans copied
  | notBuilt configured supplied unbuilt =>
      exact configured.archives copies (unaccepted (.inl (Option.some_ne_none _)))
  | noScript built supplied unscripted =>
      obtain ⟨configuration, table, configured, -⟩ := built
      exact configured.archives copies (unaccepted (.inr unscripted))
  | scriptNotRead built supplied isScript unread =>
      obtain ⟨configuration, table, configured, -⟩ := built
      exact configured.archives copies (unaccepted (.inl (Option.some_ne_none _)))
  | scriptInvalid built supplied isScript read refused =>
      obtain ⟨configuration, table, configured, -⟩ := built
      exact configured.archives copies (unaccepted (.inl (Option.some_ne_none _)))
  | scriptNotArchived accepted supplied uncopied =>
      obtain ⟨copy, copied⟩ := accepted.copied copies
      cases uncopied.symm.trans copied
  | followed accepted supplied copied =>
      obtain ⟨configuration, table, configured, -⟩ := accepted.built
      obtain ⟨text, place, read, isPlace, contents⟩ := configured.contents?_provisioned copies
      obtain ⟨scriptPlace, isScriptPlace, scriptContents⟩ :=
        accepted.contents?_archiveScript copies
      refine ⟨_, .both accepted read isPlace isScriptPlace, ?_⟩
      exact scriptContents.trans (by rw [contents]; rfl)

end Invocation

open Invocation (withCopies)

/-- A run fails if and only if something is missing that it needs, and moves never make it fail.
What is missing is then what it reports, and no segment has been offered to the queue. Either way
it leaves the given files as they were, but for the copies that are due: the parameter file as soon
as it has a table for its kind of machine, even if no machine can be built from it, and the script
once the machine is there and all of the script is usable. -/
theorem run_fails_iff_defective {invocation : Invocation} {files : FileTree}
    (copies : invocation.CopiesInputs files) :
    let execution := invocation.execute files
    (execution.exitCode = 1 ↔ ∃ failure, invocation.Defective files failure) ∧
      (execution.exitCode = 0 ↔ ¬ ∃ failure, invocation.Defective files failure) ∧
      (∀ failure, invocation.Defective files failure →
        execution.failure = some failure ∧ execution.steps = [] ∧ execution.offered = [] ∧
          execution.queued = []) ∧
      ∃ inputs, invocation.Archives files inputs ∧
        execution.files.contents? = withCopies files.contents? inputs := by
  intro execution
  have ran := invocation.ran_execute files
  have zeroOrOne : execution.exitCode = 0 ∧ execution.failure = none ∨
      execution.exitCode = 1 ∧ ∃ failure, execution.failure = some failure := by
    rw [Execution.exitCode]
    cases execution.failure <;> simp
  have fails : execution.exitCode = 1 ↔ ∃ failure, invocation.Defective files failure := by
    constructor
    · intro isOne
      rcases zeroOrOne with ⟨isZero, -⟩ | ⟨-, failure, failed⟩
      · cases isZero.symm.trans isOne
      · exact ⟨failure, ran.defective copies failed⟩
    · rintro ⟨failure, defective⟩
      exact defective.exitCode_eq_one copies
  refine ⟨fails, ?_, ?_, ran.archives copies⟩
  · rw [← fails]
    rcases zeroOrOne with ⟨isZero, -⟩ | ⟨isOne, -⟩
    · simp [isZero]
    · simp [isOne]
  · intro failure defective
    obtain ⟨same, ranSame, failed, unmoved⟩ := defective.ran copies
    obtain ⟨unqueued, unoffered⟩ := ranSame.movesTogether.unsent unmoved
    have isSame : execution = same := Invocation.ran_iff.1 ranSame
    rw [isSame]
    exact ⟨failed, unmoved, unoffered, unqueued⟩

/-! ### Small runs -/

/-- A script whose last move has no usable feed rate. -/
def sampleRefusedScript : String :=
  "[\x7b\"target_mm\": [0, 0, -190], \"feed_rate_mm_min\": 600\x7d,
    \x7b\"target_mm\": [0, 0, -195], \"feed_rate_mm_min\": 0\x7d]"

/-- Because of its last move none of a script is followed. -/
theorem sampleRun_refused :
    let execution := (sampleRun "kin_exec.toml").execute
      (sampleFiles "kin_exec.toml" sampleRefusedScript)
    (sampleRun "kin_exec.toml").CopiesInputs (sampleFiles "kin_exec.toml" sampleRefusedScript) ∧
      execution.exitCode = 1 ∧ execution.offered = [] := by
  intro execution
  have copies : (sampleRun "kin_exec.toml").CopiesInputs
      (sampleFiles "kin_exec.toml" sampleRefusedScript) := by
    refine .of_root rfl rfl ?_ ?_
    · exact .of_toOption "/sw/sessions/run/inputs/kin_exec.toml" sampleParameters
        (by decide +kernel) (by decide +kernel) (by decide +kernel)
    · exact .of_toOption "/sw/sessions/run/inputs/script.json" sampleRefusedScript
        (by decide +kernel) (by decide +kernel) (by decide +kernel)
  have failed : execution.exitCode = 1 := by decide +kernel
  obtain ⟨fails, -, unsent, -⟩ := run_fails_iff_defective copies
  obtain ⟨failure, defective⟩ := fails.1 failed
  obtain ⟨-, -, unoffered, -⟩ := unsent failure defective
  exact ⟨copies, failed, unoffered⟩

/-- A parameter file whose name starts with a dash has nothing wrong with it, but is taken for an
option if it is given apart from its own. No run is started then, and the program fails. -/
theorem sound_run_dismissed :
    (sampleRun "-x.toml").CopiesInputs (sampleFiles "-x.toml" "[]") ∧
      (¬ ∃ failure, (sampleRun "-x.toml").Defective (sampleFiles "-x.toml" "[]") failure) ∧
      ∃ dismissal, Arguments.ofList ["--params", "-x.toml", "script.json"] = .error dismissal ∧
        dismissal.exitCode = 1 := by
  have copies : (sampleRun "-x.toml").CopiesInputs (sampleFiles "-x.toml" "[]") := by
    refine .of_root rfl rfl ?_ ?_
    · exact .of_toOption "/sw/sessions/run/inputs/-x.toml" sampleParameters
        (by decide +kernel) (by decide +kernel) (by decide +kernel)
    · exact .of_toOption "/sw/sessions/run/inputs/script.json" "[]"
        (by decide +kernel) (by decide +kernel) (by decide +kernel)
  refine ⟨copies, ?_, .misuse, rfl, rfl⟩
  rintro ⟨failure, defective⟩
  have succeeded : ((sampleRun "-x.toml").execute (sampleFiles "-x.toml" "[]")).exitCode = 0 := by
    decide +kernel
  rw [defective.exitCode_eq_one copies] at succeeded
  cases succeeded

end DeltaRobot
