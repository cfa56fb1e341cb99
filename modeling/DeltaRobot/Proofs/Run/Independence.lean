import DeltaRobot.Proofs.Files.Twins
import DeltaRobot.Proofs.Parameters.Foreign
import DeltaRobot.Proofs.Run.Records

/-!
Contract: what a run takes from its parameter file.

Two runs that differ in the text of the parameter file alone go through the same stages. As long as
both texts name one kind of machine and give it the same parameters, every stage comes out the same
in both: the files stay twins of each other, apart from the parameter file and its copy, and nothing
after the parameters are read depends on these.

Owns: runs of equal records, and that a run does not depend on the rest of its parameter file.
Does not own: a script that is itself the parameter file.
-/

namespace DeltaRobot

namespace Execution

/-- Runs that differ in nothing but the files they leave. -/
structure Alike (left right : Execution) : Prop where
  failure : left.failure = right.failure
  events : left.events = right.events
  steps : left.steps = right.steps

namespace Alike

theorem fail (leftFiles rightFiles : FileTree) (failure : Failure) :
    Alike (.fail leftFiles failure) (.fail rightFiles failure) :=
  ⟨rfl, rfl, rfl⟩

variable {left right : Execution}

theorem after (alike : left.Alike right) (events : List RunEvent) :
    (left.after events).Alike (right.after events) :=
  ⟨alike.failure, congrArg (events ++ ·) alike.events, alike.steps⟩

theorem exitCode (alike : left.Alike right) : left.exitCode = right.exitCode := by
  rw [Execution.exitCode, Execution.exitCode, alike.failure]

theorem lines (alike : left.Alike right) (style : NumberStyle) (verbosity : Verbosity) :
    left.lines style verbosity = right.lines style verbosity := by
  rw [Execution.lines, Execution.lines, alike.events]

theorem offered (alike : left.Alike right) : left.offered = right.offered := by
  rw [Execution.offered, Execution.offered, alike.steps]

theorem queued (alike : left.Alike right) : left.queued = right.queued := by
  rw [Execution.queued, Execution.queued, alike.events]

end Alike

end Execution

-- Comparing two runs would otherwise follow the paths of the copies.
attribute [local irreducible] Session.archive

/-! ### The stages of two runs -/

namespace FileTree.Twins

variable {apart : List Location} {left right : FileTree}

theorem withMachine (twins : Twins apart left right) (session : Session) (machine : Machine Float)
    {path : String} (elsewhere : right.destination path ∉ apart) :
    (Run.withMachine session left machine path).Alike
      (Run.withMachine session right machine path) := by
  rw [Run.withMachine, Run.withMachine, twins.read elsewhere]
  cases right.read path with
  | error cause => exact .fail _ _ _
  | ok text =>
      dsimp only
      cases MoveCommand.scriptOfText text with
      | error cause => exact .fail _ _ _
      | ok commands =>
          have sameOutcome := (twins.archive session path).1
          generalize session.archive left path = leftKept at sameOutcome ⊢
          generalize session.archive right path = rightKept at sameOutcome ⊢
          obtain ⟨copied, leftFiles⟩ := leftKept
          obtain ⟨copiedRight, rightFiles⟩ := rightKept
          cases sameOutcome
          cases copied with
          | error cause => exact .fail _ _ _
          | ok copy => exact ⟨rfl, rfl, rfl⟩

theorem start (twins : Twins apart left right) (session : Session) (machine : Machine Float)
    {script : Option String} (elsewhere : ∀ path, script = some path →
      right.destination path ∉ apart) :
    (Run.start session left machine script).Alike (Run.start session right machine script) := by
  cases script with
  | none => exact ⟨rfl, rfl, rfl⟩
  | some path =>
      exact (twins.withMachine session machine.initialise.1 (elsewhere path rfl)).after _

theorem withTable (twins : Twins apart left right) (session : Session) (kind : String)
    {leftTable rightTable : Toml.Value}
    (sameRead : Parameters.read leftTable = Parameters.read rightTable) {script : Option String}
    (elsewhere : ∀ path, script = some path → right.destination path ∉ apart) :
    (Run.withTable session left kind leftTable script).Alike
      (Run.withTable session right kind rightTable script) := by
  rw [Run.withTable, Run.withTable, Machine.build_congr sameRead]
  cases Machine.build kind rightTable with
  | error cause => exact .fail _ _ _
  | ok machine => exact twins.start session machine elsewhere

/-- The parameter files may differ, if both can be loaded and spell the same parameters. -/
theorem withSession (twins : Twins apart left right) (session : Session)
    {root file leftText rightText kind : String} {parameters : Parameters Float}
    {first second : Configuration}
    (inLeft : left.contents? (left.destination (parameterPath root file)) = some leftText)
    (inRight : right.contents? (right.destination (parameterPath root file)) = some rightText)
    (leftLoaded : Configuration.ofText? leftText = some first)
    (rightLoaded : Configuration.ofText? rightText = some second)
    (leftSpells : Configuration.Spells leftText kind parameters)
    (rightSpells : Configuration.Spells rightText kind parameters) {script : Option String}
    (elsewhere : ∀ path, script = some path → right.destination path ∉
      (session.copyPlace? right (parameterPath root file)).toList ++ apart) :
    (Run.withSession session left root file script).Alike
      (Run.withSession session right root file script) := by
  obtain ⟨rfl, leftTable, isLeftTable, leftRead⟩ := leftSpells.read leftLoaded
  obtain ⟨sameKind, rightTable, isRightTable, rightRead⟩ := rightSpells.read rightLoaded
  unfold Run.withSession loadFile
  simp only [read_of_contents? inLeft, read_of_contents? inRight, twins.locate]
  cases right.locate (parameterPath root file) with
  | error cause => exact .fail _ _ _
  | ok location =>
      simp only [Except.map, leftLoaded, rightLoaded, isLeftTable, isRightTable, sameKind]
      have kept := twins.archive session (parameterPath root file)
      have here := session.here_archive right (parameterPath root file)
      generalize session.archive left (parameterPath root file) = leftKept at kept ⊢
      generalize session.archive right (parameterPath root file) = rightKept at kept here ⊢
      obtain ⟨copied, leftFiles⟩ := leftKept
      obtain ⟨copiedRight, rightFiles⟩ := rightKept
      obtain ⟨sameOutcome, keptTwins⟩ := kept
      cases sameOutcome
      cases copied with
      | error cause => exact .fail _ _ _
      | ok copy =>
          refine (keptTwins.withTable session first.kind (leftRead.trans rightRead.symm)
            fun path isScript => ?_).after _
          rw [destination_congr here]
          exact elsewhere path isScript

end FileTree.Twins

/-! ### Whole runs -/

/-- The files of a run with a text as its parameter file. -/
def Invocation.withParameters (invocation : Invocation) (files : FileTree) (root text : String) :
    FileTree :=
  files.put (files.destination (invocation.parametersPath root)) text

/-- The script of a run, if there is one, is another file than the parameter file and its copy. -/
def Invocation.ScriptApart (invocation : Invocation) (files : FileTree) (root : String) : Prop :=
  ∀ path, invocation.script = some path →
    files.destination path ≠ files.destination (invocation.parametersPath root) ∧
      (invocation.session root).copyPlace? files (invocation.parametersPath root) ≠
        some (files.destination path)

/-- A run depends on its parameter file through the kind of machine and the parameters alone.
Whatever else two files hold, if both can be loaded the runs fail for the same reasons or do not
fail, keep the same log, offer the same segments and track the same positions. -/
theorem run_depends_on_spelled_parameters {invocation : Invocation} {files : FileTree}
    {root : String} (isRoot : invocation.root = some root)
    (apart : invocation.ScriptApart files root) {leftText rightText kind : String}
    {parameters : Parameters Float}
    (leftLoads : (Configuration.ofText? leftText).isSome)
    (rightLoads : (Configuration.ofText? rightText).isSome)
    (leftSpells : Configuration.Spells leftText kind parameters)
    (rightSpells : Configuration.Spells rightText kind parameters) :
    let left := invocation.execute (invocation.withParameters files root leftText)
    let right := invocation.execute (invocation.withParameters files root rightText)
    left.Alike right ∧ left.exitCode = right.exitCode ∧
      (∀ style verbosity, left.lines style verbosity = right.lines style verbosity) ∧
      left.offered = right.offered ∧ left.queued = right.queued := by
  intro left right
  obtain ⟨first, leftLoaded⟩ := Option.isSome_iff_exists.1 leftLoads
  obtain ⟨second, rightLoaded⟩ := Option.isSome_iff_exists.1 rightLoads
  have alike : left.Alike right := by
    have given : FileTree.Twins [files.destination (invocation.parametersPath root)]
        (invocation.withParameters files root leftText)
        (invocation.withParameters files root rightText) :=
      (FileTree.Twins.refl [] files).put _ _ _
    have opened := given.makeDirectory (Run.session root invocation.sessionName).directory
    change (invocation.execute _).Alike (invocation.execute _)
    rw [Invocation.execute, Invocation.execute, isRoot]
    refine (opened.withSession (Run.session root invocation.sessionName)
      (FileTree.contents?_put_self _ _ _) (FileTree.contents?_put_self _ _ _) leftLoaded
      rightLoaded leftSpells rightSpells fun path isScript => ?_).after _
    obtain ⟨notParameters, notCopy⟩ := apart path isScript
    rw [List.mem_append, Option.mem_toList, List.mem_singleton, not_or]
    exact ⟨notCopy, notParameters⟩
  exact ⟨alike, alike.exitCode, alike.lines, alike.offered, alike.queued⟩

/-! ### Small runs -/

/-- What `sampleParameters` spells. -/
def sampleValues : Parameters Float where
  crank := 100
  linkage := 200
  baseTriangle := 100
  effectorTriangle := 50
  maxNegativeAngle := -1
  maxPositiveAngle := 1
  segmentLength := 2

/-- The same parameters as a table, with entries that no run looks at. -/
def sampleTable : String :=
  "kinematics = \"parallel_delta\"
[other]
crank_mm = \"long\"
[parallel_delta]
kinematic_segment_len_mm = 2
max_positive_angle_rad = 1
max_negative_angle_rad = -1.0
end_effector_triangle_mm = 50
base_triangle_mm = 100
colour = 3
linkage_mm = 2e2
crank_mm = 100
"

/-- One more table, whose first name is the one under which moments are spelled. -/
def sampleReserved : String :=
  sampleParameters ++ "
[other]
\"$__toml_private_datetime\" = \"1979-05-27\"
b = 1
"

/-- The array and the table are followed alike. -/
theorem sampleRun_alike :
    let invocation := sampleRun "kin_exec.toml"
    let files := sampleFiles "kin_exec.toml" sampleScript
    invocation.ScriptApart files "/sw" ∧
      Configuration.Spells sampleParameters Machine.kind sampleValues ∧
      Configuration.Spells sampleTable Machine.kind sampleValues ∧
      (invocation.execute (invocation.withParameters files "/sw" sampleParameters)).Alike
        (invocation.execute (invocation.withParameters files "/sw" sampleTable)) := by
  intro invocation files
  have apart : invocation.ScriptApart files "/sw" := by
    intro path isScript
    cases isScript
    decide +kernel
  have array : Configuration.Spells sampleParameters Machine.kind sampleValues ∧
      (Configuration.ofText? sampleParameters).isSome := by
    decide +kernel
  have table : Configuration.Spells sampleTable Machine.kind sampleValues ∧
      (Configuration.ofText? sampleTable).isSome := by
    decide +kernel
  exact ⟨apart, array.1, table.1,
    (run_depends_on_spelled_parameters rfl apart array.2 table.2 array.1 table.1).1⟩

/-- A text can spell the same parameters and yet give no run, if one of its other tables starts with
the name that is kept for moments. -/
theorem sampleReserved_refused :
    let invocation := sampleRun "kin_exec.toml"
    let files := sampleFiles "kin_exec.toml" "[]"
    Configuration.Spells sampleParameters Machine.kind sampleValues ∧
      Configuration.Spells sampleReserved Machine.kind sampleValues ∧
      (invocation.execute
        (invocation.withParameters files "/sw" sampleParameters)).exitCode = 0 ∧
      (invocation.execute
        (invocation.withParameters files "/sw" sampleReserved)).exitCode = 1 := by
  intro invocation files
  exact ⟨by decide +kernel, by decide +kernel, by decide +kernel, by decide +kernel⟩

end DeltaRobot
