import DeltaRobot.Proofs.Files.Keeping
import DeltaRobot.Proofs.Run.Failure

/-!
Contract: which inputs a session still holds.

A copy is kept under the file name of its input and nothing else, so an input is still there unless
a later one of its name has taken its place. A run copies its parameter file and then its script:
the script is always there in the end, and the parameter file if it has another name.

Owns: what the copies say after any row of calls, and after a run.
Does not own: when a run copies its inputs.
-/

namespace DeltaRobot

namespace Invocation

-- Comparing two runs would otherwise follow the paths of the copies.
attribute [local irreducible] Session.archive

variable {invocation : Invocation} {files : FileTree} {root : String}

theorem Accepted.isRoot {machine : Machine Float} {path text : String}
    {commands : List (MoveCommand Float)}
    (accepted : invocation.Accepted files root machine path text commands) :
    invocation.root = some root := by
  obtain ⟨configuration, table, configured, -⟩ := accepted.built
  exact configured.isRoot

/-- The script of a run is still there when the run is over. -/
theorem Accepted.contents?_execute {machine : Machine Float} {path text : String}
    {commands : List (MoveCommand Float)}
    (accepted : invocation.Accepted files root machine path text commands)
    (copies : invocation.CopiesInputs files) :
    ∃ place, (invocation.session root).copyPlace? files path = some place ∧
      (invocation.execute files).files.contents? =
        Function.update (invocation.provisioned files root).contents? place (some text) := by
  obtain ⟨copy, copied⟩ := accepted.copied copies
  rw [ran_iff.1 (.followed accepted (accepted.built.supplied copies) copied)]
  exact accepted.contents?_archiveScript copies

/-- The parameter file of a run is still there when the run is over, unless a script of its name
says something else. -/
theorem Configured.contents?_execute {configuration : Configuration} {table : Toml.Value}
    (configured : invocation.Configured files root configuration table)
    (copies : invocation.CopiesInputs files) :
    ∃ text place,
      (invocation.opened files root).read (invocation.parametersPath root) = .ok text ∧
        (invocation.session root).copyPlace? files (invocation.parametersPath root) = some place ∧
        ((invocation.execute files).files.contents? place = some text ↔
          ∀ machine path scriptText commands,
            invocation.Accepted files root machine path scriptText commands →
            Path.fileName? path = Path.fileName? (invocation.parametersPath root) →
            scriptText = text) := by
  obtain ⟨text, place, read, isPlace, provisioned⟩ := configured.contents?_provisioned copies
  refine ⟨text, place, read, isPlace, ?_⟩
  by_cases accepts : ∃ machine path scriptText commands,
      invocation.Accepted files root machine path scriptText commands
  · obtain ⟨machine, path, scriptText, commands, accepted⟩ := accepts
    obtain ⟨scriptPlace, isScriptPlace, contents⟩ := accepted.contents?_execute copies
    rw [contents, provisioned]
    constructor
    · intro kept otherMachine otherPath otherText otherCommands other sameName
      cases accepted.isScript.symm.trans other.isScript
      cases accepted.read.symm.trans other.read
      cases isScriptPlace.symm.trans ((Session.copyPlace?_eq_iff isPlace).2 sameName)
      rw [Function.update_self] at kept
      exact Option.some.inj kept
    · intro sameText
      by_cases samePlace : place = scriptPlace
      · subst samePlace
        rw [Function.update_self,
          sameText machine path scriptText commands accepted
            ((Session.copyPlace?_eq_iff isPlace).1 isScriptPlace)]
      · rw [Function.update_of_ne samePlace, Function.update_self]
  · obtain ⟨inputs, archives, contents⟩ := (invocation.ran_execute files).archives copies
    have kept : (invocation.execute files).files.contents? place = some text := by
      rw [contents]
      cases archives with
      | nothing unconfigured => exact absurd configured (unconfigured _ _ _)
      | parameters otherConfigured otherRead isOtherPlace unaccepted =>
          cases configured.isRoot.symm.trans otherConfigured.isRoot
          cases read.symm.trans otherRead
          cases isPlace.symm.trans isOtherPlace
          exact Function.update_self _ _ _
      | both accepted =>
          cases configured.isRoot.symm.trans accepted.isRoot
          exact absurd ⟨_, _, _, _, accepted⟩ accepts
    refine iff_of_true kept ?_
    intro machine path scriptText commands accepted
    exact absurd ⟨_, _, _, _, accepted⟩ accepts

end Invocation

/-- The copy of an input is there until the next copy that is made under its file name, which takes
its place even if it is the copy of another file. A call that fails leaves all texts alone. So after
a run the script is always in the session, and the parameter file if and only if the script does not
have its name and another text. -/
theorem copies_hold_latest_inputs (session : Session) :
    (∀ before after calls, session.Archives before calls after →
      (∀ call ∈ calls, call.copy? session = none →
        (call.left session).contents? = call.files.contents?) ∧
      ∀ earlier call later copy, calls = earlier ++ call :: later →
        call.copy? session = some copy →
        ∃ text latest, call.source? = some text ∧
          session.latest? copy (call :: later) = some latest ∧
          after.contents? (after.destination copy) = latest.given? session ∧
          (call.files.destination call.path ≠ call.files.destination copy →
            (∀ other ∈ later, Path.fileName? other.path = Path.fileName? call.path →
              other.copy? session = none) →
            after.contents? (after.destination copy) = some text)) ∧
    ∀ (invocation : Invocation) (files : FileTree) (root : String),
      invocation.session root = session → invocation.CopiesInputs files →
        (∀ configuration table, invocation.Configured files root configuration table →
          ∃ text place,
            (invocation.opened files root).read (invocation.parametersPath root) = .ok text ∧
              session.copyPlace? files (invocation.parametersPath root) = some place ∧
              ((invocation.execute files).files.contents? place = some text ↔
                ∀ machine path scriptText commands,
                  invocation.Accepted files root machine path scriptText commands →
                  Path.fileName? path = Path.fileName? (invocation.parametersPath root) →
                  scriptText = text)) ∧
        ∀ machine path text commands,
          invocation.Accepted files root machine path text commands →
          ∃ place, session.copyPlace? files path = some place ∧
            (invocation.execute files).files.contents? place = some text := by
  refine ⟨?_, ?_⟩
  · intro before after calls archives
    refine ⟨fun call _ uncopied => Session.Call.contents?_left_of_uncopied uncopied, ?_⟩
    rintro earlier call later copy rfl copied
    obtain ⟨name, text, isName, isSource, isCopy⟩ := call.exists_fileName? copied
    obtain ⟨latest, isLatest, contents⟩ := archives.contents?_copy copied
    refine ⟨text, latest, isSource, isLatest, contents, ?_⟩
    intro notItself apart
    cases isLatest.symm.trans (Session.latest?_cons_self copied apart)
    rw [contents, Session.Call.given?_of_ne copied notItself, isSource]
  · rintro invocation files root rfl copies
    refine ⟨fun configuration table configured => configured.contents?_execute copies, ?_⟩
    intro machine path text commands accepted
    obtain ⟨place, isPlace, contents⟩ := accepted.contents?_execute copies
    refine ⟨place, isPlace, ?_⟩
    rw [contents, Function.update_self]

/-! ### Small sessions -/

def sampleSession : Session := { directory := "/session" }

/-- Two files of one name in two directories, and a third one. -/
def sampleInputs : FileTree :=
  { files := [(["files", "a", "x.toml"], "one"), (["files", "b", "x.toml"], "two"),
      (["files", "b", "y.toml"], "three")]
    directories := []
    here := ["files"] }

theorem sampleRun_copiesInputs :
    (sampleRun "kin_exec.toml").CopiesInputs (sampleFiles "kin_exec.toml" "[]") := by
  refine .of_root rfl rfl ?_ ?_
  · exact .of_toOption "/sw/sessions/run/inputs/kin_exec.toml" sampleParameters
      (by decide +kernel) (by decide +kernel) (by decide +kernel)
  · exact .of_toOption "/sw/sessions/run/inputs/script.json" "[]"
      (by decide +kernel) (by decide +kernel) (by decide +kernel)

/-- An input is still there after one of another name and one that is missing. So are the inputs of
a run whose names differ. -/
theorem sampleInputs_kept :
    let first : Session.Call := { files := sampleInputs, path := "a/x.toml" }
    let missing : Session.Call := { files := first.left sampleSession, path := "x.toml" }
    let second : Session.Call := { files := missing.left sampleSession, path := "b/y.toml" }
    let after := second.left sampleSession
    let invocation := sampleRun "kin_exec.toml"
    let files := sampleFiles "kin_exec.toml" "[]"
    sampleSession.Archives sampleInputs [first, missing, second] after ∧
      second.files.contents? = missing.files.contents? ∧
      after.contents? (after.destination "/session/inputs/x.toml") = some "one" ∧
      invocation.CopiesInputs files ∧
      (∃ place, (invocation.session "/sw").copyPlace? files (invocation.parametersPath "/sw") =
          some place ∧
        (invocation.execute files).files.contents? place = some sampleParameters) ∧
      ∃ place, (invocation.session "/sw").copyPlace? files "script.json" = some place ∧
        (invocation.execute files).files.contents? place = some "[]" := by
  intro first missing second after invocation files
  obtain ⟨ofCalls, -⟩ := copies_hold_latest_inputs sampleSession
  obtain ⟨-, ofRuns⟩ := copies_hold_latest_inputs (invocation.session "/sw")
  have archives : sampleSession.Archives sampleInputs [first, missing, second] after :=
    .call (.refl _ _) (.call (.refl _ _) (.call (.refl _ _) (.done (.refl _ _))))
  obtain ⟨unchanged, held⟩ := ofCalls _ _ _ archives
  have sameLeft : second.files.contents? = missing.files.contents? :=
    unchanged missing (by simp) (by decide +kernel)
  obtain ⟨text, latest, isSource, -, -, kept⟩ :=
    held [] first [missing, second] "/session/inputs/x.toml" rfl (by decide +kernel)
  have isOne : first.source? = some "one" := by decide +kernel
  cases isSource.symm.trans isOne
  have apart : ∀ other ∈ [missing, second],
      Path.fileName? other.path = Path.fileName? first.path →
        other.copy? sampleSession = none := by
    decide +kernel
  have keptOne := kept (by decide +kernel) apart
  have succeeded : (invocation.execute files).exitCode = 0 := by decide +kernel
  obtain ⟨root, machine, scriptText, commands, accepted, -⟩ :=
    (invocation.ran_execute files).of_exitCode_eq_zero rfl succeeded
  cases accepted.isRoot
  obtain ⟨ofParameters, ofScript⟩ := ofRuns invocation files "/sw" rfl sampleRun_copiesInputs
  obtain ⟨scriptPlace, isScriptPlace, keptScript⟩ := ofScript _ _ _ _ accepted
  obtain ⟨configuration, table, configured, -⟩ := accepted.built
  obtain ⟨parameters, place, read, isPlace, keptParameters⟩ := ofParameters _ _ configured
  have isParameters : (invocation.opened files "/sw").read (invocation.parametersPath "/sw") =
      .ok sampleParameters :=
    Session.eq_ok_of_toOption (by decide +kernel)
  have isScript : (invocation.provisioned files "/sw").read "script.json" = .ok "[]" :=
    Session.eq_ok_of_toOption (by decide +kernel)
  cases read.symm.trans isParameters
  cases accepted.read.symm.trans isScript
  have otherName : ∀ path, invocation.script = some path →
      Path.fileName? path ≠ Path.fileName? (invocation.parametersPath "/sw") := by
    rintro path isPath
    cases isPath
    decide +kernel
  refine ⟨archives, sameLeft, keptOne, sampleRun_copiesInputs, ⟨place, isPlace, ?_⟩,
    scriptPlace, isScriptPlace, keptScript⟩
  exact keptParameters.2 fun _ path _ _ other sameName =>
    absurd sameName (otherName path other.isScript)

/-- Of two inputs of one name the second takes the place of the first. -/
theorem exists_copy_overwritten :
    let first : Session.Call := { files := sampleInputs, path := "a/x.toml" }
    let second : Session.Call := { files := first.left sampleSession, path := "b/x.toml" }
    let after := second.left sampleSession
    sampleSession.Archives sampleInputs [first, second] after ∧
      first.copy? sampleSession = some "/session/inputs/x.toml" ∧
      first.source? = some "one" ∧
      after.contents? (after.destination "/session/inputs/x.toml") = some "two" := by
  intro first second after
  refine ⟨.call (.refl _ _) (.call (.refl _ _) (.done (.refl _ _))), ?_, ?_, ?_⟩
  · decide +kernel
  · decide +kernel
  · decide +kernel

end DeltaRobot
