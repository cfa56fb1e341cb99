import DeltaRobot.Proofs.Files.Archive
import DeltaRobot.Proofs.Files.Names

/-!
Contract: the copies in a session, call after call.

A copy goes to the place that the name of its input has in the session. So calls whose inputs have
one name share one copy, and what it says is up to the latest of them; all other calls, and all
that fail, leave it alone. Between two calls anything may happen to files outside of the session.

Owns: `Session.Archives`, and what a copy says after any row of calls.
Does not own: which inputs a run copies.
-/

namespace DeltaRobot

namespace Session

/-- The directory of the copies is named by the last name of its path. -/
theorem namesFile_inputs : Path.NamesFile "inputs" :=
  ⟨by decide, by decide, by decide⟩

theorem join_inputs (session : Session) {name : String} (namesFile : Path.NamesFile name) :
    Path.join session.inputs name = session.inputs ++ "/" ++ name :=
  Path.join_join session.directory namesFile_inputs namesFile

theorem join_inputs_inj (session : Session) {name other : String}
    (namesFile : Path.NamesFile name) (otherNamesFile : Path.NamesFile other) :
    Path.join session.inputs name = Path.join session.inputs other ↔ name = other := by
  rw [session.join_inputs namesFile, session.join_inputs otherNamesFile, String.append_right_inj]

/-- The copies lie side by side in one directory. -/
theorem destination_join_inputs (session : Session) (tree : FileTree) {name : String}
    (namesFile : Path.NamesFile name) :
    tree.destination (Path.join session.inputs name) =
      tree.destination session.inputs ++ [name] := by
  rw [session.join_inputs namesFile]
  refine tree.destination_append_slash ?_ namesFile
  obtain ⟨front, isJoin⟩ := Path.exists_join_eq session.directory "inputs"
  rw [inputs, isJoin]
  simp

/-- Copies of two names have two places. -/
theorem destination_join_inputs_inj (session : Session) (tree : FileTree) {name other : String}
    (namesFile : Path.NamesFile name) (otherNamesFile : Path.NamesFile other) :
    tree.destination (Path.join session.inputs name) =
        tree.destination (Path.join session.inputs other) ↔ name = other := by
  rw [session.destination_join_inputs tree namesFile,
    session.destination_join_inputs tree otherNamesFile]
  simp

/-- Inputs have one place in a session exactly if they have one name. -/
theorem copyPlace?_eq_iff {session : Session} {tree : FileTree} {path other : String}
    {place : Location} (isPlace : session.copyPlace? tree path = some place) :
    session.copyPlace? tree other = some place ↔ Path.fileName? other = Path.fileName? path := by
  rw [copyPlace?, Option.map_eq_some_iff] at isPlace
  obtain ⟨name, isName, rfl⟩ := isPlace
  rw [copyPlace?, Option.map_eq_some_iff, isName]
  constructor
  · rintro ⟨otherName, isOtherName, samePlace⟩
    have sameName := (session.destination_join_inputs_inj tree (.of_fileName? isOtherName)
      (.of_fileName? isName)).1 samePlace
    rw [isOtherName, sameName]
  · intro isOtherName
    exact ⟨name, isOtherName, rfl⟩

/-! ### One call -/

/-- An input that is to be copied, and the files at that time. -/
structure Call where
  files : FileTree
  path : String

namespace Call

section

variable (session : Session) (call : Call)

/-- The path of the copy, if one is made. -/
def copy? : Option String := (session.archive call.files call.path).1.toOption

/-- The files when the call is over. -/
def left : FileTree := (session.archive call.files call.path).2

/-- What the input says when it is copied. -/
def source? : Option String := call.files.contents? (call.files.destination call.path)

/-- What a copy says once it is made. An input that is its own copy is emptied. -/
def given? : Option String :=
  if session.copyPlace? call.files call.path = some (call.files.destination call.path) then some ""
  else call.source?

end

variable {session : Session} {call : Call}

/-- A call either makes no copy and leaves all texts as they are, or puts one text into the session
under the name of the input. -/
theorem outcome (session : Session) (call : Call) :
    (call.copy? session = none ∧ (call.left session).contents? = call.files.contents?) ∨
      ∃ name, Path.fileName? call.path = some name ∧ call.source?.isSome ∧
        call.copy? session = some (Path.join session.inputs name) ∧
        (call.left session).contents? =
          Function.update call.files.contents?
            (call.files.destination (Path.join session.inputs name)) (call.given? session) := by
  rcases session.archive_cases call.files call.path with
    ⟨cause, isError⟩ | ⟨name, text, isName, isSource, isOk⟩
  · left
    rw [copy?, left, isError]
    exact ⟨rfl, FileTree.contents?_makeDirectory _ _⟩
  · right
    have isGiven : call.given? session = some
        (if call.files.destination call.path =
          call.files.destination (Path.join session.inputs name) then "" else text) := by
      rw [given?, copyPlace?, isName, source?, isSource, apply_ite some]
      simp only [Option.map_some, Option.some.injEq, eq_comm]
    refine ⟨name, isName, by rw [source?, isSource]; rfl, by rw [copy?, isOk]; rfl, ?_⟩
    rw [left, isOk, isGiven]
    exact FileTree.contents?_put _ _ _

theorem contents?_left_of_uncopied (uncopied : call.copy? session = none) :
    (call.left session).contents? = call.files.contents? := by
  rcases call.outcome session with ⟨-, unchanged⟩ | ⟨name, -, -, copied, -⟩
  · exact unchanged
  · cases uncopied.symm.trans copied

/-- A copy has the name of its input. -/
theorem exists_fileName? {copy : String} (copied : call.copy? session = some copy) :
    ∃ name text, Path.fileName? call.path = some name ∧ call.source? = some text ∧
      copy = Path.join session.inputs name := by
  rcases call.outcome session with ⟨uncopied, -⟩ | ⟨name, isName, isSource, isCopy, -⟩
  · cases uncopied.symm.trans copied
  · obtain ⟨text, isSource⟩ := Option.isSome_iff_exists.1 isSource
    exact ⟨name, text, isName, isSource, Option.some.inj (copied.symm.trans isCopy)⟩

/-- A copy of another file says what that file says. -/
theorem given?_of_ne {copy : String} (copied : call.copy? session = some copy)
    (notItself : call.files.destination call.path ≠ call.files.destination copy) :
    call.given? session = call.source? := by
  obtain ⟨name, text, isName, -, rfl⟩ := call.exists_fileName? copied
  rw [given?, copyPlace?, isName, Option.map_some]
  exact if_neg fun itself => notItself (Option.some.inj itself).symm

/-- What one call does to the copy of some name. -/
theorem contents?_left (session : Session) (call : Call) {name : String}
    (namesFile : Path.NamesFile name) :
    (call.left session).contents? (call.files.destination (Path.join session.inputs name)) =
      if call.copy? session = some (Path.join session.inputs name) then call.given? session
      else call.files.contents? (call.files.destination (Path.join session.inputs name)) := by
  rcases call.outcome session with ⟨uncopied, unchanged⟩ | ⟨other, isName, -, copied, changed⟩
  · rw [uncopied, unchanged, if_neg (Option.some_ne_none _).symm]
  · have otherNamesFile := Path.NamesFile.of_fileName? isName
    rw [copied, changed, Function.update_apply]
    simp only [Option.some.injEq, session.join_inputs_inj otherNamesFile namesFile,
      session.destination_join_inputs_inj call.files namesFile otherNamesFile,
      eq_comm (a := name) (b := other)]

end Call

/-! ### Rows of calls -/

/-- Nobody else works on the copies in a session. -/
structure Undisturbed (session : Session) (before after : FileTree) : Prop where
  here : after.here = before.here
  copies : ∀ name,
    after.contents? (before.destination session.inputs ++ [name]) =
      before.contents? (before.destination session.inputs ++ [name])

theorem Undisturbed.refl (session : Session) (files : FileTree) :
    session.Undisturbed files files :=
  ⟨rfl, fun _ => rfl⟩

/-- Inputs are copied one after the other. -/
inductive Archives (session : Session) : FileTree → List Call → FileTree → Prop where
  | done {before after : FileTree} (undisturbed : session.Undisturbed before after) :
      Archives session before [] after
  | call {before after : FileTree} {call : Call} {calls : List Call}
      (undisturbed : session.Undisturbed before call.files)
      (others : Archives session (call.left session) calls after) :
      Archives session before (call :: calls) after

/-- The latest of some calls that gives a path. -/
def latest? (session : Session) (copy : String) (calls : List Call) : Option Call :=
  (calls.filter (fun call => call.copy? session = some copy)).getLast?

variable {session : Session} {before after : FileTree} {calls : List Call}

theorem latest?_append (copy : String) (earlier later : List Call) :
    session.latest? copy (earlier ++ later) =
      (session.latest? copy later).or (session.latest? copy earlier) := by
  rw [latest?, latest?, latest?, List.filter_append, List.getLast?_append]

theorem latest?_cons (copy : String) (call : Call) (calls : List Call) :
    session.latest? copy (call :: calls) =
      (session.latest? copy calls).or
        (if call.copy? session = some copy then some call else none) := by
  rw [← List.singleton_append, latest?_append]
  by_cases copied : call.copy? session = some copy
  · simp [latest?, copied]
  · simp [latest?, copied]

theorem latest?_eq_none_iff {copy : String} :
    session.latest? copy calls = none ↔ ∀ call ∈ calls, call.copy? session ≠ some copy := by
  rw [latest?, List.getLast?_eq_none_iff, List.filter_eq_nil_iff]
  simp only [decide_eq_true_iff, ne_eq]

/-- A call that gives a path is the latest one if no later input of its name is copied. -/
theorem latest?_cons_self {copy : String} {call : Call} {later : List Call}
    (copied : call.copy? session = some copy)
    (apart : ∀ other ∈ later, Path.fileName? other.path = Path.fileName? call.path →
      other.copy? session = none) :
    session.latest? copy (call :: later) = some call := by
  have noLater : session.latest? copy later = none := by
    refine latest?_eq_none_iff.2 fun other isLater otherCopied => ?_
    obtain ⟨name, -, isName, -, isCopy⟩ := call.exists_fileName? copied
    obtain ⟨otherName, -, isOtherName, -, isOtherCopy⟩ := other.exists_fileName? otherCopied
    have sameName : otherName = name :=
      (session.join_inputs_inj (.of_fileName? isOtherName) (.of_fileName? isName)).1
        (isOtherCopy.symm.trans isCopy)
    have uncopied := apart other isLater (by rw [isName, isOtherName, sameName])
    cases uncopied.symm.trans otherCopied
  rw [latest?_cons, noLater, if_pos copied, Option.none_or]

theorem Archives.here (archives : session.Archives before calls after) :
    after.here = before.here := by
  induction archives with
  | done undisturbed => exact undisturbed.here
  | call undisturbed others inductionHypothesis =>
      rw [inductionHypothesis, Call.left, session.here_archive, undisturbed.here]

/-- A copy says what the latest call put there, and without such a call what it said before. -/
theorem Archives.contents? (archives : session.Archives before calls after) {name : String}
    (namesFile : Path.NamesFile name) :
    after.contents? (before.destination (Path.join session.inputs name)) =
      (session.latest? (Path.join session.inputs name) calls).elim
        (before.contents? (before.destination (Path.join session.inputs name)))
        (fun latest => latest.given? session) := by
  induction archives with
  | done undisturbed =>
      rw [session.destination_join_inputs _ namesFile]
      exact undisturbed.copies name
  | @call before after call calls undisturbed others inductionHypothesis =>
      have sameHere : (call.left session).here = call.files.here :=
        session.here_archive call.files call.path
      rw [FileTree.destination_congr sameHere, call.contents?_left session namesFile,
        FileTree.destination_congr undisturbed.here] at inductionHypothesis
      have same := undisturbed.copies name
      rw [← session.destination_join_inputs before namesFile] at same
      rw [inductionHypothesis, same, latest?_cons]
      cases session.latest? (Path.join session.inputs name) calls with
      | some latest => rfl
      | none =>
          by_cases copied : call.copy? session = some (Path.join session.inputs name)
          · simp [copied]
          · simp [copied]

/-- A path that one of the calls gave leads to what the latest of those calls put there that gave
it. -/
theorem Archives.contents?_copy {copy : String} {earlier later : List Call} {call : Call}
    (archives : session.Archives before (earlier ++ call :: later) after)
    (copied : call.copy? session = some copy) :
    ∃ latest, session.latest? copy (call :: later) = some latest ∧
      after.contents? (after.destination copy) = latest.given? session := by
  obtain ⟨name, -, isName, -, rfl⟩ := call.exists_fileName? copied
  have someLatest : session.latest? (Path.join session.inputs name) (call :: later) ≠ none :=
    fun noLatest => latest?_eq_none_iff.1 noLatest call List.mem_cons_self copied
  obtain ⟨latest, isLatest⟩ := Option.ne_none_iff_exists'.1 someLatest
  refine ⟨latest, isLatest, ?_⟩
  rw [FileTree.destination_congr archives.here, archives.contents? (.of_fileName? isName),
    latest?_append, isLatest]
  rfl

end Session

end DeltaRobot
