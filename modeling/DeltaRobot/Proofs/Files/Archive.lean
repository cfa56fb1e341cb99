import DeltaRobot.Files.Session
import Mathlib.Logic.Function.Basic

/-!
Contract: what copying an input into a session does to the files.

Reading a path gives what is at the place that the path leads to, and that place depends on the
files only through the directory that relative paths start from. So the copy of an input has one
place, before and after it is made. A copy that is made changes that place and no other, and one
that fails changes nothing.

Owns: the place of a copy, and the contents of the files after `Session.archive`.
Does not own: which inputs are copied.
-/

namespace DeltaRobot

namespace FileTree

variable {tree : FileTree}

theorem contents?_makeDirectory (tree : FileTree) (path : String) :
    (tree.makeDirectory path).contents? = tree.contents? := rfl

theorem here_makeDirectory (tree : FileTree) (path : String) :
    (tree.makeDirectory path).here = tree.here := rfl

theorem enter_eq_ok {location after : Location} {name : String}
    (entered : tree.enter location name = .ok after) : after = descend location name := by
  rw [enter] at entered
  split at entered
  · cases entered
  · split at entered
    · cases entered
    · split at entered
      · cases entered
      · exact (Except.ok.inj entered).symm

/-- A row of names that can be followed leads where it seems to. -/
theorem follow_eq_ok {location after : Location} {names : List String}
    (followed : tree.follow location names = .ok after) : after = names.foldl descend location := by
  induction names generalizing location with
  | nil => exact (Except.ok.inj followed).symm
  | cons name names inductionHypothesis =>
      rw [follow] at followed
      cases entered : tree.enter location name with
      | error cause =>
          rw [entered] at followed
          cases followed
      | ok next =>
          rw [entered] at followed
          rw [List.foldl_cons, ← enter_eq_ok entered]
          exact inductionHypothesis followed

theorem locate_eq_ok {path : String} {location : Location}
    (located : tree.locate path = .ok location) : location = tree.destination path := by
  rw [locate] at located
  split at located
  · cases located
  · split at located
    · cases located
    · exact follow_eq_ok located

theorem destination_congr {other : FileTree} (sameHere : tree.here = other.here) (path : String) :
    tree.destination path = other.destination path := by
  rw [destination, destination, start, start, sameHere]

/-- What is read is at the place that the path leads to. -/
theorem contents?_of_read {path text : String} (read : tree.read path = .ok text) :
    tree.contents? (tree.destination path) = some text := by
  rw [FileTree.read] at read
  cases located : tree.locate path with
  | error cause =>
      rw [located] at read
      cases read
  | ok location =>
      rw [located] at read
      rw [← locate_eq_ok located]
      cases found : tree.contents? location with
      | none =>
          simp only [found] at read
          split at read <;> cases read
      | some other =>
          simp only [found] at read
          rw [Except.ok.inj read]

theorem contents?_put (tree : FileTree) (location : Location) (text : String) :
    (tree.put location text).contents? = Function.update tree.contents? location (some text) := by
  funext other
  by_cases same : other = location
  · rw [same, contents?_put_self, Function.update_self]
  · rw [contents?_put_of_ne tree text same, Function.update_of_ne same]

/-- A copy is a text that is put in the place of the target. A file that is its own copy is
emptied. -/
theorem copy_eq_ok {source target : String} {after : FileTree}
    (copied : tree.copy source target = .ok after) :
    ∃ text, tree.contents? (tree.destination source) = some text ∧
      after = tree.put (tree.destination target)
        (if tree.destination source = tree.destination target then "" else text) := by
  rw [copy] at copied
  cases fromSource : tree.locate source with
  | error cause =>
      rw [fromSource] at copied
      cases copied
  | ok sourceLocation =>
      rw [fromSource] at copied
      rw [← locate_eq_ok fromSource]
      cases found : tree.contents? sourceLocation with
      | none =>
          simp only [found] at copied
          split at copied <;> cases copied
      | some text =>
          simp only [found] at copied
          refine ⟨text, rfl, ?_⟩
          cases toTarget : tree.locate target with
          | error cause =>
              rw [toTarget] at copied
              cases copied
          | ok targetLocation =>
              rw [toTarget] at copied
              dsimp only at copied
              rw [← locate_eq_ok toTarget]
              split at copied
              · cases copied
              · exact (Except.ok.inj copied).symm

end FileTree

namespace Session

variable {session : Session} {tree : FileTree} {path : String}

/-- Where the copy of an input goes. -/
def copyPlace? (session : Session) (tree : FileTree) (path : String) : Option Location :=
  (Path.fileName? path).map (fun name => tree.destination (Path.join session.inputs name))

theorem copyPlace?_congr {other : FileTree} (sameHere : tree.here = other.here) (path : String) :
    session.copyPlace? tree path = session.copyPlace? other path := by
  simp only [copyPlace?, FileTree.destination_congr sameHere]

/-- A readable file can be copied: the copy is made, and it reads as the file did. -/
def Copies (session : Session) (tree : FileTree) (path : String) : Prop :=
  ∀ text, tree.read path = .ok text →
    ∃ copy, (session.archive tree path).1 = .ok copy ∧
      (session.archive tree path).2.read copy = .ok text

/-- An input either stays out of the session, or its copy is put in its place. -/
theorem archive_cases (session : Session) (tree : FileTree) (path : String) :
    (∃ cause, session.archive tree path = (.error cause, tree.makeDirectory session.inputs)) ∨
      ∃ name text, Path.fileName? path = some name ∧
        tree.contents? (tree.destination path) = some text ∧
        session.archive tree path =
          (.ok (Path.join session.inputs name),
            (tree.makeDirectory session.inputs).put
              (tree.destination (Path.join session.inputs name))
              (if tree.destination path = tree.destination (Path.join session.inputs name) then ""
              else text)) := by
  rw [archive]
  cases isName : Path.fileName? path with
  | none => exact .inl ⟨_, rfl⟩
  | some name =>
      dsimp only
      cases copied : (tree.makeDirectory session.inputs).copy path
          (Path.join session.inputs name) with
      | error cause => exact .inl ⟨_, rfl⟩
      | ok after =>
          obtain ⟨text, found, isAfter⟩ := FileTree.copy_eq_ok copied
          refine .inr ⟨name, text, rfl, found, ?_⟩
          rw [isAfter]
          rfl

theorem here_archive (session : Session) (tree : FileTree) (path : String) :
    (session.archive tree path).2.here = tree.here := by
  rcases session.archive_cases tree path with ⟨cause, isError⟩ | ⟨name, text, -, -, isOk⟩
  · rw [isError, FileTree.here_makeDirectory]
  · rw [isOk]
    exact tree.here_makeDirectory session.inputs

theorem contents?_of_archive_ok {copy : String}
    (copied : (session.archive tree path).1 = .ok copy) :
    ∃ place text, session.copyPlace? tree path = some place ∧ place = tree.destination copy ∧
      (session.archive tree path).2.contents? =
        Function.update tree.contents? place (some text) := by
  rcases session.archive_cases tree path with ⟨cause, isError⟩ | ⟨name, text, isName, -, isOk⟩
  · rw [isError] at copied
    cases copied
  · rw [isOk] at copied ⊢
    cases copied
    exact ⟨_, _, by rw [copyPlace?, isName]; rfl, rfl, FileTree.contents?_put _ _ _⟩

/-- The copy of a readable file is at its place, and everything else is as it was. -/
theorem Copies.contents? (copies : session.Copies tree path) {text : String}
    (read : tree.read path = .ok text) :
    ∃ place, session.copyPlace? tree path = some place ∧
      (session.archive tree path).2.contents? =
        Function.update tree.contents? place (some text) := by
  obtain ⟨copy, copied, reads⟩ := copies text read
  obtain ⟨place, other, isPlace, toCopy, contents⟩ := contents?_of_archive_ok copied
  refine ⟨place, isPlace, ?_⟩
  have found := FileTree.contents?_of_read reads
  rw [FileTree.destination_congr (session.here_archive tree path), ← toCopy, contents,
    Function.update_self] at found
  rw [contents, found]

theorem eq_ok_of_toOption {ε β : Type} {result : Except ε β} {value : β}
    (isValue : result.toOption = some value) : result = .ok value := by
  cases result with
  | error cause => cases isValue
  | ok other => rw [Option.some.inj isValue]

/-- Whether one file can be copied is seen by copying it. -/
theorem Copies.of_toOption (copy text : String)
    (given : (tree.read path).toOption = some text)
    (copied : (session.archive tree path).1.toOption = some copy)
    (reads : ((session.archive tree path).2.read copy).toOption = some text) :
    session.Copies tree path := by
  intro other read
  cases read.symm.trans (eq_ok_of_toOption given)
  exact ⟨copy, eq_ok_of_toOption copied, eq_ok_of_toOption reads⟩

end Session

end DeltaRobot
