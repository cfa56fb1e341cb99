import DeltaRobot.Proofs.Files.Archive
import Mathlib

/-!
Contract: file trees that differ in the texts of some files alone.

Whether a path can be followed depends on where files and directories are, and not on what the files
say. So in two trees with the same places every path leads to the same place or fails in the same
way, and copying an input succeeds in both or fails in both. A copy may carry a difference to one
more place, the place of the copy.

Owns: the relation between two such trees, and that reading, writing and copying keep it.
Does not own: which files are read.
-/

namespace DeltaRobot

namespace FileTree

/-- Trees with files and directories in the same places, whose files say the same but for some
places. -/
structure Twins (apart : List Location) (left right : FileTree) : Prop where
  here : left.here = right.here
  directories : left.directories = right.directories
  places : left.files.map Prod.fst = right.files.map Prod.fst
  contents : ∀ location ∉ apart, left.contents? location = right.contents? location

theorem isSome_contents? (tree : FileTree) (location : Location) :
    (tree.contents? location).isSome = decide (location ∈ tree.files.map Prod.fst) := by
  rw [contents?, Option.isSome_map, Bool.eq_iff_iff, List.find?_isSome, decide_eq_true_iff,
    List.mem_map]
  simp

/-- Where there is a text, nothing but the way to it can keep it from being read. -/
theorem read_of_contents? {tree : FileTree} {path text : String}
    (found : tree.contents? (tree.destination path) = some text) :
    tree.read path = (tree.locate path).map (fun _ => text) := by
  rw [FileTree.read]
  cases located : tree.locate path with
  | error cause => rfl
  | ok location =>
      rw [← locate_eq_ok located] at found
      dsimp only
      rw [found]
      rfl

namespace Twins

variable {apart : List Location} {left right : FileTree}

theorem refl (apart : List Location) (tree : FileTree) : Twins apart tree tree :=
  ⟨rfl, rfl, rfl, fun _ _ => rfl⟩

theorem put (twins : Twins apart left right) (location : Location) (leftText rightText : String) :
    Twins (location :: apart) (left.put location leftText) (right.put location rightText) := by
  refine ⟨twins.here, twins.directories, ?_, ?_⟩
  · have others (files : List (Location × String)) :
        (files.filter (fun file => file.1 ≠ location)).map Prod.fst =
          (files.map Prod.fst).filter (fun place => place ≠ location) := by
      rw [List.filter_map]
      rfl
    change location :: (left.files.filter _).map Prod.fst =
      location :: (right.files.filter _).map Prod.fst
    rw [others, others, twins.places]
  · intro other elsewhere
    rw [List.mem_cons, not_or] at elsewhere
    rw [contents?_put_of_ne _ _ elsewhere.1, contents?_put_of_ne _ _ elsewhere.1]
    exact twins.contents other elsewhere.2

theorem destination (twins : Twins apart left right) (path : String) :
    left.destination path = right.destination path :=
  destination_congr twins.here path

theorem makeDirectory (twins : Twins apart left right) (path : String) :
    Twins apart (left.makeDirectory path) (right.makeDirectory path) := by
  refine ⟨twins.here, ?_, twins.places, twins.contents⟩
  simp only [FileTree.makeDirectory, makeWay, start, FileTree.destination, twins.here,
    twins.directories]

/-! ### Following paths -/

theorem isSome (twins : Twins apart left right) (location : Location) :
    (left.contents? location).isSome = (right.contents? location).isSome := by
  rw [isSome_contents?, isSome_contents?, twins.places]

theorem isDirectory (twins : Twins apart left right) (location : Location) :
    left.isDirectory location = right.isDirectory location := by
  have inside (tree : FileTree) : tree.files.any (fun file => location.isPrefixOf file.1) =
      (tree.files.map Prod.fst).any (location.isPrefixOf ·) := by
    rw [List.any_map]
    rfl
  rw [FileTree.isDirectory, FileTree.isDirectory, inside, inside, twins.places, twins.here,
    twins.directories, ← Option.not_isSome, ← Option.not_isSome, twins.isSome]

theorem enter (twins : Twins apart left right) (location : Location) (name : String) :
    left.enter location name = right.enter location name := by
  rw [FileTree.enter, FileTree.enter, twins.isSome, twins.isDirectory]

theorem follow (twins : Twins apart left right) (location : Location) (names : List String) :
    left.follow location names = right.follow location names := by
  induction names generalizing location with
  | nil => rfl
  | cons name names inductionHypothesis =>
      rw [FileTree.follow, FileTree.follow, twins.enter]
      cases right.enter location name with
      | error cause => rfl
      | ok next => exact inductionHypothesis next

theorem locate (twins : Twins apart left right) (path : String) :
    left.locate path = right.locate path := by
  rw [FileTree.locate, FileTree.locate, start, start, twins.here, twins.follow]

/-! ### Reading and copying -/

/-- A path that leads elsewhere reads the same. -/
theorem read (twins : Twins apart left right) {path : String}
    (elsewhere : right.destination path ∉ apart) : left.read path = right.read path := by
  rw [FileTree.read, FileTree.read, twins.locate]
  cases located : right.locate path with
  | error cause => rfl
  | ok location =>
      rw [← locate_eq_ok located] at elsewhere
      dsimp only
      rw [twins.contents location elsewhere, twins.isDirectory]

/-- A copy is made in both trees or in neither, and then for the same reason. -/
theorem copy (twins : Twins apart left right) (source target : String) :
    (∃ cause, left.copy source target = .error cause ∧ right.copy source target = .error cause) ∨
      ∃ leftAfter rightAfter, left.copy source target = .ok leftAfter ∧
        right.copy source target = .ok rightAfter ∧
        Twins (right.destination target :: apart) leftAfter rightAfter := by
  rw [FileTree.copy, FileTree.copy, twins.locate, twins.locate]
  cases right.locate source with
  | error cause => exact .inl ⟨cause, rfl, rfl⟩
  | ok sourcePlace =>
      have same := twins.isSome sourcePlace
      dsimp only
      cases found : right.contents? sourcePlace with
      | none =>
          rw [found, Option.isSome_none, Option.isSome_eq_false_iff,
            Option.isNone_iff_eq_none] at same
          rw [same, twins.isDirectory]
          dsimp only
          cases right.isDirectory sourcePlace with
          | true => exact .inl ⟨_, rfl, rfl⟩
          | false => exact .inl ⟨_, rfl, rfl⟩
      | some rightText =>
          rw [found, Option.isSome_some, Option.isSome_iff_exists] at same
          obtain ⟨leftText, foundLeft⟩ := same
          rw [foundLeft]
          dsimp only
          cases located : right.locate target with
          | error cause => exact .inl ⟨cause, rfl, rfl⟩
          | ok location =>
              dsimp only
              rw [twins.isDirectory, ← locate_eq_ok located]
              cases right.isDirectory location with
              | true => exact .inl ⟨_, rfl, rfl⟩
              | false => exact .inr ⟨_, _, rfl, rfl, twins.put _ _ _⟩

/-- Keeping an input comes out the same, and the copies are the only new difference. -/
theorem archive (twins : Twins apart left right) (session : Session) (path : String) :
    (session.archive left path).1 = (session.archive right path).1 ∧
      Twins ((session.copyPlace? right path).toList ++ apart) (session.archive left path).2
        (session.archive right path).2 := by
  rw [Session.archive, Session.archive, Session.copyPlace?]
  have made := twins.makeDirectory session.inputs
  cases Path.fileName? path with
  | none => exact ⟨rfl, made⟩
  | some name =>
      dsimp only
      rcases made.copy path (Path.join session.inputs name) with
        ⟨cause, leftFails, rightFails⟩ | ⟨leftAfter, rightAfter, leftMade, rightMade, after⟩
      · rw [leftFails, rightFails]
        exact ⟨rfl, made.here, made.directories, made.places,
          fun location elsewhere => made.contents location fun member =>
            elsewhere (List.mem_append_right _ member)⟩
      · rw [leftMade, rightMade]
        exact ⟨rfl, after⟩

end Twins

end FileTree

end DeltaRobot
