import DeltaRobot.Files.Tree
import Mathlib.Data.List.Basic

/-!
Contract: the place of a file inside a directory.

The name of a file has no slash and leads one step down. So a file that is given by its directory
and its name is at the place of the directory with the name behind it, and two files of one
directory have one place only if they have one name.

Owns: `Path.NamesFile`, and the places of the files inside a directory.
Does not own: whether there is such a directory.
-/

namespace DeltaRobot

namespace Path

theorem pieces_eq_splitOn (chars : List Char) : pieces chars = chars.splitOn '/' := by
  induction chars with
  | nil => rfl
  | cons char rest inductionHypothesis =>
      rw [List.splitOn_cons_eq_if_modifyHead, pieces, inductionHypothesis]
      by_cases isSlash : char = '/'
      · simp [isSlash]
      · cases split : rest.splitOn '/' with
        | nil => exact absurd split (List.splitOn_ne_nil _ _)
        | cons piece others => simp [isSlash]

/-- A character that is no slash goes to the first piece. -/
theorem exists_pieces_cons {char : Char} (notSlash : char ≠ '/') (rest : List Char) :
    ∃ piece others, pieces rest = piece :: others ∧
      pieces (char :: rest) = (char :: piece) :: others := by
  rw [pieces, if_neg notSlash]
  cases isRest : pieces rest with
  | nil => exact absurd isRest (pieces_ne_nil rest)
  | cons piece others => exact ⟨piece, others, rfl, rfl⟩

theorem slash_notMem_of_mem_pieces {chars piece : List Char} (isPiece : piece ∈ pieces chars) :
    '/' ∉ piece := by
  induction chars generalizing piece with
  | nil =>
      rw [List.mem_singleton.1 isPiece]
      exact List.not_mem_nil
  | cons char rest inductionHypothesis =>
      by_cases isSlash : char = '/'
      · rw [pieces, if_pos isSlash, List.mem_cons] at isPiece
        rcases isPiece with rfl | isLater
        · exact List.not_mem_nil
        · exact inductionHypothesis isLater
      · obtain ⟨first, others, isRest, isAll⟩ := exists_pieces_cons isSlash rest
        rw [isAll, List.mem_cons] at isPiece
        rw [isRest] at inductionHypothesis
        rcases isPiece with rfl | isLater
        · exact List.not_mem_cons_of_ne_of_not_mem (Ne.symm isSlash)
            (inductionHypothesis List.mem_cons_self)
        · exact inductionHypothesis (List.mem_cons_of_mem _ isLater)

/-- The name of a file, which leads one step down. -/
structure NamesFile (name : String) : Prop where
  whole : '/' ∉ name.toList
  leads : isStill name = false
  down : name ≠ up

theorem NamesFile.of_fileName? {path name : String} (isName : fileName? path = some name) :
    NamesFile name := by
  rw [fileName?] at isName
  split at isName
  · rename_i last isLast
    split at isName
    · cases isName
    · rename_i notUp
      cases isName
      obtain ⟨inPath, leads⟩ := List.mem_filter.1 (List.mem_of_getLast? isLast)
      obtain ⟨piece, isPiece, rfl⟩ := List.mem_map.1 inPath
      refine ⟨?_, by simpa using leads, notUp⟩
      rw [String.toList_ofList]
      exact slash_notMem_of_mem_pieces isPiece
  · cases isName

theorem NamesFile.not_isAbsolute {name : String} (namesFile : NamesFile name) :
    isAbsolute name = false := by
  rw [isAbsolute, decide_eq_false_iff_not]
  exact fun slash => namesFile.whole (List.mem_of_mem_head? slash)

theorem names_append_slash (base : String) {name : String} (namesFile : NamesFile name) :
    names (base ++ "/" ++ name) = names base ++ [name] := by
  have split : (base ++ "/" ++ name).toList = base.toList ++ '/' :: name.toList := by simp
  rw [names, names, split, pieces_eq_splitOn, pieces_eq_splitOn, List.splitOn_append_cons_self,
    List.splitOn_eq_singleton namesFile.whole]
  simp

theorem exists_join_eq (base path : String) : ∃ front, join base path = front ++ path := by
  rw [join]
  split
  · exact ⟨"", by simp⟩
  · split
    · exact ⟨base, rfl⟩
    · exact ⟨base ++ "/", rfl⟩

/-- Behind a path that ends in a name, one more name follows a slash. -/
theorem join_join (base : String) {inner name : String} (namesInner : NamesFile inner)
    (namesFile : NamesFile name) :
    join (join base inner) name = join base inner ++ "/" ++ name := by
  have notEmpty : inner ≠ "" := by
    rintro rfl
    cases namesInner.leads
  obtain ⟨front, isJoin⟩ := exists_join_eq base inner
  have notSlash : (join base inner).toList.getLast? ≠ some '/' := by
    rw [isJoin, String.toList_append, List.getLast?_append_of_ne_nil _ (by simpa using notEmpty)]
    exact fun slash => namesInner.whole (List.mem_of_getLast? slash)
  have notEmptyJoin : (join base inner).isEmpty = false := by
    rw [isJoin]
    simp [notEmpty]
  rw [join, namesFile.not_isAbsolute, notEmptyJoin]
  simp [notSlash]

end Path

namespace FileTree

/-- A file inside a directory has its name behind the place of the directory. -/
theorem destination_append_slash (tree : FileTree) {base name : String} (nonempty : base ≠ "")
    (namesFile : Path.NamesFile name) :
    tree.destination (base ++ "/" ++ name) = tree.destination base ++ [name] := by
  have sameStart : tree.start (base ++ "/" ++ name) = tree.start base := by
    have sameHead : (base ++ "/" ++ name).toList.head? = base.toList.head? := by
      rw [String.append_assoc, String.toList_append, List.head?_append_of_ne_nil _ (by simpa)]
    rw [start, start, Path.isAbsolute, Path.isAbsolute, sameHead]
  rw [destination, destination, sameStart, Path.names_append_slash base namesFile,
    List.foldl_append, List.foldl_cons, List.foldl_nil, descend, namesFile.leads]
  simp [namesFile.down]

end FileTree

end DeltaRobot
