/-!
Contract: the texts that name files.

A path is a row of names with slashes between them. It is absolute if it starts with a slash, and
otherwise it starts from a directory that the reader knows. The names `.` and `..` and the empty
name lead somewhere but name no file.

Owns: splitting and joining of paths, and the name of the file at the end of one.
Does not own: whether there is such a file.
-/

namespace DeltaRobot.Path

/-- The pieces between slashes, at least one. -/
def pieces : List Char → List (List Char)
  | [] => [[]]
  | char :: rest =>
      if char = '/' then [] :: pieces rest
      else
        match pieces rest with
        | [] => [[char]]
        | piece :: others => (char :: piece) :: others

theorem pieces_ne_nil (chars : List Char) : pieces chars ≠ [] := by
  cases chars with
  | nil => simp [pieces]
  | cons char rest =>
      unfold pieces
      split
      · simp
      · split <;> simp

/-- The names of a path, in order. -/
def names (path : String) : List String :=
  (pieces path.toList).map String.ofList

def isAbsolute (path : String) : Bool := path.toList.head? = some '/'

/-- A path that starts from another one. An absolute path does not. -/
def join (base path : String) : String :=
  if isAbsolute path || base.isEmpty then path
  else if base.toList.getLast? = some '/' then base ++ path
  else base ++ "/" ++ path

/-- Whether a name leads nowhere. -/
def isStill (name : String) : Bool := name = "" || name = "."

/-- The name that leads one directory up. -/
def up : String := ".."

/-- The name of the file that a path leads to: the last name that leads somewhere, if it leads
down. -/
def fileName? (path : String) : Option String :=
  match ((names path).filter (fun name => !isStill name)).getLast? with
  | some name => if name = up then none else some name
  | none => none

end DeltaRobot.Path
