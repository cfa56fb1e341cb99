import DeltaRobot.Files.Path

/-!
Contract: the files of a machine, as a map from places to texts.

A place is the row of names that leads to it from the top. A directory is there if it was made, or
if something is inside it. A path is followed name by name, and every name but the last must lead
to a directory, so `a/..` is the place of its parent only where `a` is a directory.

Owns: `FileTree`, following paths, reading, writing and copying.
Does not own: which files a run uses.
-/

namespace DeltaRobot

inductive FileError where
  | notFound
  | notADirectory
  | isADirectory
  /-- A name has more bytes than a directory can hold, or a path more than can be followed. -/
  | nameTooLong
  /-- A path holds a NUL, which ends paths. -/
  | nulInPath
  | noFileName
  /-- Something other than a file was to be copied. -/
  | notAFile
deriving DecidableEq, Repr

def FileError.message : FileError → String
  | notFound => "No such file or directory (os error 2)"
  | notADirectory => "Not a directory (os error 20)"
  | isADirectory => "Is a directory (os error 21)"
  | nameTooLong => "File name too long (os error 36)"
  | nulInPath => "file name contained an unexpected NUL byte"
  | noFileName => "path has no file name"
  | notAFile => "the source path is neither a regular file nor a symlink to a regular file"

/-- The names that lead to a file or a directory from the top. -/
abbrev Location := List String

structure FileTree where
  files : List (Location × String)
  /-- Directories that are there even if nothing is inside them. -/
  directories : List Location
  here : Location

namespace FileTree

/-- Nothing but the directory at the top. -/
def empty : FileTree := { files := [], directories := [], here := [] }

def maxNameSize : Nat := 255

def maxPathSize : Nat := 4095

def contents? (tree : FileTree) (location : Location) : Option String :=
  (tree.files.find? (fun file => file.1 = location)).map Prod.snd

def isDirectory (tree : FileTree) (location : Location) : Bool :=
  (tree.contents? location).isNone &&
    ((tree.here :: tree.directories).any (fun directory => location.isPrefixOf directory) ||
      tree.files.any (fun file => location.isPrefixOf file.1))

/-! ### Following paths -/

def start (tree : FileTree) (path : String) : Location :=
  if Path.isAbsolute path then [] else tree.here

/-- One name further, without looking at what is there. -/
def descend (location : Location) (name : String) : Location :=
  if Path.isStill name then location
  else if name = Path.up then location.dropLast
  else location ++ [name]

/-- The places in front of each name of a path. -/
def passed : Location → List String → List Location
  | _, [] => []
  | location, name :: names => location :: passed (descend location name) names

/-- One name further, from a place that must be a directory. -/
def enter (tree : FileTree) (location : Location) (name : String) :
    Except FileError Location :=
  if (tree.contents? location).isSome then .error .notADirectory
  else if !tree.isDirectory location then .error .notFound
  else if maxNameSize < name.utf8ByteSize then .error .nameTooLong
  else .ok (descend location name)

def follow (tree : FileTree) : Location → List String → Except FileError Location
  | location, [] => .ok location
  | location, name :: names =>
      match tree.enter location name with
      | .error cause => .error cause
      | .ok location => follow tree location names

/-- The place that a path leads to, whether or not anything is there. A path that is too long is
not followed at all. -/
def locate (tree : FileTree) (path : String) : Except FileError Location :=
  if path.toList.contains '\x00' then .error .nulInPath
  else if maxPathSize < path.utf8ByteSize then .error .nameTooLong
  else tree.follow (tree.start path) (Path.names path)

/-- The place that a path leads to if every name on the way leads to a directory. -/
def destination (tree : FileTree) (path : String) : Location :=
  (Path.names path).foldl descend (tree.start path)

/-! ### Reading and writing -/

def read (tree : FileTree) (path : String) : Except FileError String :=
  match tree.locate path with
  | .error cause => .error cause
  | .ok location =>
      match tree.contents? location with
      | some text => .ok text
      | none => if tree.isDirectory location then .error .isADirectory else .error .notFound

/-- Puts a text at a place, in place of the one that was there. -/
def put (tree : FileTree) (location : Location) (text : String) : FileTree :=
  { tree with
    files := (location, text) :: tree.files.filter (fun file => file.1 ≠ location) }

@[simp]
theorem contents?_put_self (tree : FileTree) (location : Location) (text : String) :
    (tree.put location text).contents? location = some text := by
  simp [contents?, put]

/-- Writing one file leaves the others alone. -/
theorem contents?_put_of_ne (tree : FileTree) {location other : Location} (text : String)
    (different : other ≠ location) :
    (tree.put location text).contents? other = tree.contents? other := by
  have distinct : ¬ location = other := fun same => different same.symm
  simp only [contents?, put, List.find?_cons, distinct, decide_false, List.find?_filter]
  congr 2
  funext file
  by_cases here : file.1 = other
  · simp [here, different]
  · simp [here]

def makeWay (tree : FileTree) (path : String) : FileTree :=
  { tree with directories := passed (tree.start path) (Path.names path) ++ tree.directories }

/-- Makes a directory, with all directories on the way. -/
def makeDirectory (tree : FileTree) (path : String) : FileTree :=
  let tree := tree.makeWay path
  { tree with directories := tree.destination path :: tree.directories }

/-- Puts a text where a path leads to, with all directories on the way. -/
def place (tree : FileTree) (path text : String) : FileTree :=
  (tree.makeWay path).put (tree.destination path) text

/-- Copies a file. The copy is emptied before anything is written to it, so a file that is copied
onto itself ends up empty. -/
def copy (tree : FileTree) (source target : String) : Except FileError FileTree :=
  match tree.locate source with
  | .error cause => .error cause
  | .ok sourceLocation =>
      match tree.contents? sourceLocation with
      | none => if tree.isDirectory sourceLocation then .error .notAFile else .error .notFound
      | some text =>
          match tree.locate target with
          | .error cause => .error cause
          | .ok targetLocation =>
              if tree.isDirectory targetLocation then .error .isADirectory
              else
                .ok (tree.put targetLocation (if sourceLocation = targetLocation then "" else text))

/-- The files right inside a directory, in ascending order of names. -/
def listing (tree : FileTree) (location : Location) : List (String × String) :=
  let found := tree.files.filterMap (fun file =>
    match file.1.getLast? with
    | some name => if file.1.dropLast = location then some (name, file.2) else none
    | none => none)
  found.mergeSort (fun left right => left.1 ≤ right.1)

end FileTree

end DeltaRobot
