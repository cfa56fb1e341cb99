import DeltaRobot.Files.Tree
import DeltaRobot.Text.Quoted

/-!
Contract: the inputs of a run, kept for later.

A session is the directory of one run. Every input that the run used is copied into it under the
input's own file name, so of two inputs of one name the later one stays.

Owns: `Session.archive`.
Does not own: which inputs a run uses.
-/

namespace DeltaRobot

structure Session where
  /-- The path of the session's directory. -/
  directory : String

/-- Why an input is not in the session. -/
structure ArchiveError where
  path : String
  cause : FileError

def ArchiveError.message (error : ArchiveError) : String :=
  s!"Cannot copy {Text.quoted error.path} into the session: {error.cause.message}"

namespace Session

/-- The directory that holds the copies. -/
def inputs (session : Session) : String := Path.join session.directory "inputs"

/-- Copies an input into the session and gives the path of the copy. The directory of the copies is
made even if there is nothing to copy. -/
def archive (session : Session) (tree : FileTree) (path : String) :
    Except ArchiveError String × FileTree :=
  let tree := tree.makeDirectory session.inputs
  match Path.fileName? path with
  | none => (.error ⟨path, .noFileName⟩, tree)
  | some name =>
      let target := Path.join session.inputs name
      match tree.copy path target with
      | .error cause => (.error ⟨path, cause⟩, tree)
      | .ok tree => (.ok target, tree)

/-- The copies, in ascending order of names. -/
def archived (session : Session) (tree : FileTree) : List (String × String) :=
  tree.listing (tree.destination session.inputs)

end Session

end DeltaRobot
