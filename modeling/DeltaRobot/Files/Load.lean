import DeltaRobot.Files.Tree
import DeltaRobot.Parameters.Table

/-!
Contract: parameter files.

Parameter files live under the `params` directory of the software root, which the environment
names. A file fails to load if the root is unknown, if it cannot be read, or if its text does not
fit, in this order.

Owns: `LoadError`, `loadFile` and `Parameters.load`.
Does not own: what a file has to hold.
-/

namespace DeltaRobot

/-- The environment variable that names the software root. -/
def rootVariable : String := "DELTA_SW_ROOT"

/-- What is reported where the software root is not known. -/
def rootNotSet : String :=
  s!"The software root environment variable ({rootVariable}) is not set"

/-- Why a parameter file gives nothing. -/
inductive LoadError where
  | rootNotSet
  | unreadable (cause : FileError)
  /-- The text is no TOML, or it does not hold what is expected. -/
  | unfit
deriving DecidableEq, Repr

def LoadError.message : LoadError → String
  | rootNotSet => DeltaRobot.rootNotSet
  | unreadable cause => s!"Cannot load the parmeter file: {cause.message}"
  | unfit => "Cannot read the parameter file:"

/-- The path of a parameter file under a root. -/
def parameterPath (root file : String) : String :=
  Path.join (Path.join root "params") file

/-- Loads a file and reads its text. -/
def loadFile {β : Type} (readText : String → Option β) (tree : FileTree) (root : Option String)
    (file : String) : Except LoadError β :=
  match root with
  | none => .error .rootNotSet
  | some root =>
      match tree.read (parameterPath root file) with
      | .error cause => .error (.unreadable cause)
      | .ok text =>
          match readText text with
          | none => .error .unfit
          | some value => .ok value

/-- Why a file gives no usable parameters. -/
inductive ParameterFileError where
  | notLoaded (cause : LoadError)
  | refused (cause : ParameterError Float)

def ParameterFileError.message : ParameterFileError → String
  | notLoaded cause => s!"Could not load parameters: {cause.message}"
  | refused cause => cause.message

/-- Loads parameters from the top level of a file, each within its range. -/
def Parameters.load (tree : FileTree) (root : Option String) (file : String) :
    Except ParameterFileError (Parameters Float) :=
  match loadFile Parameters.ofText? tree root file with
  | .error cause => .error (.notLoaded cause)
  | .ok parameters =>
      match parameters.validate with
      | .error cause => .error (.refused cause)
      | .ok () => .ok parameters

end DeltaRobot
