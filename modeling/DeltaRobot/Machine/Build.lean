import DeltaRobot.Machine.State
import DeltaRobot.Parameters.Table

/-!
Contract: machines built from a configuration.

A kind of machine is selected by its name and built from a TOML value. The name is looked at
first, so a value for an unknown kind is never read.

Owns: `Machine.build`, `Machine.ofValue` and the list of kinds.
Does not own: the parameters themselves.
-/

namespace DeltaRobot

/-- Why no machine can be built. -/
inductive BuildError where
  | unknownKind (kind : String)
  | invalidParameters (cause : TableError)

def BuildError.message : BuildError → String
  | unknownKind kind => "No kinematics backend named \"" ++ kind ++ "\" is registered"
  | invalidParameters cause => s!"Invalid kinematics parameters: {cause.message}"

namespace Machine

/-- The kinds of machine that can be built. -/
def kinds : List String := [kind]

/-- A delta robot from its parameters in TOML. -/
def ofValue (value : Toml.Value) : Except TableError (Machine Float) :=
  match Parameters.ofValue value with
  | .error cause => .error cause
  | .ok parameters =>
      match ofParameters parameters with
      | .error cause => .error (.refused cause)
      | .ok machine => .ok machine

/-- A machine of a given kind. -/
def build (name : String) (value : Toml.Value) : Except BuildError (Machine Float) :=
  if name ∈ kinds then
    match ofValue value with
    | .error cause => .error (.invalidParameters cause)
    | .ok machine => .ok machine
  else .error (.unknownKind name)

end Machine

end DeltaRobot
