import DeltaRobot.Decimal.Notation

/-!
Contract: the geometry and the limits of one delta robot.

`Parameter` names the seven numbers; `Parameters` holds a value for each. Every parameter has a
closed range, and `Parameters.validate` finds the first value outside its own, in the order of
declaration. `Parameters.set?` writes a value by name and never leaves its range.

Access by name goes through three tables: the ranges, the names that are read, and the names that
are written. Nothing in their form makes them agree; that they do is a result.

Owns: the parameter names, their ranges, access by name, and the wording of what it refuses.
Does not own: reading parameters from a file.
-/

namespace DeltaRobot

/-- The numbers that describe a machine, in order of declaration. -/
inductive Parameter where
  /-- Length of the motor cranks. -/
  | crank
  /-- Length of the linkages that join the cranks to the end effector. -/
  | linkage
  /-- Side of the fixed triangle that the arm axes form. -/
  | baseTriangle
  /-- Side of the end effector triangle that the linkage joints form. -/
  | effectorTriangle
  /-- Furthest angle above horizontal. -/
  | maxNegativeAngle
  /-- Furthest angle below horizontal. -/
  | maxPositiveAngle
  /-- Greatest length of one segment of a move. -/
  | segmentLength
deriving DecidableEq, Repr

namespace Parameter

def all : List Parameter :=
  [crank, linkage, baseTriangle, effectorTriangle, maxNegativeAngle, maxPositiveAngle,
    segmentLength]

/-- The name under which files and commands know a parameter; it ends in the unit. -/
def name : Parameter → String
  | crank => "crank_mm"
  | linkage => "linkage_mm"
  | baseTriangle => "base_triangle_mm"
  | effectorTriangle => "end_effector_triangle_mm"
  | maxNegativeAngle => "max_negative_angle_rad"
  | maxPositiveAngle => "max_positive_angle_rad"
  | segmentLength => "kinematic_segment_len_mm"

def ofName? (name : String) : Option Parameter :=
  all.find? (fun parameter => parameter.name = name)

/-- No two parameters share a name. -/
theorem ofName?_name (parameter : Parameter) : ofName? parameter.name = some parameter := by
  cases parameter <;> rfl

theorem name_of_ofName? {name : String} {parameter : Parameter}
    (found : ofName? name = some parameter) : parameter.name = name := by
  unfold ofName? at found
  simpa using List.find?_some found

theorem mem_all (parameter : Parameter) : parameter ∈ all := by
  cases parameter <;> decide

variable {α : Type} [Scalar α]

/-- The least allowed value. -/
def low : Parameter → α
  | crank => Scalar.ofNat 50
  | linkage => Scalar.ofNat 20
  | baseTriangle => Scalar.ofNat 20
  | effectorTriangle => Scalar.ofNat 20
  | maxNegativeAngle => -Scalar.quarterTurn
  | maxPositiveAngle => Scalar.zero
  | segmentLength => Scalar.decimal 5 2

/-- The greatest allowed value. -/
def high : Parameter → α
  | crank => Scalar.ofNat 500
  | linkage => Scalar.ofNat 500
  | baseTriangle => Scalar.ofNat 500
  | effectorTriangle => Scalar.ofNat 500
  | maxNegativeAngle => Scalar.zero
  | maxPositiveAngle => Scalar.quarterTurn
  | segmentLength => Scalar.ofNat 20

def allows (parameter : Parameter) (value : α) : Bool :=
  Scalar.inRange value parameter.low parameter.high

end Parameter

/-- An entry of the table of ranges. -/
structure ParameterRange (α : Type) where
  name : String
  low : α
  high : α
deriving DecidableEq, Repr

def ParameterRange.contains {α : Type} [Scalar α] (range : ParameterRange α) (value : α) : Bool :=
  Scalar.inRange value range.low range.high

/-- The range of one parameter. -/
def Parameter.range {α : Type} [Scalar α] (parameter : Parameter) : ParameterRange α :=
  { name := parameter.name, low := parameter.low, high := parameter.high }

/-- One value for every parameter, within its range or not. -/
structure Parameters (α : Type) where
  crank : α
  linkage : α
  baseTriangle : α
  effectorTriangle : α
  maxNegativeAngle : α
  maxPositiveAngle : α
  segmentLength : α
deriving DecidableEq, Repr

/-- Why a parameter access or a set of parameters is refused. -/
inductive ParameterError (α : Type) where
  | unknownName (name : String)
  | outOfRange (range : ParameterRange α) (value : α)
deriving DecidableEq, Repr

/-- Says which parameter is refused, and for a value what it must lie between. -/
def ParameterError.message : ParameterError Float → String
  | unknownName name => "No parameter named \"" ++ name ++ "\""
  | outOfRange range value =>
      range.name ++ " = " ++ Decimal.plain value ++ " is outside the allowed range [" ++
        Decimal.plain range.low ++ ", " ++ Decimal.plain range.high ++ "]"

namespace Parameters

variable {α : Type}

def get (parameters : Parameters α) : Parameter → α
  | .crank => parameters.crank
  | .linkage => parameters.linkage
  | .baseTriangle => parameters.baseTriangle
  | .effectorTriangle => parameters.effectorTriangle
  | .maxNegativeAngle => parameters.maxNegativeAngle
  | .maxPositiveAngle => parameters.maxPositiveAngle
  | .segmentLength => parameters.segmentLength

def put (parameters : Parameters α) (parameter : Parameter) (value : α) : Parameters α :=
  match parameter with
  | .crank => { parameters with crank := value }
  | .linkage => { parameters with linkage := value }
  | .baseTriangle => { parameters with baseTriangle := value }
  | .effectorTriangle => { parameters with effectorTriangle := value }
  | .maxNegativeAngle => { parameters with maxNegativeAngle := value }
  | .maxPositiveAngle => { parameters with maxPositiveAngle := value }
  | .segmentLength => { parameters with segmentLength := value }

/-- The parameters whose values are given by a function. -/
def ofFunction (value : Parameter → α) : Parameters α where
  crank := value .crank
  linkage := value .linkage
  baseTriangle := value .baseTriangle
  effectorTriangle := value .effectorTriangle
  maxNegativeAngle := value .maxNegativeAngle
  maxPositiveAngle := value .maxPositiveAngle
  segmentLength := value .segmentLength

@[simp]
theorem get_ofFunction (value : Parameter → α) (parameter : Parameter) :
    (ofFunction value).get parameter = value parameter := by
  cases parameter <;> rfl

@[simp]
theorem get_put_self (parameters : Parameters α) (parameter : Parameter) (value : α) :
    (parameters.put parameter value).get parameter = value := by
  cases parameter <;> rfl

theorem get_put_of_ne (parameters : Parameters α) {parameter other : Parameter} (value : α)
    (different : other ≠ parameter) :
    (parameters.put parameter value).get other = parameters.get other := by
  cases parameter <;> cases other <;> simp [put, get] at different ⊢

/-- Parameters are determined by their values. -/
theorem ext_get {left right : Parameters α}
    (same : ∀ parameter, left.get parameter = right.get parameter) : left = right := by
  cases left
  cases right
  have crank := same .crank
  have linkage := same .linkage
  have baseTriangle := same .baseTriangle
  have effectorTriangle := same .effectorTriangle
  have maxNegativeAngle := same .maxNegativeAngle
  have maxPositiveAngle := same .maxPositiveAngle
  have segmentLength := same .segmentLength
  simp only [get] at *
  simp [*]

/-- Parameters of which some have no value yet. -/
abbrev Partial (α : Type) := Parameters (Option α)

/-- The parameters, once each has a value; or the first one that has none. -/
def Partial.complete (partly : Partial α) : Except Parameter (Parameters α) :=
  match partly with
  | ⟨none, _, _, _, _, _, _⟩ => .error .crank
  | ⟨_, none, _, _, _, _, _⟩ => .error .linkage
  | ⟨_, _, none, _, _, _, _⟩ => .error .baseTriangle
  | ⟨_, _, _, none, _, _, _⟩ => .error .effectorTriangle
  | ⟨_, _, _, _, none, _, _⟩ => .error .maxNegativeAngle
  | ⟨_, _, _, _, _, none, _⟩ => .error .maxPositiveAngle
  | ⟨_, _, _, _, _, _, none⟩ => .error .segmentLength
  | ⟨some crank, some linkage, some baseTriangle, some effectorTriangle, some maxNegativeAngle,
      some maxPositiveAngle, some segmentLength⟩ =>
      .ok { crank, linkage, baseTriangle, effectorTriangle, maxNegativeAngle, maxPositiveAngle,
            segmentLength }

theorem Partial.get_of_complete {partly : Partial α} {parameters : Parameters α}
    (completed : partly.complete = .ok parameters) (parameter : Parameter) :
    Parameters.get partly parameter = some (parameters.get parameter) := by
  unfold Partial.complete at completed
  split at completed
  all_goals cases completed
  cases parameter <;> rfl

theorem Partial.complete_of_get {partly : Partial α} {parameters : Parameters α}
    (all : ∀ parameter, Parameters.get partly parameter = some (parameters.get parameter)) :
    partly.complete = .ok parameters := by
  have same : partly = ofFunction (fun parameter => some (parameters.get parameter)) :=
    ext_get (fun parameter => by rw [all parameter, get_ofFunction])
  rw [same]
  rfl

/-! ### Access by name -/

/-- The value under a name. -/
def get? (parameters : Parameters α) (name : String) : Option α :=
  match name with
  | "crank_mm" => some parameters.crank
  | "linkage_mm" => some parameters.linkage
  | "base_triangle_mm" => some parameters.baseTriangle
  | "end_effector_triangle_mm" => some parameters.effectorTriangle
  | "max_negative_angle_rad" => some parameters.maxNegativeAngle
  | "max_positive_angle_rad" => some parameters.maxPositiveAngle
  | "kinematic_segment_len_mm" => some parameters.segmentLength
  | _ => none

/-- The parameters with another value under a name, whatever its range. -/
def replace? (parameters : Parameters α) (name : String) (value : α) : Option (Parameters α) :=
  match name with
  | "crank_mm" => some { parameters with crank := value }
  | "linkage_mm" => some { parameters with linkage := value }
  | "base_triangle_mm" => some { parameters with baseTriangle := value }
  | "end_effector_triangle_mm" => some { parameters with effectorTriangle := value }
  | "max_negative_angle_rad" => some { parameters with maxNegativeAngle := value }
  | "max_positive_angle_rad" => some { parameters with maxPositiveAngle := value }
  | "kinematic_segment_len_mm" => some { parameters with segmentLength := value }
  | _ => none

variable [Scalar α]

/-- The allowed ranges, in order of declaration. -/
def ranges : List (ParameterRange α) :=
  [⟨"crank_mm", Scalar.ofNat 50, Scalar.ofNat 500⟩,
    ⟨"linkage_mm", Scalar.ofNat 20, Scalar.ofNat 500⟩,
    ⟨"base_triangle_mm", Scalar.ofNat 20, Scalar.ofNat 500⟩,
    ⟨"end_effector_triangle_mm", Scalar.ofNat 20, Scalar.ofNat 500⟩,
    ⟨"max_negative_angle_rad", -Scalar.quarterTurn, Scalar.zero⟩,
    ⟨"max_positive_angle_rad", Scalar.zero, Scalar.quarterTurn⟩,
    ⟨"kinematic_segment_len_mm", Scalar.decimal 5 2, Scalar.ofNat 20⟩]

/-- Writes a value by name. A refused write changes nothing. -/
def set? (parameters : Parameters α) (name : String) (value : α) :
    Except (ParameterError α) (Parameters α) :=
  match ranges.find? (fun range => range.name = name) with
  | none => .error (.unknownName name)
  | some range =>
      if range.contains value then
        match parameters.replace? range.name value with
        | none => .error (.unknownName name)
        | some written => .ok written
      else .error (.outOfRange range value)

/-- Compares the values under the names of some ranges with these ranges, in order. -/
def validateIn (parameters : Parameters α) :
    List (ParameterRange α) → Except (ParameterError α) Unit
  | [] => .ok ()
  | range :: others =>
      match parameters.get? range.name with
      | none => .error (.unknownName range.name)
      | some value =>
          if range.contains value then validateIn parameters others
          else .error (.outOfRange range value)

/-- Refuses the first parameter, in order of declaration, that is outside its range. -/
def validate (parameters : Parameters α) : Except (ParameterError α) Unit :=
  parameters.validateIn ranges

end Parameters

end DeltaRobot
