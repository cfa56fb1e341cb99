import DeltaRobot.Command.Codec
import DeltaRobot.Proofs.Json.Records
import DeltaRobot.Proofs.Parameters.Access

/-!
Contract: the decoders of the interface types understand what their encoders write.

Every record has its slots here: what its reader calls a field is what its writer calls it, in the
same order and of the same type. A command may leave out whether it is rapid, and nothing else may
be left out anywhere.

Owns: the slots of the interface records.
Does not own: what follows for texts.
-/

namespace DeltaRobot

open Json (Layout Slot Understands Value)
open Json.Decoder (real boolean)

/-- The only field that may be left out, and what it is then. -/
def omissible : List (String × Value) := [("rapid", .boolean false)]

theorem mem_omissible {name : String} {value : Value} :
    (name, value) ∈ omissible ↔ name = "rapid" ∧ value = .boolean false := by
  simp [omissible]

/-! ### Alternatives and rows -/

theorem MotionMode.understands : Understands omissible decode encode :=
  Json.understands_choice (fun mode => by cases mode <;> decide)
    (fun mode other => by cases mode <;> cases other <;> simp [name])

theorem Response.understands : Understands omissible decode encode :=
  Json.understands_choice (fun response => by cases response <;> decide)
    (fun response other => by cases response <;> cases other <;> simp [name])

theorem Point.understands : Understands omissible decode encode := by
  intro tree point
  rw [encode, Json.arranges_row, ← Json.coordinates_eq_ok_iff, decode, Json.map_eq_ok_iff]
  constructor
  · rintro ⟨_, decoded, rfl⟩
    exact decoded
  · intro decoded
    exact ⟨_, decoded, rfl⟩

theorem ArmAngles.understands_triple : Understands omissible decodeTriple encodeTriple := by
  intro tree angles
  rw [encodeTriple, Json.arranges_row, ← Json.triple_eq_ok_iff, decodeTriple, Json.map_eq_ok_iff]
  constructor
  · rintro ⟨_, decoded, rfl⟩
    exact decoded
  · intro decoded
    exact ⟨_, decoded, rfl⟩

/-! ### Records -/

namespace ArmAngles

def slots : List (Slot (Option (ArmAngles Float)) (ArmAngles Float)) := [
  { Content := ArmAngles Float, name := "pos_rad", decode := decodeTriple, encode := encodeTriple
    get := id, put := fun angles _ => some angles, of := id, default? := none }]

theorem layout : Layout omissible record encode slots where
  fields := rfl
  encode_eq _ := rfl
  names := by decide
  get_put := by simp [slots]
  get_put_of_ne := by simp [slots]
  get_empty := by simp [slots, record]
  finish partly value := by cases partly <;> simp [slots, record]
  understands := by simp [slots, understands_triple]
  omits := by simp [slots, mem_omissible]

theorem understands : Understands omissible decode encode :=
  layout.understands_record

end ArmAngles

namespace PlanData

def slots : List (Slot Partial (PlanData Float)) := [
  { Content := Float, name := "feed_rate", decode := real, encode := .real
    get := Partial.feedRate
    put := fun feedRate partly => { partly with feedRate := some feedRate }
    of := PlanData.feedRate, default? := none },
  { Content := MotionMode, name := "motion", decode := MotionMode.decode
    encode := MotionMode.encode, get := Partial.motion
    put := fun motion partly => { partly with motion := some motion }
    of := PlanData.motion, default? := none }]

theorem layout : Layout omissible record encode slots where
  fields := rfl
  encode_eq _ := rfl
  names := by decide
  get_put := by simp [slots]
  get_put_of_ne := by simp [slots]
  get_empty := by simp [slots, record]
  finish partly value := by
    obtain ⟨_ | feedRate, _ | motion⟩ := partly <;> cases value <;> simp [slots, record]
  understands := by simp [slots, Json.understands_real, MotionMode.understands]
  omits := by simp [slots, mem_omissible]

theorem understands : Understands omissible decode encode :=
  layout.understands_record

end PlanData

namespace Segment

def slots : List (Slot Partial (Segment Float)) := [
  { Content := ArmAngles Float, name := "angles", decode := ArmAngles.decode
    encode := ArmAngles.encode, get := Partial.angles
    put := fun angles partly => { partly with angles := some angles }
    of := Segment.angles, default? := none },
  { Content := Float, name := "feed_rate", decode := real, encode := .real
    get := Partial.feedRate
    put := fun feedRate partly => { partly with feedRate := some feedRate }
    of := Segment.feedRate, default? := none },
  { Content := MotionMode, name := "motion", decode := MotionMode.decode
    encode := MotionMode.encode, get := Partial.motion
    put := fun motion partly => { partly with motion := some motion }
    of := Segment.motion, default? := none }]

theorem layout : Layout omissible record encode slots where
  fields := rfl
  encode_eq _ := rfl
  names := by decide
  get_put := by simp [slots]
  get_put_of_ne := by simp [slots]
  get_empty := by simp [slots, record]
  finish partly value := by
    obtain ⟨_ | angles, _ | feedRate, _ | motion⟩ := partly <;> cases value <;>
      simp [slots, record]
  understands := by
    simp [slots, ArmAngles.understands, Json.understands_real, MotionMode.understands]
  omits := by simp [slots, mem_omissible]

theorem understands : Understands omissible decode encode :=
  layout.understands_record

end Segment

namespace MoveCommand

def slots : List (Slot Partial (MoveCommand Float)) := [
  { Content := Point Float, name := "target_mm", decode := Point.decode, encode := Point.encode
    get := Partial.target
    put := fun target partly => { partly with target := some target }
    of := MoveCommand.target, default? := none },
  { Content := Float, name := "feed_rate_mm_min", decode := real, encode := .real
    get := Partial.feedRate
    put := fun feedRate partly => { partly with feedRate := some feedRate }
    of := MoveCommand.feedRate, default? := none },
  { Content := Bool, name := "rapid", decode := boolean, encode := .boolean
    get := Partial.rapid
    put := fun rapid partly => { partly with rapid := some rapid }
    of := MoveCommand.rapid, default? := some false }]

theorem layout : Layout omissible record encode slots where
  fields := rfl
  encode_eq _ := rfl
  names := by decide
  get_put := by simp [slots]
  get_put_of_ne := by simp [slots]
  get_empty := by simp [slots, record]
  finish partly value := by
    obtain ⟨_ | target, _ | feedRate, _ | rapid⟩ := partly <;> cases value <;>
      simp [slots, record]
  understands := by
    simp [slots, Point.understands, Json.understands_real, Json.understands_boolean]
  omits := by simp [slots, mem_omissible, eq_comm]

theorem understands : Understands omissible decode encode :=
  layout.understands_record

end MoveCommand

namespace Parameters

def slot (parameter : Parameter) : Slot (Partial Float) (Parameters Float) where
  Content := Float
  name := parameter.name
  decode := real
  encode := .real
  get := fun partly => Parameters.get partly parameter
  put := fun value partly => Parameters.put partly parameter (some value)
  of := fun parameters => parameters.get parameter
  default? := none

theorem layout : Layout omissible record encode (Parameter.all.map slot) where
  fields := rfl
  encode_eq _ := rfl
  names := by decide
  get_put := by simp [slot]
  get_put_of_ne := by
    simp only [List.forall_mem_map]
    rintro parameter - other - different content partly
    exact Parameters.get_put_of_ne partly (some content) fun same =>
      different (congrArg Parameter.name same.symm)
  get_empty := by simp [slot, record]
  finish partly value := by
    simp only [List.forall_mem_map, slot, Option.or_none, record]
    constructor
    · intro finished parameter _
      cases completed : Partial.complete partly with
      | error missing =>
          rw [completed] at finished
          cases finished
      | ok parameters =>
          rw [completed] at finished
          cases finished
          exact Partial.get_of_complete completed parameter
    · intro all
      rw [Partial.complete_of_get fun parameter => all parameter (Parameter.mem_all parameter)]
      rfl
  understands := by simp [slot, Json.understands_real]
  omits := by simp [slot, mem_omissible]

theorem understands : Understands omissible decode encode :=
  layout.understands_record

end Parameters

end DeltaRobot
