import DeltaRobot.Json.Decode
import DeltaRobot.Json.Value
import DeltaRobot.Motion.Segment
import DeltaRobot.Parameters

/-!
Contract: the JSON form of every type that crosses the interface.

Each type has a decoder and an encoder beside each other, with one list of field names between
them. An encoder writes the fields in the order of declaration, which is also the order of the
array form.

Owns:
- `Record` layouts, decoders and encoders of the interface types;
- nothing about whether the numbers in them are usable.

Does not own: the grammar of JSON.
-/

namespace DeltaRobot

open Json (Decoder Value)
open Json.Decoder (Field Record)

namespace MotionMode

def decode : Decoder MotionMode := Json.Decoder.choice all name

def encode (mode : MotionMode) : Value := .text mode.name

end MotionMode

namespace Response

def decode : Decoder Response := Json.Decoder.choice all name

def encode (response : Response) : Value := .text response.name

end Response

namespace Point

def decode : Decoder (Point Float) := fun tree =>
  (Json.Decoder.coordinates tree).map (fun (x, y, z) => ⟨x, y, z⟩)

def encode (point : Point Float) : Value :=
  .array [.real point.x, .real point.y, .real point.z]

end Point

namespace ArmAngles

/-- The triple of angles, which is the only field of the record. -/
def decodeTriple : Decoder (ArmAngles Float) := fun tree =>
  (Json.Decoder.triple tree).map (fun (arm0, arm1, arm2) => ⟨arm0, arm1, arm2⟩)

def record : Record (Option (ArmAngles Float)) (ArmAngles Float) where
  name := "ArmAngles"
  fields := [.ofDecoder "pos_rad" decodeTriple id (fun angles _ => some angles) false]
  empty := none
  finish
    | none => .error "pos_rad"
    | some angles => .ok angles

def decode : Decoder (ArmAngles Float) := record.decode

def encodeTriple (angles : ArmAngles Float) : Value :=
  .array [.real angles.arm0, .real angles.arm1, .real angles.arm2]

def encode (angles : ArmAngles Float) : Value :=
  .object [("pos_rad", angles.encodeTriple)]

end ArmAngles

namespace PlanData

/-- The fields of a plan read so far. -/
structure Partial where
  feedRate : Option Float
  motion : Option MotionMode

def record : Record Partial (PlanData Float) where
  name := "PlanLineData"
  fields := [
    .ofDecoder "feed_rate" Json.Decoder.real Partial.feedRate
      (fun feedRate partly => { partly with feedRate := some feedRate }) false,
    .ofDecoder "motion" MotionMode.decode Partial.motion
      (fun motion partly => { partly with motion := some motion }) false]
  empty := ⟨none, none⟩
  finish
    | ⟨none, _⟩ => .error "feed_rate"
    | ⟨_, none⟩ => .error "motion"
    | ⟨some feedRate, some motion⟩ => .ok { feedRate, motion }

def decode : Decoder (PlanData Float) := record.decode

def encode (plan : PlanData Float) : Value :=
  .object [("feed_rate", .real plan.feedRate), ("motion", plan.motion.encode)]

end PlanData

namespace Segment

/-- The fields of a segment read so far. -/
structure Partial where
  angles : Option (ArmAngles Float)
  feedRate : Option Float
  motion : Option MotionMode

def record : Record Partial (Segment Float) where
  name := "SegmentDems"
  fields := [
    .ofDecoder "angles" ArmAngles.decode Partial.angles
      (fun angles partly => { partly with angles := some angles }) false,
    .ofDecoder "feed_rate" Json.Decoder.real Partial.feedRate
      (fun feedRate partly => { partly with feedRate := some feedRate }) false,
    .ofDecoder "motion" MotionMode.decode Partial.motion
      (fun motion partly => { partly with motion := some motion }) false]
  empty := ⟨none, none, none⟩
  finish
    | ⟨none, _, _⟩ => .error "angles"
    | ⟨_, none, _⟩ => .error "feed_rate"
    | ⟨_, _, none⟩ => .error "motion"
    | ⟨some angles, some feedRate, some motion⟩ => .ok { angles, feedRate, motion }

def decode : Decoder (Segment Float) := record.decode

def encode (segment : Segment Float) : Value :=
  .object [("angles", segment.angles.encode), ("feed_rate", .real segment.feedRate),
    ("motion", segment.motion.encode)]

end Segment

namespace MoveCommand

/-- The fields of a command read so far. -/
structure Partial where
  target : Option (Point Float)
  feedRate : Option Float
  rapid : Option Bool

/-- A command that does not say whether it is rapid is not. -/
def record : Record Partial (MoveCommand Float) where
  name := "MoveCmd"
  fields := [
    .ofDecoder "target_mm" Point.decode Partial.target
      (fun target partly => { partly with target := some target }) false,
    .ofDecoder "feed_rate_mm_min" Json.Decoder.real Partial.feedRate
      (fun feedRate partly => { partly with feedRate := some feedRate }) false,
    .ofDecoder "rapid" Json.Decoder.boolean Partial.rapid
      (fun rapid partly => { partly with rapid := some rapid }) true]
  empty := ⟨none, none, none⟩
  finish
    | ⟨none, _, _⟩ => .error "target_mm"
    | ⟨_, none, _⟩ => .error "feed_rate_mm_min"
    | ⟨some target, some feedRate, rapid⟩ =>
        .ok { target, feedRate, rapid := rapid.getD false }

def decode : Decoder (MoveCommand Float) := record.decode

def encode (command : MoveCommand Float) : Value :=
  .object [("target_mm", command.target.encode), ("feed_rate_mm_min", .real command.feedRate),
    ("rapid", .boolean command.rapid)]

end MoveCommand

namespace Parameters

def record : Record (Partial Float) (Parameters Float) where
  name := "Params"
  fields := Parameter.all.map (fun parameter =>
    .ofDecoder parameter.name Json.Decoder.real (fun partly => partly.get parameter)
      (fun value partly => partly.put parameter (some value)) false)
  empty := ofFunction (fun _ => none)
  finish partly := (Partial.complete partly).mapError Parameter.name

def decode : Decoder (Parameters Float) := record.decode

def encode (parameters : Parameters Float) : Value :=
  .object (Parameter.all.map (fun parameter =>
    (parameter.name, .real (parameters.get parameter))))

end Parameters

end DeltaRobot
