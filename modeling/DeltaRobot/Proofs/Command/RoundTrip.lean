import DeltaRobot.Proofs.Command.Codec
import DeltaRobot.Proofs.Json.Rendering

/-!
Contract: every interface type goes through its text and back.

What a text is decoded as, and whether it is decoded at all, depends on one thing: the value whose
arrangement the text is. So a value is decoded from the text that it is written as, from every
other object with the same fields in whatever order and company, and from the array of its fields;
what was decoded once is decoded again from what is written of it; and nothing that gives a known
field twice is decoded.

A number is read back from the text that it is written as only as well as the reader of numbers
reads that text. That is asked of the numbers of a value here, and of no others.

Owns: `RoundTrips`, for every interface type.
Does not own: whether the numbers in a value are usable.
-/

namespace DeltaRobot

open Json (Arranges Decoder Legible ReadsBack Reads Repeats Tidy Understands Value decodeText named)

/-- A type goes through its text and back. -/
structure RoundTrips {β : Type} (decode : Decoder β) (encode : β → Value) : Prop where
  /-- A value of finite numbers is decoded from the text that it is written as. -/
  encoded : ∀ value,
    (∀ number ∈ (encode value).numbers, number.isFinite = true ∧ ReadsBack number) →
      decodeText decode (encode value).render = .ok value
  /-- The texts that are decoded as a value are those of its arrangements. -/
  arranged : ∀ text value, decodeText decode text = .ok value ↔
    ∃ tree, Reads text tree ∧ Arranges omissible (encode value) tree
  /-- The members of a record may come in any order, with others between them. -/
  shuffled : ∀ value fields members foreign others text, encode value = .object fields →
    Arranges omissible (.object fields) (.object members .closed) →
    Legible foreign → (∀ field ∈ fields, named foreign field.1 = []) →
    others.Perm (members ++ foreign) → Reads text (.object others .closed) →
      decodeText decode text = .ok value
  /-- A record may be the array of its fields. -/
  row : ∀ value fields trees text, encode value = .object fields →
    List.Forall₂ (fun field tree => Arranges omissible field.2 tree) fields trees →
    Reads text (.array trees .closed) → decodeText decode text = .ok value
  /-- Whatever is decoded is decoded again from what is written of it. -/
  again : ∀ text value, decodeText decode text = .ok value →
    (∀ number ∈ (encode value).numbers, number.isFinite = true → ReadsBack number) →
      decodeText decode (encode value).render = .ok value
  /-- No text is decoded that gives a field of the type twice, at any level. -/
  repeated : ∀ text tree value, Reads text tree → Repeats (encode value) tree →
    ∃ cause, decodeText decode text = .error cause

section

variable {β : Type} {decode : Decoder β} {encode : β → Value}

theorem decodeText_eq_ok_iff (understands : Understands omissible decode encode) {text : String}
    {value : β} : decodeText decode text = .ok value ↔
      ∃ tree, Reads text tree ∧ Arranges omissible (encode value) tree := by
  rw [Json.decodeText_eq_ok_iff understands.thorough]
  exact exists_congr fun tree => and_congr_right fun _ => understands tree value

theorem decodeText_render (understands : Understands omissible decode encode)
    (tidy : ∀ value, Tidy (encode value)) {value : β}
    (readBack : ∀ number ∈ (encode value).numbers, number.isFinite = true ∧ ReadsBack number) :
    decodeText decode (encode value).render = .ok value :=
  (decodeText_eq_ok_iff understands).2
    (Json.exists_reads_render (tidy value) fun number member => (readBack number member).2)

/-- A decoder that understands its encoder takes every value through its text and back. -/
theorem roundTrips (understands : Understands omissible decode encode)
    (tidy : ∀ value, Tidy (encode value))
    (shape : ∀ value other, (encode value).shape = (encode other).shape) :
    RoundTrips decode encode where
  encoded _ readBack := decodeText_render understands tidy readBack
  arranged _ _ := decodeText_eq_ok_iff understands
  shuffled value fields members foreign others text isRecord arranges legible unknown perm reads :=
    (decodeText_eq_ok_iff understands).2
      ⟨_, reads, by rw [isRecord]; exact arranges.shuffle legible unknown perm⟩
  row value fields trees text isRecord related reads :=
    (decodeText_eq_ok_iff understands).2 ⟨_, reads, by
      rw [isRecord]
      exact Json.arranges_object.2 (.inr ⟨trees, rfl, Json.arrangesRow_of_forall₂ related⟩)⟩
  again text value decoded readBack := by
    obtain ⟨tree, -, arranges⟩ := (decodeText_eq_ok_iff understands).1 decoded
    have finite := arranges.isFinite (by simp [omissible, Value.numbers])
    exact decodeText_render understands tidy fun number member =>
      ⟨finite number member, readBack number member (finite number member)⟩
  repeated text tree value reads repeats := by
    cases decoded : decodeText decode text with
    | error cause => exact ⟨cause, rfl⟩
    | ok other =>
        obtain ⟨found, readsFound, arranges⟩ := (decodeText_eq_ok_iff understands).1 decoded
        have repeatsOther := repeats.shape
        rw [shape value other, reads.unique readsFound] at repeatsOther
        exact absurd repeatsOther arranges.not_repeats

end

/-! ### The interface types -/

theorem Point.tidy (point : Point Float) : Tidy point.encode :=
  .array (by simp [Tidy.real])

theorem ArmAngles.tidy (angles : ArmAngles Float) : Tidy angles.encode := by
  have triple : Tidy angles.encodeTriple := .array (by simp [Tidy.real])
  exact .object (by simp) (by simp [triple])

theorem PlanData.tidy (plan : PlanData Float) : Tidy plan.encode :=
  .object (by simp) (by simp [Tidy.real, MotionMode.encode, Tidy.text])

theorem Segment.tidy (segment : Segment Float) : Tidy segment.encode :=
  .object (by simp) (by simp [ArmAngles.tidy, Tidy.real, MotionMode.encode, Tidy.text])

theorem MoveCommand.tidy (command : MoveCommand Float) : Tidy command.encode :=
  .object (by simp) (by simp [Point.tidy, Tidy.real, Tidy.boolean])

theorem Parameters.tidy (parameters : Parameters Float) : Tidy parameters.encode :=
  .object layout.names (by simp [Tidy.real])

/-- Every interface type goes through its text and back. -/
theorem interface_types_round_trip :
    RoundTrips MoveCommand.decode MoveCommand.encode ∧
      RoundTrips PlanData.decode PlanData.encode ∧
      RoundTrips MotionMode.decode MotionMode.encode ∧
      RoundTrips ArmAngles.decode ArmAngles.encode ∧
      RoundTrips Segment.decode Segment.encode ∧
      RoundTrips Response.decode Response.encode ∧
      RoundTrips Parameters.decode Parameters.encode :=
  ⟨roundTrips MoveCommand.understands MoveCommand.tidy fun _ _ => rfl,
    roundTrips PlanData.understands PlanData.tidy fun _ _ => rfl,
    roundTrips MotionMode.understands (fun _ => .text _) fun _ _ => rfl,
    roundTrips ArmAngles.understands ArmAngles.tidy fun _ _ => rfl,
    roundTrips Segment.understands Segment.tidy fun _ _ => rfl,
    roundTrips Response.understands (fun _ => .text _) fun _ _ => rfl,
    roundTrips Parameters.understands Parameters.tidy fun _ _ => rfl⟩

/-- A command whose numbers are written in three ways: with a point, with one behind a whole number
and with an exponent. -/
def sampleCommand : MoveCommand Float :=
  { target := ⟨10, -2.5, 1e42⟩, feedRate := 600, rapid := true }

theorem sampleCommand_round_trips :
    (∀ number ∈ sampleCommand.encode.numbers, number.isFinite = true ∧ ReadsBack number) ∧
      decodeText MoveCommand.decode sampleCommand.encode.render = .ok sampleCommand := by
  have readBack : ∀ number ∈ sampleCommand.encode.numbers,
      number.isFinite = true ∧ ReadsBack number := by
    have each : ∀ number ∈ sampleCommand.encode.numbers, number.isFinite = true ∧
        (decodeText Decoder.real (Value.real number).render).toOption = some number := by
      decide +kernel
    exact fun number member => (each number member).imp_right .of_toOption
  exact ⟨readBack, interface_types_round_trip.1.encoded sampleCommand readBack⟩

end DeltaRobot
