import DeltaRobot.Command.Script
import DeltaRobot.Proofs.Binary64.Arithmetic
import DeltaRobot.Proofs.Move.Ends
import DeltaRobot.Proofs.Move.Plan

/-!
Contract: which of the feed rates that a move sends can be used.

A usable feed rate is finite and positive. A rapid move hands on the feed rate that it was given,
and so does a line of no length. Any other move scales it by the ratio of an angle distance to a
length, both computed, so the result can vanish or leave the range of the numbers.
`offered_feedRate_isPositive_iff` says when it does neither; `not_scales_distance_self` adds that it
is never usable where the arms do not turn, and `not_isPositive_feedRate_of_return` that an ordinary
move back to its own position, with a work offset, comes to that.

The first step is odd in this. Its length is measured from where the work offset puts the start of
the line, its angle distance from the angles of the position itself. So the two need not vanish
together.

Owns: the usable feed rates in binary64 arithmetic, for any sine, cosine and arc tangent.
Does not own: how exact a usable feed rate is.
-/

namespace DeltaRobot

variable {σ : Type}

/-! ### Scaling -/

namespace Binary64

/-- What it takes to scale a usable feed rate by the ratio of an angle distance to a length. Both
are usable themselves, and neither the product nor the quotient leaves the range of the numbers. -/
structure Scales (feedRate angleDistance length : Float) : Prop where
  turned : IsPositive angleDistance
  moved : IsPositive length
  product : Survives ((ofFloat feedRate).toRat * (ofFloat angleDistance).toRat)
  quotient : Survives ((ofFloat (feedRate * angleDistance)).toRat / (ofFloat length).toRat)

theorem isPositive_scaled_iff {feedRate angleDistance length : Float}
    (usable : IsPositive feedRate) (nonNegative : NonNegative length.toModel.unpack) :
    IsPositive (feedRate * angleDistance / length) ↔ Scales feedRate angleDistance length := by
  rw [isPositive_div_iff nonNegative, isPositive_mul_iff usable]
  constructor
  · rintro ⟨⟨turned, product⟩, moved, quotient⟩
    exact ⟨turned, moved, product, quotient⟩
  · intro scales
    exact ⟨⟨scales.turned, scales.product⟩, scales.moved, scales.quotient⟩

end Binary64

open Float.Model Float.Model.UnpackedFloat in
/-- Commands are refused for just the feed rates that are not usable. -/
theorem MoveCommand.usable_iff (command : MoveCommand Float) :
    command.usable = true ↔ Binary64.IsPositive command.feedRate := by
  have below : command.feedRate ≤ 0 ↔
      command.feedRate.toModel.unpack.le (0 : Float).toModel.unpack = true := decide_eq_true_iff
  have isFinite : command.feedRate.isFinite = command.feedRate.toModel.unpack.isFinite := rfl
  rw [MoveCommand.usable, Bool.and_eq_true, Bool.not_eq_true', decide_eq_false_iff_not, below,
    Binary64.isPositive_iff, isFinite, Binary64.unpack_zero]
  cases command.feedRate.toModel.unpack with
  | notANumber => simp [UnpackedFloat.isFinite, Binary64.properSign]
  | infinity sign => simp [UnpackedFloat.isFinite, Binary64.properSign]
  | zero sign => simp [UnpackedFloat.le, UnpackedFloat.compare, Binary64.properSign]
  | finite sign mantissa exponent positive =>
      cases sign <;>
        simp [UnpackedFloat.isFinite, UnpackedFloat.le, UnpackedFloat.compare, Binary64.properSign]

/-- Arms that do not turn have no angle distance, and no feed rate can be scaled by it. -/
theorem not_scales_distance_self (functions : Transcendental) (angles : ArmAngles Float)
    (feedRate length : Float) :
    letI := Scalar.binary64 functions
    ¬Binary64.Scales feedRate (angles.distance angles) length := by
  let := Scalar.binary64 functions
  have square (angle : Float) :
      Binary64.Void ((angle - angle) * (angle - angle)).toModel.unpack := by
    have difference := (Binary64.void_sub_self angle.toModel.unpack).pack
    exact (difference.mul difference).pack
  have zero : Binary64.Void (0 : Float).toModel.unpack := by
    rw [Binary64.unpack_zero]
    trivial
  have sum := ((((zero.add (square angles.arm0)).pack).add (square angles.arm1)).pack.add
    (square angles.arm2)).pack
  intro scales
  exact Binary64.Void.not_isPositive sum.sqrt.pack scales.turned

/-! ### Segments -/

/-- What a move offers is planned, whether the move completes or not. -/
theorem Machine.planned?_of_offered {α : Type} [Scalar α] {machine : Machine α}
    {dispatcher : Dispatcher σ α} {queue : σ} {request : MoveRequest α} {step : Nat}
    {segment : Segment α}
    (found : ((machine.move dispatcher queue request).offered.map Prod.fst)[step]? =
      some segment) :
    machine.planned? request step = some segment := by
  have sent : (machine.move dispatcher queue request).offered ≠ [] := by
    intro none
    simp [none] at found
  obtain ⟨⟨startAngles, started⟩, ⟨targetAngles, reached⟩, -⟩ :=
    (machine.moved dispatcher queue request).offered_ne_nil_iff.1 sent
  obtain ⟨segments, beyond, departed⟩ :=
    machine.exists_departed dispatcher queue request started reached
  exact departed.planned?_of_offered found

theorem nonNegative_stepLength (functions : Transcendental) (request : MoveRequest Float)
    (longest : Float) :
    letI := Scalar.binary64 functions
    Binary64.NonNegative (request.stepLength longest).toModel.unpack := by
  let := Scalar.binary64 functions
  have length : Binary64.NonNegative request.way.length.toModel.unpack :=
    Binary64.nonNegative_pack (Binary64.nonNegative_sqrt _)
  exact Binary64.nonNegative_pack (length.div (Binary64.nonNegative_ofNat _))

/-- A usable feed rate stays usable in a rapid move and along a line of no length. Otherwise it
does in just the segments whose angle distance and length it can be scaled by. The angle distance
is the one from where the segment before ends, and that of the first segment from the angles of the
position without the work offset. -/
theorem offered_feedRate_isPositive_iff (functions : Transcendental) (machine : Machine Float)
    (dispatcher : Dispatcher σ Float) (queue : σ) (request : MoveRequest Float)
    (usable : Binary64.IsPositive request.plan.feedRate) :
    letI := Scalar.binary64 functions
    ∀ step segment, ((machine.move dispatcher queue request).offered.map Prod.fst)[step]? =
        some segment →
      ∃ previous, machine.stepEnd request step = .ok previous ∧
        machine.stepEnd request (step + 1) = .ok segment.angles ∧
        (Binary64.IsPositive segment.feedRate ↔
          request.plan.motion = .rapid ∨
            Scalar.equal (request.stepLength machine.parameters.segmentLength) Scalar.zero = true ∨
            Binary64.Scales request.plan.feedRate (segment.angles.distance previous)
              (request.stepLength machine.parameters.segmentLength)) := by
  let := Scalar.binary64 functions
  intro step segment found
  obtain ⟨previous, angles, left, reached, rfl⟩ :=
    Machine.planned?_eq_some_iff.1 (Machine.planned?_of_offered found)
  refine ⟨previous, left, reached, ?_⟩
  rw [MoveRequest.segment]
  dsimp only
  split_ifs with unscaled
  · exact iff_of_true usable (or_assoc.1 (.inl unscaled))
  · rw [not_or] at unscaled
    rw [or_iff_right unscaled.1, or_iff_right unscaled.2]
    exact Binary64.isPositive_scaled_iff usable
      (nonNegative_stepLength functions request machine.parameters.segmentLength)

/-! ### Lines of one segment -/

theorem Machine.stepEnd_of_single {α : Type} [Scalar α] {machine : Machine α}
    {request : MoveRequest α}
    (single : request.segmentCount machine.parameters.segmentLength = 1) (step : Nat) :
    machine.stepEnd request (step + 1) = inverse machine.parameters request.target := by
  have past : ¬step + 1 < request.segmentCount machine.parameters.segmentLength := by omega
  rw [stepEnd, MoveRequest.waypoint, if_neg past]

section

variable (functions others : Transcendental) (request : MoveRequest Float) (longest : Float)

/-- Segments are counted without sines and arc tangents. -/
theorem MoveRequest.segmentCount_congr :
    @MoveRequest.segmentCount Float (.binary64 functions) request longest =
      @MoveRequest.segmentCount Float (.binary64 others) request longest := rfl

/-- The segment of a step is computed without them as well. -/
theorem MoveRequest.segment_congr (previous angles : ArmAngles Float) :
    @MoveRequest.segment Float (.binary64 functions) request longest previous angles =
      @MoveRequest.segment Float (.binary64 others) request longest previous angles := rfl

end

section

variable {functions : Transcendental} {machine : Machine Float} {request : MoveRequest Float}

/-- A move that returns to its position does not turn the arms. So where a work offset gives its
line a length all the same, the one segment of the line has no usable feed rate. -/
theorem not_isPositive_feedRate_of_return (dispatcher : Dispatcher σ Float) (queue : σ)
    (usable : Binary64.IsPositive request.plan.feedRate)
    (interpolated : request.plan.motion = .interpolated)
    (returns : request.target = request.position) :
    letI := Scalar.binary64 functions
    request.segmentCount machine.parameters.segmentLength = 1 →
      Scalar.equal (request.stepLength machine.parameters.segmentLength) Scalar.zero = false →
        ∀ offer ∈ (machine.move dispatcher queue request).offered,
          ¬Binary64.IsPositive offer.1.feedRate := by
  let := Scalar.binary64 functions
  intro single someLength offer offered
  obtain ⟨step, found⟩ := List.getElem?_of_mem (List.mem_map_of_mem (f := Prod.fst) offered)
  obtain ⟨previous, angles, left, reached, same⟩ :=
    Machine.planned?_eq_some_iff.1 (Machine.planned?_of_offered found)
  have nowhere : machine.stepEnd request step = inverse machine.parameters request.target := by
    cases step with
    | zero => rw [Machine.stepEnd, returns]
    | succ step => exact Machine.stepEnd_of_single single step
  rw [nowhere] at left
  rw [Machine.stepEnd_of_single single] at reached
  have still : angles = previous := Except.ok.inj (reached.symm.trans left)
  rw [same, still, MoveRequest.segment]
  dsimp only
  rw [if_neg (by simp [interpolated, someLength]),
    Binary64.isPositive_scaled_iff usable (nonNegative_stepLength functions request _)]
  exact not_scales_distance_self functions previous _ _

end

/-- The zero pose of the dyadic geometry is such a position: with a finite offset and an ordinary
feed rate a segment is sent, and its own feed rate is not usable. -/
theorem dyadicLevelled_not_usable {functions : Transcendental}
    (atZero : functions.arcTan (-0.0) = -0.0) :
    letI := Scalar.binary64 functions
    (Machine.dyadic.move .acceptAll () dyadicLevelled).offered ≠ [] ∧
      ∀ offer ∈ (Machine.dyadic.move .acceptAll () dyadicLevelled).offered,
        ¬Binary64.IsPositive offer.1.feedRate := by
  let := Scalar.binary64 functions
  have single : @MoveRequest.segmentCount Float (.binary64 .nearZero) dyadicLevelled 20 = 1 := by
    decide +kernel
  have someLength :
      letI := Scalar.binary64 .nearZero
      Scalar.equal (dyadicLevelled.stepLength 20) Scalar.zero = false := by
    decide +kernel
  refine ⟨dyadicLevelled_sent atZero, ?_⟩
  exact not_isPositive_feedRate_of_return .acceptAll () (by decide +kernel) rfl rfl single
    someLength

/-! ### A steep descent -/

/-- An effector much larger than its base, on short linkages: the arms turn fast. -/
def Parameters.splayed : Parameters Float where
  crank := 50
  linkage := 30
  baseTriangle := 20
  effectorTriangle := 195
  maxNegativeAngle := -1.5
  maxPositiveAngle := 1.5
  segmentLength := 20

def Machine.splayed : Machine Float where
  parameters := .splayed
  pose := .initial
  zOffset := none

/-- The arc tangents of the two crank positions that the descent goes through. -/
def Transcendental.splayed : Transcendental where
  sin := id
  cos := fun _ => 1
  arcTan quotient := if quotient < 1 then 0.24373556950135025 else 0.8679276825619617

def splayedDescent (feedRate : Float) : MoveRequest Float where
  target := ⟨0, 0, -62⟩
  plan := ⟨feedRate, .interpolated⟩
  position := ⟨0, 0, -42⟩
  offset := ⟨0, 0, 0⟩

theorem splayedDescent_scales :
    letI := Scalar.binary64 .splayed
    Binary64.IsPositive (splayedDescent 600).plan.feedRate ∧
      ∃ previous angles : ArmAngles Float,
        inverse .splayed (splayedDescent 600).position = .ok previous ∧
        Binary64.Scales 600 (angles.distance previous) ((splayedDescent 600).stepLength 20) := by
  let := Scalar.binary64 .splayed
  have usable : Binary64.IsPositive (splayedDescent 600).plan.feedRate := by decide +kernel
  have sent : ((Machine.splayed.move .acceptAll () (splayedDescent 600)).offered.map
      Prod.fst)[0]?.any (fun segment => decide (Binary64.IsPositive segment.feedRate)) = true := by
    decide +kernel
  obtain ⟨segment, found, positive⟩ := (Option.any_eq_true _ _).1 sent
  obtain ⟨previous, started, -, usable_iff⟩ := offered_feedRate_isPositive_iff .splayed .splayed
    .acceptAll () (splayedDescent 600) usable 0 segment found
  have someLength : Scalar.equal ((splayedDescent 600).stepLength 20) Scalar.zero = false := by
    decide +kernel
  refine ⟨usable, previous, segment.angles, started, ?_⟩
  rcases usable_iff.1 (of_decide_eq_true positive) with rapid | level | scales
  · cases rapid
  · cases someLength.symm.trans level
  · exact scales

def MoveRequest.AllFinite (request : MoveRequest Float) : Prop :=
  ∀ coordinate ∈ request.position.toList ++ request.target.toList ++
    [request.offset.x, request.offset.y, request.offset.z], coordinate.isFinite = true

section

variable {functions : Transcendental}

theorem Parameters.splayed_valid :
    letI := Scalar.binary64 functions
    Parameters.splayed.validate = .ok () :=
  validate_binary64 functions (fun parameter => by cases parameter <;> decide +kernel)

theorem inverse_splayed_high
    (high : functions.arcTan 0.24867962268093022 = 0.24373556950135025) :
    letI := Scalar.binary64 functions
    inverse .splayed ⟨0, 0, -42⟩ = .ok (ArmAngles.alike 0.24373556950135025) := by
  have solved : @inverse Float (.binary64 .splayed) .splayed ⟨0, 0, -42⟩ =
      .ok (ArmAngles.alike 0.24373556950135025) := by
    decide +kernel
  rw [← solved]
  exact inverse_congr_of_quotient .splayed (fun arm => by cases arm <;> decide +kernel)
    (high.trans (by decide +kernel))

theorem inverse_splayed_low
    (low : functions.arcTan 1.180353152407272 = 0.8679276825619617) :
    letI := Scalar.binary64 functions
    inverse .splayed ⟨0, 0, -62⟩ = .ok (ArmAngles.alike 0.8679276825619617) := by
  have solved : @inverse Float (.binary64 .splayed) .splayed ⟨0, 0, -62⟩ =
      .ok (ArmAngles.alike 0.8679276825619617) := by
    decide +kernel
  rw [← solved]
  exact inverse_congr_of_quotient .splayed (fun arm => by cases arm <;> decide +kernel)
    (low.trans (by decide +kernel))

/-- The steep descent is a single segment, between the two solved positions. -/
theorem splayedDescent_offered
    (high : functions.arcTan 0.24867962268093022 = 0.24373556950135025)
    (low : functions.arcTan 1.180353152407272 = 0.8679276825619617) :
    letI := Scalar.binary64 functions
    ∃ offer ∈ (Machine.splayed.move .acceptAll () (splayedDescent 1.7e308)).offered,
      offer.1 = (splayedDescent 1.7e308).segment 20 (ArmAngles.alike 0.24373556950135025)
        (ArmAngles.alike 0.8679276825619617) := by
  let := Scalar.binary64 functions
  have single : @MoveRequest.segmentCount Float (.binary64 .splayed) (splayedDescent 1.7e308)
      Machine.splayed.parameters.segmentLength = 1 := by
    decide +kernel
  rw [MoveRequest.segmentCount_congr _ functions] at single
  have started := inverse_splayed_high high
  have reached := inverse_splayed_low low
  have sent : (Machine.splayed.move .acceptAll () (splayedDescent 1.7e308)).offered ≠ [] :=
    (Machine.splayed.moved .acceptAll () (splayedDescent 1.7e308)).offered_ne_nil_iff_of_single
      single |>.2 ⟨⟨_, started⟩, ⟨_, reached⟩⟩
  obtain ⟨offer, rest, offered⟩ := List.exists_cons_of_ne_nil sent
  have first : ((Machine.splayed.move .acceptAll () (splayedDescent 1.7e308)).offered.map
      Prod.fst)[0]? = some offer.1 := by
    rw [offered]
    rfl
  obtain ⟨previous, angles, left, arrived, segment⟩ :=
    Machine.planned?_eq_some_iff.1 (Machine.planned?_of_offered first)
  have last : Machine.splayed.stepEnd (splayedDescent 1.7e308) 1 =
      .ok (ArmAngles.alike 0.8679276825619617) :=
    (Machine.stepEnd_of_single single 0).trans reached
  rw [Except.ok.inj (left.symm.trans started), Except.ok.inj (arrived.symm.trans last)] at segment
  exact ⟨offer, by rw [offered]; exact List.mem_cons_self, segment⟩

end

/-- A usable feed rate need not stay usable. The angle distance of the descent is more than a
radian, and its product with a very large feed rate overflows before it is divided by the length.
Of the library only the arc tangents of the two crank positions matter. -/
theorem exists_feedRate_not_usable :
    ¬∃ functions : Transcendental,
      functions.arcTan 0.24867962268093022 = 0.24373556950135025 ∧
      functions.arcTan 1.180353152407272 = 0.8679276825619617 ∧
      letI := Scalar.binary64 functions
      ∀ (machine : Machine Float) (request : MoveRequest Float),
        machine.parameters.validate = .ok () → request.AllFinite →
          Binary64.IsPositive request.plan.feedRate →
            ∀ offer ∈ (machine.move .acceptAll () request).offered,
              Binary64.IsPositive offer.1.feedRate := by
  rintro ⟨functions, high, low, allUsable⟩
  let := Scalar.binary64 functions
  have finite : (splayedDescent 1.7e308).AllFinite := by
    rw [MoveRequest.AllFinite]
    decide +kernel
  have usable : Binary64.IsPositive (splayedDescent 1.7e308).plan.feedRate := by decide +kernel
  -- The product with the angle distance is infinite, whatever the library.
  have lost :
      letI := Scalar.binary64 .splayed
      ¬Binary64.IsPositive ((splayedDescent 1.7e308).segment 20
        (ArmAngles.alike 0.24373556950135025) (ArmAngles.alike 0.8679276825619617)).feedRate := by
    decide +kernel
  obtain ⟨offer, offered, segment⟩ := splayedDescent_offered high low
  have usableSegment := allUsable .splayed (splayedDescent 1.7e308) Parameters.splayed_valid finite
    usable offer offered
  rw [segment, MoveRequest.segment_congr functions .splayed] at usableSegment
  exact lost usableSegment

end DeltaRobot
