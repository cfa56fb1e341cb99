import DeltaRobot.Proofs.Exact.Distance

/-!
Contract: a line cut into the fewest equal steps.

The waypoints of a route divide its line evenly: they follow one another from the start to the
target, and each is as far from the one before as the next is from it. The number of steps is the
least that keeps them no longer than the limit, on every line short enough for its steps to be
counted within 64 bits.

Owns: the order of the waypoints and their distances, and the minimality of the number of steps.
Does not own: whether the arms reach a waypoint.
-/

namespace DeltaRobot

namespace Route

variable (route : Route ℝ)

/-- The point of the line that a part of the way leads to. -/
noncomputable def along (part : ℝ) : Point ℝ :=
  route.start.translate ((route.target.displacementFrom route.start).scale part)

/-- The waypoints, with the start as waypoint zero, divide the line from the start to the target
into steps of one length. -/
structure DividesEvenly : Prop where
  first : route.waypoint 0 = route.start
  last : route.waypoint route.count = route.target
  onLine : ∀ index ≤ route.count, ∃ part ∈ Set.Icc (0 : ℝ) 1,
    route.waypoint index = route.along part
  /-- On a line of some length, each waypoint is further from the start than those before it. -/
  ordered : 0 < route.length →
    StrictMonoOn (fun index => ((route.waypoint index).displacementFrom route.start).length)
      (Set.Iic route.count)
  even : ∀ index < route.count,
    ((route.waypoint (index + 1)).displacementFrom (route.waypoint index)).length =
      route.length / route.count

/-! ### Waypoints as parts of the way -/

theorem along_zero : route.along 0 = route.start := by
  simp [along, Point.translate, Displacement.scale]

theorem along_one : route.along 1 = route.target := by
  simp [along, Point.translate, Displacement.scale, Point.displacementFrom]

theorem length_displacementFrom_along {less more : ℝ} (further : less ≤ more) :
    ((route.along more).displacementFrom (route.along less)).length =
      route.length * (more - less) := by
  have between : (route.along more).displacementFrom (route.along less) =
      (route.target.displacementFrom route.start).scale (more - less) := by
    simp only [along, Point.translate, Displacement.scale, Point.displacementFrom,
      Displacement.mk.injEq]
    refine ⟨?_, ?_, ?_⟩ <;> ring
  rw [between, Displacement.length_scale _ (sub_nonneg.2 further), length]

variable {route}

/-- The target is where the whole way leads, so the last waypoint is no exception. -/
theorem waypoint_eq_along (someStep : 0 < route.count) {index : ℕ} (within : index ≤ route.count) :
    route.waypoint index = route.along (index / route.count) := by
  rcases within.lt_or_eq with before | rfl
  · rw [waypoint, if_neg before.ne]
    rfl
  · rw [waypoint_count, div_self (Nat.cast_ne_zero.2 someStep.ne'), along_one]

theorem dividesEvenly (someStep : 0 < route.count) : route.DividesEvenly := by
  have steps : (0 : ℝ) < route.count := Nat.cast_pos.2 someStep
  have first : route.waypoint 0 = route.start := by
    rw [waypoint_eq_along someStep (Nat.zero_le _), Nat.cast_zero, zero_div, along_zero]
  have fromStart {index : ℕ} (within : index ≤ route.count) :
      ((route.waypoint index).displacementFrom route.start).length =
        route.length * (index / route.count) := by
    have part : (0 : ℝ) ≤ index / route.count := div_nonneg (Nat.cast_nonneg _) steps.le
    have far := route.length_displacementFrom_along part
    rwa [along_zero, sub_zero, ← waypoint_eq_along someStep within] at far
  refine ⟨first, route.waypoint_count, ?_, ?_, ?_⟩
  · intro index within
    refine ⟨index / route.count, ⟨div_nonneg (Nat.cast_nonneg _) steps.le, ?_⟩,
      waypoint_eq_along someStep within⟩
    rw [div_le_one steps]
    exact_mod_cast within
  · intro someLength index within later laterWithin before
    dsimp only
    rw [fromStart within, fromStart laterWithin]
    have further : (index : ℝ) < later := by exact_mod_cast before
    gcongr
  · intro index before
    have further : (index : ℝ) / route.count ≤ ((index + 1 : ℕ) : ℝ) / route.count := by
      gcongr
      exact Nat.le_succ _
    rw [waypoint_eq_along someStep before, waypoint_eq_along someStep before.le,
      length_displacementFrom_along _ further]
    push_cast
    field_simp
    ring

end Route

/-! ### The number of steps -/

theorem segmentCount_le_maxCount (distance longest : ℝ) :
    segmentCount distance longest ≤ Scalar.maxCount :=
  max_le (min_le_right _ _) (by decide)

/-- The steps that are counted are the fewest that are short enough, unless there are more than can
be counted. -/
theorem isLeast_segmentCount_iff {distance longest : ℝ} (positive : 0 < longest) :
    IsLeast {count : ℕ | 1 ≤ count ∧ distance / count ≤ longest} (segmentCount distance longest) ↔
      distance / longest ≤ Scalar.maxCount := by
  have short {count : ℕ} (someStep : 1 ≤ count) :
      distance / count ≤ longest ↔ distance ≤ count * longest := by
    rw [div_le_iff₀' (Nat.cast_pos.2 someStep)]
  rw [div_le_iff₀ positive]
  constructor
  · rintro ⟨⟨someStep, enough⟩, -⟩
    have counted : (segmentCount distance longest : ℝ) ≤ Scalar.maxCount := by
      exact_mod_cast segmentCount_le_maxCount distance longest
    exact ((short someStep).1 enough).trans (by gcongr)
  · intro far
    have someStep := segmentCount_pos distance longest
    refine ⟨⟨someStep, ?_⟩, ?_⟩
    · rw [short someStep, ← segmentCount_le_iff positive far someStep]
    · rintro count ⟨otherStep, enough⟩
      rwa [segmentCount_le_iff positive far otherStep, ← short otherStep]

/-- One step does for a distance within the limit, and for no other. -/
theorem segmentCount_eq_one_iff {distance longest : ℝ} (positive : 0 < longest) :
    segmentCount distance longest = 1 ↔ distance ≤ longest := by
  have many : ¬Scalar.maxCount ≤ 1 := by decide
  change max (min ⌈distance / longest⌉₊ Scalar.maxCount) 1 = 1 ↔ _
  rw [max_eq_right_iff, min_le_iff, or_iff_left many, Nat.ceil_le, Nat.cast_one,
    div_le_one positive]

/-- Every line is cut into equal steps that lead along it to the target. They are the fewest that
are no longer than the limit, exactly if no more than can be counted would be needed, and there is
one of them exactly if the whole line is no longer than the limit. -/
theorem route_divides_line (start target : Point ℝ) (longest : ℝ)
    (allowed : Parameter.segmentLength.allows longest = true) :
    let distance := (target.displacementFrom start).length
    let route := Route.between start target longest
    route.DividesEvenly ∧ route.start = start ∧ route.target = target ∧
      route.stepLength = distance / route.count ∧
      (IsLeast {count : ℕ | 1 ≤ count ∧ distance / count ≤ longest} route.count ↔
        distance / longest ≤ Scalar.maxCount) ∧
      (route.count = 1 ↔ distance ≤ longest) := by
  have positive := Parameter.pos_of_allows_segmentLength allowed
  refine ⟨Route.dividesEvenly (Route.count_between_pos _ _ _), rfl, rfl, rfl, ?_, ?_⟩
  · exact isLeast_segmentCount_iff positive
  · exact segmentCount_eq_one_iff positive

/-- A descent of twice the limit takes two steps: the limit itself is still short enough. -/
theorem twofold_descent_divided :
    Parameter.segmentLength.allows (20 : ℝ) = true ∧
      (Route.between ⟨0, 0, -11⟩ ⟨0, 0, -51⟩ (20 : ℝ)).DividesEvenly ∧
      (Route.between ⟨0, 0, -11⟩ ⟨0, 0, -51⟩ (20 : ℝ)).count = 2 := by
  have allowed : Parameter.segmentLength.allows (20 : ℝ) = true := by
    norm_num [Parameter.allows, Scalar.inRange, Parameter.low, Parameter.high]
  have twofold : ((⟨0, 0, -51⟩ : Point ℝ).displacementFrom ⟨0, 0, -11⟩).length = 40 := by
    rw [Displacement.length_eq_iff (by norm_num)]
    norm_num [Point.displacementFrom]
  have divided := route_divides_line ⟨0, 0, -11⟩ ⟨0, 0, -51⟩ 20 allowed
  dsimp only at divided
  rw [twofold] at divided
  obtain ⟨evenly, -, -, -, least, -⟩ := divided
  have many : (2 : ℝ) ≤ Scalar.maxCount := by
    have counted : 2 ≤ Scalar.maxCount := by decide
    exact_mod_cast counted
  have fewest : IsLeast {count : ℕ | 1 ≤ count ∧ (40 : ℝ) / count ≤ 20} 2 := by
    refine ⟨⟨one_le_two, by norm_num⟩, ?_⟩
    rintro count ⟨someStep, short⟩
    rw [div_le_iff₀ (Nat.cast_pos.2 someStep)] at short
    have enough : (2 : ℝ) ≤ count := by linarith
    exact_mod_cast enough
  exact ⟨allowed, evenly, (least.2 (by linarith)).unique fewest⟩

/-- On a line a little shorter than `2 ^ 64` steps, the count stops one short of the fewest that
are short enough. -/
theorem exists_route_not_minimal :
    ¬∀ (start target : Point ℝ) (longest : ℝ), Parameter.segmentLength.allows longest = true →
      (target.displacementFrom start).length / longest < 2 ^ 64 →
        IsLeast {count : ℕ | 1 ≤ count ∧
            (target.displacementFrom start).length / count ≤ longest}
          (Route.between start target longest).count := by
  intro minimal
  have allowed : Parameter.segmentLength.allows (1 : ℝ) = true := by
    norm_num [Parameter.allows, Scalar.inRange, Parameter.low, Parameter.high]
  let start : Point ℝ := ⟨-(2 ^ 64 - 2 ^ 11), -(2 ^ 38 - 1 / 2), -11⟩
  let target : Point ℝ := ⟨0, 0, -11⟩
  have square : (target.displacementFrom start).length ^ 2 =
      (2 ^ 64 - 2 ^ 11) ^ 2 + (2 ^ 38 - 1 / 2) ^ 2 := by
    rw [Displacement.sq_length]
    norm_num [start, target, Point.displacementFrom]
  have short : (target.displacementFrom start).length / 1 < 2 ^ 64 := by
    rw [div_one]
    exact lt_of_pow_lt_pow_left₀ 2 (by positivity) (by rw [square]; norm_num)
  have counted := (isLeast_segmentCount_iff one_pos).1 (minimal start target 1 allowed short)
  have beyond : (2 ^ 64 - 1 : ℝ) < (target.displacementFrom start).length :=
    lt_of_pow_lt_pow_left₀ 2 (Displacement.length_nonneg _) (by rw [square]; norm_num)
  have most : (Scalar.maxCount : ℝ) = 2 ^ 64 - 1 := by norm_num [Scalar.maxCount]
  rw [div_one, most] at counted
  exact counted.not_gt beyond

end DeltaRobot
