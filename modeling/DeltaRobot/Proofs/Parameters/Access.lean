import DeltaRobot.Parameters
import DeltaRobot.Scalar.Binary64
import Mathlib.Data.List.Basic

/-!
Contract: parameters read and written by name.

The three tables of access agree: a name stands for one parameter or for none, whether it is read,
written or looked up among the ranges. So a write is refused for its name or for its value, and
changes nothing then; otherwise the name reads as the value, and every other name as before. A value
that is written lies in its range, so writes put values into their ranges and never take one out.

Owns: the agreement of the tables, the laws of one write, what any number of writes keep, and what
`validate` says of values out of range.
Does not own: parameters read from a file.
-/

namespace DeltaRobot

variable {α : Type}

/-! ### Names -/

theorem Parameter.ofName?_eq_some_iff {name : String} {parameter : Parameter} :
    ofName? name = some parameter ↔ parameter.name = name := by
  constructor
  · exact name_of_ofName?
  · rintro rfl
    exact ofName?_name parameter

theorem Parameter.ofName?_eq_none_iff {name : String} :
    ofName? name = none ↔ name ∉ all.map Parameter.name := by
  simp [ofName?, List.find?_eq_none]

theorem Parameter.name_injective {parameter other : Parameter}
    (same : parameter.name = other.name) : parameter = other :=
  Option.some.inj ((ofName?_name parameter).symm.trans (same ▸ ofName?_name other))

/-! ### The three tables -/

theorem Parameters.get?_name (parameters : Parameters α) (parameter : Parameter) :
    parameters.get? parameter.name = some (parameters.get parameter) := by
  cases parameter <;> rfl

theorem Parameters.get?_of_unknown (parameters : Parameters α) {name : String}
    (unknown : name ∉ Parameter.all.map Parameter.name) : parameters.get? name = none := by
  rw [get?]
  all_goals
    rintro rfl
    exact unknown (by decide)

theorem Parameters.get?_eq_none_iff (parameters : Parameters α) {name : String} :
    parameters.get? name = none ↔ name ∉ Parameter.all.map Parameter.name := by
  refine ⟨fun isNone known => ?_, parameters.get?_of_unknown⟩
  obtain ⟨parameter, -, rfl⟩ := List.mem_map.1 known
  rw [get?_name] at isNone
  cases isNone

theorem Parameters.get?_put_of_ne (parameters : Parameters α) {parameter : Parameter} (value : α)
    {name : String} (different : name ≠ parameter.name) :
    (parameters.put parameter value).get? name = parameters.get? name := by
  by_cases known : name ∈ Parameter.all.map Parameter.name
  · obtain ⟨other, -, rfl⟩ := List.mem_map.1 known
    have distinct : other ≠ parameter := fun same => different (congrArg Parameter.name same)
    rw [get?_name, get?_name, get_put_of_ne _ _ distinct]
  · rw [get?_of_unknown _ known, get?_of_unknown _ known]

/-- Whatever has a range can be written. -/
theorem Parameters.replace?_name (parameters : Parameters α) (parameter : Parameter) (value : α) :
    parameters.replace? parameter.name value = some (parameters.put parameter value) := by
  cases parameter <;> rfl

section

variable [Scalar α]

/-- The table of ranges lists every parameter once, in order of declaration. -/
theorem Parameters.ranges_eq :
    (ranges : List (ParameterRange α)) = Parameter.all.map Parameter.range := rfl

theorem Parameters.range_mem_ranges (parameter : Parameter) :
    parameter.range ∈ (ranges : List (ParameterRange α)) :=
  List.mem_map_of_mem parameter.mem_all

theorem Parameters.find?_ranges (name : String) :
    (ranges : List (ParameterRange α)).find? (fun range => range.name = name) =
      (Parameter.ofName? name).map Parameter.range := by
  rw [ranges_eq, List.find?_map]
  rfl

theorem Parameters.set?_of_unknown (parameters : Parameters α) {name : String} (value : α)
    (unknown : Parameter.ofName? name = none) :
    parameters.set? name value = .error (.unknownName name) := by
  rw [set?, find?_ranges, unknown]
  rfl

theorem Parameters.set?_name (parameters : Parameters α) (parameter : Parameter) (value : α) :
    parameters.set? parameter.name value =
      if parameter.allows value then .ok (parameters.put parameter value)
      else .error (.outOfRange parameter.range value) := by
  have written : parameters.replace? (parameter.range : ParameterRange α).name value =
      some (parameters.put parameter value) := parameters.replace?_name parameter value
  rw [set?, find?_ranges, Parameter.ofName?_name, Option.map_some]
  dsimp only
  rw [written]
  rfl

/-- Every name of the table can be read, so no range is left out of the comparison. -/
theorem Parameters.validateIn_map (parameters : Parameters α) (compared : List Parameter) :
    parameters.validateIn (compared.map Parameter.range) =
      (compared.find? (fun parameter => !parameter.allows (parameters.get parameter))).elim
        (.ok ()) (fun parameter =>
          .error (.outOfRange parameter.range (parameters.get parameter))) := by
  induction compared with
  | nil => rfl
  | cons parameter compared inductionHypothesis =>
      have read : parameters.get? (parameter.range : ParameterRange α).name =
          some (parameters.get parameter) := parameters.get?_name parameter
      have decides : (parameter.range : ParameterRange α).contains (parameters.get parameter) =
          parameter.allows (parameters.get parameter) := rfl
      rw [List.map_cons, validateIn, read]
      dsimp only
      rw [decides, inductionHypothesis, List.find?_cons]
      cases parameter.allows (parameters.get parameter) <;> rfl

end

/-! ### Values out of range -/

section

variable [Scalar α]

/-- The parameters whose values are out of range, in order of declaration. -/
def Parameters.outside (parameters : Parameters α) : List Parameter :=
  Parameter.all.filter (fun parameter => !parameter.allows (parameters.get parameter))

theorem Parameters.validate_eq (parameters : Parameters α) :
    parameters.validate = parameters.outside.head?.elim (.ok ()) (fun parameter =>
      .error (.outOfRange parameter.range (parameters.get parameter))) := by
  rw [validate, ranges_eq, validateIn_map, outside, List.head?_filter]

theorem Parameters.validate_eq_ok_iff_outside (parameters : Parameters α) :
    parameters.validate = .ok () ↔ parameters.outside = [] := by
  rw [validate_eq]
  cases parameters.outside <;> simp

theorem Parameters.validate_eq_error_iff (parameters : Parameters α)
    (cause : ParameterError α) :
    parameters.validate = .error cause ↔
      ∃ parameter, parameters.outside.head? = some parameter ∧
        cause = .outOfRange parameter.range (parameters.get parameter) := by
  rw [validate_eq]
  cases parameters.outside.head? <;> simp [eq_comm]

theorem Parameters.validate_eq_ok_iff (parameters : Parameters α) :
    parameters.validate = .ok () ↔
      ∀ parameter : Parameter, parameter.allows (parameters.get parameter) = true := by
  simp [validate_eq_ok_iff_outside, outside, Parameter.mem_all]

/-- The ranges are the same whatever library computes sines and arc tangents. -/
theorem Parameter.allows_congr (functions others : Transcendental) (parameter : Parameter)
    (value : Float) :
    @allows Float (.binary64 functions) parameter value =
      @allows Float (.binary64 others) parameter value := by
  cases parameter <;> rfl

theorem Parameters.validate_binary64 (functions : Transcendental) {parameters : Parameters Float}
    (allowed : ∀ parameter : Parameter, parameter.allows (parameters.get parameter) = true) :
    letI := Scalar.binary64 functions
    parameters.validate = .ok () := by
  let := Scalar.binary64 functions
  refine parameters.validate_eq_ok_iff.2 (fun parameter => ?_)
  exact (Parameter.allows_congr functions .linked parameter _).trans (allowed parameter)

/-- A value in its range takes its parameter off the list and puts none on it. -/
theorem Parameters.outside_put (parameters : Parameters α) {parameter : Parameter} {value : α}
    (allowed : parameter.allows value = true) :
    (parameters.put parameter value).outside.Sublist parameters.outside := by
  apply List.monotone_filter_right
  intro other
  rcases eq_or_ne other parameter with rfl | different
  · simp [allowed]
  · simp [get_put_of_ne _ _ different]

end

/-! ### One write -/

/-- A write by name, with the parameters around it. -/
structure ParameterWrite (α : Type) where
  before : Parameters α
  name : String
  value : α
  answer : Except (ParameterError α) Unit
  after : Parameters α

variable [Scalar α]

/-- What a write answers and what it leaves. -/
structure ParameterWrite.Lawful (write : ParameterWrite α) : Prop where
  unknown : ∀ name, write.answer = .error (.unknownName name) ↔
    name = write.name ∧ write.before.get? write.name = none
  refused : ∀ range value, write.answer = .error (.outOfRange range value) ↔
    range ∈ Parameters.ranges ∧ range.name = write.name ∧ value = write.value ∧
      Scalar.inRange value range.low range.high = false
  unchanged : write.answer ≠ .ok () → write.after = write.before
  written : write.answer = .ok () → write.after.get? write.name = some write.value
  others : ∀ other, other ≠ write.name → write.after.get? other = write.before.get? other
  outside : write.after.outside.Sublist write.before.outside

/-- Writes a value by name, and keeps the parameters if that is refused. -/
def Parameters.write (parameters : Parameters α) (name : String) (value : α) :
    ParameterWrite α :=
  let result := parameters.set? name value
  { before := parameters
    name
    value
    answer := result.map (fun _ => ())
    after := result.toOption.getD parameters }

theorem Parameters.write_of_error {parameters : Parameters α} {name : String} {value : α}
    {cause : ParameterError α} (refused : parameters.set? name value = .error cause) :
    parameters.write name value = ⟨parameters, name, value, .error cause, parameters⟩ := by
  rw [write, refused]
  rfl

theorem Parameters.write_of_ok {parameters after : Parameters α} {name : String} {value : α}
    (accepted : parameters.set? name value = .ok after) :
    parameters.write name value = ⟨parameters, name, value, .ok (), after⟩ := by
  rw [write, accepted]
  rfl

/-- The three ways in which a write goes. -/
theorem Parameters.write_cases (parameters : Parameters α) (name : String) (value : α) :
    (Parameter.ofName? name = none ∧ parameters.write name value =
        ⟨parameters, name, value, .error (.unknownName name), parameters⟩) ∨
      ∃ parameter : Parameter, parameter.name = name ∧
        ((parameter.allows value = false ∧ parameters.write name value =
            ⟨parameters, name, value, .error (.outOfRange parameter.range value), parameters⟩) ∨
          (parameter.allows value = true ∧ parameters.write name value =
            ⟨parameters, name, value, .ok (), parameters.put parameter value⟩)) := by
  cases found : Parameter.ofName? name with
  | none => exact .inl ⟨rfl, write_of_error (parameters.set?_of_unknown value found)⟩
  | some parameter =>
      obtain rfl := Parameter.name_of_ofName? found
      refine .inr ⟨parameter, rfl, ?_⟩
      cases allowed : parameter.allows value with
      | false => exact .inl ⟨rfl, write_of_error (by rw [set?_name, allowed]; rfl)⟩
      | true => exact .inr ⟨rfl, write_of_ok (by rw [set?_name, allowed]; rfl)⟩

/-- An entry of the table is the range of the parameter that has its name. -/
theorem Parameters.eq_range_of_mem {range : ParameterRange α} {parameter : Parameter}
    (member : range ∈ ranges) (same : range.name = parameter.name) : range = parameter.range := by
  rw [ranges_eq] at member
  obtain ⟨other, -, rfl⟩ := List.mem_map.1 member
  rw [Parameter.name_injective same]

theorem ParameterWrite.lawful_of_refusal {write : ParameterWrite α} {cause : ParameterError α}
    (answer : write.answer = .error cause) (unchanged : write.after = write.before)
    (unknown : ∀ name, cause = .unknownName name ↔
      name = write.name ∧ write.before.get? write.name = none)
    (refused : ∀ range value, cause = .outOfRange range value ↔
      range ∈ Parameters.ranges ∧ range.name = write.name ∧ value = write.value ∧
        Scalar.inRange value range.low range.high = false) : write.Lawful where
  unknown := by simpa [answer] using unknown
  refused := by simpa [answer] using refused
  unchanged := fun _ => unchanged
  written := by simp [answer]
  others := by simp [unchanged]
  outside := by simp [unchanged]

theorem Parameters.lawful_write (parameters : Parameters α) (name : String) (value : α) :
    (parameters.write name value).Lawful := by
  rcases parameters.write_cases name value with
    ⟨unknown, write⟩ | ⟨parameter, rfl, ⟨refused, write⟩ | ⟨allowed, write⟩⟩
  · rw [Parameter.ofName?_eq_none_iff] at unknown
    have unread : parameters.get? name = none := parameters.get?_of_unknown unknown
    have noRange (range : ParameterRange α) (member : range ∈ ranges) : range.name ≠ name :=
      fun same => unknown (same ▸ List.mem_map_of_mem member)
    rw [write]
    refine ParameterWrite.lawful_of_refusal rfl rfl (by simp [unread, eq_comm])
      (fun range given => iff_of_false (by simp) ?_)
    rintro ⟨member, same, -⟩
    exact noRange range member same
  · rw [write]
    refine ParameterWrite.lawful_of_refusal rfl rfl (by simp [get?_name]) (fun range given => ?_)
    constructor
    · rintro ⟨⟩
      exact ⟨range_mem_ranges parameter, rfl, rfl, refused⟩
    · rintro ⟨member, same, rfl, -⟩
      rw [eq_range_of_mem member same]
  · rw [write]
    refine ⟨by simp [get?_name], fun range given => iff_of_false (by simp) ?_,
      fun refused => absurd rfl refused, fun _ => by rw [get?_name, get_put_self],
      fun _ different => get?_put_of_ne _ _ different, outside_put _ allowed⟩
    rintro ⟨member, same, rfl, refused⟩
    rw [eq_range_of_mem member same] at refused
    cases allowed.symm.trans refused

/-! ### Any number of writes -/

/-- The writes of a sequence, each from the parameters that the one before left. -/
def Parameters.writeAll : Parameters α → List (String × α) → List (ParameterWrite α)
  | _, [] => []
  | parameters, (name, value) :: writes =>
      let write := parameters.write name value
      write :: writeAll write.after writes

/-- What a sequence of writes leaves. -/
def Parameters.afterAll (parameters : Parameters α) (writes : List (String × α)) : Parameters α :=
  writes.foldl (fun parameters write => (parameters.write write.1 write.2).after) parameters

theorem Parameters.lawful_writeAll (parameters : Parameters α) (writes : List (String × α)) :
    ∀ write ∈ parameters.writeAll writes, write.Lawful := by
  induction writes generalizing parameters with
  | nil => simp [writeAll]
  | cons first writes inductionHypothesis =>
      intro write member
      rcases List.mem_cons.1 member with rfl | later
      · exact parameters.lawful_write first.1 first.2
      · exact inductionHypothesis _ write later

theorem Parameters.outside_afterAll (parameters : Parameters α) (writes : List (String × α)) :
    (parameters.afterAll writes).outside.Sublist parameters.outside := by
  induction writes generalizing parameters with
  | nil => exact List.Sublist.refl _
  | cons first writes inductionHypothesis =>
      have later := inductionHypothesis (parameters.write first.1 first.2).after
      exact later.trans (parameters.lawful_write first.1 first.2).outside

/-- A write by name obeys its laws, from any parameters and behind any other writes. The names that
can be read are those of the table of ranges. Values out of range only ever become fewer, so
parameters that validate go on doing so; and what `validate` refuses is the first value, in order of
declaration, that is out of range, for being so. -/
theorem writes_keep_ranges (parameters : Parameters α) :
    (∀ name, parameters.get? name = none ↔
      name ∉ (Parameters.ranges : List (ParameterRange α)).map ParameterRange.name) ∧
    (∀ name value, (parameters.write name value).Lawful) ∧
    (∀ writes, (∀ write ∈ parameters.writeAll writes, write.Lawful) ∧
      (parameters.afterAll writes).outside.Sublist parameters.outside ∧
      (parameters.validate = .ok () → (parameters.afterAll writes).validate = .ok ())) ∧
    (∀ cause, parameters.validate = .error cause ↔
      ∃ parameter, parameters.outside.head? = some parameter ∧
        cause = .outOfRange parameter.range (parameters.get parameter)) ∧
    (parameters.validate = .ok () ↔ parameters.outside = []) := by
  refine ⟨fun name => parameters.get?_eq_none_iff, parameters.lawful_write, fun writes => ?_,
    parameters.validate_eq_error_iff, parameters.validate_eq_ok_iff_outside⟩
  have fewer := parameters.outside_afterAll writes
  refine ⟨parameters.lawful_writeAll writes, fewer, fun valid => ?_⟩
  rw [Parameters.validate_eq_ok_iff_outside] at valid ⊢
  rw [valid] at fewer
  exact List.sublist_nil.1 fewer

/-- No range holds a NaN or an infinity, so a write of one is refused and changes nothing. -/
example : ∀ parameter ∈ Parameter.all, ∀ value ∈ [(0 / 0 : Float), 1 / 0, -(1 / 0)],
    parameter.allows value = false := by
  decide +kernel

end DeltaRobot
