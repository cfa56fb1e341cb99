import DeltaRobot.Machine.Build
import DeltaRobot.Proofs.Parameters.Access
import DeltaRobot.Proofs.Parameters.Foreign

/-!
Contract: which values a machine is built from.

A value holds parameters if it has a number for each of them: a table under the parameter's name, an
array in the order of declaration and nothing else. Reading succeeds exactly on the values that hold
parameters, and what it reads is what they hold, so a value that cannot be read is told from one out
of range by its shape alone. The kind of machine is looked at before the value, and the shape of the
value before its ranges.

Owns: what a value holds, and the outcome of `Machine.build` for every kind and every value.
Does not own: which values a configuration file has.
-/

namespace DeltaRobot

/-- The value has a number for every parameter. Names differ in a table that was loaded; where one
comes up again, the first entry counts and the others must be numbers all the same. -/
def Toml.Value.Holds (parameters : Parameters Float) : Toml.Value → Prop
  | .table entries => ∀ parameter : Parameter,
      (∃ value, lookup? parameter.name entries = some value ∧
        value.number? = some (parameters.get parameter)) ∧
      ∀ entry ∈ entries, entry.1 = parameter.name → entry.2.number?.isSome
  | .array items => items.map number? = (Parameter.all.map parameters.get).map some
  | _ => False

namespace Parameters

variable {parameters : Parameters Float}

theorem Partial.complete_eq_ok_iff {partly : Partial Float} :
    partly.complete = .ok parameters ↔
      ∀ parameter, Parameters.get partly parameter = some (parameters.get parameter) :=
  ⟨Partial.get_of_complete, Partial.complete_of_get⟩

theorem readNumber_eq_ok_iff {key : Option String} {value : Toml.Value} {number : Float} :
    readNumber key value = .ok number ↔ value.number? = some number := by
  rw [readNumber]
  cases value.number? <;> simp

/-! ### Tables -/

theorem misplaced?_eq_none_iff {entries : List (String × Toml.Value)} :
    misplaced? entries = none ↔
      ∀ parameter : Parameter, ∀ entry ∈ entries, entry.1 = parameter.name →
        entry.2.number?.isSome := by
  rw [misplaced?, List.findSome?_eq_none_iff]
  constructor
  · intro placed parameter entry member named
    have isPlaced := placed entry member
    rw [Parameter.ofName?_eq_some_iff.2 named.symm, readNumber] at isPlaced
    cases isNumber : entry.2.number? with
    | none => simp [isNumber] at isPlaced
    | some number => rfl
  · intro numbers entry member
    cases named : Parameter.ofName? entry.1 with
    | none => rfl
    | some parameter =>
        have isNumber := numbers parameter entry member (Parameter.name_of_ofName? named).symm
        obtain ⟨number, isNumber⟩ := Option.isSome_iff_exists.1 isNumber
        simp [readNumber, isNumber]

theorem ofEntries_eq_ok_iff {entries : List (String × Toml.Value)} :
    ofEntries entries = .ok parameters ↔ (Toml.Value.table entries).Holds parameters := by
  have given : (Partial.complete (ofFunction (fun parameter : Parameter =>
        (Toml.Value.lookup? parameter.name entries).bind Toml.Value.number?)) = .ok parameters) ↔
      ∀ parameter : Parameter, ∃ value, Toml.Value.lookup? parameter.name entries = some value ∧
        value.number? = some (parameters.get parameter) := by
    simp only [Partial.complete_eq_ok_iff, get_ofFunction, Option.bind_eq_some_iff]
  rw [Toml.Value.Holds, forall_and, ← given, ← misplaced?_eq_none_iff, ofEntries]
  cases misplaced? entries with
  | some cause => simp
  | none =>
      dsimp only
      cases Partial.complete (ofFunction (fun parameter : Parameter =>
        (Toml.Value.lookup? parameter.name entries).bind Toml.Value.number?)) <;> simp

/-! ### Arrays -/

theorem map_number?_of_mapM {key : Option String} {items : List Toml.Value}
    {numbers : List Float} (read : items.mapM (readNumber key) = .ok numbers) :
    items.map Toml.Value.number? = numbers.map some := by
  induction items generalizing numbers with
  | nil =>
      cases read
      rfl
  | cons item items inductionHypothesis =>
      rw [List.mapM_cons] at read
      cases first : readNumber key item with
      | error cause =>
          rw [first] at read
          cases read
      | ok number =>
          cases others : items.mapM (readNumber key) with
          | error cause =>
              rw [first, others] at read
              cases read
          | ok rest =>
              rw [first, others] at read
              cases read
              rw [List.map_cons, List.map_cons, readNumber_eq_ok_iff.1 first,
                inductionHypothesis others]

/-- Seven items are looked at, and none may be left over. -/
theorem ofItems_eq_ok_iff {items : List Toml.Value} :
    ofItems items = .ok parameters ↔ (Toml.Value.array items).Holds parameters := by
  refine ⟨fun read => ?_, ofItems_eq_ok⟩
  unfold ofItems at read
  split at read
  · cases read
  · rename_i numbers
    split at read
    · rename_i length
      cases read
      rw [← length, List.take_length] at numbers
      exact map_number?_of_mapM numbers
    · cases read
  · cases read

/-! ### Values -/

theorem read_eq_ok_iff {value : Toml.Value} :
    read value = .ok parameters ↔ value.Holds parameters := by
  cases value with
  | table entries => exact ofEntries_eq_ok_iff
  | array items => exact ofItems_eq_ok_iff
  | _ => exact iff_of_false (by simp [read]) id

end Parameters

namespace Machine

/-- The machine of parameters that nothing has been done with. -/
def fresh (parameters : Parameters Float) : Machine Float :=
  { parameters, pose := .initial, zOffset := none }

theorem ofParameters_eq (parameters : Parameters Float) :
    ofParameters parameters = parameters.validate.map (fun _ => fresh parameters) := by
  rw [ofParameters]
  cases parameters.validate <;> rfl

/-- A value is read first, and what is read is validated next. -/
theorem ofValue_eq (value : Toml.Value) :
    ofValue value =
      match Parameters.read value with
      | .error cause => .error (.unreadable cause)
      | .ok parameters =>
          match parameters.validate with
          | .error cause => .error (.refused cause)
          | .ok () => .ok (fresh parameters) := by
  rw [ofValue, Parameters.ofValue]
  cases Parameters.read value with
  | error cause => rfl
  | ok parameters =>
      dsimp only
      cases valid : parameters.validate with
      | error cause => rfl
      | ok done =>
          dsimp only
          rw [ofParameters_eq, valid]
          rfl

end Machine

/-- A machine is built if and only if its kind is known and the value holds parameters that all lie
within their ranges, and it is then the machine of these parameters at its initial pose. Otherwise
the first thing that is wrong decides: the kind, whatever the value; then a value that holds no
parameters, whatever the numbers in it; then the first parameter, in order of declaration, that is
out of range. -/
theorem build_accepts_valid_parameters (kind : String) (value : Toml.Value) :
    (∀ machine, Machine.build kind value = .ok machine ↔
      kind ∈ Machine.kinds ∧ ∃ parameters, value.Holds parameters ∧
        (∀ parameter : Parameter, Scalar.inRange (parameters.get parameter)
          parameter.low parameter.high = true) ∧
        machine = { parameters, pose := .initial, zOffset := none }) ∧
    (∀ unknown, Machine.build kind value = .error (.unknownKind unknown) ↔
      unknown = kind ∧ kind ∉ Machine.kinds) ∧
    ((∃ cause, Machine.build kind value = .error (.invalidParameters (.unreadable cause))) ↔
      kind ∈ Machine.kinds ∧ ¬ ∃ parameters, value.Holds parameters) ∧
    (∀ cause, Machine.build kind value = .error (.invalidParameters (.refused cause)) ↔
      kind ∈ Machine.kinds ∧ ∃ parameters, value.Holds parameters ∧
        ∃ parameter, parameters.outside.head? = some parameter ∧
          cause = .outOfRange parameter.range (parameters.get parameter)) := by
  have refused (parameters : Parameters Float) (parameter : Parameter) :
      Scalar.inRange (parameters.get parameter) parameter.low parameter.high =
        parameter.allows (parameters.get parameter) := rfl
  simp only [refused, ← Parameters.validate_eq_ok_iff, ← Parameters.validate_eq_error_iff,
    ← Parameters.read_eq_ok_iff]
  by_cases known : kind ∈ Machine.kinds
  · rw [Machine.build, if_pos known, Machine.ofValue_eq]
    cases Parameters.read value with
    | error cause => simp [known]
    | ok parameters =>
        dsimp only
        cases valid : parameters.validate with
        | error cause => simp [known, valid, eq_comm]
        | ok done => simp [known, valid, Machine.fresh, eq_comm]
  · rw [Machine.build, if_neg known]
    simp only [known, false_and, iff_false, not_false_eq_true, and_true]
    refine ⟨fun machine => by simp, fun unknown => ?_, by simp, fun cause => by simp⟩
    rw [Except.error.injEq, BuildError.unknownKind.injEq, eq_comm]

end DeltaRobot
