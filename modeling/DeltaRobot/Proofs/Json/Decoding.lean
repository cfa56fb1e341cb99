import DeltaRobot.Json.Decode
import DeltaRobot.Proofs.Json.Arrangement
import DeltaRobot.Proofs.Json.Texts

/-!
Contract: decoders that understand exactly the arrangements of what is written.

A decoder that succeeds has looked at every part of its tree, so a text is decoded exactly if it is
read as a tree that is. What the tree must look like is said by the encoder: it is an arrangement
of the encoded value. That holds for numbers, truth values, alternatives and rows of numbers, and
it holds for a record if it holds for every field of it.

Owns: `Understands` for scalars, choices and rows; texts and trees.
Does not own: records.
-/

namespace DeltaRobot.Json

/-! ### Texts -/

/-- A decoder succeeds on undamaged trees only. -/
def Thorough {β : Type} (decode : Decoder β) : Prop :=
  ∀ tree value, decode tree = .ok value → tree.Whole

/-- A text is decoded exactly if it is read as a tree that is. -/
theorem decodeText_eq_ok_iff {β : Type} {decode : Decoder β} (thorough : Thorough decode)
    {text : String} {value : β} :
    decodeText decode text = .ok value ↔ ∃ tree, Reads text tree ∧ decode tree = .ok value := by
  simp only [decodeText]
  constructor
  · intro decoded
    split at decoded
    · cases decoded
    · rename_i found isRoot
      split_ifs at decoded with nothing
      cases decoded
      refine ⟨_, ⟨thorough _ _ isRoot, ?_⟩, isRoot⟩
      rw [← List.isEmpty_iff.1 nothing]
  · rintro ⟨tree, reads, decoded⟩
    rw [reads.read]
    simp [decoded]

/-- What a reader asks of the end of a list is that it is closed. -/
theorem expectClosed_eq_ok_iff {left : List Tree} {ending : Ending} {done : Unit} :
    Decoder.expectClosed left ending = .ok done ↔ left = [] ∧ ending = .closed := by
  rw [Decoder.expectClosed]
  split_ifs with nothing
  · rw [List.isEmpty_iff.1 nothing, and_iff_right rfl]
    cases error : ending.error? Fault.asReadText with
    | none => exact iff_of_true rfl (Ending.error?_eq_none_iff.1 error)
    | some cause =>
        refine iff_of_false nofun fun closed => ?_
        rw [Ending.error?_eq_none_iff.2 closed] at error
        cases error
  · exact iff_of_false nofun fun both => nothing (List.isEmpty_iff.2 both.1)

theorem items_eq_ok_iff {β : Type} {decode : Decoder β} {trees : List Tree} {values : List β} :
    Decoder.items decode trees = .ok values ↔
      List.Forall₂ (fun tree value => decode tree = .ok value) trees values := by
  induction trees generalizing values with
  | nil => simp [Decoder.items, eq_comm]
  | cons tree trees inductionHypothesis =>
      simp only [Decoder.items, bind_eq_ok_iff, inductionHypothesis, List.forall₂_cons_left_iff,
        pure, Except.pure, Except.ok.injEq]
      grind

theorem list_eq_ok_iff {β : Type} {decode : Decoder β} {tree : Tree} {values : List β} :
    Decoder.list decode tree = .ok values ↔ ∃ trees, tree = .array trees .closed ∧
      List.Forall₂ (fun tree value => decode tree = .ok value) trees values := by
  cases tree with
  | array trees ending =>
      simp only [Decoder.list, bind_eq_ok_iff, items_eq_ok_iff, expectClosed_eq_ok_iff, pure,
        Except.pure, Except.ok.injEq, Tree.array.injEq]
      grind
  | _ => simp [Decoder.list]

theorem Thorough.list {β : Type} {decode : Decoder β} (thorough : Thorough decode) :
    Thorough (Decoder.list decode) := by
  intro tree values decoded
  obtain ⟨trees, rfl, related⟩ := list_eq_ok_iff.1 decoded
  refine Tree.whole_array.2 ⟨fun tree member => ?_, rfl⟩
  obtain ⟨value, -, isValue⟩ := exists_of_forall₂ related tree member
  exact thorough tree value isValue

/-- What is read piece by piece and then decoded is decoded piece by piece. -/
theorem forall₂_comp {β γ δ : Type} {first : β → γ → Prop} {second : γ → δ → Prop}
    {befores : List β} {afters : List δ} :
    (∃ betweens, List.Forall₂ first befores betweens ∧ List.Forall₂ second betweens afters) ↔
      List.Forall₂ (fun before after => ∃ between, first before between ∧ second between after)
        befores afters := by
  constructor
  · rintro ⟨betweens, firsts, seconds⟩
    induction firsts generalizing afters with
    | nil =>
        cases seconds
        exact .nil
    | cons isFirst _ inductionHypothesis =>
        cases seconds with
        | cons isSecond others => exact .cons ⟨_, isFirst, isSecond⟩ (inductionHypothesis others)
  · intro both
    induction both with
    | nil => exact ⟨[], .nil, .nil⟩
    | cons related _ inductionHypothesis =>
        obtain ⟨between, isFirst, isSecond⟩ := related
        obtain ⟨betweens, firsts, seconds⟩ := inductionHypothesis
        exact ⟨between :: betweens, .cons isFirst firsts, .cons isSecond seconds⟩

/-- A text is decoded as a list exactly if it is a row of texts in brackets that are decoded as the
elements. -/
theorem decodeText_list_iff {β : Type} {decode : Decoder β} (thorough : Thorough decode)
    {text : String} {values : List β} :
    decodeText (Decoder.list decode) text = .ok values ↔
      ∃ pieces, Bracketed '[' ']' text pieces ∧
        List.Forall₂ (fun piece value => decodeText decode piece = .ok value) pieces values := by
  simp only [decodeText_eq_ok_iff thorough, decodeText_eq_ok_iff thorough.list, list_eq_ok_iff,
    ← forall₂_comp]
  constructor
  · rintro ⟨_, reads, trees, rfl, decoded⟩
    obtain ⟨pieces, bracketed, related⟩ := reads_array_iff.1 reads
    exact ⟨pieces, bracketed, trees, related, decoded⟩
  · rintro ⟨pieces, bracketed, trees, related, decoded⟩
    exact ⟨_, reads_array_iff.2 ⟨pieces, bracketed, related⟩, trees, rfl, decoded⟩

/-! ### Understanding -/

/-- The decoder takes the arrangements of an encoded value for the value, and nothing else. -/
def Understands {β : Type} (omissible : List (String × Value)) (decode : Decoder β)
    (encode : β → Value) : Prop :=
  ∀ tree value, decode tree = .ok value ↔ Arranges omissible (encode value) tree

section

variable {omissible : List (String × Value)}

theorem Understands.thorough {β : Type} {decode : Decoder β} {encode : β → Value}
    (understands : Understands omissible decode encode) : Thorough decode :=
  fun tree value decoded => ((understands tree value).1 decoded).whole

theorem understands_real : Understands omissible Decoder.real Value.real := by
  intro tree value
  rw [Arranges]
  cases tree with
  | number numeral =>
      cases worth : numeral.worth? with
      | none => simp [Decoder.real, worth]
      | some number => simp [Decoder.real, worth]
  | _ => simp [Decoder.real]

theorem understands_boolean : Understands omissible Decoder.boolean Value.boolean := by
  intro tree value
  rw [Arranges]
  cases tree <;> simp [Decoder.boolean]

/-! ### Alternatives -/

theorem variant_eq_ok_iff {β : Type} {all : List β} {name : β → String}
    (complete : ∀ value, value ∈ all) (injective : Function.Injective name) {text : String}
    {value : β} : Decoder.variant all name text = .ok value ↔ text = name value := by
  rw [Decoder.variant]
  cases found : all.find? (fun value => name value = text) with
  | none =>
      have unknown := List.find?_eq_none.1 found value (complete value)
      refine iff_of_false nofun fun same => unknown ?_
      simp [same]
  | some other =>
      have isName : name other = text := by simpa using List.find?_some found
      rw [← isName, Except.ok.injEq, injective.eq_iff]

theorem variantName_eq_ok_iff {units : List TextUnit} {text : String} :
    Decoder.variantName units = .ok text ↔ TextUnit.spell? units = some text := by
  rw [Decoder.variantName]
  cases TextUnit.spell? units <;> simp

theorem null_eq_ok_iff {tree : Tree} {done : Unit} :
    Decoder.null tree = .ok done ↔ tree = .null := by
  cases tree <;> simp [Decoder.null]

theorem understands_choice {β : Type} {all : List β} {name : β → String}
    (complete : ∀ value, value ∈ all) (injective : Function.Injective name) :
    Understands omissible (Decoder.choice all name) (fun value => .text (name value)) := by
  intro tree value
  rw [Arranges]
  cases tree with
  | text units =>
      simp only [Decoder.choice, bind_eq_ok_iff, variantName_eq_ok_iff,
        variant_eq_ok_iff complete injective, exists_eq_right, Tree.text.injEq, reduceCtorEq,
        or_false, exists_eq_right']
  | object members ending =>
      cases members with
      | nil => simp [Decoder.choice]
      | cons member members =>
          obtain ⟨units, tree⟩ := member
          simp only [Decoder.choice, bind_eq_ok_iff, variantName_eq_ok_iff,
            variant_eq_ok_iff complete injective, null_eq_ok_iff]
          constructor
          · rintro ⟨text, spelled, other, rfl, done, rfl, closed⟩
            split at closed
            · cases closed
              exact ⟨units, spelled, .inr rfl⟩
            · cases closed
            · cases closed
          · rintro ⟨other, spelled, same⟩
            obtain isText | isObject := same
            · cases isText
            · cases isObject
              exact ⟨_, spelled, value, rfl, (), rfl, rfl⟩
  | _ => simp [Decoder.choice]

/-! ### Rows of numbers -/

/-- Three numbers in a row. -/
def Coordinates (tree : Tree) (point : Float × Float × Float) : Prop :=
  ∃ first second third, tree = .array [first, second, third] .closed ∧
    Decoder.real first = .ok point.1 ∧ Decoder.real second = .ok point.2.1 ∧
    Decoder.real third = .ok point.2.2

theorem triple_eq_ok_iff {tree : Tree} {point : Float × Float × Float} :
    Decoder.triple tree = .ok point ↔ Coordinates tree point := by
  unfold Coordinates
  cases tree with
  | array trees ending =>
      match trees with
      | [] | [_] | [_, _] => simp [Decoder.triple, bind_eq_ok_iff]
      | first :: second :: third :: left =>
          simp only [Decoder.triple, bind_eq_ok_iff, expectClosed_eq_ok_iff, pure, Except.pure,
            Except.ok.injEq, Tree.array.injEq, List.cons.injEq]
          grind
  | _ => simp [Decoder.triple]

theorem coordinates_eq_ok_iff {tree : Tree} {point : Float × Float × Float} :
    Decoder.coordinates tree = .ok point ↔ Coordinates tree point := by
  unfold Coordinates
  cases tree with
  | array trees ending =>
      match trees with
      | [] | [_] | [_, _] => simp [Decoder.coordinates, bind_eq_ok_iff]
      | [first, second, third] =>
          simp only [Decoder.coordinates, bind_eq_ok_iff, expectClosed_eq_ok_iff, pure, Except.pure,
            Except.ok.injEq, Tree.array.injEq, List.cons.injEq]
          grind
      | first :: second :: third :: fourth :: left =>
          simp [Decoder.coordinates, bind_eq_ok_iff]
  | _ => simp [Decoder.coordinates]

theorem arranges_row {x y z : Float} {tree : Tree} :
    Arranges omissible (.array [.real x, .real y, .real z]) tree ↔ Coordinates tree (x, y, z) := by
  have number (tree : Tree) (value : Float) := @understands_real omissible tree value
  simp only [Coordinates, arranges_array, ArrangesItems, number]
  constructor
  · rintro ⟨trees, rfl, first, others, rfl, isFirst, second, others, rfl, isSecond, third, others,
      rfl, isThird, rfl⟩
    exact ⟨first, second, third, rfl, isFirst, isSecond, isThird⟩
  · rintro ⟨first, second, third, rfl, isFirst, isSecond, isThird⟩
    exact ⟨_, rfl, first, _, rfl, isFirst, second, _, rfl, isSecond, third, _, rfl, isThird, rfl⟩

end

end DeltaRobot.Json
