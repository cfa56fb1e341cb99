import DeltaRobot.Json.Value
import DeltaRobot.Proofs.Json.Grammar
import DeltaRobot.Proofs.Json.Numbers
import Mathlib.Data.List.Forall2

/-!
Contract: the trees that stand for a value.

A value that is written has one text, but a reader takes many more. The fields of a record may come
in any order, with fields between them that the record does not know, or as the array of their
values; a field with a default may be left out; a number may be spelled in any way that reads as
the number, and an alternative as an object of one member that is null. `Arranges` says all of this
at once, at every level of a value.

Owns: `Arranges`, the numbers of a value, and repeated fields.
Does not own: which types are read this way.
-/

namespace DeltaRobot.Json

namespace Value

theorem induction {motive : Value → Prop} (null : motive .null)
    (boolean : ∀ value, motive (.boolean value)) (integer : ∀ value, motive (.integer value))
    (real : ∀ value, motive (.real value)) (text : ∀ value, motive (.text value))
    (array : ∀ items, (∀ item ∈ items, motive item) → motive (.array items))
    (object : ∀ fields, (∀ field ∈ fields, motive field.2) → motive (.object fields))
    (value : Value) : motive value := by
  match value with
  | .null => exact null
  | .boolean value => exact boolean value
  | .integer value => exact integer value
  | .real value => exact real value
  | .text value => exact text value
  | .array items =>
      exact array items fun item member =>
        induction null boolean integer real text array object item
  | .object fields =>
      exact object fields fun field member =>
        induction null boolean integer real text array object field.2
termination_by sizeOf value
decreasing_by
  · have smaller := List.sizeOf_lt_of_mem member
    rw [Value.array.sizeOf_spec]
    omega
  · have smaller := List.sizeOf_lt_of_mem member
    obtain ⟨name, value⟩ := field
    rw [Prod.mk.sizeOf_spec] at smaller
    rw [Value.object.sizeOf_spec]
    change sizeOf value < _
    omega

/-! ### The numbers of a value -/

mutual

/-- The numbers in a value. -/
def numbers : Value → List Float
  | .null => []
  | .boolean _ => []
  | .integer _ => []
  | .real value => [value]
  | .text _ => []
  | .array items => itemNumbers items
  | .object fields => fieldNumbers fields

def itemNumbers : List Value → List Float
  | [] => []
  | item :: items => item.numbers ++ itemNumbers items

def fieldNumbers : List (String × Value) → List Float
  | [] => []
  | (_, value) :: fields => value.numbers ++ fieldNumbers fields

end

theorem mem_itemNumbers {items : List Value} {number : Float} :
    number ∈ itemNumbers items ↔ ∃ item ∈ items, number ∈ item.numbers := by
  induction items with
  | nil => simp [itemNumbers]
  | cons item items inductionHypothesis =>
      simp [itemNumbers, inductionHypothesis]

theorem mem_fieldNumbers {fields : List (String × Value)} {number : Float} :
    number ∈ fieldNumbers fields ↔ ∃ field ∈ fields, number ∈ field.2.numbers := by
  induction fields with
  | nil => simp [fieldNumbers]
  | cons field fields inductionHypothesis =>
      obtain ⟨name, value⟩ := field
      simp [fieldNumbers, inductionHypothesis]

/-! ### The shape of a value -/

mutual

/-- The names of the fields in a value, at every level, without what they hold. -/
def shape : Value → Value
  | .array items => .array (itemShapes items)
  | .object fields => .object (fieldShapes fields)
  | _ => .null

def itemShapes : List Value → List Value
  | [] => []
  | item :: items => item.shape :: itemShapes items

def fieldShapes : List (String × Value) → List (String × Value)
  | [] => []
  | (name, value) :: fields => (name, value.shape) :: fieldShapes fields

end

theorem itemShapes_eq_map (items : List Value) : itemShapes items = items.map shape := by
  induction items with
  | nil => rfl
  | cons item items inductionHypothesis => rw [itemShapes, inductionHypothesis, List.map_cons]

theorem fieldShapes_eq_map (fields : List (String × Value)) :
    fieldShapes fields = fields.map (Prod.map id shape) := by
  induction fields with
  | nil => rfl
  | cons field fields inductionHypothesis =>
      rw [fieldShapes, inductionHypothesis, List.map_cons]
      rfl

end Value

theorem exists_of_forall₂ {β γ : Type} {relation : β → γ → Prop} {firsts : List β}
    {seconds : List γ} (related : List.Forall₂ relation firsts seconds) :
    ∀ first ∈ firsts, ∃ second ∈ seconds, relation first second := by
  induction related with
  | nil => simp
  | cons first _ inductionHypothesis =>
      refine List.forall_mem_cons.2 ⟨⟨_, List.mem_cons_self, first⟩, fun other member => ?_⟩
      exact (inductionHypothesis other member).imp fun _ => And.imp_left (List.mem_cons_of_mem _)

/-! ### Arrangements -/

/-- The values that an object has under a name. -/
def named (members : List (Name × Tree)) (name : String) : List Tree :=
  (members.filter (fun member => TextUnit.spell? member.1 = some name)).map Prod.snd

/-- A name of the value, at some level, is given more than once where the value has one field. -/
inductive Repeats : Value → Tree → Prop
  | here {fields members ending name value} (known : (name, value) ∈ fields)
      (twice : 2 ≤ (named members name).length) :
      Repeats (.object fields) (.object members ending)
  | member {fields members ending name value tree} (known : (name, value) ∈ fields)
      (given : tree ∈ named members name) (inside : Repeats value tree) :
      Repeats (.object fields) (.object members ending)
  | field {fields trees ending name value tree}
      (given : ((name, value), tree) ∈ fields.zip trees) (inside : Repeats value tree) :
      Repeats (.object fields) (.array trees ending)
  | item {items trees ending value tree} (given : (value, tree) ∈ items.zip trees)
      (inside : Repeats value tree) : Repeats (.array items) (.array trees ending)

theorem named_cons_of_eq {units : Name} {name : String}
    (spelled : TextUnit.spell? units = some name) (tree : Tree) (members : List (Name × Tree)) :
    named ((units, tree) :: members) name = tree :: named members name := by
  simp [named, spelled]

theorem named_cons_of_ne {units : Name} {name : String} (other : TextUnit.spell? units ≠ some name)
    (tree : Tree) (members : List (Name × Tree)) :
    named ((units, tree) :: members) name = named members name := by
  simp [named, other]

/-- Every name is a text and every value is undamaged. -/
def Legible (members : List (Name × Tree)) : Prop :=
  ∀ member ∈ members, (TextUnit.spell? member.1).isSome = true ∧ member.2.Whole

theorem legible_cons {units : Name} {tree : Tree} {members : List (Name × Tree)} :
    Legible ((units, tree) :: members) ↔
      ((TextUnit.spell? units).isSome = true ∧ tree.Whole) ∧ Legible members :=
  List.forall_mem_cons

section

-- The fields that may be left out if they have these values.
variable (omissible : List (String × Value))

mutual

/-- The tree stands for the value. A text is the name of an alternative here, and an object is a
record. -/
def Arranges : Value → Tree → Prop
  | .null, tree => tree = .null
  | .boolean value, tree => tree = .boolean value
  | .integer value, tree =>
      ∃ numeral, tree = .number numeral ∧ numeral.worth? = some (.integer value)
  | .real value, tree =>
      ∃ numeral number, tree = .number numeral ∧ numeral.worth? = some number ∧
        number.toFloat = value
  | .text text, tree =>
      ∃ units, TextUnit.spell? units = some text ∧
        (tree = .text units ∨ tree = .object [(units, .null)] .closed)
  | .array items, tree => ∃ trees, tree = .array trees .closed ∧ ArrangesItems items trees
  | .object fields, tree =>
      (∃ members, tree = .object members .closed ∧ Legible members ∧
        ArrangesMembers fields members) ∨
      ∃ trees, tree = .array trees .closed ∧ ArrangesRow fields trees

def ArrangesItems : List Value → List Tree → Prop
  | [], trees => trees = []
  | item :: items, trees =>
      ∃ tree others, trees = tree :: others ∧ Arranges item tree ∧ ArrangesItems items others

/-- Every field is a member once, or it is left out. -/
def ArrangesMembers : List (String × Value) → List (Name × Tree) → Prop
  | [], _ => True
  | (name, value) :: fields, members =>
      ((∃ tree, named members name = [tree] ∧ Arranges value tree) ∨
        named members name = [] ∧ (name, value) ∈ omissible) ∧
      ArrangesMembers fields members

/-- The fields are elements in their order; the last ones may be left out. -/
def ArrangesRow : List (String × Value) → List Tree → Prop
  | [], trees => trees = []
  | (name, value) :: fields, trees =>
      (∃ tree others, trees = tree :: others ∧ Arranges value tree ∧ ArrangesRow fields others) ∨
      trees = [] ∧ (name, value) ∈ omissible ∧ ArrangesRow fields []

end

variable {omissible}

theorem arranges_array {items : List Value} {tree : Tree} :
    Arranges omissible (.array items) tree ↔
      ∃ trees, tree = .array trees .closed ∧ ArrangesItems omissible items trees := by
  rw [Arranges]

theorem arranges_object {fields : List (String × Value)} {tree : Tree} :
    Arranges omissible (.object fields) tree ↔
      (∃ members, tree = .object members .closed ∧ Legible members ∧
        ArrangesMembers omissible fields members) ∨
      ∃ trees, tree = .array trees .closed ∧ ArrangesRow omissible fields trees := by
  rw [Arranges]

theorem arrangesItems_iff {items : List Value} {trees : List Tree} :
    ArrangesItems omissible items trees ↔ List.Forall₂ (Arranges omissible) items trees := by
  induction items generalizing trees with
  | nil => rw [ArrangesItems, List.forall₂_nil_left_iff]
  | cons item items inductionHypothesis =>
      simp only [ArrangesItems, inductionHypothesis, List.forall₂_cons_left_iff]
      grind

theorem arrangesMembers_iff {fields : List (String × Value)} {members : List (Name × Tree)} :
    ArrangesMembers omissible fields members ↔ ∀ field ∈ fields,
      (∃ tree, named members field.1 = [tree] ∧ Arranges omissible field.2 tree) ∨
        named members field.1 = [] ∧ field ∈ omissible := by
  induction fields with
  | nil => simp [ArrangesMembers]
  | cons field fields inductionHypothesis =>
      rw [ArrangesMembers, inductionHypothesis, List.forall_mem_cons]

theorem arrangesRow_nil {field : String × Value} {fields : List (String × Value)} :
    ArrangesRow omissible (field :: fields) [] ↔
      field ∈ omissible ∧ ArrangesRow omissible fields [] := by
  rw [ArrangesRow]
  simp

theorem arrangesRow_cons {field : String × Value} {fields : List (String × Value)} {tree : Tree}
    {trees : List Tree} :
    ArrangesRow omissible (field :: fields) (tree :: trees) ↔
      Arranges omissible field.2 tree ∧ ArrangesRow omissible fields trees := by
  rw [ArrangesRow]
  simp

theorem exists_of_arrangesRow {fields : List (String × Value)} {trees : List Tree}
    (arranges : ArrangesRow omissible fields trees) :
    ∀ tree ∈ trees, ∃ field ∈ fields, Arranges omissible field.2 tree := by
  induction fields generalizing trees with
  | nil =>
      rw [ArrangesRow] at arranges
      simp [arranges]
  | cons field fields inductionHypothesis =>
      obtain ⟨tree, others, rfl, first, rest⟩ | ⟨rfl, -, -⟩ := arranges
      · exact List.forall_mem_cons.2 ⟨⟨field, List.mem_cons_self, first⟩, fun other member =>
          (inductionHypothesis rest other member).imp
            fun _ => And.imp_left (List.mem_cons_of_mem _)⟩
      · simp

/-- All fields in their order are an arrangement. -/
theorem arrangesRow_of_forall₂ {fields : List (String × Value)} {trees : List Tree}
    (related : List.Forall₂ (fun field tree => Arranges omissible field.2 tree) fields trees) :
    ArrangesRow omissible fields trees := by
  induction related with
  | nil => rfl
  | cons first _ inductionHypothesis => exact arrangesRow_cons.2 ⟨first, inductionHypothesis⟩

theorem named_perm {members others : List (Name × Tree)} (shuffled : others.Perm members)
    (name : String) : (named others name).Perm (named members name) :=
  (shuffled.filter _).map _

theorem named_append (members others : List (Name × Tree)) (name : String) :
    named (members ++ others) name = named members name ++ named others name := by
  simp [named]

/-- The members of a record may come in any order, and with others that it does not know. -/
theorem Arranges.shuffle {fields : List (String × Value)}
    {members foreign others : List (Name × Tree)}
    (arranges : Arranges omissible (.object fields) (.object members .closed))
    (legible : Legible foreign) (unknown : ∀ field ∈ fields, named foreign field.1 = [])
    (shuffled : others.Perm (members ++ foreign)) :
    Arranges omissible (.object fields) (.object others .closed) := by
  obtain ⟨_, ⟨⟩, legibleMembers, arranged⟩ | ⟨_, ⟨⟩, -⟩ := arranges_object.1 arranges
  refine arranges_object.2 (.inl ⟨others, rfl, fun member isMember => ?_, ?_⟩)
  · obtain inMembers | inForeign := List.mem_append.1 (shuffled.mem_iff.1 isMember)
    · exact legibleMembers member inMembers
    · exact legible member inForeign
  · rw [arrangesMembers_iff] at arranged ⊢
    intro field isField
    have same := named_perm shuffled field.1
    rw [named_append, unknown field isField, List.append_nil] at same
    obtain ⟨tree, once, arrangesField⟩ | ⟨never, omitted⟩ := arranged field isField
    · rw [once] at same
      exact .inl ⟨tree, same.eq_singleton, arrangesField⟩
    · rw [never] at same
      exact .inr ⟨same.eq_nil, omitted⟩

/-- What stands for a value is undamaged. -/
theorem Arranges.whole {value : Value} {tree : Tree} (arranges : Arranges omissible value tree) :
    tree.Whole := by
  induction value using Value.induction generalizing tree with
  | null =>
      rw [Arranges] at arranges
      simp [arranges]
  | boolean value =>
      rw [Arranges] at arranges
      simp [arranges]
  | integer value =>
      obtain ⟨numeral, rfl, -⟩ := arranges
      exact Tree.whole_number numeral
  | real value =>
      obtain ⟨numeral, number, rfl, -, -⟩ := arranges
      exact Tree.whole_number numeral
  | text value =>
      obtain ⟨units, -, rfl | rfl⟩ := arranges <;> simp
  | array items inductionHypothesis =>
      obtain ⟨trees, rfl, arranged⟩ := arranges
      refine Tree.whole_array.2 ⟨fun tree member => ?_, rfl⟩
      obtain ⟨item, isItem, arrangesItem⟩ :=
        exists_of_forall₂ (arrangesItems_iff.1 arranged).flip tree member
      exact inductionHypothesis item isItem arrangesItem
  | object fields inductionHypothesis =>
      obtain ⟨members, rfl, legible, -⟩ | ⟨trees, rfl, arranged⟩ := arranges
      · exact Tree.whole_object.2 ⟨fun member isMember => (legible member isMember).2, rfl⟩
      · refine Tree.whole_array.2 ⟨fun tree member => ?_, rfl⟩
        obtain ⟨field, isField, arrangesField⟩ := exists_of_arrangesRow arranged tree member
        exact inductionHypothesis field isField arrangesField

theorem arrangesRow_field {fields : List (String × Value)} {trees : List Tree}
    (arranges : ArrangesRow omissible fields trees) :
    ∀ field ∈ fields, (∃ tree, Arranges omissible field.2 tree) ∨ field ∈ omissible := by
  induction fields generalizing trees with
  | nil => simp
  | cons field fields inductionHypothesis =>
      obtain ⟨tree, others, -, first, rest⟩ | ⟨-, omitted, rest⟩ := arranges
      · exact List.forall_mem_cons.2 ⟨.inl ⟨tree, first⟩, inductionHypothesis rest⟩
      · exact List.forall_mem_cons.2 ⟨.inr omitted, inductionHypothesis rest⟩

/-- A value that was read has finite numbers only. -/
theorem Arranges.isFinite
    (harmless : ∀ field ∈ omissible, ∀ number ∈ field.2.numbers, number.isFinite = true)
    {value : Value} {tree : Tree} (arranges : Arranges omissible value tree) :
    ∀ number ∈ value.numbers, number.isFinite = true := by
  induction value using Value.induction generalizing tree with
  | null | boolean _ | integer _ | text _ => simp [Value.numbers]
  | real value =>
      obtain ⟨numeral, number, -, worth, rfl⟩ := arranges
      simpa [Value.numbers] using Numeral.isFinite_of_worth worth
  | array items inductionHypothesis =>
      intro number member
      obtain ⟨item, isItem, inItem⟩ := Value.mem_itemNumbers.1 member
      obtain ⟨trees, rfl, arranged⟩ := arranges
      obtain ⟨tree, -, arrangesItem⟩ :=
        exists_of_forall₂ (arrangesItems_iff.1 arranged) item isItem
      exact inductionHypothesis item isItem arrangesItem number inItem
  | object fields inductionHypothesis =>
      intro number member
      obtain ⟨field, isField, inField⟩ := Value.mem_fieldNumbers.1 member
      have source : (∃ tree, Arranges omissible field.2 tree) ∨ field ∈ omissible := by
        obtain ⟨members, rfl, -, arranged⟩ | ⟨trees, rfl, arranged⟩ := arranges
        · exact (arrangesMembers_iff.1 arranged field isField).imp
            (fun ⟨tree, _, arrangesField⟩ => ⟨tree, arrangesField⟩) And.right
        · exact arrangesRow_field arranged field isField
      obtain ⟨tree, arrangesField⟩ | omitted := source
      · exact inductionHypothesis field isField arrangesField number inField
      · exact harmless field omitted number inField

theorem arrangesRow_zip {fields : List (String × Value)} {trees : List Tree}
    (arranges : ArrangesRow omissible fields trees) :
    ∀ pair ∈ fields.zip trees, Arranges omissible pair.1.2 pair.2 := by
  induction fields generalizing trees with
  | nil => simp
  | cons field fields inductionHypothesis =>
      obtain ⟨tree, others, rfl, first, rest⟩ | ⟨rfl, -, -⟩ := arranges
      · rw [List.zip_cons_cons]
        exact List.forall_mem_cons.2 ⟨first, inductionHypothesis rest⟩
      · simp

/-- What stands for a value repeats none of its fields. -/
theorem Arranges.not_repeats {value : Value} {tree : Tree}
    (arranges : Arranges omissible value tree) : ¬ Repeats value.shape tree := by
  intro repeated
  induction value using Value.induction generalizing tree with
  | null | boolean _ | integer _ | text _ | real _ => nomatch repeated
  | array items inductionHypothesis =>
      obtain ⟨trees, rfl, arranged⟩ := arranges
      rw [Value.shape, Value.itemShapes_eq_map] at repeated
      cases repeated with
      | item given inside =>
          rw [List.zip_map_left, List.mem_map] at given
          obtain ⟨⟨item, tree⟩, isPair, same⟩ := given
          cases same
          have arrangesItem := List.forall₂_zip (arrangesItems_iff.1 arranged) isPair
          exact inductionHypothesis item (List.of_mem_zip isPair).1 arrangesItem inside
  | object fields inductionHypothesis =>
      rw [Value.shape, Value.fieldShapes_eq_map] at repeated
      obtain ⟨members, rfl, -, arranged⟩ | ⟨trees, rfl, arranged⟩ := arranges
      · rw [arrangesMembers_iff] at arranged
        cases repeated with
        | here known twice =>
            obtain ⟨field, isField, same⟩ := List.mem_map.1 known
            cases same
            obtain ⟨tree, once, -⟩ | ⟨never, -⟩ := arranged field isField
            · rw [id, once, List.length_singleton] at twice
              omega
            · rw [id, never, List.length_nil] at twice
              omega
        | member known given inside =>
            obtain ⟨field, isField, same⟩ := List.mem_map.1 known
            cases same
            obtain ⟨tree, once, arrangesField⟩ | ⟨never, -⟩ := arranged field isField
            · rw [id, once, List.mem_singleton] at given
              rw [given] at inside
              exact inductionHypothesis field isField arrangesField inside
            · rw [id, never] at given
              cases given
      · cases repeated with
        | field given inside =>
            rw [List.zip_map_left, List.mem_map] at given
            obtain ⟨⟨field, tree⟩, isPair, same⟩ := given
            cases same
            exact inductionHypothesis field (List.of_mem_zip isPair).1
              (arrangesRow_zip arranged _ isPair) inside

/-- Whether a field is repeated depends on the names only. -/
theorem Repeats.shape {value : Value} {tree : Tree} (repeated : Repeats value tree) :
    Repeats value.shape tree := by
  induction repeated with
  | here known twice =>
      rw [Value.shape, Value.fieldShapes_eq_map]
      exact .here (List.mem_map_of_mem known) twice
  | member known given inside inductionHypothesis =>
      rw [Value.shape, Value.fieldShapes_eq_map]
      exact .member (List.mem_map_of_mem known) given inductionHypothesis
  | field given inside inductionHypothesis =>
      rw [Value.shape, Value.fieldShapes_eq_map]
      have pair := List.mem_map_of_mem (f := Prod.map (Prod.map id Value.shape) id) given
      rw [← List.zip_map_left] at pair
      exact .field pair inductionHypothesis
  | item given inside inductionHypothesis =>
      rw [Value.shape, Value.itemShapes_eq_map]
      have pair := List.mem_map_of_mem (f := Prod.map Value.shape id) given
      rw [← List.zip_map_left] at pair
      exact .item pair inductionHypothesis

end

end DeltaRobot.Json
