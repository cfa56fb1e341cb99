import DeltaRobot.Proofs.Json.Decoding

/-!
Contract: decoders of records understand the arrangements of what is written.

A record is laid out in slots, one for each field, and a slot knows how its field is read, written
and kept while the record is being filled. Reading a member fills the slot of its name and leaves
the others alone. So whatever the order of the members and whatever stands between them, the record
is complete exactly if every slot was filled once, or has a default, and what fills the slots is
the record.

Owns: `Slot`, `Layout`, and the two forms of a record.
Does not own: any particular record.
-/

namespace DeltaRobot.Json

open Decoder (Record)

variable {π ρ : Type}

/-- One field of a record, as its reader and its writer see it. -/
structure Slot (π ρ : Type) where
  Content : Type
  name : String
  decode : Decoder Content
  encode : Content → Value
  get : π → Option Content
  put : Content → π → π
  /-- The field of a complete record. -/
  of : ρ → Content
  /-- What the field is if it is left out. -/
  default? : Option Content

namespace Slot

def field (slot : Slot π ρ) : Decoder.Field π :=
  .ofDecoder slot.name slot.decode slot.get slot.put slot.default?.isSome

/-- The field as it is written. -/
def entry (slot : Slot π ρ) (value : ρ) : String × Value :=
  (slot.name, slot.encode (slot.of value))

/-- With these trees left to be read, a slot that holds the given content ends up with the field of
the value. -/
def Fits (slot : Slot π ρ) (value : ρ) : Option slot.Content → List Tree → Prop
  | some content, trees => content = slot.of value ∧ trees = []
  | none, trees =>
      (∃ tree, trees = [tree] ∧ slot.decode tree = .ok (slot.of value)) ∨
        trees = [] ∧ slot.default? = some (slot.of value)

theorem fits_nil {slot : Slot π ρ} {value : ρ} {content : Option slot.Content} :
    slot.Fits value content [] ↔ content.or slot.default? = some (slot.of value) := by
  cases content with
  | none => simp [Fits]
  | some content => simp [Fits]

/-- Reading a tree fills an empty slot. -/
theorem fits_cons {slot : Slot π ρ} {value : ρ} {tree : Tree} {content : slot.Content}
    (read : slot.decode tree = .ok content) {trees : List Tree} :
    slot.Fits value none (tree :: trees) ↔ slot.Fits value (some content) trees := by
  simp only [Fits, List.cons.injEq]
  grind

/-- A tree that is left for a slot is read, and the slot is empty until then. -/
theorem Fits.empty {slot : Slot π ρ} {value : ρ} {content : Option slot.Content} {tree : Tree}
    {trees : List Tree} (fits : slot.Fits value content (tree :: trees)) :
    content = none ∧ ∃ content, slot.decode tree = .ok content := by
  cases content with
  | some content => cases fits.2
  | none =>
      obtain ⟨_, ⟨⟩, read⟩ | ⟨⟨⟩, -⟩ := fits
      exact ⟨rfl, _, read⟩

end Slot

/-- The slots of a record are its fields, for its reader and its writer. -/
structure Layout (omissible : List (String × Value)) (record : Record π ρ) (encode : ρ → Value)
    (slots : List (Slot π ρ)) : Prop where
  fields : record.fields = slots.map Slot.field
  encode_eq : ∀ value, encode value = .object (slots.map (fun slot => slot.entry value))
  names : (slots.map Slot.name).Nodup
  get_put : ∀ slot ∈ slots, ∀ content partly, slot.get (slot.put content partly) = some content
  get_put_of_ne : ∀ slot ∈ slots, ∀ other ∈ slots, slot.name ≠ other.name →
    ∀ content partly, other.get (slot.put content partly) = other.get partly
  get_empty : ∀ slot ∈ slots, slot.get record.empty = none
  finish : ∀ partly value, record.finish partly = .ok value ↔
    ∀ slot ∈ slots, (slot.get partly).or slot.default? = some (slot.of value)
  understands : ∀ slot ∈ slots, Understands omissible slot.decode slot.encode
  omits : ∀ slot ∈ slots, ∀ content,
    slot.default? = some content ↔ (slot.name, slot.encode content) ∈ omissible

namespace Layout

variable {omissible : List (String × Value)} {record : Record π ρ} {encode : ρ → Value}
  {slots : List (Slot π ρ)}

theorem find?_eq (layout : Layout omissible record encode slots) (name : String) :
    record.fields.find? (fun field => field.name = name) =
      (slots.find? (fun slot => slot.name = name)).map Slot.field := by
  rw [layout.fields, List.find?_map]
  rfl

theorem eq_of_name_eq (layout : Layout omissible record encode slots) {slot other : Slot π ρ}
    (isSlot : slot ∈ slots) (isOther : other ∈ slots) (same : slot.name = other.name) :
    slot = other :=
  List.inj_on_of_nodup_map layout.names isSlot isOther same

/-! ### Members -/

theorem readMembers_unknown (layout : Layout omissible record encode slots) {units : Name}
    {name : String} (spelled : TextUnit.spell? units = some name)
    (unknown : ∀ slot ∈ slots, slot.name ≠ name) {tree : Tree} {members : List (Name × Tree)}
    {partly after : π} :
    record.readMembers ((units, tree) :: members) partly = .ok after ↔
      tree.Whole ∧ record.readMembers members partly = .ok after := by
  have missing : slots.find? (fun slot => slot.name = name) = none :=
    List.find?_eq_none.2 (by simpa using unknown)
  rw [Record.readMembers, spelled, Tree.Whole]
  simp only [layout.find?_eq, missing, Option.map_none]
  cases Decoder.skip? tree <;> simp

theorem readMembers_known (layout : Layout omissible record encode slots) {slot : Slot π ρ}
    (isSlot : slot ∈ slots) {units : Name} (spelled : TextUnit.spell? units = some slot.name)
    {tree : Tree} {members : List (Name × Tree)} {partly after : π} :
    record.readMembers ((units, tree) :: members) partly = .ok after ↔
      slot.get partly = none ∧ ∃ content, slot.decode tree = .ok content ∧
        record.readMembers members (slot.put content partly) = .ok after := by
  have found : slots.find? (fun other => other.name = slot.name) = some slot := by
    cases first : slots.find? (fun other => other.name = slot.name) with
    | none => simpa using List.find?_eq_none.1 first slot isSlot
    | some other =>
        have same : other.name = slot.name := by simpa using List.find?_some first
        rw [layout.eq_of_name_eq (List.mem_of_find?_eq_some first) isSlot same]
  rw [Record.readMembers, spelled]
  simp only [layout.find?_eq, found, Option.map_some, Slot.field, Decoder.Field.ofDecoder]
  cases slot.get partly with
  | some content => simp
  | none =>
      cases slot.decode tree with
      | error cause => simp [Except.map]
      | ok content => simp [Except.map]

/-- A member fills its slot and leaves the others as they are. -/
theorem fits_member (layout : Layout omissible record encode slots) {slot : Slot π ρ}
    (isSlot : slot ∈ slots) {units : Name} (spelled : TextUnit.spell? units = some slot.name)
    {tree : Tree} {members : List (Name × Tree)} {partly : π} {value : ρ}
    (empty : slot.get partly = none) {content : slot.Content}
    (read : slot.decode tree = .ok content) :
    ∀ other ∈ slots,
      (other.Fits value (other.get partly) (named ((units, tree) :: members) other.name) ↔
        other.Fits value (other.get (slot.put content partly)) (named members other.name)) := by
  intro other isOther
  by_cases same : slot.name = other.name
  · cases layout.eq_of_name_eq isSlot isOther same
    rw [named_cons_of_eq spelled, empty, layout.get_put slot isSlot, Slot.fits_cons read]
  · rw [named_cons_of_ne (by rwa [spelled, Ne, Option.some.injEq]),
      layout.get_put_of_ne slot isSlot other isOther same]

/-- Members make up a record exactly if they are legible and fit every slot. -/
theorem readMembers_iff (layout : Layout omissible record encode slots) {value : ρ}
    (members : List (Name × Tree)) (partly : π) :
    (∃ after, record.readMembers members partly = .ok after ∧ record.finish after = .ok value) ↔
      Legible members ∧ ∀ slot ∈ slots, slot.Fits value (slot.get partly)
        (named members slot.name) := by
  induction members generalizing partly with
  | nil => simp [Record.readMembers, layout.finish, Legible, named, Slot.fits_nil]
  | cons member members inductionHypothesis =>
      obtain ⟨units, tree⟩ := member
      rw [legible_cons]
      cases spelled : TextUnit.spell? units with
      | none => simp [Record.readMembers, spelled]
      | some name =>
          by_cases known : ∃ slot ∈ slots, slot.name = name
          · obtain ⟨slot, isSlot, rfl⟩ := known
            simp only [layout.readMembers_known isSlot spelled]
            constructor
            · rintro ⟨after, ⟨empty, content, read, rest⟩, finished⟩
              obtain ⟨legible, fits⟩ := (inductionHypothesis _).1 ⟨after, rest, finished⟩
              have whole := (layout.understands slot isSlot).thorough tree content read
              exact ⟨⟨⟨rfl, whole⟩, legible⟩, fun other isOther =>
                (layout.fits_member isSlot spelled empty read other isOther).2
                  (fits other isOther)⟩
            · rintro ⟨⟨-, legible⟩, fits⟩
              have here := fits slot isSlot
              rw [named_cons_of_eq spelled] at here
              obtain ⟨empty, content, read⟩ := here.empty
              obtain ⟨after, rest, finished⟩ := (inductionHypothesis _).2 ⟨legible,
                fun other isOther => (layout.fits_member isSlot spelled empty read other isOther).1
                  (fits other isOther)⟩
              exact ⟨after, ⟨empty, content, read, rest⟩, finished⟩
          · have unknown : ∀ slot ∈ slots, slot.name ≠ name := by simpa using known
            have unchanged : ∀ slot ∈ slots,
                named ((units, tree) :: members) slot.name = named members slot.name := by
              intro slot isSlot
              refine named_cons_of_ne ?_ tree members
              rw [spelled, Ne, Option.some.injEq]
              exact (unknown slot isSlot).symm
            simp only [layout.readMembers_unknown spelled unknown, and_assoc, exists_and_left,
              inductionHypothesis, Option.isSome_some, true_and]
            refine and_congr_right fun _ => and_congr_right fun _ => ?_
            exact forall₂_congr fun slot isSlot => by rw [unchanged slot isSlot]

/-! ### Rows -/

/-- The slots that are not left to be read hold the fields of the value, or default to them. -/
def Done (slots left : List (Slot π ρ)) (value : ρ) (partly : π) : Prop :=
  ∀ slot ∈ slots, slot.name ∉ left.map Slot.name →
    (slot.get partly).or slot.default? = some (slot.of value)

theorem done_iff (layout : Layout omissible record encode slots) {slot : Slot π ρ}
    (isSlot : slot ∈ slots) {left : List (Slot π ρ)} (fresh : slot.name ∉ left.map Slot.name)
    {value : ρ} {partly : π} :
    Done slots left value partly ↔
      (slot.get partly).or slot.default? = some (slot.of value) ∧
        Done slots (slot :: left) value partly := by
  constructor
  · intro done
    exact ⟨done slot isSlot fresh, fun other isOther outside =>
      done other isOther fun inside => outside (List.mem_cons_of_mem _ inside)⟩
  · rintro ⟨here, done⟩ other isOther outside
    by_cases same : other.name = slot.name
    · rw [layout.eq_of_name_eq isOther isSlot same]
      exact here
    · exact done other isOther (by simpa [same] using outside)

theorem done_put (layout : Layout omissible record encode slots) {slot : Slot π ρ}
    (isSlot : slot ∈ slots) {left : List (Slot π ρ)} {value : ρ} {partly : π}
    (content : slot.Content) :
    Done slots (slot :: left) value (slot.put content partly) ↔
      Done slots (slot :: left) value partly := by
  refine forall₂_congr fun other isOther => forall_congr' fun outside => ?_
  have different : slot.name ≠ other.name := by
    rintro same
    exact outside (by simp [same])
  rw [layout.get_put_of_ne slot isSlot other isOther different]

theorem readItems_nil {slot : Slot π ρ} {ending : Ending} {index : Nat}
    {fields : List (Decoder.Field π)} {partly after : π} :
    record.readItems ending index (slot.field :: fields) [] partly = .ok after ↔
      ending = .closed ∧ slot.default?.isSome = true ∧
        record.readItems ending (index + 1) fields [] partly = .ok after := by
  rw [Record.readItems]
  cases damage : ending.error? Fault.asReadText with
  | some cause =>
      refine iff_of_false nofun fun ⟨closed, _⟩ => ?_
      rw [Ending.error?_eq_none_iff.2 closed] at damage
      cases damage
  | none =>
      rw [and_iff_right (Ending.error?_eq_none_iff.1 damage)]
      simp only [Slot.field, Decoder.Field.ofDecoder]
      by_cases optional : slot.default?.isSome = true
      · simp [optional]
      · simp [optional]

theorem readItems_cons {slot : Slot π ρ} {ending : Ending} {index : Nat}
    {fields : List (Decoder.Field π)} {tree : Tree} {trees : List Tree} {partly after : π} :
    record.readItems ending index (slot.field :: fields) (tree :: trees) partly = .ok after ↔
      ∃ content, slot.decode tree = .ok content ∧
        record.readItems ending (index + 1) fields trees (slot.put content partly) = .ok after := by
  rw [Record.readItems]
  simp only [Slot.field, Decoder.Field.ofDecoder]
  cases slot.decode tree with
  | error cause => simp [Except.map]
  | ok content => simp [Except.map]

/-- Elements make up a record exactly if they are read as its fields, one after the other. -/
theorem readItems_iff (layout : Layout omissible record encode slots) {value : ρ}
    {ending : Ending} (left : List (Slot π ρ)) (areSlots : left.Sublist slots)
    (trees : List Tree) (index : Nat) (partly : π)
    (empty : ∀ slot ∈ left, slot.get partly = none) :
    (∃ after, record.readItems ending index (left.map Slot.field) trees partly = .ok after ∧
        record.finish after = .ok value) ↔
      ending = .closed ∧ ArrangesRow omissible (left.map (fun slot => slot.entry value)) trees ∧
        Done slots left value partly := by
  induction left generalizing trees index partly with
  | nil =>
      simp only [List.map_nil, Record.readItems, ArrangesRow, map_eq_ok_iff,
        expectClosed_eq_ok_iff, layout.finish, Done, List.not_mem_nil, not_false_eq_true,
        forall_const]
      constructor
      · rintro ⟨after, ⟨-, ⟨nothing, closed⟩, rfl⟩, finished⟩
        exact ⟨closed, nothing, finished⟩
      · rintro ⟨closed, nothing, finished⟩
        exact ⟨partly, ⟨(), ⟨nothing, closed⟩, rfl⟩, finished⟩
  | cons slot left inductionHypothesis =>
      have isSlot : slot ∈ slots := areSlots.subset List.mem_cons_self
      have names := (areSlots.map Slot.name).nodup layout.names
      rw [List.map_cons, List.nodup_cons] at names
      have others := (List.sublist_cons_self slot left).trans areSlots
      obtain ⟨isEmpty, othersEmpty⟩ := List.forall_mem_cons.1 empty
      rw [List.map_cons, List.map_cons]
      cases trees with
      | nil =>
          have rest := inductionHypothesis others [] (index + 1) partly othersEmpty
          rw [layout.done_iff isSlot names.1, isEmpty, Option.none_or] at rest
          simp only [readItems_nil, and_assoc, exists_and_left, rest, arrangesRow_nil, Slot.entry,
            ← layout.omits slot isSlot]
          constructor
          · rintro ⟨closed, -, -, arranged, omitted, done⟩
            exact ⟨closed, omitted, arranged, done⟩
          · rintro ⟨closed, omitted, arranged, done⟩
            exact ⟨closed, by rw [omitted]; rfl, closed, arranged, omitted, done⟩
      | cons tree trees =>
          have rest (content : slot.Content) := inductionHypothesis others trees (index + 1)
            (slot.put content partly) (fun other isOther => by
              have different : slot.name ≠ other.name := fun same =>
                names.1 (List.mem_map.2 ⟨other, isOther, same.symm⟩)
              rw [layout.get_put_of_ne slot isSlot other (others.subset isOther) different,
                othersEmpty other isOther])
          simp only [readItems_cons, arrangesRow_cons, Slot.entry,
            ← layout.understands slot isSlot tree]
          constructor
          · rintro ⟨after, ⟨content, read, tail⟩, finished⟩
            obtain ⟨closed, arranged, done⟩ := (rest content).1 ⟨after, tail, finished⟩
            rw [layout.done_iff isSlot names.1, layout.get_put slot isSlot,
              layout.done_put isSlot, Option.some_or, Option.some.injEq] at done
            exact ⟨closed, ⟨by rw [read, done.1], arranged⟩, done.2⟩
          · rintro ⟨closed, ⟨read, arranged⟩, done⟩
            have filled : Done slots left value (slot.put (slot.of value) partly) := by
              rw [layout.done_iff isSlot names.1, layout.get_put slot isSlot,
                layout.done_put isSlot, Option.some_or]
              exact ⟨rfl, done⟩
            obtain ⟨after, tail, finished⟩ := (rest _).2 ⟨closed, arranged, filled⟩
            exact ⟨after, ⟨_, read, tail⟩, finished⟩

/-! ### Both forms -/

theorem complete_eq_ok_iff {partly : π} {value : ρ} :
    record.complete partly = .ok value ↔ record.finish partly = .ok value := by
  rw [Record.complete]
  cases record.finish partly <;> simp

theorem decode_object_iff {members : List (Name × Tree)} {ending : Ending} {value : ρ} :
    record.decode (.object members ending) = .ok value ↔ ending = .closed ∧
      ∃ after, record.readMembers members record.empty = .ok after ∧
        record.finish after = .ok value := by
  rw [Record.decode]
  cases record.readMembers members record.empty with
  | error cause => simp
  | ok after =>
      cases damage : ending.error? Fault.asReadText with
      | some cause =>
          refine iff_of_false nofun fun ⟨closed, _⟩ => ?_
          rw [Ending.error?_eq_none_iff.2 closed] at damage
          cases damage
      | none => simp [complete_eq_ok_iff, Ending.error?_eq_none_iff.1 damage]

theorem decode_array_iff {trees : List Tree} {ending : Ending} {value : ρ} :
    record.decode (.array trees ending) = .ok value ↔
      ∃ after, record.readItems ending 0 record.fields trees record.empty = .ok after ∧
        record.finish after = .ok value := by
  rw [Record.decode]
  cases record.readItems ending 0 record.fields trees record.empty with
  | error cause => simp
  | ok after => simp [complete_eq_ok_iff]

/-- Members fit empty slots exactly if they are arrangements of the fields. -/
theorem fits_iff_arrangesMembers (layout : Layout omissible record encode slots) {value : ρ}
    {members : List (Name × Tree)} :
    (∀ slot ∈ slots, slot.Fits value (slot.get record.empty) (named members slot.name)) ↔
      ArrangesMembers omissible (slots.map (fun slot => slot.entry value)) members := by
  rw [arrangesMembers_iff, List.forall_mem_map]
  refine forall₂_congr fun slot isSlot => ?_
  simp only [layout.get_empty slot isSlot, Slot.Fits, Slot.entry,
    layout.understands slot isSlot _, layout.omits slot isSlot]

/-- The decoder of a record understands the record. -/
theorem understands_record (layout : Layout omissible record encode slots) :
    Understands omissible record.decode encode := by
  intro tree value
  rw [layout.encode_eq, arranges_object]
  cases tree with
  | object members ending =>
      rw [decode_object_iff, layout.readMembers_iff, layout.fits_iff_arrangesMembers]
      constructor
      · rintro ⟨rfl, legible, arranged⟩
        exact .inl ⟨members, rfl, legible, arranged⟩
      · rintro (⟨_, ⟨⟩, legible, arranged⟩ | ⟨_, ⟨⟩, _⟩)
        exact ⟨rfl, legible, arranged⟩
  | array trees ending =>
      have allDone : Done slots slots value record.empty := fun slot isSlot outside =>
        absurd (List.mem_map_of_mem isSlot) outside
      rw [decode_array_iff, layout.fields,
        layout.readItems_iff slots (List.Sublist.refl slots) trees 0 _ layout.get_empty,
        and_iff_left allDone]
      constructor
      · rintro ⟨rfl, arranged⟩
        exact .inr ⟨trees, rfl, arranged⟩
      · rintro (⟨_, ⟨⟩, _⟩ | ⟨_, ⟨⟩, arranged⟩)
        exact ⟨rfl, arranged⟩
  | _ => simp [Record.decode]

end Layout

end DeltaRobot.Json
