import DeltaRobot.Proofs.Json.Decoding
import DeltaRobot.Proofs.Json.Texts

/-!
Contract: the text that a value is written as is read as an arrangement of the value.

Every character of a quoted text is read back, whether it was escaped or not, and brackets and
commas go to the list that they were written for. What is asked of the value is that its records
have distinct names and that its numbers are read back one by one.

Owns: quoted texts and rendered values as documents.
Does not own: which numbers are read back.
-/

namespace DeltaRobot.Json

/-! ### Quoted texts -/

/-- The unit spells the character, whatever stands around it. -/
inductive Spells (char : Char) : TextUnit → Prop
  | plain : Spells char (.plain char)
  | code (control : char.toNat < 32) : Spells char (.codeUnit char.toNat)

namespace Spells

open TextUnit

theorem spell_cons {char : Char} {unit : TextUnit} (spells : Spells char unit)
    (units : List TextUnit) : spell (unit :: units) = (spell units).cons char := by
  cases spells with
  | plain => rw [spell]
  | code control =>
      have lone : isLeading char.toNat = false ∧ isTrailing char.toNat = false := by
        simp [isLeading, isTrailing]
        omega
      cases units with
      | nil => simp [spell, lone, Spelled.cons]
      | cons next units => cases next <;> simp [spell, lone]

/-- The digits of an escaped control character are those of its code. -/
theorem exists_hex4 {code : Nat} (control : code < 32) : ∃ first second third fourth,
    Value.hex4 code = [first, second, third, fourth] ∧
      Token.codeUnit? first second third fourth = some code ∧
      Token.byteLength [first, second, third, fourth] = 4 := by
  have all : ∀ code < 32,
      Value.hex4 code = ['0', '0', Nat.digitChar (code / 16), Nat.digitChar (code % 16)] ∧
        Token.codeUnit? '0' '0' (Nat.digitChar (code / 16)) (Nat.digitChar (code % 16)) =
          some code ∧
        Token.byteLength ['0', '0', Nat.digitChar (code / 16), Nat.digitChar (code % 16)] = 4 := by
    decide +kernel
  exact ⟨_, _, _, _, all code control⟩

/-- A character is written as something that is read as a unit that spells it. -/
theorem exists_scanText_escape (char : Char) : ∃ unit, Spells char unit ∧
    ∀ rest, Token.scanText (Value.escape char ++ rest) =
      Token.withUnit unit (Token.scanText rest) := by
  unfold Value.escape
  split
  iterate 7 exact ⟨_, .plain, Token.scanText_escape rfl⟩
  · split_ifs with control
    · obtain ⟨first, second, third, fourth, isHex, isCode, bytes⟩ := exists_hex4 control
      refine ⟨_, .code control, fun rest => ?_⟩
      rw [isHex]
      simp [Token.scanText, bytes, isCode]
    · exact ⟨_, .plain, Token.scanText_plain ‹_› ‹_› control⟩

/-- So is a text. -/
theorem exists_scanText (chars : List Char) : ∃ units, spell units = .whole chars ∧
    ∀ rest, Token.scanText (chars.flatMap Value.escape ++ '"' :: rest) = (.text units, rest) := by
  induction chars with
  | nil => exact ⟨[], by rw [spell], fun rest => by simp [Token.scanText]⟩
  | cons char chars inductionHypothesis =>
      obtain ⟨units, spelled, scanned⟩ := inductionHypothesis
      obtain ⟨unit, spells, first⟩ := exists_scanText_escape char
      refine ⟨unit :: units, ?_, fun rest => ?_⟩
      · rw [spells.spell_cons, spelled]
        rfl
      · rw [List.flatMap_cons, List.append_assoc, first, scanned]
        rfl

end Spells

theorem exists_reads_renderText (text : String) : ∃ units,
    TextUnit.spell? units = some text ∧ Reads (Value.renderText text) (.text units) := by
  obtain ⟨units, spelled, scanned⟩ := Spells.exists_scanText text.toList
  refine ⟨units, ?_, ?_⟩
  · rw [TextUnit.spell?, spelled]
    simp
  · rw [reads_iff, and_iff_right (Tree.whole_text units), Value.renderText, String.toList_ofList]
    have quoted : tokens ('"' :: (text.toList.flatMap Value.escape ++ ['"'])) =
        .text units :: tokens [] := tokens_scan rfl (scanned [])
    rw [tokens_nil] at quoted
    exact quoted

/-! ### Values -/

/-- The records in a value have distinct names. No whole numbers are written. -/
inductive Tidy : Value → Prop
  | boolean (value : Bool) : Tidy (.boolean value)
  | real (value : Float) : Tidy (.real value)
  | text (value : String) : Tidy (.text value)
  | array {items : List Value} (inside : ∀ item ∈ items, Tidy item) : Tidy (.array items)
  | object {fields : List (String × Value)} (distinct : (fields.map Prod.fst).Nodup)
      (inside : ∀ field ∈ fields, Tidy field.2) : Tidy (.object fields)

/-- The text that a number is written as is read as the number. -/
def ReadsBack (number : Float) : Prop :=
  decodeText Decoder.real (Value.real number).render = .ok number

theorem ReadsBack.of_toOption {number : Float}
    (decoded : (decodeText Decoder.real (Value.real number).render).toOption = some number) :
    ReadsBack number := by
  rw [ReadsBack]
  cases result : decodeText Decoder.real (Value.real number).render with
  | error cause =>
      rw [result] at decoded
      cases decoded
  | ok other =>
      rw [result] at decoded
      rw [Option.some.inj decoded]

theorem render_array (items : List Value) :
    (Value.array items).render = Value.bracketed "[" "]" (items.map Value.render) := by
  have each : Value.renderItems Value.renderReal items = items.map Value.render := by
    induction items with
    | nil => rfl
    | cons item items inductionHypothesis =>
        rw [Value.renderItems, inductionHypothesis, List.map_cons, Value.render]
  rw [Value.render, Value.renderWith, each]

theorem render_object (fields : List (String × Value)) :
    (Value.object fields).render = Value.bracketed "\x7b" "\x7d" (fields.map (fun field =>
      Value.renderText field.1 ++ ":" ++ field.2.render)) := by
  have each : Value.renderMembers Value.renderReal fields = fields.map (fun field =>
      Value.renderText field.1 ++ ":" ++ field.2.render) := by
    induction fields with
    | nil => rfl
    | cons field fields inductionHypothesis =>
        rw [Value.renderMembers, inductionHypothesis, List.map_cons, Value.render]
  rw [Value.render, Value.renderWith, each]

theorem bracketed_pieces {opening closing : Char} {before after : String}
    (opens : before.toList = [opening]) (closes : after.toList = [closing])
    (pieces : List String) :
    Bracketed opening closing (Value.bracketed before after pieces) pieces := by
  refine ⟨[], (",".intercalate pieces).toList, [], by simp [Blank], by simp [Blank], ?_, ?_⟩
  · simp [Value.bracketed, opens, closes]
  · by_cases empty : pieces = []
    · exact .inl ⟨empty, by simp [empty, Blank]⟩
    · exact .inr ⟨empty, rfl⟩

theorem exists_forall₂ {β γ : Type} {relation : β → γ → Prop} {firsts : List β}
    (each : ∀ first ∈ firsts, ∃ second, relation first second) :
    ∃ seconds, List.Forall₂ relation firsts seconds := by
  induction firsts with
  | nil => exact ⟨[], .nil⟩
  | cons first firsts inductionHypothesis =>
      obtain ⟨⟨second, related⟩, others⟩ := List.forall_mem_cons.1 each
      obtain ⟨seconds, areRelated⟩ := inductionHypothesis others
      exact ⟨second :: seconds, .cons related areRelated⟩

section

variable {omissible : List (String × Value)} {fields : List (String × Value)}
  {members : List (Name × Tree)}

theorem named_eq_nil_of_forall₂ {name : String} (unknown : name ∉ fields.map Prod.fst)
    (related : List.Forall₂ (fun field member => TextUnit.spell? member.1 = some field.1 ∧
      Arranges omissible field.2 member.2) fields members) : named members name = [] := by
  induction related with
  | nil => rfl
  | @cons field member fields members first rest inductionHypothesis =>
      rw [List.map_cons, List.mem_cons, not_or] at unknown
      refine (named_cons_of_ne ?_ member.2 members).trans (inductionHypothesis unknown.2)
      rw [first.1, Ne, Option.some.injEq]
      exact Ne.symm unknown.1

/-- Members in the order of the fields are an arrangement of them. -/
theorem arrangesMembers_of_forall₂ (distinct : (fields.map Prod.fst).Nodup)
    (related : List.Forall₂ (fun field member => TextUnit.spell? member.1 = some field.1 ∧
      Arranges omissible field.2 member.2) fields members) :
    ArrangesMembers omissible fields members := by
  rw [arrangesMembers_iff]
  induction related with
  | nil => simp
  | @cons field member fields members first rest inductionHypothesis =>
      rw [List.map_cons, List.nodup_cons] at distinct
      refine List.forall_mem_cons.2 ⟨.inl ⟨member.2, ?_, first.2⟩, fun other isOther => ?_⟩
      · exact (named_cons_of_eq first.1 member.2 members).trans
          (congrArg _ (named_eq_nil_of_forall₂ distinct.1 rest))
      · have unchanged : named (member :: members) other.1 = named members other.1 := by
          refine named_cons_of_ne ?_ member.2 members
          rw [first.1, Ne, Option.some.injEq]
          exact fun same => distinct.1 (same ▸ List.mem_map_of_mem isOther)
        rw [unchanged]
        exact inductionHypothesis distinct.2 other isOther

end

theorem reads_boolean (value : Bool) : Reads (Decode.booleanText value) (.boolean value) := by
  rw [reads_iff, and_iff_right (Tree.whole_boolean value)]
  cases value with
  | true =>
      have word : tokens ['t', 'r', 'u', 'e'] = .boolean true :: tokens [] := tokens_scan rfl rfl
      rw [tokens_nil] at word
      exact word
  | false =>
      have word : tokens ['f', 'a', 'l', 's', 'e'] = .boolean false :: tokens [] :=
        tokens_scan rfl rfl
      rw [tokens_nil] at word
      exact word

/-- A value is read back from its own text, as an arrangement. -/
theorem exists_reads_render {omissible : List (String × Value)} {value : Value}
    (tidy : Tidy value)
    (readBack : ∀ number ∈ value.numbers, ReadsBack number) :
    ∃ tree, Reads value.render tree ∧ Arranges omissible value tree := by
  induction tidy with
  | boolean value => exact ⟨.boolean value, reads_boolean value, rfl⟩
  | real value =>
      have back := readBack value (by simp [Value.numbers])
      have understands : Understands omissible Decoder.real Value.real := understands_real
      obtain ⟨tree, reads, decoded⟩ := (decodeText_eq_ok_iff understands.thorough).1 back
      exact ⟨tree, reads, (understands tree value).1 decoded⟩
  | text value =>
      obtain ⟨units, spelled, reads⟩ := exists_reads_renderText value
      exact ⟨.text units, reads, units, spelled, .inl rfl⟩
  | @array items inside inductionHypothesis =>
      have each : ∀ item ∈ items, ∃ tree,
          Reads item.render tree ∧ Arranges omissible item tree := fun item isItem =>
        inductionHypothesis item isItem fun number member =>
          readBack number (Value.mem_itemNumbers.2 ⟨item, isItem, member⟩)
      obtain ⟨trees, related⟩ := exists_forall₂ each
      refine ⟨.array trees .closed, reads_array_iff.2 ⟨items.map Value.render, ?_, ?_⟩, ?_⟩
      · rw [render_array]
        exact bracketed_pieces rfl rfl _
      · rw [List.forall₂_map_left_iff]
        exact related.imp fun _ _ => And.left
      · exact arranges_array.2 ⟨trees, rfl, arrangesItems_iff.2 (related.imp fun _ _ => And.right)⟩
  | @object fields distinct inside inductionHypothesis =>
      have each : ∀ field ∈ fields, ∃ member : Name × Tree,
          TextUnit.spell? member.1 = some field.1 ∧ Arranges omissible field.2 member.2 ∧
            ReadsMember (Value.renderText field.1 ++ ":" ++ field.2.render) member := by
        intro field isField
        obtain ⟨units, spelled, isName⟩ := exists_reads_renderText field.1
        obtain ⟨tree, isValue, arranges⟩ := inductionHypothesis field isField fun number member =>
          readBack number (Value.mem_fieldNumbers.2 ⟨field, isField, member⟩)
        exact ⟨(units, tree), spelled, arranges, _, _, rfl, isName, isValue⟩
      obtain ⟨members, related⟩ := exists_forall₂ each
      refine ⟨.object members .closed, reads_object_iff.2 ⟨fields.map (fun field =>
        Value.renderText field.1 ++ ":" ++ field.2.render), ?_, ?_⟩, ?_⟩
      · rw [render_object]
        exact bracketed_pieces rfl rfl _
      · rw [List.forall₂_map_left_iff]
        exact related.imp fun _ _ both => both.2.2
      · refine arranges_object.2 (.inl ⟨members, rfl, fun member isMember => ?_, ?_⟩)
        · obtain ⟨field, -, spelled, arranges, -⟩ :=
            exists_of_forall₂ (List.Forall₂.flip (R := flip _) related) member isMember
          exact ⟨by rw [spelled]; rfl, arranges.whole⟩
        · exact arrangesMembers_of_forall₂ distinct
            (related.imp fun _ _ both => ⟨both.1, both.2.1⟩)

end DeltaRobot.Json
