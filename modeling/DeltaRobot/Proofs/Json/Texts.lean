import DeltaRobot.Json.Value
import DeltaRobot.Proofs.Json.Grammar
import Mathlib.Data.List.Forall2

/-!
Contract: the texts of lists, piece by piece.

A text is read as a list exactly if it is, up to white space, a row of pieces with commas between
them and brackets around, and every piece is read as one element. The pieces may hold commas and
brackets of their own and white space at their ends; the text is cut at the right commas because
its tokens are.

Owns: the pieces of a list, for arrays and objects.
Does not own: what an element is for a type.
-/

namespace DeltaRobot.Json

open Token (Avoids isNumeric)

/-- The text is a row of pieces with commas between them and brackets around, up to white space. -/
def Bracketed (opening closing : Char) (text : String) (pieces : List String) : Prop :=
  ∃ before inner after : List Char, Blank before ∧ Blank after ∧
    text.toList = before ++ opening :: (inner ++ closing :: after) ∧
    (pieces = [] ∧ Blank inner ∨ pieces ≠ [] ∧ inner = (",".intercalate pieces).toList)

/-! ### Rows of pieces -/

/-- The tokens of pieces with commas between them. -/
theorem tokens_intercalate {pieces : List (List Char)}
    (undamaged : ∀ piece ∈ pieces, Undamaged piece) :
    tokens ([','].intercalate pieces) = Tree.separated (pieces.map tokens) := by
  induction pieces with
  | nil => exact tokens_nil
  | cons piece pieces inductionHypothesis =>
      obtain ⟨first, others⟩ := List.forall_mem_cons.1 undamaged
      by_cases last : pieces = []
      · rw [last, List.intercalate_singleton, List.map_singleton, Tree.separated,
          List.intercalate_singleton]
      · rw [List.intercalate_cons_of_ne_nil last, List.append_assoc, List.singleton_append,
          tokens_append first (Token.avoids_cons.2 rfl),
          tokens_mark (rfl : Token.comma.mark? = some ','),
          inductionHypothesis others, List.map_cons, Tree.separated_cons _ (by simpa using last)]

/-- Characters whose tokens are rows with commas between them are cut at these commas. -/
theorem exists_pieces {inner : List Char} {rows : List (List Token)} (nonempty : rows ≠ [])
    (whole : ∀ row ∈ rows, ∀ token ∈ row, token.isWhole = true)
    (same : tokens inner = Tree.separated rows) :
    ∃ pieces, inner = [','].intercalate pieces ∧ pieces.map tokens = rows := by
  induction rows generalizing inner with
  | nil => exact absurd rfl nonempty
  | cons row rows inductionHypothesis =>
      obtain ⟨wholeRow, wholeRows⟩ := List.forall_mem_cons.1 whole
      by_cases last : rows = []
      · rw [last, Tree.separated, List.intercalate_singleton] at same
        exact ⟨[inner], by simp, by simp [same, last]⟩
      · rw [Tree.separated_cons row last] at same
        obtain ⟨before, after, rfl, isRow, isAfter⟩ := exists_cut same wholeRow
        obtain ⟨blank, others, isBlank, rfl, areOthers⟩ :=
          (tokens_eq_mark_cons_iff (rfl : Token.comma.mark? = some ',')).1 isAfter
        obtain ⟨pieces, rfl, arePieces⟩ := inductionHypothesis last wholeRows areOthers
        have undamaged : Undamaged before := by rwa [Undamaged, isRow]
        -- The white space in front of the comma goes to the piece.
        refine ⟨(before ++ blank) :: pieces, ?_, ?_⟩
        · rw [List.intercalate_cons_of_ne_nil (by rintro rfl; exact last arePieces.symm)]
          simp
        · rw [List.map_cons, tokens_append_blank undamaged isBlank, isRow, arePieces]

/-- Brackets are found with white space alone before the first and behind the last. -/
theorem tokens_eq_enclosed_iff {openingToken closingToken : Token} {opening closing : Char}
    (opens : openingToken.mark? = some opening) (closes : closingToken.mark? = some closing)
    {chars : List Char} {left : List Token} (whole : ∀ token ∈ left, token.isWhole = true) :
    tokens chars = openingToken :: (left ++ [closingToken]) ↔
      ∃ before inner after, Blank before ∧ Blank after ∧
        chars = before ++ opening :: (inner ++ closing :: after) ∧ tokens inner = left := by
  constructor
  · intro same
    obtain ⟨before, rest, isBefore, rfl, isRest⟩ := (tokens_eq_mark_cons_iff opens).1 same
    obtain ⟨inner, tail, rfl, isInner, isTail⟩ := exists_cut isRest whole
    obtain ⟨blank, after, isBlank, rfl, isAfter⟩ := (tokens_eq_mark_cons_iff closes).1 isTail
    have undamaged : Undamaged inner := by rwa [Undamaged, isInner]
    refine ⟨before, inner ++ blank, after, isBefore, tokens_eq_nil_iff.1 isAfter, by simp, ?_⟩
    rw [tokens_append_blank undamaged isBlank, isInner]
  · rintro ⟨before, inner, after, isBefore, isAfter, rfl, rfl⟩
    refine (tokens_eq_mark_cons_iff opens).2 ⟨before, _, isBefore, rfl, ?_⟩
    have stops : isNumeric closing = false := by
      cases closingToken <;> cases closes <;> rfl
    rw [tokens_append whole (Token.avoids_cons.2 stops), tokens_mark closes,
      tokens_eq_nil_iff.2 isAfter]

/-- A text in brackets has the tokens of its pieces in brackets, and no other text has. -/
theorem tokens_eq_bracketed_iff {openingToken closingToken : Token} {opening closing : Char}
    (opens : openingToken.mark? = some opening) (closes : closingToken.mark? = some closing)
    {text : String} {rows : List (List Token)}
    (whole : ∀ row ∈ rows, ∀ token ∈ row, token.isWhole = true) :
    tokens text.toList = openingToken :: (Tree.separated rows ++ [closingToken]) ↔
      ∃ pieces, Bracketed opening closing text pieces ∧
        pieces.map (fun piece => tokens piece.toList) = rows := by
  rw [tokens_eq_enclosed_iff opens closes fun token => Tree.isWhole_of_mem_separated whole]
  constructor
  · rintro ⟨before, inner, after, isBefore, isAfter, isText, isInner⟩
    by_cases empty : rows = []
    · rw [empty] at isInner
      exact ⟨[], ⟨before, inner, after, isBefore, isAfter, isText,
        .inl ⟨rfl, tokens_eq_nil_iff.1 isInner⟩⟩, empty.symm⟩
    · obtain ⟨pieces, rfl, rfl⟩ := exists_pieces empty whole isInner
      refine ⟨pieces.map String.ofList, ⟨before, _, after, isBefore, isAfter, isText,
        .inr ⟨?_, ?_⟩⟩, ?_⟩
      · simpa using empty
      · simp [String.toList_intercalate, Function.comp_def]
      · simp
  · rintro ⟨pieces, ⟨before, inner, after, isBefore, isAfter, isText, parts⟩, rfl⟩
    refine ⟨before, inner, after, isBefore, isAfter, isText, ?_⟩
    obtain ⟨rfl, isBlank⟩ | ⟨-, rfl⟩ := parts
    · exact tokens_eq_nil_iff.2 isBlank
    · have undamaged : ∀ piece ∈ pieces.map String.toList, Undamaged piece := by
        simpa [Undamaged] using whole
      rw [String.toList_intercalate]
      refine (tokens_intercalate undamaged).trans ?_
      rw [List.map_map]
      rfl

/-! ### Arrays and objects -/

theorem forall₂_and_right {β γ : Type} {relation : β → γ → Prop} {good : γ → Prop}
    {firsts : List β} {seconds : List γ} :
    List.Forall₂ (fun first second => relation first second ∧ good second) firsts seconds ↔
      List.Forall₂ relation firsts seconds ∧ ∀ second ∈ seconds, good second := by
  have turned {related : β → γ → Prop} :
      List.Forall₂ related firsts seconds ↔ List.Forall₂ (flip related) seconds firsts :=
    ⟨List.Forall₂.flip (R := flip related), List.Forall₂.flip⟩
  have swapped : (flip fun first second => relation first second ∧ good second) =
      fun second first => good second ∧ flip relation second first :=
    funext fun second => funext fun first => propext and_comm
  rw [turned, turned, and_comm, ← List.forall₂_and_left, swapped]

/-- A relation that is an equation and a property holds one by one exactly if both do. -/
theorem forall₂_iff {β γ δ : Type} {relation : β → γ → Prop} {good : γ → Prop} {left : β → δ}
    {right : γ → δ}
    (meaning : ∀ first second, relation first second ↔ good second ∧ left first = right second)
    {firsts : List β} {seconds : List γ} :
    List.Forall₂ relation firsts seconds ↔
      (∀ second ∈ seconds, good second) ∧ firsts.map left = seconds.map right := by
  have same : relation = fun first second => left first = right second ∧ good second := by
    ext first second
    rw [meaning, and_comm]
  rw [same, forall₂_and_right, and_comm, ← List.forall₂_eq_eq_eq, List.forall₂_map_left_iff,
    List.forall₂_map_right_iff]

/-- A text has the tokens of undamaged elements in brackets exactly if its pieces have those of the
elements. -/
theorem elements_eq_bracketed_iff {β : Type} {relation : String → β → Prop} {good : β → Prop}
    {row : β → List Token}
    (meaning : ∀ piece element, relation piece element ↔
      good element ∧ tokens piece.toList = row element)
    {openingToken closingToken : Token} {opening closing : Char}
    (opens : openingToken.mark? = some opening) (closes : closingToken.mark? = some closing)
    {text : String} {elements : List β}
    (whole : (∀ element ∈ elements, good element) →
      ∀ line ∈ elements.map row, ∀ token ∈ line, token.isWhole = true) :
    (∀ element ∈ elements, good element) ∧ tokens text.toList =
        openingToken :: (Tree.separated (elements.map row) ++ [closingToken]) ↔
      ∃ pieces, Bracketed opening closing text pieces ∧
        List.Forall₂ relation pieces elements := by
  constructor
  · rintro ⟨areGood, same⟩
    obtain ⟨pieces, bracketed, isRow⟩ :=
      (tokens_eq_bracketed_iff opens closes (whole areGood)).1 same
    exact ⟨pieces, bracketed, (forall₂_iff meaning).2 ⟨areGood, isRow⟩⟩
  · rintro ⟨pieces, bracketed, related⟩
    obtain ⟨areGood, isRow⟩ := (forall₂_iff meaning).1 related
    exact ⟨areGood, (tokens_eq_bracketed_iff opens closes (whole areGood)).2
      ⟨pieces, bracketed, isRow⟩⟩

/-- A text is read as an array exactly if it is, up to white space, a row of texts inside brackets
that are read as the elements. -/
theorem reads_array_iff {text : String} {trees : List Tree} :
    Reads text (.array trees .closed) ↔
      ∃ pieces, Bracketed '[' ']' text pieces ∧ List.Forall₂ Reads pieces trees := by
  rw [reads_iff, Tree.whole_array, and_iff_left rfl, Tree.tokens, Tree.itemTokens_eq_map]
  refine elements_eq_bracketed_iff (fun piece tree => @reads_iff piece tree) rfl rfl
    fun areGood => ?_
  rw [← Tree.itemTokens_eq_map]
  exact Tree.isWhole_of_mem_itemTokens trees areGood

/-- The text is a name, a colon and a value. -/
def ReadsMember (text : String) (member : Name × Tree) : Prop :=
  ∃ name value, text = name ++ ":" ++ value ∧ Reads name (.text member.1) ∧ Reads value member.2

theorem readsMember_iff {text : String} {member : Name × Tree} :
    ReadsMember text member ↔ member.2.Whole ∧
      tokens text.toList = .text member.1 :: .colon :: member.2.tokens := by
  constructor
  · rintro ⟨name, value, rfl, isName, isValue⟩
    rw [reads_iff] at isName isValue
    refine ⟨isValue.1, ?_⟩
    have undamaged : Undamaged name.toList := by
      simp [Undamaged, isName.2, Tree.tokens, Token.isWhole]
    have behind : (":" ++ value).toList = ':' :: value.toList := by
      rw [String.toList_append]
      rfl
    rw [String.append_assoc, String.toList_append, behind,
      tokens_append undamaged (Token.avoids_cons.2 rfl),
      tokens_mark (rfl : Token.colon.mark? = some ':'), isName.2, isValue.2]
    rfl
  · rintro ⟨whole, same⟩
    have cut : tokens text.toList = [.text member.1] ++ .colon :: member.2.tokens := same
    obtain ⟨before, after, isText, isName, isAfter⟩ := exists_cut cut (by simp [Token.isWhole])
    obtain ⟨blank, value, isBlank, rfl, isValue⟩ :=
      (tokens_eq_mark_cons_iff (rfl : Token.colon.mark? = some ':')).1 isAfter
    have undamaged : Undamaged before := by simp [Undamaged, isName, Token.isWhole]
    refine ⟨String.ofList (before ++ blank), String.ofList value, ?_, ?_, ?_⟩
    · rw [← String.toList_inj, isText]
      simp
    · refine reads_iff.2 ⟨Tree.whole_text _, ?_⟩
      rw [String.toList_ofList, tokens_append_blank undamaged isBlank, isName, Tree.tokens]
    · exact reads_iff.2 ⟨whole, by rw [String.toList_ofList, isValue]⟩

/-- A text is read as an object exactly if it is, up to white space, a row of its members inside
brackets. -/
theorem reads_object_iff {text : String} {members : List (Name × Tree)} :
    Reads text (.object members .closed) ↔
      ∃ pieces, Bracketed '{' '}' text pieces ∧ List.Forall₂ ReadsMember pieces members := by
  rw [reads_iff, Tree.whole_object, and_iff_left rfl, Tree.tokens, Tree.memberTokens_eq_map]
  refine elements_eq_bracketed_iff (fun piece member => @readsMember_iff piece member) rfl rfl
    fun areGood => ?_
  rw [← Tree.memberTokens_eq_map]
  exact Tree.isWhole_of_mem_memberTokens members areGood

end DeltaRobot.Json
