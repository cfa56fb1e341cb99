import DeltaRobot.Proofs.Command.Codec
import DeltaRobot.Proofs.Json.Texts
import DeltaRobot.Proofs.Move.FeedRate

/-!
Contract: a script is a row of commands.

A text is a script exactly if it is, up to white space, an array of texts each of which is a
command. All of them are decoded before the first feed rate is looked at: a text that cannot be cut
into decoded commands is invalid however the feed rates in it are, and of a text that can, the first
feed rate that is not usable is refused. No target is ever refused, since no text is decoded as a
number that is not finite.

Owns: what makes a script text succeed or fail, piece by piece.
Does not own: what a command text looks like.
-/

namespace DeltaRobot

namespace MoveCommand

open Json (Bracketed Reads decodeText)

variable {text : String}

/-! ### Validation -/

/-- The numbers of a text are finite, so its target is a finite point. -/
theorem placed_of_decodeText {command : MoveCommand Float}
    (decoded : decodeText decode text = .ok command) : command.placed = true := by
  obtain ⟨tree, -, isCommand⟩ := (Json.decodeText_eq_ok_iff understands.thorough).1 decoded
  have harmless : ∀ field ∈ omissible, ∀ number ∈ field.2.numbers, number.isFinite = true := by
    simp [omissible, Json.Value.numbers]
  have finite := ((understands tree command).1 isCommand).isFinite harmless
  rw [placed, List.all_eq_true]
  intro coordinate member
  apply finite
  rw [Point.toList] at member
  simp only [encode, Point.encode, Json.Value.numbers, Json.Value.fieldNumbers,
    Json.Value.itemNumbers, List.singleton_append, List.append_nil]
  exact List.mem_append_left _ member

theorem validate_of_placed {command : MoveCommand Float} (placed : command.placed = true) :
    command.validate =
      if command.usable then .ok () else .error (.invalidFeedRate command.feedRate) := by
  rw [validate, placed]
  cases command.usable <;> rfl

variable {commands : List (MoveCommand Float)}

/-- Where no target can be refused, the feed rates decide. -/
theorem validateAll_eq_ok_iff (placed : ∀ command ∈ commands, command.placed = true) :
    validateAll commands = .ok () ↔ ∀ command ∈ commands, command.usable = true := by
  induction commands with
  | nil => simp [validateAll]
  | cons command commands inductionHypothesis =>
      obtain ⟨first, others⟩ := List.forall_mem_cons.1 placed
      rw [validateAll, validate_of_placed first, List.forall_mem_cons,
        ← inductionHypothesis others]
      cases command.usable <;> simp

/-- The first command that is not usable is refused. -/
theorem validateAll_eq_error_iff (placed : ∀ command ∈ commands, command.placed = true)
    {cause : CommandError} :
    validateAll commands = .error cause ↔ ∃ before refused after,
      commands = before ++ refused :: after ∧ (∀ command ∈ before, command.usable = true) ∧
        refused.usable = false ∧ cause = .invalidFeedRate refused.feedRate := by
  induction commands with
  | nil => simp [validateAll]
  | cons command commands inductionHypothesis =>
      obtain ⟨first, others⟩ := List.forall_mem_cons.1 placed
      rw [validateAll, validate_of_placed first]
      cases usable : command.usable with
      | false =>
          constructor
          · rintro ⟨⟩
            exact ⟨[], command, commands, rfl, by simp, usable, rfl⟩
          · rintro ⟨before, refused, after, same, allUsable, -, rfl⟩
            cases before with
            | nil =>
                cases same
                rfl
            | cons first before =>
                cases same
                rw [allUsable _ List.mem_cons_self] at usable
                cases usable
      | true =>
          refine (inductionHypothesis others).trans ⟨?_, ?_⟩
          · rintro ⟨before, refused, after, rfl, allUsable, notUsable, same⟩
            exact ⟨command :: before, refused, after, rfl,
              List.forall_mem_cons.2 ⟨usable, allUsable⟩, notUsable, same⟩
          · rintro ⟨before, refused, after, same, allUsable, notUsable, isCause⟩
            cases before with
            | nil =>
                cases same
                rw [usable] at notUsable
                cases notUsable
            | cons first before =>
                cases same
                exact ⟨before, refused, after, rfl, (List.forall_mem_cons.1 allUsable).2, notUsable,
                  isCause⟩

/-! ### Scripts -/

/-- The text is cut into texts that are decoded as the commands, usable or not. -/
def CutsInto (text : String) (commands : List (MoveCommand Float)) : Prop :=
  ∃ pieces, Bracketed '[' ']' text pieces ∧
    List.Forall₂ (fun piece command => decodeText decode piece = .ok command) pieces commands

theorem cutsInto_iff :
    CutsInto text commands ↔ decodeText (Json.Decoder.list decode) text = .ok commands :=
  (Json.decodeText_list_iff understands.thorough).symm

theorem CutsInto.placed (cuts : CutsInto text commands) :
    ∀ command ∈ commands, command.placed = true := by
  obtain ⟨pieces, -, decoded⟩ := cuts
  intro command member
  obtain ⟨piece, -, isCommand⟩ :=
    Json.exists_of_forall₂ (List.Forall₂.flip (R := flip _) decoded) command member
  exact placed_of_decodeText isCommand

theorem ofText_eq_ok_iff {command : MoveCommand Float} :
    ofText text = .ok command ↔
      decodeText decode text = .ok command ∧ command.usable = true := by
  rw [ofText]
  cases decoded : decodeText decode text with
  | error cause => simp
  | ok found =>
      simp only [validate_of_placed (placed_of_decodeText decoded), Except.ok.injEq]
      cases usable : found.usable with
      | true =>
          simp only [if_true, Except.ok.injEq]
          exact (and_iff_left_of_imp fun same => same ▸ usable).symm
      | false =>
          refine iff_of_false nofun ?_
          rintro ⟨rfl, same⟩
          rw [usable] at same
          cases same

theorem ofText_eq_invalidText_iff {cause : Json.DecodeError} :
    ofText text = .error (.invalidText cause) ↔ decodeText decode text = .error cause := by
  rw [ofText]
  cases decoded : decodeText decode text with
  | error found => simp
  | ok found =>
      simp only [validate_of_placed (placed_of_decodeText decoded)]
      cases found.usable <;> simp

theorem scriptOfText_eq_ok_iff :
    scriptOfText text = .ok commands ↔
      CutsInto text commands ∧ ∀ command ∈ commands, command.usable = true := by
  rw [scriptOfText, cutsInto_iff]
  cases decoded : decodeText (Json.Decoder.list decode) text with
  | error cause => simp
  | ok found =>
      have placed := (cutsInto_iff.2 decoded).placed
      cases valid : validateAll found with
      | ok done =>
          simp only [valid, Except.ok.injEq]
          exact (and_iff_left_of_imp fun same => same ▸ (validateAll_eq_ok_iff placed).1 valid).symm
      | error cause =>
          simp only [valid, Except.ok.injEq]
          refine iff_of_false nofun ?_
          rintro ⟨rfl, usable⟩
          rw [(validateAll_eq_ok_iff placed).2 usable] at valid
          cases valid

/-- A text that cannot be decoded is invalid; otherwise the error is that of the commands. -/
theorem scriptOfText_eq_error_iff {cause : CommandError} :
    scriptOfText text = .error cause ↔
      (∃ damage, decodeText (Json.Decoder.list decode) text = .error damage ∧
        cause = .invalidText damage) ∨
      ∃ commands, CutsInto text commands ∧ validateAll commands = .error cause := by
  simp only [scriptOfText, cutsInto_iff]
  cases decodeText (Json.Decoder.list decode) text with
  | error damage => simp [eq_comm]
  | ok found => cases valid : validateAll found <;> simp [valid]

theorem exists_invalidText_iff :
    (∃ cause, scriptOfText text = .error (.invalidText cause)) ↔
      ∀ commands, ¬ CutsInto text commands := by
  simp only [scriptOfText_eq_error_iff, cutsInto_iff]
  cases decoded : decodeText (Json.Decoder.list decode) text with
  | error damage => simp
  | ok found => simp [validateAll_eq_error_iff (cutsInto_iff.2 decoded).placed]

/-- Pieces that are well-formed are the ones that are decoded, wherever else the text could be
cut. -/
theorem cuts_of_reads {pieces : List String} {trees : List Json.Tree}
    (bracketed : Bracketed '[' ']' text pieces) (reads : List.Forall₂ Reads pieces trees)
    (cuts : CutsInto text commands) :
    List.Forall₂ (fun piece command => decodeText decode piece = .ok command) pieces commands := by
  obtain ⟨tree, readsTree, decoded⟩ :=
    (Json.decodeText_eq_ok_iff understands.thorough.list).1 (cutsInto_iff.1 cuts)
  have same := readsTree.unique (Json.reads_array_iff.2 ⟨pieces, bracketed, reads⟩)
  obtain ⟨_, isArray, related⟩ := Json.list_eq_ok_iff.1 decoded
  rw [same] at isArray
  cases isArray
  simp only [Json.decodeText_eq_ok_iff understands.thorough]
  exact Json.forall₂_comp.1 ⟨trees, reads, related⟩

/-- A script is decoded as the commands that its pieces are decoded as. Otherwise the first feed
rate that is not usable is refused, provided that all of the text is decoded, and never a target. -/
theorem script_agrees_with_commands (text : String) :
    (∀ commands, scriptOfText text = .ok commands ↔
      ∃ pieces, Bracketed '[' ']' text pieces ∧
        List.Forall₂ (fun piece command => ofText piece = .ok command) pieces commands) ∧
    (∀ feedRate, scriptOfText text = .error (.invalidFeedRate feedRate) ↔
      ∃ before refused after, CutsInto text (before ++ refused :: after) ∧
        (∀ command ∈ before, Binary64.IsPositive command.feedRate) ∧
        ¬ Binary64.IsPositive refused.feedRate ∧ refused.feedRate = feedRate) ∧
    ((∃ cause, scriptOfText text = .error (.invalidText cause)) ↔
      ∀ commands, ¬ CutsInto text commands) ∧
    (∀ target, scriptOfText text ≠ .error (.invalidTarget target)) ∧
    (∀ pieces trees, Bracketed '[' ']' text pieces → List.Forall₂ Reads pieces trees →
      (∃ piece ∈ pieces, ∃ cause, ofText piece = .error (.invalidText cause)) →
      ∃ cause, scriptOfText text = .error (.invalidText cause)) := by
  refine ⟨fun commands => ?_, fun feedRate => ?_, exists_invalidText_iff, fun target refused => ?_,
    ?_⟩
  · simp only [scriptOfText_eq_ok_iff, ofText_eq_ok_iff, Json.forall₂_and_right, CutsInto,
      exists_and_right, ← and_assoc]
  · rw [scriptOfText_eq_error_iff]
    constructor
    · rintro (⟨damage, -, ⟨⟩⟩ | ⟨commands, cuts, invalid⟩)
      obtain ⟨before, refused, after, rfl, allUsable, notUsable, same⟩ :=
        (validateAll_eq_error_iff cuts.placed).1 invalid
      cases same
      refine ⟨before, refused, after, cuts,
        fun command member => (usable_iff command).1 (allUsable command member), ?_, rfl⟩
      rw [← usable_iff, notUsable]
      exact Bool.false_ne_true
    · rintro ⟨before, refused, after, cuts, allUsable, notUsable, rfl⟩
      refine .inr ⟨_, cuts, (validateAll_eq_error_iff cuts.placed).2 ⟨before, refused, after, rfl,
        fun command member => (usable_iff command).2 (allUsable command member), ?_, rfl⟩⟩
      rwa [← usable_iff, Bool.not_eq_true] at notUsable
  · rcases scriptOfText_eq_error_iff.1 refused with ⟨damage, -, ⟨⟩⟩ | ⟨commands, cuts, invalid⟩
    obtain ⟨before, found, after, -, -, -, ⟨⟩⟩ :=
      (validateAll_eq_error_iff cuts.placed).1 invalid
  · rintro pieces trees bracketed reads ⟨piece, isPiece, cause, invalid⟩
    refine exists_invalidText_iff.2 fun commands cuts => ?_
    have decoded := cuts_of_reads bracketed reads cuts
    obtain ⟨command, -, isCommand⟩ := Json.exists_of_forall₂ decoded piece isPiece
    rw [ofText_eq_invalidText_iff.1 invalid] at isCommand
    cases isCommand

end MoveCommand

end DeltaRobot
