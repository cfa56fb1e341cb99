import DeltaRobot.Proofs.Script.Tracking

/-!
Contract: what a script run records of its moves.

The queue numbers the segments of a move from one, and its count is what the move is reported with.
`ScriptStep.Recorded` says how the records of one move agree with that count: every segment is
recorded when it is offered and when it is queued, a rejected move complains once, and one report
and one position of the arms close the move. It holds of every move of a run, since the count is
taken and reset after each.

Owns: the numbers in the journal, the kinds of records, and how the records of a move add up.
Does not own: the wording of records, and the rest of a log.
-/

namespace DeltaRobot

variable {α : Type}

/-! ### The journal -/

/-- Segments under consecutive numbers. -/
def numbered (first : Nat) (segments : List (Segment α)) : List (Nat × Segment α) :=
  (List.range' first segments.length).zip segments

@[simp]
theorem numbered_nil (first : Nat) : numbered first ([] : List (Segment α)) = [] := rfl

theorem numbered_cons (first : Nat) (segment : Segment α) (segments : List (Segment α)) :
    numbered first (segment :: segments) = (first, segment) :: numbered (first + 1) segments := by
  simp [numbered, List.range'_succ]

/-- The segments that a journal is offered are its next entries, and it counts them. -/
theorem Journal.offerAll_journalling (journal : Journal α) (segments : List (Segment α)) :
    ((Dispatcher.offerAll .journalling journal segments).2.count =
        journal.count + segments.length) ∧
      (Dispatcher.offerAll .journalling journal segments).2.entries =
        journal.entries ++ numbered (journal.count + 1) segments := by
  induction segments generalizing journal with
  | nil => simp [Dispatcher.offerAll]
  | cons segment segments inductionHypothesis =>
      obtain ⟨count, entries⟩ := inductionHypothesis (Dispatcher.journalling journal segment).2
      rw [Dispatcher.offerAll]
      dsimp only
      rw [count, entries, Journal.entries_journalling, numbered_cons]
      have next : (Dispatcher.journalling journal segment).2.count = journal.count + 1 := rfl
      rw [next, List.length_cons, List.append_assoc]
      exact ⟨by omega, rfl⟩

section

variable [Scalar α]

/-- A move that starts with nothing unreported has its segments numbered from one. -/
theorem ScriptState.queue_step {state : ScriptState α} (reported : state.unreported = 0)
    (index : Nat) (command : MoveCommand α) :
    (state.step index command).segments = (state.step index command).report.accepted.length ∧
      (state.step index command).report.queue.entries =
        numbered 1 (state.step index command).report.accepted := by
  have offers : (state.step index command).report.offered.map Prod.fst =
      (state.step index command).report.accepted := by
    rw [state.offered_step, List.map_map]
    exact List.map_id _
  have answered := congrArg Prod.snd (state.balanced_step index command).answered
  rw [offers] at answered
  dsimp only at answered
  obtain ⟨count, entries⟩ := (Journal.startingAt state.unreported).offerAll_journalling
    (state.step index command).report.accepted
  rw [answered, reported] at count entries
  rw [Journal.startingAt, Nat.zero_add] at count
  exact ⟨count, entries⟩

end

/-! ### Kinds of records -/

/-- Whether a notice says why a move is refused or gets stuck. -/
def Notice.isComplaint : Notice α → Bool
  | startInvalid _ _ => true
  | targetUnreachable _ _ => true
  | segmentUnreachable _ _ _ _ => true
  | _ => false

namespace ScriptEvent

def isOffer : ScriptEvent α → Bool
  | notice report => report.isOffer
  | _ => false

/-- The number under which a segment was queued. -/
def number? : ScriptEvent α → Option Nat
  | queued number _ => some number
  | _ => none

def isComplaint : ScriptEvent α → Bool
  | notice report => report.isComplaint
  | _ => false

end ScriptEvent

/-! ### The records of segments -/

namespace ScriptStep

end ScriptStep

section

variable (step : Nat) (segments : List (Segment α))

end

section

variable (notices : List (Notice α))

end

/-! ### The records of one move -/

namespace ScriptStep

section

variable (step : ScriptStep α)

variable [Scalar α]

end

end ScriptStep

section

variable [Scalar α]

end

/-! ### Numbers of records -/

section

variable [Scalar α] {step : ScriptStep α}

end

end DeltaRobot
