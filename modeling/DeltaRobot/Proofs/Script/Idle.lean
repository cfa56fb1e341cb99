import DeltaRobot.Proofs.Script.Records

/-!
Contract: moves that send nothing leave no trace in a run.

A move that is rejected before its first segment is accepted is idle. It changes neither the machine
nor the tracked position, and nothing is left unreported, so the moves after it go as if it had not
been in the script. Taking all idle moves out of a script therefore changes the numbers of the other
moves and nothing else.

Owns: `ScriptStep.isIdle`, and the run of a script without its idle moves.
Does not own: why a move is rejected.
-/

namespace DeltaRobot

attribute [ext] Machine ScriptState

variable {α : Type}

/-- Whether a move was rejected before any of its segments was accepted. -/
def ScriptStep.isIdle (step : ScriptStep α) : Bool :=
  match step.report.outcome with
  | .ok () => false
  | .error cause => cause.segmentsDispatched = 0

/-- The same moves, numbered from a given number on. -/
def renumbered (first : Nat) (steps : List (ScriptStep α)) : List (ScriptStep α) :=
  (steps.zipIdx first).map (fun entry => { entry.1 with index := entry.2 })

theorem renumbered_cons (first : Nat) (step : ScriptStep α) (steps : List (ScriptStep α)) :
    renumbered first (step :: steps) =
      { step with index := first } :: renumbered (first + 1) steps := rfl

/-- What the queue accepted in some moves, each segment under its number. -/
def queueEntries (steps : List (ScriptStep α)) : List (Nat × Segment α) :=
  steps.flatMap (fun step => step.report.queue.entries)

section

variable [Scalar α]

/-! ### One move -/

theorem ScriptState.accepted_of_isIdle {state : ScriptState α} {index : Nat}
    {command : MoveCommand α} (idle : (state.step index command).isIdle = true) :
    (state.step index command).report.accepted = [] := by
  have balanced := state.balanced_step index command
  rw [ScriptStep.isIdle] at idle
  cases ended : (state.step index command).report.outcome with
  | ok => simp [ended] at idle
  | error cause =>
      rw [ended] at idle
      refine List.eq_nil_of_length_eq_zero ?_
      rw [← (balanced.failed cause ended).1]
      simpa using idle

/-- An idle move leaves the run as it was. -/
theorem ScriptState.after_of_isIdle {state : ScriptState α} (reported : state.unreported = 0)
    {index : Nat} {command : MoveCommand α} (idle : (state.step index command).isIdle = true) :
    (state.step index command).after = state := by
  have balanced := state.balanced_step index command
  have noneSent : (state.step index command).report.accepted.length = 0 := by
    rw [accepted_of_isIdle idle, List.length_nil]
  have machine : (state.step index command).after.machine = state.machine :=
    Machine.ext balanced.parameters (balanced.unmoved noneSent) balanced.zOffset
  exact ScriptState.ext machine (position_of_unmoved noneSent) reported.symm

/-- An idle move queues nothing. -/
theorem ScriptState.entries_of_isIdle {state : ScriptState α} (reported : state.unreported = 0)
    {index : Nat} {command : MoveCommand α} (idle : (state.step index command).isIdle = true) :
    (state.step index command).report.queue.entries = [] := by
  rw [(queue_step reported index command).2, accepted_of_isIdle idle, numbered_nil]

/-! ### The whole run -/

/-- The moves that stay behind when the idle ones are taken out of a script go as they did with
them, queue what was queued, and end where the run ended. -/
theorem ScriptState.run_kept {state : ScriptState α} (reported : state.unreported = 0)
    (index first : Nat) (commands : List (MoveCommand α)) :
    let kept := (state.run index commands).filter (fun step => !step.isIdle)
    state.run first (kept.map ScriptStep.command) = renumbered first kept ∧
      queueEntries (renumbered first kept) = queueEntries (state.run index commands) ∧
      state.final (renumbered first kept) = state.final (state.run index commands) := by
  induction commands generalizing state index first with
  | nil => exact ⟨rfl, rfl, rfl⟩
  | cons command commands inductionHypothesis =>
      dsimp only
      rw [run, final, queueEntries, queueEntries, List.flatMap_cons]
      cases idle : (state.step index command).isIdle with
      | true =>
          rw [List.filter_cons_of_neg (by simp [idle]), after_of_isIdle reported idle,
            entries_of_isIdle reported idle, List.nil_append]
          exact inductionHypothesis reported (index + 1) first
      | false =>
          rw [List.filter_cons_of_pos (by simp [idle]), List.map_cons, renumbered_cons, run,
            List.flatMap_cons]
          have reportedAfter : (state.step index command).after.unreported = 0 := rfl
          obtain ⟨sameMoves, sameEntries, sameEnd⟩ :=
            inductionHypothesis reportedAfter (index + 1) (first + 1)
          exact ⟨congrArg _ sameMoves, congrArg _ sameEntries, sameEnd⟩

/-- A move that sent nothing is as good as not made. Without the idle moves of a script, the other
ones go exactly as with them, under new numbers; the queue gets the same segments under the same
numbers, and the run ends with the machine and the position that it had. -/
theorem run_skips_idle_moves (machine : Machine α) (commands : List (MoveCommand α)) :
    let start := ScriptState.initial machine
    let steps := start.run 0 commands
    let kept := steps.filter (fun step => !step.isIdle)
    let reduced := start.run 0 (kept.map ScriptStep.command)
    reduced = renumbered 0 kept ∧ queueEntries reduced = queueEntries steps ∧
      start.final reduced = start.final steps := by
  intro start steps kept reduced
  have reported : start.unreported = 0 := rfl
  obtain ⟨sameMoves, sameEntries, sameEnd⟩ := ScriptState.run_kept reported 0 0 commands
  have isReduced : reduced = renumbered 0 kept := sameMoves
  rw [isReduced]
  exact ⟨rfl, sameEntries, sameEnd⟩

end

end DeltaRobot
