import DeltaRobot.Proofs.Script.Tracking

/-!
Contract: where the moves of a script run start.

A move is refused at its start exactly when the arms do not reach the position that the run tracks.
Every position that a run comes to track was solved before, as a target or as a waypoint, so being
reachable is kept by every move. If the first position is not reachable, no move gets under way and
none changes anything.

Owns: the fate of the start check over a whole run.
Does not own: the other reasons for which a move stops.
-/

namespace DeltaRobot

variable {α : Type} [Scalar α]

/-! ### One move -/

/-- The arms reach the position that the run tracks. -/
def ScriptState.Grounded (state : ScriptState α) : Prop :=
  ∃ angles, inverse state.machine.parameters state.position = .ok angles

/-- A move that had a segment accepted leaves the run at a solved waypoint, and any other leaves it
where it was. -/
theorem ScriptState.Grounded.step {state : ScriptState α} (grounded : state.Grounded)
    (index : Nat) (command : MoveCommand α) : (state.step index command).after.Grounded := by
  have balanced := state.balanced_step index command
  have sameParameters : (state.step index command).after.machine.parameters =
      state.machine.parameters := balanced.parameters
  rw [Grounded, sameParameters]
  rcases balanced.pose_cases with ⟨noneSent, -⟩ | ⟨segment, last, -, solved⟩
  · rw [position_of_unmoved (List.length_eq_zero_iff.2 noneSent)]
    exact grounded
  · have someSent : 0 < (state.step index command).report.accepted.length :=
      List.length_pos_of_mem (List.mem_of_getLast? last)
    rw [position_of_moved someSent]
    exact ⟨_, solved⟩

theorem ScriptState.Grounded.outcome_step_ne {state : ScriptState α} (grounded : state.Grounded)
    (index : Nat) (command : MoveCommand α) (cause : KinematicError) :
    (state.step index command).report.outcome ≠ .error (.startUnreachable cause) := by
  intro refused
  obtain ⟨angles, reached⟩ := grounded
  have moved : state.machine.Moved .journalling (.startingAt state.unreported)
      (state.step index command).request (state.step index command).report :=
    state.machine.moved _ _ _
  cases reached.symm.trans (moved.startUnreachable_iff.1 refused)

/-- A move from an unreachable position does nothing. -/
theorem ScriptState.step_of_unreached {state : ScriptState α} {cause : KinematicError}
    (unreached : inverse state.machine.parameters state.position = .error cause)
    (index : Nat) (command : MoveCommand α) :
    (state.step index command).report.outcome = .error (.startUnreachable cause) ∧
      (state.step index command).report.offered = [] ∧
      (state.step index command).after.machine = state.machine ∧
      (state.step index command).after.position = state.position := by
  simp [step, Machine.move, unreached, positionAfter, MoveError.segmentsDispatched]

/-! ### The whole run -/

theorem ScriptState.Grounded.outcome_run_ne {state : ScriptState α} (grounded : state.Grounded)
    (index : Nat) (commands : List (MoveCommand α)) :
    ∀ step ∈ state.run index commands, ∀ cause,
      step.report.outcome ≠ .error (.startUnreachable cause) := by
  intro step member
  have before : step.before.Grounded :=
    holds_of_mem_run Grounded (fun _ index command before => before.step index command) grounded
      member
  rw [eq_step_of_mem_run member]
  exact before.outcome_step_ne step.index step.command

theorem ScriptState.run_of_unreached {state : ScriptState α} {cause : KinematicError}
    (unreached : inverse state.machine.parameters state.position = .error cause)
    (index : Nat) (commands : List (MoveCommand α)) :
    ∀ step ∈ state.run index commands,
      step.report.outcome = .error (.startUnreachable cause) ∧ step.report.offered = [] ∧
        step.before.position = state.position ∧ step.after.position = state.position := by
  intro step member
  obtain ⟨stillUnreached, samePosition⟩ :
      inverse step.before.machine.parameters step.before.position = .error cause ∧
        step.before.position = state.position := by
    refine holds_of_mem_run (fun before =>
      inverse before.machine.parameters before.position = .error cause ∧
        before.position = state.position) ?_ ⟨unreached, rfl⟩ member
    rintro before index command ⟨stillUnreached, samePosition⟩
    obtain ⟨-, -, sameMachine, unmoved⟩ := step_of_unreached stillUnreached index command
    rw [sameMachine, unmoved]
    exact ⟨stillUnreached, samePosition⟩
  obtain ⟨outcome, offered, -, unmoved⟩ :=
    step_of_unreached stillUnreached step.index step.command
  rw [← eq_step_of_mem_run member] at outcome offered unmoved
  exact ⟨outcome, offered, samePosition, unmoved.trans samePosition⟩

/-- The start check of a run is all or nothing. The run makes one move of every command, in order.
If the arms do not reach the position that the machine starts from, every move is refused for that
reason, nothing is offered to the queue, and the run goes on tracking that position. If they do, no
move is ever refused at its start, whatever became of the moves before it. -/
theorem run_start_all_or_nothing (machine : Machine α) (commands : List (MoveCommand α)) :
    ((ScriptState.initial machine).run 0 commands).map ScriptStep.command = commands ∧
    ((ScriptState.initial machine).run 0 commands).map ScriptStep.index =
      List.range commands.length ∧
    match inverse machine.parameters machine.pose.cartesian with
    | .error cause =>
        ∀ step ∈ (ScriptState.initial machine).run 0 commands,
          step.report.outcome = .error (.startUnreachable cause) ∧ step.report.offered = [] ∧
            step.before.position = machine.pose.cartesian ∧
            step.after.position = machine.pose.cartesian
    | .ok _ =>
        ∀ step ∈ (ScriptState.initial machine).run 0 commands, ∀ cause,
          step.report.outcome ≠ .error (.startUnreachable cause) := by
  obtain ⟨sameCommands, indices⟩ := (ScriptState.initial machine).map_run 0 commands
  refine ⟨sameCommands, by rw [indices, List.range_eq_range'], ?_⟩
  cases first : inverse machine.parameters machine.pose.cartesian with
  | error cause => exact ScriptState.run_of_unreached first 0 commands
  | ok angles =>
      have grounded : (ScriptState.initial machine).Grounded := ⟨angles, first⟩
      exact grounded.outcome_run_ne 0 commands

end DeltaRobot
