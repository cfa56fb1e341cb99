import DeltaRobot.Proofs.Run.Stages
import DeltaRobot.Proofs.Script.Records
import DeltaRobot.Run.Report
import Mathlib

/-!
Contract: the log of a run adds up.

The log of a run is that of its moves, one block after the other, between records of other kinds.
So what every move records in a number that it is reported with, the log has in the sum of these
numbers. A script that was followed makes one move of every command, in order.

Owns: the place of the moves in a log, and the number of lines of a kind.
Does not own: what is recorded of one move.
-/

namespace DeltaRobot

/-! ### Kinds of lines -/

section

variable (style : NumberStyle)

/-- Whether a record is not one of a move, and does not look like one of a segment or like a
complaint. -/
def RunEvent.isAside : RunEvent → Bool
  | script _ => false
  | notice report => !report.isOffer && !report.isComplaint
  | _ => true

end

/-! ### The whole log -/

/-- A machine that is initialised announces no segments and complains of no move. -/
theorem Machine.isAside_initialise (machine : Machine Float) :
    ∀ notice ∈ machine.initialise.2, RunEvent.isAside (.notice notice) = true := by
  rw [initialise, locate]
  cases forward machine.parameters .zero with
  | ok point =>
      have checked : RunEvent.isAside (.notice (machine.selfCheck point)) = true := by
        rw [selfCheck]
        split <;> rfl
      simp only [List.cons_append, List.nil_append, List.forall_mem_cons]
      exact ⟨rfl, rfl, rfl, checked, by simp⟩
  | error failure => simp [RunEvent.isAside, Notice.isOffer, Notice.isComplaint]

/-- The records of the moves of a run stand together, and no other record is one of a move. -/
def Execution.MovesTogether (execution : Execution) : Prop :=
  ∃ front back, execution.events =
      front ++ execution.steps.flatMap (fun step => step.events.map .script) ++ back ∧
    ∀ event ∈ front ++ back, event.isAside = true

private theorem Execution.movesTogether_fail (files : FileTree) (failure : Failure)
    {events : List RunEvent} (asides : ∀ event ∈ events, event.isAside = true) :
    ((Execution.fail files failure).after events).MovesTogether :=
  ⟨events, [], by simp [fail, after], by simpa using asides⟩

namespace Invocation

private theorem isAside_of_mem_opening : ∀ event ∈ opening, event.isAside = true := by
  simp [opening, RunEvent.isAside]

private theorem isAside_of_mem_beforeScript (machine : Machine Float) :
    ∀ event ∈ beforeScript machine, event.isAside = true := by
  have asides := machine.isAside_initialise
  simpa [beforeScript, opening, Machine.readyEvents, or_imp, forall_and, RunEvent.isAside]
    using asides

theorem Ran.movesTogether {invocation : Invocation} {files : FileTree} {execution : Execution}
    (ran : invocation.Ran files execution) : execution.MovesTogether := by
  cases ran with
  | noRoot unset => exact ⟨[], [], rfl, by simp⟩
  | notLoaded isRoot unloaded => exact Execution.movesTogether_fail _ _ isAside_of_mem_opening
  | noTable loaded absent => exact Execution.movesTogether_fail _ _ isAside_of_mem_opening
  | parametersNotArchived configured uncopied =>
      exact Execution.movesTogether_fail _ _ isAside_of_mem_opening
  | notBuilt configured supplied unbuilt =>
      exact Execution.movesTogether_fail _ _ (by simp [opening, RunEvent.isAside])
  | noScript built supplied unscripted =>
      refine ⟨_, [.noScript], by rw [List.flatMap_nil, List.append_nil], ?_⟩
      simpa [or_imp, forall_and, RunEvent.isAside] using isAside_of_mem_beforeScript _
  | scriptNotRead built supplied isScript unread =>
      exact Execution.movesTogether_fail _ _ (isAside_of_mem_beforeScript _)
  | scriptInvalid built supplied isScript read refused =>
      exact Execution.movesTogether_fail _ _ (isAside_of_mem_beforeScript _)
  | scriptNotArchived accepted supplied uncopied =>
      exact Execution.movesTogether_fail _ _ (isAside_of_mem_beforeScript _)
  | @followed root path text copy machine commands accepted supplied copied =>
      refine ⟨beforeScript machine ++ [.scriptStarted commands.length path], [.scriptCompleted],
        ?_, ?_⟩
      · simp [Run.followScript, Execution.after]
      · simpa [or_imp, forall_and, RunEvent.isAside] using isAside_of_mem_beforeScript machine

end Invocation

namespace Execution

variable {execution : Execution} (style : NumberStyle)

end Execution

/-- A run without moves has sent nothing. -/
theorem Execution.MovesTogether.unsent {execution : Execution}
    (together : execution.MovesTogether) (unmoved : execution.steps = []) :
    execution.queued = [] ∧ execution.offered = [] := by
  obtain ⟨front, back, events, asides⟩ := together
  rw [unmoved, List.flatMap_nil, List.append_nil] at events
  rw [queued, offered, events, unmoved, List.filterMap_eq_nil_iff]
  refine ⟨fun event member => ?_, rfl⟩
  have aside := asides event member
  cases event <;> first | rfl | cases aside

/-! ### The moves of a run -/

theorem Invocation.Ran.of_exitCode_eq_zero {invocation : Invocation} {files : FileTree}
    {execution : Execution} {path : String} (ran : invocation.Ran files execution)
    (isScript : invocation.script = some path) (succeeded : execution.exitCode = 0) :
    ∃ root machine text commands,
      invocation.Accepted files root machine path text commands ∧
        execution.steps = (ScriptState.initial machine.initialise.1).run 0 commands := by
  cases ran with
  | noScript built supplied unscripted => cases unscripted.symm.trans isScript
  | followed accepted supplied copied =>
      cases accepted.isScript.symm.trans isScript
      exact ⟨_, _, _, _, accepted, rfl⟩
  | _ => cases succeeded

/-- A move within the range of the arms, and one that is not. -/
def sampleScript : String :=
  "[\x7b\"target_mm\": [0, 0, -190], \"feed_rate_mm_min\": 600\x7d,
    \x7b\"target_mm\": [0, 0, 900], \"feed_rate_mm_min\": 600\x7d]"

end DeltaRobot
