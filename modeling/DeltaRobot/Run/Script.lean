import DeltaRobot.Machine.Move

/-!
Contract: a machine that follows a script.

The moves of a script are carried out one after the other against a motion queue that accepts every
segment and numbers those of one move. The run tracks the position of the end effector on its own:
after a completed move it is the target, after a move that stopped part way it is where the machine
says it is, and a move that sent nothing leaves it alone. No move ends the run.

Owns: `ScriptState`, `ScriptStep` and what a step reports.
Does not own: where a script comes from, and the wording of the reports.
-/

namespace DeltaRobot

/-- What a motion queue keeps that numbers its segments: how many it accepted since it was last
asked, and the numbered segments, the latest first. -/
structure Journal (α : Type) where
  count : Nat
  entriesReversed : List (Nat × Segment α)

namespace Journal

variable {α : Type}

/-- An empty journal that goes on counting from a number. -/
def startingAt (count : Nat) : Journal α := { count, entriesReversed := [] }

def entries (journal : Journal α) : List (Nat × Segment α) := journal.entriesReversed.reverse

end Journal

/-- Accepts every segment and gives it the next number. -/
def Dispatcher.journalling {α : Type} : Dispatcher (Journal α) α := fun journal segment =>
  let number := journal.count + 1
  (.accepted,
    { count := number, entriesReversed := (number, segment) :: journal.entriesReversed })

/-- An accepted segment becomes the last entry, under the new count. -/
theorem Journal.entries_journalling {α : Type} (journal : Journal α) (segment : Segment α) :
    (Dispatcher.journalling journal segment).2.entries =
      journal.entries ++ [(journal.count + 1, segment)] := by
  simp [Dispatcher.journalling, entries]

structure ScriptState (α : Type) where
  machine : Machine α
  /-- Where the run takes the end effector to be. -/
  position : Point α
  /-- How many segments the queue has accepted and nobody has asked about. -/
  unreported : Nat

inductive ScriptEvent (α : Type) where
  | notice (notice : Notice α)
  /-- The queue accepted a segment under a number. -/
  | queued (number : Nat) (segment : Segment α)
  | completed (index : Nat) (target : Point α) (segments : Nat)
  | rejected (index : Nat) (target : Point α) (segments : Nat) (cause : MoveError)
  | armsAt (position : Point α)
  | armsUnknown (cause : KinematicError)

/-- Whether a notice announces a segment. -/
def Notice.isOffer {α : Type} : Notice α → Bool
  | offering _ _ _ => true
  | _ => false

/-- One move of a script, with the states around it. -/
structure ScriptStep (α : Type) where
  index : Nat
  command : MoveCommand α
  before : ScriptState α
  report : MoveReport (Journal α) α
  segments : Nat
  after : ScriptState α

variable {α : Type}

namespace ScriptStep

/-- What the machine reports of a move and what the queue records of it, in the order in which they
do. The queue answers each segment that is announced before the machine goes on. -/
def interleave : List (Notice α) → List (Nat × Segment α) → List (ScriptEvent α)
  | [], entries => entries.map (fun entry => .queued entry.1 entry.2)
  | notice :: notices, [] => .notice notice :: interleave notices []
  | notice :: notices, entry :: entries =>
      if notice.isOffer then
        .notice notice :: .queued entry.1 entry.2 :: interleave notices entries
      else .notice notice :: interleave notices (entry :: entries)

def outcomeEvent (step : ScriptStep α) : ScriptEvent α :=
  match step.report.outcome with
  | .ok () => .completed step.index step.command.target step.segments
  | .error cause => .rejected step.index step.command.target step.segments cause

def armEvents [Scalar α] (step : ScriptStep α) : List (ScriptEvent α) :=
  let located := step.after.machine.locate step.after.machine.pose.angles
  located.2.map .notice ++
    [match located.1 with
    | .ok position => .armsAt position
    | .error cause => .armsUnknown cause]

def events [Scalar α] (step : ScriptStep α) : List (ScriptEvent α) :=
  interleave step.report.notices step.report.queue.entries ++
    step.outcomeEvent :: step.armEvents

end ScriptStep

namespace ScriptState

def initial (machine : Machine α) : ScriptState α :=
  { machine, position := machine.pose.cartesian, unreported := 0 }

/-- Where the run takes the end effector to be after a move. -/
def positionAfter (state : ScriptState α) (target : Point α)
    (report : MoveReport (Journal α) α) : Point α :=
  match report.outcome with
  | .ok () => target
  | .error cause =>
      if 0 < cause.segmentsDispatched then report.machine.pose.cartesian else state.position

variable [Scalar α]

def step (state : ScriptState α) (index : Nat) (command : MoveCommand α) : ScriptStep α :=
  let report := state.machine.move Dispatcher.journalling (Journal.startingAt state.unreported)
    { target := command.target
      plan := command.plan
      position := state.position
      offset := .zero }
  { index
    command
    before := state
    report
    segments := report.queue.count
    after :=
      { machine := report.machine
        position := state.positionAfter command.target report
        unreported := 0 } }

/-- Carries out moves in order, the first of which has the given number. -/
def run (state : ScriptState α) (index : Nat) : List (MoveCommand α) → List (ScriptStep α)
  | [] => []
  | command :: commands =>
      let step := state.step index command
      step :: run step.after (index + 1) commands

def final (state : ScriptState α) : List (ScriptStep α) → ScriptState α
  | [] => state
  | step :: steps => final step.after steps

end ScriptState

end DeltaRobot
