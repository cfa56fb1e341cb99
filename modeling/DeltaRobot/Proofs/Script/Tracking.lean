import DeltaRobot.Proofs.Move.Accounting
import DeltaRobot.Run.Script
import Mathlib.Data.List.Chain

/-!
Contract: a script run tracks the pose of its machine.

The run keeps a position of its own beside the pose that the machine keeps. `ScriptState.Tracks`
ties the two together, with the segment that the queue accepted last; every move preserves it,
whether it completes, stops on its way or is refused. The segments of a whole run therefore form
one chain, in which each leaves from where the one before ends, across moves as well as within
them.

Owns: the invariant of the loop of moves, and the feed rates that follow from it.
Does not own: what a run reports.
-/

namespace DeltaRobot

variable {α : Type} [Scalar α]

/-! ### One move -/

/-- Within a course each segment leaves from the one before. -/
theorem Course.isChain {parameters : Parameters α} {plan : PlanData α} {route : Route α}
    {step : Nat} {previous : ArmAngles α} {segments : List (Segment α)}
    (course : Course parameters plan route step previous segments) :
    (∀ first ∈ segments.head?, first = route.segment plan first.angles previous) ∧
      segments.IsChain (fun before after =>
        after = route.segment plan after.angles before.angles) := by
  induction course with
  | nil => simp
  | cons reached rest inductionHypothesis =>
      obtain ⟨leaves, chained⟩ := inductionHypothesis
      refine ⟨?_, List.isChain_cons.2 ⟨leaves, chained⟩⟩
      intro first isFirst
      cases isFirst
      rfl

/-- The request that a step of a script hands to its machine. -/
def ScriptStep.request (step : ScriptStep α) : MoveRequest α :=
  { target := step.command.target
    plan := step.command.plan
    position := step.before.position
    offset := .zero }

/-- The line of a step, as it was cut into segments. -/
def ScriptStep.route (step : ScriptStep α) : Route α :=
  step.before.machine.routeOf step.request

/-- The run's position and the machine's pose agree. Once a segment has been accepted, the angles
of the last one are those that solve the position. -/
structure ScriptState.Tracks (state : ScriptState α) (last : Option (Segment α)) : Prop where
  tracked : state.position = state.machine.pose.cartesian
  solved : ∀ segment ∈ last,
    inverse state.machine.parameters state.position = .ok segment.angles ∧
      state.machine.pose.angles = segment.angles

theorem ScriptState.tracks_initial (machine : Machine α) :
    (ScriptState.initial machine).Tracks none :=
  ⟨rfl, by simp⟩

theorem ScriptState.balanced_step (state : ScriptState α) (index : Nat)
    (command : MoveCommand α) :
    MoveReport.Balanced state.machine .journalling (.startingAt state.unreported)
      (state.step index command).request (state.step index command).report :=
  (state.machine.moved _ _ _).balanced

/-- A move that had a segment accepted takes the run to where the machine then is. -/
theorem ScriptState.position_of_moved {state : ScriptState α} {index : Nat}
    {command : MoveCommand α} (someSent : 0 < (state.step index command).report.accepted.length) :
    (state.step index command).after.position =
      (state.step index command).after.machine.pose.cartesian := by
  have balanced := state.balanced_step index command
  change state.positionAfter command.target (state.step index command).report = _
  rw [ScriptState.positionAfter]
  cases ended : (state.step index command).report.outcome with
  | ok => exact (balanced.completed ended).2.2.2.symm
  | error cause =>
      dsimp only
      rw [(balanced.failed cause ended).1, if_pos someSent]
      rfl

theorem ScriptState.position_of_unmoved {state : ScriptState α} {index : Nat}
    {command : MoveCommand α}
    (noneSent : (state.step index command).report.accepted.length = 0) :
    (state.step index command).after.position = state.position := by
  have balanced := state.balanced_step index command
  change state.positionAfter command.target (state.step index command).report = _
  rw [ScriptState.positionAfter]
  cases ended : (state.step index command).report.outcome with
  | ok =>
      obtain ⟨-, someSent, -⟩ := balanced.completed ended
      omega
  | error cause =>
      dsimp only
      rw [(balanced.failed cause ended).1, noneSent, if_neg (Nat.lt_irrefl 0)]

/-- Every move keeps the position and the pose together. -/
theorem ScriptState.Tracks.step {state : ScriptState α} {last : Option (Segment α)}
    (tracks : state.Tracks last) (index : Nat) (command : MoveCommand α) :
    (state.step index command).after.Tracks
      ((state.step index command).report.accepted.getLast?.or last) := by
  have balanced := state.balanced_step index command
  have sameParameters : (state.step index command).after.machine.parameters =
      state.machine.parameters := balanced.parameters
  rcases balanced.pose_cases with ⟨noneSent, pose⟩ | ⟨segment, last, pose, solved⟩
  · have samePosition := position_of_unmoved (List.length_eq_zero_iff.2 noneSent)
    have samePose : (state.step index command).after.machine.pose = state.machine.pose := pose
    rw [noneSent]
    constructor
    · rw [samePosition, samePose]
      exact tracks.tracked
    · rw [sameParameters, samePosition, samePose]
      exact tracks.solved
  · have someSent : 0 < (state.step index command).report.accepted.length := by
      refine List.length_pos_of_ne_nil (fun none => ?_)
      rw [none] at last
      cases last
    have position := position_of_moved someSent
    rw [last]
    refine ⟨position, fun other isLast => ?_⟩
    have isSegment : other = segment := by simpa using isLast.symm
    rw [isSegment, position, sameParameters]
    exact ⟨solved, pose⟩

/-- A segment of a script leaves from given angles: its feed rate is the one of the step from
there. -/
def LeavesFrom (angles : ArmAngles α) (sent : ScriptStep α × Segment α) : Prop :=
  sent.2 = sent.1.route.segment sent.1.command.plan sent.2.angles angles

/-- The accepted segments of a move, each with its move. -/
def ScriptStep.dispatched (step : ScriptStep α) : List (ScriptStep α × Segment α) :=
  step.report.accepted.map (fun segment => (step, segment))

/-- The first segment of a move leaves from the last accepted one of all moves before it, and each
other one from the segment before it. -/
private theorem ScriptState.Tracks.chain_step {state : ScriptState α} {last : Option (Segment α)}
    (tracks : state.Tracks last) (index : Nat) (command : MoveCommand α) :
    (∀ first ∈ (state.step index command).dispatched.head?, ∀ segment ∈ last,
        LeavesFrom segment.angles first) ∧
      (state.step index command).dispatched.IsChain (fun before after =>
        LeavesFrom before.2.angles after) := by
  have moved : state.machine.Moved .journalling (.startingAt state.unreported)
      (state.step index command).request (state.step index command).report :=
    state.machine.moved _ _ _
  rw [ScriptStep.dispatched, List.isChain_map, List.head?_map]
  rcases moved.course with noneSent | ⟨startAngles, started, course⟩
  · rw [noneSent]
    simp
  · obtain ⟨leaves, chained⟩ := course.isChain
    refine ⟨fun first isFirst segment isLast => ?_, chained⟩
    obtain ⟨head, isHead, rfl⟩ := Option.map_eq_some_iff.1 isFirst
    have sameAngles : startAngles = segment.angles :=
      Except.ok.inj (started.symm.trans (tracks.solved segment isLast).1)
    rw [← sameAngles]
    exact leaves head isHead

/-! ### The whole run -/

/-- The accepted segments of some moves, in order. -/
def dispatched (steps : List (ScriptStep α)) : List (ScriptStep α × Segment α) :=
  steps.flatMap ScriptStep.dispatched

/-- The segment that was accepted last in some moves, if any was. -/
def lastDispatched? (steps : List (ScriptStep α)) : Option (Segment α) :=
  (dispatched steps).getLast?.map Prod.snd

omit [Scalar α] in
private theorem lastDispatched?_cons (step : ScriptStep α) (steps : List (ScriptStep α))
    (last : Option (Segment α)) :
    (lastDispatched? (step :: steps)).or last =
      (lastDispatched? steps).or (step.report.accepted.getLast?.or last) := by
  simp only [lastDispatched?, dispatched, ScriptStep.dispatched, List.flatMap_cons,
    List.getLast?_append, List.getLast?_map, Option.map_or, Option.or_assoc, Option.map_map,
    Function.comp_def, Option.map_id']

theorem ScriptState.Tracks.before {state : ScriptState α} {last : Option (Segment α)}
    (tracks : state.Tracks last) {index : Nat} {commands : List (MoveCommand α)}
    {earlier later : List (ScriptStep α)} {step : ScriptStep α}
    (split : state.run index commands = earlier ++ step :: later) :
    step.before.Tracks ((lastDispatched? earlier).or last) := by
  induction commands generalizing state last index earlier with
  | nil => simp [run] at split
  | cons command commands inductionHypothesis =>
      rw [run] at split
      cases earlier with
      | nil =>
          obtain ⟨isFirst, -⟩ := List.cons.inj split
          rw [← isFirst]
          exact tracks
      | cons first earlier =>
          obtain ⟨isFirst, split⟩ := List.cons.inj split
          rw [lastDispatched?_cons, ← isFirst]
          exact inductionHypothesis (tracks.step index command) split

/-- The accepted segments of a run form one chain from the last one accepted before it. -/
theorem ScriptState.Tracks.chain_run {state : ScriptState α} {last : Option (Segment α)}
    (tracks : state.Tracks last) (index : Nat) (commands : List (MoveCommand α)) :
    (∀ first ∈ (dispatched (state.run index commands)).head?, ∀ segment ∈ last,
        LeavesFrom segment.angles first) ∧
      (dispatched (state.run index commands)).IsChain (fun before after =>
        LeavesFrom before.2.angles after) := by
  induction commands generalizing state last index with
  | nil => simp [run, dispatched]
  | cons command commands inductionHypothesis =>
      obtain ⟨stepLeaves, stepChained⟩ := tracks.chain_step index command
      obtain ⟨restLeaves, restChained⟩ := inductionHypothesis (tracks.step index command)
        (index + 1)
      rw [run, dispatched, List.flatMap_cons]
      refine ⟨fun first isFirst segment isLast => ?_,
        stepChained.append restChained (fun sent isLast first isFirst => ?_)⟩
      · rw [List.head?_append] at isFirst
        cases head : (state.step index command).dispatched.head? with
        | some sent =>
            rw [head] at isFirst
            exact stepLeaves first (head.trans isFirst) segment isLast
        | none =>
            have noneSent : (state.step index command).report.accepted = [] := by
              simpa [ScriptStep.dispatched] using head
            rw [head] at isFirst
            refine restLeaves first isFirst segment ?_
            rw [noneSent]
            exact isLast
      · have accepted : sent.2 ∈ (state.step index command).report.accepted.getLast? := by
          rw [ScriptStep.dispatched, List.getLast?_map] at isLast
          obtain ⟨segment, lastSegment, rfl⟩ := Option.map_eq_some_iff.1 isLast
          exact lastSegment
        refine restLeaves first isFirst sent.2 ?_
        rw [Option.mem_def.1 accepted]
        rfl

omit [Scalar α] in
private theorem willing_journalling : (Dispatcher.journalling : Dispatcher _ α).Willing :=
  fun _ _ => rfl

/-- A queue that keeps a journal cancels nothing, so what is offered to it is accepted. -/
theorem ScriptState.offered_step (state : ScriptState α) (index : Nat)
    (command : MoveCommand α) :
    (state.step index command).report.offered =
      (state.step index command).report.accepted.map (·, Response.accepted) := by
  have answered := congrArg Prod.fst (state.balanced_step index command).answered
  rw [willing_journalling.offerAll, List.map_map, List.map_inj_left] at answered
  generalize (state.step index command).report = report at answered ⊢
  have allAccepted : report.offered.filter (fun offer => offer.2 = .accepted) =
      report.offered := by
    refine List.filter_eq_self.2 (fun offer member => ?_)
    simpa using (answered offer member).symm
  calc report.offered = report.offered.map id := (List.map_id _).symm
    _ = report.offered.map (fun offer => (offer.1, Response.accepted)) :=
      List.map_congr_left (fun offer member => Prod.ext rfl (answered offer member).symm)
    _ = report.accepted.map (·, Response.accepted) := by
      rw [MoveReport.accepted, allAccepted, List.map_map]
      rfl

/-- A run makes one move of every command, in order. -/
theorem ScriptState.map_run (state : ScriptState α) (index : Nat)
    (commands : List (MoveCommand α)) :
    (state.run index commands).map ScriptStep.command = commands ∧
      (state.run index commands).map ScriptStep.index = List.range' index commands.length := by
  induction commands generalizing state index with
  | nil => exact ⟨rfl, rfl⟩
  | cons command commands inductionHypothesis =>
      obtain ⟨sameCommands, indices⟩ :=
        inductionHypothesis (state.step index command).after (index + 1)
      rw [run, List.map_cons, List.map_cons, sameCommands, indices]
      exact ⟨rfl, rfl⟩

theorem ScriptState.eq_step_of_mem_run {state : ScriptState α} {index : Nat}
    {commands : List (MoveCommand α)} {step : ScriptStep α}
    (member : step ∈ state.run index commands) :
    step = step.before.step step.index step.command := by
  induction commands generalizing state index with
  | nil => simp [run] at member
  | cons command commands inductionHypothesis =>
      rw [run] at member
      rcases List.mem_cons.1 member with isFirst | inRest
      · rw [isFirst]
        rfl
      · exact inductionHypothesis inRest

/-- What every move keeps holds at the head of every iteration. -/
theorem ScriptState.holds_of_mem_run (holds : ScriptState α → Prop)
    (kept : ∀ state index command, holds state →
      holds (ScriptState.step state index command).after)
    {state : ScriptState α} (first : holds state) {index : Nat} {commands : List (MoveCommand α)}
    {step : ScriptStep α} (member : step ∈ state.run index commands) : holds step.before := by
  induction commands generalizing state index with
  | nil => simp [run] at member
  | cons command commands inductionHypothesis =>
      rw [run] at member
      rcases List.mem_cons.1 member with isFirst | later
      · rw [isFirst]
        exact first
      · exact inductionHypothesis (kept state index command first) later

/-- A run keeps its position on the pose of the machine, whatever becomes of its moves: at the head
of every iteration the two agree, and the angles of the segment accepted last solve the position.
Every segment but the first of the run therefore leaves from the angles of the one accepted
immediately before it, and its feed rate is scaled by the distance from there. -/
theorem run_tracks_pose (machine : Machine α) (commands : List (MoveCommand α)) :
    (∀ step ∈ (ScriptState.initial machine).run 0 commands,
      step.report.offered = step.report.accepted.map (·, Response.accepted)) ∧
    (∀ earlier step later,
      (ScriptState.initial machine).run 0 commands = earlier ++ step :: later →
        step.before.position = step.before.machine.pose.cartesian ∧
        ∀ segment, lastDispatched? earlier = some segment →
          inverse step.before.machine.parameters step.before.position =
              .ok step.before.machine.pose.angles ∧
            step.before.machine.pose.angles = segment.angles) ∧
    ∀ earlier previous step segment later,
      dispatched ((ScriptState.initial machine).run 0 commands) =
          earlier ++ previous :: (step, segment) :: later →
        step.command.rapid = false → Scalar.equal step.route.stepLength Scalar.zero = false →
          segment.feedRate = step.command.feedRate * segment.angles.distance previous.2.angles /
            step.route.stepLength := by
  have tracks := ScriptState.tracks_initial machine
  refine ⟨fun step member => ?_, fun earlier step later split => ?_, ?_⟩
  · rw [ScriptState.eq_step_of_mem_run member]
    exact ScriptState.offered_step _ _ _
  · have before := tracks.before split
    rw [Option.or_none] at before
    refine ⟨before.tracked, fun segment isLast => ?_⟩
    obtain ⟨solved, angles⟩ := before.solved segment isLast
    rw [angles]
    exact ⟨solved, rfl⟩
  · intro earlier previous step segment later split interpolated someLength
    have chained := (tracks.chain_run 0 commands).2
    have leaves := List.isChain_iff_forall_rel_of_append_cons_cons.1 chained split
    have feedRate := congrArg Segment.feedRate leaves
    simpa [Route.segment, Route.feedRate, MoveCommand.plan, interpolated, someLength] using feedRate

end DeltaRobot
