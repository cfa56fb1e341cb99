import DeltaRobot.Proofs.Exact.Coherence
import DeltaRobot.Proofs.Exact.Distance

/-!
Contract: the plan of a move, and how a queue can cut it short.

The plan is stated by the number of a step alone. A step ends in the angles that solve its waypoint,
and its segment is sent if both its ends are reachable; nothing in the plan depends on a queue.
`KeepsPlan` says that a move offers a first part of its plan, and where that part ends: at the
target, at the first cancelled segment, or in front of the first unreachable waypoint, whichever
comes first.

Owns: the plan and its refinement by every move that gets under way.
Does not own: moves that are refused at one of their ends.
-/

namespace DeltaRobot

variable {σ α : Type} [Scalar α]

/-! ### The plan -/

namespace MoveRequest

def start (request : MoveRequest α) : Point α := request.position.translate request.offset

def way (request : MoveRequest α) : Displacement α :=
  request.target.displacementFrom request.start

/-- Where a step ends. The steps are equal parts of the way, and the last one ends on the target. -/
def waypoint (request : MoveRequest α) (longest : α) (step : Nat) : Point α :=
  if step < request.segmentCount longest then
    request.start.translate
      (request.way.scale (Scalar.ofNat step / Scalar.ofNat (request.segmentCount longest)))
  else request.target

def stepLength (request : MoveRequest α) (longest : α) : α :=
  request.way.length / Scalar.ofNat (request.segmentCount longest)

/-- The segment of a step that leads from `previous` to `angles`. -/
def segment (request : MoveRequest α) (longest : α) (previous angles : ArmAngles α) :
    Segment α where
  angles := angles
  feedRate :=
    if request.plan.motion = .rapid ∨ Scalar.equal (request.stepLength longest) Scalar.zero = true
    then request.plan.feedRate
    else request.plan.feedRate * angles.distance previous / request.stepLength longest
  motion := request.plan.motion

end MoveRequest

/-- The values in front of the first missing one. -/
def leading {β : Type} : List (Option β) → List β
  | some value :: rest => value :: leading rest
  | _ => []

namespace Machine

/-- The angles in which a step ends. Step zero is the tracked position, which the work offset does
not displace. -/
def stepEnd (machine : Machine α) (request : MoveRequest α) :
    Nat → Except KinematicError (ArmAngles α)
  | 0 => inverse machine.parameters request.position
  | step + 1 =>
      inverse machine.parameters (request.waypoint machine.parameters.segmentLength (step + 1))

/-- The segment that follows a step, if both its ends are reachable. -/
def planned? (machine : Machine α) (request : MoveRequest α) (step : Nat) : Option (Segment α) :=
  match machine.stepEnd request step, machine.stepEnd request (step + 1) with
  | .ok previous, .ok angles =>
      some (request.segment machine.parameters.segmentLength previous angles)
  | _, _ => none

/-- The segments of a request, as far as its waypoints are reachable. -/
def plan (machine : Machine α) (request : MoveRequest α) : List (Segment α) :=
  leading ((List.range (request.segmentCount machine.parameters.segmentLength)).map
    (machine.planned? request))

end Machine

/-- The queue cancels the segment of a number, counted from one, when it is offered a stream. -/
def Dispatcher.Cancels (dispatcher : Dispatcher σ α) (queue : σ) (stream : List (Segment α))
    (number : Nat) : Prop :=
  0 < number ∧ (dispatcher.offerAll queue stream).1[number - 1]? = some .cancelled

/-- Where the plan of a request can be cut: at its end, behind a segment that the queue cancels, and
in front of a waypoint that is unreachable. -/
def Machine.cuts (machine : Machine α) (dispatcher : Dispatcher σ α) (queue : σ)
    (request : MoveRequest α) : Set Nat :=
  {request.segmentCount machine.parameters.segmentLength} ∪
    {number | dispatcher.Cancels queue (machine.plan request) number} ∪
    {number | number < request.segmentCount machine.parameters.segmentLength ∧
      ∃ cause, machine.stepEnd request (number + 1) = .error cause}

/-- A report of a move that went by its plan until it was cut. -/
structure MoveReport.KeepsPlan (machine : Machine α) (dispatcher : Dispatcher σ α) (queue : σ)
    (request : MoveRequest α) (report : MoveReport σ α) : Prop where
  /-- The queue is offered the plan, in order and each segment once, up to the first cut. -/
  offered : report.offered.map Prod.fst =
    (machine.plan request).take report.offered.length
  cut : IsLeast (machine.cuts dispatcher queue request) report.offered.length
  /-- What is offered at a position is the segment of that step. -/
  segments : ∀ step segment, (report.offered.map Prod.fst)[step]? = some segment →
    ∃ previous angles, machine.stepEnd request step = .ok previous ∧
      machine.stepEnd request (step + 1) = .ok angles ∧
      segment = request.segment machine.parameters.segmentLength previous angles
  cancelled : dispatcher.Cancels queue (machine.plan request) report.offered.length →
    report.outcome = .error (.cancelled report.offered.length)
  blocked : ¬dispatcher.Cancels queue (machine.plan request) report.offered.length →
    report.offered.length < request.segmentCount machine.parameters.segmentLength →
      ∃ cause, machine.stepEnd request (report.offered.length + 1) = .error cause ∧
        report.outcome = .error (.segmentUnreachable (report.offered.length + 1) cause)
  arrived : ¬dispatcher.Cancels queue (machine.plan request) report.offered.length →
    report.offered.length = request.segmentCount machine.parameters.segmentLength →
      report.outcome = .ok ()

/-! ### The steps of the plan -/

theorem leading_append {β : Type} (values : List β) (rest : List (Option β)) :
    leading (values.map some ++ rest) = values ++ leading rest := by
  induction values with
  | nil => rfl
  | cons value values inductionHypothesis =>
      rw [List.map_cons, List.cons_append, leading, inductionHypothesis, List.cons_append]

section

variable {machine : Machine α} {request : MoveRequest α}

theorem Machine.planned?_eq_some_iff {step : Nat} {segment : Segment α} :
    machine.planned? request step = some segment ↔
      ∃ previous angles, machine.stepEnd request step = .ok previous ∧
        machine.stepEnd request (step + 1) = .ok angles ∧
        segment = request.segment machine.parameters.segmentLength previous angles := by
  rw [planned?]
  cases machine.stepEnd request step with
  | error cause => simp
  | ok previous =>
      cases machine.stepEnd request (step + 1) with
      | error cause => simp
      | ok angles => simp [eq_comm]

/-- The line that a machine follows passes the waypoints of the plan. -/
theorem Machine.waypoint_routeOf {step : Nat}
    (within : step ≤ request.segmentCount machine.parameters.segmentLength) :
    (machine.routeOf request).waypoint step =
      request.waypoint machine.parameters.segmentLength step := by
  rw [Route.waypoint, count_routeOf, MoveRequest.waypoint]
  rcases within.lt_or_eq with before | last
  · rw [if_neg before.ne, if_pos before]
    rfl
  · rw [if_pos last, if_neg last.not_lt]
    rfl

theorem Machine.stepEnd_succ {step : Nat}
    (within : step + 1 ≤ request.segmentCount machine.parameters.segmentLength) :
    machine.stepEnd request (step + 1) =
      inverse machine.parameters ((machine.routeOf request).waypoint (step + 1)) := by
  rw [waypoint_routeOf within, stepEnd]

theorem Machine.segment_routeOf (previous angles : ArmAngles α) :
    (machine.routeOf request).segment request.plan angles previous =
      request.segment machine.parameters.segmentLength previous angles := by
  rw [Route.segment, Route.feedRate, MoveRequest.segment]
  simp only [Bool.or_eq_true, decide_eq_true_eq]
  rfl

/-- The segments of a course are those of the plan, from its first step on. -/
theorem Course.map_planned? {step number : Nat} {previous : ArmAngles α}
    {segments : List (Segment α)}
    (course : Course machine.parameters request.plan (machine.routeOf request) number previous
      segments)
    (follows : number = step + 1)
    (within : step + segments.length ≤
      request.segmentCount machine.parameters.segmentLength)
    (reached : machine.stepEnd request step = .ok previous) :
    (List.range' step segments.length).map (machine.planned? request) = segments.map some := by
  induction course generalizing step with
  | nil => rfl
  | @cons number previous angles segments waypointReached rest inductionHypothesis =>
      subst follows
      rw [List.length_cons] at within
      have next : machine.stepEnd request (step + 1) = .ok angles := by
        rw [Machine.stepEnd_succ (by omega)]
        exact waypointReached
      have first : machine.planned? request step =
          some ((machine.routeOf request).segment request.plan angles previous) := by
        rw [Machine.segment_routeOf]
        exact Machine.planned?_eq_some_iff.2 ⟨_, _, reached, next, rfl⟩
      rw [List.length_cons, List.range'_succ, List.map_cons, List.map_cons, first,
        inductionHypothesis rfl (by omega) next]

/-- The plan of a request begins with every course of its route. -/
theorem Course.plan_eq {startAngles : ArmAngles α} {segments : List (Segment α)}
    (course : Course machine.parameters request.plan (machine.routeOf request) 1 startAngles
      segments)
    (within : segments.length ≤ request.segmentCount machine.parameters.segmentLength)
    (started : inverse machine.parameters request.position = .ok startAngles) :
    machine.plan request = segments ++
      leading ((List.range' segments.length
        (request.segmentCount machine.parameters.segmentLength - segments.length)).map
          (machine.planned? request)) := by
  have steps : List.range' 0 segments.length ++ List.range' (0 + segments.length)
      (request.segmentCount machine.parameters.segmentLength - segments.length) =
        List.range' 0 (segments.length +
          (request.segmentCount machine.parameters.segmentLength - segments.length)) :=
    List.range'_append_1
  rw [Nat.zero_add, Nat.add_sub_cancel' within] at steps
  have planned := course.map_planned? rfl (by simpa using within) started
  rw [Machine.plan, List.range_eq_range', ← steps, List.map_append, planned, leading_append]

theorem Course.append {parameters : Parameters α} {plan : PlanData α} {route : Route α}
    {step : Nat} {previous : ArmAngles α} {front back : List (Segment α)}
    (course : Course parameters plan route step previous front)
    (rest : Course parameters plan route (step + front.length) (lastAngles previous front) back) :
    Course parameters plan route step previous (front ++ back) := by
  induction course with
  | nil => exact rest
  | @cons step previous angles segments reached _ inductionHypothesis =>
      have sameStep : step + (segments.length + 1) = step + 1 + segments.length := by omega
      rw [List.length_cons, sameStep] at rest
      exact .cons reached (inductionHypothesis rest)

theorem Ending.course {parameters : Parameters α} {plan : PlanData α} {route : Route α}
    {step : Nat} {previous : ArmAngles α} {outcome : Except MoveError Unit}
    {beyond : List (Segment α × Response)}
    (ending : Ending parameters plan route step previous outcome beyond) :
    Course parameters plan route step previous (beyond.map Prod.fst) ∧
      step + beyond.length ≤ route.count + 1 := by
  cases ending with
  | arrived past => exact ⟨.nil _ _, past.le⟩
  | blocked within unreached => exact ⟨.nil _ _, Nat.le_succ_of_le within⟩
  | cancelled within reached =>
      -- The waypoint of the cancelled step was solved before it was offered.
      exact ⟨.cons reached (.nil _ _), Nat.succ_le_succ within⟩

end

omit [Scalar α] in
theorem Dispatcher.offerAll_append (dispatcher : Dispatcher σ α) (queue : σ)
    (front back : List (Segment α)) :
    (dispatcher.offerAll queue (front ++ back)).1 =
      (dispatcher.offerAll queue front).1 ++
        (dispatcher.offerAll (dispatcher.offerAll queue front).2 back).1 := by
  induction front generalizing queue with
  | nil => rfl
  | cons segment front inductionHypothesis =>
      rw [List.cons_append, offerAll, offerAll, List.cons_append, inductionHypothesis]

/-! ### A move along its plan -/

section

variable {machine : Machine α} {dispatcher : Dispatcher σ α} {queue : σ} {request : MoveRequest α}
  {startAngles : ArmAngles α} {segments : List (Segment α)}
  {beyond : List (Segment α × Response)} {report : MoveReport σ α}

/-- A move that went off along its line. -/
structure Machine.Departed (machine : Machine α) (dispatcher : Dispatcher σ α) (queue : σ)
    (request : MoveRequest α) (startAngles : ArmAngles α) (segments : List (Segment α))
    (beyond : List (Segment α × Response)) (report : MoveReport σ α) : Prop where
  started : inverse machine.parameters request.position = .ok startAngles
  travelled : Travelled dispatcher request.plan (machine.routeOf request) 1
    (machine.embarked queue request startAngles) segments beyond report

theorem Machine.exists_departed (machine : Machine α) (dispatcher : Dispatcher σ α) (queue : σ)
    (request : MoveRequest α) {startAngles targetAngles : ArmAngles α}
    (started : inverse machine.parameters request.position = .ok startAngles)
    (reached : inverse machine.parameters request.target = .ok targetAngles) :
    ∃ segments beyond, machine.Departed dispatcher queue request startAngles segments beyond
      (machine.move dispatcher queue request) := by
  have moved := machine.moved dispatcher queue request
  generalize machine.move dispatcher queue request = report at moved ⊢
  cases moved with
  | startRefused unreached => cases started.symm.trans unreached
  | targetRefused _ unreached => cases reached.symm.trans unreached
  | travelled startedThere _ travelled =>
      cases started.symm.trans startedThere
      exact ⟨_, _, started, travelled⟩

theorem Machine.Departed.accepted
    (departed : machine.Departed dispatcher queue request startAngles segments beyond report) :
    Course machine.parameters request.plan (machine.routeOf request) 1 startAngles segments :=
  departed.travelled.course

theorem Machine.Departed.ending
    (departed : machine.Departed dispatcher queue request startAngles segments beyond report) :
    Ending machine.parameters request.plan (machine.routeOf request) (1 + segments.length)
      (lastAngles startAngles segments) report.outcome beyond :=
  departed.travelled.ending

theorem Machine.Departed.offered_eq
    (departed : machine.Departed dispatcher queue request startAngles segments beyond report) :
    report.offered = segments.map (·, Response.accepted) ++ beyond :=
  departed.travelled.offered_eq rfl

theorem Machine.Departed.stream
    (departed : machine.Departed dispatcher queue request startAngles segments beyond report) :
    report.offered.map Prod.fst = segments ++ beyond.map Prod.fst := by
  simp [departed.offered_eq, Function.comp_def]

theorem Machine.Departed.length_offered
    (departed : machine.Departed dispatcher queue request startAngles segments beyond report) :
    report.offered.length = segments.length + beyond.length := by
  rw [departed.offered_eq, List.length_append, List.length_map]

theorem Machine.Departed.within
    (departed : machine.Departed dispatcher queue request startAngles segments beyond report) :
    report.offered.length ≤ request.segmentCount machine.parameters.segmentLength := by
  have within := departed.ending.course.2
  rw [machine.count_routeOf] at within
  rw [departed.length_offered]
  omega

theorem Machine.Departed.length_segments_le
    (departed : machine.Departed dispatcher queue request startAngles segments beyond report) :
    segments.length ≤ request.segmentCount machine.parameters.segmentLength := by
  have within := departed.within
  rw [departed.length_offered] at within
  omega

theorem Machine.Departed.machine_eq
    (departed : machine.Departed dispatcher queue request startAngles segments beyond report) :
    report.machine =
      { machine with pose := (machine.routeOf request).poseAfter 1 machine.pose segments } :=
  departed.travelled.machine

/-- What is offered is a course, with a cancelled segment at its end or without. -/
theorem Machine.Departed.course
    (departed : machine.Departed dispatcher queue request startAngles segments beyond report) :
    Course machine.parameters request.plan (machine.routeOf request) 1 startAngles
      (report.offered.map Prod.fst) := by
  rw [departed.stream]
  exact departed.accepted.append departed.ending.course.1

/-- The plan goes on from what is offered. -/
theorem Machine.Departed.plan_eq
    (departed : machine.Departed dispatcher queue request startAngles segments beyond report) :
    machine.plan request = report.offered.map Prod.fst ++
      leading ((List.range' report.offered.length
        (request.segmentCount machine.parameters.segmentLength - report.offered.length)).map
          (machine.planned? request)) := by
  have planned := departed.course.plan_eq (by simpa using departed.within) departed.started
  rwa [List.length_map] at planned

theorem Machine.Departed.planned?_of_offered
    (departed : machine.Departed dispatcher queue request startAngles segments beyond report)
    {step : Nat} {segment : Segment α}
    (found : (report.offered.map Prod.fst)[step]? = some segment) :
    machine.planned? request step = some segment := by
  have before : step < (report.offered.map Prod.fst).length :=
    (List.getElem?_eq_some_iff.1 found).1
  have planned := congrArg (·[step]?)
    (departed.course.map_planned? rfl (by simpa using departed.within) departed.started)
  rw [List.getElem?_map, List.getElem?_map, found, List.getElem?_range' before] at planned
  simpa using planned

/-- The answers to the plan begin with those that the move was given. -/
theorem Machine.Departed.answers
    (departed : machine.Departed dispatcher queue request startAngles segments beyond report) :
    ∃ later, (dispatcher.offerAll queue (machine.plan request)).1 =
      segments.map (fun _ => Response.accepted) ++ (beyond.map Prod.snd ++ later) := by
  have answered : (dispatcher.offerAll queue (segments ++ beyond.map Prod.fst)).1 =
      segments.map (fun _ => Response.accepted) ++ beyond.map Prod.snd :=
    congrArg Prod.fst departed.travelled.answered
  rw [departed.plan_eq, departed.stream, Dispatcher.offerAll_append, answered]
  exact ⟨_, List.append_assoc _ _ _⟩

/-- The queue cancels nothing of the plan that it accepted in the move. -/
theorem Machine.Departed.lt_of_cancels
    (departed : machine.Departed dispatcher queue request startAngles segments beyond report)
    {number : Nat} (cancels : dispatcher.Cancels queue (machine.plan request) number) :
    segments.length < number := by
  obtain ⟨later, answers⟩ := departed.answers
  obtain ⟨positive, cancelled⟩ := cancels
  apply Nat.lt_of_not_le
  intro accepted
  have inside : number - 1 < (segments.map (fun _ => Response.accepted)).length := by
    rw [List.length_map]
    omega
  rw [answers, List.getElem?_append_left inside, List.getElem?_map] at cancelled
  cases found : segments[number - 1]? with
  | none => simp [found] at cancelled
  | some segment => simp [found] at cancelled

/-- Where a move stopped, by the way in which it did. -/
theorem Machine.Departed.stopped
    (departed : machine.Departed dispatcher queue request startAngles segments beyond report) :
    (report.offered.length = request.segmentCount machine.parameters.segmentLength ∧
        report.outcome = .ok () ∧
        ¬dispatcher.Cancels queue (machine.plan request) report.offered.length) ∨
      (∃ cause, report.offered.length < request.segmentCount machine.parameters.segmentLength ∧
        machine.stepEnd request (report.offered.length + 1) = .error cause ∧
        report.outcome = .error (.segmentUnreachable (report.offered.length + 1) cause) ∧
        ¬dispatcher.Cancels queue (machine.plan request) report.offered.length) ∨
      (dispatcher.Cancels queue (machine.plan request) report.offered.length ∧
        report.outcome = .error (.cancelled report.offered.length)) := by
  have length := departed.length_offered
  have nextStep : 1 + segments.length = segments.length + 1 := Nat.add_comm _ _
  rcases departed.ending.inversion with
    ⟨past, outcome, noneBeyond⟩ | ⟨cause, within, unreached, outcome, noneBeyond⟩ |
      ⟨angles, within, reached, outcome, cancelledBeyond⟩
  · have offered : report.offered.length = segments.length := by simp [length, noneBeyond]
    rw [offered]
    refine .inl ⟨?_, outcome, fun cancels => Nat.lt_irrefl _ (departed.lt_of_cancels cancels)⟩
    rw [machine.count_routeOf] at past
    omega
  · have offered : report.offered.length = segments.length := by simp [length, noneBeyond]
    rw [nextStep, machine.count_routeOf] at within
    rw [nextStep] at unreached outcome
    rw [offered]
    refine .inr (.inl ⟨cause, within, ?_, outcome, fun cancels =>
      Nat.lt_irrefl _ (departed.lt_of_cancels cancels)⟩)
    rw [stepEnd_succ within]
    exact unreached
  · have offered : report.offered.length = segments.length + 1 := by
      simp [length, cancelledBeyond]
    obtain ⟨later, answers⟩ := departed.answers
    rw [nextStep] at outcome
    rw [offered]
    refine .inr (.inr ⟨⟨Nat.succ_pos _, ?_⟩, outcome⟩)
    rw [answers, Nat.add_sub_cancel, List.getElem?_append_right (by simp)]
    simp [cancelledBeyond]

theorem Machine.Departed.keepsPlan
    (departed : machine.Departed dispatcher queue request startAngles segments beyond report) :
    MoveReport.KeepsPlan machine dispatcher queue request report where
  offered := by
    have length : report.offered.length = (report.offered.map Prod.fst).length := by
      rw [List.length_map]
    rw [departed.plan_eq, List.take_append_of_le_length length.le, length, List.take_length]
  cut := by
    constructor
    · rcases departed.stopped with ⟨last, -⟩ | ⟨cause, before, unreached, -⟩ | ⟨cancels, -⟩
      · exact .inl (.inl last)
      · exact .inr ⟨before, cause, unreached⟩
      · exact .inl (.inr cancels)
    · rintro number ((rfl | cancels) | ⟨-, cause, unreached⟩)
      · exact departed.within
      · have later := departed.lt_of_cancels cancels
        have single := departed.ending.length_beyond_le
        rw [departed.length_offered]
        omega
      · apply Nat.le_of_not_lt
        intro before
        obtain ⟨segment, found⟩ : ∃ segment, (report.offered.map Prod.fst)[number]? =
            some segment := by
          rw [← List.length_map Prod.fst] at before
          exact ⟨_, List.getElem?_eq_getElem before⟩
        obtain ⟨previous, angles, -, reached, -⟩ :=
          planned?_eq_some_iff.1 (departed.planned?_of_offered found)
        cases unreached.symm.trans reached
  segments := by
    intro step segment found
    exact planned?_eq_some_iff.1 (departed.planned?_of_offered found)
  cancelled := by
    intro cancels
    rcases departed.stopped with ⟨-, -, accepted⟩ | ⟨cause, -, -, -, accepted⟩ | ⟨-, outcome⟩
    · exact absurd cancels accepted
    · exact absurd cancels accepted
    · exact outcome
  blocked := by
    intro accepted before
    rcases departed.stopped with ⟨last, -⟩ | ⟨cause, -, unreached, outcome, -⟩ | ⟨cancels, -⟩
    · exact absurd last before.ne
    · exact ⟨cause, unreached, outcome⟩
    · exact absurd cancels accepted
  arrived := by
    intro accepted last
    rcases departed.stopped with ⟨-, outcome, -⟩ | ⟨cause, before, -⟩ | ⟨cancels, -⟩
    · exact outcome
    · exact absurd last before.ne
    · exact absurd cancels accepted

/-- Where a move stops that the queue does not cancel. -/
theorem Machine.Departed.stopped_of_willing
    (departed : machine.Departed dispatcher queue request startAngles segments beyond report)
    (willing : dispatcher.Willing) :
    beyond = [] ∧
      ((segments.length = request.segmentCount machine.parameters.segmentLength ∧
          report.outcome = .ok ()) ∨
        ∃ cause, segments.length < request.segmentCount machine.parameters.segmentLength ∧
          machine.stepEnd request (segments.length + 1) = .error cause ∧
          report.outcome = .error (.segmentUnreachable (segments.length + 1) cause)) := by
  have noneBeyond : beyond = [] := by
    have answered := congrArg Prod.fst departed.travelled.answered
    rw [willing.offerAll, List.map_append, List.append_cancel_left_eq, List.map_map,
      List.map_inj_left] at answered
    refine List.eq_nil_iff_forall_not_mem.2 (fun offer member => ?_)
    have accepted := answered offer member
    rw [departed.ending.answer_cancelled member] at accepted
    cases accepted
  have offered : report.offered.length = segments.length := by
    rw [departed.length_offered, noneBeyond, List.length_nil, Nat.add_zero]
  have stopped := departed.stopped
  rw [offered] at stopped
  refine ⟨noneBeyond, ?_⟩
  rcases stopped with ⟨last, outcome, -⟩ | ⟨cause, before, unreached, outcome, -⟩ | ⟨cancels, -⟩
  · exact .inl ⟨last, outcome⟩
  · exact .inr ⟨cause, before, unreached, outcome⟩
  · exact absurd (departed.lt_of_cancels cancels) (Nat.lt_irrefl _)

/-- A queue that cancels nothing is sent the whole plan. -/
theorem Machine.Departed.plan_eq_of_willing
    (departed : machine.Departed dispatcher queue request startAngles segments beyond report)
    (willing : dispatcher.Willing) : machine.plan request = segments := by
  obtain ⟨-, stopped⟩ := departed.stopped_of_willing willing
  rw [departed.accepted.plan_eq departed.length_segments_le departed.started]
  refine List.append_right_eq_self.2 ?_
  rcases stopped with ⟨last, -⟩ | ⟨cause, before, unreached, -⟩
  · rw [last, Nat.sub_self]
    rfl
  · have steps : request.segmentCount machine.parameters.segmentLength - segments.length =
        request.segmentCount machine.parameters.segmentLength - segments.length - 1 + 1 := by
      omega
    have missing : machine.planned? request segments.length = none := by
      rw [planned?, unreached]
      cases machine.stepEnd request segments.length <;> rfl
    rw [steps, List.range'_succ, List.map_cons, missing]
    rfl

end

/-! ### A descent in two steps -/

/-- From where the lift starts straight down, by twice the segment length. -/
noncomputable def stubbyDescent : MoveRequest ℝ :=
  { stubbyLift with target := ⟨0, 0, -51⟩ }

theorem segmentCount_stubbyDescent :
    stubbyDescent.segmentCount Parameters.stubby.segmentLength = 2 := by
  have straight : stubbyDescent.way.length = 40 := by
    rw [Displacement.length_eq_iff (by norm_num)]
    norm_num [stubbyDescent, stubbyLift, MoveRequest.way, MoveRequest.start, Point.displacementFrom,
      Point.translate, Displacement.zero]
  have counted (count : ℕ) (someStep : 1 ≤ count) :
      stubbyDescent.segmentCount Parameters.stubby.segmentLength ≤ count ↔
        (40 : ℝ) ≤ count * 20 := by
    have many : (2 : ℝ) ≤ Scalar.maxCount := by
      have counted : 2 ≤ Scalar.maxCount := by decide
      exact_mod_cast counted
    rw [← straight]
    refine segmentCount_le_iff (Parameters.segmentLength_pos Parameters.stubby_valid) ?_ someStep
    change stubbyDescent.way.length ≤ Scalar.maxCount * 20
    linarith
  have enough := (counted 2 one_le_two).2 (by norm_num)
  have tooFew := mt (counted 1 le_rfl).1 (by norm_num)
  omega

theorem waypoint_stubbyDescent {step : ℕ} (within : step ≤ 2) :
    stubbyDescent.waypoint Parameters.stubby.segmentLength step = ⟨0, 0, -11 - 20 * step⟩ := by
  rw [MoveRequest.waypoint, segmentCount_stubbyDescent]
  interval_cases step <;>
    norm_num [stubbyDescent, stubbyLift, MoveRequest.way, MoveRequest.start, Point.displacementFrom,
      Point.translate, Displacement.zero, Displacement.scale]

theorem stepEnd_stubbyDescent {step : Nat} (within : step ≤ 2) :
    ∃ angles, Machine.stubby.stepEnd stubbyDescent step = .ok angles := by
  have solved (step : ℕ) (below : step ≤ 2) (drop : ℝ)
      (line : 2 * (-11 - 20 * step) * drop = (-11 - 20 * step : ℝ) ^ 2 - 11 ^ 2)
      (shallow : drop ^ 2 ≤ 60 ^ 2 - drop ^ 2) :
      ∃ angles, inverse .stubby
        (stubbyDescent.waypoint Parameters.stubby.segmentLength step) = .ok angles := by
    have under : (-11 - 20 * step : ℝ) ≠ 0 := by
      have positive : (0 : ℝ) ≤ step := Nat.cast_nonneg step
      linarith
    obtain ⟨angle, found⟩ := inverse_stubby _ drop under line shallow
    rw [waypoint_stubbyDescent below]
    exact ⟨_, found⟩
  interval_cases step
  · obtain ⟨angle, found⟩ := inverse_stubby (-11) 0 (by norm_num) (by norm_num) (by norm_num)
    exact ⟨_, found⟩
  · exact solved 1 one_le_two (-420 / 31) (by norm_num) (by norm_num)
  · exact solved 2 le_rfl (-1240 / 51) (by norm_num) (by norm_num)

theorem plan_stubbyDescent :
    ∃ first second, Machine.stubby.plan stubbyDescent = [first, second] := by
  obtain ⟨start, started⟩ := stepEnd_stubbyDescent (Nat.zero_le 2)
  obtain ⟨middle, halfWay⟩ := stepEnd_stubbyDescent one_le_two
  obtain ⟨target, reached⟩ := stepEnd_stubbyDescent (Nat.le_refl 2)
  have first := Machine.planned?_eq_some_iff.2 ⟨start, middle, started, halfWay, rfl⟩
  have second := Machine.planned?_eq_some_iff.2 ⟨middle, target, halfWay, reached, rfl⟩
  have count : stubbyDescent.segmentCount Machine.stubby.parameters.segmentLength = 2 :=
    segmentCount_stubbyDescent
  have steps : List.range 2 = [0, 1] := rfl
  rw [Machine.plan, count, steps, List.map_cons, List.map_cons, first, second]
  exact ⟨_, _, rfl⟩

/-- Every move whose ends are reachable offers a first part of its plan, up to the first cut, and
says how it was cut. A queue that cancels nothing is offered the plan as far as its waypoints are
reachable, so what any other queue is offered is a first part of that. -/
theorem move_keeps_plan (machine : Machine α) (dispatcher : Dispatcher σ α) (queue : σ)
    (request : MoveRequest α) {startAngles targetAngles : ArmAngles α}
    (started : inverse machine.parameters request.position = .ok startAngles)
    (reached : inverse machine.parameters request.target = .ok targetAngles) :
    MoveReport.KeepsPlan machine dispatcher queue request
        (machine.move dispatcher queue request) ∧
      ∀ (τ : Type) (willing : Dispatcher τ α) (state : τ), willing.Willing →
        (machine.move willing state request).offered =
            (machine.plan request).map (·, Response.accepted) ∧
          (machine.move dispatcher queue request).offered.map Prod.fst <+:
            (machine.move willing state request).offered.map Prod.fst := by
  obtain ⟨segments, beyond, departed⟩ :=
    machine.exists_departed dispatcher queue request started reached
  refine ⟨departed.keepsPlan, fun τ willing state willingly => ?_⟩
  obtain ⟨sent, beyondSent, departedThere⟩ :=
    machine.exists_departed willing state request started reached
  have offered := departedThere.offered_eq
  rw [(departedThere.stopped_of_willing willingly).1, List.append_nil,
    ← departedThere.plan_eq_of_willing willingly] at offered
  refine ⟨offered, ?_⟩
  rw [offered, departed.plan_eq]
  simp [Function.comp_def]

/-- A queue that takes one segment of the descent is offered the second one too, and cancels the
move there. -/
theorem stubbyDescent_cancelled :
    (∃ start target, inverse Machine.stubby.parameters stubbyDescent.position = .ok start ∧
        inverse Machine.stubby.parameters stubbyDescent.target = .ok target) ∧
      (Machine.stubby.move .acceptAtMost (some 1) stubbyDescent).offered.length = 2 ∧
      (Machine.stubby.move .acceptAtMost (some 1) stubbyDescent).outcome =
        .error (.cancelled 2) := by
  obtain ⟨start, started⟩ :=
    inverse_stubby (-11) 0 (by norm_num) (by norm_num) (by norm_num)
  obtain ⟨target, reached⟩ :=
    inverse_stubby (-51) (-1240 / 51) (by norm_num) (by norm_num) (by norm_num)
  have keeps := (move_keeps_plan Machine.stubby .acceptAtMost (some 1) stubbyDescent
    started reached).1
  obtain ⟨first, second, plan⟩ := plan_stubbyDescent
  have secondCancelled : Dispatcher.acceptAtMost.Cancels (some 1)
      (Machine.stubby.plan stubbyDescent) 2 := by
    rw [plan]
    exact ⟨two_pos, rfl⟩
  have count : stubbyDescent.segmentCount Machine.stubby.parameters.segmentLength = 2 :=
    segmentCount_stubbyDescent
  have bothOffered :
      (Machine.stubby.move .acceptAtMost (some 1) stubbyDescent).offered.length = 2 := by
    apply le_antisymm (keeps.cut.2 (.inl (.inr secondCancelled)))
    rcases keeps.cut.1 with (last | cancels) | ⟨before, cause, unreached⟩
    · exact (last.trans count).ge
    · obtain ⟨positive, cancelled⟩ := cancels
      apply Nat.succ_le_of_lt
      apply lt_of_le_of_ne positive
      intro single
      rw [plan, ← single] at cancelled
      cases cancelled
    · rw [count] at before
      obtain ⟨angles, stepReached⟩ := stepEnd_stubbyDescent before
      cases unreached.symm.trans stepReached
  refine ⟨⟨_, _, started, reached⟩, bothOffered, ?_⟩
  have outcome := keeps.cancelled
  rw [bothOffered] at outcome
  exact outcome secondCancelled

end DeltaRobot
