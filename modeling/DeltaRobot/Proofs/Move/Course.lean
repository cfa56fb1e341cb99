import DeltaRobot.Machine.Move

/-!
Contract: everything that a move can do, said once.

A move that gets under way sends a `Course`, the segments of consecutive steps, each leaving from
where the one before ends, and then comes to one `Ending`. `Travelled` says what is left of the
machine and the queue in terms of the two, and `Machine.Moved` adds the moves that are refused
before anything is sent. `Machine.moved` proves it of every move, so no other proof opens
`followRoute` or `Machine.move`.

Owns: the inversion of a move, for every dispatcher and every arithmetic, and the dispatchers that
cancel nothing.
Does not own: the results on moves and scripts that follow from it.
-/

namespace DeltaRobot

variable {σ α : Type}

/-- Offers segments one after the other, whatever is answered. -/
def Dispatcher.offerAll (dispatcher : Dispatcher σ α) :
    σ → List (Segment α) → List Response × σ
  | queue, [] => ([], queue)
  | queue, segment :: segments =>
      let answer := dispatcher queue segment
      let answers := offerAll dispatcher answer.2 segments
      (answer.1 :: answers.1, answers.2)

/-- A queue that cancels nothing. -/
def Dispatcher.Willing (dispatcher : Dispatcher σ α) : Prop :=
  ∀ queue segment, (dispatcher queue segment).1 = .accepted

theorem Dispatcher.willing_acceptAll : (acceptAll : Dispatcher Unit α).Willing :=
  fun _ _ => rfl

theorem Dispatcher.Willing.offerAll {dispatcher : Dispatcher σ α} (willing : dispatcher.Willing)
    (queue : σ) (segments : List (Segment α)) :
    (dispatcher.offerAll queue segments).1 = segments.map (fun _ => Response.accepted) := by
  induction segments generalizing queue with
  | nil => rfl
  | cons segment segments inductionHypothesis =>
      rw [Dispatcher.offerAll, List.map_cons, inductionHypothesis, willing]

/-- The angles that the last of some segments ends in, when the first leaves from `previous`. -/
def lastAngles : ArmAngles α → List (Segment α) → ArmAngles α
  | previous, [] => previous
  | _, segment :: segments => lastAngles segment.angles segments

@[simp]
theorem lastAngles_nil (previous : ArmAngles α) : lastAngles previous [] = previous := rfl

/-- The pose that a machine keeps when the queue accepts the segments of the steps from `step`
on. -/
def Route.poseAfter [Scalar α] (route : Route α) : Nat → Pose α → List (Segment α) → Pose α
  | _, pose, [] => pose
  | step, _, segment :: segments =>
      route.poseAfter (step + 1) ⟨segment.angles, route.waypoint step⟩ segments

section

variable [Scalar α]

/-- The last accepted segment decides the pose, with the waypoint of its own step. -/
theorem Route.poseAfter_eq_of_getLast? {route : Route α} {step : Nat} {pose : Pose α}
    {segments : List (Segment α)} {segment : Segment α}
    (last : segments.getLast? = some segment) :
    route.poseAfter step pose segments =
      ⟨segment.angles, route.waypoint (step + segments.length - 1)⟩ := by
  induction segments generalizing step pose with
  | nil => simp at last
  | cons first rest inductionHypothesis =>
      cases rest with
      | nil =>
          have isLast : first = segment := by simpa using last
          simp [poseAfter, isLast]
      | cons second rest =>
          have sameStep : step + 1 + (second :: rest).length - 1 =
              step + (first :: second :: rest).length - 1 := by
            simp only [List.length_cons]
            omega
          rw [poseAfter, inductionHypothesis (by simpa using last), sameStep]

/-- The segments of consecutive steps, the first being `step`. Each leaves from the angles that
the one before ends in, the first from `previous`. -/
inductive Course (parameters : Parameters α) (plan : PlanData α) (route : Route α) :
    Nat → ArmAngles α → List (Segment α) → Prop where
  | nil (step : Nat) (previous : ArmAngles α) : Course parameters plan route step previous []
  | cons {step : Nat} {previous angles : ArmAngles α} {segments : List (Segment α)}
      (reached : inverse parameters (route.waypoint step) = .ok angles)
      (rest : Course parameters plan route (step + 1) angles segments) :
      Course parameters plan route step previous (route.segment plan angles previous :: segments)

/-- How a route ends when `step` would be next: the outcome, and the offers beyond the accepted
ones. -/
inductive Ending (parameters : Parameters α) (plan : PlanData α) (route : Route α) (step : Nat)
    (previous : ArmAngles α) : Except MoveError Unit → List (Segment α × Response) → Prop where
  | arrived (past : step = route.count + 1) : Ending parameters plan route step previous (.ok ()) []
  | blocked {cause : KinematicError} (within : step ≤ route.count)
      (unreached : inverse parameters (route.waypoint step) = .error cause) :
      Ending parameters plan route step previous (.error (.segmentUnreachable step cause)) []
  | cancelled {angles : ArmAngles α} (within : step ≤ route.count)
      (reached : inverse parameters (route.waypoint step) = .ok angles) :
      Ending parameters plan route step previous (.error (.cancelled step))
        [(route.segment plan angles previous, .cancelled)]

/-- What is announced of the segments of consecutive steps, the first being `step`. -/
def announcements : Nat → List (Segment α) → List (Notice α)
  | _, [] => []
  | step, segment :: segments =>
      .offering step segment.angles segment.feedRate :: announcements (step + 1) segments

/-- What is reported of a route that comes to an end. -/
def Route.closing (route : Route α) : Except MoveError Unit → List (Notice α)
  | .error (.segmentUnreachable step cause) =>
      [.segmentUnreachable step route.count (route.waypoint step) cause]
  | .error (.cancelled step) => [.cancelled step route.count]
  | _ => []

/-- What is left of a move that was under way at `step`, when the queue accepted `segments` and
was offered `beyond` after them. -/
structure Travelled (dispatcher : Dispatcher σ α) (plan : PlanData α) (route : Route α)
    (step : Nat) (start : MoveProgress σ α) (segments : List (Segment α))
    (beyond : List (Segment α × Response)) (report : MoveReport σ α) : Prop where
  course : Course start.machine.parameters plan route step start.previous segments
  ending : Ending start.machine.parameters plan route (step + segments.length)
    (lastAngles start.previous segments) report.outcome beyond
  offered : report.offered =
    start.offersReversed.reverse ++ (segments.map (·, Response.accepted) ++ beyond)
  machine : report.machine =
    { start.machine with pose := route.poseAfter step start.machine.pose segments }
  answered : dispatcher.offerAll start.queue (segments ++ beyond.map Prod.fst) =
    (segments.map (fun _ => Response.accepted) ++ beyond.map Prod.snd, report.queue)
  reported : report.notices = start.noticesReversed.reverse ++
    (announcements step (segments ++ beyond.map Prod.fst) ++ route.closing report.outcome)

private theorem Travelled.cons {dispatcher : Dispatcher σ α} {plan : PlanData α}
    {route : Route α} {step : Nat} {start : MoveProgress σ α} {angles : ArmAngles α} {queue : σ}
    {segments : List (Segment α)} {beyond : List (Segment α × Response)}
    {report : MoveReport σ α}
    (reached : inverse start.machine.parameters (route.waypoint step) = .ok angles)
    (answer : dispatcher start.queue (route.segment plan angles start.previous) =
      (.accepted, queue))
    (rest : Travelled dispatcher plan route (step + 1)
      ((start.announce step (route.segment plan angles start.previous)).follow
        (route.waypoint step) (route.segment plan angles start.previous) queue)
      segments beyond report) :
    Travelled dispatcher plan route step start
      (route.segment plan angles start.previous :: segments) beyond report where
  course := .cons reached rest.course
  ending := by
    have sameStep : step + (segments.length + 1) = step + 1 + segments.length := by omega
    rw [List.length_cons, sameStep]
    exact rest.ending
  offered := by
    rw [rest.offered]
    simp [MoveProgress.announce, MoveProgress.follow]
  machine := rest.machine
  answered := by
    have answered := rest.answered
    simp only [MoveProgress.announce, MoveProgress.follow] at answered
    simp [Dispatcher.offerAll, answer, answered]
  reported := by
    rw [rest.reported]
    simp [MoveProgress.announce, MoveProgress.follow, announcements]

/-- Following the last `remaining` steps of a route, from any progress. -/
theorem Machine.followRoute_travelled (dispatcher : Dispatcher σ α) (plan : PlanData α)
    (route : Route α) (remaining : Nat) (within : remaining ≤ route.count)
    (progress : MoveProgress σ α) :
    ∃ segments beyond, Travelled dispatcher plan route (route.count - remaining + 1) progress
      segments beyond (followRoute dispatcher plan route remaining progress) := by
  induction remaining generalizing progress with
  | zero =>
      refine ⟨[], [], .nil _ _, .arrived (by simp), ?_, rfl, rfl, rfl⟩
      simp [followRoute, MoveProgress.stop]
  | succ remaining inductionHypothesis =>
      have sameStep : route.count - (remaining + 1) + 1 = route.count - remaining := by omega
      have inRange : route.count - remaining ≤ route.count := by omega
      rw [sameStep, followRoute]
      cases reached : inverse progress.machine.parameters
          (route.waypoint (route.count - remaining)) with
      | error cause =>
          refine ⟨[], [], .nil _ _, .blocked inRange reached, ?_, rfl, rfl, rfl⟩
          simp [MoveProgress.stop]
      | ok angles =>
          dsimp only
          cases answer : dispatcher progress.queue
              (route.segment plan angles progress.previous) with
          | mk response queue =>
              cases response with
              | accepted =>
                  obtain ⟨segments, beyond, travelled⟩ := inductionHypothesis (by omega)
                    ((progress.announce (route.count - remaining)
                        (route.segment plan angles progress.previous)).follow
                      (route.waypoint (route.count - remaining))
                      (route.segment plan angles progress.previous) queue)
                  exact ⟨_, beyond, .cons reached answer travelled⟩
              | cancelled =>
                  refine ⟨[], _, .nil _ _, .cancelled inRange reached, ?_, rfl, ?_, ?_⟩
                  · simp [MoveProgress.stop, MoveProgress.discard, MoveProgress.announce]
                  · simp [Dispatcher.offerAll, answer, MoveProgress.stop, MoveProgress.discard]
                  · simp [MoveProgress.stop, MoveProgress.discard, MoveProgress.announce,
                      announcements, Route.closing]

/-- The route that a machine takes for a request. -/
def Machine.routeOf (machine : Machine α) (request : MoveRequest α) : Route α :=
  .between (request.position.translate request.offset) request.target
    machine.parameters.segmentLength

/-- What is reported of a route that a move sets off on. -/
def Route.departure (route : Route α) : Notice α :=
  .departing route.start route.target route.length route.count

/-- A move that has just set off. -/
def Machine.embarked (machine : Machine α) (queue : σ) (request : MoveRequest α)
    (startAngles : ArmAngles α) : MoveProgress σ α :=
  { machine, queue, previous := startAngles, offersReversed := []
    noticesReversed := [(machine.routeOf request).departure] }

section

variable (machine : Machine α) (queue : σ) (request : MoveRequest α) (startAngles : ArmAngles α)

@[simp]
theorem Machine.machine_embarked :
    (machine.embarked queue request startAngles).machine = machine := rfl

@[simp]
theorem Machine.queue_embarked : (machine.embarked queue request startAngles).queue = queue := rfl

@[simp]
theorem Machine.previous_embarked :
    (machine.embarked queue request startAngles).previous = startAngles := rfl

@[simp]
theorem Machine.offersReversed_embarked :
    (machine.embarked queue request startAngles).offersReversed = [] := rfl

end

/-- All that a move can do, by how far it gets. -/
inductive Machine.Moved (machine : Machine α) (dispatcher : Dispatcher σ α) (queue : σ)
    (request : MoveRequest α) : MoveReport σ α → Prop where
  | startRefused {cause : KinematicError}
      (unreached : inverse machine.parameters request.position = .error cause) :
      Moved machine dispatcher queue request
        { outcome := .error (.startUnreachable cause), machine, queue, offered := []
          notices := [.startInvalid request.position cause] }
  | targetRefused {startAngles : ArmAngles α} {cause : KinematicError}
      (started : inverse machine.parameters request.position = .ok startAngles)
      (unreached : inverse machine.parameters request.target = .error cause) :
      Moved machine dispatcher queue request
        { outcome := .error (.targetUnreachable cause), machine, queue, offered := []
          notices := [.targetUnreachable request.target cause] }
  | travelled {startAngles targetAngles : ArmAngles α} {segments : List (Segment α)}
      {beyond : List (Segment α × Response)} {report : MoveReport σ α}
      (started : inverse machine.parameters request.position = .ok startAngles)
      (reached : inverse machine.parameters request.target = .ok targetAngles)
      (travelled : Travelled dispatcher request.plan (machine.routeOf request) 1
        (machine.embarked queue request startAngles) segments beyond report) :
      Moved machine dispatcher queue request report

theorem Machine.moved (machine : Machine α) (dispatcher : Dispatcher σ α) (queue : σ)
    (request : MoveRequest α) :
    machine.Moved dispatcher queue request (machine.move dispatcher queue request) := by
  rw [move]
  cases started : inverse machine.parameters request.position with
  | error cause => exact .startRefused started
  | ok startAngles =>
      dsimp only
      cases reached : inverse machine.parameters request.target with
      | error cause => exact .targetRefused started reached
      | ok targetAngles =>
          obtain ⟨segments, beyond, travelled⟩ := followRoute_travelled dispatcher request.plan
            (machine.routeOf request) (machine.routeOf request).count (Nat.le_refl _)
            (machine.embarked queue request startAngles)
          rw [Nat.sub_self] at travelled
          exact .travelled started reached travelled

/-! ### Readings of a course and of its ending -/

section

variable {parameters : Parameters α} {plan : PlanData α} {route : Route α} {step : Nat}
  {previous : ArmAngles α}

/-- Each segment of a course ends in the angles of the waypoint of its own step. -/
theorem Course.inverse_waypoint {segments : List (Segment α)} {index : Nat} {segment : Segment α}
    (course : Course parameters plan route step previous segments)
    (found : segments[index]? = some segment) :
    inverse parameters (route.waypoint (step + index)) = .ok segment.angles := by
  induction course generalizing index with
  | nil => simp at found
  | @cons step previous angles segments reached rest inductionHypothesis =>
      cases index with
      | zero =>
          have isFirst : route.segment plan angles previous = segment := by simpa using found
          rw [← isFirst]
          exact reached
      | succ index =>
          have sameStep : step + (index + 1) = step + 1 + index := by omega
          rw [sameStep]
          exact inductionHypothesis (by simpa using found)

variable {outcome : Except MoveError Unit} {beyond : List (Segment α × Response)}

theorem Ending.past_of_ok
    (ending : Ending parameters plan route step previous (.ok ()) beyond) :
    step = route.count + 1 := by
  cases ending with
  | arrived past => exact past

/-- The three ways in which a route ends. -/
theorem Ending.inversion
    (ending : Ending parameters plan route step previous outcome beyond) :
    (step = route.count + 1 ∧ outcome = .ok () ∧ beyond = []) ∨
      (∃ cause, step ≤ route.count ∧ inverse parameters (route.waypoint step) = .error cause ∧
        outcome = .error (.segmentUnreachable step cause) ∧ beyond = []) ∨
      ∃ angles, step ≤ route.count ∧ inverse parameters (route.waypoint step) = .ok angles ∧
        outcome = .error (.cancelled step) ∧
        beyond = [(route.segment plan angles previous, .cancelled)] := by
  cases ending with
  | arrived past => exact .inl ⟨past, rfl, rfl⟩
  | blocked within unreached => exact .inr (.inl ⟨_, within, unreached, rfl, rfl⟩)
  | cancelled within reached => exact .inr (.inr ⟨_, within, reached, rfl, rfl⟩)

/-- A route that fails does so at the next step, which is blocked or cancelled. -/
theorem Ending.cases_of_error {error : MoveError}
    (ending : Ending parameters plan route step previous (.error error) beyond) :
    step ≤ route.count ∧
      ((∃ cause, inverse parameters (route.waypoint step) = .error cause ∧
          error = .segmentUnreachable step cause) ∨
        error = .cancelled step) := by
  cases ending with
  | blocked within unreached => exact ⟨within, .inl ⟨_, unreached, rfl⟩⟩
  | cancelled within => exact ⟨within, .inr rfl⟩

theorem Ending.length_beyond_le
    (ending : Ending parameters plan route step previous outcome beyond) :
    beyond.length ≤ 1 := by
  cases ending <;> simp

/-- Only accepted segments move the machine, and beyond the course there are none. -/
theorem Ending.answer_cancelled
    (ending : Ending parameters plan route step previous outcome beyond)
    {offer : Segment α × Response} (member : offer ∈ beyond) : offer.2 = .cancelled := by
  cases ending with
  | arrived => simp at member
  | blocked => simp at member
  | cancelled =>
      have isOffer := List.mem_singleton.1 member
      rw [isOffer]

/-- The queue cancels exactly the moves that say so. -/
theorem Ending.cancelled_iff
    (ending : Ending parameters plan route step previous outcome beyond) :
    (∃ number, outcome = .error (.cancelled number)) ↔
      ∃ segment, (segment, Response.cancelled) ∈ beyond := by
  cases ending <;> simp

end

section

variable {dispatcher : Dispatcher σ α} {plan : PlanData α} {route : Route α} {step : Nat}
  {start : MoveProgress σ α} {segments : List (Segment α)}
  {beyond : List (Segment α × Response)} {report : MoveReport σ α}

theorem Travelled.offered_eq
    (travelled : Travelled dispatcher plan route step start segments beyond report)
    (fresh : start.offersReversed = []) :
    report.offered = segments.map (·, Response.accepted) ++ beyond := by
  rw [travelled.offered, fresh]
  rfl

theorem Travelled.accepted_eq
    (travelled : Travelled dispatcher plan route step start segments beyond report)
    (fresh : start.offersReversed = []) : report.accepted = segments := by
  have noneBeyond : beyond.filter (fun offer => offer.2 = .accepted) = [] := by
    refine List.filter_eq_nil_iff.2 (fun offer member => ?_)
    simp [travelled.ending.answer_cancelled member]
  simp [MoveReport.accepted, travelled.offered_eq fresh, noneBeyond, List.filter_map,
    Function.comp_def]

theorem Travelled.pose_of_getLast?
    (travelled : Travelled dispatcher plan route step start segments beyond report)
    {segment : Segment α} (last : segments.getLast? = some segment) :
    report.machine.pose = ⟨segment.angles, route.waypoint (step + segments.length - 1)⟩ := by
  rw [travelled.machine]
  exact Route.poseAfter_eq_of_getLast? last

end

section

variable {machine : Machine α} {dispatcher : Dispatcher σ α} {queue : σ} {request : MoveRequest α}
  {report : MoveReport σ α} {cause : KinematicError}

/-- A move under way is refused at neither end. -/
theorem Travelled.not_refused {plan : PlanData α} {route : Route α} {step : Nat}
    {start : MoveProgress σ α} {segments : List (Segment α)}
    {beyond : List (Segment α × Response)}
    (travelled : Travelled dispatcher plan route step start segments beyond report) :
    report.outcome ≠ .error (.startUnreachable cause) ∧
      report.outcome ≠ .error (.targetUnreachable cause) := by
  have ending := travelled.ending
  constructor
  all_goals
    intro refused
    rw [refused] at ending
    obtain ⟨-, ⟨cause, -, other⟩ | other⟩ := ending.cases_of_error <;> cases other

theorem Machine.Moved.startUnreachable_iff
    (moved : machine.Moved dispatcher queue request report) :
    report.outcome = .error (.startUnreachable cause) ↔
      inverse machine.parameters request.position = .error cause := by
  cases moved with
  | startRefused unreached => simp [unreached, eq_comm]
  | targetRefused started => simp [started]
  | travelled started _ travelled => simp [started, travelled.not_refused]

theorem Machine.Moved.targetUnreachable_iff
    (moved : machine.Moved dispatcher queue request report) :
    report.outcome = .error (.targetUnreachable cause) ↔
      (∃ startAngles, inverse machine.parameters request.position = .ok startAngles) ∧
        inverse machine.parameters request.target = .error cause := by
  cases moved with
  | startRefused unreached => simp [unreached]
  | targetRefused started unreached => simp [started, unreached, eq_comm]
  | travelled started reached travelled => simp [reached, travelled.not_refused]

end

/-- The accepted segments of a move are the course of its route, from the angles of its start. -/
theorem Machine.Moved.course {machine : Machine α} {dispatcher : Dispatcher σ α} {queue : σ}
    {request : MoveRequest α} {report : MoveReport σ α}
    (moved : machine.Moved dispatcher queue request report) :
    report.accepted = [] ∨
      ∃ startAngles, inverse machine.parameters request.position = .ok startAngles ∧
        Course machine.parameters request.plan (machine.routeOf request) 1 startAngles
          report.accepted := by
  cases moved with
  | startRefused => exact .inl rfl
  | targetRefused => exact .inl rfl
  | travelled started reached travelled =>
      rw [travelled.accepted_eq rfl]
      exact .inr ⟨_, started, travelled.course⟩

end

end DeltaRobot
