import DeltaRobot.Proofs.Move.Course

/-!
Contract: the books of a move.

A move talks to a queue that may answer anything. `Balanced` says how its report, the pose it
leaves and the calls it made agree with the number of segments that the queue accepted, whichever
way the move ends. `move_balanced` proves it of every machine, queue and request.

Owns: the accounting of one move.
Does not own: what a script makes of it.
-/

namespace DeltaRobot

/-- The number of the segment at which a move stopped on its way. -/
def MoveError.stoppedAt? : MoveError → Option Nat
  | startUnreachable _ => none
  | targetUnreachable _ => none
  | segmentUnreachable segment _ => some segment
  | cancelled segment => some segment

/-- Behind a cancelled offer there is none, since the offers before the last are accepted. -/
private theorem rest_eq_nil_of_cancelled {α : Type} {segments : List (Segment α)}
    {beyond front rest : List (Segment α × Response)} {segment : Segment α}
    (single : beyond.length ≤ 1)
    (split : segments.map (·, Response.accepted) ++ beyond =
      front ++ (segment, .cancelled) :: rest) : rest = [] := by
  rcases List.append_eq_append_iff.1 split with ⟨before, -, inBeyond⟩ | ⟨middle, isPrefix, inRest⟩
  · have lengths := congrArg List.length inBeyond
    simp only [List.length_append, List.length_cons] at lengths
    exact List.eq_nil_of_length_eq_zero (by omega)
  · cases middle with
    | nil =>
        have lengths := congrArg List.length inRest
        simp only [List.nil_append, List.length_cons] at lengths
        exact List.eq_nil_of_length_eq_zero (by omega)
    | cons offer middle =>
        have sameOffer : (segment, Response.cancelled) = offer := (List.cons.inj inRest).1
        have member : (segment, Response.cancelled) ∈ segments.map (·, Response.accepted) := by
          rw [isPrefix, sameOffer]
          simp
        simp at member

variable {σ α : Type} [Scalar α]

/-- The number of segments that the line of a request is cut into. -/
def MoveRequest.segmentCount (request : MoveRequest α) (longest : α) : Nat :=
  DeltaRobot.segmentCount
    (request.target.displacementFrom (request.position.translate request.offset)).length longest

theorem Machine.count_routeOf (machine : Machine α) (request : MoveRequest α) :
    (machine.routeOf request).count = request.segmentCount machine.parameters.segmentLength :=
  rfl

/-- The books of a move balance: what is reported, where the machine is left and what the queue
was asked agree on the segments that were accepted. -/
structure MoveReport.Balanced (machine : Machine α) (dispatcher : Dispatcher σ α) (queue : σ)
    (request : MoveRequest α) (report : MoveReport σ α) : Prop where
  /-- The queue was called with the offered segments, in order, and with nothing else. -/
  answered : dispatcher.offerAll queue (report.offered.map Prod.fst) =
    (report.offered.map Prod.snd, report.queue)
  /-- The accepted segments end at the waypoints of the route, one after the other. -/
  waypoints : ∀ index segment, report.accepted[index]? = some segment →
    inverse machine.parameters ((machine.routeOf request).waypoint (index + 1)) =
      .ok segment.angles
  /-- A completed move sent every segment, and there was one. -/
  completed : report.outcome = .ok () →
    report.accepted.length = request.segmentCount machine.parameters.segmentLength ∧
      1 ≤ report.accepted.length ∧
      inverse machine.parameters request.target = .ok report.machine.pose.angles ∧
      report.machine.pose.cartesian = request.target
  /-- A failed one knows how many it sent, counting from one. -/
  failed : ∀ error, report.outcome = .error error →
    error.segmentsDispatched = report.accepted.length ∧
      ∀ number, error.stoppedAt? = some number → 1 ≤ number
  /-- The last accepted segment decides the pose. -/
  moved : ∀ segment, report.accepted.getLast? = some segment →
    report.machine.pose =
      ⟨segment.angles, (machine.routeOf request).waypoint report.accepted.length⟩
  /-- A move that had no segment accepted leaves the pose alone. -/
  unmoved : report.accepted.length = 0 → report.machine.pose = machine.pose
  /-- A cancelled segment is the last that is offered. -/
  silenced : ∀ front segment rest, report.offered = front ++ (segment, .cancelled) :: rest →
    rest = []
  cancelled_iff : (∃ number, report.outcome = .error (.cancelled number)) ↔
    ∃ segment, (segment, Response.cancelled) ∈ report.offered
  /-- The last waypoint is the target, which was seen to be reachable. -/
  blocked : ∀ number cause, report.outcome = .error (.segmentUnreachable number cause) →
    number < request.segmentCount machine.parameters.segmentLength
  /-- A move refused at one of its ends does not reach the queue. -/
  refused : ∀ cause, report.outcome = .error (.startUnreachable cause) ∨
    report.outcome = .error (.targetUnreachable cause) →
      report.offered = [] ∧ report.queue = queue
  parameters : report.machine.parameters = machine.parameters
  zOffset : report.machine.zOffset = machine.zOffset

/-- Either nothing was sent and the pose stays, or the pose solves where the machine is. -/
theorem MoveReport.Balanced.pose_cases {machine : Machine α} {dispatcher : Dispatcher σ α}
    {queue : σ} {request : MoveRequest α} {report : MoveReport σ α}
    (balanced : MoveReport.Balanced machine dispatcher queue request report) :
    (report.accepted = [] ∧ report.machine.pose = machine.pose) ∨
      ∃ segment, report.accepted.getLast? = some segment ∧
        report.machine.pose.angles = segment.angles ∧
        inverse machine.parameters report.machine.pose.cartesian = .ok segment.angles := by
  cases sent : report.accepted.getLast? with
  | none =>
      have noneSent := List.getLast?_eq_none_iff.1 sent
      exact .inl ⟨noneSent, balanced.unmoved (by rw [noneSent, List.length_nil])⟩
  | some segment =>
      have someSent : 0 < report.accepted.length := by
        refine List.length_pos_iff.2 (fun none => ?_)
        rw [none] at sent
        cases sent
      have solved := balanced.waypoints _ segment (List.getLast?_eq_getElem? ▸ sent)
      rw [Nat.sub_add_cancel someSent] at solved
      refine .inr ⟨segment, rfl, ?_, ?_⟩
      · rw [balanced.moved segment sent]
      · rw [balanced.moved segment sent]
        exact solved

private theorem balanced_of_refused {machine : Machine α} {dispatcher : Dispatcher σ α} {queue : σ}
    {request : MoveRequest α} {error : MoveError} {notices : List (Notice α)}
    (noSegment : error.stoppedAt? = none) (noneSent : error.segmentsDispatched = 0) :
    MoveReport.Balanced machine dispatcher queue request
      { outcome := .error error, machine, queue, offered := [], notices } where
  answered := rfl
  waypoints := by simp [MoveReport.accepted]
  completed := by simp
  failed := by
    intro other same
    cases same
    simp [MoveReport.accepted, noSegment, noneSent]
  moved := by simp [MoveReport.accepted]
  unmoved := fun _ => rfl
  silenced := by simp
  cancelled_iff := by
    constructor
    · rintro ⟨number, same⟩
      cases same
      cases noSegment
    · simp
  blocked := by
    intro number cause same
    cases same
    cases noSegment
  refused := fun _ _ => ⟨rfl, rfl⟩
  parameters := rfl
  zOffset := rfl

section Travelled

variable {machine : Machine α} {dispatcher : Dispatcher σ α} {queue : σ} {request : MoveRequest α}
  {startAngles targetAngles : ArmAngles α} {segments : List (Segment α)}
  {beyond : List (Segment α × Response)} {report : MoveReport σ α}

/-- A route that ends on its target has sent the segment of the last waypoint. -/
private theorem completed_of_travelled
    (reached : inverse machine.parameters request.target = .ok targetAngles)
    (travelled : Travelled dispatcher request.plan (machine.routeOf request) 1
      (machine.embarked queue request startAngles) segments beyond report)
    (arrived : report.outcome = .ok ()) :
    segments.length = (machine.routeOf request).count ∧
      report.machine.pose = ⟨targetAngles, request.target⟩ := by
  have allSent : segments.length = (machine.routeOf request).count := by
    have ending := travelled.ending
    rw [arrived] at ending
    have past := ending.past_of_ok
    omega
  have someSent : 0 < segments.length := by
    rw [allSent]
    exact Route.count_between_pos _ _ _
  obtain ⟨segment, last⟩ : ∃ segment, segments.getLast? = some segment :=
    ⟨_, List.getLast?_eq_some_getLast (List.ne_nil_of_length_pos someSent)⟩
  have lastStep : (machine.routeOf request).waypoint (1 + (segments.length - 1)) =
      request.target := by
    have sameStep : 1 + (segments.length - 1) = (machine.routeOf request).count := by omega
    rw [sameStep, Route.waypoint_count]
    rfl
  have solved := travelled.course.inverse_waypoint (List.getLast?_eq_getElem? ▸ last)
  have sameAngles : segment.angles = targetAngles := by
    rw [lastStep] at solved
    exact Except.ok.inj (solved.symm.trans reached)
  refine ⟨allSent, ?_⟩
  rw [travelled.pose_of_getLast? last, sameAngles]
  have sameStep : 1 + segments.length - 1 = 1 + (segments.length - 1) := by omega
  rw [sameStep, lastStep]

private theorem balanced_of_travelled
    (reached : inverse machine.parameters request.target = .ok targetAngles)
    (travelled : Travelled dispatcher request.plan (machine.routeOf request) 1
      (machine.embarked queue request startAngles) segments beyond report) :
    MoveReport.Balanced machine dispatcher queue request report := by
  have accepted : report.accepted = segments := travelled.accepted_eq rfl
  have offered : report.offered = segments.map (·, Response.accepted) ++ beyond :=
    travelled.offered_eq rfl
  have ending := travelled.ending
  exact
    { answered := by
        simpa [offered, Function.comp_def] using travelled.answered
      waypoints := by
        intro index segment found
        rw [accepted] at found
        rw [Nat.add_comm]
        exact travelled.course.inverse_waypoint found
      completed := by
        intro arrived
        obtain ⟨allSent, pose⟩ := completed_of_travelled reached travelled arrived
        have positive := Route.count_between_pos (request.position.translate request.offset)
          request.target machine.parameters.segmentLength
        rw [accepted, allSent, pose]
        exact ⟨rfl, positive, reached, rfl⟩
      failed := by
        intro error stopped
        rw [stopped] at ending
        rw [accepted]
        obtain ⟨-, ⟨cause, -, rfl⟩ | rfl⟩ := ending.cases_of_error
        · simp [MoveError.segmentsDispatched, MoveError.stoppedAt?]
        · simp [MoveError.segmentsDispatched, MoveError.stoppedAt?]
      moved := by
        intro segment last
        rw [accepted] at last ⊢
        rw [travelled.pose_of_getLast? last, Nat.add_sub_cancel_left]
      unmoved := by
        intro noneSent
        rw [accepted] at noneSent
        rw [travelled.machine, List.eq_nil_of_length_eq_zero noneSent]
        rfl
      silenced := by
        intro front segment rest split
        rw [offered] at split
        exact rest_eq_nil_of_cancelled ending.length_beyond_le split
      cancelled_iff := by
        rw [ending.cancelled_iff, offered]
        simp
      blocked := by
        intro number cause stopped
        rw [stopped] at ending
        obtain ⟨within, ⟨cause, unreached, same⟩ | same⟩ := ending.cases_of_error
        · cases same
          rw [← machine.count_routeOf]
          refine Nat.lt_of_le_of_ne within (fun isLast => ?_)
          rw [isLast, Route.waypoint_count] at unreached
          cases unreached.symm.trans reached
        · cases same
      refused := by
        rintro cause (stopped | stopped)
        · exact absurd stopped travelled.not_refused.1
        · exact absurd stopped travelled.not_refused.2
      parameters := by
        rw [travelled.machine]
        rfl
      zOffset := by
        rw [travelled.machine]
        rfl }

end Travelled

theorem Machine.Moved.balanced {machine : Machine α} {dispatcher : Dispatcher σ α} {queue : σ}
    {request : MoveRequest α} {report : MoveReport σ α}
    (moved : machine.Moved dispatcher queue request report) :
    MoveReport.Balanced machine dispatcher queue request report := by
  cases moved with
  | startRefused => exact balanced_of_refused rfl rfl
  | targetRefused => exact balanced_of_refused rfl rfl
  | travelled started reached travelled => exact balanced_of_travelled reached travelled

/-- Whatever the queue answers, the books of a move balance. -/
theorem move_balanced (machine : Machine α) (dispatcher : Dispatcher σ α) (queue : σ)
    (request : MoveRequest α) :
    MoveReport.Balanced machine dispatcher queue request
      (machine.move dispatcher queue request) :=
  (machine.moved dispatcher queue request).balanced

end DeltaRobot
