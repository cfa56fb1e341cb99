import DeltaRobot.Proofs.Move.Plan

/-!
Contract: a move that goes on where another one stopped.

`Continues` says what two requests have to share for the one to go on after some steps of the
other. Then every step of the one is a step of the other, as many steps later, so the plan of the
whole is what was sent before it stopped, followed by the plan of the rest. `Completes` says the
same of the two reports.

Owns: continued plans and moves in every arithmetic, and the queue that stops a move on its way.
Does not own: which requests continue one another, which is geometry.
-/

namespace DeltaRobot

variable {σ τ υ α : Type} [Scalar α]

/-- A request that goes on from where another one is after some steps. -/
structure MoveRequest.Continues (rest whole : MoveRequest α) (longest : α) (sent : Nat) :
    Prop where
  plan : rest.plan = whole.plan
  target : rest.target = whole.target
  position : rest.position = whole.waypoint longest sent
  segmentCount : rest.segmentCount longest = whole.segmentCount longest - sent
  stepLength : rest.stepLength longest = whole.stepLength longest
  waypoint : ∀ step, rest.waypoint longest step = whole.waypoint longest (sent + step)

/-- A report of what was left of a move, next to a report of the whole move. -/
structure MoveReport.Completes (rest : MoveReport σ α) (whole : MoveReport τ α) (sent : Nat) :
    Prop where
  offered : rest.offered = whole.offered.drop sent
  machine : rest.machine = whole.machine
  /-- Both arrive, or both are blocked at the same step. -/
  outcome : (rest.outcome = .ok () ∧ whole.outcome = .ok ()) ∨
    ∃ number cause, rest.outcome = .error (.segmentUnreachable number cause) ∧
      whole.outcome = .error (.segmentUnreachable (sent + number) cause)

/-! ### Poses along a route -/

theorem Route.poseAfter_append {route : Route α} {step : Nat} {pose : Pose α}
    {front back : List (Segment α)} :
    route.poseAfter step pose (front ++ back) =
      route.poseAfter (step + front.length) (route.poseAfter step pose front) back := by
  induction front generalizing step pose with
  | nil => rfl
  | cons segment front inductionHypothesis =>
      have sameStep : step + (front.length + 1) = step + 1 + front.length := by omega
      rw [List.cons_append, poseAfter, inductionHypothesis, List.length_cons, sameStep, poseAfter]

/-- The pose depends on the waypoints of the accepted steps alone. -/
theorem Route.poseAfter_congr {rest whole : Route α} {sent step : Nat} {pose : Pose α}
    {segments : List (Segment α)}
    (same : ∀ number, step ≤ number → number < step + segments.length →
      rest.waypoint number = whole.waypoint (sent + number)) :
    rest.poseAfter step pose segments = whole.poseAfter (sent + step) pose segments := by
  induction segments generalizing step pose with
  | nil => rfl
  | cons segment segments inductionHypothesis =>
      rw [List.length_cons] at same
      rw [poseAfter, poseAfter, same step (Nat.le_refl _) (by omega), Nat.add_assoc]
      apply inductionHypothesis
      intro number later within
      exact same number (by omega) (by omega)

/-! ### The plan of the rest -/

section

variable {machine : Machine α} {rest whole : MoveRequest α} {sent : Nat}

theorem MoveRequest.Continues.stepEnd
    (continues : rest.Continues whole machine.parameters.segmentLength sent) (someSent : 0 < sent)
    (step : Nat) : machine.stepEnd rest step = machine.stepEnd whole (sent + step) := by
  obtain ⟨before, rfl⟩ : ∃ before, sent = before + 1 := ⟨sent - 1, by omega⟩
  cases step with
  | zero =>
      -- The rest starts in the waypoint that the last accepted step ended in.
      rw [Machine.stepEnd, continues.position]
      rfl
  | succ step =>
      rw [Machine.stepEnd, continues.waypoint]
      rfl

theorem MoveRequest.Continues.planned?
    (continues : rest.Continues whole machine.parameters.segmentLength sent) (someSent : 0 < sent)
    (step : Nat) : machine.planned? rest step = machine.planned? whole (sent + step) := by
  have sameSegment (previous angles : ArmAngles α) :
      rest.segment machine.parameters.segmentLength previous angles =
        whole.segment machine.parameters.segmentLength previous angles := by
    rw [segment, segment, continues.plan, continues.stepLength]
  rw [Machine.planned?, Machine.planned?, continues.stepEnd someSent, continues.stepEnd someSent,
    Nat.add_assoc]
  simp only [sameSegment]

end

section

variable {machine : Machine α} {dispatcher : Dispatcher σ α} {queue : σ}
  {whole : MoveRequest α} {startAngles : ArmAngles α} {segments : List (Segment α)}
  {beyond : List (Segment α × Response)} {report : MoveReport σ α}

/-- A move that sent something leaves the machine at the waypoint of its last accepted step, with
the angles that reach it. -/
theorem Machine.Departed.inverse_pose
    (departed : machine.Departed dispatcher queue whole startAngles segments beyond report)
    (someSent : 0 < segments.length) :
    report.machine.pose.cartesian =
        whole.waypoint machine.parameters.segmentLength segments.length ∧
      inverse machine.parameters report.machine.pose.cartesian =
        .ok report.machine.pose.angles := by
  have lastStep : 1 + (segments.length - 1) = segments.length := by omega
  have sameStep : 1 + segments.length - 1 = segments.length := by omega
  have found : segments[segments.length - 1]? = some segments[segments.length - 1] :=
    List.getElem?_eq_getElem _
  have last := found
  rw [← List.getLast?_eq_getElem?] at last
  have reached := departed.accepted.inverse_waypoint found
  rw [departed.travelled.pose_of_getLast? last, sameStep]
  rw [lastStep] at reached
  exact ⟨machine.waypoint_routeOf departed.length_segments_le, reached⟩

/-- What was sent before a move stopped, and the plan of the rest, are the plan of the whole. -/
theorem Machine.Departed.plan_eq_of_continues {rest : MoveRequest α}
    (departed : machine.Departed dispatcher queue whole startAngles segments beyond report)
    (someSent : 0 < segments.length)
    (continues : rest.Continues whole machine.parameters.segmentLength segments.length) :
    machine.plan whole = segments ++ machine.plan rest := by
  have planned : machine.planned? rest =
      machine.planned? whole ∘ (segments.length + ·) :=
    funext (continues.planned? someSent)
  rw [departed.accepted.plan_eq departed.length_segments_le departed.started,
    List.range'_eq_map_range, List.map_map, ← planned, ← continues.segmentCount]
  rfl

variable {first : Dispatcher τ α} {firstQueue : τ} {all : List (Segment α)}
  {beyondAll : List (Segment α × Response)} {wholeReport : MoveReport τ α}
  {second : Dispatcher υ α} {secondQueue : υ} {rest : MoveRequest α} {restAngles : ArmAngles α}
  {remaining : List (Segment α)} {beyondRest : List (Segment α × Response)}
  {restReport : MoveReport υ α}

/-- A stopped move and the rest of it are the whole move, if the queue takes both whole. -/
theorem Machine.Departed.completes
    (stopped : machine.Departed dispatcher queue whole startAngles segments beyond report)
    (someSent : 0 < segments.length)
    (continues : rest.Continues whole machine.parameters.segmentLength segments.length)
    (entire : machine.Departed first firstQueue whole startAngles all beyondAll wholeReport)
    (firstWilling : first.Willing)
    (resumed : report.machine.Departed second secondQueue rest restAngles remaining beyondRest
      restReport)
    (secondWilling : second.Willing) : restReport.Completes wholeReport segments.length := by
  obtain ⟨noneBeyondAll, wholeStops⟩ := entire.stopped_of_willing firstWilling
  obtain ⟨noneBeyondRest, restStops⟩ := resumed.stopped_of_willing secondWilling
  have sameParameters : report.machine.parameters = machine.parameters := by
    rw [stopped.machine_eq]
  have restPlan : machine.plan rest = remaining := by
    rw [← resumed.plan_eq_of_willing secondWilling, stopped.machine_eq]
    rfl
  have split : all = segments ++ remaining := by
    rw [← entire.plan_eq_of_willing firstWilling,
      stopped.plan_eq_of_continues someSent continues, restPlan]
  have lengths : all.length = segments.length + remaining.length := by
    rw [split, List.length_append]
  have within := resumed.length_segments_le
  rw [sameParameters, continues.segmentCount] at within restStops
  have sent := stopped.length_segments_le
  constructor
  · rw [resumed.offered_eq, entire.offered_eq, noneBeyondAll, noneBeyondRest, List.append_nil,
      List.append_nil, split, List.map_append]
    exact (List.drop_left' (List.length_map _)).symm
  · have samePose : (machine.routeOf rest).poseAfter 1 report.machine.pose remaining =
        (machine.routeOf whole).poseAfter 1 machine.pose all := by
      rw [split, Route.poseAfter_append, Nat.add_comm 1, stopped.machine_eq]
      apply Route.poseAfter_congr
      intro number later before
      rw [Machine.waypoint_routeOf (by rw [continues.segmentCount]; omega),
        Machine.waypoint_routeOf (by omega), continues.waypoint]
    rw [resumed.machine_eq, entire.machine_eq, ← samePose, stopped.machine_eq]
    rfl
  · have sameEnd : report.machine.stepEnd rest (remaining.length + 1) =
        machine.stepEnd whole (all.length + 1) := by
      have sameStep : segments.length + (remaining.length + 1) = all.length + 1 := by omega
      rw [← sameStep, ← continues.stepEnd someSent, stopped.machine_eq]
      rfl
    rcases restStops with ⟨restLast, restOutcome⟩ | ⟨cause, restBefore, unreached, restOutcome⟩
    · rcases wholeStops with ⟨-, wholeOutcome⟩ | ⟨-, wholeBefore, -⟩
      · exact .inl ⟨restOutcome, wholeOutcome⟩
      · omega
    · rcases wholeStops with ⟨wholeLast, -⟩ | ⟨wholeCause, -, wholeUnreached, wholeOutcome⟩
      · omega
      · rw [sameEnd, wholeUnreached] at unreached
        cases unreached
        rw [lengths, Nat.add_assoc] at wholeOutcome
        exact .inr ⟨_, _, restOutcome, wholeOutcome⟩

end

/-! ### A queue that stops a move -/

omit [Scalar α] in
/-- A queue with room for some segments accepts as many, and cancels what comes after. -/
theorem Dispatcher.offerAll_acceptAtMost (room index : Nat) {segments : List (Segment α)}
    (inside : index < segments.length) :
    (acceptAtMost.offerAll (some room) segments).1[index]? =
      some (if index < room then .accepted else .cancelled) := by
  induction segments generalizing room index with
  | nil => cases inside
  | cons segment segments inductionHypothesis =>
      cases index with
      | zero => cases room <;> rfl
      | succ index =>
          have insideRest : index < segments.length := Nat.lt_of_succ_lt_succ inside
          cases room with
          | zero =>
              have answer := inductionHypothesis 0 index insideRest
              rw [if_neg (Nat.not_lt_zero _)] at answer ⊢
              exact answer
          | succ room =>
              have answer := inductionHypothesis room index insideRest
              simpa [offerAll, acceptAtMost] using answer

/-- A queue with room for some segments stops a move after them, if their ends are reachable. -/
theorem Machine.Departed.length_eq_of_acceptAtMost {machine : Machine α} {room : Nat}
    {request : MoveRequest α} {startAngles : ArmAngles α} {segments : List (Segment α)}
    {beyond : List (Segment α × Response)} {report : MoveReport (Option Nat) α}
    (departed : machine.Departed .acceptAtMost (some room) request startAngles segments beyond
      report)
    (fits : room ≤ request.segmentCount machine.parameters.segmentLength)
    (passable : ∀ step, step ≤ room → ∃ angles, machine.stepEnd request step = .ok angles) :
    segments.length = room := by
  have answered : (Dispatcher.acceptAtMost.offerAll (some room)
      (segments ++ beyond.map Prod.fst)).1 =
        segments.map (fun _ => Response.accepted) ++ beyond.map Prod.snd :=
    congrArg Prod.fst departed.travelled.answered
  have answer (index : Nat) (inside : index < segments.length + beyond.length) :
      (segments.map (fun _ => Response.accepted) ++ beyond.map Prod.snd)[index]? =
        some (if index < room then .accepted else .cancelled) := by
    rw [← answered]
    apply Dispatcher.offerAll_acceptAtMost
    simpa using inside
  apply Nat.le_antisymm
  · apply Nat.le_of_not_lt
    intro more
    have cancelled := answer room (Nat.lt_add_right _ more)
    rw [if_neg (Nat.lt_irrefl _), List.getElem?_append_left (by simpa using more),
      List.getElem?_map, List.getElem?_eq_getElem more] at cancelled
    cases cancelled
  · apply Nat.le_of_not_lt
    intro fewer
    rcases departed.ending.inversion with
      ⟨past, -⟩ | ⟨cause, within, unreached, -⟩ | ⟨angles, -, -, -, cancelledBeyond⟩
    · rw [machine.count_routeOf] at past
      omega
    · rw [machine.count_routeOf, Nat.add_comm] at within
      rw [Nat.add_comm, ← machine.stepEnd_succ within] at unreached
      obtain ⟨angles, reached⟩ := passable (segments.length + 1) fewer
      cases unreached.symm.trans reached
    · have accepted := answer segments.length (by simp [cancelledBeyond])
      rw [if_pos fewer] at accepted
      simp [cancelledBeyond] at accepted

end DeltaRobot
