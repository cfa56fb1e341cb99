import DeltaRobot.Proofs.Exact.Coherence
import DeltaRobot.Proofs.Kinematics.Limits

/-!
Contract: what a machine goes through, and which angles it comes to keep.

A machine is initialised and moved in any order, each move with a request and a queue of its own. A
`History` records what this looks like from outside: each initialisation, and each segment that a
queue was offered with its answer. The angles that the machine keeps can be read off that record
alone, and so can the limits that they and all offers stay within.

Owns: the record of all calls on a machine, and the invariants of the kept angles.
Does not own: the position that a machine keeps.
-/

namespace DeltaRobot

variable {σ α : Type} [Scalar α]

inductive MachineEvent (α : Type) where
  | initialised
  /-- A queue was offered a segment, and gave a response to it. -/
  | offered (offer : Segment α × Response)

/-- The angles that a machine keeps after an event. A cancelled segment changes nothing. -/
def MachineEvent.anglesAfter (kept : ArmAngles α) : MachineEvent α → ArmAngles α
  | initialised => .zero
  | offered (segment, .accepted) => segment.angles
  | offered (_, .cancelled) => kept

/-- The angles that a machine keeps after some events, the zero angles before any. -/
def keptAngles (events : List (MachineEvent α)) : ArmAngles α :=
  events.foldl MachineEvent.anglesAfter .zero

/-- What a move looks like from outside. -/
def MoveReport.events (report : MoveReport σ α) : List (MachineEvent α) :=
  report.offered.map .offered

/-- The machines that calls on `start` lead to, each with all the events on the way. -/
inductive Machine.History (start : Machine α) : List (MachineEvent α) → Machine α → Prop where
  | start : History start [] start
  | initialise {events : List (MachineEvent α)} {machine : Machine α}
      (before : History start events machine) :
      History start (events ++ [.initialised]) machine.initialise.1
  | move {events : List (MachineEvent α)} {machine : Machine α} {τ : Type}
      (dispatcher : Dispatcher τ α) (queue : τ) (request : MoveRequest α)
      (before : History start events machine) :
      History start (events ++ (machine.move dispatcher queue request).events)
        (machine.move dispatcher queue request).machine

/-! ### The angles after an event -/

/-- Initialisation leaves the zero angles, whether it finds a zero pose or not. -/
theorem Machine.initialise_keeps (machine : Machine α) :
    machine.initialise.1.parameters = machine.parameters ∧
      machine.initialise.1.pose.angles = .zero := by
  unfold initialise
  cases located : (machine.locate .zero).1 with
  | ok point => simp [located]
  | error cause => simp [located, Pose.initial]

theorem foldl_anglesAfter_cases (events : List (MachineEvent α)) (kept : ArmAngles α) :
    events.foldl MachineEvent.anglesAfter kept = kept ∨
      events.foldl MachineEvent.anglesAfter kept = .zero ∨
      ∃ segment, .offered (segment, .accepted) ∈ events ∧
        events.foldl MachineEvent.anglesAfter kept = segment.angles := by
  induction events generalizing kept with
  | nil => exact .inl rfl
  | cons event events inductionHypothesis =>
      rw [List.foldl_cons]
      rcases inductionHypothesis (event.anglesAfter kept) with same | zero | ⟨segment, later, last⟩
      · rw [same]
        cases event with
        | initialised => exact .inr (.inl rfl)
        | offered offer =>
            obtain ⟨segment, response⟩ := offer
            cases response with
            | accepted => exact .inr (.inr ⟨segment, List.mem_cons_self, rfl⟩)
            | cancelled => exact .inl rfl
      · exact .inr (.inl zero)
      · exact .inr (.inr ⟨segment, List.mem_cons_of_mem _ later, last⟩)

/-- Before any event the zero angles are kept, and only acceptance brings others. -/
theorem keptAngles_cases (events : List (MachineEvent α)) :
    keptAngles events = .zero ∨
      ∃ segment, .offered (segment, .accepted) ∈ events ∧ keptAngles events = segment.angles := by
  rcases foldl_anglesAfter_cases events .zero with same | zero | last
  · exact .inl same
  · exact .inl zero
  · exact .inr last

theorem foldl_anglesAfter_accepted (segments : List (Segment α)) (kept : ArmAngles α) :
    ((segments.map (·, Response.accepted)).map .offered).foldl MachineEvent.anglesAfter kept =
      lastAngles kept segments := by
  induction segments generalizing kept with
  | nil => rfl
  | cons segment segments inductionHypothesis => exact inductionHypothesis segment.angles

theorem Route.angles_poseAfter (route : Route α) (step : Nat) (pose : Pose α)
    (segments : List (Segment α)) :
    (route.poseAfter step pose segments).angles = lastAngles pose.angles segments := by
  induction segments generalizing step pose with
  | nil => rfl
  | cons segment segments inductionHypothesis => exact inductionHypothesis _ _

/-! ### One move -/

section

variable {machine : Machine α} {dispatcher : Dispatcher σ α} {queue : σ} {request : MoveRequest α}
  {report : MoveReport σ α}

/-- The pose follows the accepted segments and nothing else. -/
theorem Machine.Moved.foldl_events (moved : machine.Moved dispatcher queue request report) :
    report.events.foldl MachineEvent.anglesAfter machine.pose.angles =
      report.machine.pose.angles := by
  cases moved with
  | startRefused => rfl
  | targetRefused => rfl
  | @travelled startAngles targetAngles segments beyond report started reached travelled =>
      rw [MoveReport.events, travelled.offered_eq rfl, travelled.machine, Route.angles_poseAfter,
        List.map_append, List.foldl_append, foldl_anglesAfter_accepted]
      rcases travelled.ending.inversion with ⟨-, -, noneBeyond⟩ | ⟨-, -, -, -, noneBeyond⟩ |
        ⟨angles, -, -, -, cancelledBeyond⟩
      · rw [noneBeyond]
        rfl
      · rw [noneBeyond]
        rfl
      · rw [cancelledBeyond]
        rfl

/-- Every offered segment ends in angles that the inverse solver answered. -/
theorem Machine.Moved.offered_solved (moved : machine.Moved dispatcher queue request report)
    {segment : Segment α} {response : Response} (offered : (segment, response) ∈ report.offered) :
    ∃ point, inverse machine.parameters point = .ok segment.angles := by
  cases moved with
  | startRefused => simp at offered
  | targetRefused => simp at offered
  | travelled started reached travelled =>
      rw [travelled.offered_eq rfl, List.mem_append] at offered
      rcases offered with onCourse | isBeyond
      · obtain ⟨other, member, same⟩ := List.mem_map.1 onCourse
        cases same
        obtain ⟨index, found⟩ := List.getElem?_of_mem member
        exact ⟨_, travelled.course.inverse_waypoint found⟩
      · rcases travelled.ending.inversion with ⟨-, -, noneBeyond⟩ | ⟨-, -, -, -, noneBeyond⟩ |
          ⟨angles, -, reached, -, cancelledBeyond⟩
        · simp [noneBeyond] at isBeyond
        · simp [noneBeyond] at isBeyond
        · rw [cancelledBeyond, List.mem_singleton] at isBeyond
          cases isBeyond
          exact ⟨_, reached⟩

end

/-! ### All calls -/

section

variable {start machine : Machine α} {events : List (MachineEvent α)}

theorem Machine.History.parameters_eq (history : start.History events machine) :
    machine.parameters = start.parameters := by
  induction history with
  | start => rfl
  | @initialise events machine before inductionHypothesis =>
      rw [machine.initialise_keeps.1, inductionHypothesis]
  | @move events machine τ dispatcher queue request before inductionHypothesis =>
      rw [(machine.moved dispatcher queue request).balanced.parameters, inductionHypothesis]

theorem Machine.History.angles_eq (history : start.History events machine)
    (fresh : start.pose.angles = .zero) : machine.pose.angles = keptAngles events := by
  induction history with
  | start => exact fresh
  | @initialise events machine before inductionHypothesis =>
      rw [machine.initialise_keeps.2, keptAngles, List.foldl_append]
      rfl
  | @move events machine τ dispatcher queue request before inductionHypothesis =>
      rw [keptAngles, List.foldl_append, ← keptAngles, ← inductionHypothesis,
        (machine.moved dispatcher queue request).foldl_events]

theorem Machine.History.permits (history : start.History events machine) {segment : Segment α}
    {response : Response} (offered : .offered (segment, response) ∈ events) :
    ∀ angle ∈ segment.angles.toList, start.parameters.Permits angle := by
  induction history with
  | start => simp at offered
  | initialise before inductionHypothesis =>
      exact inductionHypothesis (by simpa using offered)
  | @move events machine τ dispatcher queue request before inductionHypothesis =>
      rcases List.mem_append.1 offered with earlier | now
      · exact inductionHypothesis earlier
      · obtain ⟨offer, member, same⟩ := List.mem_map.1 now
        cases same
        obtain ⟨point, solved⟩ := (machine.moved dispatcher queue request).offered_solved member
        rw [← before.parameters_eq]
        exact permits_of_inverse solved

end

/-- Whatever a machine goes through, no segment that it offers has an angle beyond the limits. The
angles that it keeps are those of the segment accepted last, or zero if none was accepted since it
was last initialised. -/
theorem history_keeps_limits (parameters : Parameters α) (start machine : Machine α)
    (events : List (MachineEvent α)) (built : Machine.ofParameters parameters = .ok start)
    (history : start.History events machine) :
    (∀ segment response, .offered (segment, response) ∈ events →
        ∀ angle ∈ segment.angles.toList, parameters.Permits angle) ∧
      machine.pose.angles = keptAngles events ∧
      (machine.pose.angles = .zero ∨ ∃ segment, .offered (segment, .accepted) ∈ events ∧
        machine.pose.angles = segment.angles) := by
  unfold Machine.ofParameters at built
  cases validated : parameters.validate with
  | error cause =>
      rw [validated] at built
      cases built
  | ok =>
      rw [validated] at built
      cases built
      have angles := history.angles_eq rfl
      refine ⟨fun segment response offered => history.permits offered, angles, ?_⟩
      rw [angles]
      exact keptAngles_cases events

/-- The stubby machine is initialised and then lifted. -/
theorem stubbyLifted_keeps_limits :
    Machine.ofParameters .stubby = .ok .stubby ∧
      Machine.stubby.History
        (.initialised :: (Machine.stubby.initialise.1.move .acceptAll () stubbyLift).events)
        .stubbyLifted ∧
      Machine.stubbyLifted.pose.angles = keptAngles
        (.initialised :: (Machine.stubby.initialise.1.move .acceptAll () stubbyLift).events) := by
  have built : Machine.ofParameters .stubby = .ok .stubby := by
    rw [Machine.ofParameters, Parameters.stubby_valid]
    rfl
  have fresh : Machine.stubby.History [] .stubby := .start
  have history := fresh.initialise.move .acceptAll () stubbyLift
  exact ⟨built, history, (history_keeps_limits _ _ _ _ built history).2.1⟩

end DeltaRobot
