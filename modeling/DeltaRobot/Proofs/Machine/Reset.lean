import DeltaRobot.Proofs.Machine.History

/-!
Contract: what initialisation erases.

Initialisation reads the parameters of a machine and overwrites the rest of it, whether it finds a
zero pose or not. Calls never change the parameters, so a machine that is initialised after any
history becomes the machine that was initialised first. The height of the zero pose is written
nowhere else.

Owns: the machine, the notices and the moves after an initialisation that follows a history, and the
height of the zero pose along a history.
Does not own: the angles and the limits along a history.
-/

namespace DeltaRobot

variable {σ α : Type} [Scalar α]

/-- The reports of moves made one after the other, each with the queue that the one before left. -/
def Machine.moveAll (dispatcher : Dispatcher σ α) :
    Machine α → σ → List (MoveRequest α) → List (MoveReport σ α)
  | _, _, [] => []
  | machine, queue, request :: requests =>
      let report := machine.move dispatcher queue request
      report :: moveAll dispatcher report.machine report.queue requests

/-- A new machine knows nothing but its parameters. -/
theorem Machine.eq_of_ofParameters {parameters : Parameters α} {machine : Machine α}
    (built : ofParameters parameters = .ok machine) :
    machine = { parameters, pose := .initial, zOffset := none } := by
  unfold ofParameters at built
  cases validated : parameters.validate with
  | error cause =>
      rw [validated] at built
      cases built
  | ok =>
      rw [validated] at built
      exact (Except.ok.inj built).symm

/-- Nothing but the parameters shows after initialisation. -/
theorem Machine.initialise_congr {machine other : Machine α}
    (same : machine.parameters = other.parameters) : machine.initialise = other.initialise := by
  unfold initialise locate selfCheck
  rw [same]

theorem Machine.move_zOffset (machine : Machine α) (dispatcher : Dispatcher σ α) (queue : σ)
    (request : MoveRequest α) :
    (machine.move dispatcher queue request).machine.zOffset = machine.zOffset :=
  (move_balanced machine dispatcher queue request).zOffset

omit [Scalar α] in
/-- A move is seen as offers alone. -/
theorem MoveReport.initialised_not_mem_events (report : MoveReport σ α) :
    MachineEvent.initialised ∉ report.events := by
  intro member
  obtain ⟨offer, -, isOffer⟩ := List.mem_map.1 member
  cases isOffer

section

variable {start machine : Machine α} {events : List (MachineEvent α)}

theorem Machine.History.initialise_eq (history : start.History events machine) :
    machine.initialise = start.initialise :=
  initialise_congr history.parameters_eq

/-- The first initialisation decides the height for good. -/
theorem Machine.History.zOffset_cases (history : start.History events machine) :
    (.initialised ∉ events ∧ machine.zOffset = start.zOffset) ∨
      (.initialised ∈ events ∧ machine.zOffset = start.initialise.1.zOffset) := by
  induction history with
  | start => exact .inl ⟨List.not_mem_nil, rfl⟩
  | @initialise events machine before inductionHypothesis =>
      refine .inr ⟨?_, ?_⟩
      · exact List.mem_append_right _ List.mem_cons_self
      · rw [before.initialise_eq]
  | @move events machine τ dispatcher queue request before inductionHypothesis =>
      rw [machine.move_zOffset dispatcher queue request, List.mem_append]
      have onlyOffers :=
        (machine.move dispatcher queue request).initialised_not_mem_events
      rcases inductionHypothesis with ⟨never, same⟩ | ⟨once, first⟩
      · exact .inl ⟨fun member => member.elim never onlyOffers, same⟩
      · exact .inr ⟨.inl once, first⟩

end

/-- Whatever a machine went through, initialising it leaves the machine and gives the notices that
initialising a new one does, so moves made afterwards report the same. The height of the zero pose
is unknown until the first initialisation, which decides it, and no move changes it. -/
theorem initialise_erases_history (parameters : Parameters α) (start machine : Machine α)
    (events : List (MachineEvent α)) (built : Machine.ofParameters parameters = .ok start)
    (history : start.History events machine) :
    machine.initialise = start.initialise ∧
      (∀ (τ : Type) (dispatcher : Dispatcher τ α) (queue : τ) (requests : List (MoveRequest α)),
        machine.initialise.1.moveAll dispatcher queue requests =
          start.initialise.1.moveAll dispatcher queue requests) ∧
      (∀ (τ : Type) (dispatcher : Dispatcher τ α) (queue : τ) (request : MoveRequest α),
        (machine.move dispatcher queue request).machine.zOffset = machine.zOffset) ∧
      (.initialised ∉ events → machine.zOffset = none) ∧
      (.initialised ∈ events → machine.zOffset = start.initialise.1.zOffset) := by
  have same := history.initialise_eq
  have fresh : start.zOffset = none := by
    rw [Machine.eq_of_ofParameters built]
  refine ⟨same, ?_, ?_, ?_, ?_⟩
  · intro τ dispatcher queue requests
    rw [same]
  · intro τ dispatcher queue request
    exact machine.move_zOffset dispatcher queue request
  · intro never
    rcases history.zOffset_cases with ⟨-, unchanged⟩ | ⟨once, -⟩
    · rw [unchanged, fresh]
    · exact absurd once never
  · intro once
    rcases history.zOffset_cases with ⟨never, -⟩ | ⟨-, first⟩
    · exact absurd once never
    · exact first

/-- The stubby machine is initialised, lifted and initialised again. -/
theorem stubbyLifted_initialise :
    Machine.ofParameters .stubby = .ok .stubby ∧
      Machine.stubby.History
        (.initialised :: (Machine.stubby.initialise.1.move .acceptAll () stubbyLift).events)
        .stubbyLifted ∧
      Machine.stubbyLifted.initialise = Machine.stubby.initialise ∧
      Machine.stubbyLifted.zOffset = Machine.stubby.initialise.1.zOffset := by
  have built : Machine.ofParameters .stubby = .ok .stubby := by
    rw [Machine.ofParameters, Parameters.stubby_valid]
    rfl
  have fresh : Machine.stubby.History [] .stubby := .start
  have history := fresh.initialise.move .acceptAll () stubbyLift
  have erased := initialise_erases_history _ _ _ _ built history
  exact ⟨built, history, erased.1, erased.2.2.2.2 (by simp)⟩

end DeltaRobot
