import Mathlib.Data.List.Basic

/-! Machines driven by events. A step may refuse an event, so that a control
point can bar the events that are impossible there. A condition on the steps of
a run is stated with the same `Throughout` as the property it buys, and both are
carried along a run by an invariant of one step. -/
namespace Runs

variable {State Event : Type*} {step : State → Event → Option State}
variable {state next final : State} {event : Event} {events front back : List Event}

/-- The state after the events, when none of them was refused. -/
def run (step : State → Event → Option State) : State → List Event → Option State
  | state, [] => some state
  | state, event :: rest => (step state event).bind fun next => run step next rest

theorem run_cons :
    run step state (event :: events) = (step state event).bind fun next => run step next events := rfl

theorem run_append : run step state (front ++ back) = (run step state front).bind fun next => run step next back := by
  induction front generalizing state with
  | nil => rfl
  | cons event rest ih => simp only [List.cons_append, run_cons, ih, Option.bind_assoc]

/-- `holds before event after` at every step the run takes. -/
def Throughout (step : State → Event → Option State) (holds : State → Event → State → Prop) :
    State → List Event → Prop
  | _, [] => True
  | state, event :: rest =>
    ∀ next, step state event = some next → holds state event next ∧ Throughout step holds next rest

/-- A condition on the state before the step and the event. -/
abbrev Guarded (step : State → Event → Option State) (guard : State → Event → Prop) :
    State → List Event → Prop :=
  Throughout step fun state event _ => guard state event

/-- When a guarded step keeps the invariant and does what is asked of it, a
run of guarded steps does so throughout. -/
theorem throughout_of_guarded (invariant : State → Prop) {guard : State → Event → Prop}
    {holds : State → Event → State → Prop}
    (sound : ∀ state event next, invariant state → guard state event →
      step state event = some next → invariant next ∧ holds state event next)
    (initial : invariant state) (guarded : Guarded step guard state events) :
    Throughout step holds state events := by
  induction events generalizing state with
  | nil => trivial
  | cons event rest ih =>
    intro next stepped
    obtain ⟨met, guarded⟩ := guarded next stepped
    obtain ⟨kept, done⟩ := sound state event next initial met stepped
    exact ⟨done, ih kept guarded⟩

/-- When every step keeps the invariant and does what is asked of it, so does a run. -/
theorem throughout_of_invariant (invariant : State → Prop) {holds : State → Event → State → Prop}
    (sound : ∀ state event next, invariant state → step state event = some next → invariant next ∧ holds state event next)
    (initial : invariant state) : Throughout step holds state events := by
  induction events generalizing state with
  | nil => trivial
  | cons event rest ih =>
    intro next stepped
    obtain ⟨kept, done⟩ := sound state event next initial stepped
    exact ⟨done, ih kept⟩

/-- When, under the invariant, a step does what is asked of it exactly if it
is guarded, and guarded steps keep the invariant, a run does what is asked
throughout exactly if all its steps are guarded. The first unguarded step is
where it fails. -/
theorem throughout_iff_guarded (invariant : State → Prop) {guard : State → Event → Prop}
    {holds : State → Event → State → Prop}
    (kept : ∀ state event next, invariant state → guard state event →
      step state event = some next → invariant next)
    (exactly : ∀ state event next, invariant state → step state event = some next →
      (holds state event next ↔ guard state event))
    (initial : invariant state) :
    Throughout step holds state events ↔ Guarded step guard state events := by
  induction events generalizing state with
  | nil => exact Iff.rfl
  | cons event rest ih =>
    refine forall_congr' fun next => imp_congr_right fun stepped => ?_
    have here := exactly state event next initial stepped
    constructor
    · rintro ⟨done, along⟩
      have met := here.mp done
      exact ⟨met, (ih (kept state event next initial met stepped)).mp along⟩
    · rintro ⟨met, guarded⟩
      exact ⟨here.mpr met, (ih (kept state event next initial met stepped)).mpr guarded⟩

/-- When two properties of a step agree under an invariant that every step keeps,
they agree along a run. -/
theorem throughout_congr (invariant : State → Prop) {first second : State → Event → State → Prop}
    (sound : ∀ state event next, invariant state → step state event = some next →
      invariant next ∧ (first state event next ↔ second state event next))
    (initial : invariant state) : Throughout step first state events ↔ Throughout step second state events := by
  induction events generalizing state with
  | nil => exact Iff.rfl
  | cons event rest ih =>
    refine forall_congr' fun next => imp_congr_right fun stepped => ?_
    obtain ⟨kept, same⟩ := sound state event next initial stepped
    exact and_congr same (ih kept)

end Runs
