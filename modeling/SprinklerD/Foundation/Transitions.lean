import Mathlib.Data.List.Basic

/-!
# Runs of a step function

A system is a total step function on states. A run feeds it a list of events;
a state is reachable when allowed steps lead to it from a starting state. The
two induction rules carry an invariant through either of them, so that a
safety property needs a base case and one step.
-/

namespace Foundation.Transitions

set_option autoImplicit false

variable {State Event : Type*}

def run (step : State → Event → State) (start : State) (events : List Event) : State :=
  events.foldl step start

/-- `allowed` is met by every step of the run, judged in the state before it. -/
def Admitted (step : State → Event → State) (allowed : State → Event → Prop) :
    State → List Event → Prop
  | _, [] => True
  | state, event :: rest => allowed state event ∧ Admitted step allowed (step state event) rest

inductive Reachable (step : State → Event → State) (start : State → Prop)
    (allowed : State → Event → Prop) : State → Prop where
  | start {state : State} (initial : start state) : Reachable step start allowed state
  | next {state : State} (prior : Reachable step start allowed state) (event : Event)
      (admitted : allowed state event) : Reachable step start allowed (step state event)

variable {step : State → Event → State}

@[simp]
theorem run_nil (start : State) : run step start [] = start := rfl

@[simp]
theorem run_cons (start : State) (event : Event) (rest : List Event) :
    run step start (event :: rest) = run step (step start event) rest := rfl

theorem run_append (start : State) (first second : List Event) :
    run step start (first ++ second) = run step (run step start first) second := by
  simp only [run, List.foldl_append]

theorem reachable_invariant {start : State → Prop} {allowed : State → Event → Prop}
    (invariant : State → Prop) (base : ∀ state, start state → invariant state)
    (preserved : ∀ state event, invariant state → allowed state event →
      invariant (step state event))
    {state : State} (reached : Reachable step start allowed state) : invariant state := by
  induction reached with
  | start initial => exact base _ initial
  | next prior event admitted ih => exact preserved _ event ih admitted

/-- The invariant may depend on the events still to come, which is how a bound
on later clock readings travels along a run. -/
theorem run_invariant {allowed : State → Event → Prop}
    (invariant : State → List Event → Prop)
    (preserved : ∀ state event rest, invariant state (event :: rest) → allowed state event →
      invariant (step state event) rest)
    {state : State} {events : List Event} (base : invariant state events)
    (admitted : Admitted step allowed state events) : invariant (run step state events) [] := by
  induction events generalizing state with
  | nil => exact base
  | cons event rest ih =>
      exact ih (preserved state event rest base admitted.1) admitted.2

theorem admitted_append {allowed : State → Event → Prop} {state : State}
    {first second : List Event} :
    Admitted step allowed state (first ++ second) ↔
      Admitted step allowed state first ∧ Admitted step allowed (run step state first) second := by
  induction first generalizing state with
  | nil => simp [Admitted]
  | cons event rest ih => simp only [List.cons_append, Admitted, run_cons, ih, and_assoc]

theorem admitted_of_forall {allowed : Event → Prop} {state : State} {events : List Event}
    (every : ∀ event ∈ events, allowed event) :
    Admitted step (fun _ event => allowed event) state events := by
  induction events generalizing state with
  | nil => trivial
  | cons event rest ih =>
      constructor
      · exact every event (by simp)
      · exact ih fun later member => every later (List.mem_cons_of_mem _ member)

theorem admitted_iff_forall {allowed : Event → Prop} {state : State} {events : List Event} :
    Admitted step (fun _ event => allowed event) state events ↔
      ∀ event ∈ events, allowed event := by
  apply Iff.intro _ admitted_of_forall
  induction events generalizing state with
  | nil => simp
  | cons event rest ih =>
      rintro ⟨here, later⟩ other member
      rcases List.mem_cons.mp member with rfl | tail
      · exact here
      · exact ih later other tail

/-- What holds after every part of a run holds at the start and after each step. -/
theorem prefixes_iff_admitted (property : State → Prop) {state : State} {events : List Event} :
    (∀ done, done <+: events → property (run step state done)) ↔
      property state ∧
        Admitted step (fun state event => property (step state event)) state events := by
  induction events generalizing state with
  | nil => simp [Admitted]
  | cons event rest ih =>
      have tail := @ih (step state event)
      constructor
      · intro every
        have later := tail.mp fun done prior =>
          every (event :: done) (List.cons_prefix_cons.mpr ⟨rfl, prior⟩)
        exact ⟨every [] List.nil_prefix, later⟩
      · rintro ⟨here, admitted⟩ done prior
        cases done with
        | nil => exact here
        | cons first done =>
            obtain ⟨rfl, within⟩ := List.cons_prefix_cons.mp prior
            exact tail.mpr admitted done within

/-- Two conditions admit the same runs when they agree wherever the run can get. -/
theorem admitted_congr {first second inside : State → Event → Prop} (invariant : State → Prop)
    (same : ∀ state event, invariant state → inside state event →
      (first state event ↔ second state event))
    (preserved : ∀ state event, invariant state → inside state event → second state event →
      invariant (step state event))
    {state : State} {events : List Event} (holds : invariant state)
    (within : Admitted step inside state events) :
    Admitted step first state events ↔ Admitted step second state events := by
  induction events generalizing state with
  | nil => exact Iff.rfl
  | cons event rest ih =>
      rw [Admitted, Admitted, same state event holds within.1]
      apply and_congr_right
      intro allowed
      exact ih (preserved state event holds within.1 allowed) within.2

/-- A property that one step keeps exactly under a condition holds throughout exactly
the runs whose steps all meet the condition. -/
theorem prefixes_iff_condition {condition inside : State → Event → Prop}
    (property : State → Prop)
    (kept : ∀ state event, property state → inside state event →
      (property (step state event) ↔ condition state event))
    {state : State} {events : List Event} (holds : property state)
    (within : Admitted step inside state events) :
    (∀ done, done <+: events → property (run step state done)) ↔
      Admitted step condition state events := by
  rw [prefixes_iff_admitted property, and_iff_right holds]
  apply admitted_congr property kept _ holds within
  intro state event holds within meets
  exact (kept state event holds within).mpr meets

end Foundation.Transitions
