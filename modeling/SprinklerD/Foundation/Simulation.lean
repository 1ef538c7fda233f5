import SprinklerD.Foundation.Transitions

/-!
# Simulations that unfold a step into a run

A step of a detailed system is a run of a simpler one. What the simpler system is made to
do along a run of the detailed one is a trace, and an invariant of the simpler system holds
of what is seen of the detailed one.
-/

namespace Foundation.Simulation

open Foundation.Transitions

set_option autoImplicit false

variable {State Event Abstract Act : Type*}

/-- Within the limits of `inside`, what is seen of a step is the run of its acts. -/
def Simulates (step : State → Event → State) (abstract : Abstract → Act → Abstract)
    (view : State → Abstract) (acts : State → Event → List Act) (inside : State → Event → Prop) :
    Prop :=
  ∀ state event, inside state event →
    view (step state event) = run abstract (view state) (acts state event)

def trace (step : State → Event → State) (acts : State → Event → List Act) :
    State → List Event → List Act
  | _, [] => []
  | state, event :: rest => acts state event ++ trace step acts (step state event) rest

variable {step : State → Event → State} {abstract : Abstract → Act → Abstract}
variable {view : State → Abstract} {acts : State → Event → List Act}
variable {inside : State → Event → Prop}

theorem view_run (simulates : Simulates step abstract view acts inside) {state : State}
    {events : List Event} (within : Admitted step inside state events) :
    view (run step state events) = run abstract (view state) (trace step acts state events) := by
  induction events generalizing state with
  | nil => rfl
  | cons event rest ih =>
      rw [run_cons, ih within.2, trace, run_append, simulates state event within.1]

/-- The acts of a run are allowed when those of each step are. -/
theorem trace_admitted (simulates : Simulates step abstract view acts inside)
    {allowed : Abstract → Act → Prop}
    (each : ∀ state event, inside state event →
      Admitted abstract allowed (view state) (acts state event))
    {state : State} {events : List Event} (within : Admitted step inside state events) :
    Admitted abstract allowed (view state) (trace step acts state events) := by
  induction events generalizing state with
  | nil => trivial
  | cons event rest ih =>
      rw [trace, admitted_append]
      refine ⟨each state event within.1, ?_⟩
      rw [← simulates state event within.1]
      exact ih within.2

theorem view_invariant (simulates : Simulates step abstract view acts inside)
    {allowed : Abstract → Act → Prop} (invariant : Abstract → Prop)
    (preserved : ∀ state act, invariant state → allowed state act →
      invariant (abstract state act))
    (each : ∀ state event, inside state event →
      Admitted abstract allowed (view state) (acts state event))
    {state : State} {events : List Event} (holds : invariant (view state))
    (within : Admitted step inside state events) : invariant (view (run step state events)) := by
  rw [view_run simulates within]
  exact run_invariant (fun state _ => invariant state)
    (fun state act _ held allowed => preserved state act held allowed) holds
    (trace_admitted simulates each within)

end Foundation.Simulation
