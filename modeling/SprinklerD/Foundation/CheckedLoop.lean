import Mathlib.Data.List.Basic

/-!
# Loops that check answers

A loop makes one call for each item and goes on only while it accepts the answers. A call
may also not return. The loop gets through its items exactly when it accepts every answer
it got, whatever the calls themselves mean by their answers.
-/

namespace Foundation.CheckedLoop

set_option autoImplicit false

inductive Ending where
  | done
  | givenUp
  | stuck
deriving DecidableEq, Repr

/-- The calls that were made stand in their order, each with its answer if it returned. -/
structure Outcome (State Answer : Type*) where
  state : State
  calls : List (Option Answer)
  ending : Ending

variable {State Item Answer : Type*}

def checkedLoop (call : State → Item → Option (State × Answer)) (accepts : Answer → Bool) :
    List Item → State → Outcome State Answer
  | [], state => { state := state, calls := [], ending := .done }
  | item :: rest, state =>
      match call state item with
      | none => { state := state, calls := [none], ending := .stuck }
      | some (next, answer) =>
          if accepts answer then
            let later := checkedLoop call accepts rest next
            { later with calls := some answer :: later.calls }
          else { state := next, calls := [some answer], ending := .givenUp }

def Accepted (accepts : Answer → Bool) (calls : List (Option Answer)) : Prop :=
  ∀ call ∈ calls, ∃ answer, call = some answer ∧ accepts answer = true

theorem accepted_cons {accepts : Answer → Bool} {answer : Answer} {calls : List (Option Answer)} :
    Accepted accepts (some answer :: calls) ↔ accepts answer = true ∧ Accepted accepts calls := by
  rw [Accepted, List.forall_mem_cons]
  apply and_congr_left
  intro _
  constructor
  · rintro ⟨same, here, accepted⟩
    cases here
    exact accepted
  · intro accepted
    exact ⟨answer, rfl, accepted⟩

variable {call : State → Item → Option (State × Answer)} {accepts : Answer → Bool}

theorem loop_done_iff (items : List Item) (state : State) :
    (checkedLoop call accepts items state).ending = .done ↔
      Accepted accepts (checkedLoop call accepts items state).calls := by
  induction items generalizing state with
  | nil => simp [checkedLoop, Accepted]
  | cons item rest ih =>
      rw [checkedLoop]
      cases call state item with
      | none => simp [Accepted]
      | some made =>
          obtain ⟨next, answer⟩ := made
          simp only
          split_ifs with accepted
          · rw [accepted_cons, ih, accepted, and_iff_right rfl]
          · simp [accepted_cons, accepted]

/-- An answer that is not accepted is the last one. -/
theorem loop_gives_up {item : Item} (rest : List Item) {state next : State} {answer : Answer}
    (made : call state item = some (next, answer)) (rejected : accepts answer = false) :
    checkedLoop call accepts (item :: rest) state =
      { state := next, calls := [some answer], ending := .givenUp } := by
  rw [checkedLoop, made]
  simp only [rejected, Bool.false_eq_true, if_false]

end Foundation.CheckedLoop
