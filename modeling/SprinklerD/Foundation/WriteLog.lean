import Mathlib.Data.List.Infix
import Mathlib.Logic.Function.Basic

/-!
# A memory and the log of its writes

The log lists the writes to a memory, the latest first. Every memory that the writes
went through is the replay of an end of the log, so that a property of all of them is
a property of all ends, and holds of a longer log when it holds after the last write.
-/

namespace Foundation.WriteLog

set_option autoImplicit false

variable {Address Value : Type*} [DecidableEq Address]

def replay (start : Address → Value) (log : List (Address × Value)) : Address → Value :=
  log.foldr (fun write memory => Function.update memory write.1 write.2) start

/-- The property holds at the start and after every single write. -/
def Throughout (property : (Address → Value) → Prop) (start : Address → Value)
    (log : List (Address × Value)) : Prop :=
  ∀ done, done <:+ log → property (replay start done)

@[simp]
theorem replay_nil (start : Address → Value) : replay start [] = start := rfl

@[simp]
theorem replay_cons (start : Address → Value) (write : Address × Value)
    (log : List (Address × Value)) :
    replay start (write :: log) = Function.update (replay start log) write.1 write.2 := rfl

variable {property : (Address → Value) → Prop} {start : Address → Value}

theorem throughout_nil : Throughout property start [] ↔ property start := by
  constructor
  · intro every
    exact every [] (List.suffix_refl [])
  · intro holds done nothing
    rw [List.suffix_nil.mp nothing]
    exact holds

theorem throughout_cons {write : Address × Value} {log : List (Address × Value)} :
    Throughout property start (write :: log) ↔
      property (replay start (write :: log)) ∧ Throughout property start log := by
  constructor
  · intro every
    constructor
    · exact every _ (List.suffix_refl _)
    · intro done prior
      exact every done (prior.trans (List.suffix_cons write log))
  · rintro ⟨last, earlier⟩ done prior
    rcases List.suffix_cons_iff.mp prior with rfl | within
    · exact last
    · exact earlier done within

theorem throughout_last {log : List (Address × Value)} (every : Throughout property start log) :
    property (replay start log) :=
  every log (List.suffix_refl log)

end Foundation.WriteLog
