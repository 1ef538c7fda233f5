import Mathlib.Data.List.Basic
import Mathlib.Data.Option.Basic
import Mathlib.Tactic.Common

/-!
# Timelines

Items that each take a stretch of time, one after the other. The item of an instant
is the last one that has started, unless it is over. It is found from the start times
alone, which is how a controller that is told only of starts knows what to do.
-/

namespace Foundation.Timeline

set_option autoImplicit false

variable {Item : Type*} (start length : Item → Int)

/-- The last item that has started, while it lasts. -/
def current (now : Int) (items : List Item) : Option Item :=
  (items.filter fun item => start item ≤ now).getLast?.filter
    fun item => now < start item + length item

/-- Every item is over when a later one starts. -/
def Successive (items : List Item) : Prop :=
  items.Pairwise fun item later => start item + length item ≤ start later

variable {start length}

/-- In a timeline the current item is the one whose stretch holds
the instant. -/
theorem current_eq_some {now : Int} {items : List Item} (successive : Successive start length items)
    (item : Item) :
    current start length now items = some item ↔
      item ∈ items ∧ start item ≤ now ∧ now < start item + length item := by
  rw [current, Option.filter_eq_some_iff, decide_eq_true_eq]
  constructor
  · rintro ⟨last, early⟩
    have member := List.mem_filter.mp (List.mem_of_getLast? last)
    exact ⟨member.1, of_decide_eq_true member.2, early⟩
  · rintro ⟨member, begun, early⟩
    refine ⟨?_, early⟩
    obtain ⟨before, after, rfl⟩ := List.append_of_mem member
    obtain ⟨-, later, -⟩ := List.pairwise_append.mp successive
    -- nothing after the item has started
    have waiting : after.filter (fun item => decide (start item ≤ now)) = [] := by
      rw [List.filter_eq_nil_iff]
      intro next inside begun
      have ended := (List.pairwise_cons.mp later).1 next inside
      have started := of_decide_eq_true begun
      omega
    rw [List.filter_append, List.filter_cons, if_pos (decide_eq_true begun), waiting,
      List.getLast?_append]
    rfl

end Foundation.Timeline
