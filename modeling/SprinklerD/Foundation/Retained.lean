import Mathlib.Logic.Function.Basic

/-!
# Retained messages

A broker keeps the last message of every topic. A list of messages agrees with itself
when no topic is given two values; what the broker then keeps does not depend on the
order of the messages.
-/

namespace Foundation.Retained

set_option autoImplicit false

variable {Topic Value : Type} [DecidableEq Topic]

def retain (kept : Topic → Option Value) (messages : List (Topic × Value)) :
    Topic → Option Value :=
  messages.foldl (fun kept message => Function.update kept message.1 (some message.2)) kept

omit [DecidableEq Topic] in
/-- No topic is given two values. -/
def Uncontradicted (messages : List (Topic × Value)) : Prop :=
  ∀ topic value other, (topic, value) ∈ messages → (topic, other) ∈ messages → value = other

theorem retain_silent {topic : Topic} (kept : Topic → Option Value)
    {messages : List (Topic × Value)} (silent : ∀ value, (topic, value) ∉ messages) :
    retain kept messages topic = kept topic := by
  induction messages generalizing kept with
  | nil => rfl
  | cons message rest ih =>
      have later := @ih (Function.update kept message.1 (some message.2))
        fun value member => silent value (List.mem_cons_of_mem _ member)
      apply later.trans
      apply Function.update_of_ne
      rintro rfl
      exact silent message.2 List.mem_cons_self

theorem retain_append (kept : Topic → Option Value) (early late : List (Topic × Value)) :
    retain kept (early ++ late) = retain (retain kept early) late :=
  List.foldl_append

theorem retain_value {topic : Topic} {value : Value} (kept : Topic → Option Value)
    {messages : List (Topic × Value)} (published : (topic, value) ∈ messages)
    (only : ∀ other, (topic, other) ∈ messages → other = value) :
    retain kept messages topic = some value := by
  induction messages generalizing kept with
  | nil => cases published
  | cons message rest ih =>
      have onlyLater : ∀ other, (topic, other) ∈ rest → other = value :=
        fun other member => only other (List.mem_cons_of_mem _ member)
      by_cases again : (topic, value) ∈ rest
      · exact ih _ again onlyLater
      · have silent : ∀ other, (topic, other) ∉ rest := by
          intro other member
          exact again (onlyLater other member ▸ member)
        have here := (List.mem_cons.mp published).resolve_right again
        apply (retain_silent _ silent).trans
        rw [← here]
        exact Function.update_self _ _ _

end Foundation.Retained
