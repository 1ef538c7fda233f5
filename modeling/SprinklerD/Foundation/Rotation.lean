import SprinklerD.Foundation.Transitions

/-!
# Jobs served one at a time

A rotation serves the jobs of a list in order. It is looked at from time to time:
a job keeps its turn until the first look at which its length has passed, and the
next job starts at that look. `served` remembers who had a turn, and since when.
-/

namespace Foundation

open Foundation.Transitions

set_option autoImplicit false

variable {Job : Type*}

structure Rotation (Job : Type*) where
  served : List (Job × Int)
  current : Option (Job × Int)
  waiting : List Job

namespace Rotation

def next (now : Int) (rotation : Rotation Job) : Rotation Job :=
  match rotation.waiting with
  | [] => { rotation with current := none }
  | job :: rest =>
      { served := rotation.served ++ [(job, now)], current := some (job, now), waiting := rest }

def begin (now : Int) (jobs : List Job) : Rotation Job :=
  next now { served := [], current := none, waiting := jobs }

def tick (length : Job → Int) (rotation : Rotation Job) (now : Int) : Rotation Job :=
  match rotation.current with
  | none => rotation
  | some (job, start) => if length job ≤ now - start then rotation.next now else rotation

/-- What links the three fields: nobody is lost, skipped or served twice. -/
structure Serves (jobs : List Job) (rotation : Rotation Job) : Prop where
  order : rotation.served.map Prod.fst ++ rotation.waiting = jobs
  last : ∀ turn, rotation.current = some turn → rotation.served.getLast? = some turn
  done : rotation.current = none → rotation.waiting = []

variable {jobs : List Job} {rotation : Rotation Job} {length : Job → Int}

theorem next_serves (now : Int)
    (order : rotation.served.map Prod.fst ++ rotation.waiting = jobs) :
    Serves jobs (rotation.next now) := by
  unfold next
  split
  next nobody => exact ⟨order, by simp, fun _ => nobody⟩
  next job rest first =>
      refine ⟨by simpa [first] using order, fun turn current => ?_, by simp⟩
      simpa using current

theorem begin_serves (now : Int) (jobs : List Job) : Serves jobs (begin now jobs) :=
  next_serves now rfl

theorem tick_serves (now : Int) (serves : Serves jobs rotation) :
    Serves jobs (rotation.tick length now) := by
  unfold tick
  split
  · exact serves
  · split_ifs
    · exact next_serves now serves.order
    · exact serves

theorem run_serves (ticks : List Int) (serves : Serves jobs rotation) :
    Serves jobs (run (tick length) rotation ticks) := by
  induction ticks generalizing rotation with
  | nil => exact serves
  | cons now rest ih => exact ih (tick_serves now serves)

theorem served_prefix (serves : Serves jobs rotation) :
    rotation.served.map Prod.fst <+: jobs :=
  ⟨rotation.waiting, serves.order⟩

theorem served_all (serves : Serves jobs rotation) (done : rotation.current = none) :
    rotation.served.map Prod.fst = jobs := by
  rw [← serves.order, serves.done done, List.append_nil]

theorem waiting_nil (serves : Serves jobs rotation)
    (all : rotation.served.map Prod.fst = jobs) : rotation.waiting = [] := by
  have order := serves.order
  rwa [all, List.append_right_eq_self] at order

theorem current_none_of_nil (serves : Serves ([] : List Job) rotation) :
    rotation.current = none := by
  have order := serves.order
  rw [List.append_eq_nil_iff, List.map_eq_nil_iff] at order
  cases current : rotation.current with
  | none => rfl
  | some turn => simpa [order.1] using serves.last turn current

theorem tick_waits {job : Job} {start now : Int} (current : rotation.current = some (job, start))
    (early : now - start < length job) : rotation.tick length now = rotation := by
  simp only [tick, current, if_neg (Int.not_le.mpr early)]

theorem tick_moves {job : Job} {start now : Int} (current : rotation.current = some (job, start))
    (late : length job ≤ now - start) : rotation.tick length now = rotation.next now := by
  simp only [tick, current, if_pos late]

theorem tick_done {now : Int} (done : rotation.current = none) :
    rotation.tick length now = rotation := by
  simp only [tick, done]

end Rotation

end Foundation
