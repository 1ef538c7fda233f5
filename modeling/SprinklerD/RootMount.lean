import SprinklerD.CronTable
import SprinklerD.Operations
import SprinklerD.Foundation.Transitions

/-!
# The mount mode of the root file system

`write_cache` and `write_cron` ask for a writable root before they open their file. When the
file is written they hand the answer back, which undoes the request. When it does not open
they ask for a read-only root instead, whatever it was before.
-/

namespace SprinklerD.RootMount

open Foundation.Transitions
open SprinklerD.Config SprinklerD.SdCron SprinklerD.CronTable SprinklerD.Operations

set_option autoImplicit false

variable (cfg : SprinklerdCfg)

section Source

inductive Writer where
  | cache
  | cron
deriving DecidableEq, Repr

/-- A call of one of the writers, and the answer its `fopen` gets. -/
structure WriterCall where
  writer : Writer
  opens : Bool
deriving DecidableEq, Repr

def answering (call : WriterCall) (st : SprinklerdState) : SprinklerdState :=
  match call.writer with
  | .cache => { st with disk := { st.disk with cacheOpens := call.opens } }
  | .cron => { st with disk := { st.disk with cronOpens := call.opens } }

def callWriter (st : SprinklerdState) (call : WriterCall) : SprinklerdState :=
  match call.writer with
  | .cache => writeCache cfg (answering call st)
  | .cron => writeCron cfg (answering call st)

end Source

section Writers

/-- The two writers but for the file, which `fill` writes. -/
def remounting (opens : Disk → Bool) (fill : SprinklerdState → SprinklerdState)
    (st : SprinklerdState) : SprinklerdState :=
  let remounted := remountRootRo false st
  if opens remounted.1.disk = false then (remountRootRo true remounted.1).1
  else (remountRootRo remounted.2 (fill remounted.1)).1

theorem write_cache_remounting (st : SprinklerdState) :
    writeCache cfg st = remounting Disk.cacheOpens
      (fun st => { st with disk := { st.disk with cacheFile := some (cacheNumbers cfg st) } })
      st := rfl

theorem write_cron_remounting (st : SprinklerdState) :
    writeCron cfg st = remounting Disk.cronOpens
      (fun st => { st with disk := { st.disk with cronFile := some (cronText cfg st.cron) } })
      st := rfl

variable {cfg}

/-- A writer leaves the root as it was, unless its file does not open. -/
theorem remounting_mode {opens : Disk → Bool}
    (asked : ∀ disk mode, opens { disk with rootReadOnly := mode } = opens disk)
    (fill : SprinklerdState → SprinklerdState) (st : SprinklerdState) :
    (remounting opens fill st).disk.rootReadOnly =
      (st.disk.rootReadOnly || !opens st.disk) := by
  simp only [remounting, remount_eq, asked, Bool.false_or]
  cases opens st.disk with
  | false => simp
  | true => simp

theorem write_cache_mode (st : SprinklerdState) :
    (writeCache cfg st).disk.rootReadOnly = (st.disk.rootReadOnly || !st.disk.cacheOpens) := by
  rw [write_cache_remounting]
  apply remounting_mode
  intro disk mode
  rfl

theorem write_cron_mode (st : SprinklerdState) :
    (writeCron cfg st).disk.rootReadOnly = (st.disk.rootReadOnly || !st.disk.cronOpens) := by
  rw [write_cron_remounting]
  apply remounting_mode
  intro disk mode
  rfl

theorem call_writer_mode (st : SprinklerdState) (call : WriterCall) :
    (callWriter cfg st call).disk.rootReadOnly = (st.disk.rootReadOnly || !call.opens) := by
  obtain ⟨writer, opens⟩ := call
  cases writer with
  | cache => exact write_cache_mode _
  | cron => exact write_cron_mode _

end Writers

section Runs

variable {cfg}

/-- The mode is the same after every call of the run. -/
def MountKept (cfg : SprinklerdCfg) (st : SprinklerdState) (calls : List WriterCall) : Prop :=
  ∀ done, done <+: calls →
    (run (callWriter cfg) st done).disk.rootReadOnly = st.disk.rootReadOnly

theorem call_writer_keeps (st : SprinklerdState) (call : WriterCall) :
    (callWriter cfg st call).disk.rootReadOnly = st.disk.rootReadOnly ↔
      st.disk.rootReadOnly = true ∨ call.opens = true := by
  rw [call_writer_mode]
  cases st.disk.rootReadOnly with
  | true => simp
  | false => cases call.opens <;> simp

end Runs

theorem mount_kept_iff (st : SprinklerdState) (calls : List WriterCall) :
    MountKept cfg st calls ↔
      st.disk.rootReadOnly = true ∨ ∀ call ∈ calls, call.opens = true := by
  have kept : ∀ other call, other.disk.rootReadOnly = st.disk.rootReadOnly → True →
      ((callWriter cfg other call).disk.rootReadOnly = st.disk.rootReadOnly ↔
        st.disk.rootReadOnly = true ∨ call.opens = true) := by
    intro other call same _
    rw [← same]
    exact call_writer_keeps other call
  have inside : Admitted (callWriter cfg) (fun _ _ => True) st calls :=
    admitted_of_forall fun _ _ => trivial
  rw [MountKept, prefixes_iff_condition
    (fun other => other.disk.rootReadOnly = st.disk.rootReadOnly) kept rfl inside]
  rw [admitted_iff_forall]
  cases st.disk.rootReadOnly with
  | true => simp
  | false => simp

/-- The cache file lies in a directory that does not exist. -/
theorem failed_write_changes_mount :
    ¬ MountKept (benchCfg benchWiring) benchState [⟨.cache, false⟩] := by
  intro kept
  exact absurd (kept [⟨.cache, false⟩] (List.prefix_refl _)) (by decide)

end SprinklerD.RootMount
