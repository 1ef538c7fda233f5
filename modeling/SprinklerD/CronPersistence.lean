import SprinklerD.CalendarForm
import SprinklerD.Shutdown

/-!
# Edits of the calendar reach the crontab

An edit is pending until `check_cron` finds it twenty seconds old and writes the
crontab. The history kept here beside the daemon says which table was saved last and
whether any request has edited it. Two things lose an edit: a crontab that cannot be
opened when the write is due, since `check_cron` forgets the edit all the same, and a
shutdown while the edit is pending, since the handler writes the cache file only.
-/

namespace SprinklerD.CronPersistence

open Foundation.Transitions
open SprinklerD.Config SprinklerD.SdCron SprinklerD.CronTable SprinklerD.Operations
open SprinklerD.Daemon SprinklerD.CalendarEdits SprinklerD.CalendarForm SprinklerD.Shutdown

set_option autoImplicit false

/-- `saved` is the table of the last `write_cron` that opened its file, and before
that the table loaded at startup. -/
structure History where
  daemon : SprinklerdState
  saved : Int → CalendarDay
  edited : Bool

def begun (st : SprinklerdState) : History := { daemon := st, saved := st.cron, edited := false }

/-- The test of `check_cron`. -/
def writeDue (now : Int) (st : SprinklerdState) : Prop :=
  0 < st.cronUpdate ∧ timediffCronUpdate < now - st.cronUpdate

instance (now : Int) (st : SprinklerdState) : Decidable (writeDue now st) :=
  inferInstanceAs (Decidable (_ ∧ _))

def savedAfter (h : History) : TimedEvent → Int → CalendarDay
  | (now, .checkCron) =>
      if writeDue now h.daemon ∧ h.daemon.disk.cronOpens = true then h.daemon.cron else h.saved
  | _ => h.saved

def isEdit : Event → Bool
  | .webRequest query stack => (calendarEdit query stack).isSome
  | _ => false

def historyStep (cfg : SprinklerdCfg) (h : History) (event : TimedEvent) : History where
  daemon := daemonStep cfg h.daemon event
  saved := savedAfter h event
  edited := h.edited || isEdit event.2

/-- A write is pending, or the table is the saved one. -/
def Kept (h : History) : Prop := 0 < h.daemon.cronUpdate ∨ h.daemon.cron = h.saved

/-- An edited table is on disk, as `write_cron` renders it. -/
def OnDisk (cfg : SprinklerdCfg) (h : History) (st : SprinklerdState) : Prop :=
  h.edited = true → st.disk.cronFile = some (cronText cfg h.daemon.cron)

def OpensWhenDue (h : History) : TimedEvent → Prop
  | (now, .checkCron) => writeDue now h.daemon → h.daemon.disk.cronOpens = true
  | _ => True

/-- A write that is due can open its file or has nothing new to save. -/
def LosesNothing (h : History) : TimedEvent → Prop
  | (now, .checkCron) =>
      writeDue now h.daemon → h.daemon.disk.cronOpens = true ∨ h.daemon.cron = h.saved
  | _ => True

def writes (h : History) : TimedEvent → Bool
  | (now, .checkCron) => writeDue now h.daemon ∧ h.daemon.disk.cronOpens = true
  | _ => false

/-- The table of the last `write_cron` of a run that opened its file. -/
def lastWritten (cfg : SprinklerdCfg) : History → List TimedEvent → Option (Int → CalendarDay)
  | _, [] => none
  | h, event :: rest =>
      (lastWritten cfg (historyStep cfg h event) rest).or
        (if writes h event then some h.daemon.cron else none)

/-- The last write of a run printed the lines of a table. Where there was no write, they were
in the crontab from the start. -/
def LinesWritten (cfg : SprinklerdCfg) (st : SprinklerdState) (events : List TimedEvent)
    (table : Int → CalendarDay) : Prop :=
  match lastWritten cfg (begun st) events with
  | some last => cronText cfg last = cronText cfg table
  | none => st.disk.cronFile = some (cronText cfg table)

variable {cfg : SprinklerdCfg}

theorem step_cron (cfg : SprinklerdCfg) (h : History) (event : TimedEvent) :
    (historyStep cfg h event).daemon.cron = (calendarAfter cfg h.daemon event).cron :=
  congrArg CalendarPart.cron (daemon_step_calendar h.daemon event)

theorem step_cron_update (cfg : SprinklerdCfg) (h : History) (event : TimedEvent) :
    (historyStep cfg h event).daemon.cronUpdate =
      (calendarAfter cfg h.daemon event).cronUpdate :=
  congrArg CalendarPart.cronUpdate (daemon_step_calendar h.daemon event)

theorem step_cron_file (cfg : SprinklerdCfg) (h : History) (event : TimedEvent) :
    (historyStep cfg h event).daemon.disk.cronFile =
      (calendarAfter cfg h.daemon event).cronFile :=
  congrArg CalendarPart.cronFile (daemon_step_calendar h.daemon event)

/-- Everything an event of the daemon can do to the calendar and its file. -/
inductive CalendarOutcome (cfg : SprinklerdCfg) (h : History) (event : TimedEvent) :
    History → Prop where
  | edited (after : History) (read : isEdit event.2 = true)
      (stamped : after.daemon.cronUpdate = event.1) : CalendarOutcome cfg h event after
  | written (after : History) (due : writeDue event.1 h.daemon) (check : event.2 = .checkCron)
      (opens : h.daemon.disk.cronOpens = true) (same : after.edited = h.edited)
      (table : after.daemon.cron = h.daemon.cron) (saved : after.saved = h.daemon.cron)
      (file : after.daemon.disk.cronFile = some (cronText cfg h.daemon.cron)) :
      CalendarOutcome cfg h event after
  | dropped (after : History) (due : writeDue event.1 h.daemon) (check : event.2 = .checkCron)
      (closed : h.daemon.disk.cronOpens = false) (same : after.edited = h.edited)
      (table : after.daemon.cron = h.daemon.cron) (saved : after.saved = h.saved)
      (forgotten : after.daemon.cronUpdate = 0) : CalendarOutcome cfg h event after
  | untouched (after : History)
      (idle : event.2 = .checkCron → ¬ writeDue event.1 h.daemon)
      (same : after.edited = h.edited) (table : after.daemon.cron = h.daemon.cron)
      (saved : after.saved = h.saved) (pending : after.daemon.cronUpdate = h.daemon.cronUpdate)
      (file : after.daemon.disk.cronFile = h.daemon.disk.cronFile) :
      CalendarOutcome cfg h event after

theorem calendar_outcome (cfg : SprinklerdCfg) (h : History) (event : TimedEvent) :
    CalendarOutcome cfg h event (historyStep cfg h event) := by
  have cron := step_cron cfg h event
  have update := step_cron_update cfg h event
  have file := step_cron_file cfg h event
  obtain ⟨now, event⟩ := event
  cases event with
  | webRequest query stack =>
      simp only [calendarAfter] at cron update file
      cases read : calendarEdit query stack with
      | none =>
          rw [read] at cron update file
          apply CalendarOutcome.untouched _ _ _ cron rfl update file
          · simp
          · simp [historyStep, isEdit, read]
      | some edit =>
          rw [read] at update
          apply CalendarOutcome.edited _ _ update
          simp [isEdit, read]
  | checkCron =>
      by_cases due : writeDue now h.daemon
      · simp only [calendarAfter] at cron update file
        rw [check_cron_due due] at cron update file
        cases opens : h.daemon.disk.cronOpens with
        | true =>
            rw [opens] at file
            apply CalendarOutcome.written _ due rfl opens _ cron _ file
            · exact Bool.or_false _
            · exact if_pos ⟨due, opens⟩
        | false =>
            apply CalendarOutcome.dropped _ due rfl opens _ cron _ update
            · exact Bool.or_false _
            · exact if_neg fun both => Bool.eq_false_iff.mp opens both.2
      · simp only [calendarAfter, check_cron_idle due] at cron update file
        apply CalendarOutcome.untouched _ (fun _ => due) _ cron _ update file
        · exact Bool.or_false _
        · exact if_neg fun both => due both.1
  | mqttMessage message =>
      exact CalendarOutcome.untouched _ (fun check => by cases check) (Bool.or_false _) cron rfl
        update file
  | domoticzMessage idx nvalue svalue =>
      exact CalendarOutcome.untouched _ (fun check => by cases check) (Bool.or_false _) cron rfl
        update file
  | call operation =>
      exact CalendarOutcome.untouched _ (fun check => by cases check) (Bool.or_false _) cron rfl
        update file
  | broadcast dzCache mask =>
      exact CalendarOutcome.untouched _ (fun check => by cases check) (Bool.or_false _) cron rfl
        update file
  | filesOpen cacheOpens cronOpens =>
      exact CalendarOutcome.untouched _ (fun check => by cases check) (Bool.or_false _) cron rfl
        update file

theorem loses_nothing_other {h : History} {event : TimedEvent} (other : event.2 ≠ .checkCron) :
    LosesNothing h event := by
  obtain ⟨now, event⟩ := event
  cases event with
  | checkCron => exact absurd rfl other
  | _ => trivial

/-- One event keeps every edit exactly when it loses nothing. -/
theorem history_step_kept {h : History} {event : TimedEvent} (kept : Kept h)
    (clock : 0 < event.1) : Kept (historyStep cfg h event) ↔ LosesNothing h event := by
  have outcome := calendar_outcome cfg h event
  generalize historyStep cfg h event = after at outcome ⊢
  cases outcome with
  | edited read stamped =>
      have other : event.2 ≠ .checkCron := by
        intro check
        simp [check, isEdit] at read
      apply iff_of_true _ (loses_nothing_other other)
      exact Or.inl (stamped ▸ clock)
  | written due check opens same table saved file =>
      apply iff_of_true
      · exact Or.inr (table.trans saved.symm)
      · obtain ⟨now, event⟩ := event
        cases check
        exact fun _ => Or.inl opens
  | dropped due check closed same table saved forgotten =>
      obtain ⟨now, event⟩ := event
      cases check
      rw [Kept, forgotten, table, saved]
      constructor
      · rintro (positive | unchanged) _
        · exact absurd positive (lt_irrefl 0)
        · exact Or.inr unchanged
      · intro loses
        rcases loses due with opens | unchanged
        · exact absurd opens (Bool.eq_false_iff.mp closed)
        · exact Or.inr unchanged
  | untouched idle same table saved pending file =>
      apply iff_of_true
      · rw [Kept, pending, table, saved]
        exact kept
      · obtain ⟨now, event⟩ := event
        cases event with
        | checkCron => exact fun due => absurd due (idle rfl)
        | _ => trivial

/-- An edited table is on disk unless a write is pending. -/
theorem history_step_on_disk {h : History} {event : TimedEvent}
    (stored : h.daemon.cronUpdate ≤ 0 → OnDisk cfg h h.daemon) (clock : 0 < event.1)
    (opens : OpensWhenDue h event) :
    (historyStep cfg h event).daemon.cronUpdate ≤ 0 →
      OnDisk cfg (historyStep cfg h event) (historyStep cfg h event).daemon := by
  have outcome := calendar_outcome cfg h event
  generalize historyStep cfg h event = after at outcome ⊢
  intro settled edited
  cases outcome with
  | edited read stamped => omega
  | written due check opens same table saved file => rw [file, table]
  | dropped due check closed same table saved forgotten =>
      obtain ⟨now, event⟩ := event
      cases check
      exact absurd (opens due) (Bool.eq_false_iff.mp closed)
  | untouched idle same table saved pending file =>
      rw [file, table]
      exact stored (pending ▸ settled) (same ▸ edited)

theorem int_handler_calendar_part (st : SprinklerdState) :
    calendarPart (intHandler cfg st) = calendarPart st :=
  write_cache_calendar_part { st with gpio := shutdownPins cfg (tableZones cfg) st.gpio }

theorem run_on_disk {st : SprinklerdState} {events : List TimedEvent}
    (clock : ∀ event ∈ events, 0 < event.1)
    (opens : Admitted (historyStep cfg) OpensWhenDue (begun st) events) :
    (run (historyStep cfg) (begun st) events).daemon.cronUpdate ≤ 0 →
      OnDisk cfg (run (historyStep cfg) (begun st) events)
        (run (historyStep cfg) (begun st) events).daemon := by
  refine (run_invariant (fun h rest => (∀ event ∈ rest, 0 < event.1) ∧
    (h.daemon.cronUpdate ≤ 0 → OnDisk cfg h h.daemon)) ?_ ?_ opens).2
  · rintro h event rest ⟨later, stored⟩ admitted
    constructor
    · exact fun next member => later next (List.mem_cons_of_mem _ member)
    · exact history_step_on_disk stored (later event List.mem_cons_self) admitted
  · exact ⟨clock, fun _ edited => Bool.noConfusion edited⟩

theorem step_file (h : History) (event : TimedEvent) :
    (historyStep cfg h event).daemon.disk.cronFile =
      if writes h event then some (cronText cfg h.daemon.cron) else h.daemon.disk.cronFile := by
  rw [step_cron_file]
  obtain ⟨now, event⟩ := event
  cases event with
  | checkCron =>
      rw [calendarAfter, writes]
      by_cases due : writeDue now h.daemon
      · rw [check_cron_due due]
        simp only [due, true_and, Bool.decide_eq_true]
      · rw [check_cron_idle due]
        simp only [due, false_and, decide_false, Bool.false_eq_true, if_false]
        rfl
  | webRequest query stack =>
      rw [calendarAfter]
      cases calendarEdit query stack <;> rfl
  | _ => rfl

/-- The crontab behind a run is what its last write printed. -/
theorem run_file (h : History) (events : List TimedEvent) :
    (run (historyStep cfg) h events).daemon.disk.cronFile =
      ((lastWritten cfg h events).map (cronText cfg)).or h.daemon.disk.cronFile := by
  induction events generalizing h with
  | nil => rfl
  | cons event rest ih =>
      rw [run_cons, ih, step_file, lastWritten]
      cases lastWritten cfg (historyStep cfg h event) rest with
      | some table => rfl
      | none => split_ifs <;> rfl

theorem shutdown_on_disk_iff (st : SprinklerdState) (events : List TimedEvent) :
    let h := run (historyStep cfg) (begun st) events
    OnDisk cfg h (intHandler cfg h.daemon) ↔
      (h.edited = true → LinesWritten cfg st events h.daemon.cron) := by
  intro h
  have file : (intHandler cfg h.daemon).disk.cronFile = h.daemon.disk.cronFile :=
    congrArg CalendarPart.cronFile (int_handler_calendar_part _)
  rw [OnDisk, file, run_file, LinesWritten]
  cases lastWritten cfg (begun st) events with
  | some table => exact imp_congr_right fun _ => Option.some_inj
  | none => rfl

/-- Throughout a run a write is pending or the table is the saved one, exactly when
no write that is due finds its file closed with something new to save. A shutdown leaves an
edited table on disk exactly when the last write of the run printed its lines, and it did where
every write that is due can open its file and none is pending. -/
theorem calendar_edits_survive (st : SprinklerdState) {events : List TimedEvent}
    (clock : ∀ event ∈ events, 0 < event.1) :
    let h := run (historyStep cfg) (begun st) events
    ((∀ done, done <+: events → Kept (run (historyStep cfg) (begun st) done)) ↔
      Admitted (historyStep cfg) LosesNothing (begun st) events) ∧
    (OnDisk cfg h (intHandler cfg h.daemon) ↔
      (h.edited = true → LinesWritten cfg st events h.daemon.cron)) ∧
    (Admitted (historyStep cfg) OpensWhenDue (begun st) events → h.daemon.cronUpdate ≤ 0 →
      OnDisk cfg h (intHandler cfg h.daemon)) := by
  refine ⟨?_, shutdown_on_disk_iff st events, ?_⟩
  · apply prefixes_iff_condition Kept _ (Or.inr rfl) (admitted_of_forall clock)
    intro h event kept positive
    exact history_step_kept kept positive
  · intro opens settled edited
    have file : (intHandler cfg (run (historyStep cfg) (begun st) events).daemon).disk.cronFile =
        (run (historyStep cfg) (begun st) events).daemon.disk.cronFile :=
      congrArg CalendarPart.cronFile (int_handler_calendar_part _)
    rw [file]
    exact run_on_disk clock opens settled edited

section Bench

/-- Monday is scheduled at 06:30, and `check_cron` is called when the write is due. -/
def benchEdit : List TimedEvent :=
  [calcfgRequest "day=1&zone=&time=06:30", (1021, .checkCron)]

theorem calendar_edits_survive_scheduled :
    Kept (run (historyStep (benchCfg benchWiring)) (begun benchDisabled) benchEdit) ∧
      OnDisk (benchCfg benchWiring)
        (run (historyStep (benchCfg benchWiring)) (begun benchDisabled) benchEdit)
        (intHandler (benchCfg benchWiring)
          (run (historyStep (benchCfg benchWiring)) (begun benchDisabled) benchEdit).daemon) := by
  have clock : ∀ event ∈ benchEdit, 0 < event.1 := by decide
  have survives := @calendar_edits_survive (benchCfg benchWiring) benchDisabled benchEdit clock
  have opens : Admitted (historyStep (benchCfg benchWiring)) OpensWhenDue (begun benchDisabled)
      benchEdit := by
    refine ⟨trivial, fun _ => ?_, trivial⟩
    decide +kernel
  have loses : Admitted (historyStep (benchCfg benchWiring)) LosesNothing (begun benchDisabled)
      benchEdit := ⟨trivial, fun due => Or.inl (opens.2.1 due), trivial⟩
  constructor
  · exact survives.1.mpr loses benchEdit (List.prefix_refl benchEdit)
  · exact survives.2.2 opens (by decide +kernel)

/-- The crontab cannot be opened when the write is due, and the edit is forgotten; a
shutdown ten seconds after the edit leaves no crontab at all. -/
theorem calendar_edit_lost :
    ¬ Kept (run (historyStep (benchCfg benchWiring)) (begun benchDisabled)
        [calcfgRequest "day=1&zone=&time=06:30", (1010, .filesOpen true false),
          (1021, .checkCron)]) ∧
      ¬ OnDisk (benchCfg benchWiring)
        (run (historyStep (benchCfg benchWiring)) (begun benchDisabled)
          [calcfgRequest "day=1&zone=&time=06:30"])
        (intHandler (benchCfg benchWiring)
          (run (historyStep (benchCfg benchWiring)) (begun benchDisabled)
            [calcfgRequest "day=1&zone=&time=06:30"]).daemon) := by
  constructor
  · rintro (pending | same)
    · exact absurd pending (by decide +kernel)
    · have hours := congrArg (fun table => (table 1).hour) same
      exact absurd hours (by decide +kernel)
  · intro stored
    have file := stored (by decide +kernel)
    exact absurd (congrArg Option.isSome file) (by decide +kernel)

end Bench

end SprinklerD.CronPersistence
