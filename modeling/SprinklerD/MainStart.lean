import SprinklerD.CacheFile
import SprinklerD.DomoticzCache
import SprinklerD.InstallationFile
import SprinklerD.NetworkRuns
import SprinklerD.RefusedRequest

/-!
# The start of the process

`main` of `sprinkler.c`, and `main_loop` up to its loop. The process enters the loop only where
no input is configured. A zone is not necessarily off then: of the entries that share a pin the
last one has left its level on it, and a pin that is not valid reads -1.
-/

namespace SprinklerD.MainStart

open Foundation.Transitions Foundation.WriteLog Foundation.Simulation
open SprinklerD.InputSetup ( InputCfg Threads setupInputs zonesReady inputs_done_iff benchBoard
  unsetRegisters benchThreads)
open SprinklerD.GpioRegisters ( Board Registers gpioSetup)
open SprinklerD.Config SprinklerD.GpioPi SprinklerD.ZoneCtrl SprinklerD.CacheFile
open SprinklerD.CronTable SprinklerD.DomoticzCache SprinklerD.Operations SprinklerD.ZoneValves
open SprinklerD.RefusedRequest SprinklerD.ExclusiveWrites SprinklerD.Broadcast
open SprinklerD.MqttSession SprinklerD.NetworkRuns SprinklerD.ReadCfg
open SprinklerD.InstallationFile

set_option autoImplicit false

section Source

variable {World : Type}

/-- What the process finds: the configuration file and its memory, the levels of the pins, the
files it writes, what the table of the calendar holds when it has been allocated, the board for
the second call of `gpioSetup` and the registers that the first one leaves, the threads, and
whether `start_net_services` gets its port. -/
structure Machine (World : Type) where
  around : Surroundings
  level : Int → Bool
  disk : Disk
  cronMemory : Int → CalendarDay
  board : Board
  registers : Registers
  threads : Threads World
  world : World
  binds : Bool

/-- `_sdconfig_` before `main` reads its files. What neither `readCfg` nor `main` has set is
zero. -/
def configured (machine : Machine World) (made : Configuration) : SprinklerdState where
  gpio := { level := machine.level, writes := [] }
  defaultRuntime zone := (made.zonecfg zone).defaultRuntime
  currentZone := { type := .zcNone, startedTime := 0, duration := 0, timeleft := 0, zone := 0 }
  calendar := true
  delay24h := false
  delay24hTime := 0
  precipChanceDelay := 0
  precipInchDelay1day := .zero
  precipInchDelay2day := .zero
  dzCache := zeroedCache made.cfg
  cron := machine.cronMemory
  cronUpdate := 0
  updateEventMask := ⟨false, false, false, false⟩
  todayRainChance := 0
  todayRainTotal := .zero
  disk := machine.disk
  outOfTable := false

/-- One round of the loop over the zones. Until the write that follows it, a pin that becomes
an output may show anything. -/
def setupZone (made : Configuration) (gpio : Gpio) (zone : Int) : Gpio :=
  let entry := made.zonecfg zone
  if entry.startupState ≠ -1 then (digitalWrite gpio entry.pin entry.startupState).1 else gpio

def setupZones (made : Configuration) (zones : List Int) (gpio : Gpio) : Gpio :=
  zones.foldl (setupZone made) gpio

def inputCfgs (made : Configuration) : List InputCfg :=
  (zonesFrom made.inputs 0).map fun input => (made.inputcfg input).toInputCfg

/-- The state in which the loop is entered. The log of the writes begins with the loop over the
zones. -/
def entered (machine : Machine World) (made : Configuration) : SprinklerdState :=
  let read := readCache made.cfg (readCron made.cfg (configured machine made))
  { read with
    gpio := { level := (setupZones made (tableZones made.cfg) read.gpio).level, writes := [] } }

/-- `none` where the process exits or gets no further. The loop over the inputs does nothing to
the pins of a process that enters the main loop: it has not made a round. -/
def mainStart (machine : Machine World) : Option (Configuration × SprinklerdState) :=
  (readCfg machine.around).bind fun made =>
    let zonesSet := zonesReady made.cfg machine.board machine.registers machine.world
    if (gpioSetup machine.board machine.registers).2 = false then none
    else if (setupInputs machine.threads (inputCfgs made) zonesSet).ending ≠ .done then none
    else if machine.binds = false then none
    else some (made, entered machine made)

/-- What the process needs of its machine besides the configuration. -/
structure Ready (machine : Machine World) : Prop where
  mapped : (gpioSetup machine.board machine.registers).2 = true
  binds : machine.binds = true

end Source

section Levels

variable {cfg : SprinklerdCfg}

def lastEntry (cfg : SprinklerdCfg) (zones : List Int) (pin : Int) : Option Int :=
  zones.reverse.find? fun zone => (cfg.zonecfg zone).pin = pin

def startsOn (cfg : SprinklerdCfg) (zone : Int) : Bool :=
  if validGPIO (cfg.zonecfg zone).pin then
    (lastEntry cfg (tableZones cfg) (cfg.zonecfg zone).pin).any fun last =>
      (cfg.zonecfg zone).onState = cNot (cfg.zonecfg last).onState
  else (cfg.zonecfg zone).onState = -1

/-- The entries of `zonecfg` that the loops of the source use, as `readCfg` leaves them. -/
structure Prepared (made : Configuration) (zones : List Int) : Prop where
  driven : ∀ zone ∈ zones, made.cfg.zonecfg zone = gpioCfg (made.zonecfg zone)
  opposite : ∀ zone ∈ zones,
    (made.zonecfg zone).startupState = cNot (made.cfg.zonecfg zone).onState

theorem zones_of_read {around : Surroundings} {made : Configuration}
    (read : readCfg around = some made) : 0 < zoneCount around := by
  by_contra none
  have refused : readCfg around = Option.none := dif_neg none
  rw [refused] at read
  cases read

theorem read_cfg_prepared {around : Surroundings} {made : Configuration}
    (read : readCfg around = some made) : Prepared made (tableZones made.cfg) := by
  have positive := zones_of_read read
  have accepted : readCfg around = some _ := dif_pos positive
  rw [accepted] at read
  cases read
  constructor
  · exact fun _ _ => rfl
  · intro zone member
    have table := mem_table_zones.mp member
    rw [InTable, mem_zone_list, decide_eq_true_eq] at table
    have entry := zone_entry around zone
    rw [if_pos (table.symm)] at entry
    change (readZones around (zoneCount around + 1) 0 around.zoneMemory zone).startupState =
      cNot (gpioCfg (readZones around (zoneCount around + 1) 0 around.zoneMemory zone)).onState
    rw [entry]
    rfl

theorem c_not_ne_minus_one (value : Int) : cNot value ≠ -1 := by
  unfold cNot
  split_ifs
  · decide
  · decide

theorem c_not_level (value : Int) :
    (if decide (cNot value ≠ 0) = true then 1 else 0) = cNot value := by
  by_cases zero : value = 0
  · rw [cNot, if_pos zero]
    rfl
  · rw [cNot, if_neg zero]
    rfl

theorem setup_zones_level {made : Configuration} {zones : List Int}
    (prepared : Prepared made zones) (gpio : Gpio) {pin : Int} (valid : validGPIO pin = true) :
    (setupZones made zones gpio).level pin =
      ((lastEntry made.cfg zones pin).map fun last =>
        decide (cNot (made.cfg.zonecfg last).onState ≠ 0)).getD (gpio.level pin) := by
  induction zones using List.reverseRecOn with
  | nil => rfl
  | append_singleton zones zone ih =>
      have member : zone ∈ zones ++ [zone] :=
        List.mem_append_right zones (List.mem_singleton_self zone)
      have before : Prepared made zones :=
        ⟨fun other inside => prepared.driven other (List.mem_append_left _ inside),
          fun other inside => prepared.opposite other (List.mem_append_left _ inside)⟩
      have same : (made.zonecfg zone).pin = (made.cfg.zonecfg zone).pin := by
        rw [prepared.driven zone member]
        rfl
      rw [setupZones, List.foldl_append, List.foldl_cons, List.foldl_nil, ← setupZones, setupZone,
        prepared.opposite zone member, if_pos (c_not_ne_minus_one _), level_written _ _ _ valid,
        same, lastEntry, List.reverse_append, List.reverse_singleton, List.singleton_append,
        List.find?_cons]
      by_cases here : (made.cfg.zonecfg zone).pin = pin
      · rw [if_pos here, decide_eq_true here]
        rfl
      · rw [if_neg here, decide_eq_false here]
        exact ih before

/-- A zone of the table finds an entry on its pin, if only its own. -/
theorem last_entry_some {zones : List Int} {zone : Int} (member : zone ∈ zones) :
    ∃ last ∈ zones, lastEntry cfg zones (cfg.zonecfg zone).pin = some last ∧
      (cfg.zonecfg last).pin = (cfg.zonecfg zone).pin := by
  cases found : lastEntry cfg zones (cfg.zonecfg zone).pin with
  | none =>
      have none := List.find?_eq_none.mp found zone (List.mem_reverse.mpr member)
      exact absurd (decide_eq_true rfl) none
  | some last =>
      have shared := List.find?_some found
      exact ⟨last, List.mem_reverse.mp (List.mem_of_find?_eq_some found), rfl,
        of_decide_eq_true shared⟩

theorem setup_zones_read {made : Configuration} {zones : List Int} (prepared : Prepared made zones)
    (table : zones = tableZones made.cfg) (gpio : Gpio) {zone : Int} (member : zone ∈ zones) :
    zoneReadsOn made.cfg (setupZones made zones gpio) zone = startsOn made.cfg zone := by
  unfold startsOn
  split_ifs with valid
  · obtain ⟨last, -, found, -⟩ := @last_entry_some made.cfg zones zone member
    have level := setup_zones_level prepared gpio valid
    rw [found, Option.map_some, Option.getD_some] at level
    rw [reads_on_valid valid, level, c_not_level, ← table, found, Option.any_some]
  · rw [zoneReadsOn, digital_read_invalid _ (Bool.eq_false_of_not_eq_true valid)]

end Levels

section Files

variable {cfg : SprinklerdCfg}

/-- What the cache file has nothing to do with. -/
def aside (st : SprinklerdState) : Gpio × SzRunning × (Int → CalendarDay) × Int × Disk :=
  (st.gpio, st.currentZone, st.cron, st.cronUpdate, st.disk)

theorem read_number_aside (reader : CacheReader) (number : CacheNumber) :
    aside (readNumber cfg reader number).st = aside reader.st := by
  unfold readNumber storeNumber
  simp only
  split_ifs <;> rfl

theorem read_cache_aside (st : SprinklerdState) : aside (readCache cfg st) = aside st := by
  have numbers (numbers : List CacheNumber) (reader : CacheReader) :
      aside (numbers.foldl (readNumber cfg) reader).st = aside reader.st := by
    induction numbers generalizing reader with
    | nil => rfl
    | cons number rest ih => exact (ih _).trans (read_number_aside reader number)
  unfold readCache
  split
  · rfl
  · exact numbers _ _

theorem read_cron_aside (st : SprinklerdState) :
    (readCron cfg st).gpio = st.gpio ∧ (readCron cfg st).currentZone = st.currentZone ∧
      (readCron cfg st).cronUpdate = st.cronUpdate ∧ (readCron cfg st).disk = st.disk := by
  unfold readCron
  split
  · exact ⟨rfl, rfl, rfl, rfl⟩
  · exact ⟨rfl, rfl, rfl, rfl⟩

end Files

section Tables

variable {plan : Installation} {made : Configuration}

/-- What the handlers of the zones get to see of an installation. -/
structure TableOf (plan : Installation) (made : Configuration) : Prop where
  zones : made.cfg.zones = plan.zones.length
  masterValve : made.cfg.masterValve = plan.master.isSome
  inputs : made.inputs = plan.inputs.length
  entries : ∀ zone entry, planAt plan zone = some entry →
    made.zonecfg zone = plannedZone zone entry
  driven : ∀ zone, made.cfg.zonecfg zone = gpioCfg (made.zonecfg zone)

theorem plan_read (ok : InstallationOk plan) {around : Surroundings}
    (file : around.inifile = some (installationFile plan)) :
    ∃ made, readCfg around = some made ∧ TableOf plan made := by
  have zones := zone_count_planned ok file
  have positive : 0 < zoneCount around := by
    rw [zones]
    exact List.length_pos_of_ne_nil ok.zonesSome
  refine ⟨_, dif_pos positive, ?_⟩
  constructor
  · exact zones
  · exact master_planned ok file
  · exact input_count_planned ok file
  · intro zone entry planned
    have read := zone_entries_planned ok file zone
    rw [zoneEntry, planned] at read
    exact read
  · exact fun _ => rfl

theorem TableOf.zonecfg (table : TableOf plan made) (zone : Int) (entry : ZonePlan)
    (planned : planAt plan zone = some entry) :
    made.cfg.zonecfg zone = gpioCfg (plannedZone zone entry) := by
  rw [table.driven, table.entries zone entry planned]

theorem planned_of_table (table : TableOf plan made) {zone : Int}
    (entry : InTable made.cfg zone) : ∃ valve, planAt plan zone = some valve := by
  rcases entry with listed | ⟨rfl, master⟩
  · have bounds := mem_zone_list.mp listed
    rw [table.zones] at bounds
    have inside : (zone - 1).toNat < plan.zones.length := by omega
    refine ⟨plan.zones[(zone - 1).toNat], ?_⟩
    rw [planAt, if_neg (by omega), if_pos bounds.1, List.getElem?_eq_getElem inside]
  · rw [table.masterValve] at master
    exact Option.isSome_iff_exists.mp master

end Tables

section Starting

variable {World : Type} {machine : Machine World} {made : Configuration} {st : SprinklerdState}

theorem input_cfgs_nil : inputCfgs made = [] ↔ made.inputs = 0 := by
  rw [inputCfgs, List.map_eq_nil_iff, ← List.length_eq_zero_iff, length_zones_from]

/-- The main loop is entered exactly when no input is configured and the machine is ready. -/
theorem main_start_iff (read : readCfg machine.around = some made) {result} :
    mainStart machine = some result ↔
      (Ready machine ∧ made.inputs = 0) ∧ result = (made, entered machine made) := by
  rw [mainStart, read, Option.bind_some, ← input_cfgs_nil]
  simp only [ne_eq, inputs_done_iff]
  constructor
  · intro starts
    split_ifs at starts with unmapped without refused
    cases starts
    exact ⟨⟨⟨Bool.eq_true_of_not_eq_false unmapped, Bool.eq_true_of_not_eq_false refused⟩,
      without⟩, rfl⟩
  · rintro ⟨⟨⟨mapped, binds⟩, without⟩, rfl⟩
    rw [if_neg (by simp [mapped]), if_neg (by simp [without]), if_neg (by simp [binds])]

theorem start_of_read (read : readCfg machine.around = some made) (ready : Ready machine)
    (without : made.inputs = 0) : mainStart machine = some (made, entered machine made) :=
  (main_start_iff read).mpr ⟨⟨ready, without⟩, rfl⟩

theorem start_reads (starts : mainStart machine = some (made, st)) :
    readCfg machine.around = some made ∧ made.inputs = 0 ∧ st = entered machine made := by
  obtain ⟨found, read, -⟩ := Option.bind_eq_some_iff.mp starts
  obtain ⟨⟨-, without⟩, same⟩ := (main_start_iff read).mp starts
  cases same
  exact ⟨read, without, rfl⟩

/-- Nothing is running, and the pins are as the loop over the zones has left them. -/
theorem started_reads (starts : mainStart machine = some (made, st)) :
    st.currentZone.type = .zcNone ∧ st.gpio.writes = [] ∧
      ∀ zone ∈ tableZones made.cfg, zoneReadsOn made.cfg st.gpio zone = startsOn made.cfg zone := by
  obtain ⟨configuration, -, rfl⟩ := start_reads starts
  have cache := @read_cache_aside made.cfg (readCron made.cfg (configured machine made))
  have crontab := @read_cron_aside made.cfg (configured machine made)
  simp only [aside, Prod.mk.injEq] at cache
  refine ⟨?_, rfl, ?_⟩
  · change (readCache made.cfg (readCron made.cfg (configured machine made))).currentZone.type = _
    rw [cache.2.1, crontab.2.1]
    rfl
  · intro zone member
    exact setup_zones_read (read_cfg_prepared configuration) rfl _ member

theorem startup_of_off (starts : mainStart machine = some (made, st))
    (off : ∀ zone ∈ tableZones made.cfg, startsOn made.cfg zone = false) : Startup made.cfg st := by
  obtain ⟨idle, unwritten, reads⟩ := started_reads starts
  constructor
  · exact idle
  · intro zone entry
    have member := mem_table_zones.mpr entry
    exact (reads zone member).trans (off zone member)
  · exact unwritten

/-- Whatever the files say, the loop begins with nothing running, and with exactly those zones
on that the last entry on their pin leaves on. -/
theorem starts_off_iff (starts : mainStart machine = some (made, st)) :
    st.currentZone.type = .zcNone ∧
      (∀ zone ∈ tableZones made.cfg,
        zoneReadsOn made.cfg st.gpio zone = startsOn made.cfg zone) ∧
      (Startup made.cfg st ↔ ∀ zone ∈ tableZones made.cfg, startsOn made.cfg zone = false) := by
  obtain ⟨idle, -, reads⟩ := started_reads starts
  refine ⟨idle, reads, ?_⟩
  constructor
  · intro startup zone member
    rw [← reads zone member]
    exact startup.pinsOff zone (mem_table_zones.mp member)
  · exact startup_of_off starts

def benchMachine (plan : Installation) : Machine Unit where
  around := { benchSurroundings with inifile := some (installationFile plan) }
  level _ := true
  disk := { rootReadOnly := false, cacheOpens := true, cronOpens := true,
            cacheFile := none, cronFile := none }
  cronMemory _ := { hour := 0, minute := 0, zruntimes := fun _ => 0 }
  board := benchBoard
  registers := unsetRegisters
  threads := benchThreads
  world := ()
  binds := true

theorem bench_machine_ready (plan : Installation) : Ready (benchMachine plan) := ⟨rfl, rfl⟩

/-- The bench with both zones on one pin, the second of them on when it is high. -/
def sharedPlan : Installation :=
  { benchPlan with zones := [benchZone "Island" 18, { benchZone "Beds" 18 with onState := 1 }] }

theorem bench_zones_ok {zones : List ZonePlan} (ok : ∀ zone ∈ zones, ZonePlanOk zone)
    (present : zones ≠ []) (few : zones.length ≤ 24) :
    InstallationOk { benchPlan with zones := zones } where
  texts := bench_plan_ok.texts
  numbers := bench_plan_ok.numbers
  master := bench_plan_ok.master
  zones := ok
  zonesSome := present
  zonesFew := few
  inputs := bench_plan_ok.inputs
  inputsFew := bench_plan_ok.inputsFew
  externals := bench_plan_ok.externals
  externalsFew := bench_plan_ok.externalsFew

theorem shared_plan_ok : InstallationOk sharedPlan := by
  apply bench_zones_ok _ (List.cons_ne_nil _ _) (by decide)
  intro zone member
  rcases List.mem_cons.mp member with rfl | last
  · exact bench_zone_ok (by decide) (by decide) (by decide)
  · rw [List.mem_singleton.mp last]
    exact ⟨by decide, List.all_iff_forall_prop.mp (by decide), by decide⟩

/-- The level that keeps the second zone off opens the valve of the first. -/
theorem starts_off_iff_shared :
    ∃ made st, mainStart (benchMachine sharedPlan) = some (made, st) ∧
      zoneReadsOn made.cfg st.gpio 1 = true ∧ ¬ Startup made.cfg st := by
  obtain ⟨made, read, table⟩ := @plan_read sharedPlan shared_plan_ok
    (benchMachine sharedPlan).around rfl
  have starts := start_of_read read (bench_machine_ready sharedPlan) table.inputs
  obtain ⟨-, reads, startup⟩ := starts_off_iff starts
  have entries : tableZones made.cfg = [0, 1, 2] := by
    rw [tableZones, zoneList, table.masterValve, table.zones]
    rfl
  have first := table.zonecfg 1 _ rfl
  have second := table.zonecfg 2 _ rfl
  have on : startsOn made.cfg 1 = true := by
    have last : lastEntry made.cfg [0, 1, 2] (made.cfg.zonecfg 1).pin = some 2 := by
      rw [lastEntry, first]
      change List.find? _ [2, 1, 0] = some 2
      rw [List.find?_cons, second]
      rfl
    rw [startsOn, entries, last, Option.any_some, first, second]
    rfl
  have member : (1 : Int) ∈ tableZones made.cfg := by
    rw [entries]
    decide
  refine ⟨made, _, starts, ?_, ?_⟩
  · rw [reads 1 member]
    exact on
  · intro off
    exact absurd (startup.mp off 1 member) (by rw [on]; decide)

end Starting

section Wired

variable {cfg : SprinklerdCfg}

end Wired

section Planned

variable {plan : Installation} {made : Configuration} {World : Type}

theorem bench_planned {zone : Int} {entry : ZonePlan}
    (planned : planAt benchPlan zone = some entry) :
    entry.onState = 0 ∧ entry.defaultRuntime = 15 ∧
      ((zone = 0 ∧ entry.pin = 17) ∨ (zone = 1 ∧ entry.pin = 18) ∨
        (zone = 2 ∧ entry.pin = 27)) := by
  unfold planAt at planned
  split_ifs at planned with zero positive
  · cases planned
    exact ⟨rfl, rfl, Or.inl ⟨zero, rfl⟩⟩
  · obtain ⟨inside, -⟩ := List.getElem?_eq_some_iff.mp planned
    have few : (zone - 1).toNat < 2 := inside
    have which : zone = 1 ∨ zone = 2 := by omega
    rcases which with rfl | rfl
    · cases planned
      exact ⟨rfl, rfl, Or.inr (Or.inl ⟨rfl, rfl⟩)⟩
    · cases planned
      exact ⟨rfl, rfl, Or.inr (Or.inr ⟨rfl, rfl⟩)⟩

end Planned

end SprinklerD.MainStart
