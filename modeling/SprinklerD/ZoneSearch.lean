import SprinklerD.Operations

/-!
# The search for the next zone on any hardware

`start_next_zone` compares with the end of the table after it has skipped a zone. A failed start
calls it again for the entry behind, whatever that is. Here `digitalRead` and `digitalWrite`
answer as they like, and so does the memory behind the table.
-/

namespace SprinklerD.ZoneSearch

open SprinklerD.Config SprinklerD.GpioPi SprinklerD.Operations SprinklerD.ZoneValves

set_option autoImplicit false

structure Hardware (World : Type) where
  digitalRead : World → Int → World × Int
  digitalWrite : World → Int → Int → World × Int

inductive Access where
  | entry (zone : Int)
  | master (state : ZcState)
deriving DecidableEq, Repr

/-- The pins are those of `world`. The entries of `zonecfg` that were read and the calls of
`zc_master` stand in the log, latest first. -/
structure Controller (World : Type) where
  st : SprinklerdState
  world : World
  log : List Access

variable {World : Type} (hw : Hardware World) (cfg : SprinklerdCfg)

section Source

def update (change : SprinklerdState → SprinklerdState) (c : Controller World) :
    Controller World := { c with st := change c.st }

def seeEntry (zone : Int) (c : Controller World) : Controller World :=
  { c with log := .entry zone :: c.log }

def zoneReadsOn (zone : Int) (c : Controller World) : Controller World × Bool :=
  let answer := hw.digitalRead c.world (cfg.zonecfg zone).pin
  (seeEntry zone { c with world := answer.1 }, (cfg.zonecfg zone).onState = answer.2)

def zcStart (zone : Int) (c : Controller World) : Controller World × Bool :=
  let seen := zoneReadsOn hw cfg zone c
  if seen.2 then (seen.1, false)
  else
    let written := hw.digitalWrite seen.1.world (cfg.zonecfg zone).pin (cfg.zonecfg zone).onState
    (update (·.setEventZones) { seen.1 with world := written.1 }, written.2 = gpioOk)

/-- The level written is `!on_state`. -/
def zcStop (zone : Int) (c : Controller World) : Controller World × Bool :=
  let seen := zoneReadsOn hw cfg zone c
  if seen.2 = false then (seen.1, false)
  else
    let written := hw.digitalWrite seen.1.world (cfg.zonecfg zone).pin
      (if (cfg.zonecfg zone).onState = 0 then 1 else 0)
    (update (·.setEventZones) { seen.1 with world := written.1 }, written.2 = gpioOk)

/-- `zc_start` and `zc_stop` read the pin of the master once more. -/
def zcMaster (state : ZcState) (c : Controller World) : Controller World :=
  let asked := { c with log := .master state :: c.log }
  if cfg.masterValve = false then asked
  else
    let seen := zoneReadsOn hw cfg 0 asked
    match state with
    | .zcOn => if seen.2 = false then (zcStart hw cfg 0 seen.1).1 else seen.1
    | .zcOff => if seen.2 then (zcStop hw cfg 0 seen.1).1 else seen.1

def cycleOver (c : Controller World) : Controller World :=
  zcMaster hw cfg .zcOff (update (fun st => { st with currentZone := { st.currentZone with
    type := .zcNone, zone := -1, timeleft := 0 } }) c)

def zoneBegun (now zone : Int) (c : Controller World) : Controller World :=
  let running := update (fun st => { st with currentZone := { st.currentZone with
    zone := zone } }) c
  update (fun st => ZoneCtrl.calcTimeleft now { st with currentZone := { st.currentZone with
    startedTime := now, duration := st.defaultRuntime zone } }) (zcMaster hw cfg .zcOn running)

/-- `none` where the calls do not return within the fuel. -/
def startNextZoneFrom (now : Int) : Nat → Int → Controller World → Option (Controller World × Int)
  | 0, _, _ => none
  | fuel + 1, zone, c =>
      let seen := seeEntry zone c
      if c.st.defaultRuntime zone ≤ 0 ∨ validGPIO (cfg.zonecfg zone).pin = false then
        if zone + 1 > cfg.zones then some (cycleOver hw cfg seen, -1)
        else startNextZoneFrom now fuel (zone + 1) seen
      else
        let started := zcStart hw cfg zone seen
        if started.2 then some (zoneBegun hw cfg now zone started.1, zone)
        else startNextZoneFrom now fuel (zone + 1) (update (·.setEventZones) started.1)

def called (st : SprinklerdState) (world : World) : Controller World :=
  { st := st.setEventZones, world := world, log := [] }

def startNextZone (now : Int) (fuel : Nat) (startz : Int) (st : SprinklerdState) (world : World) :
    Option (Controller World × Int) :=
  startNextZoneFrom hw cfg now fuel (startz + 1) (called st world)

end Source

section Safety

def EntriesInTable (log : List Access) : Prop :=
  ∀ zone : Int, .entry zone ∈ log → 0 ≤ zone ∧ zone ≤ cfg.zones

structure InBounds (result : Controller World × Int) : Prop where
  entries : EntriesInTable cfg result.1.log
  idle : result.2 = -1 → result.1.st.currentZone.type = .zcNone ∧
    result.1.st.currentZone.zone = -1 ∧ .master .zcOff ∈ result.1.log

def SearchSafe (now startz : Int) (st : SprinklerdState) (world : World) : Prop :=
  ∃ fuel result, startNextZone hw cfg now fuel startz st world = some result ∧
    InBounds cfg result

/-- What `zc_start` answers, and what becomes of the pins. -/
def startAnswer (zone : Int) (world : World) : World × Bool :=
  let answer := hw.digitalRead world (cfg.zonecfg zone).pin
  if (cfg.zonecfg zone).onState = answer.2 then (answer.1, false)
  else
    let written := hw.digitalWrite answer.1 (cfg.zonecfg zone).pin (cfg.zonecfg zone).onState
    (written.1, written.2 = gpioOk)

def someStarts : List Int → World → Bool
  | [], _ => false
  | zone :: rest, world =>
      (startAnswer hw cfg zone world).2 || someStarts rest (startAnswer hw cfg zone world).1

def runnableZones (startz : Int) (st : SprinklerdState) : List Int :=
  (zonesAfter cfg startz).filter (runnable cfg st.defaultRuntime)

end Safety

variable {hw cfg} {now zone : Int} {c : Controller World}

section Steps

theorem zc_start_answer (zone : Int) (c : Controller World) :
    (zcStart hw cfg zone c).1.world = (startAnswer hw cfg zone c.world).1 ∧
      (zcStart hw cfg zone c).2 = (startAnswer hw cfg zone c.world).2 := by
  unfold zcStart startAnswer zoneReadsOn
  simp only [seeEntry, update, decide_eq_true_eq]
  split_ifs <;> exact ⟨rfl, rfl⟩

theorem zc_start_log (zone : Int) (c : Controller World) :
    (zcStart hw cfg zone c).1.log = .entry zone :: c.log := by
  unfold zcStart
  dsimp only
  split_ifs <;> rfl

theorem zc_stop_log (zone : Int) (c : Controller World) :
    (zcStop hw cfg zone c).1.log = .entry zone :: c.log := by
  unfold zcStop
  dsimp only
  split_ifs <;> rfl

/-- Apart from the pins a call of `zc_start`, `zc_stop` or `zc_master` at most announces. -/
def Marked (st st' : SprinklerdState) : Prop := st' = st ∨ st' = st.setEventZones

theorem Marked.current {st st' : SprinklerdState} (marked : Marked st st') :
    st'.currentZone = st.currentZone := by
  rcases marked with rfl | rfl <;> rfl

theorem Marked.runtimes {st st' : SprinklerdState} (marked : Marked st st') :
    st'.defaultRuntime = st.defaultRuntime := by
  rcases marked with rfl | rfl <;> rfl

theorem Marked.table {st st' : SprinklerdState} (marked : Marked st st') :
    st'.outOfTable = st.outOfTable := by
  rcases marked with rfl | rfl <;> rfl

theorem zc_start_marked (zone : Int) (c : Controller World) :
    Marked c.st (zcStart hw cfg zone c).1.st := by
  unfold zcStart
  dsimp only
  split_ifs
  · exact Or.inl rfl
  · exact Or.inr rfl

theorem zc_stop_marked (zone : Int) (c : Controller World) :
    Marked c.st (zcStop hw cfg zone c).1.st := by
  unfold zcStop
  dsimp only
  split_ifs
  · exact Or.inl rfl
  · exact Or.inr rfl
  · exact Or.inr rfl

theorem zc_master_marked (state : ZcState) (c : Controller World) :
    Marked c.st (zcMaster hw cfg state c).st := by
  unfold zcMaster
  cases state <;> dsimp only <;> split_ifs
  · exact Or.inl rfl
  · exact zc_start_marked 0 (zoneReadsOn hw cfg 0 { c with log := .master .zcOn :: c.log }).1
  · exact Or.inl rfl
  · exact Or.inl rfl
  · exact zc_stop_marked 0 (zoneReadsOn hw cfg 0 { c with log := .master .zcOff :: c.log }).1
  · exact Or.inl rfl

/-- Of the table `zc_master` reads the entry of the master. -/
theorem zc_master_log (state : ZcState) (c : Controller World) : ∃ reads,
    (zcMaster hw cfg state c).log = List.replicate reads (.entry 0) ++ .master state :: c.log := by
  unfold zcMaster
  cases state <;> dsimp only <;> split_ifs
  · exact ⟨0, rfl⟩
  · exact ⟨2, by rw [zc_start_log]; rfl⟩
  · exact ⟨1, rfl⟩
  · exact ⟨0, rfl⟩
  · exact ⟨2, by rw [zc_stop_log]; rfl⟩
  · exact ⟨1, rfl⟩

theorem entries_cons (low : 0 ≤ zone) (high : zone ≤ cfg.zones) {log : List Access}
    (inside : EntriesInTable cfg log) : EntriesInTable cfg (.entry zone :: log) := by
  intro other member
  rcases List.mem_cons.mp member with same | member
  · cases same
    exact ⟨low, high⟩
  · exact inside other member

theorem entries_master (state : ZcState) (inside : EntriesInTable cfg c.log) :
    EntriesInTable cfg (zcMaster hw cfg state c).log := by
  obtain ⟨reads, log⟩ := @zc_master_log World hw cfg state c
  intro other member
  rw [log, List.mem_append, List.mem_cons] at member
  rcases member with member | same | member
  · cases List.eq_of_mem_replicate member
    exact ⟨le_refl 0, Int.natCast_nonneg _⟩
  · cases same
  · exact inside other member

theorem log_before_master (state : ZcState) (c : Controller World) :
    c.log <:+ (zcMaster hw cfg state c).log := by
  obtain ⟨reads, log⟩ := @zc_master_log World hw cfg state c
  rw [log]
  exact (List.suffix_cons _ _).trans (List.suffix_append _ _)

theorem cycle_over_in_bounds (inside : EntriesInTable cfg c.log) :
    InBounds cfg (cycleOver hw cfg c, -1) where
  entries := entries_master .zcOff inside
  idle _ := by
    obtain ⟨reads, log⟩ := @zc_master_log World hw cfg .zcOff (update (fun st => { st with
      currentZone := { st.currentZone with type := .zcNone, zone := -1, timeleft := 0 } }) c)
    refine ⟨?_, ?_, ?_⟩
    · rw [cycleOver, (zc_master_marked .zcOff _).current]
      rfl
    · rw [cycleOver, (zc_master_marked .zcOff _).current]
      rfl
    · rw [cycleOver, log]
      exact List.mem_append_right _ List.mem_cons_self

theorem zone_begun_in_bounds (low : 0 ≤ zone) (inside : EntriesInTable cfg c.log) :
    InBounds cfg (zoneBegun hw cfg now zone c, zone) where
  entries := entries_master .zcOn inside
  idle none := by
    change zone = -1 at none
    omega

end Steps

section Search

/-- The controller after a start that was refused. -/
def refused (hw : Hardware World) (cfg : SprinklerdCfg) (zone : Int) (c : Controller World) :
    Controller World :=
  update (·.setEventZones) (zcStart hw cfg zone (seeEntry zone c)).1

theorem refused_log (zone : Int) (c : Controller World) :
    (refused hw cfg zone c).log = .entry zone :: .entry zone :: c.log :=
  zc_start_log zone (seeEntry zone c)

theorem refused_world (zone : Int) (c : Controller World) :
    (refused hw cfg zone c).world = (startAnswer hw cfg zone c.world).1 :=
  (zc_start_answer zone (seeEntry zone c)).1

theorem refused_runtimes (zone : Int) (c : Controller World) :
    (refused hw cfg zone c).st.defaultRuntime = c.st.defaultRuntime :=
  (zc_start_marked zone (seeEntry zone c)).runtimes

theorem search_skips (skipped : runnable cfg c.st.defaultRuntime zone = false) (fuel : Nat) :
    startNextZoneFrom hw cfg now (fuel + 1) zone c =
      if zone + 1 > cfg.zones then some (cycleOver hw cfg (seeEntry zone c), -1)
      else startNextZoneFrom hw cfg now fuel (zone + 1) (seeEntry zone c) := by
  rw [startNextZoneFrom, if_pos (runnable_eq_false.mp skipped)]

theorem search_tries (runs : runnable cfg c.st.defaultRuntime zone = true) (fuel : Nat) :
    startNextZoneFrom hw cfg now (fuel + 1) zone c =
      if (startAnswer hw cfg zone c.world).2 then
        some (zoneBegun hw cfg now zone (zcStart hw cfg zone (seeEntry zone c)).1, zone)
      else startNextZoneFrom hw cfg now fuel (zone + 1) (refused hw cfg zone c) := by
  have answer : (zcStart hw cfg zone (seeEntry zone c)).2 = (startAnswer hw cfg zone c.world).2 :=
    (zc_start_answer zone (seeEntry zone c)).2
  rw [startNextZoneFrom, if_neg (not_skipped runs)]
  dsimp only
  rw [answer]
  rfl

theorem more_fuel {fuel : Nat} {result : Controller World × Int}
    (found : startNextZoneFrom hw cfg now fuel zone c = some result) (more : Nat) :
    startNextZoneFrom hw cfg now (fuel + more) zone c = some result := by
  induction fuel generalizing zone c with
  | zero => cases found
  | succ fuel ih =>
      rw [Nat.succ_add]
      cases runs : runnable cfg c.st.defaultRuntime zone with
      | false =>
          rw [search_skips runs] at found ⊢
          split_ifs at found ⊢
          · exact found
          · exact ih found
      | true =>
          rw [search_tries runs] at found ⊢
          split_ifs at found ⊢
          · exact found
          · exact ih found

theorem first_entry_logged {fuel : Nat} {result : Controller World × Int}
    (found : startNextZoneFrom hw cfg now fuel zone c = some result) :
    .entry zone :: c.log <:+ result.1.log := by
  induction fuel generalizing zone c with
  | zero => cases found
  | succ fuel ih =>
      cases runs : runnable cfg c.st.defaultRuntime zone with
      | false =>
          rw [search_skips runs] at found
          split_ifs at found
          · cases found
            exact @log_before_master World hw cfg .zcOff (update _ (seeEntry zone c))
          · exact (List.suffix_cons _ _).trans (ih found)
      | true =>
          rw [search_tries runs] at found
          split_ifs at found
          · cases found
            refine List.IsSuffix.trans ?_ (log_before_master .zcOn _)
            change _ <:+ (zcStart hw cfg zone (seeEntry zone c)).1.log
            rw [zc_start_log]
            exact List.suffix_cons _ _
          · have later := ih found
            rw [refused_log] at later
            exact ((List.suffix_cons _ _).trans (List.suffix_cons _ _)).trans later

theorem search_table {fuel : Nat} {result : Controller World × Int}
    (found : startNextZoneFrom hw cfg now fuel zone c = some result) :
    result.1.st.outOfTable = c.st.outOfTable := by
  induction fuel generalizing zone c with
  | zero => cases found
  | succ fuel ih =>
      cases runs : runnable cfg c.st.defaultRuntime zone with
      | false =>
          rw [search_skips runs] at found
          split_ifs at found
          · cases found
            exact (@zc_master_marked World hw cfg .zcOff (update _ (seeEntry zone c))).table
          · exact @ih (zone + 1) (seeEntry zone c) found
      | true =>
          have started := (@zc_start_marked World hw cfg zone (seeEntry zone c)).table
          rw [search_tries runs] at found
          split_ifs at found
          · cases found
            exact (zc_master_marked .zcOn (update _ _)).table.trans started
          · exact (@ih (zone + 1) (refused hw cfg zone c) found).trans started

/-- Where the last zone is no dead end the search ends before the end of the table. -/
theorem search_ends {left : Nat} (remaining : 0 < left) (low : 0 < zone)
    (bound : zone + left = cfg.zones + 1) (inside : EntriesInTable cfg c.log)
    (ends : runnable cfg c.st.defaultRuntime cfg.zones = true →
      someStarts hw cfg ((zonesFrom left zone).filter (runnable cfg c.st.defaultRuntime))
        c.world = true) :
    ∃ result, startNextZoneFrom hw cfg now left zone c = some result ∧ InBounds cfg result := by
  induction left generalizing zone c with
  | zero => omega
  | succ left ih =>
      push_cast at bound
      have seen : EntriesInTable cfg (seeEntry zone c).log :=
        entries_cons (by omega) (by omega) inside
      rw [zonesFrom] at ends
      cases runs : runnable cfg c.st.defaultRuntime zone with
      | false =>
          rw [search_skips runs]
          rw [List.filter_cons_of_neg (by rw [runs]; decide)] at ends
          split_ifs with last
          · exact ⟨_, rfl, cycle_over_in_bounds seen⟩
          · exact ih (by omega) (by omega) (by omega) seen ends
      | true =>
          rw [search_tries runs]
          rw [List.filter_cons_of_pos runs, someStarts] at ends
          split_ifs with starts
          · refine ⟨_, rfl, zone_begun_in_bounds (by omega) ?_⟩
            rw [zc_start_log]
            exact entries_cons (by omega) (by omega) seen
          · rw [Bool.not_eq_true] at starts
            rw [starts, Bool.false_or] at ends
            have further : 0 < left := by
              by_contra none
              have end' : left = 0 := by omega
              subst end'
              have last : zone = cfg.zones := by omega
              rw [last] at runs
              cases ends runs
            refine ih further (by omega) (by omega) ?_ ?_
            · rw [refused_log]
              exact entries_cons (by omega) (by omega) seen
            · rw [refused_runtimes, refused_world]
              exact ends

/-- Where the last zone is tried in vain the search goes on behind the table. -/
theorem search_leaves {left : Nat} (bound : zone + left = cfg.zones + 1)
    (last : runnable cfg c.st.defaultRuntime cfg.zones = true)
    (nobody : someStarts hw cfg ((zonesFrom left zone).filter (runnable cfg c.st.defaultRuntime))
      c.world = false) :
    ∃ behind, ∀ more, startNextZoneFrom hw cfg now (left + more) zone c =
      startNextZoneFrom hw cfg now more (cfg.zones + 1) behind := by
  induction left generalizing zone c with
  | zero =>
      refine ⟨c, fun more => ?_⟩
      rw [Nat.zero_add, show zone = cfg.zones + 1 by omega]
  | succ left ih =>
      push_cast at bound
      rw [zonesFrom] at nobody
      cases runs : runnable cfg c.st.defaultRuntime zone with
      | false =>
          have inner : ¬ zone + 1 > cfg.zones := by
            intro outside
            rw [show zone = cfg.zones by omega, last] at runs
            cases runs
          rw [List.filter_cons_of_neg (by rw [runs]; decide)] at nobody
          obtain ⟨behind, goes⟩ := @ih (zone + 1) (seeEntry zone c) (by omega) last nobody
          refine ⟨behind, fun more => ?_⟩
          rw [Nat.succ_add, search_skips runs, if_neg inner, goes]
      | true =>
          rw [List.filter_cons_of_pos runs, someStarts, Bool.or_eq_false_iff] at nobody
          obtain ⟨behind, goes⟩ := @ih (zone + 1) (refused hw cfg zone c) (by omega)
            (by rw [refused_runtimes]; exact last)
            (by rw [refused_runtimes, refused_world]; exact nobody.2)
          refine ⟨behind, fun more => ?_⟩
          rw [Nat.succ_add, search_tries runs, if_neg (by rw [nobody.1]; decide), goes]

end Search

section Calls

variable {startz : Int} {st : SprinklerdState} {world : World}

theorem call_ends (low : 0 ≤ startz) (high : startz < cfg.zones)
    (ends : runnable cfg st.defaultRuntime cfg.zones = false ∨
      someStarts hw cfg (runnableZones cfg startz st) world = true) :
    ∃ result, startNextZone hw cfg now (cfg.zones - startz).toNat startz st world = some result ∧
      InBounds cfg result :=
  search_ends (by omega) (by omega) (by omega) (fun _ member => absurd member List.not_mem_nil)
    fun last => ends.resolve_left (by rw [Bool.not_eq_false]; exact last)

theorem call_leaves (high : startz < cfg.zones)
    (fails : ¬ (runnable cfg st.defaultRuntime cfg.zones = false ∨
      someStarts hw cfg (runnableZones cfg startz st) world = true)) :
    ∃ behind, ∀ more,
      startNextZone hw cfg now ((cfg.zones - startz).toNat + more) startz st world =
        startNextZoneFrom hw cfg now more (cfg.zones + 1) behind := by
  rw [not_or, Bool.not_eq_false, Bool.not_eq_true] at fails
  exact search_leaves (by omega) fails.1 fails.2

end Calls

/-- The search stays in the table, if and only if some zone behind `startz` starts or the last
zone of the table is not tried. -/
theorem search_safe_iff (now : Int) {startz : Int} (low : 0 ≤ startz) (high : startz < cfg.zones)
    (st : SprinklerdState) (world : World) :
    SearchSafe hw cfg now startz st world ↔
      runnable cfg st.defaultRuntime cfg.zones = false ∨
        someStarts hw cfg (runnableZones cfg startz st) world = true := by
  constructor
  · rintro ⟨fuel, result, found, inside⟩
    by_contra fails
    obtain ⟨behind, goes⟩ := @call_leaves World hw cfg now startz st world high fails
    have later := more_fuel found (cfg.zones - startz).toNat
    rw [Nat.add_comm] at later
    have logged := first_entry_logged ((goes fuel).symm.trans later)
    have entry := inside.entries (cfg.zones + 1) (logged.subset List.mem_cons_self)
    omega
  · intro ends
    obtain ⟨result, found, inside⟩ := @call_ends World hw cfg now startz st world low high ends
    exact ⟨_, result, found, inside⟩

section Pins

/-- The pins of `GpioPi`, which a read does not change. -/
def gpioPins : Hardware Gpio where
  digitalRead gpio pin := (gpio, digitalRead gpio pin)
  digitalWrite := digitalWrite

def view (c : Controller Gpio) : SprinklerdState := { c.st with gpio := c.world }

variable {c : Controller Gpio}

/-- The search is cut where it leaves the table. -/
def SameSearch : Option (Controller Gpio × Int) → SprinklerdState × Int → Prop
  | some result, walk => walk = (view result.1, result.2)
  | none, walk => walk.1.outOfTable = true

theorem view_zc_start (zone : Int) (c : Controller Gpio) :
    ZoneCtrl.zcStart cfg zone (view c) =
      (view (zcStart gpioPins cfg zone c).1, (zcStart gpioPins cfg zone c).2) := by
  unfold zcStart ZoneCtrl.zcStart ZoneCtrl.zoneReadsOn
  change (if decide ((cfg.zonecfg zone).onState =
    digitalRead c.world (cfg.zonecfg zone).pin) = true then _ else _) = _
  dsimp only [zoneReadsOn, gpioPins]
  split_ifs <;> rfl

theorem view_zc_stop (zone : Int) (c : Controller Gpio) :
    ZoneCtrl.zcStop cfg zone (view c) =
      (view (zcStop gpioPins cfg zone c).1, (zcStop gpioPins cfg zone c).2) := by
  unfold zcStop ZoneCtrl.zcStop ZoneCtrl.zoneReadsOn
  change (if decide ((cfg.zonecfg zone).onState =
    digitalRead c.world (cfg.zonecfg zone).pin) = false then _ else _) = _
  dsimp only [zoneReadsOn, gpioPins]
  split_ifs <;> rfl

theorem view_zc_master (state : ZcState) (c : Controller Gpio) :
    ZoneCtrl.zcMaster cfg state (view c) = view (zcMaster gpioPins cfg state c) := by
  have seen : (zoneReadsOn gpioPins cfg 0 { c with log := .master state :: c.log }).2 =
      ZoneCtrl.zoneReadsOn cfg (view c).gpio 0 := rfl
  unfold zcMaster ZoneCtrl.zcMaster
  dsimp only
  rw [seen]
  by_cases valve : cfg.masterValve = false
  · rw [if_pos valve, if_pos valve]
    rfl
  · rw [if_neg valve, if_neg valve]
    cases state <;> cases ZoneCtrl.zoneReadsOn cfg (view c).gpio 0
    · exact congrArg Prod.fst (view_zc_start 0
        (zoneReadsOn gpioPins cfg 0 { c with log := .master .zcOn :: c.log }).1)
    · rfl
    · rfl
    · exact congrArg Prod.fst (view_zc_stop 0
        (zoneReadsOn gpioPins cfg 0 { c with log := .master .zcOff :: c.log }).1)

theorem view_cycle_over (c : Controller Gpio) :
    cycleEnded cfg (view c) = view (cycleOver gpioPins cfg c) :=
  view_zc_master .zcOff (update (fun st => { st with currentZone := { st.currentZone with
    type := .zcNone, zone := -1, timeleft := 0 } }) c)

theorem view_zone_begun (now zone : Int) (c : Controller Gpio) :
    cycleStarted cfg now zone (view c) =
      view (zoneBegun gpioPins cfg now zone (zcStart gpioPins cfg zone c).1) := by
  have master := @view_zc_master cfg .zcOn (update (fun st => { st with currentZone :=
    { st.currentZone with zone := zone } }) (zcStart gpioPins cfg zone c).1)
  rw [cycleStarted, view_zc_start]
  dsimp only
  change ZoneCtrl.zcMaster cfg .zcOn { view (zcStart gpioPins cfg zone c).1 with
    currentZone := { (view (zcStart gpioPins cfg zone c).1).currentZone with zone := zone } } = _
    at master
  rw [master]
  rfl

theorem walk_skips {st : SprinklerdState} (skipped : runnable cfg st.defaultRuntime zone = false)
    (left : Nat) : ZoneCtrl.startNextZoneFrom cfg now (left + 1) zone st =
      if zone + 1 > cfg.zones then (cycleEnded cfg st, -1)
      else ZoneCtrl.startNextZoneFrom cfg now left (zone + 1) st := by
  rw [ZoneCtrl.startNextZoneFrom, if_pos (runnable_eq_false.mp skipped)]
  rfl

theorem walk_tries {st : SprinklerdState} (runs : runnable cfg st.defaultRuntime zone = true)
    (left : Nat) : ZoneCtrl.startNextZoneFrom cfg now (left + 1) zone st =
      if (ZoneCtrl.zcStart cfg zone st).2 then (cycleStarted cfg now zone st, zone)
      else ZoneCtrl.startNextZoneFrom cfg now left (zone + 1)
        (ZoneCtrl.zcStart cfg zone st).1.setEventZones := by
  rw [ZoneCtrl.startNextZoneFrom, if_neg (not_skipped runs)]
  rfl

/-- On these pins the search is the one of `ZoneCtrl`. -/
theorem search_of_pins (now : Int) {left : Nat} {zone : Int} (c : Controller Gpio) :
    SameSearch (startNextZoneFrom gpioPins cfg now left zone c)
      (ZoneCtrl.startNextZoneFrom cfg now left zone (view c)) := by
  induction left generalizing zone c with
  | zero => rfl
  | succ left ih =>
      cases runs : runnable cfg c.st.defaultRuntime zone with
      | false =>
          have walk : runnable cfg (view c).defaultRuntime zone = false := runs
          rw [search_skips runs, walk_skips walk]
          split_ifs
          · exact congrArg (·, -1) (view_cycle_over (seeEntry zone c))
          · exact @ih (zone + 1) (seeEntry zone c)
      | true =>
          have started := @view_zc_start cfg zone (seeEntry zone c)
          have answer := (@zc_start_answer Gpio gpioPins cfg zone (seeEntry zone c)).2
          change ZoneCtrl.zcStart cfg zone (view c) = _ at started
          change _ = (startAnswer gpioPins cfg zone c.world).2 at answer
          have walk : runnable cfg (view c).defaultRuntime zone = true := runs
          rw [search_tries runs, walk_tries walk, started, answer]
          split_ifs
          · exact congrArg (·, zone) (view_zone_begun now zone (seeEntry zone c))
          · exact @ih (zone + 1) (refused gpioPins cfg zone c)

theorem walk_lost_iff (now : Int) {startz : Int} (low : 0 ≤ startz) (high : startz < cfg.zones)
    {st : SprinklerdState} (sound : st.outOfTable = false) :
    (ZoneCtrl.startNextZone cfg now startz st).1.outOfTable = true ↔
      ¬ SearchSafe gpioPins cfg now startz st st.gpio := by
  have same : SameSearch
      (startNextZone gpioPins cfg now (cfg.zones - startz).toNat startz st st.gpio)
      (ZoneCtrl.startNextZone cfg now startz st) := search_of_pins now (called st st.gpio)
  rw [search_safe_iff now low high]
  constructor
  · intro lost ends
    obtain ⟨result, found, -⟩ := @call_ends Gpio gpioPins cfg now startz st st.gpio low high ends
    rw [found] at same
    have kept : (ZoneCtrl.startNextZone cfg now startz st).1.outOfTable = st.outOfTable :=
      (congrArg (·.1.outOfTable) same).trans (search_table found)
    rw [kept, sound] at lost
    cases lost
  · intro fails
    obtain ⟨behind, goes⟩ := @call_leaves Gpio gpioPins cfg now startz st st.gpio high fails
    have cut := goes 0
    rw [Nat.add_zero, startNextZoneFrom] at cut
    rw [cut] at same
    exact same

end Pins

section Bench

def deadPins : Hardware Unit where
  digitalRead _ _ := ((), 0)
  digitalWrite _ _ _ := ((), gpioErrIo)

theorem search_safe_bench : SearchSafe gpioPins (benchCfg benchWiring) 1000 0 benchState
    benchState.gpio :=
  (search_safe_iff 1000 (le_refl 0) (by decide) benchState benchState.gpio).mpr (by decide)

theorem search_leaves_table : ¬ ∀ (World : Type) (hw : Hardware World) (cfg : SprinklerdCfg)
    (now startz : Int) (st : SprinklerdState) (world : World), 0 ≤ startz → startz < cfg.zones →
    SearchSafe hw cfg now startz st world := by
  intro safe
  have bench := safe Unit deadPins (benchCfg benchWiring) 1000 0 benchState () (le_refl 0)
    (by decide)
  rw [search_safe_iff 1000 (le_refl 0) (by decide)] at bench
  revert bench
  decide

end Bench

end SprinklerD.ZoneSearch
