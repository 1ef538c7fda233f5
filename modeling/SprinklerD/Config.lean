import SprinklerD.Foundation.MachineInt
import Mathlib.Tactic.SplitIfs

/-!
# Configuration and controller state

`_sdconfig_` is one global record in the source. It is split here into what
`readCfg` fixes for the life of the process and what the handlers change. Every
text is the list of its characters. Indexed memory is a total function, so an
index outside the table reads an arbitrary element instead of failing.
-/

namespace SprinklerD.Config

open Foundation.MachineInt

set_option autoImplicit false

abbrev Text := List Char

inductive ZcRunType where
  | zcNone
  | zcSingle
  | zcAll
  | zcCron
deriving DecidableEq, Repr

inductive ZcState where
  | zcOn
  | zcOff
deriving DecidableEq, Repr

/-- The part of `struct GPIOcfg` that no handler writes. `readCfg` accepts any
number as a pin or as an on state, and keeps a zone whose pin is not valid. -/
structure GPIOcfg where
  pin : Int
  onState : Int
  dzIdx : Int := -1

structure RunB4CalStart where
  mins : Int
  command : Text

/-- `readCfg` exits when it finds no zone and never counts past twenty-four.
Entry 0 of `zonecfg` is the master valve and is only initialised when
`masterValve` is set. -/
structure SprinklerdCfg where
  zones : Nat
  zonesPositive : 0 < zones
  zonesBounded : zones ≤ 24
  masterValve : Bool
  zonecfg : Int → GPIOcfg
  dzidxCalendar : Int := 0
  dzidx24hDelay : Int := 0
  dzidxAllzones : Int := 0
  dzidxRainsensor : Int := 0
  dzidxStatus : Int := 0
  enableMQTTaq : Bool := false
  enableMQTTdz : Bool := false
  mqttTopic : Text := []
  mqttDzPubTopic : Text := []
  socketPort : Text := []
  runBeforeCmd : List RunB4CalStart := []

structure SzRunning where
  type : ZcRunType
  startedTime : Int
  duration : Int
  timeleft : Int
  zone : Int
deriving DecidableEq, Repr

structure CalendarDay where
  hour : Int
  minute : Int
  zruntimes : Int → Int

structure DZcache where
  idx : Int
  status : Int
deriving DecidableEq, Repr

structure EventMask where
  rainTotal : Bool
  rainProbability : Bool
  zones : Bool
  status : Bool
deriving DecidableEq, Repr

/-- Output levels of the pins, and every register write in order, newest first. -/
structure Gpio where
  level : Int → Bool
  writes : List (Int × Bool)

/-- A number as `write_cache` prints it, with `%d` or `%li`, or with `%.1f`. -/
inductive CacheNumber where
  | whole (value : Int)
  | tenths (value : CFloat)
deriving DecidableEq

/-- The files the daemon writes. The two `Opens` flags are the answers the next
`fopen` for writing will get; the environment sets them. -/
structure Disk where
  rootReadOnly : Bool
  cacheOpens : Bool
  cronOpens : Bool
  cacheFile : Option (List CacheNumber)
  cronFile : Option Text

/-- `outOfTable` is raised where the source reads `zonecfg` past its last entry;
what the process does after that is undefined. -/
structure SprinklerdState where
  gpio : Gpio
  defaultRuntime : Int → Int
  currentZone : SzRunning
  calendar : Bool
  delay24h : Bool
  delay24hTime : Int
  precipChanceDelay : Int
  precipInchDelay1day : CFloat
  precipInchDelay2day : CFloat
  dzCache : List DZcache
  cron : Int → CalendarDay
  cronUpdate : Int
  updateEventMask : EventMask
  todayRainChance : Int
  todayRainTotal : CFloat
  disk : Disk
  outOfTable : Bool

namespace SprinklerdState

def setEventRainTotal (st : SprinklerdState) : SprinklerdState :=
  { st with updateEventMask := { st.updateEventMask with rainTotal := true } }

def setEventRainProbability (st : SprinklerdState) : SprinklerdState :=
  { st with updateEventMask := { st.updateEventMask with rainProbability := true } }

def setEventZones (st : SprinklerdState) : SprinklerdState :=
  { st with updateEventMask := { st.updateEventMask with zones := true } }

def setEventStatus (st : SprinklerdState) : SprinklerdState :=
  { st with updateEventMask := { st.updateEventMask with status := true } }

end SprinklerdState

/-- `updateEventMask == 0` -/
def Quiet (st : SprinklerdState) : Prop := st.updateEventMask = ⟨false, false, false, false⟩

instance (st : SprinklerdState) : Decidable (Quiet st) :=
  inferInstanceAs (Decidable (_ = _))

/-- `left` consecutive zone numbers, beginning at `zone`. -/
def zonesFrom : Nat → Int → List Int
  | 0, _ => []
  | left + 1, zone => zone :: zonesFrom left (zone + 1)

theorem mem_zones_from {left : Nat} {first zone : Int} :
    zone ∈ zonesFrom left first ↔ first ≤ zone ∧ zone < first + left := by
  induction left generalizing first with
  | zero => simp [zonesFrom]
  | succ left ih =>
      rw [zonesFrom, List.mem_cons, ih]
      push_cast
      omega

theorem length_zones_from {left : Nat} {first : Int} : (zonesFrom left first).length = left := by
  induction left generalizing first with
  | zero => rfl
  | succ left ih => rw [zonesFrom, List.length_cons, ih]

theorem zones_from_append (front back : Nat) (first : Int) :
    zonesFrom (front + back) first = zonesFrom front first ++ zonesFrom back (first + front) := by
  induction front generalizing first with
  | zero => simp [zonesFrom]
  | succ front ih =>
      rw [show front + 1 + back = (front + back) + 1 by omega, zonesFrom, zonesFrom, ih,
        List.cons_append]
      push_cast
      rw [show first + 1 + front = first + (front + 1) by omega]

theorem zones_from_increasing (left : Nat) (first : Int) :
    (zonesFrom left first).Pairwise (· < ·) := by
  induction left generalizing first with
  | zero => exact List.Pairwise.nil
  | succ left ih =>
      refine List.Pairwise.cons (fun later member => ?_) (ih (first + 1))
      have bound := (mem_zones_from.mp member).1
      omega

variable (cfg : SprinklerdCfg)

/-- The zones `1 .. zones`, in the order every loop of the source visits them. -/
def zoneList : List Int := zonesFrom cfg.zones 1

/-- The entries `readCfg` initialised: the zones, and entry 0 with a master valve. -/
def InTable (zone : Int) : Prop :=
  zone ∈ zoneList cfg ∨ (zone = 0 ∧ cfg.masterValve = true)

/-- The entries in the order of a loop that begins at the master valve if there is one. -/
def tableZones : List Int := if cfg.masterValve then 0 :: zoneList cfg else zoneList cfg

variable {cfg}

theorem mem_zone_list {zone : Int} : zone ∈ zoneList cfg ↔ 1 ≤ zone ∧ zone ≤ cfg.zones := by
  rw [zoneList, mem_zones_from]
  omega

theorem zone_ne_zero {zone : Int} (member : zone ∈ zoneList cfg) : zone ≠ 0 := by
  have bounds := mem_zone_list.mp member
  omega

theorem zone_list_ne_nil : zoneList cfg ≠ [] := by
  have first : (1 : Int) ∈ zoneList cfg :=
    mem_zone_list.mpr ⟨le_refl 1, by exact_mod_cast cfg.zonesPositive⟩
  exact List.ne_nil_of_mem first

theorem in_table_of_zone {zone : Int} (member : zone ∈ zoneList cfg) : InTable cfg zone :=
  Or.inl member

theorem in_table_zero : InTable cfg 0 ↔ cfg.masterValve = true := by
  constructor
  · rintro (member | ⟨-, master⟩)
    · exact absurd rfl (zone_ne_zero member)
    · exact master
  · intro master
    exact Or.inr ⟨rfl, master⟩

theorem mem_table_zones {zone : Int} : zone ∈ tableZones cfg ↔ InTable cfg zone := by
  unfold tableZones
  split_ifs with master
  · rw [List.mem_cons, InTable, or_comm]
    simp only [master, and_true]
  · rw [InTable]
    simp only [master, and_false, or_false, Bool.false_eq_true]

end SprinklerD.Config
