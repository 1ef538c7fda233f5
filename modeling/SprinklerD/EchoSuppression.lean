import SprinklerD.Devices

/-!
# Messages dropped as echoes

Domoticz repeats what the daemon has sent to it. A message whose value is in the cache
is taken for such an echo and dropped. The cache has the value of the last broadcast,
so a message is lost that asks for this value again after the device has changed.
-/

namespace SprinklerD.EchoSuppression

open Foundation.SlotTable Foundation.Transitions
open SprinklerD.Config SprinklerD.ZoneCtrl SprinklerD.NetServices SprinklerD.Daemon
open SprinklerD.Broadcast SprinklerD.DomoticzCache SprinklerD.StatusMessages SprinklerD.Devices

set_option autoImplicit false

/-- The daemon, and what the last broadcast to Domoticz announced. -/
structure CacheState where
  st : SprinklerdState
  published : Published
  announced : Device → Option Bool

inductive CacheEvent where
  | request (now : Int) (request : Request)
  | broadcast (connected : Bool) (now : Int)

variable (cfg : SprinklerdCfg) (lib : CLibrary)

def cacheStep (state : CacheState) : CacheEvent → CacheState
  | .request now request => { state with st := daemonStep cfg state.st (now, request.1) }
  | .broadcast connected now =>
      let done := broadcastSprinklerdstate cfg lib connected now state.published state.st
      { st := done.st
        published := done.published
        announced :=
          if connected ∧ cfg.enableMQTTdz then fun device => some (deviceOn cfg state.st device)
          else state.announced }

def DropsOnlyEchoes (state : CacheState) : CacheEvent → Prop
  | .request _ ⟨.domoticzMessage idx nvalue _, _⟩ =>
      ∀ device ∈ devices cfg, deviceId cfg device = idx →
        checkDzCache idx nvalue state.st.dzCache = true →
          nvalue = dzSwitch (deviceOn cfg state.st device)
  | _ => True

/-- No message asks for the announced state of a device that has left it since. An
identifier that found no slot in the cache does no harm. -/
def AnnouncementsHold (state : CacheState) : CacheEvent → Prop
  | .request _ ⟨.domoticzMessage idx nvalue _, _⟩ =>
      ∀ device ∈ devices cfg, deviceId cfg device = idx →
        (∃ entry ∈ state.st.dzCache, entry.idx = idx) →
          ∀ on, state.announced device = some on → nvalue = dzSwitch on →
            deviceOn cfg state.st device = on
  | _ => True

/-- What the cache has of a device is what was announced last. -/
def CacheAnnounced (state : CacheState) : Prop :=
  ∀ device ∈ devices cfg, ∀ value,
    lookup (deviceId cfg device) (slots state.st.dzCache) = some value →
      ∃ on, state.announced device = some on ∧ value = dzSwitch on

theorem dz_switch_injective : Function.Injective dzSwitch := by
  intro on other same
  cases on <;> cases other <;> simp_all [dzSwitch, dzOn, dzOff]

theorem lookup_of_entry {idx : Int} {cache : List DZcache}
    (stored : ∃ entry ∈ cache, entry.idx = idx) :
    ∃ value, lookup idx (slots cache) = some value := by
  obtain ⟨entry, listed, same⟩ := stored
  apply Option.ne_none_iff_exists'.mp
  apply lookup_of_mem_keys
  rw [keys, List.mem_toFinset, slots, List.map_map]
  exact List.mem_map.mpr ⟨entry, listed, same⟩

theorem entry_of_lookup {idx value : Int} {cache : List DZcache}
    (held : lookup idx (slots cache) = some value) : ∃ entry ∈ cache, entry.idx = idx := by
  have member := @mem_keys_of_lookup Int Int _ idx (slots cache) (by simp [held])
  rw [keys, List.mem_toFinset, slots, List.map_map] at member
  obtain ⟨entry, listed, same⟩ := List.mem_map.mp member
  exact ⟨entry, listed, same⟩

variable {cfg lib}

/-- In a state that the cache describes the two say the same of the next event. -/
theorem drops_iff_hold {state : CacheState} (cached : CacheAnnounced cfg state)
    (event : CacheEvent) : DropsOnlyEchoes cfg state event ↔ AnnouncementsHold cfg state event := by
  unfold DropsOnlyEchoes AnnouncementsHold
  split
  · rename_i now idx nvalue svalue other
    apply forall₂_congr
    intro device listed
    apply forall_congr'
    rintro rfl
    rw [check_dz_cache_eq]
    constructor
    · intro drops stored on announced same
      obtain ⟨value, held⟩ := lookup_of_entry stored
      obtain ⟨found, last, valued⟩ := cached device listed value held
      rw [last] at announced
      rw [valued, Option.some.inj announced, ← same] at held
      exact dz_switch_injective ((drops held).symm.trans same)
    · intro holds held
      obtain ⟨on, announced, same⟩ := cached device listed nvalue held
      rw [holds (entry_of_lookup held) on announced same, same]
  · exact Iff.rfl

theorem cache_step_announced (separate : SeparateIds cfg) {state : CacheState}
    (cached : CacheAnnounced cfg state) (event : CacheEvent) :
    CacheAnnounced cfg (cacheStep cfg lib state event) := by
  cases event with
  | request now request =>
      intro device listed value held
      rw [cacheStep, request_dz_cache] at held
      exact cached device listed value held
  | broadcast connected now =>
      intro device listed value held
      cases connected with
      | false => simpa [cacheStep] using cached device listed value held
      | true =>
          have proper := device_id_ne_zero separate listed
          simp only [cacheStep, true_and] at held ⊢
          rw [(broadcast_relays cfg lib now state.published state.st).1] at held
          by_cases enabled : cfg.enableMQTTdz = true
          · rw [if_pos enabled]
            exact ⟨_, rfl, lookup_put_all_latest proper held
              (latest_announcement separate enabled listed)⟩
          · rw [if_neg enabled]
            rw [announcements_off enabled] at held
            exact cached device listed value held

def cacheStart (st : SprinklerdState) : CacheState where
  st := st
  published := {}
  announced _ := none

theorem cache_start_announced (separate : SeparateIds cfg) {st : SprinklerdState}
    (zeroed : st.dzCache = zeroedCache cfg) : CacheAnnounced cfg (cacheStart st) := by
  intro device listed value held
  obtain ⟨entry, stored, same⟩ := entry_of_lookup held
  rw [cacheStart, zeroed] at stored
  rw [List.eq_of_mem_replicate stored] at same
  exact absurd same.symm (device_id_ne_zero separate listed)

/-- A run drops nothing but echoes exactly when no message in it asks for the announced
state of a device that has left it since. -/
theorem drops_only_echoes (separate : SeparateIds cfg) {st : SprinklerdState}
    (zeroed : st.dzCache = zeroedCache cfg) (events : List CacheEvent) :
    Admitted (cacheStep cfg lib) (DropsOnlyEchoes cfg) (cacheStart st) events ↔
      Admitted (cacheStep cfg lib) (AnnouncementsHold cfg) (cacheStart st) events := by
  apply admitted_congr (CacheAnnounced cfg) (fun _ event cached _ => drops_iff_hold cached event)
    (fun _ event cached _ _ => cache_step_announced separate cached event)
    (cache_start_announced separate zeroed) (admitted_of_forall fun _ _ => trivial)

section Bench

/-- Zone 1 is turned on between two broadcasts, and a message turns it off. -/
def benchLostOff : List CacheEvent :=
  [.broadcast true 1000,
    .request 1001 ⟨.webRequest "type=zone&zone=1&runtime=5&state=on".toList [], rfl⟩,
    .request 1002 ⟨.domoticzMessage 11 dzOff [], rfl⟩]

/-- After another broadcast the message gets through. -/
theorem drops_only_echoes_refreshed :
    Admitted (cacheStep (benchDomoticz (-1)) benchLibrary) (DropsOnlyEchoes (benchDomoticz (-1)))
      (cacheStart (benchDevices 10)) (benchLostOff.take 2 ++ .broadcast true 1001 ::
        benchLostOff.drop 2) := by
  rw [drops_only_echoes bench_separate_ids rfl]
  have only : ∀ device ∈ devices (benchDomoticz (-1)),
      deviceId (benchDomoticz (-1)) device = 11 → device = .zone 1 := by decide
  refine ⟨trivial, trivial, trivial, ?_, trivial⟩
  intro device listed named stored on announced same
  rw [only device listed named] at announced ⊢
  cases on with
  | true => decide +kernel
  | false => exact absurd announced (by decide +kernel)

/-- Zone 1 stays on. -/
theorem stale_cache_drops_off :
    ¬ Admitted (cacheStep (benchDomoticz (-1)) benchLibrary) (DropsOnlyEchoes (benchDomoticz (-1)))
        (cacheStart (benchDevices 10)) benchLostOff ∧
      zoneReadsOn (benchDomoticz (-1)) (run (cacheStep (benchDomoticz (-1)) benchLibrary)
        (cacheStart (benchDevices 10)) benchLostOff).st.gpio 1 = true := by
  constructor
  · intro admitted
    have dropped := admitted.2.2.1 (.zone 1) (by decide) (by decide) (by decide +kernel)
    exact absurd dropped (by decide +kernel)
  · decide +kernel

end Bench

end SprinklerD.EchoSuppression
