import SprinklerD.Operations
import SprinklerD.NetServices
import SprinklerD.Foundation.SlotTable

/-!
# The Domoticz cache

The cache is a table with one slot for each zone and three more. Every identifier
that the broadcasts use has its last value in it, unless a master valve has an
identifier too and no other one is left unset: then there is one slot too few.
-/

namespace SprinklerD.DomoticzCache

open Foundation.SlotTable
open SprinklerD.Config SprinklerD.NetServices SprinklerD.Operations

set_option autoImplicit false

def nonZoneDzids : Nat := 3

/-- The cache as `readCfg` allocates it, as far as the loops over it go. -/
def zeroedCache (cfg : SprinklerdCfg) : List DZcache :=
  List.replicate (cfg.zones + nonZoneDzids) { idx := 0, status := 0 }

/-- What the broadcasts publish to Domoticz, in their order. -/
def dzIdentifiers (cfg : SprinklerdCfg) : List Int :=
  (tableZones cfg).map (fun zone => (cfg.zonecfg zone).dzIdx) ++
    [cfg.dzidxCalendar, cfg.dzidx24hDelay, cfg.dzidxAllzones]

/-- An identifier that is not positive stands for none. -/
def identifiersInUse (cfg : SprinklerdCfg) : List Int :=
  (dzIdentifiers cfg).filter fun idx => 0 < idx

def slots (cache : List DZcache) : List (Int × Int) :=
  cache.map fun entry => (entry.idx, entry.status)

theorem find_entry_eq (idx : Int) (cache : List DZcache) :
    (cache.find? fun entry => entry.idx = idx).map DZcache.status = lookup idx (slots cache) := by
  induction cache with
  | nil => rfl
  | cons entry rest ih =>
      rw [slots, List.map_cons, lookup, List.find?_cons]
      by_cases same : entry.idx = idx
      · simp [same]
      · simp only [same, decide_false, if_false]
        exact ih

theorem check_dz_cache_eq (idx value : Int) (cache : List DZcache) :
    checkDzCache idx value cache = true ↔ lookup idx (slots cache) = some value := by
  induction cache with
  | nil => simp [checkDzCache, slots, lookup]
  | cons entry rest ih =>
      rw [checkDzCache, slots, List.map_cons, lookup]
      split_ifs
      · simp
      · exact ih

theorem write_entry_eq (old : Int) (entry : DZcache) (cache : List DZcache) :
    slots (writeDzEntry old entry cache) =
      overwriteFirst old (entry.idx, entry.status) (slots cache) := by
  induction cache with
  | nil => rfl
  | cons first rest ih =>
      simp only [writeDzEntry, slots, List.map_cons, overwriteFirst] at ih ⊢
      split_ifs
      · rfl
      · rw [List.map_cons, ih]

/-- An update of the cache is a `put`, in which identifier 0 marks a vacant slot. -/
theorem update_dz_cache_eq (dzidx value : Int) (cache : List DZcache) :
    (slots (updateDzCache dzidx value cache).1, (updateDzCache dzidx value cache).2) =
      put 0 dzidx value (slots cache) := by
  have found := find_entry_eq dzidx cache
  unfold updateDzCache put
  rw [← found]
  cases cache.find? fun entry => entry.idx = dzidx with
  | none => simp only [Option.map_none, write_entry_eq]
  | some entry =>
      simp only [Option.map_some]
      split_ifs
      · rfl
      · simp only [write_entry_eq]

theorem slots_update (dzidx value : Int) (cache : List DZcache) :
    slots (updateDzCache dzidx value cache).1 = (put 0 dzidx value (slots cache)).1 :=
  congrArg Prod.fst (update_dz_cache_eq dzidx value cache)

theorem update_answer (dzidx value : Int) (cache : List DZcache) :
    (updateDzCache dzidx value cache).2 = false ↔ lookup dzidx (slots cache) = some value := by
  rw [← put_unchanged 0 dzidx value (slots cache)]
  exact iff_of_eq (congrArg (· = false) (congrArg Prod.snd (update_dz_cache_eq dzidx value cache)))

def cacheAfter (cfg : SprinklerdCfg) (updates : List (Int × Int)) : List DZcache :=
  updates.foldl (fun cache update => (updateDzCache update.1 update.2 cache).1) (zeroedCache cfg)

def lastUpdate (idx : Int) (updates : List (Int × Int)) : Option Int :=
  lookup idx updates.reverse

theorem slots_fold (updates : List (Int × Int)) (cache : List DZcache) :
    slots (updates.foldl (fun cache update => (updateDzCache update.1 update.2 cache).1) cache) =
      putAll 0 (slots cache) updates := by
  induction updates generalizing cache with
  | nil => rfl
  | cons update rest ih => rw [List.foldl_cons, ih, slots_update, putAll, putAll, List.foldl_cons]

theorem slots_cache_after (cfg : SprinklerdCfg) (updates : List (Int × Int)) :
    slots (cacheAfter cfg updates) =
      putAll 0 (List.replicate (cfg.zones + nonZoneDzids) (0, 0)) updates := by
  rw [cacheAfter, slots_fold, zeroedCache, slots, List.map_replicate]

/-- The cache answers for every identifier in use as its last update did. -/
structure Faithful (cfg : SprinklerdCfg) (updates : List (Int × Int)) : Prop where
  check : ∀ idx ∈ identifiersInUse cfg, ∀ value,
    checkDzCache idx value (cacheAfter cfg updates) = true ↔ lastUpdate idx updates = some value
  update : ∀ idx ∈ identifiersInUse cfg, ∀ value,
    (updateDzCache idx value (cacheAfter cfg updates)).2 = false ↔
      lastUpdate idx updates = some value

variable {cfg : SprinklerdCfg}

theorem in_use_positive {idx : Int} (used : idx ∈ identifiersInUse cfg) : 0 < idx :=
  of_decide_eq_true (List.mem_filter.mp used).2

theorem identifiers_length (cfg : SprinklerdCfg) :
    (dzIdentifiers cfg).length =
      cfg.zones + nonZoneDzids + (if cfg.masterValve then 1 else 0) := by
  have zones (left : Nat) (first : Int) : (zonesFrom left first).length = left := by
    induction left generalizing first with
    | zero => rfl
    | succ left ih => rw [zonesFrom, List.length_cons, ih]
  rw [dzIdentifiers, List.length_append, List.length_map, tableZones]
  split_ifs
  · simp [zoneList, zones, nonZoneDzids]
  · simp [zoneList, zones, nonZoneDzids]

/-- The identifiers in use fit unless a master valve and everything else has one. -/
theorem identifiers_fit :
    (identifiersInUse cfg).length ≤ cfg.zones + nonZoneDzids ↔
      ¬ (cfg.masterValve = true ∧ ∀ idx ∈ dzIdentifiers cfg, 0 < idx) := by
  have total := identifiers_length cfg
  have part : (identifiersInUse cfg).length ≤ (dzIdentifiers cfg).length :=
    List.length_filter_le _ _
  cases master : cfg.masterValve with
  | false =>
      rw [master] at total
      simp only [Bool.false_eq_true, if_false, false_and, not_false_eq_true, iff_true] at total ⊢
      omega
  | true =>
      rw [master] at total
      simp only [if_true, true_and] at total ⊢
      have fewer : (identifiersInUse cfg).length < (dzIdentifiers cfg).length ↔
          ∃ idx ∈ dzIdentifiers cfg, ¬ 0 < idx := by
        rw [identifiersInUse, List.length_filter_lt_length_iff_exists]
        simp
      push Not at fewer ⊢
      rw [← fewer]
      omega

theorem keys_in_use {updates : List (Int × Int)}
    (used : ∀ update ∈ updates, update.1 ∈ identifiersInUse cfg) :
    (keys updates).card ≤ (identifiersInUse cfg).length := by
  have inside : keys updates ⊆ (identifiersInUse cfg).toFinset := by
    intro idx member
    rw [keys, List.mem_toFinset] at member
    obtain ⟨update, listed, rfl⟩ := List.mem_map.mp member
    exact List.mem_toFinset.mpr (used update listed)
  exact (Finset.card_le_card inside).trans (List.toFinset_card_le _)

theorem faithful_of_fits {updates : List (Int × Int)}
    (fits : (identifiersInUse cfg).length ≤ cfg.zones + nonZoneDzids)
    (used : ∀ update ∈ updates, update.1 ∈ identifiersInUse cfg) : Faithful cfg updates := by
  have proper (update : Int × Int) (listed : update ∈ updates) : update.1 ≠ 0 :=
    (in_use_positive (used update listed)).ne'
  have agrees := (@faithful_iff_fits Int Int _ _ 0 0 _ _ proper).mpr ((keys_in_use used).trans fits)
  constructor
  · intro idx member value
    rw [check_dz_cache_eq, slots_cache_after, agrees idx (in_use_positive member).ne', lastUpdate]
  · intro idx member value
    rw [update_answer, slots_cache_after, agrees idx (in_use_positive member).ne', lastUpdate]

def everyIdentifier (cfg : SprinklerdCfg) : List (Int × Int) :=
  (identifiersInUse cfg).map fun idx => (idx, dzOn)

theorem fits_of_faithful (distinct : (identifiersInUse cfg).Nodup)
    (faithful : Faithful cfg (everyIdentifier cfg)) :
    (identifiersInUse cfg).length ≤ cfg.zones + nonZoneDzids := by
  have size : (slots (cacheAfter cfg (everyIdentifier cfg))).length = cfg.zones + nonZoneDzids := by
    rw [slots_cache_after, length_put_all, List.length_replicate]
  rw [← size, ← List.toFinset_card_of_nodup distinct]
  apply card_le_of_held
  intro idx member
  have used := List.mem_toFinset.mp member
  have logged : idx ∈ keys (everyIdentifier cfg).reverse := by
    rw [keys, List.mem_toFinset, everyIdentifier, List.map_reverse, List.map_map,
      List.mem_reverse]
    exact List.mem_map.mpr ⟨idx, used, rfl⟩
  cases last : lastUpdate idx (everyIdentifier cfg) with
  | none => exact absurd last (lookup_of_mem_keys logged)
  | some value =>
      have held := (check_dz_cache_eq idx value _).mp ((faithful.check idx used value).mpr last)
      rw [held]
      exact Option.some_ne_none value

/-- With distinct identifiers the cache is faithful after every sequence of updates,
unless a master valve is configured and every identifier is set. -/
theorem domoticz_cache_faithful (distinct : (identifiersInUse cfg).Nodup) :
    (∀ updates : List (Int × Int),
      (∀ update ∈ updates, update.1 ∈ identifiersInUse cfg) → Faithful cfg updates) ↔
      ¬ (cfg.masterValve = true ∧ ∀ idx ∈ dzIdentifiers cfg, 0 < idx) := by
  rw [← identifiers_fit]
  constructor
  · intro faithful
    apply fits_of_faithful distinct (faithful _ _)
    intro update listed
    obtain ⟨idx, used, rfl⟩ := List.mem_map.mp listed
    exact used
  · intro fits updates used
    exact faithful_of_fits fits used

section Bench

def benchDomoticz (masterIdx : Int) : SprinklerdCfg :=
  { benchCfg fun zone =>
      { benchWiring zone with dzIdx := if zone = 0 then masterIdx else zone + 10 } with
    dzidxCalendar := 20
    dzidx24hDelay := 21
    dzidxAllzones := 22
    enableMQTTaq := true
    enableMQTTdz := true
    mqttTopic := "sprinklerd".toList
    mqttDzPubTopic := "domoticz/in".toList }

theorem domoticz_cache_faithful_without_master :
    Faithful (benchDomoticz (-1)) [(11, dzOn), (20, dzOff), (11, dzOff)] :=
  (domoticz_cache_faithful (by decide)).mpr (by decide) _ (by decide)

/-- The master takes a slot, and the last identifier finds none. -/
theorem master_identifier_fills_cache :
    ¬ Faithful (benchDomoticz 10) (everyIdentifier (benchDomoticz 10)) := by
  intro faithful
  have stored := (faithful.check 22 (by decide) dzOn).mpr (by decide)
  exact absurd stored (by decide)

end Bench

end SprinklerD.DomoticzCache
