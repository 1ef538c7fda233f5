import SprinklerD.JsonMessages
import SprinklerD.Operations

/-!
# What the two calendar listings have in common

The document for the web page and the advanced one print the calendar in loops of their own.
The loop of the advanced document begins one index later, and the first zone is never in it.
-/

namespace SprinklerD.CalendarListing

open SprinklerD.Config SprinklerD.CronTable SprinklerD.JsonMessages SprinklerD.Operations

set_option autoImplicit false

variable (cfg : SprinklerdCfg) (table : Int → CalendarDay)

def ListsEveryZone (entries : List CalendarEntry) : Prop :=
  ∀ day ∈ weekDays, scheduled (table day) = true → ∀ zone ∈ zoneList cfg,
    .runtime day zone ((table day).zruntimes (zone - 1)) ∈ entries

structure ListingsAgree : Prop where
  same : ∀ entry, entry ∈ advancedEntries cfg table ↔ entry ∈ calEntries cfg table
  advanced : ListsEveryZone cfg table (advancedEntries cfg table)
  cal : ListsEveryZone cfg table (calEntries cfg table)

variable {cfg table} {indexes : List Int} {day : Int}

theorem start_time_mem {other hour minute : Int} :
    .startTime other hour minute ∈ dayEntries indexes table day ↔
      scheduled (table day) = true ∧
        other = day ∧ hour = (table day).hour ∧ minute = (table day).minute := by
  unfold dayEntries
  split_ifs with enabled <;> simp [enabled]

theorem runtime_mem {other zone minutes : Int} :
    .runtime other zone minutes ∈ dayEntries indexes table day ↔
      scheduled (table day) = true ∧ zone - 1 ∈ indexes ∧ 0 ≤ minutes ∧
        other = day ∧ minutes = (table day).zruntimes (zone - 1) := by
  unfold dayEntries
  split_ifs with enabled
  · simp only [List.mem_cons, reduceCtorEq, false_or, List.mem_map, List.mem_filter,
      decide_eq_true_eq, CalendarEntry.runtime.injEq, enabled, true_and]
    constructor
    · rintro ⟨index, ⟨inside, runs⟩, rfl, rfl, rfl⟩
      rw [Int.add_sub_cancel]
      exact ⟨inside, runs, rfl, rfl⟩
    · rintro ⟨inside, runs, rfl, rfl⟩
      exact ⟨zone - 1, ⟨inside, runs⟩, rfl, Int.sub_add_cancel zone 1, rfl⟩
  · simp [enabled]

theorem runtime_mem_cal {zone minutes : Int} :
    .runtime day zone minutes ∈ calEntries cfg table ↔
      (day ∈ weekDays ∧ scheduled (table day) = true) ∧ zone ∈ zoneList cfg ∧ 0 ≤ minutes ∧
        minutes = (table day).zruntimes (zone - 1) := by
  simp only [calEntries, List.mem_flatMap, runtime_mem, mem_zones_from, mem_zone_list]
  constructor
  · rintro ⟨other, listed, enabled, inside, runs, rfl, same⟩
    exact ⟨⟨listed, enabled⟩, by omega, runs, same⟩
  · rintro ⟨⟨listed, enabled⟩, inside, runs, same⟩
    exact ⟨day, listed, enabled, by omega, runs, rfl, same⟩

theorem cal_lists_every_zone
    (runtimes : ∀ day ∈ weekDays, ∀ zone ∈ zoneIndexes cfg, 0 ≤ (table day).zruntimes zone) :
    ListsEveryZone cfg table (calEntries cfg table) := by
  intro day listed enabled zone member
  have bounds := mem_zone_list.mp member
  have index : zone - 1 ∈ zoneIndexes cfg := mem_zones_from.mpr (by omega)
  exact runtime_mem_cal.mpr ⟨⟨listed, enabled⟩, member, runtimes day listed _ index, rfl⟩

/-- The advanced listing is the other one without the first zone. -/
theorem mem_advanced {entry : CalendarEntry} :
    entry ∈ advancedEntries cfg table ↔
      entry ∈ calEntries cfg table ∧ ∀ day minutes, entry ≠ .runtime day 1 minutes := by
  have positive := cfg.zonesPositive
  simp only [advancedEntries, advancedDayEntries, calEntries, List.mem_flatMap]
  cases entry with
  | startTime day hour minute => simp [start_time_mem]
  | runtime day zone minutes =>
      simp only [runtime_mem, mem_zones_from]
      constructor
      · rintro ⟨other, listed, enabled, inside, rest⟩
        refine ⟨⟨other, listed, enabled, by omega, rest⟩, fun day minutes same => ?_⟩
        obtain ⟨-, rfl, -⟩ := CalendarEntry.runtime.inj same
        omega
      · rintro ⟨⟨other, listed, enabled, inside, rest⟩, later⟩
        have beyond : zone ≠ 1 := by
          rintro rfl
          exact later day minutes rfl
        exact ⟨other, listed, enabled, by omega, rest⟩

theorem first_zone_missing {minutes : Int} :
    .runtime day 1 minutes ∉ advancedEntries cfg table :=
  fun member => (mem_advanced.mp member).2 _ _ rfl

/-- The two listings agree, with all zones in them, if and only if there is nothing to list. -/
theorem listings_agree_iff (cfg : SprinklerdCfg) (table : Int → CalendarDay) :
    ListingsAgree cfg table ↔ ∀ day ∈ weekDays, scheduled (table day) = false := by
  constructor
  · intro agree day listed
    by_contra enabled
    rw [Bool.not_eq_false] at enabled
    have first : (1 : Int) ∈ zoneList cfg :=
      mem_zone_list.mpr ⟨le_refl 1, by exact_mod_cast cfg.zonesPositive⟩
    exact first_zone_missing (agree.advanced day listed enabled 1 first)
  · intro nothing
    have none (entry : CalendarEntry) : entry ∉ calEntries cfg table := by
      simp only [calEntries, List.mem_flatMap]
      rintro ⟨day, listed, member⟩
      simp [dayEntries, nothing day listed] at member
    exact {
      same := fun entry => iff_of_false (fun member => none entry (mem_advanced.mp member).1)
        (none entry)
      advanced := fun day listed enabled => absurd enabled (by simp [nothing day listed])
      cal := fun day listed enabled => absurd enabled (by simp [nothing day listed]) }

def benchWeek (_ : Int) : CalendarDay := { hour := 6, minute := 30, zruntimes := fun _ => 10 }

/-- The first zone is listed for the web page and not in the advanced document. -/
theorem listings_differ : ¬ ∀ cfg table,
    (∀ day ∈ weekDays, ∀ zone ∈ zoneIndexes cfg, 0 ≤ (table day).zruntimes zone) →
      ListingsAgree cfg table := by
  intro agree
  have runtimes : ∀ day ∈ weekDays, ∀ zone ∈ zoneIndexes (benchCfg benchWiring),
      0 ≤ (benchWeek day).zruntimes zone := by decide
  have listed : CalendarEntry.runtime 1 1 10 ∈ calEntries (benchCfg benchWiring) benchWeek := by
    decide
  exact first_zone_missing (((agree _ _ runtimes).same _).mpr listed)

end SprinklerD.CalendarListing
