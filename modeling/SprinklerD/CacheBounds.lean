import SprinklerD.CacheFile
import SprinklerD.Operations

/-!
# Which entries the cache file reaches

`read_cache` counts the zones from the last -1 it has read, and compares with nothing. The
numbers are whatever `%f` delivers, of a file with any content.
-/

namespace SprinklerD.CacheBounds

open Foundation.MachineInt Foundation.SinglePrecision
open SprinklerD.Config SprinklerD.SdCron SprinklerD.CacheFile SprinklerD.Operations

set_option autoImplicit false

def isMarker (f : CFloat) : Bool := f.same (.finite (-1))

variable (cfg : SprinklerdCfg)

/-- `readNumber`, for any number. -/
def readFloat (reader : CacheReader) (f : CFloat) : CacheReader :=
  if isMarker f then { reader with z := true, zs := reader.c, c := reader.c + 1 }
  else { reader with c := reader.c + 1, st := storeNumber cfg f reader }

/-- The index of `zonecfg` that a round of the loop writes, if any. -/
def zoneWrite (reader : CacheReader) (f : CFloat) : Option Int :=
  if isMarker f = false ∧ reader.z = true then some ((reader.c : Int) - reader.zs) else none

def zoneWrites : CacheReader → List CFloat → List Int
  | _, [] => []
  | reader, f :: rest => (zoneWrite reader f).toList ++ zoneWrites (readFloat cfg reader f) rest

def opened (st : SprinklerdState) : CacheReader := { c := 0, zs := 0, z := false, st := st }

/-- `run` follows the last -1. -/
def Behind (numbers run : List CFloat) : Prop :=
  ∃ before marker, numbers = before ++ marker :: run ∧ isMarker marker = true ∧
    ∀ f ∈ run, isMarker f = false

/-- Between a -1 and the next one, or the end, there are no more numbers than zones. -/
def FewBehind (numbers : List CFloat) : Prop :=
  ∀ front run back, numbers = front ++ back → Behind front run → run.length ≤ cfg.zones

variable {cfg} {reader : CacheReader}

section Reader

theorem read_number_float :
    readNumber cfg = fun reader number => readFloat cfg reader (scanFloat number) := rfl

theorem read_marker {f : CFloat} (marker : isMarker f = true) : readFloat cfg reader f =
    { reader with z := true, zs := reader.c, c := reader.c + 1 } :=
  if_pos marker

theorem read_other {f : CFloat} (other : isMarker f = false) : readFloat cfg reader f =
    { reader with c := reader.c + 1, st := storeNumber cfg f reader } :=
  if_neg (Bool.eq_false_iff.mp other)

theorem read_run {run : List CFloat} (others : ∀ f ∈ run, isMarker f = false) :
    (run.foldl (readFloat cfg) reader).z = reader.z ∧
      (run.foldl (readFloat cfg) reader).zs = reader.zs ∧
      (run.foldl (readFloat cfg) reader).c = reader.c + run.length := by
  induction run generalizing reader with
  | nil => exact ⟨rfl, rfl, rfl⟩
  | cons f rest ih =>
      rw [List.foldl_cons, read_other (others f List.mem_cons_self)]
      obtain ⟨z, zs, c⟩ := @ih { reader with c := reader.c + 1, st := storeNumber cfg f reader }
        fun g member => others g (List.mem_cons_of_mem f member)
      refine ⟨z, zs, c.trans ?_⟩
      rw [List.length_cons]
      dsimp only
      omega

theorem position_behind {numbers run : List CFloat} (behind : Behind numbers run) :
    (numbers.foldl (readFloat cfg) reader).z = true ∧
      (numbers.foldl (readFloat cfg) reader).c =
        (numbers.foldl (readFloat cfg) reader).zs + run.length + 1 := by
  obtain ⟨before, marker, rfl, marks, others⟩ := behind
  rw [List.foldl_append, List.foldl_cons, read_marker marks]
  obtain ⟨z, zs, c⟩ := @read_run cfg _ run others
  refine ⟨z, ?_⟩
  rw [c, zs]
  dsimp only
  omega

theorem behind_of_zones {st : SprinklerdState} {numbers : List CFloat}
    (zones : (numbers.foldl (readFloat cfg) (opened st)).z = true) :
    ∃ run, Behind numbers run := by
  induction numbers using List.reverseRecOn with
  | nil => cases zones
  | append_singleton front f ih =>
      rw [List.foldl_append, List.foldl_cons, List.foldl_nil] at zones
      cases marks : isMarker f with
      | true =>
          exact ⟨[], front, f, rfl, marks, fun _ member => absurd member List.not_mem_nil⟩
      | false =>
          rw [read_other marks] at zones
          obtain ⟨run, before, marker, rfl, marks', others⟩ := ih zones
          refine ⟨run ++ [f], before, marker, by simp, marks', ?_⟩
          intro g member
          rcases List.mem_append.mp member with member | member
          · exact others g member
          · rw [List.mem_singleton.mp member, marks]

end Reader

section Writes

theorem mem_zone_writes {numbers : List CFloat} {zone : Int} :
    zone ∈ zoneWrites cfg reader numbers ↔ ∃ front f back, numbers = front ++ f :: back ∧
      zoneWrite (front.foldl (readFloat cfg) reader) f = some zone := by
  induction numbers generalizing reader with
  | nil => simp [zoneWrites]
  | cons f rest ih =>
      rw [zoneWrites, List.mem_append, Option.mem_toList, ih]
      constructor
      · rintro (first | ⟨front, g, back, rfl, later⟩)
        · exact ⟨[], f, rest, rfl, first⟩
        · exact ⟨f :: front, g, back, rfl, later⟩
      · rintro ⟨front, g, back, parts, written⟩
        cases front with
        | nil =>
            cases parts
            exact Or.inl written
        | cons f' front =>
            cases parts
            exact Or.inr ⟨front, g, back, rfl, written⟩

/-- Where zones are read the position of the last -1 has been passed. -/
def Sound (reader : CacheReader) : Prop := reader.z = true → reader.zs < reader.c

theorem read_sound (sound : Sound reader) (f : CFloat) : Sound (readFloat cfg reader f) := by
  intro zones
  cases marks : isMarker f with
  | true =>
      rw [read_marker marks]
      exact Nat.lt_succ_self reader.c
  | false =>
      rw [read_other marks] at zones ⊢
      exact Nat.lt_succ_of_lt (sound zones)

/-- A round of the loop writes at most the entry that is logged. -/
theorem read_writes (sound : Sound reader) (f : CFloat) :
    (∀ zone, zoneWrite reader f ≠ some zone →
      (readFloat cfg reader f).st.defaultRuntime zone = reader.st.defaultRuntime zone) ∧
    ((readFloat cfg reader f).st.outOfTable = true ↔ reader.st.outOfTable = true ∨
      ∃ zone, zoneWrite reader f = some zone ∧ cfg.zones < zone) := by
  cases marks : isMarker f with
  | true =>
      have nothing : zoneWrite reader f = none := if_neg fun both => by
        rw [marks] at both
        cases both.1
      rw [read_marker marks, nothing]
      simp
  | false =>
      rw [read_other marks]
      cases zones : reader.z with
      | false =>
          have nothing : zoneWrite reader f = none := if_neg fun both => by
            rw [zones] at both
            cases both.2
          have stored : (storeNumber cfg f reader).defaultRuntime = reader.st.defaultRuntime ∧
              (storeNumber cfg f reader).outOfTable = reader.st.outOfTable := by
            unfold storeNumber
            rw [zones]
            dsimp only
            split_ifs <;> first | contradiction | exact ⟨rfl, rfl⟩
          rw [nothing]
          dsimp only
          rw [stored.1, stored.2]
          simp
      | true =>
          have behind : reader.zs < reader.c := sound zones
          have index : zoneWrite reader f = some ((reader.c - reader.zs : Nat) : Int) := by
            rw [zoneWrite, if_pos ⟨marks, zones⟩]
            congr 1
            omega
          rw [index]
          unfold storeNumber
          rw [zones]
          constructor
          · intro zone other
            exact Function.update_of_ne (fun same => other (congrArg some same.symm)) _ _
          · simp

theorem zone_writes_positive {numbers : List CFloat} (sound : Sound reader) :
    ∀ zone ∈ zoneWrites cfg reader numbers, 1 ≤ zone := by
  induction numbers generalizing reader with
  | nil => exact fun _ written => absurd written List.not_mem_nil
  | cons f rest ih =>
      intro zone written
      rw [zoneWrites, List.mem_append, Option.mem_toList] at written
      rcases written with first | later
      · unfold zoneWrite at first
        split_ifs at first with zones
        have behind : reader.zs < reader.c := sound zones.2
        cases first
        omega
      · exact ih (read_sound sound f) zone later

/-- The log is complete, and tells where the table is left. -/
theorem zone_writes_complete {numbers : List CFloat} (sound : Sound reader) :
    (∀ zone, zone ∉ zoneWrites cfg reader numbers →
      (numbers.foldl (readFloat cfg) reader).st.defaultRuntime zone =
        reader.st.defaultRuntime zone) ∧
    ((numbers.foldl (readFloat cfg) reader).st.outOfTable = true ↔
      reader.st.outOfTable = true ∨ ∃ zone ∈ zoneWrites cfg reader numbers, cfg.zones < zone) := by
  induction numbers generalizing reader with
  | nil => simp [zoneWrites]
  | cons f rest ih =>
      obtain ⟨kept, flag⟩ := @read_writes cfg reader sound f
      obtain ⟨keptLater, flagLater⟩ := ih (@read_sound cfg reader sound f)
      rw [List.foldl_cons, zoneWrites]
      constructor
      · intro zone unwritten
        rw [List.mem_append, Option.mem_toList, not_or] at unwritten
        exact (keptLater zone unwritten.2).trans (kept zone unwritten.1)
      · rw [flagLater, flag]
        simp only [List.mem_append, Option.mem_toList, or_and_right, exists_or, or_assoc]

end Writes

/-- Every index written lies in the table, if and only if no -1 is followed by more numbers than
there are zones. -/
theorem cache_in_table_iff (cfg : SprinklerdCfg) (st : SprinklerdState) (numbers : List CFloat) :
    (∀ zone ∈ zoneWrites cfg (opened st) numbers, 1 ≤ zone ∧ zone ≤ cfg.zones) ↔
      FewBehind cfg numbers := by
  constructor
  · intro inside front run back parts behind
    cases run using List.reverseRecOn with
    | nil => exact Nat.zero_le _
    | append_singleton run f =>
        obtain ⟨before, marker, rfl, marks, others⟩ := behind
        have position := @position_behind cfg (opened st) (before ++ marker :: run) run
          ⟨before, marker, rfl, marks, fun g member => others g (List.mem_append_left _ member)⟩
        have written : (run.length + 1 : Int) ∈ zoneWrites cfg (opened st) numbers := by
          refine mem_zone_writes.mpr ⟨before ++ marker :: run, f, back, by simp [parts], ?_⟩
          rw [zoneWrite, if_pos ⟨others f (by simp), position.1⟩, position.2]
          push_cast
          congr 1
          omega
        have bound := (inside _ written).2
        rw [List.length_append, List.length_singleton]
        omega
  · intro few zone written
    obtain ⟨front, f, back, rfl, index⟩ := mem_zone_writes.mp written
    unfold zoneWrite at index
    split_ifs at index with zones
    obtain ⟨run, behind⟩ := behind_of_zones zones.2
    have position := @position_behind cfg (opened st) front run behind
    obtain ⟨before, marker, rfl, marks, others⟩ := behind
    have short := few (before ++ marker :: (run ++ [f])) (run ++ [f]) back (by simp)
      ⟨before, marker, rfl, marks, ?_⟩
    · rw [List.length_append, List.length_singleton] at short
      cases index
      omega
    · intro g member
      rcases List.mem_append.mp member with member | member
      · exact others g member
      · rw [List.mem_singleton.mp member]
        exact zones.1

/-- The model of the written files is cut at the same place. -/
theorem cache_lost_iff {cfg : SprinklerdCfg} {st : SprinklerdState} {numbers : List CacheNumber}
    (file : st.disk.cacheFile = some numbers) (sound : st.outOfTable = false) :
    (readCache cfg st).outOfTable = true ↔ ¬ FewBehind cfg (numbers.map scanFloat) := by
  have fresh : Sound (opened st) := fun zones => absurd zones Bool.false_ne_true
  have flag := (@zone_writes_complete cfg (opened st) (numbers.map scanFloat) fresh).2
  have table := cache_in_table_iff cfg st (numbers.map scanFloat)
  have positive := @zone_writes_positive cfg (opened st) (numbers.map scanFloat) fresh
  have read : (readCache cfg st).outOfTable =
      ((numbers.map scanFloat).foldl (readFloat cfg) (opened st)).st.outOfTable := by
    rw [readCache, file, read_number_float, List.foldl_map]
    rfl
  rw [read, flag, ← table, not_forall]
  constructor
  · rintro (lost | ⟨zone, written, behind⟩)
    · exact absurd (sound.symm.trans lost) Bool.false_ne_true
    · exact ⟨zone, fun inside => by have bound := (inside written).2; omega⟩
  · rintro ⟨zone, outside⟩
    rw [Classical.not_imp] at outside
    have low := positive zone outside.1
    exact Or.inr ⟨zone, outside.1, by_contra fun inside => outside.2 ⟨low, by omega⟩⟩

section Bench

/-- A file of three zones, read after the third was taken out of the configuration. -/
theorem cache_leaves_table : ¬ ∀ cfg st numbers,
    ∀ zone ∈ zoneWrites cfg (opened st) numbers, 1 ≤ zone ∧ zone ≤ cfg.zones := by
  intro inside
  have bench := inside (benchCfg benchWiring) benchState
    ((cacheNumbers { benchCfg benchWiring with
      zones := 3, zonesPositive := by decide, zonesBounded := by decide } benchState).map scanFloat)
  revert bench
  decide +kernel

end Bench

end SprinklerD.CacheBounds
