import SprinklerD.CacheFile
import SprinklerD.Operations

/-!
# Reading the cache back

`read_cache` restores what `write_cache` wrote as far as single precision carries it.
The threshold for the chance of rain is the one number that can be mistaken for the
marker of the zones: at -1 it is skipped. The numbers after it then land in the
runtimes of the first zones, which the rest of the file overwrites.
-/

namespace SprinklerD.CacheRoundTrip

open Foundation.MachineInt Foundation.SinglePrecision
open SprinklerD.Config SprinklerD.SdCron SprinklerD.CacheFile SprinklerD.Operations

set_option autoImplicit false

/-- What the cache has to keep: the numbers are those the fields can hold. -/
structure CacheRange (cfg : SprinklerdCfg) (st : SprinklerdState) : Prop where
  time : 0 ≤ st.delay24hTime ∧ st.delay24hTime < 2 ^ 31
  chance : -2 ^ 31 ≤ st.precipChanceDelay ∧ st.precipChanceDelay < 2 ^ 31
  runtimes : ∀ zone ∈ zoneList cfg, 0 ≤ st.defaultRuntime zone ∧ st.defaultRuntime zone < 2 ^ 31

structure Restored (cfg : SprinklerdCfg) (st after : SprinklerdState) : Prop where
  calendar : after.calendar = st.calendar
  delay24h : after.delay24h = st.delay24h
  time : after.delay24hTime = st.delay24hTime
  chance : after.precipChanceDelay = st.precipChanceDelay
  runtimes : ∀ zone ∈ zoneList cfg, after.defaultRuntime zone = st.defaultRuntime zone

/-- At most twenty-four significant bits, or the largest `int`: that one is rounded
up and stopped at the end of the range again. -/
def Survives (value : Int) : Prop := SingleExact value ∨ value = 2 ^ 31 - 1

def reread (value : Int) : Int := floatToInt (scanFloat (.whole value))

theorem float_to_int_finite (value : Int) : floatToInt (.finite value) = saturate32 value := by
  rw [floatToInt, Rat.num_intCast, Rat.den_intCast, Nat.cast_one, Int.tdiv_one]

theorem saturate32_of_fits {value : Int} (lower : -2 ^ 31 ≤ value) (upper : value < 2 ^ 31) :
    saturate32 value = value := by
  unfold saturate32
  omega

theorem log_of_int {value : Int} (lower : -2 ^ 31 < value) (upper : value < 2 ^ 31) :
    Nat.log2 value.natAbs + 1 ≤ 31 := by
  rcases eq_or_ne value 0 with rfl | nonzero
  · decide
  · have size : value.natAbs < 2 ^ 31 := by omega
    have below := (Nat.log2_lt (Int.natAbs_ne_zero.mpr nonzero)).mpr size
    omega

theorem single_exact_lowest : SingleExact (-2 ^ 31) := ⟨-1, 31, by decide, by decide⟩

theorem reread_eq {value : Int} (lower : -2 ^ 31 ≤ value) (upper : value < 2 ^ 31) :
    reread value = value ↔ Survives value := by
  by_cases exact : SingleExact value
  · apply iff_of_true _ (Or.inl exact)
    rw [reread, scanFloat, (round_single_int value).mpr exact, float_to_int_finite,
      saturate32_of_fits lower upper]
  obtain ⟨other, rounded, different, -, size⟩ := round_single_other exact
  have notLowest : value ≠ -2 ^ 31 := fun same => exact (same ▸ single_exact_lowest)
  have bits := log_of_int (by omega) upper
  have power : (2 : Int) ^ (Nat.log2 value.natAbs + 1) ≤ 2 ^ 31 :=
    pow_le_pow_right₀ (by norm_num) bits
  have bounds := abs_le.mp (size.trans power)
  rw [reread, scanFloat, rounded, float_to_int_finite]
  constructor
  · intro same
    unfold saturate32 at same
    exact Or.inr (by omega)
  · intro survives
    have top := survives.resolve_left exact
    have rounds : roundSingle ((2 ^ 31 - 1 : Int) : ℚ) = ((2 ^ 31 : Int) : ℚ) := by decide +kernel
    rw [top, rounds] at rounded
    have double : other = 2 ^ 31 := by exact_mod_cast rounded.symm
    rw [double, top]
    decide

theorem scan_marker (value : Int) :
    (scanFloat (.whole value)).same (.finite (-1)) = true ↔ value = -1 := by
  have finite : (scanFloat (.whole value)).same (.finite (-1)) = true ↔
      roundSingle value = ((-1 : Int) : ℚ) := by
    simp only [scanFloat, CFloat.same, CFloat.le, CFloat.number, Bool.and_eq_true,
      decide_eq_true_eq, Int.cast_neg, Int.cast_one]
    exact le_antisymm_iff.symm
  rw [finite]
  by_cases exact : SingleExact value
  · rw [(round_single_int value).mpr exact]
    exact Int.cast_inj
  · obtain ⟨other, rounded, -, large, -⟩ := round_single_other exact
    rw [rounded, Int.cast_inj]
    apply iff_of_false
    · rintro rfl
      exact absurd large (by decide)
    · rintro rfl
      exact exact (exact_of_small (by decide))

theorem reread_small {value : Int} (small : |value| < 2 ^ 24) : reread value = value := by
  have bounds := abs_lt.mp small
  exact (reread_eq (by omega) (by omega)).mpr (Or.inl (exact_of_small small))

theorem reread_switch (on : Bool) : decide (reread (if on then 1 else 0) ≠ 0) = on := by
  cases on with
  | false => rw [if_neg Bool.false_ne_true, reread_small (by decide)]; rfl
  | true => rw [if_pos rfl, reread_small (by decide)]; rfl

variable {cfg : SprinklerdCfg}

section Reader

def header (st : SprinklerdState) : Bool × Bool × Int × Int :=
  (st.calendar, st.delay24h, st.delay24hTime, st.precipChanceDelay)

theorem read_number_marker {reader : CacheReader} {number : CacheNumber}
    (marker : (scanFloat number).same (.finite (-1)) = true) :
    readNumber cfg reader number =
      { reader with z := true, zs := reader.c, c := reader.c + 1 } := if_pos marker

theorem read_number_other {reader : CacheReader} {number : CacheNumber}
    (other : (scanFloat number).same (.finite (-1)) = false) :
    readNumber cfg reader number =
      { reader with c := reader.c + 1, st := storeNumber cfg (scanFloat number) reader } :=
  if_neg (Bool.eq_false_iff.mp other)

theorem read_number_c (reader : CacheReader) (number : CacheNumber) :
    (readNumber cfg reader number).c = reader.c + 1 := by
  unfold readNumber
  simp only
  split_ifs <;> rfl

/-- From the fifth number on, and behind a marker, nothing is stored in the header. -/
theorem read_number_header {reader : CacheReader} (number : CacheNumber)
    (late : reader.z = true ∨ 4 ≤ reader.c) :
    header (readNumber cfg reader number).st = header reader.st := by
  have behind : reader.c < 4 → reader.z = true := fun early => late.resolve_right (by omega)
  unfold readNumber storeNumber
  simp only
  split_ifs with marker zones
  · rfl
  · rfl
  · exact absurd (behind (by omega)) zones
  · exact absurd (behind (by omega)) zones
  · exact absurd (behind (by omega)) zones
  · exact absurd (behind (by omega)) zones
  · rfl
  · rfl
  · rfl

/-- Behind the marker the numbers are the runtimes of consecutive zones. -/
theorem read_runtimes {runtime : Int → Int} {left first : Nat} {reader : CacheReader}
    (behind : reader.z = true) (place : reader.c = reader.zs + first)
    (proper : ∀ zone ∈ zonesFrom left first, runtime zone ≠ -1) :
    header (((zonesFrom left first).map fun zone => .whole (runtime zone)).foldl
        (readNumber cfg) reader).st = header reader.st ∧
      ∀ zone, (((zonesFrom left first).map fun zone => .whole (runtime zone)).foldl
        (readNumber cfg) reader).st.defaultRuntime zone =
          if zone ∈ zonesFrom left first then reread (runtime zone)
          else reader.st.defaultRuntime zone := by
  induction left generalizing first reader with
  | zero => exact ⟨rfl, fun zone => rfl⟩
  | succ left ih =>
      have other : (scanFloat (.whole (runtime first))).same (.finite (-1)) = false := by
        rw [Bool.eq_false_iff, ne_eq, scan_marker]
        exact proper first List.mem_cons_self
      have stored := @read_number_other cfg reader _ other
      have next : ((first : Int) + 1) = ((first + 1 : Nat) : Int) := by push_cast; rfl
      rw [zonesFrom, List.map_cons, List.foldl_cons, next]
      obtain ⟨same, runtimes⟩ := @ih (first + 1) (readNumber cfg reader (.whole (runtime first)))
        (by rw [stored]; exact behind)
        (by rw [stored]; simp only; omega)
        (fun zone member => proper zone (by rw [zonesFrom, next]; exact List.mem_cons_of_mem _ member))
      constructor
      · rw [same, read_number_header _ (Or.inl behind)]
      · intro zone
        have place' : reader.c - reader.zs = first := by omega
        rw [runtimes zone, stored]
        simp only [storeNumber, behind, if_true, place', List.mem_cons]
        by_cases later : zone ∈ zonesFrom left ((first + 1 : Nat) : Int)
        · rw [if_pos later, if_pos (Or.inr later)]
        · rw [if_neg later]
          by_cases here : zone = first
          · rw [if_pos (Or.inl here), here, Function.update_self, reread]
          · rw [if_neg (not_or.mpr ⟨here, later⟩), Function.update_of_ne here]

end Reader

def chanceAfter (st start : SprinklerdState) : Int :=
  if st.precipChanceDelay = -1 then start.precipChanceDelay else reread st.precipChanceDelay

/-- A number before the marker that is not -1 is stored by its place. -/
theorem read_number_front {c : Nat} {value : Int} (start : SprinklerdState) (proper : value ≠ -1) :
    readNumber cfg { c := c, zs := 0, z := false, st := start } (.whole value) =
      { c := c + 1, zs := 0, z := false,
        st := storeNumber cfg (scanFloat (.whole value))
          { c := c, zs := 0, z := false, st := start } } := by
  apply read_number_other
  rw [Bool.eq_false_iff, ne_eq, scan_marker]
  exact proper

/-- The first four numbers. A threshold of -1 is taken for the marker. -/
theorem read_front (st start : SprinklerdState) (time : 0 ≤ st.delay24hTime) :
    ∃ reader : CacheReader, reader.c = 4 ∧
      header reader.st =
        (st.calendar, st.delay24h, reread st.delay24hTime, chanceAfter st start) ∧
      [CacheNumber.whole (if st.calendar then 1 else 0), .whole (if st.delay24h then 1 else 0),
        .whole st.delay24hTime, .whole st.precipChanceDelay].foldl (readNumber cfg)
          { c := 0, zs := 0, z := false, st := start } = reader := by
  have switch (on : Bool) : (if on then 1 else 0 : Int) ≠ -1 := by cases on <;> decide
  refine ⟨_, ?_, ?_, rfl⟩
  · simp only [List.foldl_cons, List.foldl_nil, read_number_c]
  · simp only [List.foldl_cons, List.foldl_nil]
    rw [read_number_front start (switch _), read_number_front _ (switch _),
      read_number_front _ (by omega)]
    have calendar := reread_switch st.calendar
    have delay24h := reread_switch st.delay24h
    unfold reread at calendar delay24h
    by_cases marker : st.precipChanceDelay = -1
    · rw [read_number_marker ((scan_marker _).mpr marker), chanceAfter, if_pos marker]
      simp only [header, storeNumber, calendar, delay24h, reread]
      rfl
    · rw [read_number_front _ marker, chanceAfter, if_neg marker]
      simp only [header, storeNumber, calendar, delay24h, reread]
      rfl

theorem read_header (st start : SprinklerdState) (time : 0 ≤ st.delay24hTime) :
    ∃ reader : CacheReader, reader.z = true ∧ reader.c = 7 ∧ reader.zs = 6 ∧
      header reader.st =
        (st.calendar, st.delay24h, reread st.delay24hTime, chanceAfter st start) ∧
      (cacheNumbers cfg st).foldl (readNumber cfg) { c := 0, zs := 0, z := false, st := start } =
        ((zoneList cfg).map fun zone => .whole (st.defaultRuntime zone)).foldl (readNumber cfg)
          reader := by
  obtain ⟨front, place, read, scanned⟩ := @read_front cfg st start time
  let oneDay := readNumber cfg front (.tenths st.precipInchDelay1day)
  let twoDays := readNumber cfg oneDay (.tenths st.precipInchDelay2day)
  have fifth : oneDay.c = 5 := (read_number_c _ _).trans (by rw [place])
  have sixth : twoDays.c = 6 := (read_number_c _ _).trans (by rw [fifth])
  have marked : readNumber cfg twoDays (.whole (-1)) =
      { twoDays with z := true, zs := twoDays.c, c := twoDays.c + 1 } :=
    read_number_marker ((scan_marker (-1)).mpr rfl)
  refine ⟨readNumber cfg twoDays (.whole (-1)), ?_, ?_, ?_, ?_, ?_⟩
  · rw [marked]
  · rw [marked, sixth]
  · rw [marked, sixth]
  · rw [marked]
    calc header twoDays.st = header oneDay.st := read_number_header _ (Or.inr (by omega))
      _ = header front.st := read_number_header _ (Or.inr (by omega))
      _ = _ := read
  · have numbers : cacheNumbers cfg st =
        [CacheNumber.whole (if st.calendar then 1 else 0), .whole (if st.delay24h then 1 else 0),
          .whole st.delay24hTime, .whole st.precipChanceDelay] ++
        ([.tenths st.precipInchDelay1day, .tenths st.precipInchDelay2day, .whole (-1)] ++
          (zoneList cfg).map fun zone => .whole (st.defaultRuntime zone)) := rfl
    rw [numbers, List.foldl_append, scanned, List.foldl_append]
    rfl

theorem read_cache_back (st start : SprinklerdState) (range : CacheRange cfg st)
    (file : start.disk.cacheFile = some (cacheNumbers cfg st)) :
    header (readCache cfg start) =
        (st.calendar, st.delay24h, reread st.delay24hTime, chanceAfter st start) ∧
      ∀ zone ∈ zoneList cfg,
        (readCache cfg start).defaultRuntime zone = reread (st.defaultRuntime zone) := by
  obtain ⟨reader, behind, place, base, read, rest⟩ := read_header st start range.time.1
  have runtimes := @read_runtimes cfg st.defaultRuntime cfg.zones 1 reader behind (by omega)
    (fun zone listed same => by
      have bounds := range.runtimes zone listed
      omega)
  rw [readCache, file]
  simp only
  rw [rest]
  constructor
  · exact runtimes.1.trans read
  · intro zone listed
    exact (runtimes.2 zone).trans (if_pos listed)

theorem write_cache_file {st : SprinklerdState} (opens : st.disk.cacheOpens = true) :
    (writeCache cfg st).disk.cacheFile = some (cacheNumbers cfg st) := by
  simp only [writeCache, remount_eq, opens, Bool.true_eq_false, if_false]
  rfl

/-- Reading back what was written restores the fields exactly when every number
survives single precision and the threshold is not the marker. -/
theorem cache_round_trips {st start : SprinklerdState} (range : CacheRange cfg st)
    (opens : st.disk.cacheOpens = true)
    (file : start.disk.cacheFile = (writeCache cfg st).disk.cacheFile) :
    Restored cfg st (readCache cfg start) ↔
      Survives st.delay24hTime ∧
      (if st.precipChanceDelay = -1 then start.precipChanceDelay = -1
        else Survives st.precipChanceDelay) ∧
      ∀ zone ∈ zoneList cfg, Survives (st.defaultRuntime zone) := by
  obtain ⟨read, runtimes⟩ := read_cache_back st start range (file.trans (write_cache_file opens))
  have time := range.time
  have chance := range.chance
  simp only [header, Prod.mk.injEq] at read
  have chanceBack : chanceAfter st start = st.precipChanceDelay ↔
      if st.precipChanceDelay = -1 then start.precipChanceDelay = -1
        else Survives st.precipChanceDelay := by
    unfold chanceAfter
    split_ifs with marker
    · rw [marker]
    · exact reread_eq chance.1 chance.2
  constructor
  · intro restored
    refine ⟨?_, ?_, ?_⟩
    · rw [← reread_eq (by omega) time.2, ← read.2.2.1]
      exact restored.time
    · rw [← chanceBack, ← read.2.2.2]
      exact restored.chance
    · intro zone listed
      have bounds := range.runtimes zone listed
      rw [← reread_eq (by omega) bounds.2, ← runtimes zone listed]
      exact restored.runtimes zone listed
  · rintro ⟨timeFits, chanceFits, runtimesFit⟩
    constructor
    · exact read.1
    · exact read.2.1
    · rw [read.2.2.1, (reread_eq (by omega) time.2).mpr timeFits]
    · rw [read.2.2.2, chanceBack.mpr chanceFits]
    · intro zone listed
      have bounds := range.runtimes zone listed
      rw [runtimes zone listed, (reread_eq (by omega) bounds.2).mpr (runtimesFit zone listed)]

section Bench

def benchSaved (time chance : Int) : SprinklerdState :=
  { benchState with delay24h := true, delay24hTime := time, precipChanceDelay := chance }

def benchFound (st : SprinklerdState) : SprinklerdState :=
  { benchState with disk := (writeCache (benchCfg benchWiring) st).disk }

theorem bench_in_range {time chance : Int} (lower : 0 ≤ time) (upper : time < 2 ^ 31)
    (small : -2 ^ 31 ≤ chance ∧ chance < 2 ^ 31) :
    CacheRange (benchCfg benchWiring) (benchSaved time chance) :=
  { time := ⟨lower, upper⟩
    chance := small
    runtimes := fun _ _ => by norm_num [benchSaved, benchState] }

/-- 1699999744 is a multiple of 128, and is restored. -/
theorem cache_round_trips_rounded_time :
    Restored (benchCfg benchWiring) (benchSaved 1699999744 40)
      (readCache (benchCfg benchWiring) (benchFound (benchSaved 1699999744 40))) := by
  have range : CacheRange (benchCfg benchWiring) (benchSaved 1699999744 40) :=
    bench_in_range (by decide) (by decide) (by decide)
  apply (@cache_round_trips _ _ (benchFound (benchSaved 1699999744 40)) range rfl rfl).mpr
  refine ⟨?_, ?_, ?_⟩
  · exact Or.inl ⟨13281248, 7, by decide, by decide⟩
  · exact Or.inl (exact_of_small (by decide))
  · intro zone _
    have small : |(10 : Int)| < 2 ^ 24 := by decide
    exact Or.inl (exact_of_small small)

/-- A delay that ends one second later, and a threshold of -1. -/
theorem cache_loses_time_and_threshold :
    (CacheRange (benchCfg benchWiring) (benchSaved 1699999745 40) ∧
      ¬ Restored (benchCfg benchWiring) (benchSaved 1699999745 40)
        (readCache (benchCfg benchWiring) (benchFound (benchSaved 1699999745 40)))) ∧
    (CacheRange (benchCfg benchWiring) (benchSaved 1699999744 (-1)) ∧
      ¬ Restored (benchCfg benchWiring) (benchSaved 1699999744 (-1))
        (readCache (benchCfg benchWiring) (benchFound (benchSaved 1699999744 (-1))))) := by
  refine ⟨⟨bench_in_range (by decide) (by decide) (by decide), ?_⟩,
    bench_in_range (by decide) (by decide) (by decide), ?_⟩
  · intro restored
    exact absurd restored.time (by decide +kernel)
  · intro restored
    exact absurd restored.chance (by decide +kernel)

end Bench

end SprinklerD.CacheRoundTrip
