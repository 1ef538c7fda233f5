import SprinklerD.CacheBounds
import SprinklerD.JsonMessages
import SprinklerD.Foundation.FloatScan

/-!
# Reading the text of the cache file

The loop of `read_cache` ends only at `EOF`. Where `fscanf` answers 0 the loop goes round with
the number it read before, and if nothing was taken from the file it does so for ever.
-/

namespace SprinklerD.CacheScan

open Foundation.MachineInt Foundation.Decimal Foundation.CString Foundation.SinglePrecision
open Foundation.FloatScan
open SprinklerD.Config SprinklerD.SdCron SprinklerD.CacheFile SprinklerD.CacheBounds
open SprinklerD.JsonMessages SprinklerD.Operations

set_option autoImplicit false

variable (cfg : SprinklerdCfg) (strtof : Text → CFloat)

/-- The loop, with the variable `f`; nothing is assigned to it before the first number.
`none` where it does not end within the fuel. -/
def readLoop : Nat → Text → CFloat → CacheReader → Option CacheReader
  | 0, _, _, _ => none
  | fuel + 1, input, f, reader =>
      match fscanf input with
      | .eof => some reader
      | .refused rest => readLoop fuel rest f (readFloat cfg reader f)
      | .number text rest =>
          readLoop fuel rest (strtof text) (readFloat cfg reader (strtof text))

/-- `read_cache` returns, for a file with this content. -/
def ReadEnds (content : Text) (f : CFloat) (st : SprinklerdState) : Prop :=
  ∃ fuel reader, readLoop cfg strtof fuel content f (opened st) = some reader

variable {cfg strtof}

theorem loop_ends {content : Text} (readable : Readable content) (f : CFloat)
    (reader : CacheReader) :
    ∃ fuel result, readLoop cfg strtof fuel content f reader = some result := by
  induction readable generalizing f reader with
  | blank nothing =>
      refine ⟨1, reader, ?_⟩
      rw [readLoop, fscanf, nothing]
  | @item input char rest found begins later ih =>
      cases ends : isFloat (takeItem nextFloat .start (char :: rest)).state with
      | true =>
          obtain ⟨fuel, result, read⟩ := ih
            (strtof (takeItem nextFloat .start (char :: rest)).text)
            (readFloat cfg reader (strtof (takeItem nextFloat .start (char :: rest)).text))
          refine ⟨fuel + 1, result, ?_⟩
          rw [readLoop, fscanf, found]
          dsimp only
          rw [if_pos ends]
          exact read
      | false =>
          obtain ⟨fuel, result, read⟩ := ih f (readFloat cfg reader f)
          refine ⟨fuel + 1, result, ?_⟩
          rw [readLoop, fscanf, found]
          dsimp only
          rw [if_neg (Bool.eq_false_iff.mp ends)]
          exact read

theorem readable_of_end {fuel : Nat} {content : Text} {f : CFloat} {reader result : CacheReader}
    (read : readLoop cfg strtof fuel content f reader = some result) : Readable content := by
  induction fuel generalizing content f reader with
  | zero => cases read
  | succ fuel ih =>
      rw [readLoop, fscanf] at read
      cases found : content.dropWhile isSpace with
      | nil => exact .blank found
      | cons char rest =>
          rw [found] at read
          dsimp only at read
          cases begins : nextFloat .start char with
          | some later =>
              refine .item found (by rw [begins]; rfl) ?_
              split_ifs at read
              · exact ih read
              · exact ih read
          | none =>
              -- Nothing is taken, and the next round begins at the same character.
              rw [take_item_stops begins] at read
              exact absurd (ih read) (not_readable_again (found_no_space found) begins)

/-- `read_cache` returns, if and only if the file has only blanks and what begins like a
number. -/
theorem read_ends_iff (cfg : SprinklerdCfg) (strtof : Text → CFloat) (content : Text) (f : CFloat)
    (st : SprinklerdState) : ReadEnds cfg strtof content f st ↔ Readable content := by
  constructor
  · rintro ⟨fuel, reader, read⟩
    exact readable_of_end read
  · intro readable
    exact loop_ends readable f (opened st)

section Written

/-- What `write_cache` prints for a number. -/
def printNumber : CacheNumber → Text
  | .whole value => printInt value
  | .tenths value => printFixed 1 value

def cacheText (numbers : List CacheNumber) : Text :=
  numbers.flatMap fun number => printNumber number ++ ['\n']

theorem cache_text_cons (number : CacheNumber) (rest : List CacheNumber) :
    cacheText (number :: rest) = printNumber number ++ '\n' :: cacheText rest := by
  rw [cacheText, List.flatMap_cons, List.append_assoc]
  rfl

theorem fixed_digits_fed (negative : Bool) (magnitude : ℚ) :
    feed nextFloat .start (minusSign negative ++ fixedDigits 1 magnitude) = some .fraction := by
  have digits : ∀ char ∈ List.replicate
      (1 - (printNat ((roundEven (magnitude * 10 ^ 1)).toNat % 10 ^ 1)).length) '0' ++
        printNat ((roundEven (magnitude * 10 ^ 1)).toNat % 10 ^ 1), char.isDigit = true := by
    intro char member
    rcases List.mem_append.mp member with member | member
    · rw [List.eq_of_mem_replicate member]
      decide
    · exact is_digit_of_mem_print_nat member
  have front : ∃ later, feed nextFloat .start (minusSign negative ++
      printNat ((roundEven (magnitude * 10 ^ 1)).toNat / 10 ^ 1)) = some later ∧
        (later = .zero ∨ later = .whole) := by
    unfold minusSign
    split_ifs
    · exact feed_nat _ (Or.inr rfl)
    · exact feed_nat _ (Or.inl rfl)
  obtain ⟨later, fed, inside⟩ := front
  rw [fixedDigits, ← List.append_assoc, feed_append, fed]
  exact feed_point digits inside

theorem fixed_fed (value : CFloat) : ∃ state,
    feed nextFloat .start (printFixed 1 value) = some state ∧ isFloat state = true ∧
      nextFloat state '\n' = none := by
  cases value with
  | nan negative =>
      refine ⟨.nan [], ?_, rfl, by decide⟩
      cases negative <;> decide +kernel
  | negInf => exact ⟨.inf [], by decide +kernel, rfl, by decide⟩
  | negZero => exact ⟨.fraction, fixed_digits_fed true 0, rfl, by decide⟩
  | finite value => exact ⟨.fraction, fixed_digits_fed _ |value|, rfl, by decide⟩
  | posInf => exact ⟨.inf [], by decide +kernel, rfl, by decide⟩

theorem number_fed (number : CacheNumber) : ∃ state,
    feed nextFloat .start (printNumber number) = some state ∧ isFloat state = true ∧
      nextFloat state '\n' = none := by
  cases number with
  | tenths value => exact fixed_fed value
  | whole value =>
      obtain ⟨state, fed, inside⟩ := feed_int value
      refine ⟨state, fed, ?_⟩
      rcases inside with rfl | rfl <;> decide

/-- A file that was cut off, at whatever character, does not stop the daemon. -/
theorem truncated_readable {numbers : List CacheNumber} {front back : Text}
    (cut : cacheText numbers = front ++ back) : Readable front := by
  induction numbers generalizing front with
  | nil =>
      have nothing : front = [] := (List.append_eq_nil_iff.mp cut.symm).1
      exact .blank (by rw [nothing]; rfl)
  | cons number rest ih =>
      obtain ⟨state, fed, -, stops⟩ := number_fed number
      rw [cache_text_cons] at cut
      rcases List.append_eq_append_iff.mp cut with ⟨later, parts, tail⟩ | ⟨later, parts, tail⟩
      · rw [parts]
        cases later with
        | nil =>
            refine readable_fed fed (.blank rfl) rfl
        | cons char later =>
            rw [List.cons_append, List.cons_eq_cons] at tail
            obtain ⟨rfl, tail⟩ := tail
            refine readable_fed fed (readable_space (by decide) (ih tail)) ?_
            rw [take_item_stops stops]
      · rw [parts] at fed
        obtain ⟨between, fed⟩ := feed_front fed
        have readable : Readable (front ++ []) := readable_fed fed (.blank rfl) rfl
        rw [List.append_nil] at readable
        exact readable

theorem written_readable (numbers : List CacheNumber) : Readable (cacheText numbers) :=
  truncated_readable (List.append_nil _).symm

theorem loop_space {fuel : Nat} {char : Char} (space : isSpace char = true) (input : Text)
    (f : CFloat) (reader : CacheReader) :
    readLoop cfg strtof fuel (char :: input) f reader =
      readLoop cfg strtof fuel input f reader := by
  cases fuel with
  | zero => rfl
  | succ fuel => rw [readLoop, readLoop, fscanf_space space]

theorem loop_written {numbers : List CacheNumber}
    (values : ∀ number ∈ numbers, strtof (printNumber number) = scanFloat number)
    (f : CFloat) (reader : CacheReader) :
    readLoop cfg strtof (numbers.length + 1) (cacheText numbers) f reader =
      some (numbers.foldl (readNumber cfg) reader) := by
  induction numbers generalizing f reader with
  | nil => rfl
  | cons number rest ih =>
      obtain ⟨state, fed, float, stops⟩ := number_fed number
      have some' : printNumber number ≠ [] := by
        intro nothing
        rw [nothing] at fed
        cases fed
        cases float
      rw [cache_text_cons, List.length_cons, readLoop, fscanf_fed some' fed float stops]
      dsimp only
      rw [loop_space (by decide), values number List.mem_cons_self,
        ih fun other member => values other (List.mem_cons_of_mem number member)]
      rfl

theorem read_written {st : SprinklerdState} {numbers : List CacheNumber}
    (file : st.disk.cacheFile = some numbers)
    (values : ∀ number ∈ numbers, strtof (printNumber number) = scanFloat number) (f : CFloat) :
    ∃ fuel reader, readLoop cfg strtof fuel (cacheText numbers) f (opened st) = some reader ∧
      reader.st = readCache cfg st := by
  refine ⟨_, _, loop_written values f (opened st), ?_⟩
  rw [readCache, file]
  rfl

end Written

/-- A cache file with a word in it. -/
theorem read_hangs : ¬ ∀ cfg strtof content f st, ReadEnds cfg strtof content f st := by
  intro ends
  have readable := (read_ends_iff _ _ _ _ _).mp
    (ends (benchCfg benchWiring) (fun _ => .nan false) ['o', 'n', '\n'] (.nan false) benchState)
  exact not_readable_again (by decide) (by decide) readable

end SprinklerD.CacheScan
