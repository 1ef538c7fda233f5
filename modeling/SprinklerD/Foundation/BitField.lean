import Mathlib.Data.Nat.Bitwise
import Mathlib.Logic.Function.Basic

/-!
# Bit fields and packed memory

A word holds fields of some bits each. Writing one field masks its bits out and puts the
value in their place; it leaves every field that lies apart from it alone. A memory of such
words, with the same number of fields in each, is an array of small numbers: writing an
element of the array is a functional update, whatever word and shift it comes to.
-/

namespace Foundation.BitField

set_option autoImplicit false

variable {w : Nat}

/-- The lowest `width` bits of a word. -/
def ones (w width : Nat) : BitVec w := BitVec.ofNat w (2 ^ width - 1)

def readField (width shift : Nat) (word : BitVec w) : BitVec w :=
  (word >>> shift) &&& ones w width

def writeField (width shift : Nat) (word value : BitVec w) : BitVec w :=
  (word &&& ~~~(ones w width <<< shift)) ||| (value <<< shift)

section Bits

theorem bit_ones (width i : Nat) :
    (ones w width).getLsbD i = (decide (i < w) && decide (i < width)) := by
  rw [ones, BitVec.getLsbD_ofNat, Nat.testBit_two_pow_sub_one]

theorem bit_read (width shift i : Nat) (word : BitVec w) :
    (readField width shift word).getLsbD i =
      (decide (i < width) && word.getLsbD (shift + i)) := by
  rw [readField, BitVec.getLsbD_and, BitVec.getLsbD_ushiftRight, bit_ones]
  by_cases inside : i < w
  · simp [inside, Bool.and_comm]
  · have beyond := BitVec.getLsbD_of_ge word (shift + i) (by omega)
    simp [beyond]

theorem no_bit_above {width : Nat} {value : BitVec w} (small : value.toNat < 2 ^ width)
    {i : Nat} (above : width ≤ i) : value.getLsbD i = false := by
  rw [BitVec.getLsbD]
  apply Nat.testBit_lt_two_pow
  exact lt_of_lt_of_le small (Nat.pow_le_pow_right (by decide) above)

/-- The bits of the field are those of the value, and the others stay. -/
theorem bit_write {width shift i : Nat} (word : BitVec w) {value : BitVec w}
    (small : value.toNat < 2 ^ width) (inside : i < w) :
    (writeField width shift word value).getLsbD i =
      if shift ≤ i ∧ i < shift + width then value.getLsbD (i - shift) else word.getLsbD i := by
  simp only [writeField, BitVec.getLsbD_or, BitVec.getLsbD_and, BitVec.getLsbD_not,
    BitVec.getLsbD_shiftLeft, bit_ones, inside, decide_true, Bool.true_and]
  by_cases below : i < shift
  · have outside : ¬ (shift ≤ i ∧ i < shift + width) := by omega
    simp [below, outside]
  · have within : i - shift < w := by omega
    by_cases field : i - shift < width
    · have here : shift ≤ i ∧ i < shift + width := by omega
      simp [below, within, field, here]
    · have outside : ¬ (shift ≤ i ∧ i < shift + width) := by omega
      have above : width ≤ i - shift := by omega
      simp [below, field, outside, no_bit_above small above]

end Bits

section Fields

theorem read_written_field {width shift : Nat} (word : BitVec w) {value : BitVec w}
    (small : value.toNat < 2 ^ width) (fits : shift + width ≤ w) :
    readField width shift (writeField width shift word value) = value := by
  apply BitVec.eq_of_getLsbD_eq
  intro i inside
  rw [bit_read]
  by_cases field : i < width
  · have here : shift ≤ shift + i ∧ shift + i < shift + width := by omega
    rw [bit_write word small (by omega), if_pos here, Nat.add_sub_cancel_left]
    simp [field]
  · simp [field, no_bit_above small (Nat.le_of_not_lt field)]

theorem read_other_field {width shift other : Nat} (word : BitVec w) {value : BitVec w}
    (small : value.toNat < 2 ^ width) (apart : shift + width ≤ other ∨ other + width ≤ shift) :
    readField width other (writeField width shift word value) = readField width other word := by
  apply BitVec.eq_of_getLsbD_eq
  intro i _
  rw [bit_read, bit_read]
  by_cases field : i < width
  · by_cases inside : other + i < w
    · have outside : ¬ (shift ≤ other + i ∧ other + i < shift + width) := by omega
      rw [bit_write word small inside, if_neg outside]
    · rw [BitVec.getLsbD_of_ge _ _ (by omega), BitVec.getLsbD_of_ge _ _ (by omega)]
  · simp [field]

end Fields

section Packed

/-- Element `index` of the array that a memory with `count` fields in each word packs. -/
def readPacked (count width : Nat) (memory : Nat → BitVec w) (index : Nat) : BitVec w :=
  readField width (index % count * width) (memory (index / count))

def writePacked (count width : Nat) (memory : Nat → BitVec w) (index : Nat) (value : BitVec w) :
    Nat → BitVec w :=
  Function.update memory (index / count)
    (writeField width (index % count * width) (memory (index / count)) value)

variable {count width : Nat}

theorem field_fits (positive : 0 < count) (fits : count * width ≤ w) (index : Nat) :
    index % count * width + width ≤ w := by
  have place := Nat.mod_lt index positive
  calc index % count * width + width = (index % count + 1) * width :=
        (Nat.succ_mul _ _).symm
    _ ≤ count * width := Nat.mul_le_mul_right width place
    _ ≤ w := fits

theorem places_apart {place other : Nat} (different : place ≠ other) :
    place * width + width ≤ other * width ∨ other * width + width ≤ place * width := by
  rcases Nat.lt_or_gt_of_ne different with before | behind
  · left
    have step := Nat.mul_le_mul_right width (Nat.succ_le_of_lt before)
    rwa [Nat.succ_mul] at step
  · right
    have step := Nat.mul_le_mul_right width (Nat.succ_le_of_lt behind)
    rwa [Nat.succ_mul] at step

/-- A packed memory refines the array. -/
theorem read_packed_write (positive : 0 < count) (fits : count * width ≤ w)
    (memory : Nat → BitVec w) (index : Nat) {value : BitVec w} (small : value.toNat < 2 ^ width) :
    readPacked count width (writePacked count width memory index value) =
      Function.update (readPacked count width memory) index value := by
  funext other
  by_cases same : other = index
  · subst same
    rw [Function.update_self, readPacked, writePacked, Function.update_self]
    exact read_written_field _ small (field_fits positive fits other)
  · rw [Function.update_of_ne same, readPacked, writePacked]
    by_cases word : other / count = index / count
    · have place : index % count ≠ other % count := by
        intro equal
        apply same
        rw [← Nat.div_add_mod other count, ← Nat.div_add_mod index count, word, equal]
      rw [word, Function.update_self, read_other_field _ small (places_apart place), readPacked,
        word]
    · rw [Function.update_of_ne word, readPacked]

end Packed

end Foundation.BitField
