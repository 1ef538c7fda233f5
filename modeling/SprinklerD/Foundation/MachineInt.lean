import Mathlib.Algebra.Order.Ring.Int
import Mathlib.Algebra.Order.Ring.Unbundled.Rat
import Mathlib.Tactic.Linarith

/-!
# Machine integers and floating-point values

Fixed-width integers are `Int` values kept in range by an explicit wrap. A
floating-point value is the rational it denotes, an infinity or not-a-number;
comparisons follow the IEEE rules, so every comparison with not-a-number fails.
-/

namespace Foundation.MachineInt

set_option autoImplicit false

/-- Reduction modulo `2 ^ width` into the two's-complement range. -/
def wrapSigned (width : Nat) (value : Int) : Int :=
  (value + 2 ^ (width - 1)) % 2 ^ width - 2 ^ (width - 1)

def wrapUnsigned (width : Nat) (value : Int) : Int := value % 2 ^ width

def wrap32 (value : Int) : Int := wrapSigned 32 value

/-- Conversion of an integral double to a 32-bit int. Values out of range stop
at the end of the range they leave by. -/
def saturate32 (value : Int) : Int := max (-2 ^ 31) (min (2 ^ 31 - 1) value)

theorem wrap_signed_of_fits {width : Nat} {value : Int} (positive : 0 < width)
    (lower : -2 ^ (width - 1) ≤ value) (upper : value < 2 ^ (width - 1)) :
    wrapSigned width value = value := by
  have double : (2 : Int) ^ width = 2 * 2 ^ (width - 1) := by
    obtain ⟨below, rfl⟩ := Nat.exists_eq_succ_of_ne_zero positive.ne'
    simp [pow_succ, mul_comm]
  have shifted : 0 ≤ value + 2 ^ (width - 1) := by linarith
  have below : value + 2 ^ (width - 1) < 2 ^ width := by linarith
  rw [wrapSigned, Int.emod_eq_of_lt shifted below]
  exact Int.add_sub_cancel _ _

theorem wrap32_of_fits {value : Int} (lower : -2 ^ 31 ≤ value) (upper : value < 2 ^ 31) :
    wrap32 value = value :=
  wrap_signed_of_fits (by decide) lower upper

theorem wrap32_range (value : Int) : -2 ^ 31 ≤ wrap32 value ∧ wrap32 value < 2 ^ 31 := by
  unfold wrap32 wrapSigned
  omega

/-- The sign test of a converted double is the sign test of the double. -/
theorem saturate32_nonpos (value : Int) : saturate32 value ≤ 0 ↔ value ≤ 0 := by
  unfold saturate32
  omega

/-- Zero and not-a-number have a sign of their own, which no comparison sees. -/
inductive CFloat where
  | nan (negative : Bool)
  | negInf
  | negZero
  | finite (value : ℚ)
  | posInf
deriving DecidableEq

namespace CFloat

def zero : CFloat := .finite 0

def signed (negative : Bool) (magnitude : ℚ) : CFloat :=
  if negative then (if magnitude = 0 then .negZero else .finite (-magnitude))
  else .finite magnitude

def number : CFloat → Option ℚ
  | .negZero => some 0
  | .finite value => some value
  | _ => none

def le : CFloat → CFloat → Bool
  | .nan _, _ => false
  | _, .nan _ => false
  | .negInf, _ => true
  | _, .posInf => true
  | left, right =>
      match left.number, right.number with
      | some less, some more => less ≤ more
      | _, _ => false

def lt : CFloat → CFloat → Bool
  | .nan _, _ => false
  | _, .nan _ => false
  | left, right => !right.le left

/-- The `==` of C. -/
def same (left right : CFloat) : Bool := left.le right && right.le left

end CFloat

end Foundation.MachineInt
