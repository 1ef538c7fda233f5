import SprinklerD.GpioPi
import SprinklerD.Foundation.BitField

/-!
# The registers of the pins

`GPIO_Pi.c` on the memory that `gpioSetup` maps. Three bits in the first words say what a pin
does, ten pins to a word; single bits in later words set, clear and show its level. The
functions take unsigned numbers. How the level of a pin follows a set bit is up to the
hardware, and no function here reads it back from the memory it wrote.
-/

namespace SprinklerD.GpioRegisters

open Foundation.BitField
open SprinklerD.GpioPi ( validGPIO gpioOk gpioErrBadPin)

set_option autoImplicit false

def gpioNotIoMode : Int := -6

def gpioErrNotSetup : Int := -2

def input : BitVec 32 := 0#32

def output : BitVec 32 := 1#32

def ioAlt3 : BitVec 32 := 7#32

def low : BitVec 32 := 0#32

def gpset0 : Nat := 7

def gpclr0 : Nat := 10

def gplev0 : Nat := 13

/-- `_gpioReg` and `_ever`; `GPIOrunning()` is the latter. -/
structure Registers where
  gpioReg : Nat → BitVec 32
  ever : Bool

/-- What `gpioSetup` meets: whether `/dev/mem` and `/dev/gpiomem` open, and the words that
`mmap` gives. Where they lie depends on the model of the board. -/
structure Board where
  memOpens : Bool
  gpiomemOpens : Bool
  mapped : Nat → BitVec 32

/-- An `int` where an `unsigned int` is expected. -/
def unsigned (value : Int) : BitVec 32 := BitVec.ofInt 32 value

def gpioSetup (board : Board) (regs : Registers) : Registers × Bool :=
  if board.memOpens = false ∧ board.gpiomemOpens = false then (regs, false)
  else ({ gpioReg := board.mapped, ever := true }, true)

def pinMode (gpio mode : BitVec 32) (regs : Registers) : Registers × Int :=
  if validGPIO gpio.toNat = false then (regs, gpioErrBadPin)
  else if regs.ever = false then (regs, gpioErrNotSetup)
  else if mode < input ∨ ioAlt3 < mode then (regs, gpioNotIoMode)
  else
    let reg := gpio.toNat / 10
    let shift := gpio.toNat % 10 * 3
    let word := (regs.gpioReg reg &&& ~~~(7#32 <<< shift)) ||| (mode <<< shift)
    ({ regs with gpioReg := Function.update regs.gpioReg reg word }, gpioOk)

def getPinMode (gpio : BitVec 32) (regs : Registers) : Int :=
  if validGPIO gpio.toNat = false then gpioErrBadPin
  else if regs.ever = false then gpioErrNotSetup
  else
    let reg := gpio.toNat / 10
    let shift := gpio.toNat % 10 * 3
    ((regs.gpioReg reg >>> shift) &&& 7#32).toNat

def digitalRead (gpio : BitVec 32) (regs : Registers) : Int :=
  if validGPIO gpio.toNat = false then gpioErrBadPin
  else if regs.ever = false then gpioErrNotSetup
  else
    let bank := (gpio >>> 5).toNat
    let bit := 1#32 <<< (gpio &&& 0x1F#32).toNat
    if (regs.gpioReg (gplev0 + bank) &&& bit) ≠ low then 1 else 0

def digitalWrite (gpio level : BitVec 32) (regs : Registers) : Registers × Int :=
  if validGPIO gpio.toNat = false then (regs, gpioErrBadPin)
  else if regs.ever = false then (regs, gpioErrNotSetup)
  else
    let bank := (gpio >>> 5).toNat
    let bit := 1#32 <<< (gpio &&& 0x1F#32).toNat
    let reg := if level = low then gpclr0 + bank else gpset0 + bank
    ({ regs with gpioReg := Function.update regs.gpioReg reg bit }, gpioOk)

theorem gpio_setup_ever (board : Board) (regs : Registers)
    (succeeds : (gpioSetup board regs).2 = true) : (gpioSetup board regs).1.ever = true := by
  unfold gpioSetup at succeeds ⊢
  split_ifs at succeeds ⊢
  rfl

theorem valid_gpio_bounds {pin : Int} : validGPIO pin = true ↔ 2 ≤ pin ∧ pin ≤ 27 := by
  rw [ validGPIO, decide_eq_true_eq, GpioPi.gpioMax, GpioPi.gpioMin]
  exact and_comm

/-- A pin that is valid as an `int` is the same number unsigned. -/
theorem unsigned_valid {pin : Int} (valid : validGPIO pin = true) :
    validGPIO (unsigned pin).toNat = true := by
  have bounds := valid_gpio_bounds.mp valid
  have same : ((unsigned pin).toNat : Int) = pin := by
    rw [unsigned, BitVec.toNat_ofInt]
    omega
  rw [same]
  exact valid

section Modes

def modes (regs : Registers) (pin : Nat) : BitVec 32 := readPacked 10 3 regs.gpioReg pin

variable {gpio mode : BitVec 32} {regs : Registers}

theorem pin_mode_allowed : ¬ (mode < input ∨ ioAlt3 < mode) ↔ mode.toNat < 2 ^ 3 := by
  simp only [input, ioAlt3, BitVec.lt_def, BitVec.toNat_ofNat]
  omega

theorem pin_mode_accepted (valid : validGPIO gpio.toNat = true) (running : regs.ever = true)
    (small : mode.toNat < 2 ^ 3) :
    pinMode gpio mode regs =
      ({ regs with gpioReg := writePacked 10 3 regs.gpioReg gpio.toNat mode }, gpioOk) := by
  unfold pinMode
  rw [if_neg (by simp [valid]), if_neg (by simp [running]), if_neg (pin_mode_allowed.mpr small)]
  rfl

theorem pin_mode_ever (gpio mode : BitVec 32) (regs : Registers) :
    (pinMode gpio mode regs).1.ever = regs.ever := by
  unfold pinMode
  split_ifs <;> rfl

theorem get_pin_mode_eq (valid : validGPIO gpio.toNat = true) (running : regs.ever = true) :
    getPinMode gpio regs = (modes regs gpio.toNat).toNat := by
  unfold getPinMode
  rw [if_neg (by simp [valid]), if_neg (by simp [running])]
  rfl

theorem modes_pin_mode (valid : validGPIO gpio.toNat = true) (running : regs.ever = true)
    (small : mode.toNat < 2 ^ 3) :
    modes (pinMode gpio mode regs).1 = Function.update (modes regs) gpio.toNat mode := by
  rw [pin_mode_accepted valid running small]
  exact read_packed_write (by decide) (by decide) regs.gpioReg gpio.toNat small

theorem get_pin_mode_set (valid : validGPIO gpio.toNat = true) (running : regs.ever = true)
    (small : mode.toNat < 2 ^ 3) : getPinMode gpio (pinMode gpio mode regs).1 = mode.toNat := by
  have still := (pin_mode_ever gpio mode regs).trans running
  rw [get_pin_mode_eq valid still, modes_pin_mode valid running small, Function.update_self]

/-- Another pin keeps its mode, also when the call is refused. -/
theorem get_pin_mode_other {other : BitVec 32} (different : other ≠ gpio) :
    getPinMode other (pinMode gpio mode regs).1 = getPinMode other regs := by
  by_cases accepted : validGPIO gpio.toNat = true ∧ regs.ever = true ∧ mode.toNat < 2 ^ 3
  · obtain ⟨valid, running, small⟩ := accepted
    have still := (pin_mode_ever gpio mode regs).trans running
    cases validOther : validGPIO other.toNat with
    | false => simp [getPinMode, validOther]
    | true =>
        have apart : other.toNat ≠ gpio.toNat := fun same => different (BitVec.eq_of_toNat_eq same)
        rw [get_pin_mode_eq validOther still, get_pin_mode_eq validOther running,
          modes_pin_mode valid running small, Function.update_of_ne apart]
  · have refused : (pinMode gpio mode regs).1 = regs := by
      unfold pinMode
      split_ifs with invalid stopped outside
      · rfl
      · rfl
      · rfl
      · exfalso
        apply accepted
        exact ⟨by simpa using invalid, by simpa using stopped, pin_mode_allowed.mp outside⟩
    rw [refused]

/-- The words that set and clear levels lie behind those of the modes. -/
theorem digital_write_modes (gpio level : BitVec 32) (regs : Registers) {reg : Nat}
    (first : reg < gpset0) : (digitalWrite gpio level regs).1.gpioReg reg = regs.gpioReg reg := by
  unfold digitalWrite
  split_ifs
  · rfl
  · rfl
  · apply Function.update_of_ne
    simp only [gpset0, gpclr0] at first ⊢
    omega
  · apply Function.update_of_ne
    simp only [gpset0] at first ⊢
    omega

theorem digital_write_ever (gpio level : BitVec 32) (regs : Registers) :
    (digitalWrite gpio level regs).1.ever = regs.ever := by
  unfold digitalWrite
  split_ifs <;> rfl

theorem get_pin_mode_write (gpio level other : BitVec 32) (regs : Registers) :
    getPinMode other (digitalWrite gpio level regs).1 = getPinMode other regs := by
  unfold getPinMode
  rw [digital_write_ever]
  cases valid : validGPIO other.toNat with
  | false => rfl
  | true =>
      have first : other.toNat / 10 < gpset0 := by
        have bounds := valid_gpio_bounds.mp valid
        simp only [gpset0]
        omega
      simp only [digital_write_modes gpio level regs first]

end Modes

end SprinklerD.GpioRegisters
