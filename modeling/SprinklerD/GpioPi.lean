import SprinklerD.Config
import Mathlib.Logic.Function.Basic

/-!
# Reading and writing pins

`digitalRead` and `digitalWrite` of `GPIO_Pi.c`, after `gpioSetup` has succeeded:
`main_loop` exits otherwise, before it drives any zone. A pin number is converted
to unsigned on the way in, so a negative one is out of range like a large one.
-/

namespace SprinklerD.GpioPi

open SprinklerD.Config

set_option autoImplicit false

def gpioMin : Int := 2

def gpioMax : Int := 27

def validGPIO (pin : Int) : Bool := pin ≤ gpioMax ∧ gpioMin ≤ pin

def gpioOk : Int := 0

def gpioErrBadPin : Int := -1

def gpioErrIo : Int := -3

def digitalRead (gpio : Gpio) (pin : Int) : Int :=
  if validGPIO pin then (if gpio.level pin then 1 else 0) else gpioErrBadPin

/-- Any level but `LOW` drives the pin high. A refused write reaches no register. -/
def digitalWrite (gpio : Gpio) (pin level : Int) : Gpio × Int :=
  if validGPIO pin then
    let high := decide (level ≠ 0)
    ({ level := Function.update gpio.level pin high, writes := (pin, high) :: gpio.writes },
      gpioOk)
  else (gpio, gpioErrBadPin)

theorem digital_write_ok (gpio : Gpio) (pin level : Int) :
    (digitalWrite gpio pin level).2 = gpioOk ↔ validGPIO pin = true := by
  unfold digitalWrite
  split_ifs with valid
  · simp [valid]
  · simp [valid, gpioErrBadPin, gpioOk]

theorem digital_write_refused (gpio : Gpio) {pin : Int} (level : Int)
    (invalid : validGPIO pin = false) : (digitalWrite gpio pin level).1 = gpio := by
  simp [digitalWrite, invalid]

theorem digital_read_invalid (gpio : Gpio) {pin : Int} (invalid : validGPIO pin = false) :
    digitalRead gpio pin = -1 := by
  simp [digitalRead, invalid, gpioErrBadPin]

/-- Within the valid pins a read returns the last level written. -/
theorem digital_read_written (gpio : Gpio) {pin : Int} (level : Int)
    (valid : validGPIO pin = true) :
    digitalRead (digitalWrite gpio pin level).1 pin = if level ≠ 0 then 1 else 0 := by
  simp [digitalRead, digitalWrite, valid]

theorem digital_read_other (gpio : Gpio) {pin other : Int} (level : Int)
    (different : validGPIO other = true → other ≠ pin) :
    digitalRead (digitalWrite gpio pin level).1 other = digitalRead gpio other := by
  unfold digitalRead digitalWrite
  split_ifs with validOther validPin <;> simp_all [Function.update_of_ne]

end SprinklerD.GpioPi
