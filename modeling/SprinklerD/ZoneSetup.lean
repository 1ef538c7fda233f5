import SprinklerD.GpioRegisters
import SprinklerD.Operations

/-!
# Setting up the zones

The first loop of `main_loop`. `readCfg` makes every zone an output and lets it start at
the level that is not its on state. The pins of all zones share three registers, so what
matters is that giving one pin a mode is no business of any other pin.
-/

namespace SprinklerD.ZoneSetup

open SprinklerD.Config SprinklerD.GpioRegisters SprinklerD.Operations
open SprinklerD.GpioPi ( validGPIO)

set_option autoImplicit false

variable (cfg : SprinklerdCfg)

section Source

/-- `readCfg` sets it to `!on_state`. -/
def startupState (zone : Int) : Int := if (cfg.zonecfg zone).onState = 0 then 1 else 0

/-- `readCfg` sets it for every zone. -/
def inputOutput : BitVec 32 := output

def setupZone (regs : Registers) (zone : Int) : Registers :=
  let pin := unsigned (cfg.zonecfg zone).pin
  let moded := (pinMode pin inputOutput regs).1
  if startupState cfg zone ≠ -1 then
    (digitalWrite pin (unsigned (startupState cfg zone)) moded).1
  else moded

/-- The zones one after the other. `main_loop` takes them in the order of the table. -/
def setupZones (order : List Int) (regs : Registers) : Registers :=
  order.foldl (setupZone cfg) regs

end Source

section Outputs

variable {cfg} {regs : Registers}

theorem setup_zone_ever (regs : Registers) (zone : Int) :
    (setupZone cfg regs zone).ever = regs.ever := by
  unfold setupZone
  split_ifs
  · rw [digital_write_ever, pin_mode_ever]
  · exact pin_mode_ever _ _ _

theorem setup_zones_ever (order : List Int) (regs : Registers) :
    (setupZones cfg order regs).ever = regs.ever := by
  induction order generalizing regs with
  | nil => rfl
  | cons zone rest ih => exact (ih _).trans (setup_zone_ever regs zone)

/-- Of the two calls only the first one counts for the modes. -/
theorem setup_zone_modes (regs : Registers) (zone : Int) (gpio : BitVec 32) :
    getPinMode gpio (setupZone cfg regs zone) =
      getPinMode gpio (pinMode (unsigned (cfg.zonecfg zone).pin) output regs).1 := by
  unfold setupZone
  split_ifs
  · exact get_pin_mode_write _ _ _ _
  · rfl

theorem setup_zone_output (running : regs.ever = true) {zone : Int}
    (valid : validGPIO (cfg.zonecfg zone).pin = true) :
    getPinMode (unsigned (cfg.zonecfg zone).pin) (setupZone cfg regs zone) = output.toNat := by
  rw [setup_zone_modes]
  exact get_pin_mode_set (unsigned_valid valid) running (by decide)

/-- A pin that is an output stays one, whichever zone is set up next. -/
theorem setup_zone_keeps (running : regs.ever = true) {gpio : BitVec 32}
    (out : getPinMode gpio regs = output.toNat) (zone : Int) :
    getPinMode gpio (setupZone cfg regs zone) = output.toNat := by
  rw [setup_zone_modes]
  by_cases same : gpio = unsigned (cfg.zonecfg zone).pin
  · have valid : validGPIO gpio.toNat = true := by
      by_contra invalid
      rw [getPinMode, if_pos (Bool.eq_false_of_not_eq_true invalid)] at out
      exact absurd out (by decide)
    rw [← same]
    exact get_pin_mode_set valid running (by decide)
  · rw [get_pin_mode_other same]
    exact out

theorem setup_zones_keep {order : List Int} (running : regs.ever = true) {gpio : BitVec 32}
    (out : getPinMode gpio regs = output.toNat) :
    getPinMode gpio (setupZones cfg order regs) = output.toNat := by
  induction order generalizing regs with
  | nil => exact out
  | cons zone rest ih =>
      exact ih ((setup_zone_ever regs zone).trans running) (setup_zone_keeps running out zone)

theorem setup_zones_output {order : List Int} (running : regs.ever = true) {zone : Int}
    (member : zone ∈ order) (valid : validGPIO (cfg.zonecfg zone).pin = true) :
    getPinMode (unsigned (cfg.zonecfg zone).pin) (setupZones cfg order regs) =
      output.toNat := by
  induction order generalizing regs with
  | nil => cases member
  | cons first rest ih =>
      have still := (@setup_zone_ever cfg regs first).trans running
      rcases List.mem_cons.mp member with rfl | later
      · exact setup_zones_keep still (setup_zone_output running valid)
      · exact ih still later

end Outputs

/-- Giving a pin a mode changes no other pin, so that the zones may be set up in any order. -/
theorem pin_modes_do_not_interfere (regs : Registers) (running : regs.ever = true) :
    (∀ g h mode : BitVec 32, g ≠ h → validGPIO g.toNat = true → validGPIO h.toNat = true →
      input ≤ mode → mode ≤ ioAlt3 →
      getPinMode g (pinMode g mode regs).1 = mode.toNat ∧
        getPinMode h (pinMode g mode regs).1 = getPinMode h regs) ∧
    ∀ order : List Int, ∀ zone ∈ order, validGPIO (cfg.zonecfg zone).pin = true →
      getPinMode (unsigned (cfg.zonecfg zone).pin) (setupZones cfg order regs) =
        output.toNat := by
  constructor
  · intro g h mode different validG validH lowest highest
    have small : mode.toNat < 2 ^ 3 := by
      apply pin_mode_allowed.mp
      rintro (below | above)
      · exact absurd below (BitVec.not_lt.mpr lowest)
      · exact absurd above (BitVec.not_lt.mpr highest)
    constructor
    · exact get_pin_mode_set validG running small
    · exact get_pin_mode_other different.symm
  · intro order zone member valid
    exact setup_zones_output running member valid

/-- All bits of the registers are set, so that every pin begins in mode `IO_ALT3`. -/
def fullRegisters : Registers where
  gpioReg _ := 0xFFFFFFFF#32
  ever := true

theorem pin_modes_do_not_interfere_backwards :
    getPinMode 5 (setupZones (benchCfg benchWiring) [2, 1, 0] fullRegisters) = 1 ∧
      getPinMode 7 (pinMode 17 2 fullRegisters).1 = 7 := by
  have both := pin_modes_do_not_interfere (benchCfg benchWiring) fullRegisters rfl
  constructor
  · exact both.2 [2, 1, 0] 1 (by decide) (by decide)
  · exact (both.1 17 7 2 (by decide) (by decide) (by decide) (by decide) (by decide)).2

/-- `main_loop` leaves every zone with a valid pin an output, the master valve included. -/
theorem zones_are_outputs {cfg : SprinklerdCfg} (board : Board) (regs : Registers)
    (succeeds : (gpioSetup board regs).2 = true) {zone : Int} (entry : InTable cfg zone)
    (valid : validGPIO (cfg.zonecfg zone).pin = true) :
    getPinMode (unsigned (cfg.zonecfg zone).pin)
      (setupZones cfg (tableZones cfg) (gpioSetup board regs).1) = output.toNat :=
  setup_zones_output (gpio_setup_ever board regs succeeds) (mem_table_zones.mpr entry) valid

end SprinklerD.ZoneSetup
