import SprinklerD.SdCron

/-!
# Shutdown

`intHandler` of `sprinkler.c`, which `SIGINT` and `SIGTERM` run; `Daemon_Stop` does
the same. It sets every pin to its shutdown state and writes the cache file.
-/

namespace SprinklerD.Shutdown

open SprinklerD.Config SprinklerD.GpioPi SprinklerD.SdCron

set_option autoImplicit false

variable (cfg : SprinklerdCfg)

/-- `readCfg` sets it to `!on_state`. -/
def shutdownState (zone : Int) : Int := if (cfg.zonecfg zone).onState = 0 then 1 else 0

def shutdownPins : List Int → Gpio → Gpio
  | [], gpio => gpio
  | zone :: rest, gpio =>
      if shutdownState cfg zone = 0 ∨ shutdownState cfg zone = 1 then
        shutdownPins rest (digitalWrite gpio (cfg.zonecfg zone).pin (shutdownState cfg zone)).1
      else shutdownPins rest gpio

def intHandler (st : SprinklerdState) : SprinklerdState :=
  writeCache cfg { st with gpio := shutdownPins cfg (tableZones cfg) st.gpio }

end SprinklerD.Shutdown
