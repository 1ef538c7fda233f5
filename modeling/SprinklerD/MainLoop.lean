import SprinklerD.Daemon
import SprinklerD.Broadcast

/-!
# The main loop

`main_loop` polls the network, lets the two ticks run and then broadcasts, at once when
something has happened and otherwise from time to time. Here requests arrive between
the passes of the loop, in any number and order, and a broadcast is what the functions
of `net_services.c` send.
-/

namespace SprinklerD.MainLoop

open SprinklerD.Config SprinklerD.ZoneCtrl SprinklerD.Daemon SprinklerD.Broadcast

set_option autoImplicit false

def fromOutside : Event → Bool
  | .webRequest _ _ => true
  | .mqttMessage _ => true
  | .domoticzMessage _ _ _ => true
  | .filesOpen _ _ => true
  | .call _ => false
  | .checkCron => false
  | .broadcast _ _ => false

abbrev Arrival := { event : Event // fromOutside event = true }

structure PassClock where
  cron : Int
  check : Int
  delay : Int
  broadcast : Int

/-- What the loop keeps between passes: the state, the static variables of the
broadcasts and the counter `i`; and what the last event sent. -/
structure LoopState where
  st : SprinklerdState
  published : Published
  i : Nat
  sent : List Publication

inductive LoopEvent where
  | arrival (now : Int) (arrival : Arrival)
  | pass (clock : PassClock)

variable (cfg : SprinklerdCfg) (lib : CLibrary)

/-- `check_cron` and the two ticks; the second is only asked when the first has not
acted. -/
def tick (clock : PassClock) (st : SprinklerdState) : SprinklerdState × Bool :=
  let checked := zcCheck cfg clock.check (CronTable.checkCron cfg clock.cron st)
  if checked.2 then checked else SdCron.checkDelay24h cfg clock.delay checked.1

def broadcastBoth (now : Int) (i : Nat) (published : Published) (st : SprinklerdState) :
    LoopState :=
  let state := broadcastSprinklerdstate cfg lib true now published st
  let active := broadcastSprinklerdactivestate cfg lib true state.st
  { st := active.1, published := state.published, i := i, sent := state.sent ++ active.2 }

def announce (now : Int) (acted : Bool) (st : SprinklerdState) (loop : LoopState) : LoopState :=
  if acted = true ∨ ¬ Quiet st then broadcastBoth cfg lib now loop.i loop.published st
  else if 10 < loop.i ∧ st.currentZone.type ≠ .zcNone then
    let active := broadcastSprinklerdactivestate cfg lib true st
    { st := active.1, published := loop.published, i := 0, sent := active.2 }
  else if 600 ≤ loop.i then broadcastBoth cfg lib now 0 loop.published st
  else { loop with st := st, sent := [] }

def mainLoopPass (clock : PassClock) (loop : LoopState) : LoopState :=
  let ticked := tick cfg clock loop.st
  let done := announce cfg lib clock.broadcast ticked.2 ticked.1 loop
  { done with i := done.i + 1 }

def loopStep (loop : LoopState) : LoopEvent → LoopState
  | .arrival now arrival => { loop with st := daemonStep cfg loop.st (now, arrival.1), sent := [] }
  | .pass clock => mainLoopPass cfg lib clock loop

end SprinklerD.MainLoop
