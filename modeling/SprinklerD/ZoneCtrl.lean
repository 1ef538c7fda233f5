import SprinklerD.GpioPi

/-!
# Zone control

The functions of `zone_ctrl.c` on the controller state. `now` is what `time`
returns during the call. A function that both changes the state and returns a
value gives back the pair of the two.
-/

namespace SprinklerD.ZoneCtrl

open Foundation.MachineInt
open SprinklerD.Config SprinklerD.GpioPi

set_option autoImplicit false

def sec2Min : Int := 60

/-- The product is a 32-bit int, the difference a double that is stored in an int. -/
def calcTimeleft (now : Int) (st : SprinklerdState) : SprinklerdState :=
  { st with currentZone := { st.currentZone with
      timeleft :=
        if st.currentZone.zone ≠ -1 then
          saturate32 (wrap32 (st.currentZone.duration * sec2Min) -
            (now - st.currentZone.startedTime))
        else 0 } }

variable (cfg : SprinklerdCfg)

/-- The test `on_state == digitalRead(pin)` of one table entry. -/
def zoneReadsOn (gpio : Gpio) (zone : Int) : Bool :=
  (cfg.zonecfg zone).onState = digitalRead gpio (cfg.zonecfg zone).pin

def zcState (zone : Int) (st : SprinklerdState) : ZcState :=
  if 0 < zone ∧ zone ≤ cfg.zones then
    if zoneReadsOn cfg st.gpio zone then .zcOn else .zcOff
  else .zcOff

def zcStart (zone : Int) (st : SprinklerdState) : SprinklerdState × Bool :=
  if zoneReadsOn cfg st.gpio zone then (st, false)
  else
    let written := digitalWrite st.gpio (cfg.zonecfg zone).pin (cfg.zonecfg zone).onState
    ({ st with gpio := written.1 }.setEventZones, written.2 = gpioOk)

/-- The level written is `!on_state`. -/
def zcStop (zone : Int) (st : SprinklerdState) : SprinklerdState × Bool :=
  if zoneReadsOn cfg st.gpio zone = false then (st, false)
  else
    let written := digitalWrite st.gpio (cfg.zonecfg zone).pin
      (if (cfg.zonecfg zone).onState = 0 then 1 else 0)
    ({ st with gpio := written.1 }.setEventZones, written.2 = gpioOk)

def zcMaster (state : ZcState) (st : SprinklerdState) : SprinklerdState :=
  if cfg.masterValve = false then st
  else if state = .zcOn ∧ zoneReadsOn cfg st.gpio 0 = false then (zcStart cfg 0 st).1
  else if state = .zcOff ∧ zoneReadsOn cfg st.gpio 0 = true then (zcStop cfg 0 st).1
  else st

/-- The search of `start_next_zone` from `zone` on, `left` entries before the end
of the table. The skipping loop compares with the zone count after its increment;
the recursive call after a failed start does not. -/
def startNextZoneFrom (now : Int) : Nat → Int → SprinklerdState → SprinklerdState × Int
  | 0, _, st => ({ st with outOfTable := true }, -1)
  | left + 1, zone, st =>
      if st.defaultRuntime zone ≤ 0 ∨ validGPIO (cfg.zonecfg zone).pin = false then
        if zone + 1 > cfg.zones then
          let idle := { st with currentZone := { st.currentZone with
            type := .zcNone, zone := -1, timeleft := 0 } }
          (zcMaster cfg .zcOff idle, -1)
        else startNextZoneFrom now left (zone + 1) st
      else
        let started := zcStart cfg zone st
        if started.2 then
          let running := { started.1 with currentZone := { started.1.currentZone with
            zone := zone } }
          let watered := zcMaster cfg .zcOn running
          let timed := { watered with currentZone := { watered.currentZone with
            startedTime := now, duration := watered.defaultRuntime zone } }
          (calcTimeleft now timed, zone)
        else startNextZoneFrom now left (zone + 1) started.1.setEventZones

def startNextZone (now : Int) (startz : Int) (st : SprinklerdState) : SprinklerdState × Int :=
  startNextZoneFrom cfg now (cfg.zones - startz).toNat (startz + 1) st.setEventZones

/-- The bound on the zone is strict in the source. -/
def zcUpdateRuntime (zone : Int) (st : SprinklerdState) : SprinklerdState :=
  if 0 < zone ∧ zone < cfg.zones ∧ zone = st.currentZone.zone then
    { st with currentZone := { st.currentZone with
      duration := st.defaultRuntime zone } }.setEventZones
  else st.setEventZones

def zcCheck (now : Int) (st : SprinklerdState) : SprinklerdState × Bool :=
  if st.currentZone.type = .zcNone then (st, false)
  else
    let timed := calcTimeleft now st
    if timed.currentZone.timeleft ≤ 0 then
      if timed.currentZone.type = .zcAll ∧ timed.currentZone.zone < cfg.zones then
        let stopped := (zcStop cfg timed.currentZone.zone timed).1
        ((startNextZone cfg now stopped.currentZone.zone stopped).1, true)
      else
        let closed := zcMaster cfg .zcOff timed
        let stopped := (zcStop cfg closed.currentZone.zone closed).1
        ({ stopped with currentZone := { stopped.currentZone with
          type := .zcNone, zone := -1, timeleft := 0 } }, true)
    else (timed, false)

/-- The first test of `zc_zone`: a zone already in the state asked for, or a
request to cycle all zones that changes nothing. -/
def duplicateRequest (type : ZcRunType) (zone : Int) (state : ZcState)
    (st : SprinklerdState) : Bool :=
  if 0 < zone ∧ zone ≤ cfg.zones then
    (if zoneReadsOn cfg st.gpio zone then ZcState.zcOn else .zcOff) = state
  else
    type = .zcAll ∧ ((state = .zcOn ∧ st.currentZone.type = .zcAll) ∨
      (state = .zcOff ∧ st.currentZone.type ≠ .zcAll))

/-- The loop of a cycle request, which turns the master and every zone off. -/
def stopEveryZone : List Int → SprinklerdState → SprinklerdState
  | [], st => st
  | zone :: rest, st =>
      let closed := zcMaster cfg .zcOff st
      if zoneReadsOn cfg closed.gpio zone then stopEveryZone rest (zcStop cfg zone closed).1
      else stopEveryZone rest closed

/-- The loop of a start request. It answers `true` when it meets the requested
zone turned on, where the source returns at once. -/
def stopOtherZones (requested : Int) : List Int → SprinklerdState → SprinklerdState × Bool
  | [], st => (st, false)
  | zone :: rest, st =>
      if zoneReadsOn cfg st.gpio zone then
        if requested = zone then (st, true)
        else stopOtherZones requested rest (zcStop cfg zone st).1
      else stopOtherZones requested rest st

def cycleAllZones (now : Int) (state : ZcState) (st : SprinklerdState) : SprinklerdState :=
  let stopped := stopEveryZone cfg (zoneList cfg) st
  let idle := { stopped with currentZone := { stopped.currentZone with type := .zcNone } }
  if state = .zcOn then
    let started := startNextZone cfg now 0 idle
    if started.2 ≠ -1 then
      { started.1 with currentZone := { started.1.currentZone with type := .zcAll } }
    else started.1
  else idle

def turnZoneOn (now : Int) (type : ZcRunType) (zone length : Int) (st : SprinklerdState) :
    SprinklerdState × Bool :=
  let stopped := stopOtherZones cfg zone (zoneList cfg) st
  if stopped.2 then (stopped.1, false)
  else
    let started := zcStart cfg zone stopped.1
    if started.2 then
      let watered := zcMaster cfg .zcOn started.1
      let running := { watered with currentZone := { watered.currentZone with
        type := type, zone := zone, duration := length, startedTime := now } }
      (calcTimeleft now running, true)
    else (started.1, false)

/-- During a cycle the running zone is made to expire, and the tick moves on. -/
def turnZoneOff (now : Int) (zone : Int) (st : SprinklerdState) : SprinklerdState :=
  if st.currentZone.type = .zcAll then
    let expired := { st with currentZone := { st.currentZone with
      startedTime := st.currentZone.startedTime -
        wrap32 (st.currentZone.duration * sec2Min) - 1 } }
    (zcCheck cfg now expired).1
  else
    let closed := zcMaster cfg .zcOff st
    let stopped := (zcStop cfg zone closed).1
    { stopped with currentZone := { stopped.currentZone with type := .zcNone, zone := -1 } }

/-- A length of 0 asks for the default runtime of the zone. -/
def requestLength (zone length : Int) (st : SprinklerdState) : Int :=
  if length = 0 then st.defaultRuntime zone else length

def zcZone (now : Int) (type : ZcRunType) (zone : Int) (state : ZcState) (length : Int)
    (st : SprinklerdState) : SprinklerdState × Bool :=
  if duplicateRequest cfg type zone state st then (st, false)
  else if type = .zcCron ∧ state = .zcOn ∧ (st.calendar = false ∨ st.delay24h = true) then
    (st, false)
  else if type = .zcAll then (cycleAllZones cfg now state st, true)
  else
    match state with
    | .zcOn =>
        if 0 < requestLength zone length st then
          turnZoneOn cfg now type zone (requestLength zone length st) st
        else (st, false)
    | .zcOff => (turnZoneOff cfg now zone st, true)

def zcRainDelayEnabeled (now : Int) (st : SprinklerdState) : SprinklerdState :=
  if st.currentZone.type = .zcCron ∧ 0 < st.currentZone.zone then
    (zcZone cfg now .zcSingle st.currentZone.zone .zcOff 0 st).1
  else st

end SprinklerD.ZoneCtrl
