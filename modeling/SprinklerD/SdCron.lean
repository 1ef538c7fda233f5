import SprinklerD.ZoneCtrl

/-!
# Rain delay and calendar switch

The first half of `sd_cron.c`: what turns the rain delay on and off, its expiry,
and the calendar flag. Turning the delay on or off writes the cache file, so
`write_cache` of `config.c` and the remount it asks for are here too.
-/

namespace SprinklerD.SdCron

open Foundation.MachineInt
open SprinklerD.Config SprinklerD.ZoneCtrl

set_option autoImplicit false

def delay24hSec : Int := 86400

/-- `true` means the mount mode was changed or set. Mount requests succeed. -/
def remountRootRo (readonly : Bool) (st : SprinklerdState) : SprinklerdState × Bool :=
  if readonly then ({ st with disk := { st.disk with rootReadOnly := true } }, true)
  else if st.disk.rootReadOnly = false then (st, false)
  else ({ st with disk := { st.disk with rootReadOnly := false } }, true)

/-- The root gets the mode that is asked for, and the answer is whether a request for a
writable root changed it. -/
theorem remount_eq (readonly : Bool) (st : SprinklerdState) :
    remountRootRo readonly st =
      ({ st with disk := { st.disk with rootReadOnly := readonly } },
        readonly || st.disk.rootReadOnly) := by
  unfold remountRootRo
  cases readonly with
  | true => rfl
  | false =>
      rw [if_neg Bool.false_ne_true]
      split_ifs with writable
      · rw [Bool.false_or, ← writable]
      · rw [Bool.false_or, Bool.eq_true_of_not_eq_false writable]

variable (cfg : SprinklerdCfg)

def cacheNumbers (st : SprinklerdState) : List CacheNumber :=
  [.whole (if st.calendar then 1 else 0), .whole (if st.delay24h then 1 else 0),
    .whole st.delay24hTime, .whole st.precipChanceDelay, .tenths st.precipInchDelay1day,
    .tenths st.precipInchDelay2day, .whole (-1)] ++
    (zoneList cfg).map fun zone => .whole (st.defaultRuntime zone)

def writeCache (st : SprinklerdState) : SprinklerdState :=
  let remounted := remountRootRo false st
  if remounted.1.disk.cacheOpens = false then (remountRootRo true remounted.1).1
  else
    let written := { remounted.1 with disk := { remounted.1.disk with
      cacheFile := some (cacheNumbers cfg remounted.1) } }
    (remountRootRo remounted.2 written).1

def enableCalendar (state : Bool) (st : SprinklerdState) : SprinklerdState :=
  if st.calendar ≠ state then { st.setEventStatus with calendar := state } else st

def enableDelay24h (now : Int) (state : Bool) (st : SprinklerdState) : SprinklerdState :=
  if st.delay24h ≠ state then
    let flagged := { st.setEventStatus with delay24h := state }
    let timed :=
      if state then
        zcRainDelayEnabeled cfg now { flagged with delay24hTime := now + delay24hSec }
      else { flagged with delay24hTime := 0 }
    writeCache cfg timed
  else st

/-- `dtime` is an `unsigned long`, and the clock is converted to one before the
comparison. Storing it converts back to a signed `long`. -/
def resetDelay24hTime (now : Int) (dtime : Int) (st : SprinklerdState) : SprinklerdState :=
  let flagged := if st.delay24h ≠ true then st.setEventStatus else st
  let timed :=
    if dtime > wrapUnsigned 64 now then
      { flagged with delay24h := true, delay24hTime := wrapSigned 64 dtime }
    else { flagged with delay24h := true, delay24hTime := now + delay24hSec }
  writeCache cfg (zcRainDelayEnabeled cfg now timed)

def setTodayChanceOfRain (now : Int) (percent : Int) (st : SprinklerdState) :
    SprinklerdState × Bool :=
  if percent ≤ 100 ∧ 0 ≤ percent then
    let reported := { st.setEventRainProbability with todayRainChance := percent }
    if 0 < reported.precipChanceDelay ∧ reported.precipChanceDelay ≤ reported.todayRainChance then
      (resetDelay24hTime cfg now 0 reported, true)
    else (enableDelay24h cfg now false reported, true)
  else (st, false)

def setTodayRainTotal (now : Int) (rain : CFloat) (st : SprinklerdState) :
    SprinklerdState × Bool :=
  if st.todayRainTotal.same rain ∧ rain.same .zero = false then (st, true)
  else
    let reported := { st with todayRainTotal := rain }.setEventRainTotal
    if CFloat.zero.lt reported.precipInchDelay2day ∧
        reported.precipInchDelay2day.le reported.todayRainTotal then
      (resetDelay24hTime cfg now (wrapUnsigned 64 (now + delay24hSec * 2)) reported, true)
    else if CFloat.zero.lt reported.precipInchDelay1day ∧
        reported.precipInchDelay1day.le reported.todayRainTotal then
      (resetDelay24hTime cfg now (wrapUnsigned 64 (now + delay24hSec)) reported, true)
    else (reported, true)

def checkDelay24h (now : Int) (st : SprinklerdState) : SprinklerdState × Bool :=
  if 0 < st.delay24hTime then
    if 0 < now - st.delay24hTime then (enableDelay24h cfg now false st, true) else (st, false)
  else (st, false)

end SprinklerD.SdCron
