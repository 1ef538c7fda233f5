import SprinklerD.Announcements
import SprinklerD.StatusMessages
import SprinklerD.Foundation.Retained

/-!
# The status topics

What a broker keeps of the messages the main loop sends. The topics of the remaining
durations are written by three paths; `remainingTime` says what they should carry. Two
of the paths disagree while a zone runs, and a topic that is no longer written keeps
its last value.
-/

namespace SprinklerD.StatusTopics

open Foundation.MachineInt Foundation.Decimal Foundation.Retained Foundation.Transitions
open SprinklerD.Config SprinklerD.ZoneCtrl SprinklerD.ZoneValves SprinklerD.Operations
open SprinklerD.Daemon SprinklerD.Broadcast SprinklerD.MainLoop SprinklerD.Announcements
open SprinklerD.StatusMessages

set_option autoImplicit false

section RemainingTimes

variable (cfg : SprinklerdCfg)

def runtimeSum (defaultRuntime : Int → Int) (zones : List Int) : Int :=
  (zones.map fun zone => defaultRuntime zone * 60).sum

/-- The seconds a cycle still needs: what is left of the running zone, and the zones
after it that `start_next_zone` will not skip. -/
def cycleRest (st : SprinklerdState) : Int :=
  st.currentZone.timeleft + runtimeSum st.defaultRuntime
    ((zonesAfter cfg st.currentZone.zone).filter (runnable cfg st.defaultRuntime))

def skippedTime (st : SprinklerdState) : Int :=
  runtimeSum st.defaultRuntime
    ((zonesAfter cfg st.currentZone.zone).filter fun zone => !runnable cfg st.defaultRuntime zone)

/-- The seconds left for a zone; zone 0 stands for the whole run. -/
def remainingTime (st : SprinklerdState) (zone : Int) : Int :=
  if st.currentZone.type = .zcNone then 0
  else if zone = 0 then
    if st.currentZone.type = .zcAll then cycleRest cfg st else st.currentZone.timeleft
  else if zone = st.currentZone.zone then st.currentZone.timeleft
  else 0

variable {cfg}

theorem wrap32_add_right (first second : Int) :
    wrap32 (first + wrap32 second) = wrap32 (first + second) := by
  unfold wrap32 wrapSigned
  omega

/-- A sum is only the first of its parts if the rest is a multiple of 2^32. -/
theorem wrap32_add_eq (value extra : Int) :
    wrap32 (value + extra) = value ↔ wrap32 value = value ∧ wrap32 extra = 0 := by
  unfold wrap32 wrapSigned
  omega

/-- In an `int` the product by 60 is the number itself only for 0. -/
theorem seconds_in_minutes {value : Int} (lower : -2 ^ 31 ≤ value) (upper : value < 2 ^ 31) :
    wrap32 (value * 60) = value ↔ value = 0 := by
  unfold wrap32 wrapSigned
  omega

theorem cycle_total_fold (defaultRuntime : Int → Int) (zone : Int) (zones : List Int)
    (total : Int) :
    (zone :: zones).foldl (fun total zone => wrap32 (total + wrap32 (defaultRuntime zone * 60)))
      total = wrap32 (total + runtimeSum defaultRuntime (zone :: zones)) := by
  induction zones generalizing zone total with
  | nil =>
      rw [List.foldl_cons, List.foldl_nil, wrap32_add_right, runtimeSum, List.map_cons,
        List.map_nil, List.sum_cons, List.sum_nil, add_zero]
  | cons next zones ih =>
      rw [List.foldl_cons, ih, wrap32_add_right]
      have sum : runtimeSum defaultRuntime (zone :: next :: zones) =
          defaultRuntime zone * 60 + runtimeSum defaultRuntime (next :: zones) := by
        rw [runtimeSum, List.map_cons, List.sum_cons, ← runtimeSum]
      rw [sum, ← add_assoc]
      unfold wrap32 wrapSigned
      omega

theorem runtime_sum_split (defaultRuntime : Int → Int) (kept : Int → Bool) (zones : List Int) :
    runtimeSum defaultRuntime zones =
      runtimeSum defaultRuntime (zones.filter kept) +
        runtimeSum defaultRuntime (zones.filter fun zone => !kept zone) := by
  induction zones with
  | nil => rfl
  | cons zone zones ih =>
      unfold runtimeSum at ih ⊢
      rw [List.map_cons, List.sum_cons, ih]
      cases here : kept zone with
      | false =>
          simp only [List.filter_cons, here, Bool.not_false, if_true, if_false, List.map_cons,
            List.sum_cons, Bool.false_eq_true]
          omega
      | true =>
          simp only [List.filter_cons, here, Bool.not_true, if_true, if_false, List.map_cons,
            List.sum_cons, Bool.false_eq_true]
          omega

/-- The total that is published is the time the cycle needs when the sum fits an `int`
and the skipped zones add nothing to it. -/
theorem cycle_total_eq (st : SprinklerdState) :
    cycleTotal cfg st = cycleRest cfg st ↔
      (zonesAfter cfg st.currentZone.zone ≠ [] →
        wrap32 (cycleRest cfg st) = cycleRest cfg st ∧ wrap32 (skippedTime cfg st) = 0) := by
  have total : cycleTotal cfg st = (zonesAfter cfg st.currentZone.zone).foldl
      (fun total zone => wrap32 (total + wrap32 (st.defaultRuntime zone * 60)))
      st.currentZone.timeleft := rfl
  have split := runtime_sum_split st.defaultRuntime (runnable cfg st.defaultRuntime)
    (zonesAfter cfg st.currentZone.zone)
  rw [total]
  cases later : zonesAfter cfg st.currentZone.zone with
  | nil =>
      apply iff_of_true
      · rw [cycleRest, later]
        exact (add_zero _).symm
      · intro some
        exact absurd rfl some
  | cons zone zones =>
      rw [later] at split
      have sum : st.currentZone.timeleft + runtimeSum st.defaultRuntime (zone :: zones) =
          cycleRest cfg st + skippedTime cfg st := by
        rw [cycleRest, skippedTime, later, split, add_assoc]
      rw [cycle_total_fold, sum, wrap32_add_eq]
      simp

end RemainingTimes

section Messages

variable (cfg : SprinklerdCfg) (lib : CLibrary)

/-- What `publish_zone_mqtt` writes as the seconds left for a zone. -/
def stateRemaining (st : SprinklerdState) (zone : Int) : Int :=
  if st.currentZone.zone = zone ∧ st.currentZone.type ≠ .zcNone then
    wrap32 (st.currentZone.timeleft * 60)
  else 0

/-- What `broadcast_sprinklerdactivestate` writes for zone 0. -/
def zeroTime (st : SprinklerdState) : Int :=
  if st.currentZone.type = .zcAll then cycleTotal cfg st else st.currentZone.timeleft

def broadcastMessages (whole : Bool) (now : Int) (published : Published) (st : SprinklerdState) :
    List Publication :=
  (if whole then (broadcastSprinklerdstate cfg lib true now published st).sent else []) ++
    publishActive cfg lib st

def reportValue (now : Int) (st : SprinklerdState) : StatusTopic → Text
  | .zone zone => mqttSwitch (zoneReadsOn cfg st.gpio zone)
  | .zoneDuration zone => printInt (wrap32 (st.defaultRuntime zone * 60))
  | .active =>
      if st.currentZone.type = .zcNone then " ".toList
      else "Zone ".toList ++ printInt st.currentZone.zone
  | .status => (sprinklerdstatus lib st).1
  | .calendar => mqttSwitch st.calendar
  | .delay24h => mqttSwitch st.delay24h
  | .cycleAllZones => mqttSwitch (st.currentZone.type = .zcAll)
  | .cycleRemaining =>
      if st.currentZone.type = .zcNone then printInt 0 else printInt (cycleTotal cfg st)
  | .chanceOfRain => printInt st.todayRainChance
  | .chanceOfRainDay => lib.todayString now
  | .rainTotal => lib.twoDecimals st.todayRainTotal
  | .rainTotalDay => lib.todayString now
  | .alive => []
  | .zoneRemaining _ => []

variable {cfg lib}

theorem mem_zone_remaining {st : SprinklerdState} {entry zone : Int} {payload : Text} :
    .status (.zoneRemaining zone) payload ∈ publishZoneStatus cfg entry st ↔
      cfg.enableMQTTaq = true ∧ zone = entry ∧ payload = printInt (stateRemaining st entry) := by
  have value : (if st.currentZone.zone = entry ∧ st.currentZone.type ≠ .zcNone then
      printInt (wrap32 (st.currentZone.timeleft * 60)) else printInt 0) =
        printInt (stateRemaining st entry) :=
    (apply_ite printInt _ _ _).symm
  unfold publishZoneStatus
  rw [value]
  by_cases own : cfg.enableMQTTaq = true
  · simp [own]
  · simp [own]

theorem mem_active_remaining {st : SprinklerdState} {zone : Int} {payload : Text} :
    .status (.zoneRemaining zone) payload ∈ publishActive cfg lib st ↔
      st.currentZone.type ≠ .zcNone ∧
        (zone = st.currentZone.zone ∧ payload = printInt st.currentZone.timeleft ∨
          zone = 0 ∧ payload = printInt (zeroTime cfg st)) := by
  unfold publishActive zeroTime
  cases type : st.currentZone.type <;> simp [or_comm]

theorem mem_reports_remaining {now : Int} {published : Published} {st : SprinklerdState}
    {zone : Int} {payload : Text} :
    .status (.zoneRemaining zone) payload ∉ publishReports lib now published st := by
  unfold publishReports
  split_ifs <;> simp

theorem mem_remaining {whole : Bool} {now : Int} {published : Published} {st : SprinklerdState}
    {zone : Int} {payload : Text} :
    .status (.zoneRemaining zone) payload ∈ broadcastMessages cfg lib whole now published st ↔
      (whole = true ∧ cfg.enableMQTTaq = true ∧ InTable cfg zone ∧
        payload = printInt (stateRemaining st zone)) ∨
      (st.currentZone.type ≠ .zcNone ∧
        (zone = st.currentZone.zone ∧ payload = printInt st.currentZone.timeleft ∨
          zone = 0 ∧ payload = printInt (zeroTime cfg st))) := by
  have state : .status (.zoneRemaining zone) payload ∈
      (broadcastSprinklerdstate cfg lib true now published st).sent ↔
        cfg.enableMQTTaq = true ∧ InTable cfg zone ∧ payload = printInt (stateRemaining st zone) := by
    rw [mem_broadcast_state]
    simp only [mem_zone_remaining, mem_reports_remaining, and_false, or_false]
    constructor
    · rintro ⟨entry, member, own, rfl, value⟩
      exact ⟨own, member, value⟩
    · rintro ⟨own, member, value⟩
      exact ⟨zone, member, own, rfl, value⟩
  rw [broadcastMessages, List.mem_append, mem_active_remaining]
  cases whole with
  | false => simp
  | true => simp only [if_true, state, true_and]

theorem report_value_state {now : Int} {published : Published} {st : SprinklerdState}
    {topic : StatusTopic} {payload : Text} (other : ∀ zone, topic ≠ .zoneRemaining zone)
    (sent : .status topic payload ∈ (broadcastSprinklerdstate cfg lib true now published st).sent) :
    payload = reportValue cfg lib now st topic := by
  rcases mem_broadcast_state.mp sent with ⟨zone, -, member⟩ | ⟨-, member⟩
  · unfold publishZoneStatus at member
    by_cases own : cfg.enableMQTTaq = true
    · rw [if_pos own] at member
      simp only [List.mem_cons, List.not_mem_nil, or_false, Publication.status.injEq] at member
      rcases member with ⟨rfl, rfl⟩ | ⟨rfl, rfl⟩ | ⟨rfl, -⟩
      · rfl
      · rfl
      · exact absurd rfl (other zone)
    · rw [if_neg own] at member
      cases member
  · unfold publishReports at member
    simp only [List.mem_append, List.mem_cons, List.not_mem_nil, or_false,
      Publication.status.injEq] at member
    rcases member with ((⟨rfl, rfl⟩ | ⟨rfl, rfl⟩ | ⟨rfl, rfl⟩ | ⟨rfl, rfl⟩) | chance) | total
    · rfl
    · rfl
    · rfl
    · rfl
    · split_ifs at chance
      · simp only [List.mem_cons, List.not_mem_nil, or_false, Publication.status.injEq] at chance
        rcases chance with ⟨rfl, rfl⟩ | ⟨rfl, rfl⟩
        · rfl
        · rfl
      · cases chance
    · split_ifs at total
      · simp only [List.mem_cons, List.not_mem_nil, or_false, Publication.status.injEq] at total
        rcases total with ⟨rfl, rfl⟩ | ⟨rfl, rfl⟩
        · rfl
        · rfl
      · cases total

theorem report_value_active {now : Int} {st : SprinklerdState} {topic : StatusTopic}
    {payload : Text} (other : ∀ zone, topic ≠ .zoneRemaining zone)
    (sent : .status topic payload ∈ publishActive cfg lib st) :
    payload = reportValue cfg lib now st topic := by
  unfold publishActive at sent
  cases type : st.currentZone.type <;>
    simp only [type, reduceCtorEq, if_true, if_false, ne_eq, not_true_eq_false, not_false_eq_true,
      List.mem_append, List.mem_cons, List.not_mem_nil, or_false, Publication.status.injEq] at sent
  · rcases sent with ⟨rfl, rfl⟩ | ⟨rfl, rfl⟩ <;> simp [reportValue, type]
  all_goals
    rcases sent with (⟨rfl, rfl⟩ | ⟨rfl, rfl⟩ | ⟨rfl, -⟩) | rest
    · simp [reportValue, type]
    · rfl
    · exact absurd rfl (other _)
    · first
        | exact absurd rest.1 (other 0)
        | rcases rest with ⟨rfl, rfl⟩ | ⟨rfl, -⟩
          · simp [reportValue, type]
          · exact absurd rfl (other 0)

theorem report_value_sent {whole : Bool} {now : Int} {published : Published}
    {st : SprinklerdState} {topic : StatusTopic} {payload : Text}
    (other : ∀ zone, topic ≠ .zoneRemaining zone)
    (sent : .status topic payload ∈ broadcastMessages cfg lib whole now published st) :
    payload = reportValue cfg lib now st topic := by
  rcases List.mem_append.mp sent with state | active
  · cases whole with
    | false => cases state
    | true => exact report_value_state other state
  · exact report_value_active other active

end Messages

section Broker

structure BrokerState where
  loop : LoopState
  kept : Text → Option Text

def topicMessages (sent : List Publication) : List (Text × Text) :=
  (statusMessages sent).map fun message => (topicText message.1, message.2)

def brokerStep (cfg : SprinklerdCfg) (lib : CLibrary) (broker : BrokerState)
    (event : LoopEvent) : BrokerState :=
  let loop := loopStep cfg lib broker.loop event
  { loop := loop, kept := retain broker.kept (topicMessages loop.sent) }

def remainingTopic (zone : Int) : Text := topicText (.zoneRemaining zone)

/-- No two messages of one broadcast contradict each other, and after a broadcast every
remaining duration that the broker has is the right one. -/
structure Consistent (cfg : SprinklerdCfg) (broker : BrokerState) : Prop where
  agree : Uncontradicted (topicMessages broker.loop.sent)
  remaining : broker.loop.sent ≠ [] → ∀ zone value,
    broker.kept (remainingTopic zone) = some value →
      value = printInt (remainingTime cfg broker.loop.st zone)

def Runs (st : SprinklerdState) (zone : Int) : Prop :=
  st.currentZone.type ≠ .zcNone ∧ (zone = 0 ∨ zone = st.currentZone.zone)

/-- The topic of the zone carries a number, and it is not 0. -/
def LeftOn (kept : Text → Option Text) (zone : Int) : Prop :=
  ∃ value, kept (remainingTopic zone) = some value ∧ value ≠ printInt 0

/-- The states in which a broadcast does no harm; `whole` when the whole state is
broadcast. Nothing is left of a run unless the state is not published or its zone is
not in the table, a cycle has only zones it will run, and no topic is left behind. -/
structure Harmless (cfg : SprinklerdCfg) (whole : Bool) (kept : Text → Option Text)
    (st : SprinklerdState) : Prop where
  total : st.currentZone.type = .zcAll → zonesAfter cfg st.currentZone.zone ≠ [] →
    wrap32 (cycleRest cfg st) = cycleRest cfg st ∧ wrap32 (skippedTime cfg st) = 0
  zero : st.currentZone.type = .zcAll → st.currentZone.zone = 0 →
    cycleRest cfg st = st.currentZone.timeleft
  minutes : whole = true → cfg.enableMQTTaq = true → st.currentZone.type ≠ .zcNone →
    InTable cfg st.currentZone.zone →
      wrap32 (st.currentZone.timeleft * 60) = st.currentZone.timeleft
  master : whole = true → cfg.enableMQTTaq = true → st.currentZone.type ≠ .zcNone →
    cfg.masterValve = true → st.currentZone.zone ≠ 0 → remainingTime cfg st 0 = 0
  left : whole = true → ∀ zone, LeftOn kept zone →
    Runs st zone ∨ cfg.enableMQTTaq = true ∧ InTable cfg zone

variable {cfg : SprinklerdCfg} {lib : CLibrary}

theorem mem_topic_messages {sent : List Publication} {topic : StatusTopic} {payload : Text} :
    (topicText topic, payload) ∈ topicMessages sent ↔ .status topic payload ∈ sent := by
  unfold topicMessages
  rw [List.mem_map, ← mem_status_messages]
  constructor
  · rintro ⟨⟨other, value⟩, member, same⟩
    obtain ⟨text, rfl⟩ := Prod.mk.inj same
    rwa [← topic_text_injective text]
  · intro member
    exact ⟨_, member, rfl⟩

def MessagesRight (cfg : SprinklerdCfg) (sent : List Publication) (st : SprinklerdState) : Prop :=
  ∀ zone payload, .status (.zoneRemaining zone) payload ∈ sent →
    payload = printInt (remainingTime cfg st zone)

/-- The topics that a broadcast leaves alone were right before. -/
def RestRight (cfg : SprinklerdCfg) (sent : List Publication) (kept : Text → Option Text)
    (st : SprinklerdState) : Prop :=
  ∀ zone, (∀ payload, .status (.zoneRemaining zone) payload ∉ sent) →
    ∀ value, kept (remainingTopic zone) = some value →
      value = printInt (remainingTime cfg st zone)

theorem published_value {kept : Text → Option Text} {sent : List Publication} {zone : Int}
    {payload : Text} (published : .status (.zoneRemaining zone) payload ∈ sent)
    (only : ∀ other, .status (.zoneRemaining zone) other ∈ sent → other = payload) :
    retain kept (topicMessages sent) (remainingTopic zone) = some payload :=
  retain_value kept (mem_topic_messages.mpr published)
    fun other member => only other (mem_topic_messages.mp member)

theorem unpublished_value {kept : Text → Option Text} {sent : List Publication} {zone : Int}
    (silent : ∀ payload, .status (.zoneRemaining zone) payload ∉ sent) :
    retain kept (topicMessages sent) (remainingTopic zone) = kept (remainingTopic zone) :=
  retain_silent kept fun payload member => silent payload (mem_topic_messages.mp member)

theorem consistent_broadcast {whole : Bool} {now : Int} {published : Published}
    {st : SprinklerdState} {kept : Text → Option Text} {broker : BrokerState}
    (sent : broker.loop.sent = broadcastMessages cfg lib whole now published st)
    (keeps : broker.kept = retain kept (topicMessages broker.loop.sent))
    (same : remainingTime cfg broker.loop.st = remainingTime cfg st) :
    Consistent cfg broker ↔
      MessagesRight cfg broker.loop.sent st ∧ RestRight cfg broker.loop.sent kept st := by
  have some : broker.loop.sent ≠ [] := by
    rw [sent, broadcastMessages, publishActive]
    split_ifs <;> simp
  constructor
  · intro consistent
    have remaining := consistent.remaining some
    rw [keeps, same] at remaining
    constructor
    · intro zone payload member
      apply remaining zone payload
      apply published_value member
      intro other otherMember
      exact consistent.agree _ _ _ (mem_topic_messages.mpr otherMember)
        (mem_topic_messages.mpr member)
    · intro zone silent value before
      exact remaining zone value ((unpublished_value silent).trans before)
  · rintro ⟨messages, rest⟩
    constructor
    · intro text value other first second
      obtain ⟨⟨topic, payload⟩, member, rfl, rfl⟩ : ∃ message ∈ statusMessages broker.loop.sent,
          topicText message.1 = text ∧ message.2 = value := by
        simpa [topicMessages] using first
      rw [mem_topic_messages] at first second
      by_cases remaining : ∃ zone, topic = .zoneRemaining zone
      · obtain ⟨zone, rfl⟩ := remaining
        rw [messages zone _ first, messages zone _ second]
      · have plain : ∀ zone, topic ≠ .zoneRemaining zone := fun zone named => remaining ⟨zone, named⟩
        rw [sent] at first second
        rw [report_value_sent plain first, report_value_sent plain second]
    · intro _ zone value after
      rw [keeps] at after
      rw [same]
      by_cases silent : ∀ payload, .status (.zoneRemaining zone) payload ∉ broker.loop.sent
      · exact rest zone silent value ((unpublished_value silent).symm.trans after)
      · push Not at silent
        obtain ⟨payload, member⟩ := silent
        have carried := @published_value kept _ _ _ member fun other otherMember =>
          (messages zone other otherMember).trans (messages zone payload member).symm
        rw [carried] at after
        rw [← Option.some.inj after]
        exact messages zone payload member

theorem remaining_time_running {st : SprinklerdState} (running : st.currentZone.type ≠ .zcNone)
    (other : st.currentZone.zone ≠ 0) :
    remainingTime cfg st st.currentZone.zone = st.currentZone.timeleft := by
  rw [remainingTime, if_neg running, if_neg other, if_pos rfl]

theorem remaining_time_cycle {st : SprinklerdState} (all : st.currentZone.type = .zcAll) :
    remainingTime cfg st 0 = cycleRest cfg st := by
  have running : st.currentZone.type ≠ .zcNone := by simp [all]
  rw [remainingTime, if_neg running, if_pos rfl, if_pos all]

theorem remaining_time_one {st : SprinklerdState} (running : st.currentZone.type ≠ .zcNone)
    (one : st.currentZone.type ≠ .zcAll) : remainingTime cfg st 0 = st.currentZone.timeleft := by
  rw [remainingTime, if_neg running, if_pos rfl, if_neg one]

theorem remaining_time_over {st : SprinklerdState} {zone : Int} (ended : ¬ Runs st zone) :
    remainingTime cfg st zone = 0 := by
  unfold remainingTime
  split_ifs with none zero
  · rfl
  · exact absurd ⟨none, Or.inl zero⟩ ended
  · exact absurd ⟨none, Or.inl zero⟩ ended
  · exact absurd ⟨none, Or.inr ‹_›⟩ ended
  · rfl

/-- A whole broadcast while an entry of the table runs is only harmless when nothing is
left of the run. -/
theorem harmless_nothing_left {kept : Text → Option Text} {st : SprinklerdState}
    (harmless : Harmless cfg true kept st) (own : cfg.enableMQTTaq = true)
    (running : st.currentZone.type ≠ .zcNone) (member : InTable cfg st.currentZone.zone)
    (lower : -2 ^ 31 ≤ st.currentZone.timeleft) (upper : st.currentZone.timeleft < 2 ^ 31) :
    st.currentZone.timeleft = 0 :=
  (seconds_in_minutes lower upper).mp (harmless.minutes rfl own running member)

variable {whole : Bool} {now : Int} {published : Published} {st : SprinklerdState}
  {kept : Text → Option Text}

/-- The running zone's own message is right unless it is zone 0 of a cycle. -/
theorem own_message_right (running : st.currentZone.type ≠ .zcNone) :
    st.currentZone.timeleft = remainingTime cfg st st.currentZone.zone ↔
      (st.currentZone.type = .zcAll → st.currentZone.zone = 0 →
        cycleRest cfg st = st.currentZone.timeleft) := by
  by_cases zero : st.currentZone.zone = 0
  · rw [zero]
    by_cases all : st.currentZone.type = .zcAll
    · rw [remaining_time_cycle all]
      simp [all, eq_comm]
    · rw [remaining_time_one running all]
      simp [all]
  · rw [remaining_time_running running zero]
    simp [zero]

theorem zero_message_right (running : st.currentZone.type ≠ .zcNone) :
    zeroTime cfg st = remainingTime cfg st 0 ↔
      (st.currentZone.type = .zcAll → cycleTotal cfg st = cycleRest cfg st) := by
  unfold zeroTime
  by_cases all : st.currentZone.type = .zcAll
  · rw [if_pos all, remaining_time_cycle all]
    simp [all]
  · rw [if_neg all, remaining_time_one running all]
    simp [all]

/-- The state's message for an entry is right unless it counts the running zone in
minutes, or says 0 for zone 0 while a zone runs. -/
theorem state_message_right {zone : Int}
    (own : st.currentZone.type ≠ .zcNone →
      st.currentZone.timeleft = remainingTime cfg st st.currentZone.zone) :
    stateRemaining st zone = remainingTime cfg st zone ↔
      (st.currentZone.type ≠ .zcNone → zone = st.currentZone.zone →
        wrap32 (st.currentZone.timeleft * 60) = st.currentZone.timeleft) ∧
      (st.currentZone.type ≠ .zcNone → zone = 0 → st.currentZone.zone ≠ 0 →
        remainingTime cfg st 0 = 0) := by
  unfold stateRemaining
  by_cases running : st.currentZone.type ≠ .zcNone
  · by_cases here : zone = st.currentZone.zone
    · rw [if_pos ⟨here.symm, running⟩, here, ← own running]
      simp only [running, forall_const, not_false_eq_true, ne_eq]
      constructor
      · intro minutes
        exact ⟨minutes, fun zero different => absurd zero different⟩
      · exact And.left
    · rw [if_neg fun both => here both.1.symm]
      by_cases zero : zone = 0
      · subst zero
        simp [running, here, Ne.symm here, eq_comm]
      · have ended : ¬ Runs st zone := fun runs => runs.2.elim zero here
        rw [remaining_time_over ended]
        simp [here, zero]
  · have ended : ¬ Runs st zone := fun runs => running runs.1
    rw [if_neg fun both => running both.2, remaining_time_over ended]
    simp [running]

theorem messages_right_iff :
    MessagesRight cfg (broadcastMessages cfg lib whole now published st) st ↔
      (st.currentZone.type ≠ .zcNone →
        st.currentZone.timeleft = remainingTime cfg st st.currentZone.zone ∧
          zeroTime cfg st = remainingTime cfg st 0) ∧
      (whole = true → cfg.enableMQTTaq = true → ∀ zone, InTable cfg zone →
        stateRemaining st zone = remainingTime cfg st zone) := by
  constructor
  · intro right
    constructor
    · intro running
      constructor
      · exact print_int_injective
          (right _ _ (mem_remaining.mpr (Or.inr ⟨running, Or.inl ⟨rfl, rfl⟩⟩)))
      · exact print_int_injective
          (right _ _ (mem_remaining.mpr (Or.inr ⟨running, Or.inr ⟨rfl, rfl⟩⟩)))
    · intro both own zone member
      exact print_int_injective (right _ _ (mem_remaining.mpr (Or.inl ⟨both, own, member, rfl⟩)))
  · rintro ⟨active, state⟩ zone payload sent
    rcases mem_remaining.mp sent with ⟨both, own, member, rfl⟩ | ⟨running, ⟨rfl, rfl⟩ | ⟨rfl, rfl⟩⟩
    · rw [state both own zone member]
    · rw [← (active running).1]
    · rw [← (active running).2]

/-- What a broadcast does not write was right before exactly if no topic of a zone that
no longer runs is left with another number. -/
theorem rest_right_iff :
    RestRight cfg (broadcastMessages cfg lib whole now published st) kept st ↔
      ∀ zone, LeftOn kept zone →
        Runs st zone ∨ whole = true ∧ cfg.enableMQTTaq = true ∧ InTable cfg zone := by
  have silent {zone : Int} : (∀ payload, .status (.zoneRemaining zone) payload ∉
      broadcastMessages cfg lib whole now published st) ↔
        ¬ (Runs st zone ∨ whole = true ∧ cfg.enableMQTTaq = true ∧ InTable cfg zone) := by
    simp only [mem_remaining]
    constructor
    · rintro none (⟨running, rfl | rfl⟩ | ⟨both, own, member⟩)
      · exact none _ (Or.inr ⟨running, Or.inr ⟨rfl, rfl⟩⟩)
      · exact none _ (Or.inr ⟨running, Or.inl ⟨rfl, rfl⟩⟩)
      · exact none _ (Or.inl ⟨both, own, member, rfl⟩)
    · rintro none payload (⟨both, own, member, -⟩ | ⟨running, ⟨here, -⟩ | ⟨zero, -⟩⟩)
      · exact none (Or.inr ⟨both, own, member⟩)
      · exact none (Or.inl ⟨running, Or.inr here⟩)
      · exact none (Or.inl ⟨running, Or.inl zero⟩)
  constructor
  · rintro right zone ⟨value, carried, other⟩
    by_contra unwritten
    have ended : ¬ Runs st zone := fun runs => unwritten (Or.inl runs)
    have same := right zone (silent.mpr unwritten) value carried
    rw [remaining_time_over ended] at same
    exact other same
  · intro left zone unwritten value carried
    have none := silent.mp unwritten
    have ended : ¬ Runs st zone := fun runs => none (Or.inl runs)
    rw [remaining_time_over ended]
    by_contra other
    exact none (left zone ⟨value, carried, other⟩)

/-- A broadcast leaves everything right exactly in the harmless states; behind an empty
mask the active one needs no topic to be looked at. -/
theorem broadcast_right_iff
    (clear : whole = false → ∀ zone, LeftOn kept zone → Runs st zone) :
    MessagesRight cfg (broadcastMessages cfg lib whole now published st) st ∧
        RestRight cfg (broadcastMessages cfg lib whole now published st) kept st ↔
      Harmless cfg whole kept st := by
  rw [messages_right_iff, rest_right_iff]
  constructor
  · rintro ⟨⟨active, state⟩, rest⟩
    have own := fun running => (active running).1
    constructor
    · intro all
      have running : st.currentZone.type ≠ .zcNone := by simp [all]
      exact (cycle_total_eq st).mp ((zero_message_right running).mp (active running).2 all)
    · intro all
      have running : st.currentZone.type ≠ .zcNone := by simp [all]
      exact (own_message_right running).mp (own running) all
    · intro both published running member
      exact ((state_message_right own).mp (state both published _ member)).1 running rfl
    · intro both published running master
      have member : InTable cfg 0 := in_table_zero.mpr master
      exact ((state_message_right own).mp (state both published 0 member)).2 running rfl
    · intro both zone left
      exact (rest zone left).imp id And.right
  · intro harmless
    have own : st.currentZone.type ≠ .zcNone →
        st.currentZone.timeleft = remainingTime cfg st st.currentZone.zone :=
      fun running => (own_message_right running).mpr harmless.zero
    refine ⟨⟨fun running => ⟨own running, ?_⟩, ?_⟩, ?_⟩
    · apply (zero_message_right running).mpr
      intro all
      exact (cycle_total_eq st).mpr (harmless.total all)
    · intro both published zone member
      apply (state_message_right own).mpr
      constructor
      · rintro running rfl
        exact harmless.minutes both published running member
      · rintro running rfl
        exact harmless.master both published running (in_table_zero.mp member)
    · intro zone left
      cases whole with
      | false => exact Or.inl (clear rfl zone left)
      | true => exact (harmless.left rfl zone left).imp id fun entry => ⟨rfl, entry⟩

end Broker

section Runs

variable {cfg : SprinklerdCfg} {lib : CLibrary}

inductive PassKind where
  | none
  | active
  | both
deriving DecidableEq, Repr

def passKind (acted : Bool) (st : SprinklerdState) (i : Nat) : PassKind :=
  if acted = true ∨ ¬ Quiet st then .both
  else if 10 < i ∧ st.currentZone.type ≠ .zcNone then .active
  else if 600 ≤ i then .both
  else .none

def HarmlessEvent (cfg : SprinklerdCfg) (broker : BrokerState) : LoopEvent → Prop
  | .arrival _ _ => True
  | .pass clock =>
      let ticked := tick cfg clock broker.loop.st
      match passKind ticked.2 ticked.1 broker.loop.i with
      | .none => True
      | .active => Harmless cfg false broker.kept ticked.1
      | .both => Harmless cfg true broker.kept ticked.1

/-- Behind an empty mask the only numbers left are those of the run. -/
def Fresh (kept : Text → Option Text) (st : SprinklerdState) : Prop :=
  Quiet st → st.currentZone.type ≠ .zcNone → ∀ zone, LeftOn kept zone → Runs st zone

theorem fresh_announces {kept : Text → Option Text} {st st' : SprinklerdState}
    (fresh : Fresh kept st) (announces : Announces st st') : Fresh kept st' := by
  intro quiet running zone left
  have silent := announces quiet
  have same := silent.run.resolve_right running
  have runs := fresh silent.quiet (same.1 ▸ running) zone left
  refine ⟨running, ?_⟩
  rw [same.2]
  exact runs.2

theorem fresh_consistent {broker : BrokerState} (consistent : Consistent cfg broker)
    (some : broker.loop.sent ≠ []) : Fresh broker.kept broker.loop.st := by
  rintro - - zone ⟨value, carried, other⟩
  by_contra ended
  have right := consistent.remaining some zone value carried
  rw [remaining_time_over ended] at right
  exact other right

structure PassBroadcasts (cfg : SprinklerdCfg) (lib : CLibrary) (whole : Bool) (clock : PassClock)
    (loop after : LoopState) (st : SprinklerdState) : Prop where
  sent : after.sent = broadcastMessages cfg lib whole clock.broadcast loop.published st
  same : remainingTime cfg after.st = remainingTime cfg st

theorem broadcast_both_sends (clock : PassClock) (i : Nat) (loop : LoopState)
    (st : SprinklerdState) :
    PassBroadcasts cfg lib true clock loop
      (broadcastBoth cfg lib clock.broadcast i loop.published st) st := by
  obtain ⟨cache, mask, frame⟩ :=
    broadcast_state_frame cfg lib clock.broadcast loop.published st
  unfold broadcastBoth
  simp only [frame]
  constructor
  · rfl
  · rfl

theorem pass_both {clock : PassClock} {loop : LoopState}
    (both : passKind (tick cfg clock loop.st).2 (tick cfg clock loop.st).1 loop.i = .both) :
    PassBroadcasts cfg lib true clock loop (mainLoopPass cfg lib clock loop)
      (tick cfg clock loop.st).1 := by
  have sends (i : Nat) := @broadcast_both_sends cfg lib clock i loop (tick cfg clock loop.st).1
  unfold passKind at both
  unfold mainLoopPass announce
  simp only
  split_ifs at both ⊢
  · exact ⟨(sends loop.i).sent, (sends loop.i).same⟩
  · exact ⟨(sends 0).sent, (sends 0).same⟩

theorem pass_active {clock : PassClock} {loop : LoopState}
    (active : passKind (tick cfg clock loop.st).2 (tick cfg clock loop.st).1 loop.i = .active) :
    (Quiet (tick cfg clock loop.st).1 ∧
      (tick cfg clock loop.st).1.currentZone.type ≠ .zcNone) ∧
    PassBroadcasts cfg lib false clock loop (mainLoopPass cfg lib clock loop)
      (tick cfg clock loop.st).1 := by
  unfold passKind at active
  unfold mainLoopPass announce
  simp only
  split_ifs at active ⊢ with acted running
  rw [not_or, not_not] at acted
  exact ⟨⟨acted.2, running.2⟩, rfl, rfl⟩

theorem pass_none {clock : PassClock} {loop : LoopState}
    (none : passKind (tick cfg clock loop.st).2 (tick cfg clock loop.st).1 loop.i = .none) :
    (mainLoopPass cfg lib clock loop).sent = [] ∧
      (mainLoopPass cfg lib clock loop).st = (tick cfg clock loop.st).1 := by
  unfold passKind at none
  unfold mainLoopPass announce
  simp only
  split_ifs at none ⊢
  exact ⟨rfl, rfl⟩

theorem consistent_silent {broker : BrokerState} (none : broker.loop.sent = []) :
    Consistent cfg broker := by
  constructor
  · rw [none]
    intro topic value other first
    cases first
  · intro some
    exact absurd none some

theorem broker_step_broadcasts {whole : Bool} {broker : BrokerState} {clock : PassClock}
    (fresh : Fresh broker.kept broker.loop.st)
    (quiet : whole = false → Quiet (tick cfg clock broker.loop.st).1 ∧
      (tick cfg clock broker.loop.st).1.currentZone.type ≠ .zcNone)
    (broadcasts : PassBroadcasts cfg lib whole clock broker.loop
      (mainLoopPass cfg lib clock broker.loop) (tick cfg clock broker.loop.st).1) :
    (Consistent cfg (brokerStep cfg lib broker (.pass clock)) ↔
      Harmless cfg whole broker.kept (tick cfg clock broker.loop.st).1) ∧
    (brokerStep cfg lib broker (.pass clock)).loop.sent ≠ [] := by
  have ticked : Fresh broker.kept (tick cfg clock broker.loop.st).1 :=
    fresh_announces fresh (tick_announces clock broker.loop.st)
  have clear : whole = false → ∀ zone, LeftOn broker.kept zone →
      Runs (tick cfg clock broker.loop.st).1 zone :=
    fun active => ticked (quiet active).1 (quiet active).2
  have sent : (brokerStep cfg lib broker (.pass clock)).loop.sent = _ := broadcasts.sent
  constructor
  · apply (consistent_broadcast sent rfl broadcasts.same).trans
    rw [sent]
    exact broadcast_right_iff clear
  · rw [sent, broadcastMessages, publishActive]
    split_ifs <;> simp

/-- One event keeps the broker consistent exactly when it is harmless. -/
theorem broker_step_consistent {broker : BrokerState} {event : LoopEvent}
    (fresh : Fresh broker.kept broker.loop.st) :
    Consistent cfg (brokerStep cfg lib broker event) ↔ HarmlessEvent cfg broker event := by
  cases event with
  | arrival now arrival => exact iff_of_true (consistent_silent rfl) trivial
  | pass clock =>
      rw [HarmlessEvent]
      cases kind : passKind (tick cfg clock broker.loop.st).2 (tick cfg clock broker.loop.st).1
          broker.loop.i with
      | none => exact iff_of_true (consistent_silent (pass_none kind).1) trivial
      | active =>
          have active := @pass_active cfg lib _ _ kind
          exact (broker_step_broadcasts fresh (fun _ => active.1) active.2).1
      | both =>
          exact (@broker_step_broadcasts cfg lib true _ _ fresh (fun never => by cases never)
            (pass_both kind)).1

theorem broker_step_fresh {broker : BrokerState} {event : LoopEvent}
    (fresh : Fresh broker.kept broker.loop.st) (harmless : HarmlessEvent cfg broker event) :
    Fresh (brokerStep cfg lib broker event).kept (brokerStep cfg lib broker event).loop.st := by
  have consistent := (@broker_step_consistent cfg lib _ _ fresh).mpr harmless
  cases event with
  | arrival now arrival => exact fresh_announces fresh (arrival_announces now arrival _)
  | pass clock =>
      have ticked : Fresh broker.kept (tick cfg clock broker.loop.st).1 :=
        fresh_announces fresh (tick_announces clock broker.loop.st)
      cases kind : passKind (tick cfg clock broker.loop.st).2 (tick cfg clock broker.loop.st).1
          broker.loop.i with
      | none =>
          have silent := @pass_none cfg lib _ _ kind
          rw [brokerStep, loopStep]
          simp only [silent.1, silent.2]
          exact ticked
      | active =>
          have active := @pass_active cfg lib _ _ kind
          exact fresh_consistent consistent
            (broker_step_broadcasts fresh (fun _ => active.1) active.2).2
      | both =>
          exact fresh_consistent consistent
            (@broker_step_broadcasts cfg lib true _ _ fresh (fun never => by cases never)
              (pass_both kind)).2

def brokerStart (st : SprinklerdState) : BrokerState where
  loop := { st := st, published := {}, i := 0, sent := [] }
  kept _ := none

/-- From the start of the loop the topics agree throughout a run exactly when every
broadcast of the run comes in a harmless state. -/
theorem status_topics_agree (cfg : SprinklerdCfg) (lib : CLibrary) (st : SprinklerdState)
    (events : List LoopEvent) :
    (∀ done, done <+: events →
        Consistent cfg (run (brokerStep cfg lib) (brokerStart st) done)) ↔
      Admitted (brokerStep cfg lib) (HarmlessEvent cfg) (brokerStart st) events := by
  rw [prefixes_iff_admitted, and_iff_right (consistent_silent rfl)]
  have fresh : Fresh (brokerStart st).kept (brokerStart st).loop.st := by
    rintro - - zone ⟨value, carried, -⟩
    cases carried
  apply admitted_congr (fun broker : BrokerState => Fresh broker.kept broker.loop.st)
    (fun _ _ fresh _ => broker_step_consistent fresh)
    (fun _ _ fresh _ harmless => broker_step_fresh fresh harmless) fresh
    (admitted_of_forall fun _ _ => trivial)

end Runs

section Bench

def benchTopics (masterValve : Bool) : SprinklerdCfg :=
  { benchCfg benchWiring with masterValve := masterValve, enableMQTTaq := true }

def benchPass (now : Int) : LoopEvent :=
  .pass { cron := now, check := now, delay := now, broadcast := now }

/-- Zone 1 is asked for five minutes, and turned off after ten seconds. -/
def benchRunOver : List LoopEvent :=
  [.arrival 1000 ⟨.webRequest "type=zone&zone=1&runtime=5&state=on".toList [], rfl⟩,
    benchPass 1000,
    .arrival 1010 ⟨.webRequest "type=zone&zone=1&state=off".toList [], rfl⟩,
    benchPass 1010]

/-- With a zone running its topic is given 18000 and 300. Without a master valve zone 0
still has 300 seconds left after the run is over. -/
theorem status_topics_contradict :
    ¬ Uncontradicted (topicMessages
        (run (brokerStep (benchTopics true) benchLibrary) (brokerStart benchState)
          (benchRunOver.take 2)).loop.sent) ∧
      ((run (brokerStep (benchTopics false) benchLibrary) (brokerStart benchState)
          benchRunOver).loop.sent ≠ [] ∧
        (run (brokerStep (benchTopics false) benchLibrary) (brokerStart benchState)
          benchRunOver).kept (remainingTopic 0) = some (printInt 300) ∧
        (run (brokerStep (benchTopics false) benchLibrary) (brokerStart benchState)
          benchRunOver).loop.st.currentZone.type = .zcNone) := by
  constructor
  · intro agree
    have same := agree (remainingTopic 1) (printInt 18000) (printInt 300)
      (by decide +kernel) (by decide +kernel)
    exact absurd (print_int_injective same) (by decide)
  · exact ⟨by decide +kernel, by decide +kernel, by decide +kernel⟩

end Bench

end SprinklerD.StatusTopics
