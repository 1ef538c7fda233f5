import SprinklerD.ExclusiveWrites
import SprinklerD.Foundation.Simulation
import SprinklerD.SessionAgreement
import SprinklerD.StatusMessages

/-!
# What arrives, as a run of the daemon

Whatever bytes arrive on whatever connections, between web requests and passes of the loop,
the daemon does nothing but handle the messages that it heeds, in their order. So what its
runs keep is kept on the network.
-/

namespace SprinklerD.NetworkRuns

open Foundation.Transitions Foundation.WriteLog Foundation.Simulation
open SprinklerD.Config SprinklerD.ZoneCtrl SprinklerD.NetServices SprinklerD.Operations
open SprinklerD.Daemon SprinklerD.Broadcast SprinklerD.MainLoop SprinklerD.StatusMessages
open SprinklerD.DomoticzParser SprinklerD.DomoticzMessages SprinklerD.Hassio
open SprinklerD.ZoneValves SprinklerD.ExclusiveWrites SprinklerD.MqttPackets SprinklerD.MqttStream
open SprinklerD.MqttRoundTrip SprinklerD.MqttSession

set_option autoImplicit false

section Acts

variable (cfg : SprinklerdCfg) (net : MqttCfg) (lib : CLibrary)

def shown (now : Int) (st : SprinklerdState) : TimedEvent :=
  (now, .broadcast st.dzCache st.updateEventMask)

def ownEvents (now : Int) (message : MqttMessage) : List TimedEvent :=
  if cfg.enableMQTTaq ∧ beginsWith message cfg.mqttTopic then [(now, .mqttMessage message)] else []

def domoticzEvents (now : Int) (message : MqttMessage) : List TimedEvent :=
  if cfg.enableMQTTdz ∧ beginsWith message net.mqttDzSubTopic then
    let parsed := parseJSONmqttrequest (message.payload ++ message.afterPayload)
      message.payload.length (-1) (-1) svalue2Name
    if parsed.1 then
      [(now, .domoticzMessage parsed.2.idx parsed.2.nvalue parsed.2.svalue)]
    else []
  else []

def publishEvents (now : Int) (message : MqttMessage) (messageId : Nat) (session : Session) :
    List TimedEvent :=
  if heeded now session.mqttConnectedTime messageId then
    ownEvents cfg now message ++ domoticzEvents cfg net now message
  else []

def packetEvents (nc : Nat) (now : Int) (beyond : Bytes) (packet : HandledPacket)
    (state : NetState) : List TimedEvent :=
  if packet.1.cmd = cmdConnack then
    [shown now (handlePacket cfg net lib nc now beyond packet state).st]
  else if packet.1.cmd = cmdPublish then
    publishEvents cfg net now (messageOf packet beyond) packet.1.messageId state.session
  else []

def packetsEvents (nc : Nat) (clock : Nat → Int) (beyond : Bytes) :
    Nat → List HandledPacket → NetState → List TimedEvent
  | _, [], _ => []
  | read, packet :: rest, state =>
      packetEvents cfg net lib nc (clock read) beyond packet state ++
        packetsEvents nc clock beyond (read + 1) rest
          (handlePacket cfg net lib nc (clock read) beyond packet state)

def tickEvents (clock : PassClock) (st : SprinklerdState) : List TimedEvent :=
  [(clock.cron, .checkCron), (clock.check, .call .check)] ++
    if (zcCheck cfg clock.check (CronTable.checkCron cfg clock.cron st)).2 then []
    else [(clock.delay, .call .checkDelay24h)]

def netEvents (state : NetState) : NetEvent → List TimedEvent
  | .webRequest now query stack => [(now, .webRequest query stack)]
  | .filesOpen cacheOpens cronOpens => [(0, .filesOpen cacheOpens cronOpens)]
  | .connect _ => []
  | .close _ => []
  | .recv nc clock piece beyond =>
      packetsEvents cfg net lib nc clock beyond 0 (received nc piece beyond state.session).handled
        { state with sent := [] }
  | .pass clock opens =>
      tickEvents cfg clock state.st ++
        [shown clock.broadcast (netStep cfg net lib state (.pass clock opens)).st]

end Acts

variable {cfg : SprinklerdCfg} {net : MqttCfg} {lib : CLibrary}

section Broadcasts

def OnlyShown (before after : SprinklerdState) : Prop :=
  after = { before with dzCache := after.dzCache, updateEventMask := after.updateEventMask }

theorem only_shown_refl (st : SprinklerdState) : OnlyShown st st := rfl

theorem only_shown_trans {first second third : SprinklerdState} (front : OnlyShown first second)
    (back : OnlyShown second third) : OnlyShown first third := by
  unfold OnlyShown at front back ⊢
  rw [front] at back
  exact back

theorem shown_step {before after : SprinklerdState} (only : OnlyShown before after) (now : Int) :
    daemonStep cfg before (shown now after) = after := only.symm

theorem foldl_only_shown {Item : Type} {step : NetState → Item → NetState}
    (one : ∀ state item, OnlyShown state.st (step state item).st) (items : List Item)
    (state : NetState) : OnlyShown state.st (items.foldl step state).st := by
  induction items generalizing state with
  | nil => exact only_shown_refl _
  | cons item rest ih => exact only_shown_trans (one state item) (ih (step state item))

theorem state_to_shown (now : Int) (state : NetState) (nc : Nat) :
    OnlyShown state.st (stateTo cfg lib now state nc).st := by
  obtain ⟨cache, mask, frame⟩ := broadcast_state_frame cfg lib now state.published state.st
  unfold OnlyShown stateTo
  simp only [send_messages_st, frame]

theorem broadcast_state_shown (now : Int) (state : NetState) :
    OnlyShown state.st (broadcastState cfg lib now state).st :=
  only_shown_trans (foldl_only_shown (state_to_shown now) (mqttConnections state.session) state) rfl

theorem broadcast_active_shown (state : NetState) :
    OnlyShown state.st (broadcastActive cfg lib state).st := by
  have one (state : NetState) (nc : Nat) : OnlyShown state.st (activeTo cfg lib state nc).st := by
    rw [activeTo, send_messages_st]
    exact only_shown_refl _
  exact only_shown_trans (foldl_only_shown one (mqttConnections state.session) state) rfl

theorem announce_to_shown (now : Int) (acted : Bool) (state : NetState) :
    OnlyShown state.st (announceTo cfg lib now acted state).st := by
  unfold announceTo
  split_ifs
  · exact only_shown_trans (broadcast_state_shown now state) (broadcast_active_shown _)
  · exact broadcast_active_shown { state with i := 0 }
  · exact only_shown_trans (broadcast_state_shown now { state with i := 0 })
      (broadcast_active_shown _)
  · exact only_shown_refl _

theorem handle_connack_shown (nc : Nat) (now : Int) (returnCode : UInt8) (state : NetState) :
    OnlyShown state.st (handleConnack cfg net lib nc now returnCode state).st := by
  have told (state : NetState) : (announceEntities cfg net nc state).st = state.st := by
    unfold announceEntities
    split_ifs
    · exact send_messages_st nc _ state
    · rfl
  unfold handleConnack
  split_ifs
  · exact only_shown_refl _
  · have broadcast := @broadcast_state_shown cfg lib now
      (announceEntities cfg net nc (sessionAccepted cfg net nc now state))
    rw [told] at broadcast
    exact broadcast

end Broadcasts

section Steps

theorem own_run (now : Int) (message : MqttMessage) (st : SprinklerdState) :
    run (daemonStep cfg) st (ownEvents cfg now message) =
      if cfg.enableMQTTaq ∧ beginsWith message cfg.mqttTopic then
        actionMqttMessage cfg now message st
      else st := by
  unfold ownEvents
  split_ifs <;> rfl

theorem domoticz_run (now : Int) (message : MqttMessage) (st : SprinklerdState) :
    run (daemonStep cfg) st (domoticzEvents cfg net now message) =
      if cfg.enableMQTTdz ∧ beginsWith message net.mqttDzSubTopic then
        domoticzPayload cfg now message.payload message.afterPayload st
      else st := by
  unfold domoticzEvents domoticzPayload
  simp only
  split_ifs <;> rfl

theorem publish_run (now : Int) (message : MqttMessage) (messageId : Nat) (state : NetState) :
    (handlePublish cfg net now message messageId state).st =
      run (daemonStep cfg) state.st (publishEvents cfg net now message messageId state.session) := by
  unfold handlePublish publishEvents
  by_cases heeds : heeded now state.session.mqttConnectedTime messageId = true
  · rw [if_pos heeds, if_pos heeds, run_append, own_run, domoticz_run]
  · rw [if_neg heeds, if_neg heeds]
    rfl

theorem packet_run (nc : Nat) (now : Int) (beyond : Bytes) (packet : HandledPacket)
    (state : NetState) :
    (handlePacket cfg net lib nc now beyond packet state).st =
      run (daemonStep cfg) state.st (packetEvents cfg net lib nc now beyond packet state) := by
  unfold packetEvents
  split_ifs with connack publish
  · have only : OnlyShown state.st (handlePacket cfg net lib nc now beyond packet state).st := by
      rw [handlePacket, if_pos connack]
      exact handle_connack_shown nc now _ state
    exact (@shown_step cfg _ _ only now).symm
  · have other : packet.1.cmd ≠ cmdSuback := by
      rw [publish]
      decide
    rw [handlePacket, if_neg connack, if_neg other, if_pos publish]
    exact publish_run now _ _ state
  · rw [handlePacket, if_neg connack, if_neg publish]
    split_ifs
    · exact send_messages_st nc [(aliveTopic cfg, mqttOn)] state
    · rfl

theorem packets_run (nc : Nat) (clock : Nat → Int) (beyond : Bytes) (read : Nat)
    (packets : List HandledPacket) (state : NetState) :
    (handlePackets cfg net lib nc clock beyond read packets state).st =
      run (daemonStep cfg) state.st
        (packetsEvents cfg net lib nc clock beyond read packets state) := by
  induction packets generalizing read state with
  | nil => rfl
  | cons packet rest ih => rw [packetsEvents, run_append, ← packet_run, handlePackets, ih]

theorem tick_run (clock : PassClock) (st : SprinklerdState) :
    (tick cfg clock st).1 = run (daemonStep cfg) st (tickEvents cfg clock st) := by
  unfold tick tickEvents
  simp only
  split_ifs <;> rfl

theorem net_step_run (state : NetState) (event : NetEvent) :
    (netStep cfg net lib state event).st =
      run (daemonStep cfg) state.st (netEvents cfg net lib state event) := by
  cases event with
  | webRequest | filesOpen | connect => rfl
  | recv nc clock piece beyond => exact packets_run nc clock beyond 0 _ _
  | close nc =>
      unfold netStep handleClose
      simp only
      split_ifs <;> rfl
  | pass clock opens =>
      have only : OnlyShown (tick cfg clock state.st).1
          (netStep cfg net lib state (.pass clock opens)).st := by
        have announced := @announce_to_shown cfg lib clock.broadcast (tick cfg clock state.st).2
          { state with sent := [], st := (tick cfg clock state.st).1 }
        unfold netStep netPass checkNetServices
        simp only
        split_ifs <;> exact announced
      rw [netEvents, run_append, ← tick_run]
      exact (@shown_step cfg _ _ only clock.broadcast).symm

theorem net_simulates :
    Simulates (netStep cfg net lib) (daemonStep cfg) NetState.st (netEvents cfg net lib)
      fun _ _ => True :=
  fun state event _ => net_step_run state event

end Steps

section Valves

/-- The zone numbers of web requests are the only ones that are not checked. -/
def RequestNumbered (cfg : SprinklerdCfg) (state : NetState) : NetEvent → Prop
  | .webRequest _ query stack => ZoneNumbered cfg state.st (.webRequest query stack)
  | _ => True

/-- What else the daemon does is to handle messages and to let the ticks run. -/
def Unnumbered : TimedEvent → Prop
  | (_, .webRequest _ _) => False
  | (_, .call operation) => operation = .check ∨ operation = .checkDelay24h
  | _ => True

theorem unnumbered_zone_numbered {st : SprinklerdState} {event : TimedEvent}
    (other : Unnumbered event) : ZoneNumbered cfg st event.2 := by
  obtain ⟨now, event⟩ := event
  cases event with
  | webRequest => cases other
  | call operation => rcases other with rfl | rfl <;> rfl
  | _ => trivial

theorem own_unnumbered {now : Int} {message : MqttMessage} {event : TimedEvent}
    (member : event ∈ ownEvents cfg now message) : Unnumbered event := by
  unfold ownEvents at member
  split_ifs at member
  · cases List.mem_singleton.mp member
    trivial
  · cases member

theorem domoticz_unnumbered {now : Int} {message : MqttMessage} {event : TimedEvent}
    (member : event ∈ domoticzEvents cfg net now message) : Unnumbered event := by
  unfold domoticzEvents at member
  simp only at member
  split_ifs at member
  · cases List.mem_singleton.mp member
    trivial
  · cases member
  · cases member

theorem packet_unnumbered {nc : Nat} {now : Int} {beyond : Bytes} {packet : HandledPacket}
    {state : NetState} {event : TimedEvent}
    (member : event ∈ packetEvents cfg net lib nc now beyond packet state) : Unnumbered event := by
  unfold packetEvents publishEvents at member
  split_ifs at member
  · cases List.mem_singleton.mp member
    trivial
  · rcases List.mem_append.mp member with own | domoticz
    · exact own_unnumbered own
    · exact domoticz_unnumbered domoticz
  · cases member
  · cases member

theorem packets_unnumbered {nc : Nat} {clock : Nat → Int} {beyond : Bytes} {read : Nat}
    {packets : List HandledPacket} {state : NetState} {event : TimedEvent}
    (member : event ∈ packetsEvents cfg net lib nc clock beyond read packets state) :
    Unnumbered event := by
  induction packets generalizing read state with
  | nil => cases member
  | cons packet rest ih =>
      rcases List.mem_append.mp member with here | later
      · exact packet_unnumbered here
      · exact ih later

theorem tick_unnumbered {clock : PassClock} {st : SprinklerdState} {event : TimedEvent}
    (member : event ∈ tickEvents cfg clock st) : Unnumbered event := by
  unfold tickEvents at member
  rcases List.mem_append.mp member with first | delay
  · rcases List.mem_cons.mp first with rfl | check
    · trivial
    · cases List.mem_singleton.mp check
      exact Or.inl rfl
  · split_ifs at delay
    · cases delay
    · cases List.mem_singleton.mp delay
      exact Or.inr rfl

theorem pass_unnumbered {clock : PassClock} {opens : Bool} {state : NetState} {event : TimedEvent}
    (member : event ∈ netEvents cfg net lib state (.pass clock opens)) : Unnumbered event := by
  rcases List.mem_append.mp member with ticked | last
  · exact tick_unnumbered ticked
  · cases List.mem_singleton.mp last
    trivial

theorem unnumbered_admitted {allowed : SprinklerdState → TimedEvent → Prop}
    (each : ∀ st event, Unnumbered event → allowed st event) {st : SprinklerdState}
    {events : List TimedEvent} (others : ∀ event ∈ events, Unnumbered event) :
    Admitted (daemonStep cfg) allowed st events := by
  induction events generalizing st with
  | nil => trivial
  | cons event rest ih =>
      refine ⟨each st event (others event List.mem_cons_self), ?_⟩
      exact ih fun later member => others later (List.mem_cons_of_mem _ member)

/-- What is allowed of everything but web requests has to be known of those alone. -/
theorem net_events_admitted {allowed : SprinklerdState → TimedEvent → Prop}
    (each : ∀ st event, Unnumbered event → allowed st event) {state : NetState}
    {event : NetEvent}
    (web : ∀ now query stack, event = .webRequest now query stack →
      allowed state.st (now, .webRequest query stack)) :
    Admitted (daemonStep cfg) allowed state.st (netEvents cfg net lib state event) := by
  cases event with
  | webRequest now query stack => exact ⟨web now query stack rfl, trivial⟩
  | filesOpen => exact ⟨each _ _ trivial, trivial⟩
  | connect | close => trivial
  | recv => exact unnumbered_admitted each fun _ member => packets_unnumbered member
  | pass => exact unnumbered_admitted each fun _ member => pass_unnumbered member

theorem net_events_numbered {state : NetState} {event : NetEvent}
    (numbered : RequestNumbered cfg state event) :
    Admitted (daemonStep cfg) (fun st event => ZoneNumbered cfg st event.2) state.st
      (netEvents cfg net lib state event) := by
  apply net_events_admitted fun _ _ other => unnumbered_zone_numbered other
  rintro now query stack rfl
  exact numbered

theorem net_run_safe (wired : WellWired cfg) {st : SprinklerdState} (startup : Startup cfg st)
    {opens : Bool} {events : List NetEvent}
    (numbered : Admitted (netStep cfg net lib) (RequestNumbered cfg) (netStart cfg opens st)
      events) :
    Safe cfg st.gpio.level (run (netStep cfg net lib) (netStart cfg opens st) events).st := by
  have simulates : Simulates (netStep cfg net lib) (daemonStep cfg) NetState.st
      (netEvents cfg net lib) (RequestNumbered cfg) :=
    fun state event _ => net_step_run state event
  exact view_invariant simulates (Safe cfg st.gpio.level)
    (fun _ _ safe numbered => daemon_step_safe wired safe numbered)
    (fun _ _ numbered => net_events_numbered numbered) (startup_safe startup) numbered

/-- Whatever arrives on the network, at most one zone reads on after every single write
that a pin has taken. -/
theorem zones_exclusive_on_the_network (wired : WellWired cfg) {st : SprinklerdState}
    (startup : Startup cfg st) (opens : Bool) (events : List NetEvent)
    (numbered : Admitted (netStep cfg net lib) (RequestNumbered cfg) (netStart cfg opens st)
      events) :
    let after := (run (netStep cfg net lib) (netStart cfg opens st) events).st
    after.gpio.level = replay st.gpio.level after.gpio.writes ∧
      ∀ done, done <:+ after.gpio.writes → Exclusive cfg (replay st.gpio.level done) := by
  have safe := net_run_safe wired startup numbered
  exact ⟨safe.writes.accounted, safe.writes.exclusive⟩

/-- Home Assistant turns on zone 1 and then, in a packet that arrives in two pieces, zone 2. -/
def benchSwitches : List NetEvent :=
  let second := sendBytes (.publish (textBytes "sprinkler/zone2/set".toList) 0 0 [49])
  [.connect 0, .recv 0 (fun _ => 1000) [0x20, 0x02, 0x00, 0x00] [],
    .recv 0 (fun _ => 1010)
      (sendBytes (.publish (textBytes "sprinkler/zone1/set".toList) 0 0 [49]) ++ second.take 7) [],
    .recv 0 (fun _ => 1020) (second.drop 7) []]

theorem zones_exclusive_on_the_network_switches :
    let after := (run (netStep benchMqtt benchNet benchLibrary)
      (netStart benchMqtt true benchState) benchSwitches).st
    after.gpio.writes = [(6, true), (5, false), (4, true), (5, true)] ∧
      ∀ done, done <:+ after.gpio.writes →
        Exclusive benchMqtt (replay benchState.gpio.level done) := by
  have wired : WellWired benchMqtt := ⟨bench_wired.binary, bench_wired.distinct⟩
  have startup : Startup benchMqtt benchState :=
    ⟨bench_startup.idle, bench_startup.pinsOff, bench_startup.noWrites⟩
  refine ⟨by decide +kernel, ?_⟩
  exact (zones_exclusive_on_the_network wired startup true benchSwitches
    ⟨trivial, trivial, trivial, trivial, trivial⟩).2

end Valves

end SprinklerD.NetworkRuns
