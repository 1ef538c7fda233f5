import SprinklerD.HassioEntities
import SprinklerD.NetworkRuns
import SprinklerD.StatusTopics
import Mathlib.Data.Bool.AllAny

/-!
# What Home Assistant is shown

The broker keeps the last message on each topic, and Home Assistant reads the state of an
entity from there. Once a session has been accepted, what the broker keeps for the entities
that can be switched is what the daemon does, after every pass of the loop: what changes
between two passes leaves a bit in the mask.
-/

namespace SprinklerD.EntityStates

open Foundation.Decimal Foundation.Transitions
open SprinklerD.Config SprinklerD.GpioPi SprinklerD.ZoneCtrl SprinklerD.NetServices
open SprinklerD.ZoneValves SprinklerD.ValveAgreement SprinklerD.Operations SprinklerD.Daemon
open SprinklerD.Broadcast SprinklerD.MainLoop SprinklerD.Announcements SprinklerD.StatusMessages
open SprinklerD.StatusTopics SprinklerD.Hassio SprinklerD.HassioEntities SprinklerD.MqttPackets
open SprinklerD.MqttRoundTrip SprinklerD.MqttStream SprinklerD.MqttSession
open SprinklerD.SessionAgreement SprinklerD.NetworkRuns

set_option autoImplicit false

section Watching

variable (cfg : SprinklerdCfg) (net : MqttCfg) (lib : CLibrary)

def retainedOf : Nat × Sending → Option (Bytes × Bytes)
  | (_, .publish topic _ flags data) => if flags &&& retain ≠ 0 then some (topic, data) else none
  | _ => none

def keeps (kept : Bytes → Option Bytes) (state : NetState) : Bytes → Option Bytes :=
  Foundation.Retained.retain kept (state.sent.filterMap retainedOf)

structure Watched where
  state : NetState
  kept : Bytes → Option Bytes

def watchStep (watched : Watched) (event : NetEvent) : Watched :=
  let state := netStep cfg net lib watched.state event
  { state := state, kept := keeps watched.kept state }

def entityOn (st : SprinklerdState) : Entity → Option Bool
  | .calendar => some st.calendar
  | .delay24h => some st.delay24h
  | .cycleAllZones => some (st.currentZone.type = .zcAll)
  | .zone zone => some (zoneReadsOn cfg st.gpio zone)
  | _ => none

/-- On the state topic that Home Assistant has been told of, the broker keeps the payload
that it has been told of. -/
def Shows (kept : Bytes → Option Bytes) (st : SprinklerdState) : Prop :=
  ∀ entity ∈ entities cfg, ∀ on, entityOn cfg st entity = some on →
    ∃ topic payload, (entityMembers cfg net.labels entity).lookup "state_topic".toList = some topic ∧
      switchPayload on (entityMembers cfg net.labels entity) = some payload ∧
      kept (textBytes topic) = some (textBytes payload)

end Watching

variable {cfg : SprinklerdCfg} {net : MqttCfg} {lib : CLibrary}

section Topics

def IsSwitch (cfg : SprinklerdCfg) : StatusTopic → Prop
  | .zone zone => zone ∈ zoneList cfg
  | .calendar => True
  | .delay24h => True
  | .cycleAllZones => True
  | _ => False

def topicBytes (cfg : SprinklerdCfg) (topic : StatusTopic) : Bytes :=
  textBytes (cfg.mqttTopic ++ topicText topic)

/-- `reportValue` of a topic that is a switch. -/
def switchValue (cfg : SprinklerdCfg) (st : SprinklerdState) : StatusTopic → Text
  | .zone zone => mqttSwitch (zoneReadsOn cfg st.gpio zone)
  | .calendar => mqttSwitch st.calendar
  | .delay24h => mqttSwitch st.delay24h
  | .cycleAllZones => mqttSwitch (st.currentZone.type = .zcAll)
  | _ => []

def TopicsShow (cfg : SprinklerdCfg) (kept : Bytes → Option Bytes) (st : SprinklerdState) : Prop :=
  ∀ topic, IsSwitch cfg topic → kept (topicBytes cfg topic) = some (textBytes (switchValue cfg st topic))

def Aside (cfg : SprinklerdCfg) : Prop :=
  ∀ topic, IsSwitch cfg topic → textBytes cfg.mqttDzPubTopic ≠ topicBytes cfg topic

theorem topic_text_bytes (topic : StatusTopic) : ∀ char ∈ topicText topic, char.toNat < 256 := by
  have number (zone : Int) : ∀ char ∈ zoneText zone, char.toNat < 256 := by
    intro char member
    have letters : ∀ char ∈ "zone".toList, char.toNat < 256 :=
      List.all_iff_forall_prop.mp (by decide)
    rcases List.mem_append.mp member with word | decimal
    · exact letters char word
    · rcases of_mem_print_int decimal with rfl | digit
      · decide
      · have upper : char.toNat ≤ 57 := (Char.isDigit_iff_toNat.mp digit).2
        omega
  have word (zone : Int) {rest : Text} (plain : rest.all fun char => char.toNat < 256) :
      ∀ char ∈ '/' :: zoneText zone ++ rest, char.toNat < 256 := by
    intro char member
    rcases List.mem_append.mp member with front | back
    · rcases List.mem_cons.mp front with rfl | inside
      · decide
      · exact number zone char inside
    · exact List.all_iff_forall_prop.mp plain char back
  cases topic with
  | zone zone =>
      have plain := @word zone [] (by simp)
      rw [List.append_nil] at plain
      exact plain
  | zoneDuration zone => exact word zone (by decide)
  | zoneRemaining zone => exact word zone (by decide)
  | _ => exact List.all_iff_forall_prop.mp (by decide)

theorem topic_bytes_injective {topic other : StatusTopic}
    (same : topicBytes cfg topic = topicBytes cfg other) : topic = other := by
  apply topic_text_injective
  unfold topicBytes textBytes at same
  rw [List.map_append, List.map_append] at same
  have below := congrArg bytesText (List.append_cancel_left same)
  change bytesText (textBytes _) = bytesText (textBytes _) at below
  rwa [bytes_text_of_text (topic_text_bytes topic), bytes_text_of_text (topic_text_bytes other)]
    at below

end Topics

section Messages

variable {kept : Bytes → Option Bytes} {st : SprinklerdState}

def messageBytes (message : Text × Text) : Bytes × Bytes := (textBytes message.1, textBytes message.2)

theorem keeps_send (kept : Bytes → Option Bytes) (nc : Nat) (messages : List (Text × Text))
    (state : NetState) :
    keeps kept (sendMessages nc messages state) =
      Foundation.Retained.retain (keeps kept state) (messages.map messageBytes) := by
  induction messages generalizing state with
  | nil => rfl
  | cons message rest ih =>
      have flag : (retain ||| qosFlags 1) &&& retain ≠ 0 := by decide
      have first : keeps kept (sendMqttMsg nc state message) =
          Foundation.Retained.retain (keeps kept state) [messageBytes message] := by
        unfold keeps sendMqttMsg
        rw [List.filterMap_append, Foundation.Retained.retain_append]
        simp only [List.filterMap_cons, List.filterMap_nil, retainedOf, if_pos flag]
        rfl
      rw [sendMessages, List.foldl_cons, ← sendMessages, ih, first,
        ← Foundation.Retained.retain_append]
      rfl

/-- Messages on other topics leave the switches alone. -/
theorem other_messages_show {messages : List (Text × Text)}
    (others : ∀ message ∈ messages, ∀ topic, IsSwitch cfg topic →
      textBytes message.1 ≠ topicBytes cfg topic)
    (shows : TopicsShow cfg kept st) :
    TopicsShow cfg (Foundation.Retained.retain kept (messages.map messageBytes)) st := by
  intro topic switch
  rw [Foundation.Retained.retain_silent]
  · exact shows topic switch
  · intro value member
    obtain ⟨message, sent, same⟩ := List.mem_map.mp member
    exact others message sent topic switch (congrArg Prod.fst same)

theorem switch_value_report (now : Int) {topic : StatusTopic} (switch : IsSwitch cfg topic) :
    switchValue cfg st topic = reportValue cfg lib now st topic ∧
      ∀ zone, topic ≠ .zoneRemaining zone := by
  cases topic with
  | zone | calendar | delay24h | cycleAllZones => exact ⟨rfl, nofun⟩
  | _ => cases switch

theorem switch_broadcast (own : cfg.enableMQTTaq = true) (now : Int) (published : Published)
    {topic : StatusTopic} (switch : IsSwitch cfg topic) :
    .status topic (switchValue cfg st topic) ∈
      (broadcastSprinklerdstate cfg lib true now published st).sent := by
  apply mem_broadcast_state.mpr
  cases topic with
  | zone zone =>
      refine Or.inl ⟨zone, in_table_of_zone switch, ?_⟩
      rw [publishZoneStatus, if_pos own]
      exact List.mem_cons_self
  | calendar | delay24h | cycleAllZones =>
      refine Or.inr ⟨own, ?_⟩
      unfold publishReports
      simp [switchValue]
  | _ => cases switch

/-- A broadcast of the state puts all switches right, whatever was kept before. -/
theorem broadcast_shows (own : cfg.enableMQTTaq = true) (aside : Aside cfg)
    (kept : Bytes → Option Bytes) (now : Int) (published : Published) (st : SprinklerdState) :
    TopicsShow cfg (Foundation.Retained.retain kept
      (((broadcastSprinklerdstate cfg lib true now published st).sent.map
        (publicationMessage cfg)).map messageBytes)) st := by
  intro topic switch
  have value := @switch_value_report cfg lib st now topic switch
  apply Foundation.Retained.retain_value
  · have sent := @switch_broadcast cfg lib st own now published topic switch
    exact List.mem_map_of_mem (List.mem_map_of_mem sent)
  · intro other member
    obtain ⟨message, inside, same⟩ := List.mem_map.mp member
    obtain ⟨publication, sent, rfl⟩ := List.mem_map.mp inside
    obtain ⟨topics, payloads⟩ := Prod.mk.inj same
    cases publication with
    | status found payload =>
        cases topic_bytes_injective topics
        rw [← payloads, value.1]
        exact congrArg textBytes (report_value_state value.2 sent)
    | domoticz => exact absurd topics (aside topic switch)

theorem active_not_switch {topic : StatusTopic} {payload : Text}
    (sent : .status topic payload ∈ publishActive cfg lib st) : ¬ IsSwitch cfg topic := by
  unfold publishActive at sent
  rcases List.mem_append.mp sent with run | total
  · split_ifs at run <;>
      simp only [List.mem_cons, List.not_mem_nil, or_false, Publication.status.injEq] at run
    · rcases run with ⟨rfl, -⟩ | ⟨rfl, -⟩ <;> exact id
    · rcases run with ⟨rfl, -⟩ | ⟨rfl, -⟩ | ⟨rfl, -⟩ <;> exact id
  · split_ifs at total <;>
      simp only [List.mem_cons, List.not_mem_nil, or_false, Publication.status.injEq] at total
    · rcases total with ⟨rfl, -⟩ | ⟨rfl, -⟩ <;> exact id
    · rw [total.1]
      exact id

theorem active_others {message : Text × Text}
    (member : message ∈ (publishActive cfg lib st).map (publicationMessage cfg)) :
    ∀ topic, IsSwitch cfg topic → textBytes message.1 ≠ topicBytes cfg topic := by
  intro topic switch same
  obtain ⟨publication, sent, rfl⟩ := List.mem_map.mp member
  cases publication with
  | status found payload =>
      cases topic_bytes_injective same
      exact active_not_switch sent switch
  | domoticz =>
      unfold publishActive at sent
      split_ifs at sent <;> simp at sent

theorem alive_other {topic : StatusTopic} (switch : IsSwitch cfg topic) :
    textBytes (aliveTopic cfg) ≠ topicBytes cfg topic := by
  intro same
  have alive : topic = .alive := @topic_bytes_injective cfg _ _ same.symm
  rw [alive] at switch
  exact switch

end Messages

section Observing

variable {st st' : SprinklerdState}

theorem switch_value_observe (same : observe cfg st' = observe cfg st) {topic : StatusTopic}
    (switch : IsSwitch cfg topic) : switchValue cfg st' topic = switchValue cfg st topic := by
  cases topic with
  | zone zone =>
      have levels := congrArg Observation.levels same
      have member := mem_table_zones.mpr (in_table_of_zone switch)
      have level : st'.gpio.level (cfg.zonecfg zone).pin = st.gpio.level (cfg.zonecfg zone).pin :=
        List.map_inj_left.mp levels zone member
      have reads : zoneReadsOn cfg st'.gpio zone = zoneReadsOn cfg st.gpio zone := by
        unfold zoneReadsOn digitalRead
        rw [level]
      exact congrArg mqttSwitch reads
  | calendar => exact congrArg mqttSwitch (congrArg Observation.calendar same)
  | delay24h => exact congrArg mqttSwitch (congrArg Observation.delay24h same)
  | cycleAllZones =>
      have type : st'.currentZone.type = st.currentZone.type := congrArg Observation.type same
      exact congrArg (fun type => mqttSwitch (decide (type = .zcAll))) type
  | _ => cases switch

theorem topics_show_observe {kept : Bytes → Option Bytes} (same : observe cfg st' = observe cfg st)
    (shows : TopicsShow cfg kept st) : TopicsShow cfg kept st' := by
  intro topic switch
  rw [switch_value_observe same switch]
  exact shows topic switch

theorem only_shown_observe (only : OnlyShown st st') : observe cfg st' = observe cfg st := by
  rw [only]
  rfl

theorem clear_mask_observe (mask : EventMask) :
    observe cfg { st with updateEventMask := mask } = observe cfg st := rfl

end Observing

section Steps

structure Standing (cfg : SprinklerdCfg) (state : NetState) : Prop where
  marked : ∃ nc, (nc, true) ∈ links state.session
  agrees : ValveAgreement.Agrees cfg state.st.gpio state.st.currentZone

/-- Behind an empty mask there is nothing left to tell. -/
def UpToDate (cfg : SprinklerdCfg) (kept : Bytes → Option Bytes) (state : NetState) : Prop :=
  Quiet state.st → TopicsShow cfg (keeps kept state) state.st

variable {kept : Bytes → Option Bytes} {state : NetState}

theorem marked_same {before after : Session} (marked : ∃ nc, (nc, true) ∈ links before)
    (same : SameLinks before after) : ∃ nc, (nc, true) ∈ links after := by
  rw [same.links]
  exact marked

theorem state_to_shows (own : cfg.enableMQTTaq = true) (aside : Aside cfg)
    (kept : Bytes → Option Bytes) (now : Int) (state : NetState) (nc : Nat) :
    TopicsShow cfg (keeps kept (stateTo cfg lib now state nc))
      (stateTo cfg lib now state nc).st := by
  have only := @state_to_shown cfg lib now state nc
  apply topics_show_observe (only_shown_observe only)
  unfold stateTo
  simp only
  rw [keeps_send]
  exact broadcast_shows own aside _ now state.published state.st

theorem broadcast_state_shows (own : cfg.enableMQTTaq = true) (aside : Aside cfg)
    (kept : Bytes → Option Bytes) (now : Int) (marked : ∃ nc, (nc, true) ∈ links state.session) :
    TopicsShow cfg (keeps kept (broadcastState cfg lib now state))
      (broadcastState cfg lib now state).st := by
  have every (connections : List Nat) (some : connections ≠ []) (state : NetState) :
      TopicsShow cfg (keeps kept (connections.foldl (stateTo cfg lib now) state))
        (connections.foldl (stateTo cfg lib now) state).st := by
    induction connections generalizing state with
    | nil => exact absurd rfl some
    | cons nc rest ih =>
        cases rest with
        | nil => exact state_to_shows own aside kept now state nc
        | cons next rest => exact ih (by simp) (stateTo cfg lib now state nc)
  obtain ⟨nc, member⟩ := marked
  have some : mqttConnections state.session ≠ [] :=
    List.ne_nil_of_mem (mem_mqtt_connections.mpr member)
  exact topics_show_observe (clear_mask_observe _) (every _ some state)

theorem broadcast_active_shows (shows : TopicsShow cfg (keeps kept state) state.st) :
    TopicsShow cfg (keeps kept (broadcastActive cfg lib state)) (broadcastActive cfg lib state).st := by
  have every (connections : List Nat) (state : NetState)
      (shows : TopicsShow cfg (keeps kept state) state.st) :
      TopicsShow cfg (keeps kept (connections.foldl (activeTo cfg lib) state))
        (connections.foldl (activeTo cfg lib) state).st := by
    induction connections generalizing state with
    | nil => exact shows
    | cons nc rest ih =>
        apply ih (activeTo cfg lib state nc)
        rw [activeTo, keeps_send, send_messages_st]
        exact other_messages_show (fun _ member => active_others member) shows
  exact topics_show_observe (clear_mask_observe _) (every _ state shows)

/-- A run of arrivals that leaves the mask empty has changed nothing that is shown. -/
theorem silent_shows {st' : SprinklerdState} (up : UpToDate cfg kept state)
    (before : ValveAgreement.Agrees cfg state.st.gpio state.st.currentZone)
    (after : ValveAgreement.Agrees cfg st'.gpio st'.currentZone)
    (announces : Announces state.st st') (quiet : Quiet st') :
    TopicsShow cfg (keeps kept state) st' := by
  have silent := announces quiet
  exact topics_show_observe (silent_observe before after silent) (up silent.quiet)

theorem run_agrees (sound : SoundWiring cfg) {st : SprinklerdState} {events : List TimedEvent}
    (agrees : ValveAgreement.Agrees cfg st.gpio st.currentZone)
    (checked : Admitted (daemonStep cfg) (fun st event => CheckedEvent cfg st event.2) st events) :
    ValveAgreement.Agrees cfg (run (daemonStep cfg) st events).gpio
      (run (daemonStep cfg) st events).currentZone :=
  run_invariant (fun st _ => ValveAgreement.Agrees cfg st.gpio st.currentZone)
    (fun _ _ _ agrees checked => daemon_step_agrees sound agrees checked) agrees checked

theorem unnumbered_checked (st : SprinklerdState) (event : TimedEvent) (other : Unnumbered event) :
    CheckedEvent cfg st event.2 := by
  obtain ⟨now, event⟩ := event
  cases event with
  | webRequest => cases other
  | call operation => exact other
  | _ => trivial

theorem packet_standing (sound : SoundWiring cfg) (standing : Standing cfg state) (nc : Nat)
    (now : Int) (beyond : Bytes) (packet : HandledPacket) :
    Standing cfg (handlePacket cfg net lib nc now beyond packet state) := by
  constructor
  · by_cases refuses : Refuses packet
    · have stopped := @handle_packet_refused cfg net lib packet refuses nc now beyond state
      rw [stopped.links]
      exact standing.marked
    · exact marked_same standing.marked (handle_packet_same refuses nc now beyond state)
  · rw [packet_run]
    exact run_agrees sound standing.agrees
      (unnumbered_admitted unnumbered_checked fun _ member => packet_unnumbered member)

theorem arrivals_announce {st : SprinklerdState} {events : List TimedEvent}
    (arrivals : ∀ event ∈ events, fromOutside event.2 = true) :
    Announces st (run (daemonStep cfg) st events) := by
  induction events generalizing st with
  | nil => exact announces_refl st
  | cons event rest ih =>
      have here := @arrival_announces cfg event.1
        ⟨event.2, arrivals event List.mem_cons_self⟩ st
      exact announces_trans here
        (ih fun later member => arrivals later (List.mem_cons_of_mem _ member))

theorem publish_from_outside {now : Int} {message : MqttMessage} {messageId : Nat}
    {session : Session} {event : TimedEvent}
    (member : event ∈ publishEvents cfg net now message messageId session) :
    fromOutside event.2 = true := by
  unfold publishEvents ownEvents domoticzEvents at member
  simp only at member
  split_ifs at member <;>
    simp only [List.mem_append, List.mem_singleton, List.not_mem_nil, or_false, false_or] at member
  · rcases member with rfl | rfl <;> rfl
  · rw [member]; rfl
  · rw [member]; rfl
  · rw [member]; rfl

theorem handle_publish_sent (now : Int) (message : MqttMessage) (messageId : Nat)
    (state : NetState) :
    (handlePublish cfg net now message messageId state).sent = state.sent := by
  unfold handlePublish
  split_ifs <;> rfl

theorem connack_shows (own : cfg.enableMQTTaq = true) (aside : Aside cfg)
    (kept : Bytes → Option Bytes) (standing : Standing cfg state) (nc : Nat) (now : Int) :
    TopicsShow cfg (keeps kept (handleConnack cfg net lib nc now 0 state))
      (handleConnack cfg net lib nc now 0 state).st := by
  have marked := marked_same standing.marked (@connected_same cfg net nc now state)
  rw [handleConnack, if_neg (by decide)]
  exact broadcast_state_shows own aside kept now marked

theorem packet_up_to_date (sound : SoundWiring cfg) (own : cfg.enableMQTTaq = true)
    (aside : Aside cfg) (standing : Standing cfg state) (up : UpToDate cfg kept state) (nc : Nat)
    (now : Int) (beyond : Bytes) (packet : HandledPacket) :
    UpToDate cfg kept (handlePacket cfg net lib nc now beyond packet state) := by
  intro quiet
  have after := (@packet_standing cfg net lib state sound standing nc now beyond packet).agrees
  revert quiet after
  unfold handlePacket
  split_ifs with connack suback publish
  · by_cases code : packet.1.connackRetCode = 0
    · rw [code]
      intro _ _
      exact connack_shows own aside kept standing nc now
    · rw [handleConnack, if_pos code]
      intro quiet _
      exact up quiet
  · intro quiet _
    rw [show handleSuback cfg nc state = sendMessages nc [(aliveTopic cfg, mqttOn)] state from rfl,
      keeps_send, send_messages_st]
    apply other_messages_show _ (up quiet)
    intro message member topic switch
    rw [List.mem_singleton.mp member]
    exact alive_other switch
  · intro quiet after
    have sent : keeps kept (handlePublish cfg net now (messageOf packet beyond)
        packet.1.messageId state) = keeps kept state := by
      rw [keeps, handle_publish_sent, ← keeps]
    rw [sent]
    apply silent_shows up standing.agrees after _ quiet
    rw [publish_run]
    exact arrivals_announce fun _ member => publish_from_outside member
  · intro quiet _
    exact up quiet

theorem packets_up_to_date (sound : SoundWiring cfg) (own : cfg.enableMQTTaq = true)
    (aside : Aside cfg) (standing : Standing cfg state) (nc : Nat) (clock : Nat → Int)
    (beyond : Bytes) (read : Nat) {packets : List HandledPacket}
    (known : UpToDate cfg kept state ∨
      ∃ packet ∈ packets, packet.1.cmd = cmdConnack ∧ packet.1.connackRetCode = 0) :
    Standing cfg (handlePackets cfg net lib nc clock beyond read packets state) ∧
      UpToDate cfg kept (handlePackets cfg net lib nc clock beyond read packets state) := by
  induction packets generalizing read state with
  | nil =>
      refine ⟨standing, known.resolve_right ?_⟩
      rintro ⟨packet, member, -⟩
      cases member
  | cons packet rest ih =>
      have after := @packet_standing cfg net lib state sound standing nc (clock read) beyond packet
      apply ih after
      rcases known with up | ⟨acknowledging, member, connack, code⟩
      · exact Or.inl (packet_up_to_date sound own aside standing up nc (clock read) beyond packet)
      · rcases List.mem_cons.mp member with rfl | later
        · left
          intro _
          rw [handlePacket, if_pos connack, code]
          exact connack_shows own aside kept standing nc (clock read)
        · exact Or.inr ⟨acknowledging, later, connack, code⟩

end Steps

section Runs

variable {watched : Watched}

def RequestChecked (cfg : SprinklerdCfg) (state : NetState) : NetEvent → Prop
  | .webRequest _ query stack => CheckedEvent cfg state.st (.webRequest query stack)
  | _ => True

def StaysUp : NetEvent → Prop
  | .connect _ => False
  | .close _ => False
  | _ => True

def Acknowledges (session : Session) : NetEvent → Prop
  | .recv nc _ piece beyond => ∃ packet ∈ (received nc piece beyond session).handled,
      packet.1.cmd = cmdConnack ∧ packet.1.connackRetCode = 0
  | _ => False

theorem net_step_agrees_valves (sound : SoundWiring cfg) {state : NetState} {event : NetEvent}
    (agrees : ValveAgreement.Agrees cfg state.st.gpio state.st.currentZone)
    (checked : RequestChecked cfg state event) :
    ValveAgreement.Agrees cfg (netStep cfg net lib state event).st.gpio
      (netStep cfg net lib state event).st.currentZone := by
  rw [net_step_run]
  apply run_agrees sound agrees
  apply net_events_admitted unnumbered_checked
  rintro now query stack rfl
  exact checked

theorem pass_marked {state : NetState} (marked : ∃ nc, (nc, true) ∈ links state.session)
    (clock : PassClock) (opens : Bool) :
    ∃ nc, (nc, true) ∈ links (netStep cfg net lib state (.pass clock opens)).session := by
  obtain ⟨session, same, after⟩ := @pass_links cfg net lib state clock opens
  obtain ⟨nc, member⟩ := marked_same marked same
  refine ⟨nc, ?_⟩
  rw [after]
  split_ifs
  · unfold startMqtt
    split_ifs
    · exact member
    · exact List.mem_cons_of_mem _ member
    · exact member
  · exact member

/-- What is seen of the state, the packets and the broker while the session is up. -/
structure InStep (cfg : SprinklerdCfg) (watched : Watched) : Prop where
  standing : Standing cfg watched.state
  known : Quiet watched.state.st → TopicsShow cfg watched.kept watched.state.st

theorem recv_in_step (sound : SoundWiring cfg) (own : cfg.enableMQTTaq = true) (aside : Aside cfg)
    (standing : Standing cfg watched.state) {nc : Nat} {clock : Nat → Int} {piece beyond : Bytes}
    (known : (Quiet watched.state.st → TopicsShow cfg watched.kept watched.state.st) ∨
      Acknowledges watched.state.session (.recv nc clock piece beyond)) :
    InStep cfg (watchStep cfg net lib watched (.recv nc clock piece beyond)) := by
  have handled := @packets_up_to_date cfg net lib watched.kept
    { watched.state with sent := [] } sound own aside ⟨standing.marked, standing.agrees⟩ nc clock
    beyond 0 (received nc piece beyond watched.state.session).handled known
  constructor
  · exact ⟨marked_same handled.1.marked (keep_buffer_same nc _ _), handled.1.agrees⟩
  · exact handled.2

theorem pass_shows (sound : SoundWiring cfg) (own : cfg.enableMQTTaq = true) (aside : Aside cfg)
    (before : InStep cfg watched) (clock : PassClock) (opens : Bool) :
    TopicsShow cfg (watchStep cfg net lib watched (.pass clock opens)).kept
      (watchStep cfg net lib watched (.pass clock opens)).state.st := by
  have ticked : ValveAgreement.Agrees cfg (tick cfg clock watched.state.st).1.gpio
      (tick cfg clock watched.state.st).1.currentZone := by
    rw [tick_run]
    exact run_agrees sound before.standing.agrees
      (unnumbered_admitted unnumbered_checked fun _ member => tick_unnumbered member)
  have announced : TopicsShow cfg
      (keeps watched.kept (announceTo cfg lib clock.broadcast (tick cfg clock watched.state.st).2
        { watched.state with sent := [], st := (tick cfg clock watched.state.st).1 }))
      (announceTo cfg lib clock.broadcast (tick cfg clock watched.state.st).2
        { watched.state with sent := [], st := (tick cfg clock watched.state.st).1 }).st := by
    have quietly (quiet : Quiet (tick cfg clock watched.state.st).1) :
        TopicsShow cfg watched.kept (tick cfg clock watched.state.st).1 := by
      have silent := @tick_announces cfg clock watched.state.st quiet
      exact topics_show_observe (silent_observe before.standing.agrees ticked silent)
        (before.known silent.quiet)
    unfold announceTo
    split_ifs with acted running often
    · exact broadcast_active_shows
        (broadcast_state_shows own aside watched.kept clock.broadcast before.standing.marked)
    · rw [not_or, not_not] at acted
      exact broadcast_active_shows (quietly acted.2)
    · exact broadcast_active_shows
        (broadcast_state_shows own aside watched.kept clock.broadcast before.standing.marked)
    · rw [not_or, not_not] at acted
      exact quietly acted.2
  unfold watchStep netStep netPass checkNetServices
  simp only
  split_ifs <;> exact announced

theorem watch_step_in_step (sound : SoundWiring cfg) (own : cfg.enableMQTTaq = true)
    (aside : Aside cfg) {event : NetEvent} (before : InStep cfg watched) (up : StaysUp event)
    (checked : RequestChecked cfg watched.state event) :
    InStep cfg (watchStep cfg net lib watched event) := by
  have agrees := @net_step_agrees_valves cfg net lib sound watched.state event
    before.standing.agrees checked
  cases event with
  | connect | close => cases up
  | webRequest now query stack =>
      refine ⟨⟨before.standing.marked, agrees⟩, fun quiet => ?_⟩
      have announces := @arrival_announces cfg now ⟨.webRequest query stack, rfl⟩ watched.state.st
      have silent := announces quiet
      exact topics_show_observe (silent_observe before.standing.agrees agrees silent)
        (before.known silent.quiet)
  | filesOpen cacheOpens cronOpens =>
      exact ⟨⟨before.standing.marked, agrees⟩, fun quiet => before.known quiet⟩
  | recv nc clock piece beyond =>
      exact recv_in_step sound own aside before.standing (Or.inl before.known)
  | pass clock opens =>
      exact ⟨⟨@pass_marked cfg net lib _ before.standing.marked clock opens, agrees⟩,
        fun _ => pass_shows sound own aside before clock opens⟩

theorem watched_state (watched : Watched) (events : List NetEvent) :
    (run (watchStep cfg net lib) watched events).state =
      run (netStep cfg net lib) watched.state events := by
  induction events generalizing watched with
  | nil => rfl
  | cons event rest ih => exact ih (watchStep cfg net lib watched event)

theorem watched_admitted {allowed : NetState → NetEvent → Prop} {watched : Watched}
    {events : List NetEvent}
    (admitted : Admitted (netStep cfg net lib) allowed watched.state events) :
    Admitted (watchStep cfg net lib) (fun watched event => allowed watched.state event) watched
      events := by
  induction events generalizing watched with
  | nil => trivial
  | cons event rest ih => exact ⟨admitted.1, ih admitted.2⟩

theorem switch_payload_value {st : SprinklerdState} {entity : Entity} {on : Bool}
    (state : entityOn cfg st entity = some on) :
    switchPayload on (entityMembers cfg net.labels entity) = some (mqttSwitch on) := by
  cases entity with
  | status | activeZone | rainProbability | rainTotal => cases state
  | _ => cases on <;> rfl

theorem entity_shown {kept : Bytes → Option Bytes} {st : SprinklerdState}
    (shows : TopicsShow cfg kept st) : Shows cfg net kept st := by
  intro entity member on state
  have payload := @switch_payload_value cfg net st entity on state
  cases entity with
  | status | activeZone | rainProbability | rainTotal => cases state
  | calendar =>
      cases state
      exact ⟨_, _, rfl, payload, shows .calendar trivial⟩
  | delay24h =>
      cases state
      exact ⟨_, _, rfl, payload, shows .delay24h trivial⟩
  | cycleAllZones =>
      cases state
      exact ⟨_, _, rfl, payload, shows .cycleAllZones trivial⟩
  | zone zone =>
      cases state
      have listed : zone ∈ zoneList cfg := by simpa [entities] using member
      exact ⟨_, _, rfl, payload, shows (.zone zone) listed⟩

/-- After the broker has accepted a session, what it keeps for the entities that can be switched
is the state of the daemon after every pass of the loop, whatever it kept before and whatever
arrives while the connection stays. -/
theorem entities_shown_after_every_pass (sound : SoundWiring cfg) (own : cfg.enableMQTTaq = true)
    (aside : Aside cfg) {st : SprinklerdState} (startup : Startup cfg st) (opens : Bool)
    (kept : Bytes → Option Bytes) {before after : List NetEvent} {accepting : NetEvent}
    (checked : Admitted (netStep cfg net lib) (RequestChecked cfg) (netStart cfg opens st)
      (before ++ accepting :: after))
    (marked : ∃ nc, (nc, true) ∈
      links (run (netStep cfg net lib) (netStart cfg opens st) before).session)
    (accepts : Acknowledges
      (run (netStep cfg net lib) (netStart cfg opens st) before).session accepting)
    (up : ∀ event ∈ after, StaysUp event) (clock : PassClock) (reopens : Bool) :
    let last := run (watchStep cfg net lib) ⟨netStart cfg opens st, kept⟩
      (before ++ accepting :: after ++ [.pass clock reopens])
    Shows cfg net last.kept last.state.st := by
  obtain ⟨early, late⟩ := admitted_append.mp checked
  have agrees : ValveAgreement.Agrees cfg
      (run (netStep cfg net lib) (netStart cfg opens st) before).st.gpio
      (run (netStep cfg net lib) (netStart cfg opens st) before).st.currentZone :=
    run_invariant
      (fun state _ => ValveAgreement.Agrees cfg state.st.gpio state.st.currentZone)
      (fun _ _ _ agrees checked => net_step_agrees_valves sound agrees checked)
      (agrees_all_off startup.idle startup.pinsOff) early
  have accepted : InStep cfg (watchStep cfg net lib
      (run (watchStep cfg net lib) ⟨netStart cfg opens st, kept⟩ before) accepting) := by
    cases accepting with
    | recv nc clock piece beyond =>
        rw [← watched_state ⟨netStart cfg opens st, kept⟩ before] at marked accepts agrees
        exact recv_in_step sound own aside ⟨marked, agrees⟩ (Or.inr accepts)
    | _ => cases accepts
  have rest : Admitted (watchStep cfg net lib)
      (fun watched event => RequestChecked cfg watched.state event)
      (watchStep cfg net lib
        (run (watchStep cfg net lib) ⟨netStart cfg opens st, kept⟩ before) accepting) after := by
    apply watched_admitted
    have same := @watched_state cfg net lib ⟨netStart cfg opens st, kept⟩ before
    rw [watchStep]
    simp only
    rw [same]
    exact late.2
  have inStep := run_invariant
    (fun watched rest => InStep cfg watched ∧ ∀ event ∈ rest, StaysUp event)
    (fun watched event rest held checked =>
      ⟨watch_step_in_step sound own aside held.1 (held.2 event List.mem_cons_self) checked,
        fun later member => held.2 later (List.mem_cons_of_mem _ member)⟩)
    ⟨accepted, up⟩ rest
  rw [List.append_assoc, run_append, List.cons_append, run_cons, run_append, run_cons, run_nil]
  exact entity_shown (pass_shows sound own aside inStep.1 clock reopens)

def benchZoneOn : List NetEvent :=
  [.recv 0 (fun _ => 1010) (sendBytes (.publish (textBytes "sprinkler/zone1/set".toList) 0 0 [49])) []]

theorem entities_shown_after_every_pass_zone :
    (run (watchStep benchMqtt benchNet benchLibrary)
      ⟨netStart benchMqtt true benchState, fun _ => none⟩
      ([.connect 0] ++ .recv 0 (fun _ => 1000) [0x20, 0x02, 0x00, 0x00] [] :: benchZoneOn ++
        [.pass ⟨1011, 1011, 1011, 1011⟩ true])).kept (textBytes "sprinkler/zone1".toList) =
      some (textBytes "1".toList) := by
  have sound : SoundWiring benchMqtt :=
    ⟨⟨bench_sound.binary, bench_sound.distinct⟩, bench_sound.valid⟩
  have startup : Startup benchMqtt benchState :=
    ⟨bench_startup.idle, bench_startup.pinsOff, bench_startup.noWrites⟩
  have aside : Aside benchMqtt := by
    intro topic switch same
    have lengths := congrArg List.length same
    simp [topicBytes, textBytes, benchMqtt, benchCfg] at lengths
  have shown := @entities_shown_after_every_pass benchMqtt benchNet benchLibrary sound rfl aside
    benchState startup true (fun _ => none) [.connect 0] benchZoneOn
    (.recv 0 (fun _ => 1000) [0x20, 0x02, 0x00, 0x00] []) ⟨trivial, trivial, trivial, trivial⟩
    ⟨0, by decide⟩ (by unfold Acknowledges; decide) (by simp [benchZoneOn, StaysUp])
    ⟨1011, 1011, 1011, 1011⟩ true
  obtain ⟨topic, payload, stated, switches, kept⟩ :=
    shown (.zone 1) (by decide) true (by decide +kernel)
  cases stated
  cases switches
  exact kept

end Runs

end SprinklerD.EntityStates
