import SprinklerD.MqttSession

/-!
# One session at a time

The status of the session and the connections of the manager are kept apart: a refused
session is stopped at once, while its connection stays marked until mongoose closes it. As
long as no session is refused the two agree, and then there is at most one connection to
write to.
-/

namespace SprinklerD.SessionAgreement

open Foundation.PacketStream Foundation.Transitions
open SprinklerD.Config SprinklerD.ZoneCtrl SprinklerD.Operations SprinklerD.Daemon SprinklerD.Broadcast
open SprinklerD.MainLoop SprinklerD.Hassio SprinklerD.MqttPackets SprinklerD.MqttStream
open SprinklerD.MqttSession

set_option autoImplicit false

section Links

def links (session : Session) : List (Nat × Bool) :=
  session.activeConnections.map fun connection => (connection.nc, connection.isMqtt)

structure SameLinks (before after : Session) : Prop where
  status : after.mqttStatus = before.mqttStatus
  connection : after.mqttConnection = before.mqttConnection
  links : links after = links before

def Agrees (session : Session) : Prop :=
  match session.mqttStatus with
  | .mqttstarting => session.mqttConnection = none ∧ ∃ nc, links session = [(nc, false)]
  | .mqttrunning => ∃ nc, session.mqttConnection = some nc ∧ links session = [(nc, true)]
  | .mqttstopped => session.mqttConnection = none ∧ links session = []
  | .mqttdisabled => session.mqttConnection = none ∧ links session = []

/-- The connection of the session is one of those that are marked. -/
def Stands (session : Session) : Prop :=
  ∀ nc, session.mqttConnection = some nc → (nc, true) ∈ links session

/-- Mongoose tells of each connection it makes, also of one that failed, before it reads from
it and closes it. -/
def Possible (state : NetState) : NetEvent → Prop
  | .connect nc => (nc, false) ∈ links state.session
  | .recv nc _ _ _ => (nc, true) ∈ links state.session
  | .close nc => (nc, true) ∈ links state.session
  | _ => True

def Refuses (packet : HandledPacket) : Prop :=
  packet.1.cmd = cmdConnack ∧ packet.1.connackRetCode ≠ 0

def Accepted (state : NetState) : NetEvent → Prop
  | .recv nc _ piece beyond => ∀ packet ∈ (received nc piece beyond state.session).handled,
      ¬ Refuses packet
  | _ => True

theorem same_links_refl (session : Session) : SameLinks session session := ⟨rfl, rfl, rfl⟩

theorem same_links_trans {first second third : Session} (front : SameLinks first second)
    (back : SameLinks second third) : SameLinks first third where
  status := back.status.trans front.status
  connection := back.connection.trans front.connection
  links := back.links.trans front.links

theorem same_links_ids {before after : Session} (ids : OnlyIds before after) :
    SameLinks before after := by
  obtain ⟨msgId, rfl⟩ := ids
  exact ⟨rfl, rfl, rfl⟩

theorem agrees_same {before after : Session} (same : SameLinks before after) :
    Agrees after ↔ Agrees before := by
  unfold Agrees
  rw [same.status, same.connection, same.links]

theorem stands_same {before after : Session} (same : SameLinks before after) :
    Stands after ↔ Stands before := by
  unfold Stands
  rw [same.connection, same.links]

theorem mem_links {nc : Nat} {isMqtt : Bool} {session : Session} :
    (nc, isMqtt) ∈ links session ↔
      ∃ connection ∈ session.activeConnections, connection.nc = nc ∧ connection.isMqtt = isMqtt := by
  simp only [links, List.mem_map, Prod.mk.injEq]

theorem mem_mqtt_connections {nc : Nat} {session : Session} :
    nc ∈ mqttConnections session ↔ (nc, true) ∈ links session := by
  rw [mem_links, mqttConnections]
  simp only [List.mem_map, List.mem_filter, and_assoc]
  exact exists_congr fun connection => and_congr_right fun _ => and_comm

end Links

variable {cfg : SprinklerdCfg} {net : MqttCfg} {lib : CLibrary}

section Packets

/-- A refused session is stopped while its connection stays. -/
structure Stopped (before after : Session) : Prop where
  status : after.mqttStatus = .mqttstopped
  connection : after.mqttConnection = none
  links : links after = links before

theorem announce_entities_same (nc : Nat) (state : NetState) :
    SameLinks state.session (announceEntities cfg net nc state).session := by
  unfold announceEntities
  split_ifs
  · have told := same_links_ids (send_messages_ids nc
      (publishMqttHassioDiscover cfg net.labels net.mqttHaDisTopic) state)
    exact ⟨told.status, told.connection, told.links⟩
  · exact same_links_refl _

/-- An accepted session is marked, and its entities announced, on the connection it came over. -/
theorem connected_same (nc : Nat) (now : Int) (state : NetState) :
    SameLinks state.session
      (announceEntities cfg net nc (sessionAccepted cfg net nc now state)).session := by
  have accepted : SameLinks state.session (sessionAccepted cfg net nc now state).session :=
    ⟨rfl, rfl, rfl⟩
  exact same_links_trans accepted (announce_entities_same nc _)

theorem handle_connack_accepted (nc : Nat) (now : Int) (state : NetState) :
    SameLinks state.session (handleConnack cfg net lib nc now 0 state).session := by
  unfold handleConnack
  rw [if_neg (by decide)]
  exact same_links_trans (connected_same nc now state) (same_links_ids (broadcast_state_ids now _))

theorem handle_packet_same {packet : HandledPacket} (accepted : ¬ Refuses packet) (nc : Nat)
    (now : Int) (beyond : Bytes) (state : NetState) :
    SameLinks state.session (handlePacket cfg net lib nc now beyond packet state).session := by
  unfold handlePacket
  split_ifs with connack
  · have code : packet.1.connackRetCode = 0 := by
      by_contra other
      exact accepted ⟨connack, other⟩
    rw [code]
    exact handle_connack_accepted nc now state
  · exact same_links_ids (send_messages_ids nc [(aliveTopic cfg, mqttOn)] state)
  · rw [handle_publish_ids]
    exact same_links_refl _
  · exact same_links_refl _

theorem handle_packet_refused {packet : HandledPacket} (refuses : Refuses packet) (nc : Nat)
    (now : Int) (beyond : Bytes) (state : NetState) :
    Stopped state.session (handlePacket cfg net lib nc now beyond packet state).session := by
  unfold handlePacket handleConnack
  rw [if_pos refuses.1, if_pos refuses.2]
  exact ⟨rfl, rfl, rfl⟩

theorem stopped_same {first second third : Session} (stopped : Stopped first second)
    (same : SameLinks second third) : Stopped first third where
  status := same.status.trans stopped.status
  connection := same.connection.trans stopped.connection
  links := same.links.trans stopped.links

theorem handle_packets_same (nc : Nat) (clock : Nat → Int) (beyond : Bytes) (read : Nat)
    {packets : List HandledPacket} (accepted : ∀ packet ∈ packets, ¬ Refuses packet)
    (state : NetState) :
    SameLinks state.session (handlePackets cfg net lib nc clock beyond read packets state).session := by
  induction packets generalizing read state with
  | nil => exact same_links_refl _
  | cons packet rest ih =>
      have first := @handle_packet_same cfg net lib _ (accepted packet List.mem_cons_self) nc
        (clock read) beyond state
      exact same_links_trans first
        (ih (read + 1) (fun later member => accepted later (List.mem_cons_of_mem _ member)) _)

/-- One refusal is enough, whatever comes behind it in the same piece. -/
theorem handle_packets_refused (nc : Nat) (clock : Nat → Int) (beyond : Bytes) (read : Nat)
    {packets : List HandledPacket} (refused : ∃ packet ∈ packets, Refuses packet)
    (state : NetState) :
    Stopped state.session (handlePackets cfg net lib nc clock beyond read packets state).session := by
  induction packets generalizing read state with
  | nil =>
      obtain ⟨packet, member, -⟩ := refused
      cases member
  | cons packet rest ih =>
      by_cases later : ∃ packet ∈ rest, Refuses packet
      · have stopped := ih (read + 1) later
          (handlePacket cfg net lib nc (clock read) beyond packet state)
        by_cases here : Refuses packet
        · have first := @handle_packet_refused cfg net lib _ here nc (clock read) beyond state
          exact ⟨stopped.status, stopped.connection, stopped.links.trans first.links⟩
        · have first := @handle_packet_same cfg net lib _ here nc (clock read) beyond state
          exact ⟨stopped.status, stopped.connection, stopped.links.trans first.links⟩
      · have here : Refuses packet := by
          obtain ⟨refusing, member, refuses⟩ := refused
          rcases List.mem_cons.mp member with rfl | within
          · exact refuses
          · exact absurd ⟨refusing, within, refuses⟩ later
        exact stopped_same (handle_packet_refused here nc (clock read) beyond state)
          (handle_packets_same nc clock beyond (read + 1)
            (fun later' member refuses => later ⟨later', member, refuses⟩) _)

theorem keep_buffer_same (nc : Nat) (recvMbuf : Option Bytes) (state : NetState) :
    SameLinks state.session (keepBuffer nc recvMbuf state).session := by
  constructor
  · rfl
  · rfl
  · unfold keepBuffer links
    rw [List.map_map]
    apply List.map_congr_left
    intro connection _
    rw [Function.comp_apply]
    split_ifs <;> rfl

end Packets

section Steps

variable {state : NetState} {event : NetEvent}

theorem recv_same {nc : Nat} {clock : Nat → Int} {piece beyond : Bytes}
    (accepted : Accepted state (.recv nc clock piece beyond)) :
    SameLinks state.session (netStep cfg net lib state (.recv nc clock piece beyond)).session :=
  same_links_trans (handle_packets_same nc clock beyond 0 accepted { state with sent := [] })
    (keep_buffer_same nc _ _)

theorem recv_refused {nc : Nat} {clock : Nat → Int} {piece beyond : Bytes}
    (refused : ¬ Accepted state (.recv nc clock piece beyond)) :
    Stopped state.session (netStep cfg net lib state (.recv nc clock piece beyond)).session := by
  simp only [Accepted, not_forall, not_not] at refused
  obtain ⟨packet, member, refuses⟩ := refused
  exact stopped_same
    (handle_packets_refused nc clock beyond 0 ⟨packet, member, refuses⟩ { state with sent := [] })
    (keep_buffer_same nc _ _)

theorem links_connect (nc : Nat) (session : Session) :
    links (markMqtt nc session) =
      (links session).map fun link => if link.1 = nc then (link.1, true) else link := by
  unfold markMqtt links
  rw [List.map_map, List.map_map]
  apply List.map_congr_left
  intro connection _
  rw [Function.comp_apply, Function.comp_apply]
  split_ifs <;> rfl

theorem links_close (nc : Nat) (session : Session) :
    links (dropConnection nc session) = (links session).filter fun link => link.1 ≠ nc := by
  unfold dropConnection links
  rw [List.filter_map]
  rfl

theorem pass_links (clock : PassClock) (opens : Bool) :
    ∃ session, SameLinks state.session session ∧
      (netStep cfg net lib state (.pass clock opens)).session =
        if session.mqttStatus = .mqttstopped then startMqtt cfg opens session else session := by
  refine ⟨_, same_links_ids (@announce_to_ids cfg lib clock.broadcast
    (tick cfg clock state.st).2 { state with sent := [], st := (tick cfg clock state.st).1 }), ?_⟩
  unfold netStep netPass checkNetServices
  simp only
  split_ifs <;> rfl

theorem running_link {session : Session} (agrees : Agrees session) {nc : Nat}
    (member : (nc, true) ∈ links session) :
    session.mqttStatus = .mqttrunning ∧ links session = [(nc, true)] := by
  unfold Agrees at agrees
  cases status : session.mqttStatus with
  | mqttstarting =>
      rw [status] at agrees
      obtain ⟨-, other, only⟩ := agrees
      rw [only] at member
      simp at member
  | mqttrunning =>
      rw [status] at agrees
      obtain ⟨other, -, only⟩ := agrees
      rw [only] at member
      cases List.mem_singleton.mp member
      exact ⟨rfl, only⟩
  | mqttstopped | mqttdisabled =>
      rw [status] at agrees
      rw [agrees.2] at member
      cases member

theorem starting_link {session : Session} (agrees : Agrees session) {nc : Nat}
    (member : (nc, false) ∈ links session) : links session = [(nc, false)] := by
  unfold Agrees at agrees
  cases status : session.mqttStatus with
  | mqttstarting =>
      rw [status] at agrees
      obtain ⟨-, other, only⟩ := agrees
      rw [only] at member
      cases List.mem_singleton.mp member
      exact only
  | mqttrunning =>
      rw [status] at agrees
      obtain ⟨other, -, only⟩ := agrees
      rw [only] at member
      simp at member
  | mqttstopped | mqttdisabled =>
      rw [status] at agrees
      rw [agrees.2] at member
      cases member

theorem start_mqtt_agrees {session : Session} (agrees : Agrees session)
    (stopped : session.mqttStatus = .mqttstopped) (opens : Bool) :
    Agrees (startMqtt cfg opens session) := by
  have none : session.mqttConnection = Option.none ∧ links session = [] := by
    unfold Agrees at agrees
    rw [stopped] at agrees
    exact agrees
  have empty : session.activeConnections = [] := List.map_eq_nil_iff.mp none.2
  unfold startMqtt
  split_ifs
  · exact none
  · refine ⟨none.1, session.made, ?_⟩
    rw [links, List.map_cons, empty, List.map_nil]
  · exact agrees

theorem net_step_agrees (agrees : Agrees state.session) (possible : Possible state event) :
    Agrees (netStep cfg net lib state event).session ↔ Accepted state event := by
  cases event with
  | webRequest | filesOpen => exact iff_of_true agrees trivial
  | connect nc =>
      have only := starting_link agrees possible
      apply iff_of_true _ trivial
      refine ⟨nc, rfl, ?_⟩
      rw [show links (netStep cfg net lib state (.connect nc)).session =
        links (markMqtt nc state.session) from rfl, links_connect, only, List.map_singleton,
        if_pos rfl]
  | recv nc clock piece beyond =>
      by_cases accepted : Accepted state (.recv nc clock piece beyond)
      · exact iff_of_true ((agrees_same (recv_same accepted)).mpr agrees) accepted
      · apply iff_of_false _ accepted
        have stopped := @recv_refused cfg net lib _ _ _ _ _ accepted
        intro after
        unfold Agrees at after
        rw [stopped.status] at after
        have none : links state.session = [] := stopped.links.symm.trans after.2
        rw [Possible, none] at possible
        cases possible
  | close nc =>
      have running := running_link agrees possible
      apply iff_of_true _ trivial
      have left : links (dropConnection nc state.session) = [] := by
        rw [links_close, running.2]
        simp
      unfold netStep handleClose
      simp only [mem_mqtt_connections.mpr possible, if_true]
      exact ⟨rfl, left⟩
  | pass clock opens =>
      apply iff_of_true _ trivial
      obtain ⟨session, same, after⟩ := @pass_links cfg net lib state clock opens
      have before := (agrees_same same).mpr agrees
      rw [after]
      split_ifs with stopped
      · exact start_mqtt_agrees before stopped opens
      · exact before

/-- Whatever the acknowledgements say, the session never keeps a connection that is gone. -/
theorem net_step_stands (stands : Stands state.session) (possible : Possible state event) :
    Stands (netStep cfg net lib state event).session := by
  cases event with
  | webRequest | filesOpen => exact stands
  | connect nc =>
      intro other same
      cases same
      rw [show links (netStep cfg net lib state (.connect nc)).session =
        links (markMqtt nc state.session) from rfl, links_connect]
      exact List.mem_map.mpr ⟨(nc, false), possible, by rw [if_pos rfl]⟩
  | recv nc clock piece beyond =>
      by_cases accepted : Accepted state (.recv nc clock piece beyond)
      · exact (stands_same (recv_same accepted)).mpr stands
      · intro other same
        rw [(@recv_refused cfg net lib _ _ _ _ _ accepted).connection] at same
        cases same
  | close nc =>
      unfold netStep handleClose
      simp only [mem_mqtt_connections.mpr possible, if_true]
      intro other same
      cases same
  | pass clock opens =>
      obtain ⟨session, same, after⟩ := @pass_links cfg net lib state clock opens
      have before := (stands_same same).mpr stands
      rw [after]
      split_ifs
      · unfold startMqtt
        split_ifs
        · exact before
        · intro other current
          exact List.mem_cons_of_mem _ (before other current)
        · exact before
      · exact before

end Steps

section Runs

variable {st : SprinklerdState} {events : List NetEvent}

theorem net_start_agrees (opens : Bool) (st : SprinklerdState) :
    Agrees (netStart cfg opens st).session := by
  have idle : Agrees {} := ⟨rfl, rfl⟩
  exact start_mqtt_agrees idle rfl opens

theorem net_start_stands (opens : Bool) (st : SprinklerdState) :
    Stands (netStart cfg opens st).session := by
  intro nc connected
  unfold netStart startMqtt at connected
  split_ifs at connected

/-- In a run, the status and the connections agree after every event exactly when no session
was ever refused. The connection of the session is a marked one in any case. -/
theorem session_agrees_iff (opens : Bool) (st : SprinklerdState)
    (possible : Admitted (netStep cfg net lib) Possible (netStart cfg opens st) events) :
    ((∀ done, done <+: events →
        Agrees (run (netStep cfg net lib) (netStart cfg opens st) done).session) ↔
      Admitted (netStep cfg net lib) Accepted (netStart cfg opens st) events) ∧
    Stands (run (netStep cfg net lib) (netStart cfg opens st) events).session := by
  constructor
  · exact prefixes_iff_condition (fun state : NetState => Agrees state.session)
      (fun _ _ agrees possible => net_step_agrees agrees possible) (net_start_agrees opens st)
      possible
  · exact run_invariant (fun state _ => Stands state.session)
      (fun _ _ _ stands possible => net_step_stands stands possible) (net_start_stands opens st)
      possible

def benchRefused : List NetEvent := [.connect 0, .recv 0 (fun _ => 1000) [0x20, 0x02, 0x00, 0x05] []]

theorem session_agrees_iff_refused :
    ¬ ∀ done, done <+: benchRefused →
      Agrees (run (netStep benchMqtt benchNet benchLibrary)
        (netStart benchMqtt true benchState) done).session := by
  have possible : Admitted (netStep benchMqtt benchNet benchLibrary) Possible
      (netStart benchMqtt true benchState) benchRefused := by
    refine ⟨?_, ?_, trivial⟩
    · show (0, false) ∈ links (netStart benchMqtt true benchState).session
      decide
    · show (0, true) ∈ links (handleConnect benchMqtt benchNet 0
        (netStart benchMqtt true benchState)).session
      decide
  intro every
  have accepted := (session_agrees_iff true benchState possible).1.mp every
  have refusing := accepted.2.1
  simp only [Accepted] at refusing
  apply refusing ({ cmd := cmdConnack, connackRetCode := 5 }, [0x20, 0x02, 0x00, 0x05])
  · decide
  · exact ⟨rfl, by decide⟩

end Runs

end SprinklerD.SessionAgreement
