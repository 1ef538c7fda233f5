import SprinklerD.NetworkRuns

/-!
# What becomes of the commands

A message with an identifier is taken for one of the daemon's own, and the record of a
packet without one still shows the identifier of the packet before it. So a command that
arrives in one piece behind, say, the acknowledgement of a publication is lost. What is
acted on is stated here by the packets that the broker sends and by the lengths of the
pieces alone.
-/

namespace SprinklerD.CommandDelivery

open Foundation.CString Foundation.PacketStream Foundation.Transitions Foundation.Simulation
open SprinklerD.Config SprinklerD.ZoneCtrl SprinklerD.NetServices SprinklerD.Operations
open SprinklerD.Daemon
open SprinklerD.Broadcast SprinklerD.MainLoop SprinklerD.MqttPackets SprinklerD.MqttRoundTrip
open SprinklerD.MqttStream SprinklerD.MqttSession SprinklerD.NetworkRuns

set_option autoImplicit false

section Commands

variable (cfg : SprinklerdCfg) (net : MqttCfg) (lib : CLibrary)

def publication : Sending → Option (Text × Text)
  | .publish topic _ _ data => some (bytesText topic, bytesText data)
  | _ => none

def ownCommand (sending : Sending) : Option (Text × Text) :=
  (publication sending).filter fun message => cfg.mqttTopic.isPrefixOf message.1

/-- What is acted on of the packets that one piece completes, as the clock and the identifier
shown have it. -/
def heardIn (clock : Nat → Int) (connectedTime : Int) : Nat → Nat → List Sending →
    List (Text × Text)
  | _, _, [] => []
  | read, shown, sending :: rest =>
      let identified := (identifier (packetOf sending)).getD shown
      (if heeded (clock read) connectedTime identified then (ownCommand cfg sending).toList else []) ++
        heardIn clock connectedTime (read + 1) identified rest

def sendingSize (sending : Sending) : Nat := (sendBytes sending).length

/-- What is acted on while the pieces arrive. `held` bytes are in the buffer. -/
def heardFrom (connectedTime : Int) : Nat → List Sending → List NetEvent → List (Text × Text)
  | _, _, [] => []
  | held, sendings, .recv _ clock piece _ :: rest =>
      let done := completed sendingSize (held + piece.length) sendings
      heardIn cfg clock connectedTime 0 0 done.1 ++ heardFrom connectedTime done.2.1 done.2.2 rest
  | held, sendings, _ :: rest => heardFrom connectedTime held sendings rest

def commandOf : TimedEvent → Option (Text × Text)
  | (_, .mqttMessage message) => some (message.topic, message.payload)
  | _ => none

def commandsHeard (state : NetState) (events : List NetEvent) : List (Text × Text) :=
  (trace (netStep cfg net lib) (netEvents cfg net lib) state events).filterMap commandOf

def OnConnection (nc : Nat) : NetEvent → Prop
  | .connect _ => False
  | .close _ => False
  | .recv other _ _ _ => other = nc
  | _ => True

def pieceOf : NetEvent → Bytes
  | .recv _ _ piece _ => piece
  | _ => []

/-- The session is up, and these bytes of a packet have arrived on its connection. -/
structure Receiving (nc : Nat) (connectedTime : Int) (held : Bytes) (session : Session) : Prop where
  running : session.mqttStatus = .mqttrunning
  since : session.mqttConnectedTime = connectedTime
  buffer : (findConnection nc session).map Connection.recvMbuf = some (some held)

/-- The packets of a session that stands, on topics that are compared inside the packet. -/
structure Ordinary (sending : Sending) : Prop where
  fits : Sendable sending
  accepted : ∀ code, packetOf sending ≠ .connack code
  inside : ∀ topic data, publication sending = some (topic, data) →
    topic <+: cfg.mqttTopic → topic = cfg.mqttTopic

end Commands

variable {cfg : SprinklerdCfg} {net : MqttCfg} {lib : CLibrary}

section Packets

theorem receiving_ids {nc : Nat} {connectedTime : Int} {held : Bytes} {before after : Session}
    (receiving : Receiving nc connectedTime held before) (ids : OnlyIds before after) :
    Receiving nc connectedTime held after := by
  obtain ⟨msgId, rfl⟩ := ids
  exact ⟨receiving.running, receiving.since, receiving.buffer⟩

theorem begins_with_iff (visible : nul ∉ cfg.mqttTopic) {message : MqttMessage}
    (inside : message.topic <+: cfg.mqttTopic → message.topic = cfg.mqttTopic) :
    beginsWith message cfg.mqttTopic = cfg.mqttTopic.isPrefixOf message.topic := by
  rw [Bool.eq_iff_iff, beginsWith, strncmp_equal_iff visible (le_refl _), List.take_length,
    List.isPrefixOf_iff_prefix]
  constructor
  · intro begins
    rcases List.prefix_or_prefix_of_prefix begins (List.prefix_append message.topic _) with
      whole | shorter
    · exact whole
    · rw [inside shorter]
  · intro whole
    exact whole.trans (List.prefix_append _ _)

theorem read_of_publish {mm : MgMqttMessage} (cmd : mm.cmd = cmdPublish) :
    ∃ qos messageId, readPacket mm = .publish qos messageId mm.topic.text mm.payload.text := by
  obtain ⟨connect, connack, acknowledge⟩ := not_acknowledge (Or.inl cmd)
  rw [readPacket, if_neg connect, if_neg connack, if_neg acknowledge, if_pos cmd]
  exact ⟨_, _, rfl⟩

theorem publish_of_read {mm : MgMqttMessage} {qos : UInt8} {messageId : Option Nat}
    {topic data : Bytes} (reads : readPacket mm = .publish qos messageId topic data) :
    mm.cmd = cmdPublish := by
  unfold readPacket at reads
  split_ifs at reads <;> assumption

theorem connack_of_cmd {mm : MgMqttMessage} (cmd : mm.cmd = cmdConnack) :
    readPacket mm = .connack mm.connackRetCode := by
  have connect : mm.cmd ≠ cmdConnect := by
    rw [cmd]
    decide
  rw [readPacket, if_neg connect, if_pos cmd]

theorem publication_of_read {mm : MgMqttMessage} {sending : Sending}
    (reads : readPacket mm = packetOf sending) :
    publication sending =
      if mm.cmd = cmdPublish then some (bytesText mm.topic.text, bytesText mm.payload.text)
      else none := by
  split_ifs with cmd
  · obtain ⟨qos, messageId, here⟩ := read_of_publish cmd
    rw [here] at reads
    cases sending with
    | publish topic id flags data =>
        obtain ⟨-, -, topics, payloads⟩ := Packet.publish.inj reads
        rw [publication, topics, payloads]
    | shortCommand cmd id =>
        simp only [packetOf] at reads
        split_ifs at reads
    | _ => cases reads
  · cases sending with
    | publish topic id flags data => exact absurd (publish_of_read reads) cmd
    | _ => rfl

theorem domoticz_silent (now : Int) (message : MqttMessage) :
    (domoticzEvents cfg net now message).filterMap commandOf = [] := by
  unfold domoticzEvents
  simp only
  split_ifs <;> rfl

theorem packet_heard (own : cfg.enableMQTTaq = true) (visible : nul ∉ cfg.mqttTopic)
    {packet : HandledPacket} {sending : Sending} (reads : readPacket packet.1 = packetOf sending)
    (ordinary : Ordinary cfg sending) (nc : Nat) (now : Int) (beyond : Bytes) (state : NetState) :
    (packetEvents cfg net lib nc now beyond packet state).filterMap commandOf =
      if heeded now state.session.mqttConnectedTime packet.1.messageId then
        (ownCommand cfg sending).toList
      else [] := by
  have connack : packet.1.cmd ≠ cmdConnack := by
    intro cmd
    rw [connack_of_cmd cmd] at reads
    exact ordinary.accepted _ reads.symm
  have read := publication_of_read reads
  rw [packetEvents, if_neg connack, ownCommand, read]
  by_cases cmd : packet.1.cmd = cmdPublish
  · rw [if_pos cmd] at read
    rw [if_pos cmd, if_pos cmd, publishEvents]
    by_cases heeds : heeded now state.session.mqttConnectedTime packet.1.messageId = true
    · have begins : beginsWith (messageOf packet beyond) cfg.mqttTopic =
          cfg.mqttTopic.isPrefixOf (bytesText packet.1.topic.text) :=
        begins_with_iff visible (ordinary.inside _ _ read)
      rw [if_pos heeds, if_pos heeds, List.filterMap_append, domoticz_silent, List.append_nil,
        ownEvents, begins, Option.filter_some]
      simp only [own, true_and]
      split_ifs <;> rfl
    · rw [if_neg heeds, if_neg heeds]
      rfl
  · rw [if_neg cmd, if_neg cmd]
    split_ifs <;> rfl

theorem handle_packet_ids {packet : HandledPacket} {sending : Sending}
    (reads : readPacket packet.1 = packetOf sending) (ordinary : Ordinary cfg sending) (nc : Nat)
    (now : Int) (beyond : Bytes) (state : NetState) :
    OnlyIds state.session (handlePacket cfg net lib nc now beyond packet state).session := by
  have connack : packet.1.cmd ≠ cmdConnack := by
    intro cmd
    rw [connack_of_cmd cmd] at reads
    exact ordinary.accepted _ reads.symm
  rw [handlePacket, if_neg connack]
  split_ifs
  · exact send_messages_ids nc [(aliveTopic cfg, mqttOn)] state
  · rw [handle_publish_ids]
    exact only_ids_refl _
  · exact only_ids_refl _

theorem packets_heard (own : cfg.enableMQTTaq = true) (visible : nul ∉ cfg.mqttTopic) {nc : Nat}
    {clock : Nat → Int} {beyond : Bytes} {read shown : Nat} {packets : List HandledPacket}
    {sendings : List Sending} {connectedTime : Int} {state : NetState}
    (carries : Carries MgMqttMessage.messageId (fun shown packet => (identifier packet).getD shown)
      readPacket shown packets)
    (reads : contents readPacket packets = sendings.map packetOf)
    (ordinary : ∀ sending ∈ sendings, Ordinary cfg sending)
    (since : state.session.mqttConnectedTime = connectedTime) :
    (packetsEvents cfg net lib nc clock beyond read packets state).filterMap commandOf =
        heardIn cfg clock connectedTime read shown sendings ∧
      OnlyIds state.session
        (handlePackets cfg net lib nc clock beyond read packets state).session := by
  induction packets generalizing read shown sendings state with
  | nil =>
      rw [List.map_eq_nil_iff.mp reads.symm]
      exact ⟨rfl, only_ids_refl _⟩
  | cons packet rest ih =>
      obtain ⟨sending, others, rfl, first, later⟩ := List.map_eq_cons_iff.mp reads.symm
      have clear := ordinary sending List.mem_cons_self
      have ids := @handle_packet_ids cfg net lib packet sending first.symm clear nc (clock read)
        beyond state
      have kept : (handlePacket cfg net lib nc (clock read) beyond packet
          state).session.mqttConnectedTime = connectedTime := by
        obtain ⟨msgId, same⟩ := ids
        rw [same]
        exact since
      have here : packet.1.messageId = (identifier (packetOf sending)).getD shown := by
        rw [first]
        exact carries.1
      have behind := @ih (read + 1) packet.1.messageId others
        (handlePacket cfg net lib nc (clock read) beyond packet state) carries.2 later.symm
        (fun sending member => ordinary sending (List.mem_cons_of_mem _ member)) kept
      refine ⟨?_, only_ids_trans ids behind.2⟩
      rw [packetsEvents, List.filterMap_append, behind.1,
        packet_heard own visible first.symm clear, since, here]
      rfl

end Packets

section Pieces

theorem find_kept (nc : Nat) (recvMbuf : Option Bytes) (connections : List Connection) :
    ((connections.map fun connection =>
        if connection.nc = nc then { connection with recvMbuf := recvMbuf } else connection).find?
          fun connection => connection.nc = nc).map Connection.recvMbuf =
      (connections.find? fun connection => connection.nc = nc).map fun _ => recvMbuf := by
  induction connections with
  | nil => rfl
  | cons connection rest ih =>
      by_cases here : connection.nc = nc
      · simp [here]
      · simpa [here] using ih

theorem recv_heard (own : cfg.enableMQTTaq = true) (visible : nul ∉ cfg.mqttTopic) {nc : Nat}
    {clock : Nat → Int} {piece beyond held later : Bytes} {sendings : List Sending}
    {connectedTime : Int} {state : NetState}
    (receiving : Receiving nc connectedTime held state.session)
    (ordinary : ∀ sending ∈ sendings, Ordinary cfg sending)
    (stream : held ++ piece ++ later = sendings.flatMap sendBytes) :
    let done := completed sendingSize (held.length + piece.length) sendings
    (netEvents cfg net lib state (.recv nc clock piece beyond)).filterMap commandOf =
        heardIn cfg clock connectedTime 0 0 done.1 ∧
      ∃ left, left.length = done.2.1 ∧ left ++ later = done.2.2.flatMap sendBytes ∧
        Receiving nc connectedTime left
          (netStep cfg net lib state (.recv nc clock piece beyond)).session := by
  obtain ⟨connection, found, buffered⟩ := Option.map_eq_some_iff.mp receiving.buffer
  have arrived : received nc piece beyond state.session =
      drained (parseMqtt beyond) {} (held ++ piece) := by
    unfold received
    rw [found]
    simp only [mqttHandlerRecv, buffered, receive]
  have split := drained_completed (mqtt_framing beyond) (sent_reads_back beyond)
    (fun sending member => (ordinary sending member).fits) {} stream
  rw [List.length_append] at split
  obtain ⟨handled, left, pending, counted, behind⟩ := split
  have within : ∀ sending ∈ (completed sendingSize (held.length + piece.length) sendings).1,
      Ordinary cfg sending :=
    fun sending member => ordinary sending (mem_of_completed (Or.inl member))
  have heard := @packets_heard cfg net lib own visible nc clock beyond 0 0 _ _ connectedTime
    { state with sent := [] } (identifiers_carried beyond (held ++ piece)) handled within
    receiving.since
  refine ⟨?_, left, counted, behind, ?_⟩
  · rw [netEvents, arrived]
    exact heard.1
  · have kept := receiving_ids receiving heard.2
    have after : netStep cfg net lib state (.recv nc clock piece beyond) =
        keepBuffer nc (some left) (handlePackets cfg net lib nc clock beyond 0
          (drained (parseMqtt beyond) {} (held ++ piece)).handled { state with sent := [] }) := by
      unfold netStep handleRecv
      simp only [arrived, pending]
    rw [after]
    refine ⟨kept.running, kept.since, ?_⟩
    obtain ⟨other, same, -⟩ := Option.map_eq_some_iff.mp kept.buffer
    unfold findConnection at same ⊢
    rw [keepBuffer, find_kept, same]
    rfl

theorem pass_receiving {nc : Nat} {connectedTime : Int} {held : Bytes} {state : NetState}
    (receiving : Receiving nc connectedTime held state.session) (clock : PassClock) (opens : Bool) :
    Receiving nc connectedTime held (netStep cfg net lib state (.pass clock opens)).session := by
  have announced := receiving_ids receiving (@announce_to_ids cfg lib clock.broadcast
    (tick cfg clock state.st).2 { state with sent := [], st := (tick cfg clock state.st).1 })
  have running := announced.running
  unfold netStep netPass checkNetServices
  simp only [running, reduceCtorEq, if_false]
  exact announced

theorem pass_silent (clock : PassClock) (opens : Bool) (state : NetState) :
    (netEvents cfg net lib state (.pass clock opens)).filterMap commandOf = [] := by
  rw [netEvents, tickEvents]
  split_ifs <;> rfl

theorem run_heard (own : cfg.enableMQTTaq = true) (visible : nul ∉ cfg.mqttTopic) {nc : Nat}
    {connectedTime : Int} {held later : Bytes} {sendings : List Sending} {state : NetState}
    {events : List NetEvent} (receiving : Receiving nc connectedTime held state.session)
    (every : ∀ event ∈ events, OnConnection nc event)
    (ordinary : ∀ sending ∈ sendings, Ordinary cfg sending)
    (stream : held ++ events.flatMap pieceOf ++ later = sendings.flatMap sendBytes) :
    commandsHeard cfg net lib state events =
      heardFrom cfg connectedTime held.length sendings events := by
  induction events generalizing held sendings state with
  | nil => rfl
  | cons event rest ih =>
      have here := every event List.mem_cons_self
      have others := fun later member => every later (List.mem_cons_of_mem event member)
      rw [commandsHeard, trace, List.filterMap_append, ← commandsHeard]
      cases event with
      | connect | close => cases here
      | webRequest => exact ih receiving others ordinary stream
      | filesOpen => exact ih receiving others ordinary stream
      | pass clock opens =>
          rw [pass_silent]
          exact ih (pass_receiving receiving clock opens) others ordinary stream
      | recv nc clock piece beyond =>
          cases here
          have whole : held ++ piece ++ (rest.flatMap pieceOf ++ later) =
              sendings.flatMap sendBytes := by
            rw [← stream, List.flatMap_cons, pieceOf]
            simp only [List.append_assoc]
          obtain ⟨heard, left, counted, behind, after⟩ :=
            @recv_heard cfg net lib own visible nc clock piece beyond held _ sendings
              connectedTime state receiving ordinary whole
          rw [← List.append_assoc] at behind
          have remaining := ih after others
            (fun sending member => ordinary sending (mem_of_completed (Or.inr member))) behind
          rw [heard, remaining, counted]
          rfl

end Pieces

section Deliveries

theorem filter_map_cons_list (sending : Sending) (rest : List Sending) :
    (sending :: rest).filterMap (ownCommand cfg) =
      (ownCommand cfg sending).toList ++ rest.filterMap (ownCommand cfg) := by
  rw [List.filterMap_cons]
  cases ownCommand cfg sending <;> rfl

theorem heard_in_sublist (clock : Nat → Int) (connectedTime : Int) (read shown : Nat)
    (sendings : List Sending) :
    (heardIn cfg clock connectedTime read shown sendings).Sublist
      (sendings.filterMap (ownCommand cfg)) := by
  induction sendings generalizing read shown with
  | nil => exact List.Sublist.refl _
  | cons sending rest ih =>
      rw [filter_map_cons_list, heardIn]
      apply List.Sublist.append _ (ih _ _)
      split_ifs
      · exact List.Sublist.refl _
      · exact List.nil_sublist _

theorem heard_from_sublist (connectedTime : Int) (held : Nat) (sendings : List Sending)
    (events : List NetEvent) :
    (heardFrom cfg connectedTime held sendings events).Sublist
      (sendings.filterMap (ownCommand cfg)) := by
  induction events generalizing held sendings with
  | nil => exact List.nil_sublist _
  | cons event rest ih =>
      cases event with
      | recv nc clock piece beyond =>
          have split := @completed_append _ sendingSize (held + piece.length) sendings
          rw [heardFrom]
          conv_rhs => rw [← split, List.filterMap_append]
          exact List.Sublist.append (heard_in_sublist clock connectedTime 0 0 _) (ih _ _)
      | _ => exact ih held sendings

/-- A broker that gives out no identifiers. -/
def Anonymous (sending : Sending) : Prop := identifier (packetOf sending) = none

/-- The first second of the session is over. -/
def Late (connectedTime : Int) : NetEvent → Prop
  | .recv _ clock _ _ => ∀ read, 1 ≤ clock read - connectedTime
  | _ => True

theorem heard_in_all {clock : Nat → Int} {connectedTime : Int}
    (late : ∀ read, 1 ≤ clock read - connectedTime) {sendings : List Sending}
    (anonymous : ∀ sending ∈ sendings, Anonymous sending) (read : Nat) :
    heardIn cfg clock connectedTime read 0 sendings = sendings.filterMap (ownCommand cfg) := by
  induction sendings generalizing read with
  | nil => rfl
  | cons sending rest ih =>
      have unidentified : (identifier (packetOf sending)).getD 0 = 0 := by
        rw [anonymous sending List.mem_cons_self]
        rfl
      have heeds : heeded (clock read) connectedTime 0 = true := by
        simp [heeded, late read]
      rw [filter_map_cons_list, heardIn]
      simp only [unidentified, heeds, if_true]
      rw [ih fun later member => anonymous later (List.mem_cons_of_mem _ member)]

theorem heard_from_all {connectedTime : Int} {held : Nat} {sendings : List Sending}
    {events : List NetEvent}
    (counted : held + (events.flatMap pieceOf).length = (sendings.map sendingSize).sum)
    (waits : ∀ sending ∈ sendings.head?, held < sendingSize sending)
    (anonymous : ∀ sending ∈ sendings, Anonymous sending)
    (late : ∀ event ∈ events, Late connectedTime event) :
    heardFrom cfg connectedTime held sendings events = sendings.filterMap (ownCommand cfg) := by
  induction events generalizing held sendings with
  | nil =>
      cases sendings with
      | nil => rfl
      | cons sending rest =>
          have short := waits sending rfl
          rw [List.flatMap_nil, List.length_nil, List.map_cons, List.sum_cons] at counted
          omega
  | cons event rest ih =>
      have others := fun later member => late later (List.mem_cons_of_mem event member)
      have here := late event List.mem_cons_self
      rw [List.flatMap_cons, List.length_append] at counted
      cases event with
      | recv nc clock piece beyond =>
          have split := @completed_append _ sendingSize (held + piece.length) sendings
          have used := @completed_held _ sendingSize (held + piece.length) sendings
          have sizes := congrArg (fun items => (items.map sendingSize).sum) split
          simp only [List.map_append, List.sum_append] at sizes
          rw [pieceOf] at counted
          rw [heardFrom,
            heard_in_all here
              (fun sending member => anonymous sending (mem_of_completed (Or.inl member))),
            ih (by omega) (fun sending next => completed_waits next)
              (fun sending member => anonymous sending (mem_of_completed (Or.inr member))) others,
            ← List.filterMap_append, split]
      | _ =>
          have same := (Nat.zero_add _) ▸ counted
          exact ih same waits anonymous others

/-- While a session is up, the daemon acts on the commands of the broker in their order, on
each at most once and on nothing else, however the stream is cut and whatever happens between
the pieces. Which of them it acts on follows from the packets and the lengths of the pieces,
and without identifiers and after the first second it is all of them. -/
theorem commands_heard_as_sent (own : cfg.enableMQTTaq = true) (visible : nul ∉ cfg.mqttTopic)
    {nc : Nat} {connectedTime : Int} {later : Bytes} {sendings : List Sending} {state : NetState}
    {events : List NetEvent} (receiving : Receiving nc connectedTime [] state.session)
    (every : ∀ event ∈ events, OnConnection nc event)
    (ordinary : ∀ sending ∈ sendings, Ordinary cfg sending)
    (stream : events.flatMap pieceOf ++ later = sendings.flatMap sendBytes) :
    let heard := commandsHeard cfg net lib state events
    (run (netStep cfg net lib) state events).st =
        run (daemonStep cfg) state.st
          (trace (netStep cfg net lib) (netEvents cfg net lib) state events) ∧
      heard = heardFrom cfg connectedTime 0 sendings events ∧
      heard.Sublist (sendings.filterMap (ownCommand cfg)) ∧
      (later = [] → (∀ sending ∈ sendings, Anonymous sending) →
        (∀ event ∈ events, Late connectedTime event) →
          heard = sendings.filterMap (ownCommand cfg)) := by
  have heard := @run_heard cfg net lib own visible nc connectedTime [] later sendings state events
    receiving every ordinary stream
  rw [List.length_nil] at heard
  simp only [heard]
  have performed := @view_run _ _ _ _ _ _ _ _ _ (@net_simulates cfg net lib) state events
    (admitted_of_forall fun _ _ => trivial)
  refine ⟨performed, trivial, heard_from_sublist connectedTime 0 sendings events, ?_⟩
  intro finished anonymous late
  have counted : 0 + (events.flatMap pieceOf).length = (sendings.map sendingSize).sum := by
    rw [finished, List.append_nil] at stream
    rw [stream, Nat.zero_add, List.length_flatMap]
    rfl
  have some : ∀ sending ∈ sendings.head?, 0 < sendingSize sending := by
    intro sending first
    have member := List.mem_of_mem_head? first
    obtain ⟨next, parsed, -⟩ := (sent_reads_back []).parses (ordinary sending member).fits {} []
    exact ((mqtt_framing []).consumes parsed).1
  exact heard_from_all counted some anonymous late

def benchUp : NetState :=
  run (netStep benchMqtt benchNet benchLibrary) (netStart benchMqtt true benchState)
    [.connect 0, .recv 0 (fun _ => 1000) [0x20, 0x02, 0x00, 0x00] []]

/-- The stream with an acknowledgement before a command, in pieces of which the first ends
after so many bytes. -/
def benchCut (bytes : Nat) : List NetEvent :=
  [.recv 0 (fun _ => 1010) ((benchStream.flatMap sendBytes).take bytes) [],
    .recv 0 (fun _ => 1010) ((benchStream.flatMap sendBytes).drop bytes) []]

/-- The command is lost when it comes with the acknowledgement. -/
theorem commands_heard_as_sent_bench :
    commandsHeard benchMqtt benchNet benchLibrary benchUp (benchCut 4) =
        [("sprinkler/zone1/set".toList, "1".toList)] ∧
      commandsHeard benchMqtt benchNet benchLibrary benchUp (benchCut 0) = [] := by
  have receiving : Receiving 0 1000 [] benchUp.session := ⟨by decide, by decide, by decide⟩
  have ordinary : ∀ sending ∈ benchStream, Ordinary benchMqtt sending := by
    intro sending member
    simp only [benchStream, List.mem_cons, List.not_mem_nil, or_false] at member
    rcases member with rfl | rfl
    · refine ⟨⟨by decide, by decide⟩, ?_, ?_⟩
      · intro code same
        cases same
      · intro topic data same
        cases same
    · refine ⟨⟨by decide, by decide, by decide, by decide⟩, ?_, ?_⟩
      · intro code same
        cases same
      intro topic data same begins
      cases same
      exact absurd begins (by decide)
  have heard (bytes : Nat) := (@commands_heard_as_sent benchMqtt benchNet benchLibrary rfl
    (by decide) 0 1000 [] benchStream benchUp (benchCut bytes) receiving
    (by simp [benchCut, OnConnection]) ordinary (by simp [benchCut, pieceOf])).2.1
  rw [heard, heard]
  exact ⟨by decide, by decide⟩

end Deliveries

end SprinklerD.CommandDelivery
