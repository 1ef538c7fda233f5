import SprinklerD.MqttRoundTrip

/-!
# The packets of a connection

`mqtt_handler` is called for every piece of the stream that `recv` returns, and takes all
packets out of the buffer that are complete. The record it parses into is cleared once for
each piece, so that a packet without an identifier shows that of a packet before it.
-/

namespace SprinklerD.MqttStream

open Foundation.PacketStream
open SprinklerD.MqttPackets SprinklerD.MqttRoundTrip

set_option autoImplicit false

abbrev HandledPacket := MgMqttMessage × Bytes

/-- The branch of `MG_EV_RECV`. There is no buffer any more once the connection is closed for
a malformed packet, and no limit to it. -/
def mqttHandlerRecv (beyond : Bytes) (recvMbuf : Option Bytes) (piece : Bytes) :
    Drained UInt8 MgMqttMessage :=
  receive (parseMqtt beyond) {} recvMbuf piece

def mqttHandlerRun (beyond : Bytes) (recvMbuf : Option Bytes) (pieces : List Bytes) :
    List (List HandledPacket) × Option Bytes :=
  receiveAll (parseMqtt beyond) {} recvMbuf pieces

def identifier : Packet → Option Nat
  | .publish _ messageId _ _ => messageId
  | .acknowledge _ messageId => some messageId
  | .subscribe messageId _ => some messageId
  | _ => none

def shownIdentifier (packets : List Packet) : Nat :=
  packets.foldl (fun shown packet => (identifier packet).getD shown) 0

section Identifiers

variable {memory : Bytes} {p limit : Nat} {mm next : MgMqttMessage}

theorem connect_identifier (parsed : parseConnect memory p limit mm = some next) :
    next.messageId = mm.messageId ∧ next.cmd = mm.cmd := by
  unfold parseConnect at parsed
  simp only at parsed
  split_ifs at parsed
  obtain ⟨read, -, stored⟩ := Option.bind_eq_some_iff.mp parsed
  split_ifs at stored
  cases stored
  exact ⟨rfl, rfl⟩

theorem publish_identifier (cmd : mm.cmd = cmdPublish)
    (parsed : parsePublish memory p limit mm = some next) :
    next.messageId = (identifier (readPacket next)).getD mm.messageId := by
  obtain ⟨connect, connack, acknowledge⟩ := not_acknowledge (Or.inl cmd)
  unfold parsePublish at parsed
  simp only at parsed
  split_ifs at parsed with past identified short
  · cases parsed
    rw [readPacket, if_neg connect, if_neg connack, if_neg acknowledge, if_pos cmd]
    simp only [identifier, if_pos identified, Option.getD_some]
  · cases parsed
    rw [readPacket, if_neg connect, if_neg connack, if_neg acknowledge, if_pos cmd]
    simp only [identifier, if_neg identified, Option.getD_none]

theorem command_identifier (parsed : parseCommand memory p limit mm = some next) :
    next.messageId = (identifier (readPacket next)).getD mm.messageId := by
  unfold parseCommand at parsed
  split_ifs at parsed with connect connack short acknowledge short publish subscribe short
  · obtain ⟨same, cmd⟩ := connect_identifier parsed
    rw [readPacket, if_pos (cmd.trans connect)]
    exact same
  · cases parsed
    rw [readPacket, if_neg connect, if_pos connack]
    rfl
  · cases parsed
    rw [readPacket, if_neg connect, if_neg connack, if_pos acknowledge]
    rfl
  · exact publish_identifier publish parsed
  · cases parsed
    rw [readPacket, if_neg connect, if_neg connack, if_neg acknowledge, if_neg publish,
      if_pos subscribe]
    rfl
  · cases parsed
    rw [readPacket, if_neg connect, if_neg connack, if_neg acknowledge, if_neg publish,
      if_neg subscribe]
    rfl

theorem parse_identifier {beyond io : Bytes} {length : Nat}
    (parsed : parseMqtt beyond mm io = .packet next length) :
    next.messageId = (identifier (readPacket next)).getD mm.messageId := by
  obtain ⟨p, -, -, read⟩ := complete_of_packet parsed
  exact @command_identifier _ _ _ (headed (io.getD 0 0) mm) _ read

end Identifiers

variable {beyond : Bytes}

theorem identifiers_carried (beyond bytes : Bytes) :
    Carries MgMqttMessage.messageId (fun shown packet => (identifier packet).getD shown) readPacket
      0 (drained (parseMqtt beyond) {} bytes).handled :=
  drained_carries (mqtt_framing beyond) (fun parsed => parse_identifier parsed) {} bytes

/-- Every packet of a piece shows the identifier that came last in the piece. -/
theorem handled_identifier {bytes : Bytes} {front back : List HandledPacket}
    {packet : HandledPacket}
    (split : (drained (parseMqtt beyond) {} bytes).handled = front ++ packet :: back) :
    packet.1.messageId = shownIdentifier (contents readPacket (front ++ [packet])) :=
  carries_value (split ▸ identifiers_carried beyond bytes)

theorem batch_identifier {recvMbuf : Option Bytes} {pieces : List Bytes}
    {batch : List HandledPacket} (member : batch ∈ (mqttHandlerRun beyond recvMbuf pieces).1)
    {front back : List HandledPacket} {packet : HandledPacket}
    (split : batch = front ++ packet :: back) :
    packet.1.messageId = shownIdentifier (contents readPacket (front ++ [packet])) := by
  induction pieces generalizing recvMbuf with
  | nil => cases member
  | cons piece rest ih =>
      rcases List.mem_cons.mp member with rfl | later
      · cases recvMbuf with
        | none => simp [receive] at split
        | some bytes => exact handled_identifier split
      · exact ih later

/-- However the packets of a stream are cut into pieces, each is handled once, in order and as
it was sent. Only the identifier of a packet without one depends on the pieces. -/
theorem sent_packets_arrive (beyond : Bytes) {sendings : List Sending}
    (fit : ∀ sending ∈ sendings, Sendable sending) {pieces : List Bytes}
    (cut : pieces.flatten = sendings.flatMap sendBytes) :
    (mqttHandlerRun beyond (some []) pieces).1.flatMap (contents readPacket) =
        sendings.map packetOf ∧
      (mqttHandlerRun beyond (some []) pieces).2 = some [] ∧
      ∀ batch ∈ (mqttHandlerRun beyond (some []) pieces).1, ∀ front packet back,
        batch = front ++ packet :: back →
          packet.1.messageId = shownIdentifier (contents readPacket (front ++ [packet])) := by
  have arrive := @encoded_arrive _ _ _ _ (parseMqtt beyond) {} readPacket _ _ _
    (mqtt_framing beyond) (sent_reads_back beyond) _ fit _ cut
  exact ⟨arrive.1, arrive.2, fun _ member _ _ _ split => batch_identifier member split⟩

def benchStream : List Sending :=
  [.shortCommand cmdPuback 7, .publish (textBytes "sprinkler/zone1/set".toList) 0 0 [49]]

theorem sent_packets_arrive_bench :
    (mqttHandlerRun [] (some []) [(benchStream.flatMap sendBytes).take 9,
        (benchStream.flatMap sendBytes).drop 9]).1.flatMap (contents readPacket) =
      benchStream.map packetOf := by
  have fit : ∀ sending ∈ benchStream, Sendable sending := by
    intro sending member
    simp only [benchStream, List.mem_cons, List.not_mem_nil, or_false] at member
    rcases member with rfl | rfl
    · exact ⟨by decide, by decide⟩
    · exact ⟨by decide, by decide, by decide, by decide⟩
  exact (sent_packets_arrive [] fit (by rw [List.flatten_cons, List.flatten_cons,
    List.flatten_nil, List.append_nil, List.take_append_drop])).1

end SprinklerD.MqttStream
