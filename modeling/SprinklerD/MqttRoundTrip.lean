import SprinklerD.MqttPackets

/-!
# What one end sends the other end reads

Both ends of a connection use the same functions here. What they write is read back as it
was meant, whatever follows it in the buffer.
-/

namespace SprinklerD.MqttRoundTrip

open Foundation.PacketStream
open SprinklerD.MqttPackets

set_option autoImplicit false

inductive Sending where
  | handshake (clientId : Bytes) (opts : HandshakeOpts)
  | connack (returnCode : UInt8)
  | publish (topic : Bytes) (messageId : Nat) (flags : UInt8) (data : Bytes)
  | shortCommand (cmd messageId : Nat)
  | subscribe (topics : List TopicExpression) (messageId : Nat)
  | unsubscribe (topics : List Bytes) (messageId : Nat)
  | suback (qoss : Bytes) (messageId : Nat)
  | ping
  | pong
  | disconnect

def sendBytes : Sending → Bytes
  | .handshake clientId opts => mgSendMqttHandshakeOpt clientId opts
  | .connack returnCode => mgMqttConnack returnCode
  | .publish topic messageId flags data => mgMqttPublish topic messageId flags data
  | .shortCommand cmd messageId => mgSendMqttShortCommand cmd messageId
  | .subscribe topics messageId => mgMqttSubscribe topics messageId
  | .unsubscribe topics messageId => mgMqttUnsubscribe topics messageId
  | .suback qoss messageId => mgMqttSuback qoss messageId
  | .ping => mgMqttPing
  | .pong => mgMqttPong
  | .disconnect => mgMqttDisconnect

/-- The bounds of the fields. Up to 2^31 bytes the shifts of `parse_mqtt` are defined. -/
def Sendable : Sending → Prop
  | .handshake clientId opts =>
      textFlags opts.flags = [false, false, false, false] ∧ clientId.length < 65536 ∧
        opts.keepAlive < 65536 ∧ ∀ text ∈ handshakeTexts opts, text.length < 65536
  | .publish topic messageId flags data =>
      topic.length < 65536 ∧ messageId < 65536 ∧ flags < 16 ∧
        4 + topic.length + data.length < 2 ^ 31
  | .shortCommand cmd messageId =>
      cmd ∈ [cmdPuback, cmdPubrec, cmdPubrel, cmdPubcomp, cmdUnsuback] ∧ messageId < 65536
  | .subscribe topics messageId =>
      (∀ entry ∈ topics, entry.topic.length < 65536) ∧ messageId < 65536 ∧
        2 + (topics.map fun entry => 2 + entry.topic.length + 1).sum < 2 ^ 31
  | .unsubscribe topics _ =>
      (∀ topic ∈ topics, topic.length < 65536) ∧
        2 + (topics.map fun topic => 2 + topic.length).sum < 2 ^ 31
  | .suback qoss messageId => messageId < 65536 ∧ 2 + qoss.length < 2 ^ 31
  | _ => True

def protocolName : Bytes := [77, 81, 84, 84]

def packetOf : Sending → Packet
  | .handshake clientId opts =>
      .connect protocolName clientId 4 (handshakeFlags opts)
        (if opts.keepAlive = 0 then 60 else opts.keepAlive)
        (opts.will.map Prod.fst) (opts.will.map Prod.snd) opts.userName opts.password
  | .connack returnCode => .connack returnCode
  | .publish topic messageId flags data =>
      .publish (getQos flags) (if 0 < getQos flags then some messageId else none) topic data
  | .shortCommand cmd messageId =>
      if cmd = cmdUnsuback then .other cmd else .acknowledge cmd messageId
  | .subscribe topics messageId =>
      .subscribe messageId (topics.flatMap fun entry => sizedText entry.topic ++ [entry.qos])
  | .unsubscribe _ _ => .other cmdUnsubscribe
  | .suback _ messageId => .acknowledge cmdSuback messageId
  | .ping => .other cmdPingreq
  | .pong => .other cmdPingresp
  | .disconnect => .other cmdDisconnect

section Lengths

theorem seven_bits {value : Nat} (small : value < 128) :
    ((UInt8.ofNat value ||| 0x80) &&& 0x7f).toNat = value ∧
      (UInt8.ofNat value ||| 0x80) &&& 0x80 ≠ 0 ∧
      (UInt8.ofNat value &&& 0x7f).toNat = value ∧ UInt8.ofNat value &&& 0x80 = 0 := by
  have every : ∀ value : Fin 128, ((UInt8.ofNat value ||| 0x80) &&& 0x7f).toNat = value ∧
      (UInt8.ofNat value ||| 0x80) &&& 0x80 ≠ 0 ∧
      (UInt8.ofNat value &&& 0x7f).toNat = value ∧ UInt8.ofNat value &&& 0x80 = 0 := by
    decide +kernel
  exact every ⟨value, small⟩

theorem read_variable_length {rounds len lenLen before : Nat} (lc : UInt8) (rest : Bytes)
    (enough : len < 128 ^ rounds) (some : 0 < rounds)
    (small : before + len * 2 ^ (7 * lenLen) < 2 ^ 31) :
    ∃ last, last &&& 0x80 = 0 ∧
      readLength before lenLen lc (variableLength rounds len ++ rest) =
        .some (before + len * 2 ^ (7 * lenLen),
          lenLen + (variableLength rounds len).length, last) := by
  induction rounds generalizing len lenLen before lc with
  | zero => exact absurd some (lt_irrefl 0)
  | succ rounds ih =>
      obtain ⟨low, more, plain, ends⟩ := seven_bits (Nat.mod_lt len (show 0 < 128 by decide))
      rw [variableLength]
      by_cases longer : 0 < len / 128
      · have fewer : lenLen + 1 ≤ 4 := by
          by_contra many
          have large : 2 ^ (7 * 5) ≤ 2 ^ (7 * (lenLen + 1)) :=
            Nat.pow_le_pow_right (by decide) (by omega)
          have whole : 2 ^ (7 * (lenLen + 1)) = 128 * 2 ^ (7 * lenLen) := by
            rw [show 7 * (lenLen + 1) = 7 + 7 * lenLen by omega, Nat.pow_add]
          have least : 128 * 2 ^ (7 * lenLen) ≤ len * 2 ^ (7 * lenLen) :=
            Nat.mul_le_mul_right _ (by omega)
          omega
        have split : before + len % 128 * 2 ^ (7 * lenLen) + len / 128 * 2 ^ (7 * (lenLen + 1)) =
            before + len * 2 ^ (7 * lenLen) := by
          rw [show 7 * (lenLen + 1) = 7 + 7 * lenLen by omega, Nat.pow_add, add_assoc,
            ← mul_assoc, ← add_mul]
          congr 2
          omega
        have here : (before + (len % 128) <<< (7 * lenLen)) % 2 ^ 32 =
            before + len % 128 * 2 ^ (7 * lenLen) := by
          rw [Nat.shiftLeft_eq]
          apply Nat.mod_eq_of_lt
          omega
        have positive : 0 < rounds := by
          apply Nat.pos_of_ne_zero
          rintro rfl
          omega
        obtain ⟨last, done, read⟩ := @ih (len / 128) (lenLen + 1)
          (before + len % 128 * 2 ^ (7 * lenLen)) (UInt8.ofNat (len % 128) ||| 0x80)
          (by rw [Nat.pow_succ] at enough; omega) positive (split ▸ small)
        refine ⟨last, done, ?_⟩
        simp only [if_pos longer, List.cons_append]
        rw [readLength, low, here, if_neg more, if_neg (by omega), read, split, List.length_cons]
        congr 3
        omega
      · have zero : len / 128 = 0 := by omega
        have same : len % 128 = len := by omega
        refine ⟨UInt8.ofNat (len % 128), ends, ?_⟩
        have here : (before + (len % 128) <<< (7 * lenLen)) % 2 ^ 32 =
            before + len * 2 ^ (7 * lenLen) := by
          rw [Nat.shiftLeft_eq, same]
          apply Nat.mod_eq_of_lt
          omega
        simp only [if_neg longer, List.cons_append, List.nil_append]
        rw [readLength, plain, here, if_pos ends]
        rfl

theorem header_bits {cmd : Nat} {flags : UInt8} (command : cmd < 16) (small : flags < 16) :
    ((UInt8.ofNat cmd <<< 4 ||| flags) >>> 4).toNat = cmd ∧
      getQos (UInt8.ofNat cmd <<< 4 ||| flags) = getQos flags := by
  have every : ∀ cmd flags : Fin 16,
      ((UInt8.ofNat cmd <<< 4 ||| UInt8.ofNat flags) >>> 4).toNat = cmd ∧
        getQos (UInt8.ofNat cmd <<< 4 ||| UInt8.ofNat flags) = getQos (UInt8.ofNat flags) := by
    decide +kernel
  have bound : flags.toNat < 16 := UInt8.lt_iff_toNat_lt.mp small
  have both := every ⟨cmd, command⟩ ⟨flags.toNat, bound⟩
  rw [UInt8.ofNat_toNat] at both
  exact both

theorem header_length_pos (cmd : Nat) (flags : UInt8) (len : Nat) :
    2 ≤ (mgSendMqttHeader cmd flags len).length := by
  rw [mgSendMqttHeader, List.length_cons, variableLength]
  split_ifs
  · rw [List.length_cons]
    omega
  · exact le_refl 2

/-- Of a packet that has been written, `parse_mqtt` gets to the command. -/
theorem parse_written {cmd : Nat} {flags : UInt8} {body : Bytes} (command : cmd < 16)
    (small : flags < 16) (fits : body.length < 2 ^ 31) (beyond later : Bytes)
    (mm : MgMqttMessage) :
    parseMqtt beyond mm (mgSendMqttHeader cmd flags body.length ++ body ++ later) =
      parsedAs (mgSendMqttHeader cmd flags body.length ++ body).length
        (parseCommand (mgSendMqttHeader cmd flags body.length ++ body)
          (mgSendMqttHeader cmd flags body.length).length
          ((mgSendMqttHeader cmd flags body.length).length + body.length)
          { mm with cmd := cmd, qos := getQos flags }) := by
  obtain ⟨last, done, read⟩ := @read_variable_length 10 body.length 0 0 0 (body ++ later)
    (by omega) (by decide) (by omega)
  have complete : Complete (mgSendMqttHeader cmd flags body.length ++ body ++ later)
      (mgSendMqttHeader cmd flags body.length).length
      ((mgSendMqttHeader cmd flags body.length).length + body.length) := by
    refine ⟨?_, ⟨body.length, (variableLength 10 body.length).length, last, ?_, done, ?_, rfl⟩, ?_⟩
    · have header := header_length_pos cmd flags body.length
      simp only [List.length_append]
      omega
    · have rest : (mgSendMqttHeader cmd flags body.length ++ body ++ later).drop 1 =
          variableLength 10 body.length ++ (body ++ later) := by
        rw [mgSendMqttHeader, List.cons_append, List.cons_append, List.drop_one, List.tail_cons,
          List.append_assoc]
      rw [rest, read]
      simp
    · rw [mgSendMqttHeader, List.length_cons, add_comm]
    · simp only [List.length_append]
      omega
  have whole : (mgSendMqttHeader cmd flags body.length ++ body ++ later).take
      ((mgSendMqttHeader cmd flags body.length).length + body.length) =
        mgSendMqttHeader cmd flags body.length ++ body := by
    rw [← List.length_append, List.take_left]
  have first : headed ((mgSendMqttHeader cmd flags body.length ++ body ++ later).getD 0 0) mm =
      { mm with cmd := cmd, qos := getQos flags } := by
    obtain ⟨high, low⟩ := header_bits command small
    rw [mgSendMqttHeader, List.cons_append, List.cons_append, List.getD_cons_zero, headed, high, low]
  rw [parse_complete complete, whole, first, List.length_append]

end Lengths

section Fields

theorem byte_behind (front rest : Bytes) (index : Nat) :
    (front ++ rest).getD (front.length + index) 0 = rest.getD index 0 := by
  rw [List.getD_append_right _ _ _ _ (by omega), Nat.add_sub_cancel_left]

theorem getu16_netbytes {value : Nat} (small : value < 65536) (front rest : Bytes) :
    getu16 (front ++ (netbytes value ++ rest)) front.length = value := by
  have high := byte_behind front (netbytes value ++ rest) 0
  rw [Nat.add_zero] at high
  rw [getu16, high, byte_behind, netbytes]
  simp only [List.cons_append, List.getD_cons_zero, List.getD_cons_succ, UInt8.toNat_ofNat']
  omega

theorem between_behind (front rest later : Bytes) :
    between (front ++ (rest ++ later)) front.length (front.length + rest.length) =
      ⟨front.length, rest⟩ := by
  rw [between, ← List.append_assoc, ← List.length_append, List.take_left, List.drop_left]

theorem sized_text_length {text : Bytes} (short : text.length < 65536) :
    (sizedText text).length = 2 + text.length := by
  rw [sizedText, Nat.mod_eq_of_lt short, List.take_length, List.length_append]
  rfl

theorem scanto_sized {text : Bytes} (short : text.length < 65536) (front rest : Bytes) :
    scanto (front ++ (sizedText text ++ rest)) front.length =
      (⟨front.length + 2, text⟩, (front ++ sizedText text).length) := by
  have value : getu16 (front ++ (sizedText text ++ rest)) front.length = text.length := by
    rw [sizedText, List.append_assoc]
    exact getu16_netbytes short front _
  have shape : front ++ (sizedText text ++ rest) =
      (front ++ netbytes text.length) ++ (text ++ rest) := by
    rw [sizedText, Nat.mod_eq_of_lt short, List.take_length]
    simp only [List.append_assoc]
  have begins : (front ++ netbytes text.length).length = front.length + 2 :=
    List.length_append
  rw [scanto, value, List.length_append, sized_text_length short, shape, ← begins, between_behind,
    begins]
  simp only [Prod.mk.injEq, true_and]
  omega

theorem written_reads {cmd : Nat} {flags : UInt8} {body : Bytes} {packet : Packet}
    (command : cmd < 16) (small : flags < 16) (fits : body.length < 2 ^ 31)
    (reads : ∀ (front : Bytes) (mm : MgMqttMessage), mm.cmd = cmd → mm.qos = getQos flags →
      ∃ next, parseCommand (front ++ body) front.length (front.length + body.length) mm =
        some next ∧ readPacket next = packet)
    (beyond : Bytes) (mm : MgMqttMessage) (later : Bytes) :
    ∃ next, parseMqtt beyond mm (mgSendMqttHeader cmd flags body.length ++ body ++ later) =
        .packet next (mgSendMqttHeader cmd flags body.length ++ body).length ∧
      readPacket next = packet := by
  obtain ⟨next, parsed, same⟩ := reads (mgSendMqttHeader cmd flags body.length)
    { mm with cmd := cmd, qos := getQos flags } rfl rfl
  refine ⟨next, ?_, same⟩
  rw [parse_written command small fits, parsed]
  rfl

end Fields

section Commands

variable {mm : MgMqttMessage} {front : Bytes}

theorem connack_reads (returnCode : UInt8) (cmd : mm.cmd = cmdConnack) :
    ∃ next, parseCommand (front ++ [0, returnCode]) front.length
        (front.length + [0, returnCode].length) mm = some next ∧
      readPacket next = .connack returnCode := by
  refine ⟨{ mm with connackRetCode := returnCode }, ?_, ?_⟩
  · rw [parseCommand, if_neg (by rw [cmd]; decide), if_pos cmd, if_neg (by simp), byte_behind]
    rfl
  · rw [readPacket, if_neg (by rw [cmd]; decide), if_pos cmd]

theorem acknowledge_reads {cmd messageId : Nat} (rest : Bytes) (small : messageId < 65536)
    (kind : cmd = cmdPuback ∨ cmd = cmdPubrec ∨ cmd = cmdPubrel ∨ cmd = cmdPubcomp ∨
      cmd = cmdSuback) (same : mm.cmd = cmd) :
    ∃ next, parseCommand (front ++ (netbytes messageId ++ rest)) front.length
        (front.length + (netbytes messageId ++ rest).length) mm = some next ∧
      readPacket next = .acknowledge cmd messageId := by
  subst same
  have lengthy : (netbytes messageId ++ rest).length = 2 + rest.length := List.length_append
  have connect : ¬ mm.cmd = cmdConnect := by
    rcases kind with same | same | same | same | same <;> rw [same] <;> decide
  have connack : ¬ mm.cmd = cmdConnack := by
    rcases kind with same | same | same | same | same <;> rw [same] <;> decide
  refine ⟨{ mm with messageId := messageId }, ?_, ?_⟩
  · rw [parseCommand, if_neg connect, if_neg connack, if_pos kind, if_neg (by omega),
      getu16_netbytes small]
  · rw [readPacket, if_neg connect, if_neg connack, if_pos kind]

def knownCommands : List Nat :=
  [cmdConnect, cmdConnack, cmdPublish, cmdPuback, cmdPubrec, cmdPubrel, cmdPubcomp, cmdSubscribe,
    cmdSuback]

theorem other_reads {cmd : Nat} (body : Bytes) (other : cmd ∉ knownCommands)
    (same : mm.cmd = cmd) :
    ∃ next, parseCommand (front ++ body) front.length (front.length + body.length) mm = some next ∧
      readPacket next = .other cmd := by
  subst same
  simp only [knownCommands, List.mem_cons, List.not_mem_nil, or_false, not_or] at other
  obtain ⟨connect, connack, publish, puback, pubrec, pubrel, pubcomp, subscribe, suback⟩ := other
  refine ⟨mm, ?_, ?_⟩
  · simp only [parseCommand, connect, connack, publish, puback, pubrec, pubrel, pubcomp, subscribe,
      suback, or_self, if_false]
  · simp only [readPacket, connect, connack, publish, puback, pubrec, pubrel, pubcomp, subscribe,
      suback, or_self, if_false]

theorem not_acknowledge {cmd : Nat} (other : cmd = cmdPublish ∨ cmd = cmdSubscribe) :
    ¬ cmd = cmdConnect ∧ ¬ cmd = cmdConnack ∧
      ¬ (cmd = cmdPuback ∨ cmd = cmdPubrec ∨ cmd = cmdPubrel ∨ cmd = cmdPubcomp ∨
        cmd = cmdSuback) := by
  rcases other with rfl | rfl <;> decide

theorem subscribe_reads {messageId : Nat} (payload : Bytes) (small : messageId < 65536)
    (cmd : mm.cmd = cmdSubscribe) :
    ∃ next, parseCommand (front ++ (netbytes messageId ++ payload)) front.length
        (front.length + (netbytes messageId ++ payload).length) mm = some next ∧
      readPacket next = .subscribe messageId payload := by
  obtain ⟨connect, connack, acknowledge⟩ := not_acknowledge (Or.inr cmd)
  have lengthy : (netbytes messageId ++ payload).length = 2 + payload.length := List.length_append
  have publish : ¬ mm.cmd = cmdPublish := by rw [cmd]; decide
  have text : between (front ++ (netbytes messageId ++ payload)) (front.length + 2)
      (front.length + (netbytes messageId ++ payload).length) = ⟨front.length + 2, payload⟩ := by
    have behind := between_behind (front ++ netbytes messageId) payload []
    have begins : (front ++ netbytes messageId).length = front.length + 2 := List.length_append
    rw [List.append_nil, begins, List.append_assoc] at behind
    rw [lengthy, ← add_assoc]
    exact behind
  refine ⟨{ mm with messageId := messageId, payload := ⟨front.length + 2, payload⟩ }, ?_, ?_⟩
  · rw [parseCommand, if_neg connect, if_neg connack, if_neg acknowledge, if_neg publish,
      if_pos cmd, if_neg (by omega), getu16_netbytes small, text]
  · rw [readPacket, if_neg connect, if_neg connack, if_neg acknowledge, if_neg publish, if_pos cmd]

/-- Topic, identifier and payload. The identifier is there for a quality of service above 0. -/
theorem publish_reads {topic data : Bytes} {messageId : Nat} (short : topic.length < 65536)
    (small : messageId < 65536) (cmd : mm.cmd = cmdPublish) :
    ∃ next, parseCommand
        (front ++ (sizedText topic ++ ((if 0 < mm.qos then netbytes messageId else []) ++ data)))
        front.length
        (front.length +
          (sizedText topic ++ ((if 0 < mm.qos then netbytes messageId else []) ++ data)).length)
        mm = some next ∧
      readPacket next =
        .publish mm.qos (if 0 < mm.qos then some messageId else none) topic data := by
  obtain ⟨connect, connack, acknowledge⟩ := not_acknowledge (Or.inl cmd)
  have read (next : MgMqttMessage) (same : next.cmd = mm.cmd) : readPacket next =
      .publish next.qos (if 0 < next.qos then some next.messageId else none) next.topic.text
        next.payload.text := by
    rw [readPacket, same, if_neg connect, if_neg connack, if_neg acknowledge, if_pos cmd]
  have topicLength := sized_text_length short
  by_cases identified : 0 < mm.qos
  · simp only [if_pos identified]
    have text : between (front ++ (sizedText topic ++ (netbytes messageId ++ data)))
        ((front ++ sizedText topic).length + 2)
        (front.length + (sizedText topic ++ (netbytes messageId ++ data)).length) =
          ⟨(front ++ sizedText topic).length + 2, data⟩ := by
      have behind := between_behind (front ++ sizedText topic ++ netbytes messageId) data []
      have begins : (front ++ sizedText topic ++ netbytes messageId).length =
        (front ++ sizedText topic).length + 2 := List.length_append
      rw [List.append_nil, begins, List.append_assoc, List.append_assoc] at behind
      rw [← behind]
      congr 1
      simp only [List.length_append]
      have sized : (netbytes messageId).length = 2 := rfl
      omega
    refine ⟨{ mm with
      topic := ⟨front.length + 2, topic⟩
      messageId := messageId
      payload := ⟨(front ++ sizedText topic).length + 2, data⟩ }, ?_, ?_⟩
    · have value : getu16 (front ++ (sizedText topic ++ (netbytes messageId ++ data)))
          (front ++ sizedText topic).length = messageId := by
        rw [← List.append_assoc]
        exact getu16_netbytes small _ data
      have sized : (netbytes messageId).length = 2 := rfl
      rw [parseCommand, if_neg connect, if_neg connack, if_neg acknowledge, if_pos cmd,
        parsePublish]
      simp only [scanto_sized short]
      rw [if_neg (by simp only [List.length_append]; omega), if_pos identified,
        if_neg (by simp only [List.length_append]; omega), value, text]
    · refine (read _ ?_).trans ?_
      · rfl
      · simp only [if_pos identified]
  · simp only [if_neg identified, List.nil_append]
    have text : between (front ++ (sizedText topic ++ data)) (front ++ sizedText topic).length
        (front.length + (sizedText topic ++ data).length) =
          ⟨(front ++ sizedText topic).length, data⟩ := by
      have behind := between_behind (front ++ sizedText topic) data []
      rw [List.append_nil, List.append_assoc] at behind
      rw [← behind]
      congr 1
      simp only [List.length_append]
      omega
    refine ⟨{ mm with
      topic := ⟨front.length + 2, topic⟩
      payload := ⟨(front ++ sizedText topic).length, data⟩ }, ?_, ?_⟩
    · rw [parseCommand, if_neg connect, if_neg connack, if_neg acknowledge, if_pos cmd,
        parsePublish]
      simp only [scanto_sized short]
      rw [if_neg (by simp only [List.length_append]; omega), if_neg identified, text]
    · refine (read _ ?_).trans ?_
      · rfl
      · simp only [if_neg identified]

def publishBody (topic : Bytes) (messageId : Nat) (flags : UInt8) (data : Bytes) : Bytes :=
  sizedText topic ++ ((if 0 < getQos flags then netbytes messageId else []) ++ data)

theorem publish_body_length {topic : Bytes} (short : topic.length < 65536) (messageId : Nat)
    (flags : UInt8) (data : Bytes) :
    (publishBody topic messageId flags data).length =
      if 0 < getQos flags then 2 + topic.length + data.length + 2
      else 2 + topic.length + data.length := by
  rw [publishBody, List.length_append, List.length_append, sized_text_length short]
  split_ifs
  · rw [netbytes, List.length_cons, List.length_singleton]
    omega
  · rw [List.length_nil]
    omega

theorem publish_written {topic : Bytes} (short : topic.length < 65536) {messageId : Nat}
    {flags : UInt8} {data : Bytes} :
    mgMqttPublish topic messageId flags data =
      mgSendMqttHeader cmdPublish flags (publishBody topic messageId flags data).length ++
        publishBody topic messageId flags data := by
  rw [publish_body_length short, mgMqttPublish, publishBody, Nat.mod_eq_of_lt short]
  simp only [List.append_assoc]

theorem topics_length {topics : List TopicExpression}
    (short : ∀ entry ∈ topics, entry.topic.length < 65536) :
    (topics.flatMap fun entry => sizedText entry.topic ++ [entry.qos]).length =
      (topics.map fun entry => 2 + entry.topic.length + 1).sum := by
  induction topics with
  | nil => rfl
  | cons entry rest ih =>
      rw [List.flatMap_cons, List.length_append, List.length_append,
        sized_text_length (short entry List.mem_cons_self),
        ih fun next member => short next (List.mem_cons_of_mem _ member), List.map_cons,
        List.sum_cons, List.length_singleton]

theorem subscribe_written {topics : List TopicExpression}
    (short : ∀ entry ∈ topics, entry.topic.length < 65536) {messageId : Nat} :
    mgMqttSubscribe topics messageId =
      mgSendMqttHeader cmdSubscribe (qosFlags 1)
          (netbytes messageId ++
            topics.flatMap fun entry => sizedText entry.topic ++ [entry.qos]).length ++
        (netbytes messageId ++ topics.flatMap fun entry => sizedText entry.topic ++ [entry.qos]) := by
  rw [List.length_append, topics_length short, mgMqttSubscribe, List.append_assoc]
  rfl

theorem topic_texts_length {topics : List Bytes} (short : ∀ topic ∈ topics, topic.length < 65536) :
    (topics.flatMap sizedText).length = (topics.map fun topic => 2 + topic.length).sum := by
  rw [List.length_flatMap]
  exact congrArg List.sum
    (List.map_congr_left fun topic member => sized_text_length (short topic member))

theorem unsubscribe_written {topics : List Bytes}
    (short : ∀ topic ∈ topics, topic.length < 65536) {messageId : Nat} :
    mgMqttUnsubscribe topics messageId =
      mgSendMqttHeader cmdUnsubscribe (qosFlags 1)
          (netbytes messageId ++ topics.flatMap sizedText).length ++
        (netbytes messageId ++ topics.flatMap sizedText) := by
  rw [List.length_append, topic_texts_length short, mgMqttUnsubscribe, List.append_assoc]
  rfl

end Commands

section Handshake

variable {front : Bytes}

/-- The texts of a `CONNECT`, as many as there are. -/
def writtenTexts (texts : List (Option Bytes)) : Bytes :=
  texts.flatMap fun text => text.elim [] sizedText

theorem scan_written {texts : List (Option Bytes)}
    (short : ∀ text ∈ texts, ∀ bytes ∈ text, bytes.length < 65536) (front : Bytes) :
    ∃ read, scanTexts (front ++ writtenTexts texts) (front.length + (writtenTexts texts).length)
        (texts.map Option.isSome) front.length =
          some (read, front.length + (writtenTexts texts).length) ∧
      read.map (Option.map MgStr.text) = texts := by
  induction texts generalizing front with
  | nil => exact ⟨[], rfl, rfl⟩
  | cons text rest ih =>
      have later := fun next member => short next (List.mem_cons_of_mem _ member)
      cases text with
      | none =>
          obtain ⟨read, scanned, same⟩ := ih later front
          refine ⟨none :: read, ?_, congrArg (none :: ·) same⟩
          have written : writtenTexts (none :: rest) = writtenTexts rest := rfl
          rw [written, List.map_cons, Option.isSome_none, scanTexts, scanned]
          rfl
      | some bytes =>
          have fits := short (some bytes) List.mem_cons_self bytes rfl
          obtain ⟨read, scanned, same⟩ := ih later (front ++ sizedText bytes)
          refine ⟨some ⟨front.length + 2, bytes⟩ :: read, ?_, congrArg (some bytes :: ·) same⟩
          have written : writtenTexts (some bytes :: rest) =
            sizedText bytes ++ writtenTexts rest := rfl
          have sized := sized_text_length fits
          have limit : front.length + (writtenTexts (some bytes :: rest)).length =
              (front ++ sizedText bytes).length + (writtenTexts rest).length := by
            rw [written]
            simp only [List.length_append]
            omega
          rw [limit, List.map_cons, Option.isSome_some, scanTexts, if_neg, written,
            scanto_sized fits, ← List.append_assoc, scanned]
          · rfl
          · rw [List.length_append, sized]
            omega

theorem written_texts_length {texts : List (Option Bytes)}
    (short : ∀ text ∈ texts, ∀ bytes ∈ text, bytes.length < 65536) :
    (writtenTexts texts).length ≤ texts.length * 65537 := by
  induction texts with
  | nil => exact Nat.zero_le _
  | cons text rest ih =>
      have later := ih fun next member => short next (List.mem_cons_of_mem _ member)
      have written : writtenTexts (text :: rest) = text.elim [] sizedText ++ writtenTexts rest := rfl
      have here : (text.elim [] sizedText).length ≤ 65537 := by
        cases text with
        | none => exact Nat.zero_le _
        | some bytes =>
            have fits := short (some bytes) List.mem_cons_self bytes rfl
            rw [Option.elim_some, sized_text_length fits]
            omega
      rw [written, List.length_append, List.length_cons]
      omega

def optionTexts (opts : HandshakeOpts) : List (Option Bytes) :=
  [opts.will.map Prod.fst, opts.will.map Prod.snd, opts.userName, opts.password]

theorem handshake_flags_announce {opts : HandshakeOpts}
    (plain : textFlags opts.flags = [false, false, false, false]) :
    textFlags (handshakeFlags opts) = (optionTexts opts).map Option.isSome := by
  have every : ∀ (flags : Fin 256) (will user password : Bool),
      textFlags (UInt8.ofNat flags) = [false, false, false, false] →
        textFlags (flagIf will hasWill (flagIf password hasPassword
          (flagIf user hasUserName (UInt8.ofNat flags)))) = [will, will, user, password] := by
    decide +kernel
  have here := every ⟨opts.flags.toNat, opts.flags.toNat_lt⟩ opts.will.isSome
    opts.userName.isSome opts.password.isSome
  rw [UInt8.ofNat_toNat] at here
  rw [handshakeFlags, here plain, optionTexts]
  simp only [List.map_cons, List.map_nil, Option.isSome_map]

theorem handshake_texts_eq {opts : HandshakeOpts}
    (plain : textFlags opts.flags = [false, false, false, false]) :
    handshakeTexts opts = (optionTexts opts).filterMap id := by
  have announce := handshake_flags_announce plain
  simp only [textFlags, isSet, optionTexts, List.map_cons, List.map_nil, List.cons.injEq,
    and_true, Option.isSome_map] at announce
  obtain ⟨will, -, user, password⟩ := announce
  unfold handshakeTexts optionTexts
  simp only
  cases here : opts.will <;> cases there : opts.userName <;> cases last : opts.password <;>
    simp_all

theorem written_texts_eq (texts : List (Option Bytes)) :
    writtenTexts texts = (texts.filterMap id).flatMap sizedText := by
  induction texts with
  | nil => rfl
  | cons text rest ih =>
      cases text with
      | none => exact ih
      | some bytes => exact congrArg (sizedText bytes ++ ·) ih

theorem sized_texts_length {texts : List Bytes} (short : ∀ text ∈ texts, text.length < 65536) :
    (texts.flatMap sizedText).length = (texts.map fun text => 2 + text.length % 65536).sum := by
  induction texts with
  | nil => rfl
  | cons text rest ih =>
      have here := short text List.mem_cons_self
      rw [List.flatMap_cons, List.length_append, sized_text_length here,
        ih fun next member => short next (List.mem_cons_of_mem _ member), List.map_cons,
        List.sum_cons, Nat.mod_eq_of_lt here]

/-- What stands behind the length of a `CONNECT`. -/
def handshakeBody (clientId : Bytes) (opts : HandshakeOpts) : Bytes :=
  sizedText protocolName ++ ([4, handshakeFlags opts] ++
    (netbytes (if opts.keepAlive = 0 then 60 else opts.keepAlive) ++
      (sizedText clientId ++ writtenTexts (optionTexts opts))))

theorem handshake_written {clientId : Bytes} {opts : HandshakeOpts}
    (fits : Sendable (.handshake clientId opts)) :
    mgSendMqttHandshakeOpt clientId opts =
      mgSendMqttHeader cmdConnect 0 (handshakeBody clientId opts).length ++
        handshakeBody clientId opts := by
  obtain ⟨plain, short, -, texts⟩ := fits
  have written : writtenTexts (optionTexts opts) = (handshakeTexts opts).flatMap sizedText := by
    rw [written_texts_eq, handshake_texts_eq plain]
  have lengthy : (handshakeBody clientId opts).length =
      7 + 1 + 2 + 2 + clientId.length % 65536 +
        ((handshakeTexts opts).map fun text => 2 + text.length % 65536).sum := by
    rw [handshakeBody, written]
    simp only [List.length_append, sized_text_length short, sized_texts_length texts,
      Nat.mod_eq_of_lt short]
    have name : (sizedText protocolName).length = 6 := rfl
    have keepAlive (value : Nat) : (netbytes value).length = 2 := rfl
    rw [name, keepAlive, List.length_cons, List.length_singleton]
    omega
  rw [lengthy, mgSendMqttHandshakeOpt, handshakeBody, written]
  simp only [List.append_assoc]
  rfl

theorem option_texts_short {clientId : Bytes} {opts : HandshakeOpts}
    (fits : Sendable (.handshake clientId opts)) :
    ∀ text ∈ optionTexts opts, ∀ bytes ∈ text, bytes.length < 65536 := by
  obtain ⟨plain, -, -, texts⟩ := fits
  rintro text member bytes rfl
  apply texts
  rw [handshake_texts_eq plain]
  exact List.mem_filterMap.mpr ⟨some bytes, member, rfl⟩

theorem handshake_small {clientId : Bytes} {opts : HandshakeOpts}
    (fits : Sendable (.handshake clientId opts)) :
    (handshakeBody clientId opts).length < 2 ^ 31 := by
  have texts := written_texts_length (option_texts_short fits)
  have short := fits.2.1
  have four : (optionTexts opts).length = 4 := rfl
  rw [four] at texts
  rw [handshakeBody]
  simp only [List.length_append, sized_text_length short, List.length_cons, List.length_nil,
    netbytes]
  have name : (sizedText protocolName).length = 6 := rfl
  omega

theorem handshake_reads {mm : MgMqttMessage} {clientId : Bytes} {opts : HandshakeOpts}
    (fits : Sendable (.handshake clientId opts)) (front : Bytes) (cmd : mm.cmd = cmdConnect) :
    ∃ next, parseCommand (front ++ handshakeBody clientId opts) front.length
        (front.length + (handshakeBody clientId opts).length) mm = some next ∧
      readPacket next = packetOf (.handshake clientId opts) := by
  have listed := option_texts_short fits
  obtain ⟨plain, short, small, -⟩ := fits
  have announce := handshake_flags_announce plain
  have name := @scanto_sized protocolName (by decide) front ([4, handshakeFlags opts] ++
    (netbytes (if opts.keepAlive = 0 then 60 else opts.keepAlive) ++
      (sizedText clientId ++ writtenTexts (optionTexts opts))))
  have keepAlive := @getu16_netbytes (if opts.keepAlive = 0 then 60 else opts.keepAlive)
    (by split_ifs <;> omega) (front ++ sizedText protocolName ++ [4, handshakeFlags opts])
    (sizedText clientId ++ writtenTexts (optionTexts opts))
  have client := scanto_sized short (front ++ sizedText protocolName ++ [4, handshakeFlags opts] ++
    netbytes (if opts.keepAlive = 0 then 60 else opts.keepAlive)) (writtenTexts (optionTexts opts))
  obtain ⟨read, scanned, same⟩ := scan_written listed (front ++ sizedText protocolName ++
    [4, handshakeFlags opts] ++ netbytes (if opts.keepAlive = 0 then 60 else opts.keepAlive) ++
      sizedText clientId)
  have bytes := byte_behind (front ++ sizedText protocolName) ([4, handshakeFlags opts] ++
    (netbytes (if opts.keepAlive = 0 then 60 else opts.keepAlive) ++
      (sizedText clientId ++ writtenTexts (optionTexts opts))))
  have whole : front ++ handshakeBody clientId opts = front ++ (sizedText protocolName ++
    ([4, handshakeFlags opts] ++ (netbytes (if opts.keepAlive = 0 then 60 else opts.keepAlive) ++
      (sizedText clientId ++ writtenTexts (optionTexts opts))))) := rfl
  have pointers : (front ++ (sizedText protocolName ++ [4, handshakeFlags opts])).length =
      (front ++ sizedText protocolName).length + 2 := by
    simp only [List.length_append, List.length_cons, List.length_nil]
    omega
  have further : (front ++ (sizedText protocolName ++ ([4, handshakeFlags opts] ++
      netbytes (if opts.keepAlive = 0 then 60 else opts.keepAlive)))).length =
        (front ++ sizedText protocolName).length + 4 := by
    simp only [List.length_append, List.length_cons, List.length_nil, netbytes]
    omega
  simp only [List.append_assoc] at keepAlive client scanned bytes
  rw [← whole] at name keepAlive client scanned bytes
  rw [pointers] at keepAlive
  rw [further] at client
  have version := bytes 0
  rw [Nat.add_zero] at version
  have limit : (front ++ (sizedText protocolName ++ ([4, handshakeFlags opts] ++
      (netbytes (if opts.keepAlive = 0 then 60 else opts.keepAlive) ++ sizedText clientId)))).length +
        (writtenTexts (optionTexts opts)).length =
          front.length + (handshakeBody clientId opts).length := by
    rw [← List.length_append, ← List.length_append, whole]
    simp only [List.append_assoc]
  have inside : (front ++ sizedText protocolName).length + 4 <
      front.length + (handshakeBody clientId opts).length := by
    rw [← limit]
    simp only [List.length_append, List.length_cons, List.length_nil, netbytes,
      sized_text_length short]
    omega
  rw [limit, ← announce] at scanned
  refine ⟨storeTexts read (storeHead (front ++ handshakeBody clientId opts)
    (⟨front.length + 2, protocolName⟩, (front ++ sizedText protocolName).length)
    (⟨(front ++ sizedText protocolName).length + 4 + 2, clientId⟩, 0) mm), ?_, ?_⟩
  · rw [parseCommand, if_pos cmd, parseConnect]
    simp only [name, bytes 1, client]
    rw [if_neg (by omega), if_neg (by omega), if_neg (by rw [← limit]; omega)]
    have flags : ([4, handshakeFlags opts] ++
        (netbytes (if opts.keepAlive = 0 then 60 else opts.keepAlive) ++
          (sizedText clientId ++ writtenTexts (optionTexts opts)))).getD 1 0 =
        handshakeFlags opts := rfl
    rw [flags, scanned, Option.bind_some, if_pos rfl]
    rfl
  · have flags : (front ++ handshakeBody clientId opts).getD
        ((front ++ sizedText protocolName).length + 1) 0 = handshakeFlags opts := bytes 1
    have sets : read.map Option.isSome =
        textFlags ((front ++ handshakeBody clientId opts).getD
          ((front ++ sizedText protocolName).length + 1) 0) := by
      rw [flags]
      exact scan_texts_sets scanned
    have texts (index : Nat) : (read.getD index none).map MgStr.text =
        (optionTexts opts).getD index none := by
      rw [← same, List.getD_eq_getElem?_getD, List.getD_eq_getElem?_getD, List.getElem?_map]
      cases read[index]? <;> rfl
    refine (read_connect ?_ sets).trans ?_
    · exact cmd
    · simp only [storeHead, texts, version, flags, keepAlive]
      rfl

end Handshake

/-- Whatever is sent is read back, in front of any other bytes. -/
theorem sent_reads_back (beyond : Bytes) :
    ReadsBack (parseMqtt beyond) readPacket sendBytes packetOf Sendable := by
  constructor
  intro sending fits mm later
  cases sending with
  | handshake clientId opts =>
      rw [sendBytes, handshake_written fits]
      apply written_reads (by decide) (by decide) (handshake_small fits)
      intro front mm same _
      exact handshake_reads fits front same
  | connack returnCode =>
      apply @written_reads cmdConnack 0 [0, returnCode] _ (by decide) (by decide) (by simp)
      intro front mm same _
      exact connack_reads returnCode same
  | publish topic messageId flags data =>
      obtain ⟨short, small, low, long⟩ := fits
      have written : sendBytes (.publish topic messageId flags data) =
          mgSendMqttHeader cmdPublish flags (publishBody topic messageId flags data).length ++
            publishBody topic messageId flags data := publish_written short
      have lengthy := publish_body_length short messageId flags data
      rw [written]
      apply written_reads (by decide) low (by split_ifs at lengthy <;> omega)
      intro front mm same qos
      rw [publishBody, packetOf, ← qos]
      exact publish_reads short small same
  | shortCommand cmd messageId =>
      obtain ⟨kind, small⟩ := fits
      have flags : (if cmd = cmdPubrel then 2 else 0 : UInt8) < 16 := by
        split_ifs <;> decide
      have low : cmd < 16 := by
        simp only [List.mem_cons, List.not_mem_nil, or_false] at kind
        rcases kind with rfl | rfl | rfl | rfl | rfl <;> decide
      apply @written_reads cmd _ (netbytes messageId) _ low flags (by simp [netbytes])
      intro front mm same _
      by_cases unsuback : cmd = cmdUnsuback
      · rw [packetOf, if_pos unsuback]
        exact other_reads _ (by rw [unsuback]; decide) same
      · have acknowledge : cmd = cmdPuback ∨ cmd = cmdPubrec ∨ cmd = cmdPubrel ∨
            cmd = cmdPubcomp ∨ cmd = cmdSuback := by
          simp only [List.mem_cons, List.not_mem_nil, or_false] at kind
          tauto
        have reads := @acknowledge_reads mm front _ _ [] small acknowledge same
        rw [List.append_nil] at reads
        rw [packetOf, if_neg unsuback]
        exact reads
  | subscribe topics messageId =>
      obtain ⟨short, small, long⟩ := fits
      rw [sendBytes, subscribe_written short]
      apply written_reads (by decide) (by decide)
        (by rw [List.length_append, topics_length short]; exact long)
      intro front mm same _
      exact subscribe_reads _ small same
  | unsubscribe topics messageId =>
      obtain ⟨short, long⟩ := fits
      rw [sendBytes, unsubscribe_written short]
      apply written_reads (by decide) (by decide)
        (by rw [List.length_append, topic_texts_length short]; exact long)
      intro front mm same _
      exact other_reads _ (by decide) same
  | suback qoss messageId =>
      obtain ⟨small, long⟩ := fits
      have written : sendBytes (.suback qoss messageId) =
          mgSendMqttHeader cmdSuback (qosFlags 1) (netbytes messageId ++ qoss).length ++
            (netbytes messageId ++ qoss) := by
        have lengthy : (netbytes messageId ++ qoss).length = 2 + qoss.length := List.length_append
        rw [lengthy, sendBytes, mgMqttSuback, List.append_assoc]
      rw [written]
      apply written_reads (by decide) (by decide) (by rw [List.length_append]; exact long)
      intro front mm same _
      exact acknowledge_reads qoss small (by decide) same
  | ping =>
      apply @written_reads cmdPingreq 0 [] _ (by decide) (by decide) (by simp)
      intro front mm same _
      exact other_reads [] (by decide) same
  | pong =>
      apply @written_reads cmdPingresp 0 [] _ (by decide) (by decide) (by simp)
      intro front mm same _
      exact other_reads [] (by decide) same
  | disconnect =>
      apply @written_reads cmdDisconnect 0 [] _ (by decide) (by decide) (by simp)
      intro front mm same _
      exact other_reads [] (by decide) same

end SprinklerD.MqttRoundTrip
