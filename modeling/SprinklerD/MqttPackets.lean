import SprinklerD.Foundation.PacketStream
import SprinklerD.Foundation.CString
import Mathlib.Data.List.GetD

/-!
# MQTT packets

What `mg_mqtt.c` of Mongoose writes for each packet, and how `parse_mqtt` takes the first
packet of a receive buffer apart. A text is the bytes before its terminator, and a pointer
into the buffer is an offset.
-/

namespace SprinklerD.MqttPackets

open Foundation.PacketStream

set_option autoImplicit false

abbrev Bytes := List UInt8

/-- A text of the daemon as it stands in memory, and the other way round. -/
def textBytes (text : List Char) : Bytes := text.map fun char => UInt8.ofNat char.toNat

def bytesText (bytes : Bytes) : List Char := bytes.map fun byte => Char.ofNat byte.toNat

theorem bytes_text_of_text {text : List Char} (bytes : ∀ char ∈ text, char.toNat < 256) :
    bytesText (textBytes text) = text := by
  unfold bytesText textBytes
  rw [List.map_map]
  refine (List.map_congr_left fun char member => ?_).trans (List.map_id text)
  rw [Function.comp_apply, UInt8.toNat_ofNat', Nat.mod_eq_of_lt (bytes char member),
    Char.ofNat_toNat]
  rfl

section Commands

def cmdConnect : Nat := 1

def cmdConnack : Nat := 2

def cmdPublish : Nat := 3

def cmdPuback : Nat := 4

def cmdPubrec : Nat := 5

def cmdPubrel : Nat := 6

def cmdPubcomp : Nat := 7

def cmdSubscribe : Nat := 8

def cmdSuback : Nat := 9

def cmdUnsubscribe : Nat := 10

def cmdUnsuback : Nat := 11

def cmdPingreq : Nat := 12

def cmdPingresp : Nat := 13

def cmdDisconnect : Nat := 14

def retain : UInt8 := 0x1

def qosFlags (qos : UInt8) : UInt8 := qos <<< 1

def getQos (flags : UInt8) : UInt8 := (flags &&& 0x6) >>> 1

def hasWill : UInt8 := 0x04

def hasPassword : UInt8 := 0x40

def hasUserName : UInt8 := 0x80

end Commands

section Writing

/-- A `size_t` has 64 bits, so that ten rounds are enough. -/
def variableLength : Nat → Nat → Bytes
  | 0, _ => []
  | rounds + 1, len =>
      let byte := UInt8.ofNat (len % 0x80)
      if 0 < len / 0x80 then (byte ||| 0x80) :: variableLength rounds (len / 0x80) else [byte]

def mgSendMqttHeader (cmd : Nat) (flags : UInt8) (len : Nat) : Bytes :=
  (UInt8.ofNat cmd <<< 4 ||| flags) :: variableLength 10 len

/-- The two bytes of `htons`, of a number that has become an `uint16_t`. -/
def netbytes (value : Nat) : Bytes := [UInt8.ofNat (value % 65536 / 256), UInt8.ofNat (value % 256)]

def sizedText (text : Bytes) : Bytes := netbytes text.length ++ text.take (text.length % 65536)

def mgMqttPublish (topic : Bytes) (messageId : Nat) (flags : UInt8) (data : Bytes) : Bytes :=
  let totalLen := 2 + topic.length % 65536 + data.length
  let identified := 0 < getQos flags
  mgSendMqttHeader cmdPublish flags (if identified then totalLen + 2 else totalLen) ++
    sizedText topic ++ (if identified then netbytes messageId else []) ++ data

structure TopicExpression where
  topic : Bytes
  qos : UInt8

def mgMqttSubscribe (topics : List TopicExpression) (messageId : Nat) : Bytes :=
  mgSendMqttHeader cmdSubscribe (qosFlags 1)
      (2 + (topics.map fun entry => 2 + entry.topic.length + 1).sum) ++
    netbytes messageId ++ topics.flatMap fun entry => sizedText entry.topic ++ [entry.qos]

def mgMqttUnsubscribe (topics : List Bytes) (messageId : Nat) : Bytes :=
  mgSendMqttHeader cmdUnsubscribe (qosFlags 1)
      (2 + (topics.map fun topic => 2 + topic.length).sum) ++
    netbytes messageId ++ topics.flatMap sizedText

/-- `mg_send_mqtt_handshake_opts`. The texts are `NULL` where there is none. -/
structure HandshakeOpts where
  flags : UInt8 := 0
  keepAlive : Nat := 0
  will : Option (Bytes × Bytes) := none
  userName : Option Bytes := none
  password : Option Bytes := none

def flagIf (set : Bool) (flag flags : UInt8) : UInt8 := if set then flags ||| flag else flags

def handshakeFlags (opts : HandshakeOpts) : UInt8 :=
  flagIf opts.will.isSome hasWill (flagIf opts.password.isSome hasPassword
    (flagIf opts.userName.isSome hasUserName opts.flags))

/-- The texts behind the client identifier. A flag that is already set in the options counts
for a text that is not there, which is empty then. -/
def handshakeTexts (opts : HandshakeOpts) : List Bytes :=
  let flags := handshakeFlags opts
  let will := opts.will.getD ([], [])
  (if flags &&& hasWill ≠ 0 then [will.1, will.2] else []) ++
    (if flags &&& hasUserName ≠ 0 then [opts.userName.getD []] else []) ++
    (if flags &&& hasPassword ≠ 0 then [opts.password.getD []] else [])

def mgSendMqttHandshakeOpt (clientId : Bytes) (opts : HandshakeOpts) : Bytes :=
  let texts := handshakeTexts opts
  mgSendMqttHeader cmdConnect 0 (7 + 1 + 2 + 2 + clientId.length % 65536 +
      (texts.map fun text => 2 + text.length % 65536).sum) ++
    [0, 4, 77, 81, 84, 84, 4] ++ [handshakeFlags opts] ++
    netbytes (if opts.keepAlive = 0 then 60 else opts.keepAlive) ++ sizedText clientId ++
    texts.flatMap sizedText

def mgMqttConnack (returnCode : UInt8) : Bytes := mgSendMqttHeader cmdConnack 0 2 ++ [0, returnCode]

/-- `mg_mqtt_puback` and its like give it their command. -/
def mgSendMqttShortCommand (cmd messageId : Nat) : Bytes :=
  mgSendMqttHeader cmd (if cmd = cmdPubrel then 2 else 0) 2 ++ netbytes messageId

def mgMqttSuback (qoss : Bytes) (messageId : Nat) : Bytes :=
  mgSendMqttHeader cmdSuback (qosFlags 1) (2 + qoss.length) ++ netbytes messageId ++ qoss

def mgMqttPing : Bytes := mgSendMqttHeader cmdPingreq 0 0

def mgMqttPong : Bytes := mgSendMqttHeader cmdPingresp 0 0

def mgMqttDisconnect : Bytes := mgSendMqttHeader cmdDisconnect 0 0

end Writing

section Reading

structure MgStr where
  p : Nat := 0
  text : Bytes := []
deriving DecidableEq

/-- Every field is zero at first. `len` is what `parse_mqtt` returns. -/
structure MgMqttMessage where
  cmd : Nat := 0
  qos : UInt8 := 0
  topic : MgStr := {}
  payload : MgStr := {}
  connackRetCode : UInt8 := 0
  messageId : Nat := 0
  protocolVersion : UInt8 := 0
  connectFlags : UInt8 := 0
  keepAliveTimer : Nat := 0
  protocolName : MgStr := {}
  clientId : MgStr := {}
  willTopic : MgStr := {}
  willMessage : MgStr := {}
  userName : MgStr := {}
  password : MgStr := {}
deriving DecidableEq

def between (memory : Bytes) (p limit : Nat) : MgStr := ⟨p, (memory.take limit).drop p⟩

def getu16 (memory : Bytes) (p : Nat) : Nat :=
  (memory.getD p 0).toNat * 256 + (memory.getD (p + 1) 0).toNat

def scanto (memory : Bytes) (p : Nat) : MgStr × Nat :=
  let limit := p + 2 + getu16 memory p
  (between memory (p + 2) limit, limit)

/-- The texts at the end of a `CONNECT`, one after the other, as far as the flags announce them. -/
def scanTexts (memory : Bytes) (limit : Nat) : List Bool → Nat → Option (List (Option MgStr) × Nat)
  | [], p => some ([], p)
  | false :: rest, p => (scanTexts memory limit rest p).map fun read => (none :: read.1, read.2)
  | true :: rest, p =>
      if limit ≤ p then none
      else
        (scanTexts memory limit rest (scanto memory p).2).map fun read =>
          (some (scanto memory p).1 :: read.1, read.2)

def isSet (flags flag : UInt8) : Bool := flags &&& flag ≠ 0

def textFlags (flags : UInt8) : List Bool :=
  [isSet flags hasWill, isSet flags hasWill, isSet flags hasUserName, isSet flags hasPassword]

def storeTexts (texts : List (Option MgStr)) (mm : MgMqttMessage) : MgMqttMessage :=
  { mm with
    willTopic := (texts.getD 0 none).getD mm.willTopic
    willMessage := (texts.getD 1 none).getD mm.willMessage
    userName := (texts.getD 2 none).getD mm.userName
    password := (texts.getD 3 none).getD mm.password }

/-- What stands behind the name of the protocol, and the client identifier. -/
def storeHead (memory : Bytes) (name client : MgStr × Nat) (mm : MgMqttMessage) : MgMqttMessage :=
  { mm with
    protocolName := name.1
    protocolVersion := memory.getD name.2 0
    connectFlags := memory.getD (name.2 + 1) 0
    keepAliveTimer := getu16 memory (name.2 + 2)
    clientId := client.1 }

def parseConnect (memory : Bytes) (p limit : Nat) (mm : MgMqttMessage) : Option MgMqttMessage :=
  let name := scanto memory p
  if limit < name.2 + 4 then none
  else
    let flags := memory.getD (name.2 + 1) 0
    if limit ≤ name.2 + 4 then none
    else
      let client := scanto memory (name.2 + 4)
      if limit < client.2 then none
      else
        (scanTexts memory limit (textFlags flags) client.2).bind fun read =>
          if read.2 = limit then some (storeTexts read.1 (storeHead memory name client mm)) else none

def parsePublish (memory : Bytes) (p limit : Nat) (mm : MgMqttMessage) : Option MgMqttMessage :=
  let topic := scanto memory p
  if limit < topic.2 then none
  else if 0 < mm.qos then
    if limit < topic.2 + 2 then none
    else some { mm with
      topic := topic.1
      messageId := getu16 memory topic.2
      payload := between memory (topic.2 + 2) limit }
  else some { mm with topic := topic.1, payload := between memory topic.2 limit }

/-- The `switch` over the command. `none` where the packet is malformed. -/
def parseCommand (memory : Bytes) (p limit : Nat) (mm : MgMqttMessage) : Option MgMqttMessage :=
  if mm.cmd = cmdConnect then parseConnect memory p limit mm
  else if mm.cmd = cmdConnack then
    if limit < p + 2 then none
    else some { mm with connackRetCode := memory.getD (p + 1) 0 }
  else if mm.cmd = cmdPuback ∨ mm.cmd = cmdPubrec ∨ mm.cmd = cmdPubrel ∨ mm.cmd = cmdPubcomp ∨
      mm.cmd = cmdSuback then
    if limit < p + 2 then none
    else some { mm with messageId := getu16 memory p }
  else if mm.cmd = cmdPublish then parsePublish memory p limit mm
  else if mm.cmd = cmdSubscribe then
    if limit < p + 2 then none
    else some { mm with messageId := getu16 memory p, payload := between memory (p + 2) limit }
  else some mm

/-- The loop over the bytes of the length. `none` where there are too many; otherwise `len`,
`len_len` and the last byte. -/
def readLength : Nat → Nat → UInt8 → Bytes → Option (Nat × Nat × UInt8)
  | len, lenLen, lc, [] => some (len, lenLen, lc)
  | len, lenLen, _, lc :: rest =>
      let len := (len + (lc &&& 0x7f).toNat <<< (7 * lenLen)) % 2 ^ 32
      if lc &&& 0x80 = 0 then some (len, lenLen + 1, lc)
      else if 4 < lenLen + 1 then none
      else readLength len (lenLen + 1) lc rest

def parsedAs (limit : Nat) : Option MgMqttMessage → Parsed MgMqttMessage
  | none => .malformed
  | some next => .packet next limit

/-- `io` is what has been received, and `beyond` what follows it in memory. That a packet of
2^31 bytes has a negative length as an `int` is left out. -/
def parseMqtt (beyond : Bytes) (mm : MgMqttMessage) (io : Bytes) : Parsed MgMqttMessage :=
  if io.length < 2 then .incomplete
  else
    let header := io.getD 0 0
    match readLength 0 0 0 (io.drop 1) with
    | none => .malformed
    | some (len, lenLen, lc) =>
        let p := 1 + lenLen
        if lc &&& 0x80 ≠ 0 ∨ io.length < p + len then .incomplete
        else
          parsedAs (p + len) (parseCommand (io ++ beyond) p (p + len)
            { mm with cmd := (header >>> 4).toNat, qos := getQos header })

end Reading

inductive Packet where
  | connect (protocolName clientId : Bytes) (version flags : UInt8) (keepAlive : Nat)
      (willTopic willMessage userName password : Option Bytes)
  | connack (returnCode : UInt8)
  | publish (qos : UInt8) (messageId : Option Nat) (topic payload : Bytes)
  | acknowledge (cmd messageId : Nat)
  | subscribe (messageId : Nat) (payload : Bytes)
  | other (cmd : Nat)
deriving DecidableEq

def announced (flags flag : UInt8) (text : MgStr) : Option Bytes :=
  if isSet flags flag then some text.text else none

def readPacket (mm : MgMqttMessage) : Packet :=
  if mm.cmd = cmdConnect then
    .connect mm.protocolName.text mm.clientId.text mm.protocolVersion mm.connectFlags
      mm.keepAliveTimer
      (announced mm.connectFlags hasWill mm.willTopic)
      (announced mm.connectFlags hasWill mm.willMessage)
      (announced mm.connectFlags hasUserName mm.userName)
      (announced mm.connectFlags hasPassword mm.password)
  else if mm.cmd = cmdConnack then .connack mm.connackRetCode
  else if mm.cmd = cmdPuback ∨ mm.cmd = cmdPubrec ∨ mm.cmd = cmdPubrel ∨ mm.cmd = cmdPubcomp ∨
      mm.cmd = cmdSuback then
    .acknowledge mm.cmd mm.messageId
  else if mm.cmd = cmdPublish then
    .publish mm.qos (if 0 < mm.qos then some mm.messageId else none) mm.topic.text mm.payload.text
  else if mm.cmd = cmdSubscribe then .subscribe mm.messageId mm.payload.text
  else .other mm.cmd

section Framing

variable {memory : Bytes} {p limit : Nat} {mm : MgMqttMessage}

theorem byte_take (inside : p < limit) : (memory.take limit).getD p 0 = memory.getD p 0 := by
  rw [List.getD_eq_getElem?_getD, List.getD_eq_getElem?_getD, List.getElem?_take_of_lt inside]

theorem getu16_take (inside : p + 2 ≤ limit) : getu16 (memory.take limit) p = getu16 memory p := by
  rw [getu16, getu16, byte_take (by omega), byte_take (by omega)]

theorem between_take {stop : Nat} (inside : stop ≤ limit) :
    between (memory.take limit) p stop = between memory p stop := by
  rw [between, between, List.take_take, Nat.min_eq_left inside]

/-- A text inside the packet is read from the packet alone. -/
theorem scanto_take (inside : (scanto memory p).2 ≤ limit) :
    scanto (memory.take limit) p = scanto memory p := by
  unfold scanto at inside ⊢
  simp only at inside
  have same : getu16 (memory.take limit) p = getu16 memory p := getu16_take (by omega)
  simp only [same, between_take inside]

theorem scanto_take_over (past : limit < (scanto memory p).2) :
    limit < (scanto (memory.take limit) p).2 := by
  by_cases sized : p + 2 ≤ limit
  · have same : (scanto (memory.take limit) p).2 = (scanto memory p).2 := by
      unfold scanto
      simp only [getu16_take sized]
    rw [same]
    exact past
  · unfold scanto
    simp only
    omega

theorem scanto_take_cases (memory : Bytes) (p limit : Nat) :
    scanto (memory.take limit) p = scanto memory p ∨
      limit < (scanto memory p).2 ∧ limit < (scanto (memory.take limit) p).2 := by
  by_cases inside : (scanto memory p).2 ≤ limit
  · exact Or.inl (scanto_take inside)
  · exact Or.inr ⟨by omega, scanto_take_over (by omega)⟩

def Overrun (limit : Nat) (read : Option (List (Option MgStr) × Nat)) : Prop :=
  ∀ done, read = some done → limit < done.2

theorem overrun_scan {flags : List Bool} (memory : Bytes) (past : limit < p) :
    Overrun limit (scanTexts memory limit flags p) := by
  induction flags with
  | nil =>
      intro done same
      cases same
      exact past
  | cons set rest ih =>
      intro done same
      cases set with
      | false =>
          obtain ⟨read, scanned, rfl⟩ := Option.map_eq_some_iff.mp same
          exact ih read scanned
      | true =>
          rw [scanTexts, if_pos (by omega)] at same
          cases same

/-- The texts are read from the packet alone, or there are too few bytes either way. -/
theorem scan_texts_take (flags : List Bool) (memory : Bytes) (p limit : Nat) :
    scanTexts (memory.take limit) limit flags p = scanTexts memory limit flags p ∨
      Overrun limit (scanTexts memory limit flags p) ∧
        Overrun limit (scanTexts (memory.take limit) limit flags p) := by
  induction flags generalizing p with
  | nil => exact Or.inl rfl
  | cons set rest ih =>
      cases set with
      | false =>
          rw [scanTexts, scanTexts]
          rcases ih p with same | ⟨past, also⟩
          · exact Or.inl (by rw [same])
          · refine Or.inr ⟨?_, ?_⟩
            · intro done scanned
              obtain ⟨read, before, rfl⟩ := Option.map_eq_some_iff.mp scanned
              exact past read before
            · intro done scanned
              obtain ⟨read, before, rfl⟩ := Option.map_eq_some_iff.mp scanned
              exact also read before
      | true =>
          rw [scanTexts, scanTexts]
          by_cases short : limit ≤ p
          · rw [if_pos short, if_pos short]
            exact Or.inl rfl
          rw [if_neg short, if_neg short]
          rcases scanto_take_cases memory p limit with equal | ⟨past, alsoPast⟩
          · rw [equal]
            rcases ih (scanto memory p).2 with same | ⟨past, also⟩
            · exact Or.inl (by rw [same])
            · refine Or.inr ⟨?_, ?_⟩
              · intro done scanned
                obtain ⟨read, before, rfl⟩ := Option.map_eq_some_iff.mp scanned
                exact past read before
              · intro done scanned
                obtain ⟨read, before, rfl⟩ := Option.map_eq_some_iff.mp scanned
                exact also read before
          · refine Or.inr ⟨?_, ?_⟩
            · intro done scanned
              obtain ⟨read, before, rfl⟩ := Option.map_eq_some_iff.mp scanned
              exact overrun_scan memory past read before
            · intro done scanned
              obtain ⟨read, before, rfl⟩ := Option.map_eq_some_iff.mp scanned
              exact overrun_scan (memory.take limit) alsoPast read before

theorem bind_overrun {read : Option (List (Option MgStr) × Nat)} (past : Overrun limit read)
    (store : List (Option MgStr) × Nat → Option MgMqttMessage) :
    (read.bind fun done => if done.2 = limit then store done else none) = none := by
  cases read with
  | none => rfl
  | some done =>
      have beyond := past done rfl
      rw [Option.bind_some, if_neg (by omega)]

theorem store_head_take {name client : MgStr × Nat} (inside : name.2 + 4 ≤ limit) :
    storeHead (memory.take limit) name client mm = storeHead memory name client mm := by
  rw [storeHead, storeHead, byte_take (by omega), byte_take (by omega), getu16_take (by omega)]

theorem parse_connect_take :
    parseConnect (memory.take limit) p limit mm = parseConnect memory p limit mm := by
  unfold parseConnect
  rcases scanto_take_cases memory p limit with equal | ⟨past, also⟩
  · rw [equal]
    simp only
    by_cases short : limit < (scanto memory p).2 + 4
    · rw [if_pos short, if_pos short]
    rw [if_neg short, if_neg short]
    by_cases none : limit ≤ (scanto memory p).2 + 4
    · rw [if_pos none, if_pos none]
    rw [if_neg none, if_neg none]
    rcases scanto_take_cases memory ((scanto memory p).2 + 4) limit with equal | ⟨past, also⟩
    · rw [equal]
      by_cases inside : limit < (scanto memory ((scanto memory p).2 + 4)).2
      · rw [if_pos inside, if_pos inside]
      rw [if_neg inside, if_neg inside, byte_take (by omega), store_head_take (by omega)]
      rcases scan_texts_take (textFlags (memory.getD ((scanto memory p).2 + 1) 0)) memory
        (scanto memory ((scanto memory p).2 + 4)).2 limit with same | ⟨past, also⟩
      · rw [same]
      · rw [bind_overrun past, bind_overrun also]
    · rw [if_pos past, if_pos also]
  · rw [if_pos (by omega), if_pos (by omega)]

theorem parse_publish_take :
    parsePublish (memory.take limit) p limit mm = parsePublish memory p limit mm := by
  unfold parsePublish
  rcases scanto_take_cases memory p limit with equal | ⟨past, also⟩
  · rw [equal]
    simp only
    by_cases past : limit < (scanto memory p).2
    · rw [if_pos past, if_pos past]
    rw [if_neg past, if_neg past]
    by_cases identified : 0 < mm.qos
    · rw [if_pos identified, if_pos identified]
      by_cases short : limit < (scanto memory p).2 + 2
      · rw [if_pos short, if_pos short]
      · rw [if_neg short, if_neg short, getu16_take (by omega), between_take (le_refl limit)]
    · rw [if_neg identified, if_neg identified, between_take (le_refl limit)]
  · rw [if_pos past, if_pos also]

theorem parse_command_take :
    parseCommand (memory.take limit) p limit mm = parseCommand memory p limit mm := by
  unfold parseCommand
  rw [parse_connect_take, parse_publish_take, between_take (le_refl limit)]
  by_cases short : limit < p + 2
  · simp only [if_pos short]
  · rw [getu16_take (by omega), byte_take (by omega)]

theorem read_length_append {len lenLen : Nat} {lc : UInt8} {bytes : Bytes} {read : Nat × Nat × UInt8}
    (begun : bytes ≠ [] ∨ lc &&& 0x80 ≠ 0) (value : readLength len lenLen lc bytes = some read)
    (last : read.2.2 &&& 0x80 = 0) (later : Bytes) :
    readLength len lenLen lc (bytes ++ later) = some read := by
  induction bytes generalizing len lenLen lc with
  | nil =>
      cases value
      exact absurd last (begun.resolve_left fun some => some rfl)
  | cons byte rest ih =>
      rw [List.cons_append]
      rw [readLength] at value ⊢
      split_ifs at value ⊢ with ends many
      · exact value
      · exact ih (Or.inr ends) value

theorem read_length_fails {len lenLen : Nat} {lc : UInt8} {bytes : Bytes}
    (fails : readLength len lenLen lc bytes = none) (later : Bytes) :
    readLength len lenLen lc (bytes ++ later) = none := by
  induction bytes generalizing len lenLen lc with
  | nil => cases fails
  | cons byte rest ih =>
      rw [List.cons_append]
      rw [readLength] at fails ⊢
      split_ifs at fails ⊢ with ends many
      · rfl
      · exact ih fails

def headed (header : UInt8) (mm : MgMqttMessage) : MgMqttMessage :=
  { mm with cmd := (header >>> 4).toNat, qos := getQos header }

structure Complete (io : Bytes) (p limit : Nat) : Prop where
  buffered : 2 ≤ io.length
  sized : ∃ len lenLen lc, readLength 0 0 0 (io.drop 1) = some (len, lenLen, lc) ∧
    lc &&& 0x80 = 0 ∧ p = 1 + lenLen ∧ limit = p + len
  inside : limit ≤ io.length

theorem complete_append {io : Bytes} (complete : Complete io p limit) (later : Bytes) :
    Complete (io ++ later) p limit := by
  obtain ⟨buffered, ⟨len, lenLen, lc, value, last, pointer, stop⟩, inside⟩ := complete
  refine ⟨?_, ⟨len, lenLen, lc, ?_, last, pointer, stop⟩, ?_⟩
  · rw [List.length_append]
    omega
  · rw [List.drop_append_of_le_length (by omega)]
    apply read_length_append (Or.inl _) value last
    intro empty
    have short := congrArg List.length empty
    rw [List.length_drop, List.length_nil] at short
    omega
  · rw [List.length_append]
    omega

theorem parse_complete {io : Bytes} (complete : Complete io p limit) (beyond : Bytes)
    (mm : MgMqttMessage) :
    parseMqtt beyond mm io =
      parsedAs limit (parseCommand (io.take limit) p limit (headed (io.getD 0 0) mm)) := by
  obtain ⟨buffered, ⟨len, lenLen, lc, value, last, rfl, rfl⟩, inside⟩ := complete
  rw [parseMqtt, if_neg (by omega)]
  simp only [value]
  rw [if_neg (by rintro (open' | short); exacts [open' last, by omega]), ← parse_command_take,
    List.take_append_of_le_length inside]
  rfl

def Unsized (io : Bytes) : Prop := 2 ≤ io.length ∧ readLength 0 0 0 (io.drop 1) = none

theorem unsized_append {io : Bytes} (unsized : Unsized io) (later : Bytes) : Unsized (io ++ later) := by
  obtain ⟨buffered, fails⟩ := unsized
  refine ⟨?_, ?_⟩
  · rw [List.length_append]
    omega
  · rw [List.drop_append_of_le_length (by omega)]
    exact read_length_fails fails later

theorem parse_unsized {io : Bytes} (unsized : Unsized io) (beyond : Bytes) (mm : MgMqttMessage) :
    parseMqtt beyond mm io = .malformed := by
  rw [parseMqtt, if_neg (by have := unsized.1; omega)]
  simp only [unsized.2]

theorem buffer_cases (io : Bytes) :
    (∀ beyond mm, parseMqtt beyond mm io = .incomplete) ∨ Unsized io ∨
      ∃ p limit, Complete io p limit ∧ 0 < limit := by
  by_cases short : io.length < 2
  · refine Or.inl fun beyond mm => ?_
    rw [parseMqtt, if_pos short]
  cases value : readLength 0 0 0 (io.drop 1) with
  | none => exact Or.inr (Or.inl ⟨by omega, value⟩)
  | some read =>
      obtain ⟨len, lenLen, lc⟩ := read
      by_cases waits : lc &&& 0x80 ≠ 0 ∨ io.length < 1 + lenLen + len
      · refine Or.inl fun beyond mm => ?_
        rw [parseMqtt, if_neg short]
        simp only [value]
        rw [if_pos waits]
      · push Not at waits
        exact Or.inr (Or.inr ⟨1 + lenLen, 1 + lenLen + len,
          ⟨by omega, ⟨len, lenLen, lc, value, waits.1, rfl, rfl⟩, waits.2⟩, by omega⟩)

/-- What comes behind a complete packet is not looked at. -/
theorem parse_append {io : Bytes} (complete : Complete io p limit) (beyond later : Bytes)
    (mm : MgMqttMessage) : parseMqtt beyond mm (io ++ later) = parseMqtt beyond mm io := by
  have first : (io ++ later).getD 0 0 = io.getD 0 0 := by
    have buffered := complete.buffered
    rw [List.getD_append _ _ _ _ (by omega)]
  rw [parse_complete complete, parse_complete (complete_append complete later), first,
    List.take_append_of_le_length complete.inside]

/-- A packet is only found where the buffer is complete. -/
theorem complete_of_packet {beyond io : Bytes} {mm next : MgMqttMessage} {length : Nat}
    (parsed : parseMqtt beyond mm io = .packet next length) :
    ∃ p, Complete io p length ∧ 0 < length ∧
      parseCommand (io.take length) p length (headed (io.getD 0 0) mm) = some next := by
  rcases buffer_cases io with waits | unsized | ⟨p, limit, complete, positive⟩
  · rw [waits] at parsed
    cases parsed
  · rw [parse_unsized unsized] at parsed
    cases parsed
  · rw [parse_complete complete] at parsed
    cases read : parseCommand (io.take limit) p limit (headed (io.getD 0 0) mm) with
    | none =>
        rw [read] at parsed
        cases parsed
    | some done =>
        rw [read] at parsed
        cases parsed
        exact ⟨p, complete, positive, read⟩

theorem scan_texts_sets {flags : List Bool} {texts : List (Option MgStr)} {stop : Nat}
    (scanned : scanTexts memory limit flags p = some (texts, stop)) :
    texts.map Option.isSome = flags := by
  induction flags generalizing p texts with
  | nil =>
      cases scanned
      rfl
  | cons set rest ih =>
      cases set with
      | false =>
          obtain ⟨read, before, same⟩ := Option.map_eq_some_iff.mp scanned
          cases same
          exact congrArg (false :: ·) (ih before)
      | true =>
          rw [scanTexts] at scanned
          split_ifs at scanned
          obtain ⟨read, before, same⟩ := Option.map_eq_some_iff.mp scanned
          cases same
          exact congrArg (true :: ·) (ih before)

theorem announced_stored {flags flag : UInt8} {text : Option MgStr}
    (set : text.isSome = isSet flags flag) (old : MgStr) :
    announced flags flag (text.getD old) = text.map MgStr.text := by
  rw [announced, ← set]
  cases text with
  | none => rfl
  | some text => rfl

theorem read_connect (connect : mm.cmd = cmdConnect) {texts : List (Option MgStr)}
    (sets : texts.map Option.isSome = textFlags mm.connectFlags) :
    readPacket (storeTexts texts mm) =
      .connect mm.protocolName.text mm.clientId.text mm.protocolVersion mm.connectFlags
        mm.keepAliveTimer ((texts.getD 0 none).map MgStr.text)
        ((texts.getD 1 none).map MgStr.text) ((texts.getD 2 none).map MgStr.text)
        ((texts.getD 3 none).map MgStr.text) := by
  have set (index : Nat) :
      (texts.getD index none).isSome = (textFlags mm.connectFlags).getD index false := by
    rw [← sets, List.getD_eq_getElem?_getD, List.getD_eq_getElem?_getD, List.getElem?_map]
    cases texts[index]? <;> rfl
  have topic := @announced_stored _ hasWill _ (set 0) mm.willTopic
  have message := @announced_stored _ hasWill _ (set 1) mm.willMessage
  have user := @announced_stored _ hasUserName _ (set 2) mm.userName
  have password := @announced_stored _ hasPassword _ (set 3) mm.password
  rw [← topic, ← message, ← user, ← password, readPacket]
  exact if_pos connect

theorem connect_independent {first second : MgMqttMessage} (cmd : first.cmd = cmdConnect)
    (also : second.cmd = cmdConnect) (memory : Bytes) (p limit : Nat) :
    (parseConnect memory p limit first).map readPacket =
      (parseConnect memory p limit second).map readPacket := by
  unfold parseConnect
  simp only
  split_ifs with short none past
  · rfl
  · rfl
  · rfl
  · cases scanned : scanTexts memory limit _ _ with
    | none => rfl
    | some read =>
        have sets := scan_texts_sets scanned
        rw [Option.bind_some, Option.bind_some]
        split_ifs
        · rw [Option.map_some, Option.map_some, @read_connect (storeHead memory _ _ first) cmd _ sets,
            @read_connect (storeHead memory _ _ second) also _ sets]
          rfl
        · rfl

theorem publish_independent {first second : MgMqttMessage} (cmd : first.cmd = cmdPublish)
    (also : second.cmd = cmdPublish) (qos : first.qos = second.qos) (memory : Bytes)
    (p limit : Nat) :
    (parsePublish memory p limit first).map readPacket =
      (parsePublish memory p limit second).map readPacket := by
  unfold parsePublish
  simp only [← qos]
  split_ifs with past identified short
  · rfl
  · rfl
  · simp [readPacket, cmd, also, cmdConnect, cmdConnack, cmdPuback, cmdPubrec, cmdPubrel,
      cmdPubcomp, cmdSuback, cmdPublish]
  · simp [readPacket, cmd, also, identified, cmdConnect, cmdConnack, cmdPuback, cmdPubrec,
      cmdPubrel, cmdPubcomp, cmdSuback, cmdPublish]

theorem parse_independent {first second : MgMqttMessage} (cmd : first.cmd = second.cmd)
    (qos : first.qos = second.qos) (memory : Bytes) (p limit : Nat) :
    (parseCommand memory p limit first).map readPacket =
      (parseCommand memory p limit second).map readPacket := by
  unfold parseCommand
  rw [← cmd]
  split_ifs with connect connack short acknowledge short publish subscribe short
  · exact connect_independent connect (cmd ▸ connect) memory p limit
  · rfl
  · simp [readPacket, connack, cmdConnect, cmdConnack]
  · rfl
  · simp [readPacket, connect, connack, acknowledge]
  · exact publish_independent publish (cmd ▸ publish) qos memory p limit
  · rfl
  · simp [readPacket, subscribe, cmdConnect, cmdConnack, cmdPuback, cmdPubrec, cmdPubrel,
      cmdPubcomp, cmdSuback, cmdPublish, cmdSubscribe]
  · simp [readPacket, connect, connack, acknowledge, publish, subscribe, ← cmd]

theorem mqtt_framing (beyond : Bytes) : Framing (parseMqtt beyond) readPacket where
  waits _ := rfl
  consumes := by
    intro mm io next length parsed
    obtain ⟨p, complete, positive, -⟩ := complete_of_packet parsed
    exact ⟨positive, complete.inside⟩
  keeps := by
    intro mm io next length parsed later
    obtain ⟨p, complete, -⟩ := complete_of_packet parsed
    rw [parse_append complete, parsed]
  rejects := by
    intro mm io parsed later
    rcases buffer_cases io with waits | unsized | ⟨p, limit, complete, -⟩
    · rw [waits] at parsed
      cases parsed
    · exact parse_unsized (unsized_append unsized later) beyond mm
    · rw [parse_append complete, parsed]
  independent := by
    intro first second io
    rcases buffer_cases io with waits | unsized | ⟨p, limit, complete, -⟩
    · rw [waits, waits]
    · rw [parse_unsized unsized, parse_unsized unsized]
    · have same := @parse_independent (headed (io.getD 0 0) first) (headed (io.getD 0 0) second)
        rfl rfl (io.take limit) p limit
      rw [parse_complete complete, parse_complete complete]
      cases here : parseCommand (io.take limit) p limit (headed (io.getD 0 0) first) with
      | none =>
          rw [here] at same
          rw [Option.map_eq_none_iff.mp same.symm]
      | some next =>
          rw [here] at same
          obtain ⟨other, there, read⟩ := Option.map_eq_some_iff.mp same.symm
          rw [there]
          simp only [parsedAs, Parsed.map, read]

end Framing

end SprinklerD.MqttPackets
