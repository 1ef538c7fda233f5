import SprinklerD.DomoticzMessages
import SprinklerD.Hassio
import SprinklerD.MainLoop
import SprinklerD.MqttStream

/-!
# The MQTT session

`ev_handler`, `check_net_services` and `start_mqtt` of `net_services.c`. Mongoose opens and
closes connections and hands over what arrives on them; the handler keeps the session in a
few static variables and writes to every connection that it has marked as MQTT. The web
requests come in beside it, and the main loop broadcasts and then looks after the session.
-/

namespace SprinklerD.MqttSession

open Foundation.CString Foundation.PacketStream
open SprinklerD.Config SprinklerD.ZoneCtrl SprinklerD.NetServices SprinklerD.Broadcast
open SprinklerD.DomoticzParser SprinklerD.DomoticzMessages SprinklerD.JsonMessages
open SprinklerD.Operations SprinklerD.Hassio SprinklerD.Daemon SprinklerD.MainLoop SprinklerD.MqttPackets
open SprinklerD.MqttRoundTrip SprinklerD.MqttStream

set_option autoImplicit false

inductive MqttStatus where
  | mqttstarting
  | mqttrunning
  | mqttstopped
  | mqttdisabled
deriving DecidableEq, Repr

/-- What the configuration holds for the session alone. The identifier is generated when it
is empty. -/
structure MqttCfg where
  mqttUser : Text
  mqttPasswd : Text
  mqttId : Text
  mqttDzSubTopic : Text
  enableMQTTha : Bool
  mqttHaDisTopic : Text
  labels : Labels

/-- A connection made by `mg_connect`. The handler sets `MG_F_USER_1` on it once it stands. -/
structure Connection where
  nc : Nat
  isMqtt : Bool
  recvMbuf : Option Bytes
deriving DecidableEq

/-- The static variables of the session and the connections of the manager, the newest
first; the listener and the web connections are left out. -/
structure Session where
  mqttStatus : MqttStatus := .mqttstopped
  mqttConnection : Option Nat := none
  mqttConnectedTime : Int := 0
  hapublished : Bool := false
  msgId : Nat := 0
  activeConnections : List Connection := []
  made : Nat := 0

/-- The daemon, with what the last event wrote to which connection. -/
structure NetState where
  st : SprinklerdState
  published : Published
  i : Nat
  session : Session
  sent : List (Nat × Sending)

/-- What happens to the process. The clock is read once for each packet. -/
inductive NetEvent where
  | webRequest (now : Int) (query stack : Text)
  | filesOpen (cacheOpens cronOpens : Bool)
  | connect (nc : Nat)
  | recv (nc : Nat) (clock : Nat → Int) (piece beyond : Bytes)
  | close (nc : Nat)
  | pass (clock : PassClock) (opens : Bool)

variable (cfg : SprinklerdCfg) (net : MqttCfg) (lib : CLibrary)

section Sending

def nextMsgId (msgId : Nat) : Nat := if 65535 ≤ msgId then 1 else msgId + 1

def sendMqttMsg (nc : Nat) (state : NetState) (message : Text × Text) : NetState :=
  let msgId := nextMsgId state.session.msgId
  { state with
    session := { state.session with msgId := msgId }
    sent := state.sent ++ [(nc, .publish (textBytes message.1) msgId (retain ||| qosFlags 1)
      (textBytes message.2))] }

def sendMessages (nc : Nat) (messages : List (Text × Text)) (state : NetState) : NetState :=
  messages.foldl (sendMqttMsg nc) state

/-- The temperature is unknown in all messages for Domoticz, so that both builders agree. -/
def publicationMessage : Publication → Text × Text
  | .status topic payload => (cfg.mqttTopic ++ topicText topic, payload)
  | .domoticz idx nvalue svalue =>
      (cfg.mqttDzPubTopic, buildDzStatusMessageJSON idx nvalue svalue)

def mqttConnections (session : Session) : List Nat :=
  (session.activeConnections.filter Connection.isMqtt).map Connection.nc

def stateTo (now : Int) (state : NetState) (nc : Nat) : NetState :=
  let here := broadcastSprinklerdstate cfg lib true now state.published state.st
  sendMessages nc (here.sent.map (publicationMessage cfg))
    { state with st := here.st, published := here.published }

/-- `broadcast_sprinklerdstate` goes over the connections. -/
def broadcastState (now : Int) (state : NetState) : NetState :=
  let done := (mqttConnections state.session).foldl (stateTo cfg lib now) state
  { done with st := clearEventStatus done.st }

def activeTo (state : NetState) (nc : Nat) : NetState :=
  sendMessages nc ((publishActive cfg lib state.st).map (publicationMessage cfg)) state

def broadcastActive (state : NetState) : NetState :=
  let done := (mqttConnections state.session).foldl (activeTo cfg lib) state
  { done with st := clearEventZones done.st }

end Sending

section Handler

def aliveTopic : Text := cfg.mqttTopic ++ '/' :: mqttLwmTopic

def cleanSession : UInt8 := 0x02

/-- User and password are arrays, so that there always are texts. -/
def handshake : Sending :=
  .handshake (textBytes net.mqttId) {
    flags := cleanSession
    keepAlive := 5
    will := some (textBytes (aliveTopic cfg), textBytes mqttOff)
    userName := some (textBytes net.mqttUser)
    password := some (textBytes net.mqttPasswd) }

/-- `gp_topic` is written by `snprintf`, which leaves 28 characters of it. -/
def gpTopic : Text := (cfg.mqttTopic ++ "/#".toList).take 28

def subscriptions : List TopicExpression :=
  (if cfg.enableMQTTaq then [⟨textBytes (gpTopic cfg), 0⟩] else []) ++
    (if cfg.enableMQTTdz then [⟨textBytes net.mqttDzSubTopic, 0⟩] else [])

def markMqtt (nc : Nat) (session : Session) : Session :=
  { session with
    activeConnections := session.activeConnections.map fun connection =>
      if connection.nc = nc then { connection with isMqtt := true } else connection }

/-- `MG_EV_CONNECT`. Whether the connection stands is not looked at. -/
def handleConnect (nc : Nat) (state : NetState) : NetState :=
  { state with
    session := { markMqtt nc state.session with
      mqttStatus := .mqttrunning
      mqttConnection := some nc }
    sent := state.sent ++ [(nc, handshake cfg net)] }

/-- From here on messages are cached ones for a second. -/
def sessionAccepted (nc : Nat) (now : Int) (state : NetState) : NetState :=
  { state with
    session := { state.session with mqttConnectedTime := now }
    sent := state.sent ++
      (if subscriptions cfg net = [] then [] else [(nc, .subscribe (subscriptions cfg net) 42)]) }

/-- Home Assistant is told once in the life of the process. -/
def announceEntities (nc : Nat) (state : NetState) : NetState :=
  if net.enableMQTTha ∧ state.session.hapublished = false then
    let told :=
      sendMessages nc (publishMqttHassioDiscover cfg net.labels net.mqttHaDisTopic) state
    { told with session := { told.session with hapublished := true } }
  else state

def handleConnack (nc : Nat) (now : Int) (returnCode : UInt8) (state : NetState) : NetState :=
  if returnCode ≠ 0 then
    { state with session := { state.session with mqttStatus := .mqttstopped, mqttConnection := none } }
  else broadcastState cfg lib now (announceEntities cfg net nc (sessionAccepted cfg net nc now state))

def handleSuback (nc : Nat) (state : NetState) : NetState :=
  sendMqttMsg nc state (aliveTopic cfg, mqttOn)

/-- What a pointer into the buffer points to, and what follows the text there. -/
def memoryAt (packet : HandledPacket) (beyond : Bytes) (text : MgStr) : Text × Text :=
  (bytesText text.text, bytesText ((packet.2 ++ beyond).drop (text.p + text.text.length)))

def messageOf (packet : HandledPacket) (beyond : Bytes) : MqttMessage :=
  let topic := memoryAt packet beyond packet.1.topic
  let payload := memoryAt packet beyond packet.1.payload
  { topic := topic.1, afterTopic := topic.2, payload := payload.1, afterPayload := payload.2 }

/-- Messages of the first second are taken for cached ones, and those with an identifier for
messages of the daemon. -/
def heeded (now connectedTime : Int) (messageId : Nat) : Bool :=
  1 ≤ now - connectedTime ∧ messageId = 0

/-- The topic begins like this. The comparison may go on behind its end. -/
def beginsWith (message : MqttMessage) (base : Text) : Bool :=
  strncmpEqual (message.topic ++ message.afterTopic) base base.length

def handlePublish (now : Int) (message : MqttMessage) (messageId : Nat) (state : NetState) :
    NetState :=
  if heeded now state.session.mqttConnectedTime messageId then
    let own :=
      if cfg.enableMQTTaq ∧ beginsWith message cfg.mqttTopic then
        actionMqttMessage cfg now message state.st
      else state.st
    let both :=
      if cfg.enableMQTTdz ∧ beginsWith message net.mqttDzSubTopic then
        domoticzPayload cfg now message.payload message.afterPayload own
      else own
    { state with st := both }
  else state

def handlePacket (nc : Nat) (now : Int) (beyond : Bytes) (packet : HandledPacket)
    (state : NetState) : NetState :=
  if packet.1.cmd = cmdConnack then handleConnack cfg net lib nc now packet.1.connackRetCode state
  else if packet.1.cmd = cmdSuback then handleSuback cfg nc state
  else if packet.1.cmd = cmdPublish then
    handlePublish cfg net now (messageOf packet beyond) packet.1.messageId state
  else state

def handlePackets (nc : Nat) (clock : Nat → Int) (beyond : Bytes) :
    Nat → List HandledPacket → NetState → NetState
  | _, [], state => state
  | read, packet :: rest, state =>
      handlePackets nc clock beyond (read + 1) rest
        (handlePacket cfg net lib nc (clock read) beyond packet state)

def keepBuffer (nc : Nat) (recvMbuf : Option Bytes) (state : NetState) : NetState :=
  { state with
    session := { state.session with
      activeConnections := state.session.activeConnections.map fun connection =>
        if connection.nc = nc then { connection with recvMbuf := recvMbuf } else connection } }

def findConnection (nc : Nat) (session : Session) : Option Connection :=
  session.activeConnections.find? fun connection => connection.nc = nc

/-- What `mqtt_handler` makes of a piece. -/
def received (nc : Nat) (piece beyond : Bytes) (session : Session) :
    Drained UInt8 MgMqttMessage :=
  match findConnection nc session with
  | none => { handled := [], pending := none }
  | some connection => mqttHandlerRecv beyond connection.recvMbuf piece

/-- `MG_EV_RECV`, which turns into the events of the packets. -/
def handleRecv (nc : Nat) (clock : Nat → Int) (piece beyond : Bytes) (state : NetState) :
    NetState :=
  let drained := received nc piece beyond state.session
  keepBuffer nc drained.pending (handlePackets cfg net lib nc clock beyond 0 drained.handled state)

def dropConnection (nc : Nat) (session : Session) : Session :=
  { session with
    activeConnections := session.activeConnections.filter fun connection => connection.nc ≠ nc }

/-- `MG_EV_CLOSE`. Any connection that is marked ends the session. -/
def handleClose (nc : Nat) (state : NetState) : NetState :=
  let left := dropConnection nc state.session
  if nc ∈ mqttConnections state.session then
    { state with session := { left with mqttStatus := .mqttstopped, mqttConnection := none } }
  else { state with session := left }

end Handler

section Loop

/-- `opens` is the answer of `mg_connect`. -/
def startMqtt (opens : Bool) (session : Session) : Session :=
  if cfg.enableMQTTaq = false then { session with mqttStatus := .mqttdisabled }
  else if opens then
    { session with
      mqttStatus := .mqttstarting
      activeConnections :=
        { nc := session.made, isMqtt := false, recvMbuf := some [] } :: session.activeConnections
      made := session.made + 1 }
  else session

def checkNetServices (opens : Bool) (state : NetState) : NetState :=
  if state.session.mqttStatus = .mqttstopped then
    { state with session := startMqtt cfg opens state.session }
  else state

def announceTo (now : Int) (acted : Bool) (state : NetState) : NetState :=
  if acted = true ∨ ¬ Quiet state.st then
    broadcastActive cfg lib (broadcastState cfg lib now state)
  else if 10 < state.i ∧ state.st.currentZone.type ≠ .zcNone then
    broadcastActive cfg lib { state with i := 0 }
  else if 600 ≤ state.i then
    broadcastActive cfg lib (broadcastState cfg lib now { state with i := 0 })
  else state

def netPass (clock : PassClock) (opens : Bool) (state : NetState) : NetState :=
  let ticked := tick cfg clock state.st
  let announced := announceTo cfg lib clock.broadcast ticked.2 { state with st := ticked.1 }
  let checked := checkNetServices cfg opens announced
  { checked with i := checked.i + 1 }

def netStep (before : NetState) (event : NetEvent) : NetState :=
  let state := { before with sent := [] }
  match event with
  | .webRequest now query stack =>
      { state with st := daemonStep cfg state.st (now, .webRequest query stack) }
  | .filesOpen cacheOpens cronOpens =>
      { state with st := daemonStep cfg state.st (0, .filesOpen cacheOpens cronOpens) }
  | .connect nc => handleConnect cfg net nc state
  | .recv nc clock piece beyond => handleRecv cfg net lib nc clock piece beyond state
  | .close nc => handleClose nc state
  | .pass clock opens => netPass cfg lib clock opens state

/-- `start_net_services`, before the loop. -/
def netStart (opens : Bool) (st : SprinklerdState) : NetState where
  st := st
  published := {}
  i := 0
  session := startMqtt cfg opens {}
  sent := []

end Loop

section Frames

variable {cfg : SprinklerdCfg} {net : MqttCfg} {lib : CLibrary}

def OnlyIds (before after : Session) : Prop := ∃ msgId, after = { before with msgId := msgId }

theorem only_ids_refl (session : Session) : OnlyIds session session := ⟨session.msgId, rfl⟩

theorem only_ids_trans {first second third : Session} (front : OnlyIds first second)
    (back : OnlyIds second third) : OnlyIds first third := by
  obtain ⟨early, rfl⟩ := front
  obtain ⟨late, rfl⟩ := back
  exact ⟨late, rfl⟩

theorem foldl_only_ids {Item : Type} {step : NetState → Item → NetState}
    (one : ∀ state item, OnlyIds state.session (step state item).session) (items : List Item)
    (state : NetState) : OnlyIds state.session (items.foldl step state).session := by
  induction items generalizing state with
  | nil => exact only_ids_refl _
  | cons item rest ih => exact only_ids_trans (one state item) (ih (step state item))

section Messages

variable (nc : Nat) (messages : List (Text × Text)) (state : NetState)

@[simp]
theorem send_messages_st : (sendMessages nc messages state).st = state.st := by
  induction messages generalizing state with
  | nil => rfl
  | cons message rest ih => exact ih (sendMqttMsg nc state message)

@[simp]
theorem send_messages_published : (sendMessages nc messages state).published = state.published := by
  induction messages generalizing state with
  | nil => rfl
  | cons message rest ih => exact ih (sendMqttMsg nc state message)

@[simp]
theorem send_messages_i : (sendMessages nc messages state).i = state.i := by
  induction messages generalizing state with
  | nil => rfl
  | cons message rest ih => exact ih (sendMqttMsg nc state message)

end Messages

theorem send_messages_ids (nc : Nat) (messages : List (Text × Text)) (state : NetState) :
    OnlyIds state.session (sendMessages nc messages state).session := by
  have one (state : NetState) (message : Text × Text) :
      OnlyIds state.session (sendMqttMsg nc state message).session := ⟨_, rfl⟩
  exact foldl_only_ids one messages state

theorem broadcast_state_ids (now : Int) (state : NetState) :
    OnlyIds state.session (broadcastState cfg lib now state).session := by
  have one (state : NetState) (nc : Nat) :
      OnlyIds state.session (stateTo cfg lib now state nc).session := by
    have sent (here : Announced) := send_messages_ids nc (here.sent.map (publicationMessage cfg))
      { state with st := here.st, published := here.published }
    exact sent _
  exact foldl_only_ids one (mqttConnections state.session) state

theorem broadcast_active_ids (state : NetState) :
    OnlyIds state.session (broadcastActive cfg lib state).session := by
  have one (state : NetState) (nc : Nat) :
      OnlyIds state.session (activeTo cfg lib state nc).session := send_messages_ids nc _ _
  exact foldl_only_ids one (mqttConnections state.session) state

theorem announce_to_ids (now : Int) (acted : Bool) (state : NetState) :
    OnlyIds state.session (announceTo cfg lib now acted state).session := by
  unfold announceTo
  split_ifs
  · exact only_ids_trans (broadcast_state_ids now state) (broadcast_active_ids _)
  · exact broadcast_active_ids { state with i := 0 }
  · exact only_ids_trans (broadcast_state_ids now { state with i := 0 }) (broadcast_active_ids _)
  · exact only_ids_refl _

theorem handle_publish_ids (now : Int) (message : MqttMessage) (messageId : Nat)
    (state : NetState) :
    (handlePublish cfg net now message messageId state).session = state.session := by
  unfold handlePublish
  split_ifs <;> rfl

end Frames

section Bench

def benchNet : MqttCfg where
  mqttUser := "user".toList
  mqttPasswd := "passwd".toList
  mqttId := "sprinklerd".toList
  mqttDzSubTopic := "domoticz/out".toList
  enableMQTTha := true
  mqttHaDisTopic := "homeassistant".toList
  labels := ⟨[], fun _ => "Lawn".toList⟩

def benchMqtt : SprinklerdCfg :=
  { benchCfg benchWiring with enableMQTTaq := true, mqttTopic := "sprinkler".toList }

end Bench

end SprinklerD.MqttSession
