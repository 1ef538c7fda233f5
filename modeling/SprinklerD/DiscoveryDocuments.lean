import SprinklerD.Hassio
import SprinklerD.MainStart
import SprinklerD.ValidDocuments

/-!
# The documents of the discovery

`publish_mqtt_hassio_discover` prints into three buffers of fixed size and checks none of them.
Whatever the configuration file says, what `readCfg` keeps of it is short enough. Its texts are
printed as they are, so the documents are JSON where none of them has a quote, a backslash or a
control character, and a name with a quote can end one in its middle.
-/

namespace SprinklerD.DiscoveryDocuments

open Foundation.Decimal Foundation.Json
open SprinklerD.Config SprinklerD.Broadcast SprinklerD.JsonMessages SprinklerD.Hassio
open SprinklerD.MinIni SprinklerD.MqttSession SprinklerD.ReadCfg SprinklerD.ValidDocuments
open SprinklerD.MainStart SprinklerD.InstallationFile

set_option autoImplicit false

def msgSize : Nat := 2048

def topicSize : Nat := 256

def idSize : Nat := 128

section Buffers

theorem length_dequoted_le (room : Nat) (text : Text) : (dequoted room text).length ≤ room := by
  induction room generalizing text with
  | zero => exact le_refl 0
  | succ room ih =>
      cases text with
      | nil => exact Nat.zero_le _
      | cons char rest =>
          rw [dequoted]
          split_ifs
          · exact Nat.succ_le_succ (ih rest.tail)
          · exact Nat.succ_le_succ (ih rest)

theorem length_ini_strncpy_le (source : Text) (maxlen : Nat) (option : QuoteOption) :
    (iniStrncpy source maxlen option).length ≤ maxlen - 1 := by
  cases option with
  | quoteNone => exact List.length_take_le _ _
  | quoteDequote => exact length_dequoted_le _ _

/-- Whatever the file is, a text fits the buffer it is read into. -/
theorem length_ini_gets_le (file : Option Text) (name key defValue : Text) (size : Nat) :
    (iniGets file name key defValue size).length ≤ size - 1 := by
  unfold iniGets
  split
  · rename_i value found
    obtain ⟨text, -, read⟩ := Option.bind_eq_some_iff.mp found
    obtain ⟨area, -, entry⟩ := Option.bind_eq_some_iff.mp read
    obtain ⟨line, -, rfl⟩ := Option.map_eq_some_iff.mp entry
    exact length_ini_strncpy_le _ _ _
  · exact List.length_take_le _ _

structure TextsFit (made : Configuration) : Prop where
  mqttTopic : made.cfg.mqttTopic.length ≤ 49
  mqttHaDisTopic : made.mqttHaDisTopic.length ≤ 127
  names : ∀ zone ∈ zoneList made.cfg, (made.zonecfg zone).name.length ≤ 39

theorem read_cfg_fits {around : Surroundings} {made : Configuration}
    (read : readCfg around = some made) : TextsFit made := by
  have positive := zones_of_read read
  have accepted : readCfg around = some _ := dif_pos positive
  rw [accepted] at read
  cases read
  constructor
  · exact length_ini_gets_le _ _ _ _ _
  · exact length_ini_gets_le _ _ _ _ _
  · intro zone listed
    have entry := zone_entry around zone
    rw [if_pos (Or.inr (mem_zone_list.mp listed))] at entry
    change (readZones around (zoneCount around + 1) 0 around.zoneMemory zone).name.length ≤ 39
    rw [entry, readZone]
    split_ifs
    · exact length_ini_gets_le _ _ _ _ _
    · exact (by decide : "ERROR".toList.length ≤ 39)

end Buffers

section Scanned

def Quoted (text : Text) : Prop := scan .string text = some (.string, [])

instance (text : Text) : Decidable (Quoted text) := inferInstanceAs (Decidable (_ = _))

theorem quoted_of_plain {text : Text} (plain : (text.all fun char => Plain char) = true) :
    Quoted text := scan_plain (plain_of_all plain)

theorem quoted_append {first second : Text} (front : Quoted first) (back : Quoted second) :
    Quoted (first ++ second) := scan_then front back

/-- A quote ends the string, and what stands behind it begins nothing in JSON. -/
def BreaksOut (text : Text) : Prop :=
  ∃ front char rest, text = front ++ '"' :: char :: rest ∧ Quoted front ∧ begin char = none

def AllQuoted (members : Members) : Prop :=
  ∀ member ∈ members, Quoted member.1 ∧ Quoted member.2

theorem member_begins : scan .between ",\"".toList = some (.string, [.comma, .string]) := by
  simp only [String.reduceToList]
  rfl

theorem member_colon : scan .string "\": \"".toList = some (.string, [.colon, .string]) := by
  simp only [String.reduceToList]
  rfl

theorem member_scanned {member : Text × Text} (key : Quoted member.1) (value : Quoted member.2) :
    scan .between (memberText member) = some (.between, nextString) := by
  have close : scan .string ['"'] = some (.between, []) := rfl
  exact scan_then (scan_then (scan_then (scan_then member_begins key) member_colon) value) close

theorem member_more {member : Text × Text} (key : Quoted member.1) (value : Quoted member.2) :
    MoreMembers (memberText member) :=
  more_string ⟨',', _, rfl, by decide⟩ (member_scanned key value)

theorem scan_append (mode : Mode) (first second : Text) :
    scan mode (first ++ second) = (scan mode first).bind fun front =>
      (scan front.1 second).map fun back => (back.1, front.2 ++ back.2) := by
  induction first generalizing mode with
  | nil => simp [scan]
  | cons char rest ih =>
      rw [List.cons_append, scan, scan]
      cases step mode char with
      | none => rfl
      | some read =>
          simp only [ih]
          cases scan read.1 rest with
          | none => rfl
          | some front => simp [Function.comp_def]

/-- What a scan cannot go on with stops it, whatever stands behind. -/
theorem scan_stops {mode next : Mode} {first second : Text} {tokens : List Token}
    (begins : scan mode first = some (next, tokens)) (stops : scan next second = none) :
    scan mode (first ++ second) = none := by
  rw [scan_append, begins, Option.bind_some, stops, Option.map_none]

theorem scan_stopped {mode : Mode} {first : Text} (stops : scan mode first = none)
    (second : Text) : scan mode (first ++ second) = none := by
  rw [scan_append, stops, Option.bind_none]

theorem member_broken {key value : Text} (keyQuoted : Quoted key)
    (broken : scan .string value = none) : scan .between (memberText (key, value)) = none := by
  apply scan_stopped
  exact scan_stops (scan_then (scan_then member_begins keyQuoted) member_colon) broken

theorem members_broken {before after : Members} {member : Text × Text}
    (quoted : AllQuoted before) (broken : scan .between (memberText member) = none) :
    scan .between ((before ++ member :: after).flatMap memberText) = none := by
  induction before with
  | nil => exact scan_stopped broken _
  | cons first rest ih =>
      obtain ⟨own, others⟩ := List.forall_mem_cons.mp quoted
      exact scan_stops (member_scanned own.1 own.2) (ih others)

end Scanned

section Entities

variable {cfg : SprinklerdCfg} {labels : Labels}

theorem mem_entities_zone {zone : Int} :
    Entity.zone zone ∈ entities cfg ↔ zone ∈ zoneList cfg := by
  simp [entities]

theorem length_zone_le {zone : Int} (listed : zone ∈ zoneList cfg) :
    (printInt zone).length ≤ 11 := by
  have bounds := mem_zone_list.mp listed
  have few := cfg.zonesBounded
  exact length_print_int_le (by omega) (by omega)

theorem length_entity_id {entity : Entity} (listed : entity ∈ entities cfg) :
    (entityId entity).length ≤ 27 := by
  cases entity with
  | zone zone =>
      have short := length_zone_le (mem_entities_zone.mp listed)
      change ("sprinklerd_zone_".toList ++ printInt zone).length ≤ 27
      rw [List.length_append]
      simp only [String.reduceToList]
      simp only [List.length_cons, List.length_nil]
      omega
  | _ => decide

theorem length_entity_part {entity : Entity} (listed : entity ∈ entities cfg) :
    (entityPart entity).length ≤ 15 := by
  cases entity with
  | zone zone =>
      have short := length_zone_le (mem_entities_zone.mp listed)
      change ("zone".toList ++ printInt zone).length ≤ 15
      rw [List.length_append]
      simp only [String.reduceToList]
      simp only [List.length_cons, List.length_nil]
      omega
  | _ => decide

theorem length_entity_component (entity : Entity) : (entityComponent entity).length ≤ 6 := by
  cases entity with
  | zone => exact (by decide : "valve".toList.length ≤ 6)
  | _ => decide

theorem entity_id_quoted (entity : Entity) : Quoted (entityId entity) := by
  cases entity with
  | zone zone => exact quoted_append (quoted_of_plain rfl) (scan_int zone)
  | _ => exact quoted_of_plain rfl

theorem entity_part_quoted (entity : Entity) : Quoted (entityPart entity) := by
  cases entity with
  | zone zone => exact quoted_append (quoted_of_plain rfl) (scan_int zone)
  | _ => exact quoted_of_plain rfl

theorem entity_state_quoted (topic : Quoted cfg.mqttTopic) (entity : Entity) :
    Quoted (entityState cfg entity) :=
  quoted_append topic (@quoted_append ['/'] _ (quoted_of_plain rfl) (entity_part_quoted entity))

section Formats

variable {id name state : Text} (idQuoted : Quoted id) (nameQuoted : Quoted name)
  (stateQuoted : Quoted state)

theorem valve_template_quoted : Quoted valveTemplate := by
  unfold valveTemplate
  simp only [String.reduceToList]
  exact quoted_of_plain rfl

theorem constant_quoted {key value : Text} (keyPlain : (key.all fun char => Plain char) = true)
    (valuePlain : (value.all fun char => Plain char) = true) : Quoted key ∧ Quoted value :=
  ⟨quoted_of_plain keyPlain, quoted_of_plain valuePlain⟩

theorem set_quoted (stateQuoted : Quoted state) : Quoted (state ++ "/set".toList) :=
  quoted_append stateQuoted (quoted_of_plain rfl)

theorem zone_label_quoted (zone : Int) :
    Quoted ("Zone ".toList ++ printInt zone ++ " (".toList) :=
  quoted_append (quoted_append (quoted_of_plain rfl) (scan_int zone)) (quoted_of_plain rfl)

include idQuoted nameQuoted stateQuoted

theorem switch_quoted : AllQuoted (hassioSwitchDiscover id name state) := by
  simp only [AllQuoted, hassioSwitchDiscover, List.forall_mem_cons]
  exact ⟨constant_quoted rfl rfl, ⟨quoted_of_plain rfl, idQuoted⟩,
    ⟨quoted_of_plain rfl, nameQuoted⟩, ⟨quoted_of_plain rfl, stateQuoted⟩,
    ⟨quoted_of_plain rfl, set_quoted stateQuoted⟩, constant_quoted rfl rfl,
    constant_quoted rfl rfl, fun _ member => absurd member List.not_mem_nil⟩

theorem text_sensor_quoted : AllQuoted (hassioTextSensorDiscover id name state) := by
  simp only [AllQuoted, hassioTextSensorDiscover, List.forall_mem_cons]
  exact ⟨constant_quoted rfl rfl, ⟨quoted_of_plain rfl, idQuoted⟩,
    ⟨quoted_of_plain rfl, nameQuoted⟩, ⟨quoted_of_plain rfl, stateQuoted⟩,
    constant_quoted rfl rfl, fun _ member => absurd member List.not_mem_nil⟩

theorem sensor_quoted {unit icon : Text} (unitQuoted : Quoted unit) (iconQuoted : Quoted icon) :
    AllQuoted (hassioSensorDiscover id name state unit icon) := by
  simp only [AllQuoted, hassioSensorDiscover, List.forall_mem_cons]
  exact ⟨constant_quoted rfl rfl, ⟨quoted_of_plain rfl, idQuoted⟩,
    ⟨quoted_of_plain rfl, nameQuoted⟩, ⟨quoted_of_plain rfl, stateQuoted⟩,
    constant_quoted rfl rfl, ⟨quoted_of_plain rfl, unitQuoted⟩,
    ⟨quoted_of_plain rfl, iconQuoted⟩, fun _ member => absurd member List.not_mem_nil⟩

theorem valve_quoted (zone : Int) : AllQuoted (hassioValveDiscover id zone name state) := by
  have label := quoted_append (quoted_append (zone_label_quoted zone) nameQuoted)
    (quoted_of_plain rfl : Quoted ")".toList)
  simp only [AllQuoted, hassioValveDiscover, List.forall_mem_cons]
  exact ⟨constant_quoted rfl rfl, constant_quoted rfl rfl, ⟨quoted_of_plain rfl, idQuoted⟩,
    ⟨quoted_of_plain rfl, label⟩, ⟨quoted_of_plain rfl, stateQuoted⟩,
    ⟨quoted_of_plain rfl, set_quoted stateQuoted⟩,
    ⟨quoted_of_plain rfl, valve_template_quoted⟩, constant_quoted rfl rfl,
    constant_quoted rfl rfl, fun _ member => absurd member List.not_mem_nil⟩

end Formats

/-- The unit of the rain is an inch mark, which the source escapes. -/
theorem entity_members_quoted (topic : Quoted cfg.mqttTopic)
    (names : ∀ zone ∈ zoneList cfg, Quoted (labels.names zone)) {entity : Entity}
    (listed : entity ∈ entities cfg) :
    AllQuoted (entityMembers cfg labels entity) := by
  have id := entity_id_quoted entity
  have state := entity_state_quoted topic entity
  cases entity with
  | status => exact text_sensor_quoted id (quoted_of_plain rfl) state
  | activeZone => exact text_sensor_quoted id (quoted_of_plain rfl) state
  | calendar => exact switch_quoted id (quoted_of_plain rfl) state
  | delay24h => exact switch_quoted id (quoted_of_plain rfl) state
  | cycleAllZones => exact switch_quoted id (quoted_of_plain rfl) state
  | rainProbability =>
      exact sensor_quoted id (quoted_of_plain rfl) state (quoted_of_plain rfl) (quoted_of_plain rfl)
  | rainTotal =>
      have unit : Quoted "\\\"".toList := by
        simp only [String.reduceToList]
        rfl
      exact sensor_quoted id (quoted_of_plain rfl) state unit (quoted_of_plain rfl)
  | zone zone => exact valve_quoted id (names zone (mem_entities_zone.mp listed)) state zone

end Entities

section Documents

def headText : Text :=
  "\x7b\"device\": \x7b".toList ++ hassDevice ++ "\x7d,\"availability\": \x7b".toList ++
    "\"payload_available\" : \"1\",\"payload_not_available\" : \"0\",\"topic\": \"".toList

def headTokens : List Token :=
  [.openBrace, .string, .colon, .openBrace, .string, .colon, .openBracket, .string,
    .closeBracket, .comma, .string, .colon, .string, .comma, .string, .colon, .string, .comma,
    .string, .colon, .string, .comma, .string, .colon, .string, .comma, .string, .colon, .string,
    .closeBrace, .comma, .string, .colon, .openBrace, .string, .colon, .string, .comma, .string,
    .colon, .string, .comma, .string, .colon, .string]

def behindTopic : Text := ['/'] ++ mqttLwmTopic ++ ['"'] ++ ['\x7d']

theorem head_scanned : scan .between headText = some (.string, headTokens) := by
  decide +kernel

theorem head_closed {base : Text} (plain : Quoted base) :
    scan .between (headText ++ base ++ behindTopic) =
      some (.between, headTokens ++ [] ++ [.closeBrace]) := by
  have behind : scan .string behindTopic = some (.between, [.closeBrace]) := by
    decide +kernel
  exact scan_then (scan_then head_scanned plain) behind

theorem head_open {base : Text} (plain : Quoted base) :
    OpenObject (headText ++ base ++ behindTopic) := by
  have device : Derives .members _ :=
    .member (.array (.lastElement .string)) (.member .string (.member .string
      (.member .string (.member .string (.lastMember .string)))))
  have availability : Derives .members _ :=
    .member .string (.member .string (.lastMember .string))
  have both : Derives .members _ := .member (.object device) (.lastMember (.object availability))
  exact ⟨_, ends_of_scan (head_closed plain), both⟩

theorem document_text_eq (base : Text) (members : Members) :
    documentText base members =
      headText ++ base ++ behindTopic ++ members.flatMap memberText ++ ['\x7d'] := by
  unfold documentText hassAvailability headText behindTopic
  simp only [List.append_assoc]

theorem document_valid {base : Text} (plain : Quoted base) {members : Members}
    (quoted : AllQuoted members) : Valid (documentText base members) := by
  rw [document_text_eq]
  apply valid_of_open_object
  exact open_object_each (head_open plain) fun member inside =>
    member_more (quoted member inside).1 (quoted member inside).2

theorem document_broken {base : Text} (plain : Quoted base) {before after : Members}
    {key value : Text} (quoted : AllQuoted before) (keyQuoted : Quoted key)
    (broken : scan .string value = none) :
    ¬ Valid (documentText base (before ++ (key, value) :: after)) := by
  rintro ⟨mode, tokens, scanned, -⟩
  have stops := @members_broken _ after (key, value) quoted (member_broken keyQuoted broken)
  rw [document_text_eq, scan_stopped (scan_stops (head_closed plain) stops)] at scanned
  cases scanned

theorem quote_breaks_document {base id name state : Text} (plain : Quoted base)
    (idQuoted : Quoted id) (zone : Int) (breaks : BreaksOut name) :
    ¬ Valid (documentText base (hassioValveDiscover id zone name state)) := by
  let before : Members := [("type".toList, "valve".toList),
    ("device_class".toList, "water".toList), ("unique_id".toList, id)]
  have opening : AllQuoted before := by
    simp only [AllQuoted, before, List.forall_mem_cons]
    exact ⟨constant_quoted rfl rfl, constant_quoted rfl rfl, ⟨quoted_of_plain rfl, idQuoted⟩,
      fun _ member => absurd member List.not_mem_nil⟩
  obtain ⟨front, char, rest, named, frontQuoted, letter⟩ := breaks
  have inName : scan .string name = none := by
    rw [named]
    exact scan_stops frontQuoted (by simp [scan, step, letter])
  have broken := scan_stopped (scan_stops (zone_label_quoted zone) inName) ")".toList
  obtain ⟨after, split⟩ : ∃ after, hassioValveDiscover id zone name state =
      before ++ ("name".toList, "Zone ".toList ++ printInt zone ++ " (".toList ++ name ++
        ")".toList) :: after := by
    unfold hassioValveDiscover
    simp only [before, List.cons_append, List.nil_append]
    exact ⟨_, rfl⟩
  rw [split]
  exact document_broken plain opening (quoted_of_plain rfl) broken

end Documents

section Sizes

def membersSize (members : Members) : Nat :=
  (members.map fun member => member.1.length + member.2.length + 7).sum

theorem length_device : hassDevice.length = 161 := by
  unfold hassDevice sdVersion
  simp only [List.length_append]
  simp only [String.reduceToList]
  simp only [List.length_cons, List.length_nil]

theorem length_availability (base : Text) :
    (hassAvailability base).length = 73 + base.length := by
  unfold hassAvailability mqttLwmTopic
  simp only [List.length_append]
  simp only [String.reduceToList]
  simp only [List.length_cons, List.length_nil]
  omega

theorem length_member (member : Text × Text) :
    (memberText member).length = member.1.length + member.2.length + 7 := by
  unfold memberText
  simp only [List.length_append]
  simp only [String.reduceToList]
  simp only [List.length_cons, List.length_nil]
  omega

theorem length_document (base : Text) (members : Members) :
    (documentText base members).length = 267 + base.length + membersSize members := by
  have each : (members.flatMap memberText).length = membersSize members := by
    rw [List.length_flatMap, membersSize]
    simp only [length_member]
  unfold documentText
  simp only [List.length_append, length_availability, length_device, each]
  simp only [String.reduceToList]
  simp only [List.length_cons, List.length_nil]
  omega

section Formats

variable {id name state : Text} (idFits : id.length ≤ 27) (nameFits : name.length ≤ 39)
  (stateFits : state.length ≤ 65)

include idFits nameFits stateFits

theorem text_sensor_size : membersSize (hassioTextSensorDiscover id name state) ≤ 600 := by
  unfold hassioTextSensorDiscover membersSize
  simp only [List.map_cons, List.map_nil, List.sum_cons, List.sum_nil]
  simp only [String.reduceToList]
  simp only [List.length_cons, List.length_nil]
  omega

theorem sensor_size {unit icon : Text} (unitFits : unit.length ≤ 2) (iconFits : icon.length ≤ 20) :
    membersSize (hassioSensorDiscover id name state unit icon) ≤ 600 := by
  unfold hassioSensorDiscover membersSize
  simp only [List.map_cons, List.map_nil, List.sum_cons, List.sum_nil]
  simp only [String.reduceToList]
  simp only [List.length_cons, List.length_nil]
  omega

theorem switch_size : membersSize (hassioSwitchDiscover id name state) ≤ 600 := by
  unfold hassioSwitchDiscover membersSize
  simp only [List.map_cons, List.map_nil, List.sum_cons, List.sum_nil, List.length_append]
  simp only [String.reduceToList]
  simp only [List.length_cons, List.length_nil]
  omega

theorem valve_size {zone : Int} (zoneFits : (printInt zone).length ≤ 11) :
    membersSize (hassioValveDiscover id zone name state) ≤ 600 := by
  unfold hassioValveDiscover membersSize valveTemplate
  simp only [List.map_cons, List.map_nil, List.sum_cons, List.sum_nil, List.length_append]
  simp only [String.reduceToList]
  simp only [List.length_cons, List.length_nil]
  omega

end Formats

variable {cfg : SprinklerdCfg} {labels : Labels}

theorem length_config_topic {base : Text} {entity : Entity} (listed : entity ∈ entities cfg) :
    (configTopic base entity).length ≤ 53 + base.length := by
  have id := length_entity_id listed
  have component := length_entity_component entity
  have middle : "/sprinklerd/".toList.length = 12 := by decide
  have last : "/config".toList.length = 7 := by decide
  simp only [configTopic, List.length_append, List.length_singleton, middle, last]
  omega

theorem entity_members_size {entity : Entity} (listed : entity ∈ entities cfg)
    (topic : cfg.mqttTopic.length ≤ 49)
    (names : ∀ zone ∈ zoneList cfg, (labels.names zone).length ≤ 39) :
    membersSize (entityMembers cfg labels entity) ≤ 600 := by
  have id := length_entity_id listed
  have part := length_entity_part listed
  have state : (entityState cfg entity).length ≤ 65 := by
    rw [entityState, List.length_append, List.length_cons]
    omega
  cases entity with
  | status => exact text_sensor_size id (by decide) state
  | activeZone => exact text_sensor_size id (by decide) state
  | calendar => exact switch_size id (by decide) state
  | delay24h => exact switch_size id (by decide) state
  | cycleAllZones => exact switch_size id (by decide) state
  | rainProbability => exact sensor_size id (by decide) state (by decide) (by decide)
  | rainTotal => exact sensor_size id (by decide) state (by decide) (by decide)
  | zone zone =>
      have inside := mem_entities_zone.mp listed
      exact valve_size id (names zone inside) state (length_zone_le inside)

end Sizes

section Discovery

variable {around : Surroundings} {made : Configuration} (mqttId : Text)

structure PlainTexts (made : Configuration) : Prop where
  topic : ∀ char ∈ made.cfg.mqttTopic, Plain char
  names : ∀ zone ∈ zoneList made.cfg, ∀ char ∈ (made.zonecfg zone).name, Plain char

def discovery (made : Configuration) : List (Text × Text) :=
  publishMqttHassioDiscover made.cfg (mqttCfg mqttId made).labels made.mqttHaDisTopic

/-- Whatever the configuration file says, the three buffers hold what is printed into them. What
is published is JSON where the texts of the file are plain, and is not where the name of a zone
breaks out of its string. -/
theorem discovery_fits_and_reads (read : readCfg around = some made) :
    (∀ entity ∈ entities made.cfg, (entityId entity).length < idSize) ∧
      (∀ message ∈ discovery mqttId made,
        message.1.length < topicSize ∧ message.2.length < msgSize ∧
          (PlainTexts made → Valid message.2)) ∧
      ∀ zone ∈ zoneList made.cfg, Quoted made.cfg.mqttTopic →
        BreaksOut (made.zonecfg zone).name →
        ∃ message ∈ discovery mqttId made, ¬ Valid message.2 := by
  obtain ⟨topic, haTopic, names⟩ := read_cfg_fits read
  refine ⟨?_, ?_, ?_⟩
  · intro entity listed
    exact (length_entity_id listed).trans_lt (by decide)
  · intro message sent
    obtain ⟨entity, listed, rfl⟩ := List.mem_map.mp sent
    have onTopic := @length_config_topic _ made.mqttHaDisTopic entity listed
    have members := @entity_members_size _ (mqttCfg mqttId made).labels entity listed topic names
    refine ⟨?_, ?_, fun plain => ?_⟩
    · exact onTopic.trans_lt (by rw [topicSize]; omega)
    · rw [length_document, msgSize]
      omega
    · exact document_valid (scan_plain plain.topic)
        (entity_members_quoted (scan_plain plain.topic)
          (fun zone inside => scan_plain (plain.names zone inside)) listed)
  · intro zone listed quoted breaks
    refine ⟨_, List.mem_map_of_mem (mem_entities_zone.mpr listed), ?_⟩
    exact quote_breaks_document quoted (entity_id_quoted (.zone zone)) zone breaks

theorem topic_of_read {plan : Installation} (ok : InstallationOk plan)
    (file : around.inifile = some (installationFile plan)) (read : readCfg around = some made) :
    made.cfg.mqttTopic = plan.mqttTopic.take 49 := by
  have positive := zones_of_read read
  have accepted : readCfg around = some _ := dif_pos positive
  rw [accepted] at read
  cases read
  exact general_text ok file (by decide) rfl [] 50

def quotedPlan : Installation :=
  { benchPlan with zones := [benchZone "Beds \"a\"" 18] }

theorem quoted_plan_ok : InstallationOk quotedPlan := by
  apply bench_zones_ok _ (List.cons_ne_nil _ _) (by decide)
  intro zone member
  rw [List.mem_singleton.mp member]
  exact bench_zone_ok (by decide) (by decide) (by decide)

/-- The texts of the first plan have neither quotes nor backslashes. -/
theorem discovery_fits_and_reads_shared :
    (∃ made, readCfg (benchMachine sharedPlan).around = some made ∧
      ∀ message ∈ discovery "bench".toList made,
        message.2.length < msgSize ∧ Valid message.2) ∧
    ∃ made, readCfg (benchMachine quotedPlan).around = some made ∧
      ∃ message ∈ discovery "bench".toList made,
        message.2.length < msgSize ∧ ¬ Valid message.2 := by
  constructor
  · obtain ⟨made, read, table⟩ := @plan_read sharedPlan shared_plan_ok
      (benchMachine sharedPlan).around rfl
    have plain : PlainTexts made := by
      constructor
      · rw [topic_of_read shared_plan_ok rfl read]
        exact plain_of_all (by decide +kernel)
      · intro zone listed
        have bounds := mem_zone_list.mp listed
        have two : made.cfg.zones = 2 := table.zones
        have which : zone = 1 ∨ zone = 2 := by omega
        rcases which with rfl | rfl
        · rw [table.entries 1 (benchZone "Island" 18) rfl]
          exact plain_of_all (by decide +kernel)
        · rw [table.entries 2 { benchZone "Beds" 18 with onState := 1 } rfl]
          exact plain_of_all (by decide +kernel)
    refine ⟨made, read, fun message sent => ?_⟩
    obtain ⟨-, fits, valid⟩ := (discovery_fits_and_reads "bench".toList read).2.1 message sent
    exact ⟨fits, valid plain⟩
  · obtain ⟨made, read, table⟩ := @plan_read quotedPlan quoted_plan_ok
      (benchMachine quotedPlan).around rfl
    have listed : (1 : Int) ∈ zoneList made.cfg := by
      rw [mem_zone_list, table.zones]
      decide
    have topic : Quoted made.cfg.mqttTopic := by
      rw [topic_of_read quoted_plan_ok rfl read]
      exact quoted_of_plain (by decide +kernel)
    have breaks : BreaksOut (made.zonecfg 1).name := by
      rw [table.entries 1 (benchZone "Beds \"a\"" 18) rfl]
      exact ⟨"Beds ".toList, 'a', ['"'], by decide +kernel, by decide +kernel, by decide⟩
    obtain ⟨-, sizes, broken⟩ := discovery_fits_and_reads "bench".toList read
    obtain ⟨message, sent, invalid⟩ := broken 1 listed topic breaks
    exact ⟨made, read, message, sent, (sizes message sent).2.1, invalid⟩

end Discovery

end SprinklerD.DiscoveryDocuments
