import SprinklerD.Foundation.FloatScan
import SprinklerD.IniDocuments
import SprinklerD.ReadCfg

/-!
# An installation and its configuration file

What somebody who installs the daemon has to say: the names and topics, the master valve, the
zones, the inputs and the commands. Written as a configuration file, one section each, it is
what `readCfg` makes of the file: every number as it was given, and every text up to the size
of the buffer that the source keeps for it.
-/

namespace SprinklerD.InstallationFile

open Foundation.CString Foundation.Decimal Foundation.MachineInt
open Foundation.FloatScan (digit_lower)
open SprinklerD.Config SprinklerD.IniDocuments SprinklerD.InputSetup SprinklerD.MinIni
open SprinklerD.ReadCfg
open SprinklerD.GpioPi ( validGPIO)

set_option autoImplicit false

section Sections

structure IniSection where
  name : Text
  settings : List (Text × IniValue)

def settingLine (setting : Text × IniValue) : IniLine :=
  .entry { lead := [], key := setting.1, gap := [], after := [], value := setting.2,
           trail := [], comment := [] }

def sectionLines (part : IniSection) : Document :=
  .header [] part.name [] :: part.settings.map settingLine

def sectionsDocument (parts : List IniSection) : Document := parts.flatMap sectionLines

def settingOf (settings : List (Text × IniValue)) (key : Text) : Option Text :=
  (settings.find? fun setting => sameName setting.1 key).map fun setting => setting.2.text

def partOf (parts : List IniSection) (name : Text) : Option IniSection :=
  parts.find? fun part => sameName part.name name

variable {name key : Text}

/-- Every section ends where the next one begins, or with the document. -/
theorem value_in_settings (settings : List (Text × IniValue)) {rest : Document}
    (ends : rest = [] ∨ ∃ part more, rest = sectionLines part ++ more) :
    valueIn key (settings.map settingLine ++ rest) = settingOf settings key := by
  induction settings with
  | nil =>
      rcases ends with rfl | ⟨part, more, rfl⟩
      · rfl
      · rfl
  | cons setting settings ih =>
      rw [List.map_cons, List.cons_append, settingLine, valueIn, ih, settingOf, settingOf,
        List.find?_cons]
      cases sameName setting.1 key with
      | true => rfl
      | false => rfl

theorem area_passes_settings (settings : List (Text × IniValue)) (rest : Document) :
    areaOf name (settings.map settingLine ++ rest) = areaOf name rest := by
  induction settings with
  | nil => rfl
  | cons setting settings ih => exact ih

theorem sections_end (parts : List IniSection) :
    sectionsDocument parts = [] ∨
      ∃ part more, sectionsDocument parts = sectionLines part ++ more := by
  cases parts with
  | nil => exact Or.inl rfl
  | cons part parts => exact Or.inr ⟨part, sectionsDocument parts, List.flatMap_cons⟩

theorem lookup_sections (parts : List IniSection) (some : name ≠ []) :
    lookup (sectionsDocument parts) name key =
      (partOf parts name).bind fun part => settingOf part.settings key := by
  rw [lookup, if_neg some]
  induction parts with
  | nil => rfl
  | cons part parts ih =>
      rw [sectionsDocument, List.flatMap_cons, sectionLines, List.cons_append, areaOf, partOf,
        List.find?_cons]
      cases found : sameName part.name name with
      | true =>
          rw [if_pos rfl]
          exact value_in_settings part.settings (sections_end parts)
      | false =>
          rw [if_neg (by decide), area_passes_settings]
          exact ih

end Sections

section Numbers

theorem digit_upper {char : Char} (digit : char.isDigit = true) : char.toUpper ≠ 'X' := by
  simp only [Char.isDigit, Bool.and_eq_true, decide_eq_true_eq] at digit
  have low : char.toNat ≤ 57 := digit.2
  unfold Char.toUpper
  rw [dif_neg]
  · rintro rfl
    exact absurd low (by decide)
  · intro lower
    have high : 97 ≤ char.toNat := lower.1
    omega

theorem print_int_ne_nil (value : Int) : printInt value ≠ [] := by
  apply List.ne_nil_of_length_pos
  rw [length_print_int, decimalSize]
  omega

/-- A printed number does not look like a hexadecimal one. -/
theorem no_hex_mark (value : Int) :
    ((printInt value)[1]?.any fun char => char.toUpper = 'X') = false := by
  cases found : (printInt value)[1]? with
  | none => rfl
  | some char =>
      apply decide_eq_false
      rcases of_mem_print_int (List.mem_of_getElem? found) with rfl | digit
      · decide
      · exact digit_upper digit

theorem strtol_print_int {value : Int} (lower : -2 ^ 31 ≤ value) (upper : value < 2 ^ 31) :
    wrap32 (strtol (printInt value)) = value := by
  have stopped := @atoi_stops ':' [] (by decide) (by decide) (by decide) (printInt value)
  rw [atoi_print_int value [] (by decide), (atoi_value_iff value).mpr ⟨lower, upper⟩] at stopped
  exact stopped.symm

end Numbers

section Plans

structure ZonePlan where
  name : Text
  pin : Int
  onState : Int
  pullUpdown : Int
  dzIdx : Int
  defaultRuntime : Int

structure InputPlan where
  name : Text
  pin : Int
  onState : Int
  pullUpdown : Int
  dzIdx : Int
  commandOn : Text
  commandOff : Text

structure Installation where
  name : Text
  port : Text
  docroot : Text
  cacheFile : Text
  mqttAddress : Text
  mqttUser : Text
  mqttPasswd : Text
  mqttTopic : Text
  mqttDzPubTopic : Text
  mqttDzSubTopic : Text
  mqttHaDisTopic : Text
  dzidxCalendar : Int
  dzidx24hDelay : Int
  dzidxAllzones : Int
  dzidxStatus : Int
  dzidxRainsensor : Int
  master : Option ZonePlan
  zones : List ZonePlan
  inputs : List InputPlan
  externals : List RunB4CalStart

def textSetting (key : String) (value : Text) : Text × IniValue := (key.toList, .quoted value)

def numberSetting (key : String) (value : Int) : Text × IniValue :=
  (key.toList, .plain (printInt value))

def sprinklerdSettings (plan : Installation) : List (Text × IniValue) :=
  [textSetting "NAME" plan.name, textSetting "PORT" plan.port,
    textSetting "DOCUMENTROOT" plan.docroot, textSetting "CACHE" plan.cacheFile,
    textSetting "MQTT_ADDRESS" plan.mqttAddress, textSetting "MQTT_USER" plan.mqttUser,
    textSetting "MQTT_PASSWD" plan.mqttPasswd, textSetting "MQT_TOPIC" plan.mqttTopic,
    textSetting "MQTT_DZ_PUB_TOPIC" plan.mqttDzPubTopic,
    textSetting "MQTT_DZ_SUB_TOPIC" plan.mqttDzSubTopic,
    textSetting "MQTT_HA_DIS_TOPIC" plan.mqttHaDisTopic,
    numberSetting "DZIDX_CALENDAR" plan.dzidxCalendar,
    numberSetting "DZIDX_24HDELAY" plan.dzidx24hDelay,
    numberSetting "DZIDX_ALL_ZONES" plan.dzidxAllzones,
    numberSetting "DZIDX_STATUS" plan.dzidxStatus,
    numberSetting "DZIDX_RAINSENSOR" plan.dzidxRainsensor]

def zoneSettings (plan : ZonePlan) : List (Text × IniValue) :=
  [textSetting "NAME" plan.name, numberSetting "GPIO_PIN" plan.pin,
    numberSetting "GPIO_ON_STATE" plan.onState, numberSetting "GPIO_PULL_UPDN" plan.pullUpdown,
    numberSetting "DOMOTICZ_IDX" plan.dzIdx,
    numberSetting "DEFAULT_RUNTIME" plan.defaultRuntime]

def inputSettings (plan : InputPlan) : List (Text × IniValue) :=
  [textSetting "NAME" plan.name, numberSetting "GPIO_PIN" plan.pin,
    numberSetting "GPIO_ON_STATE" plan.onState, numberSetting "GPIO_PULL_UPDN" plan.pullUpdown,
    numberSetting "DOMOTICZ_IDX" plan.dzIdx, textSetting "COMMAND_ON" plan.commandOn,
    textSetting "COMMAND_OFF" plan.commandOff]

def externalSettings (plan : RunB4CalStart) : List (Text × IniValue) :=
  [numberSetting "RUNB4STARTTIME" plan.mins, textSetting "COMMAND" plan.command]

/-- Sections numbered on from `first`. -/
def numbered {Plan : Type} (named : Int → Text) (settings : Plan → List (Text × IniValue)) :
    Int → List Plan → List IniSection
  | _, [] => []
  | first, plan :: plans =>
      ⟨named first, settings plan⟩ :: numbered named settings (first + 1) plans

/-- Zone 0 is the master valve. -/
def zoneParts (plan : Installation) : List IniSection :=
  numbered zoneSection zoneSettings 0 plan.master.toList ++
    numbered zoneSection zoneSettings 1 plan.zones

def installationParts (plan : Installation) : List IniSection :=
  ⟨sprinklerd, sprinklerdSettings plan⟩ :: (zoneParts plan ++
    (numbered inputSection inputSettings 1 plan.inputs ++
      numbered externalSection externalSettings 1 plan.externals))

def installationFile (plan : Installation) : Text :=
  documentText (sectionsDocument (installationParts plan))

end Plans

section Writable

def TextOk (text : Text) : Prop := Visible text ∧ (escaped text).length ≤ 480

def NumberOk (number : Int) : Prop := -2 ^ 31 ≤ number ∧ number < 2 ^ 31

instance (text : Text) : Decidable (TextOk text) := inferInstanceAs (Decidable (_ ∧ _))

instance (number : Int) : Decidable (NumberOk number) := inferInstanceAs (Decidable (_ ∧ _))

def ZonePlan.numbers (plan : ZonePlan) : List Int :=
  [plan.pin, plan.onState, plan.pullUpdown, plan.dzIdx, plan.defaultRuntime]

def InputPlan.texts (plan : InputPlan) : List Text :=
  [plan.name, plan.commandOn, plan.commandOff]

def InputPlan.numbers (plan : InputPlan) : List Int :=
  [plan.pin, plan.onState, plan.pullUpdown, plan.dzIdx]

def Installation.texts (plan : Installation) : List Text :=
  [plan.name, plan.port, plan.docroot, plan.cacheFile, plan.mqttAddress, plan.mqttUser,
    plan.mqttPasswd, plan.mqttTopic, plan.mqttDzPubTopic, plan.mqttDzSubTopic,
    plan.mqttHaDisTopic]

def Installation.numbers (plan : Installation) : List Int :=
  [plan.dzidxCalendar, plan.dzidx24hDelay, plan.dzidxAllzones, plan.dzidxStatus,
    plan.dzidxRainsensor]

structure ZonePlanOk (plan : ZonePlan) : Prop where
  name : TextOk plan.name
  numbers : ∀ number ∈ plan.numbers, NumberOk number
  pin : plan.pin ≠ -1

structure InputPlanOk (plan : InputPlan) : Prop where
  texts : ∀ text ∈ plan.texts, TextOk text
  numbers : ∀ number ∈ plan.numbers, NumberOk number
  pin : plan.pin ≠ -1

structure ExternalOk (plan : RunB4CalStart) : Prop where
  command : TextOk plan.command
  number : NumberOk plan.mins
  mins : plan.mins ≠ -1

structure InstallationOk (plan : Installation) : Prop where
  texts : ∀ text ∈ plan.texts, TextOk text
  numbers : ∀ number ∈ plan.numbers, NumberOk number
  master : ∀ zone ∈ plan.master, ZonePlanOk zone
  zones : ∀ zone ∈ plan.zones, ZonePlanOk zone
  zonesSome : plan.zones ≠ []
  zonesFew : plan.zones.length ≤ 24
  inputs : ∀ input ∈ plan.inputs, InputPlanOk input
  inputsFew : plan.inputs.length ≤ 24
  externals : ∀ external ∈ plan.externals, ExternalOk external
  externalsFew : plan.externals.length ≤ 10

def KeyOk (key : Text) : Prop :=
  key ≠ [] ∧ Trimmed key ∧ (allows key.head? fun char => char ≠ '[' ∧ isMark char = false) = true ∧
    '=' ∉ key ∧ Visible key ∧ key.length ≤ 20

instance (key : Text) : Decidable (KeyOk key) := inferInstanceAs (Decidable (_ ∧ _))

theorem blank_none : Blank [] := fun _ member => absurd member List.not_mem_nil

theorem mem_escaped {text : Text} {char : Char} (member : char ∈ escaped text) :
    char ∈ text ∨ char = '\\' := by
  obtain ⟨letter, inside, written⟩ := List.mem_flatMap.mp member
  split_ifs at written with quote
  · rcases List.mem_cons.mp written with backslash | last
    · exact Or.inr backslash
    · exact Or.inl (List.mem_singleton.mp last ▸ quote ▸ inside)
  · exact Or.inl (List.mem_singleton.mp written ▸ inside)

theorem setting_text (key : Text) (value : IniValue) :
    (settingLine (key, value)).text = key ++ '=' :: value.written := by
  simp [settingLine, IniLine.text, IniEntry.assigned]

theorem setting_ok {key : Text} {value : IniValue} (named : KeyOk key)
    (visible : Visible value.written) (short : value.written.length ≤ 482)
    (ok : ValueOk [] value) : LineOk (settingLine (key, value)) := by
  obtain ⟨some, trimmed, begins, closed, shown, length⟩ := named
  refine ⟨?_, ?_, ?_⟩
  · rw [setting_text]
    constructor
    · intro member
      rcases List.mem_append.mp member with front | back
      · exact shown.1 front
      · rcases List.mem_cons.mp back with sign | written
        · exact absurd sign (by decide)
        · exact visible.1 written
    · intro member
      rcases List.mem_append.mp member with front | back
      · exact shown.2 front
      · rcases List.mem_cons.mp back with sign | written
        · exact absurd sign (by decide)
        · exact visible.2 written
  · rw [setting_text, List.length_append, List.length_cons, iniBuffersize]
    omega
  · have first : ∀ char ∈ key.head?, char ≠ '[' ∧ isMark char = false :=
      fun char member => of_decide_eq_true (allows_iff.mp begins char member)
    exact ⟨blank_none, some, trimmed, first, closed, blank_none, blank_none, ok, blank_none,
      fun char member => absurd member (Option.not_mem_none char)⟩

theorem text_setting_ok {key : String} (named : KeyOk key.toList) {text : Text}
    (ok : TextOk text) : LineOk (settingLine (textSetting key text)) := by
  have inside {char : Char} (member : char ∈ IniValue.written (.quoted text)) :
      char ∈ text ∨ char = '\\' ∨ char = '"' := by
    rcases List.mem_cons.mp member with quote | more
    · exact Or.inr (Or.inr quote)
    · rcases List.mem_append.mp more with written | last
      · exact (mem_escaped written).imp_right Or.inl
      · exact Or.inr (Or.inr (List.mem_singleton.mp last))
  apply setting_ok named
  · constructor
    · intro member
      rcases inside member with shown | backslash | quote
      · exact ok.1.1 shown
      · exact absurd backslash (by decide)
      · exact absurd quote (by decide)
    · intro member
      rcases inside member with shown | backslash | quote
      · exact ok.1.2 shown
      · exact absurd backslash (by decide)
      · exact absurd quote (by decide)
  · rw [IniValue.written, List.length_cons, List.length_append, List.length_singleton]
    have short := ok.2
    omega
  · exact fun some => absurd rfl some

theorem number_char {number : Int} {char : Char} (member : char ∈ printInt number) :
    isBlank char = false ∧ char ≠ '"' ∧ isMark char = false ∧ char ≠ nul ∧ char ≠ '\n' := by
  rcases of_mem_print_int member with rfl | digit
  · decide
  · have range := Char.isDigit_iff_toNat.mp digit
    have low : 48 ≤ char.toNat := range.1
    have apart {other : Char} (below : other.toNat < 48) : char ≠ other := by
      rintro rfl
      omega
    refine ⟨?_, apart (by decide), ?_, apart (by decide), apart (by decide)⟩
    · exact decide_eq_false fun blank => by omega
    · apply decide_eq_false
      rintro (semicolon | hash)
      · rw [semicolon] at digit
        exact absurd digit (by decide)
      · exact apart (by decide) hash

theorem number_setting_ok {key : String} (named : KeyOk key.toList) {number : Int}
    (ok : NumberOk number) : LineOk (settingLine (numberSetting key number)) := by
  apply setting_ok named
  · exact ⟨fun member => (number_char member).2.2.2.1 rfl,
      fun member => (number_char member).2.2.2.2 rfl⟩
  · exact (length_print_int_le ok.1 ok.2).trans (by decide)
  · refine ⟨⟨?_, ?_⟩, ?_⟩
    · exact fun char first => (number_char (List.mem_of_mem_head? first)).1
    · exact fun char last => (number_char (List.mem_of_mem_getLast? last)).1
    · exact fun char member => ⟨(number_char member).2.1, (number_char member).2.2.1⟩

theorem named_ok {name : Text} (visible : Visible name) (short : name.length ≤ 100) :
    LineOk (.header [] name []) := by
  refine ⟨?_, ?_, blank_none, List.not_mem_nil⟩
  · constructor
    · intro member
      rcases List.mem_cons.mp member with bracket | more
      · exact absurd bracket (by decide)
      · rcases List.mem_append.mp more with inside | closing
        · exact visible.1 inside
        · exact absurd (List.mem_singleton.mp closing) (by decide)
    · intro member
      rcases List.mem_cons.mp member with bracket | more
      · exact absurd bracket (by decide)
      · rcases List.mem_append.mp more with inside | closing
        · exact visible.2 inside
        · exact absurd (List.mem_singleton.mp closing) (by decide)
  · rw [IniLine.text, iniBuffersize]
    simp only [List.nil_append, List.length_cons, List.length_append, List.length_nil]
    omega

theorem section_visible {word : Text} (visible : Visible word) (number : Int) :
    Visible (word ++ printInt number) := by
  constructor
  · intro member
    exact (List.mem_append.mp member).elim visible.1 fun inside =>
      (number_char inside).2.2.2.1 rfl
  · intro member
    exact (List.mem_append.mp member).elim visible.2 fun inside =>
      (number_char inside).2.2.2.2 rfl

def PartOk (part : IniSection) : Prop := ∀ line ∈ sectionLines part, LineOk line

theorem part_ok {part : IniSection} (header : LineOk (.header [] part.name []))
    (settings : ∀ setting ∈ part.settings, LineOk (settingLine setting)) : PartOk part := by
  intro line member
  rcases List.mem_cons.mp member with rfl | inside
  · exact header
  · obtain ⟨setting, listed, rfl⟩ := List.mem_map.mp inside
    exact settings setting listed

theorem sections_ok {parts : List IniSection} (ok : ∀ part ∈ parts, PartOk part) :
    ∀ line ∈ sectionsDocument parts, LineOk line := by
  intro line member
  obtain ⟨part, listed, inside⟩ := List.mem_flatMap.mp member
  exact ok part listed line inside

theorem numbered_ok {Plan : Type} {word : Text} {settings : Plan → List (Text × IniValue)}
    (visible : Visible word) (short : word.length ≤ 50) {first : Int} {plans : List Plan}
    (lower : 0 ≤ first) (upper : first + plans.length ≤ 100)
    (ok : ∀ plan ∈ plans, ∀ setting ∈ settings plan, LineOk (settingLine setting)) :
    ∀ part ∈ numbered (word ++ printInt ·) settings first plans, PartOk part := by
  induction plans generalizing first with
  | nil => exact fun part member => absurd member List.not_mem_nil
  | cons plan plans ih =>
      rw [List.length_cons] at upper
      push_cast at upper
      intro part member
      rcases List.mem_cons.mp member with rfl | later
      · have length := @length_print_int_le first (by omega) (by omega)
        refine part_ok (named_ok (section_visible visible first) ?_) (ok plan List.mem_cons_self)
        rw [List.length_append]
        omega
      · exact ih (by omega) (by omega)
          (fun other inside => ok other (List.mem_cons_of_mem plan inside)) part later

variable {plan : Installation}

theorem sprinklerd_settings_ok (ok : InstallationOk plan) :
    ∀ setting ∈ sprinklerdSettings plan, LineOk (settingLine setting) := by
  have texts := ok.texts
  have numbers := ok.numbers
  simp only [Installation.texts, Installation.numbers, List.forall_mem_cons] at texts numbers
  simp only [sprinklerdSettings, List.forall_mem_cons]
  obtain ⟨name, port, docroot, cache, address, user, passwd, topic, pub, sub, discovery, -⟩ := texts
  obtain ⟨calendar, delay, allzones, status, rainsensor, -⟩ := numbers
  exact ⟨text_setting_ok (by decide) name, text_setting_ok (by decide) port,
    text_setting_ok (by decide) docroot, text_setting_ok (by decide) cache,
    text_setting_ok (by decide) address, text_setting_ok (by decide) user,
    text_setting_ok (by decide) passwd, text_setting_ok (by decide) topic,
    text_setting_ok (by decide) pub, text_setting_ok (by decide) sub,
    text_setting_ok (by decide) discovery, number_setting_ok (by decide) calendar,
    number_setting_ok (by decide) delay, number_setting_ok (by decide) allzones,
    number_setting_ok (by decide) status, number_setting_ok (by decide) rainsensor,
    fun _ member => absurd member List.not_mem_nil⟩

theorem zone_settings_ok {zone : ZonePlan} (ok : ZonePlanOk zone) :
    ∀ setting ∈ zoneSettings zone, LineOk (settingLine setting) := by
  have numbers := ok.numbers
  simp only [ZonePlan.numbers, List.forall_mem_cons] at numbers
  simp only [zoneSettings, List.forall_mem_cons]
  obtain ⟨pin, onState, pull, idx, runtime, -⟩ := numbers
  exact ⟨text_setting_ok (by decide) ok.name, number_setting_ok (by decide) pin,
    number_setting_ok (by decide) onState, number_setting_ok (by decide) pull,
    number_setting_ok (by decide) idx, number_setting_ok (by decide) runtime,
    fun _ member => absurd member List.not_mem_nil⟩

theorem input_settings_ok {input : InputPlan} (ok : InputPlanOk input) :
    ∀ setting ∈ inputSettings input, LineOk (settingLine setting) := by
  have texts := ok.texts
  have numbers := ok.numbers
  simp only [InputPlan.texts, InputPlan.numbers, List.forall_mem_cons] at texts numbers
  simp only [inputSettings, List.forall_mem_cons]
  obtain ⟨name, commandOn, commandOff, -⟩ := texts
  obtain ⟨pin, onState, pull, idx, -⟩ := numbers
  exact ⟨text_setting_ok (by decide) name, number_setting_ok (by decide) pin,
    number_setting_ok (by decide) onState, number_setting_ok (by decide) pull,
    number_setting_ok (by decide) idx, text_setting_ok (by decide) commandOn,
    text_setting_ok (by decide) commandOff, fun _ member => absurd member List.not_mem_nil⟩

theorem external_settings_ok {external : RunB4CalStart} (ok : ExternalOk external) :
    ∀ setting ∈ externalSettings external, LineOk (settingLine setting) := by
  simp only [externalSettings, List.forall_mem_cons]
  exact ⟨number_setting_ok (by decide) ok.number, text_setting_ok (by decide) ok.command,
    fun _ member => absurd member List.not_mem_nil⟩

theorem installation_ok (ok : InstallationOk plan) :
    ∀ line ∈ sectionsDocument (installationParts plan), LineOk line := by
  have few := ok.zonesFew
  have inputsFew := ok.inputsFew
  have externalsFew := ok.externalsFew
  have masters : plan.master.toList.length ≤ 1 := Option.length_toList_le
  apply sections_ok
  intro part member
  rcases List.mem_cons.mp member with rfl | rest
  · have named : LineOk (.header [] sprinklerd []) := named_ok (by decide) (by decide)
    exact part_ok named (sprinklerd_settings_ok ok)
  · rcases List.mem_append.mp rest with zones | others
    · rcases List.mem_append.mp zones with master | zone
      · exact numbered_ok (by decide) (by decide) (by omega) (by omega)
          (fun plan inside => zone_settings_ok (ok.master plan (Option.mem_toList.mp inside)))
          part master
      · exact numbered_ok (by decide) (by decide) (by omega) (by omega)
          (fun plan inside => zone_settings_ok (ok.zones plan inside)) part zone
    · rcases List.mem_append.mp others with input | external
      · exact numbered_ok (by decide) (by decide) (by omega) (by omega)
          (fun plan inside => input_settings_ok (ok.inputs plan inside)) part input
      · exact numbered_ok (by decide) (by decide) (by omega) (by omega)
          (fun plan inside => external_settings_ok (ok.externals plan inside)) part external

end Writable

section Names

variable {Plan : Type} {settings : Plan → List (Text × IniValue)}

theorem number_lower (number : Int) : (printInt number).map Char.toLower = printInt number := by
  have each : ∀ char ∈ printInt number, char.toLower = id char := by
    intro char member
    rcases of_mem_print_int member with rfl | digit
    · rfl
    · exact digit_lower digit
  rw [List.map_congr_left each, List.map_id]

theorem same_section (word : Text) (first second : Int) :
    sameName (word ++ printInt first) (word ++ printInt second) = decide (first = second) := by
  rw [sameName, decide_eq_decide, List.map_append, List.map_append, number_lower, number_lower]
  constructor
  · exact fun same => print_int_injective (List.append_cancel_left same)
  · rintro rfl
    rfl

theorem apart_begins {first second : Char} (apart : first.toLower ≠ second.toLower)
    (front back : Text) : sameName (first :: front) (second :: back) = false :=
  decide_eq_false fun same => apart (List.cons.inj same).1

theorem part_in_numbered (word : Text) (first number : Int) (plans : List Plan) :
    partOf (numbered (word ++ printInt ·) settings first plans) (word ++ printInt number) =
      if first ≤ number then
        (plans[(number - first).toNat]?).map fun plan =>
          ⟨word ++ printInt number, settings plan⟩
      else none := by
  induction plans generalizing first with
  | nil =>
      split_ifs
      · rfl
      · rfl
  | cons plan plans ih =>
      rw [numbered, partOf, List.find?_cons, same_section]
      by_cases same : first = number
      · rw [decide_eq_true same, if_pos (le_of_eq same), same, sub_self]
        rfl
      · rw [decide_eq_false same]
        change partOf (numbered (word ++ printInt ·) settings (first + 1) plans) _ = _
        rw [ih]
        by_cases before : first ≤ number
        · have next : (number - first).toNat = (number - (first + 1)).toNat + 1 := by omega
          rw [if_pos before, if_pos (by omega), next, List.getElem?_cons_succ]
        · rw [if_neg before, if_neg (by omega)]

theorem part_apart {named : Int → Text} {name : Text}
    (apart : ∀ number, sameName (named number) name = false) (first : Int)
    (plans : List Plan) : partOf (numbered named settings first plans) name = none := by
  induction plans generalizing first with
  | nil => rfl
  | cons plan plans ih =>
      rw [numbered, partOf, List.find?_cons, apart first]
      exact ih (first + 1)

theorem part_append (front back : List IniSection) (name : Text) :
    partOf (front ++ back) name = (partOf front name).or (partOf back name) :=
  List.find?_append

end Names

section Parts

def planAt (plan : Installation) (zone : Int) : Option ZonePlan :=
  if zone = 0 then plan.master
  else if 1 ≤ zone then plan.zones[(zone - 1).toNat]? else none

def inputAt (plan : Installation) (input : Int) : Option InputPlan :=
  if 1 ≤ input then plan.inputs[(input - 1).toNat]? else none

def externalAt (plan : Installation) (external : Int) : Option RunB4CalStart :=
  if 1 ≤ external then plan.externals[(external - 1).toNat]? else none

variable (plan : Installation) (number : Int)

theorem sprinklerd_part :
    partOf (installationParts plan) sprinklerd =
      some ⟨sprinklerd, sprinklerdSettings plan⟩ := rfl

theorem apart_from_sprinklerd {char : Char} (apart : 'S'.toLower ≠ char.toLower)
    (rest : Text) :
    partOf (installationParts plan) (char :: rest) =
      partOf (zoneParts plan ++ (numbered inputSection inputSettings 1 plan.inputs ++
        numbered externalSection externalSettings 1 plan.externals)) (char :: rest) := by
  rw [installationParts, partOf, List.find?_cons]
  have other : sameName sprinklerd (char :: rest) = false := apart_begins apart _ _
  simp only
  rw [other]
  rfl

theorem zone_part :
    partOf (installationParts plan) (zoneSection number) =
      (planAt plan number).map fun zone => ⟨zoneSection number, zoneSettings zone⟩ := by
  have inputs (input : Int) : sameName (inputSection input) (zoneSection number) = false :=
    apart_begins (by decide) _ _
  have externals (external : Int) :
      sameName (externalSection external) (zoneSection number) = false :=
    apart_begins (by decide) _ _
  have begins : zoneSection number = 'Z' :: ("ONE:".toList ++ printInt number) := rfl
  have within := apart_from_sprinklerd plan (by decide : 'S'.toLower ≠ 'Z'.toLower)
    ("ONE:".toList ++ printInt number)
  rw [← begins] at within
  rw [within, part_append, part_append, part_apart inputs, part_apart externals, zoneParts,
    part_append]
  have masters := @part_in_numbered _ zoneSettings "ZONE:".toList 0 number plan.master.toList
  have zones := @part_in_numbered _ zoneSettings "ZONE:".toList 1 number plan.zones
  change partOf (numbered zoneSection _ _ _) (zoneSection number) = _ at masters zones
  rw [masters, zones, planAt]
  by_cases first : number = 0
  · subst first
    rw [if_pos (le_refl 0), if_neg (by decide), if_pos rfl]
    cases plan.master with
    | none => rfl
    | some zone => rfl
  · rw [if_neg first]
    by_cases positive : 1 ≤ number
    · have beyond : plan.master.toList[(number - 0).toNat]? = none := by
        apply List.getElem?_eq_none
        have masters : plan.master.toList.length ≤ 1 := Option.length_toList_le
        omega
      rw [if_pos (by omega), if_pos positive, if_pos positive, beyond, Option.map_none,
        Option.none_or, Option.none_or, Option.or_none]
      rfl
    · rw [if_neg (by omega), if_neg positive, if_neg positive]
      rfl

theorem zones_apart {name : Text} (apart : ∀ zone, sameName (zoneSection zone) name = false) :
    partOf (zoneParts plan) name = none := by
  rw [zoneParts, part_append, part_apart apart, part_apart apart]
  rfl

theorem input_part :
    partOf (installationParts plan) (inputSection number) =
      (inputAt plan number).map fun input => ⟨inputSection number, inputSettings input⟩ := by
  have zones (zone : Int) : sameName (zoneSection zone) (inputSection number) = false :=
    apart_begins (by decide) _ _
  have externals (external : Int) :
      sameName (externalSection external) (inputSection number) = false :=
    apart_begins (by decide) _ _
  have within := apart_from_sprinklerd plan (by decide : 'S'.toLower ≠ 'I'.toLower)
    ("NPUT:".toList ++ printInt number)
  change partOf _ (inputSection number) = partOf _ (inputSection number) at within
  have inputs := @part_in_numbered _ inputSettings "INPUT:".toList 1 number plan.inputs
  change partOf (numbered inputSection _ _ _) (inputSection number) = _ at inputs
  rw [within, part_append, part_append, zones_apart plan zones, part_apart externals, inputs,
    inputAt, Option.none_or, Option.or_none]
  split_ifs
  · rfl
  · rfl

theorem external_part :
    partOf (installationParts plan) (externalSection number) =
      (externalAt plan number).map fun external =>
        ⟨externalSection number, externalSettings external⟩ := by
  have zones (zone : Int) : sameName (zoneSection zone) (externalSection number) = false :=
    apart_begins (by decide) _ _
  have inputs (input : Int) : sameName (inputSection input) (externalSection number) = false :=
    apart_begins (by decide) _ _
  have within := apart_from_sprinklerd plan (by decide : 'S'.toLower ≠ 'E'.toLower)
    ("XTERNAL:".toList ++ printInt number)
  change partOf _ (externalSection number) = partOf _ (externalSection number) at within
  have externals :=
    @part_in_numbered _ externalSettings "EXTERNAL:".toList 1 number plan.externals
  change partOf (numbered externalSection _ _ _) (externalSection number) = _ at externals
  rw [within, part_append, part_append, zones_apart plan zones, part_apart inputs, externals,
    externalAt, Option.none_or, Option.none_or]
  split_ifs
  · rfl
  · rfl

end Parts

section Asking

variable {plan : Installation} (ok : InstallationOk plan) {around : Surroundings}
  (file : around.inifile = some (installationFile plan))

include ok file

variable {name key : Text}

/-- What the file says for a key in a section, if the key is one of the source. -/
theorem get_text (shown : Visible name ∧ name ≠ []) (asked : KeyOk key) (defValue : Text)
    (size : Nat) :
    getText around name key defValue size =
      (((partOf (installationParts plan) name).bind fun part =>
        settingOf part.settings key).getD defValue).take (size - 1) := by
  rw [getText, file, installationFile, document_reads_back (installation_ok ok) shown.1.1 asked.1
    asked.2.2.2.2.1.1, lookup_sections _ shown.2]

theorem get_number (shown : Visible name ∧ name ≠ []) (asked : KeyOk key) {number : Int}
    (fits : NumberOk number)
    (said : ((partOf (installationParts plan) name).bind fun part =>
      settingOf part.settings key) = some (printInt number)) (defValue : Int) :
    getNumber around name key defValue = number := by
  have short := length_print_int_le fits.1 fits.2
  have buffer : iniGets around.inifile name key [] 64 = printInt number := by
    have text := get_text ok file shown asked [] 64
    rw [said, Option.getD_some, List.take_of_length_le (by omega)] at text
    exact text
  rw [getNumber, iniGetl, buffer]
  simp only [print_int_ne_nil, no_hex_mark, if_false]
  exact strtol_print_int fits.1 fits.2

theorem get_number_missing (shown : Visible name ∧ name ≠ []) (asked : KeyOk key)
    (missing : ((partOf (installationParts plan) name).bind fun part =>
      settingOf part.settings key) = none) {defValue : Int} (fits : NumberOk defValue) :
    getNumber around name key defValue = defValue := by
  have buffer : iniGets around.inifile name key [] 64 = [] := by
    have text := get_text ok file shown asked [] 64
    rw [missing, Option.getD_none, List.take_nil] at text
    exact text
  rw [getNumber, iniGetl, buffer]
  exact wrap32_of_fits fits.1 fits.2

end Asking

section Planned

def plannedZone (zone : Int) (plan : ZonePlan) : ZoneEntry where
  inputOutput := 1
  receiveMode := 3
  zone := zone
  pin := plan.pin
  onState := plan.onState
  startupState := cNot plan.onState
  shutdownState := cNot plan.onState
  setPullUpdown := plan.pullUpdown
  dzIdx := plan.dzIdx
  defaultRuntime := plan.defaultRuntime
  name := if validGPIO plan.pin then plan.name.take 39 else "ERROR".toList

def plannedInput (input : Int) (plan : InputPlan) : InputEntry where
  pin := plan.pin
  inputOutput := 0
  receiveMode := 3
  zone := input
  onState := plan.onState
  setPullUpdown := plan.pullUpdown
  dzIdx := plan.dzIdx
  name := plan.name.take 39
  commandOn := plan.commandOn.take 511
  commandOff := plan.commandOff.take 511

def plannedExternal (plan : RunB4CalStart) : RunB4CalStart where
  mins := plan.mins
  command := plan.command.take 255

/-- The table of the inputs begins at 0, and one whose pin is not valid has no entry. -/
def inputEntry (plan : Installation) (memory : Int → InputEntry) (i : Int) : InputEntry :=
  match inputAt plan (i + 1) with
  | none => memory i
  | some input => if validGPIO input.pin then plannedInput (i + 1) input else memory i

def zoneEntry (plan : Installation) (memory : Int → ZoneEntry) (zone : Int) : ZoneEntry :=
  match planAt plan zone with
  | none => memory zone
  | some entry => plannedZone zone entry

theorem zone_shown (zone : Int) : Visible (zoneSection zone) ∧ zoneSection zone ≠ [] :=
  ⟨section_visible (by decide) zone, List.cons_ne_nil _ _⟩

theorem input_shown (input : Int) : Visible (inputSection input) ∧ inputSection input ≠ [] :=
  ⟨section_visible (by decide) input, List.cons_ne_nil _ _⟩

theorem external_shown (external : Int) :
    Visible (externalSection external) ∧ externalSection external ≠ [] :=
  ⟨section_visible (by decide) external, List.cons_ne_nil _ _⟩

variable {plan : Installation} (ok : InstallationOk plan) {around : Surroundings}
  (file : around.inifile = some (installationFile plan))

theorem plan_ok (ok : InstallationOk plan) {zone : Int} {entry : ZonePlan}
    (planned : planAt plan zone = some entry) : ZonePlanOk entry := by
  unfold planAt at planned
  split_ifs at planned
  · exact ok.master entry planned
  · exact ok.zones entry (List.mem_of_getElem? planned)

theorem input_plan_ok (ok : InstallationOk plan) {number : Int} {input : InputPlan}
    (planned : inputAt plan number = some input) : InputPlanOk input := by
  unfold inputAt at planned
  split_ifs at planned
  exact ok.inputs input (List.mem_of_getElem? planned)

theorem external_plan_ok (ok : InstallationOk plan) {number : Int} {external : RunB4CalStart}
    (planned : externalAt plan number = some external) : ExternalOk external := by
  unfold externalAt at planned
  split_ifs at planned
  exact ok.externals external (List.mem_of_getElem? planned)

include ok file

theorem zone_number {zone : Int} {entry : ZonePlan} (planned : planAt plan zone = some entry)
    {key : Text} (asked : KeyOk key) {number : Int} (member : number ∈ entry.numbers)
    (said : settingOf (zoneSettings entry) key = some (printInt number)) (defValue : Int) :
    getNumber around (zoneSection zone) key defValue = number := by
  apply get_number ok file (zone_shown zone) asked ((plan_ok ok planned).numbers number member)
  rw [zone_part, planned]
  exact said

theorem zone_pin_planned (zone : Int) :
    zonePin around zone = ((planAt plan zone).map ZonePlan.pin).getD (-1) := by
  cases planned : planAt plan zone with
  | none =>
      apply get_number_missing ok file (zone_shown zone) (by decide) _ (by decide)
      rw [zone_part, planned]
      rfl
  | some entry =>
      exact zone_number ok file planned (by decide) List.mem_cons_self rfl (-1)

theorem read_zone_planned {zone : Int} {entry : ZonePlan}
    (planned : planAt plan zone = some entry) :
    readZone around zone = plannedZone zone entry := by
  have pin : zonePin around zone = entry.pin := by
    rw [zone_pin_planned ok file, planned]
    rfl
  have number {key : Text} (asked : KeyOk key) {number : Int} (member : number ∈ entry.numbers)
      (said : settingOf (zoneSettings entry) key = some (printInt number)) (defValue : Int) :=
    zone_number ok file planned asked member said defValue
  have onState := @number "GPIO_ON_STATE".toList (by decide) entry.onState
    (by simp [ZonePlan.numbers]) rfl 0
  have pull := @number "GPIO_PULL_UPDN".toList (by decide) entry.pullUpdown
    (by simp [ZonePlan.numbers]) rfl (-1)
  have idx := @number "DOMOTICZ_IDX".toList (by decide) entry.dzIdx
    (by simp [ZonePlan.numbers]) rfl (-1)
  have runtime := @number "DEFAULT_RUNTIME".toList (by decide) entry.defaultRuntime
    (by simp [ZonePlan.numbers]) rfl 10
  have name : getText around (zoneSection zone) "NAME".toList [] 40 = entry.name.take 39 := by
    rw [get_text ok file (zone_shown zone) (by decide), zone_part, planned]
    rfl
  rw [readZone, pin, onState, pull, idx, runtime, name]
  rfl

theorem input_number {number : Int} {input : InputPlan}
    (planned : inputAt plan number = some input) {key : Text} (asked : KeyOk key) {value : Int}
    (member : value ∈ input.numbers)
    (said : settingOf (inputSettings input) key = some (printInt value)) (defValue : Int) :
    getNumber around (inputSection number) key defValue = value := by
  apply get_number ok file (input_shown number) asked
    ((input_plan_ok ok planned).numbers value member)
  rw [input_part, planned]
  exact said

theorem input_pin_planned (number : Int) :
    inputPin around number = ((inputAt plan number).map InputPlan.pin).getD (-1) := by
  cases planned : inputAt plan number with
  | none =>
      apply get_number_missing ok file (input_shown number) (by decide) _ (by decide)
      rw [input_part, planned]
      rfl
  | some input =>
      exact input_number ok file planned (by decide) List.mem_cons_self rfl (-1)

theorem read_input_planned {number : Int} {input : InputPlan}
    (planned : inputAt plan number = some input) :
    readInput around number = plannedInput number input := by
  have pin : inputPin around number = input.pin := by
    rw [input_pin_planned ok file, planned]
    rfl
  have value {key : Text} (asked : KeyOk key) {value : Int} (member : value ∈ input.numbers)
      (said : settingOf (inputSettings input) key = some (printInt value)) (defValue : Int) :=
    input_number ok file planned asked member said defValue
  have onState := @value "GPIO_ON_STATE".toList (by decide) input.onState
    (by simp [InputPlan.numbers]) rfl 0
  have pull := @value "GPIO_PULL_UPDN".toList (by decide) input.pullUpdown
    (by simp [InputPlan.numbers]) rfl (-1)
  have idx := @value "DOMOTICZ_IDX".toList (by decide) input.dzIdx
    (by simp [InputPlan.numbers]) rfl (-1)
  have text {key : Text} (asked : KeyOk key) (size : Nat) :
      getText around (inputSection number) key [] size =
        ((settingOf (inputSettings input) key).getD []).take (size - 1) := by
    rw [get_text ok file (input_shown number) asked, input_part, planned]
    rfl
  have name := @text "NAME".toList (by decide) 40
  have commandOn := @text "COMMAND_ON".toList (by decide) 512
  have commandOff := @text "COMMAND_OFF".toList (by decide) 512
  rw [readInput, pin, onState, pull, idx, name, commandOn, commandOff]
  rfl

theorem external_time_planned (number : Int) :
    getNumber around (externalSection number) "RUNB4STARTTIME".toList (-1) =
      ((externalAt plan number).map RunB4CalStart.mins).getD (-1) := by
  cases planned : externalAt plan number with
  | none =>
      apply get_number_missing ok file (external_shown number) (by decide) _ (by decide)
      rw [external_part, planned]
      rfl
  | some external =>
      apply get_number ok file (external_shown number) (by decide)
        (external_plan_ok ok planned).number
      rw [external_part, planned]
      rfl

theorem read_external_planned {number : Int} {external : RunB4CalStart}
    (planned : externalAt plan number = some external) :
    readExternal around number = plannedExternal external := by
  have time := external_time_planned ok file number
  have command : getText around (externalSection number) "COMMAND".toList [] 256 =
      external.command.take 255 := by
    rw [get_text ok file (external_shown number) (by decide), external_part, planned]
    rfl
  rw [planned] at time
  rw [readExternal, time, command]
  rfl

omit ok file

/-- The numbers from 1 on are there as long as the list goes. -/
theorem count_sections_eq {named : Int → Text} {key : Text} {total left found : Nat}
    (seen : found ≤ total) (fits : total ≤ found + left)
    (there : ∀ number : Nat, found < number → number ≤ total →
      getNumber around (named number) key (-1) ≠ -1)
    (missing : getNumber around (named (total + 1 : Nat)) key (-1) = -1) :
    countSections around named key left found = total := by
  induction left generalizing found with
  | zero =>
      rw [countSections]
      omega
  | succ left ih =>
      rw [countSections]
      by_cases last : found = total
      · rw [last, if_pos missing]
      · rw [if_neg (there (found + 1) (by omega) (by omega))]
        exact ih (by omega) (by omega) fun number later => there number (by omega)

theorem listed_zone (plan : Installation) {number : Nat} (positive : 0 < number) :
    planAt plan number = plan.zones[number - 1]? := by
  have index : ((number : Int) - 1).toNat = number - 1 := by omega
  rw [planAt, if_neg (by omega), if_pos (by omega), index]

theorem listed_input (plan : Installation) {number : Nat} (positive : 0 < number) :
    inputAt plan number = plan.inputs[number - 1]? := by
  have index : ((number : Int) - 1).toNat = number - 1 := by omega
  rw [inputAt, if_pos (by omega), index]

theorem listed_external (plan : Installation) {number : Nat} (positive : 0 < number) :
    externalAt plan number = plan.externals[number - 1]? := by
  have index : ((number : Int) - 1).toNat = number - 1 := by omega
  rw [externalAt, if_pos (by omega), index]

theorem count_planned {Plan : Type} {plans : List Plan} {value : Plan → Int}
    (present : ∀ plan ∈ plans, value plan ≠ -1) {limit : Nat} (few : plans.length ≤ limit)
    {named : Int → Text} {key : Text}
    (asked : ∀ number : Nat, 0 < number →
      getNumber around (named number) key (-1) = (plans[number - 1]?.map value).getD (-1)) :
    countSections around named key limit 0 = plans.length := by
  apply count_sections_eq (Nat.zero_le _) (by omega)
  · intro number positive within
    have inside : number - 1 < plans.length := by omega
    rw [asked number positive, List.getElem?_eq_getElem inside]
    exact present _ (List.getElem_mem inside)
  · rw [asked _ (Nat.succ_pos _), List.getElem?_eq_none (by omega)]
    rfl

include ok file

theorem zone_count_planned : zoneCount around = plan.zones.length := by
  apply count_planned (fun zone member => (ok.zones zone member).pin) ok.zonesFew
  intro number positive
  rw [← listed_zone plan positive]
  exact zone_pin_planned ok file number

theorem input_count_planned : inputCount around = plan.inputs.length := by
  apply count_planned (fun input member => (ok.inputs input member).pin) ok.inputsFew
  intro number positive
  rw [← listed_input plan positive]
  exact input_pin_planned ok file number

theorem external_count_planned : externalCount around = plan.externals.length := by
  apply count_planned (fun external member => (ok.externals external member).mins)
    ok.externalsFew
  intro number positive
  rw [← listed_external plan positive]
  exact external_time_planned ok file number

theorem zone_entries_planned (zone : Int) :
    readZones around (zoneCount around + 1) 0 around.zoneMemory zone =
      zoneEntry plan around.zoneMemory zone := by
  rw [zone_entry, zone_count_planned ok file, zone_pin_planned ok file, zoneEntry]
  cases planned : planAt plan zone with
  | none =>
      apply if_neg
      rintro (⟨rfl, master⟩ | ⟨lower, upper⟩)
      · rw [planned] at master
        exact master rfl
      · rw [planAt, if_neg (by omega), if_pos lower, List.getElem?_eq_none_iff] at planned
        omega
  | some entry =>
      rw [read_zone_planned ok file planned]
      apply if_pos
      unfold planAt at planned
      split_ifs at planned with zero positive
      · have pin := (ok.master entry planned).pin
        rw [planAt, if_pos rfl, planned]
        exact Or.inl ⟨zero, pin⟩
      · obtain ⟨inside, -⟩ := List.getElem?_eq_some_iff.mp planned
        exact Or.inr ⟨positive, by omega⟩

theorem input_entries_planned (i : Int) :
    readInputs around (inputCount around) 0 around.inputMemory i =
      inputEntry plan around.inputMemory i := by
  rw [input_count_planned ok file, read_inputs_listed, inputEntry, input_pin_planned ok file]
  cases planned : inputAt plan (i + 1) with
  | none =>
      apply if_neg
      rintro ⟨⟨lower, upper⟩, -⟩
      rw [inputAt, if_pos (by omega), List.getElem?_eq_none_iff] at planned
      omega
  | some input =>
      rw [read_input_planned ok file planned]
      unfold inputAt at planned
      split_ifs at planned
      obtain ⟨inside, -⟩ := List.getElem?_eq_some_iff.mp planned
      have range : 0 ≤ i ∧ i < 0 + (plan.inputs.length : Int) := by omega
      simp only [range, true_and, Option.map_some, Option.getD_some]

theorem externals_from {rest : List RunB4CalStart} {first : Nat} (positive : 0 < first)
    (listed : ∀ index, rest[index]? = plan.externals[first - 1 + index]?) :
    (zonesFrom rest.length first).map (readExternal around) = rest.map plannedExternal := by
  induction rest generalizing first with
  | nil => rfl
  | cons external rest ih =>
      have planned : externalAt plan first = some external := by
        rw [listed_external plan positive]
        exact (listed 0).symm
      have later := @ih (first + 1) (Nat.succ_pos first) fun index => by
        rw [show first + 1 - 1 + index = first - 1 + (index + 1) by omega, ← listed (index + 1),
          List.getElem?_cons_succ]
      rw [List.length_cons, zonesFrom, List.map_cons, List.map_cons,
        read_external_planned ok file planned]
      exact congrArg (List.cons _) later

theorem externals_planned :
    (zonesFrom (externalCount around) 1).map (readExternal around) =
      plan.externals.map plannedExternal := by
  rw [external_count_planned ok file]
  exact externals_from ok file (by decide) fun index => by rw [Nat.sub_self, Nat.zero_add]

theorem master_planned : decide (zonePin around 0 ≠ -1) = plan.master.isSome := by
  have pin := zone_pin_planned ok file 0
  have masters := ok.master
  rw [planAt, if_pos rfl] at pin
  rw [pin]
  cases given : plan.master with
  | none => rfl
  | some zone => exact decide_eq_true (masters zone given).pin

/-- `SPRINKLERD`, the section of what belongs to no zone. -/
theorem general_text {key : Text} (asked : KeyOk key) {text : Text}
    (said : settingOf (sprinklerdSettings plan) key = some text) (defValue : Text)
    (size : Nat) : getText around sprinklerd key defValue size = text.take (size - 1) := by
  rw [get_text ok file ⟨by decide, by decide⟩ asked, sprinklerd_part, Option.bind_some, said]
  rfl

theorem general_number {key : Text} (asked : KeyOk key) {number : Int}
    (member : number ∈ plan.numbers)
    (said : settingOf (sprinklerdSettings plan) key = some (printInt number))
    (defValue : Int) : getNumber around sprinklerd key defValue = number := by
  apply get_number ok file ⟨by decide, by decide⟩ asked (ok.numbers number member)
  rw [sprinklerd_part]
  exact said

end Planned

section Reading

/-- What `readCfg` has to make of the file, field by field. -/
structure Configures (plan : Installation) (around : Surroundings) (made : Configuration) :
    Prop where
  zones : made.cfg.zones = plan.zones.length
  masterValve : made.cfg.masterValve = plan.master.isSome
  zonecfg : ∀ zone, made.zonecfg zone = zoneEntry plan around.zoneMemory zone
  driven : ∀ zone, made.cfg.zonecfg zone = gpioCfg (made.zonecfg zone)
  dzidx : [made.cfg.dzidxCalendar, made.cfg.dzidx24hDelay, made.cfg.dzidxAllzones,
    made.cfg.dzidxStatus, made.cfg.dzidxRainsensor] = plan.numbers
  enableMQTTaq : made.cfg.enableMQTTaq = decide (plan.mqttTopic ≠ [])
  enableMQTTdz : made.cfg.enableMQTTdz =
    decide (plan.mqttDzPubTopic ≠ [] ∧ plan.mqttDzSubTopic ≠ [])
  enableMQTTha : made.enableMQTTha = decide (plan.mqttHaDisTopic ≠ [])
  mqttTopic : made.cfg.mqttTopic = plan.mqttTopic.take 49
  mqttDzPubTopic : made.cfg.mqttDzPubTopic = plan.mqttDzPubTopic.take 127
  mqttDzSubTopic : made.mqttDzSubTopic =
    if plan.mqttDzPubTopic = [] then [] else plan.mqttDzSubTopic.take 127
  mqttHaDisTopic : made.mqttHaDisTopic = plan.mqttHaDisTopic.take 127
  socketPort : made.cfg.socketPort = plan.port.take 5
  name : made.name = plan.name.take 19
  docroot : made.docroot = plan.docroot.take 511
  cacheFile : made.cacheFile = plan.cacheFile.take 511
  mqttAddress : made.mqttAddress = plan.mqttAddress.take 127
  mqttUser : made.mqttUser = plan.mqttUser.take 49
  mqttPasswd : made.mqttPasswd = plan.mqttPasswd.take 49
  inputs : made.inputs = plan.inputs.length
  inputcfg : ∀ i, made.inputcfg i = inputEntry plan around.inputMemory i
  runBeforeCmd : made.cfg.runBeforeCmd = plan.externals.map plannedExternal

/-- The file that is written for an installation configures it. -/
theorem installation_reads_back {plan : Installation} (ok : InstallationOk plan)
    {around : Surroundings} (file : around.inifile = some (installationFile plan)) :
    ∃ made, readCfg around = some made ∧ Configures plan around made := by
  have zones := zone_count_planned ok file
  have positive : 0 < zoneCount around := by
    rw [zones]
    exact List.length_pos_of_ne_nil ok.zonesSome
  have text {key : Text} (asked : KeyOk key) {text : Text}
      (said : settingOf (sprinklerdSettings plan) key = some text) (defValue : Text)
      (size : Nat) := general_text ok file asked said defValue size
  have number {key : Text} (asked : KeyOk key) {number : Int} (member : number ∈ plan.numbers)
      (said : settingOf (sprinklerdSettings plan) key = some (printInt number)) :=
    general_number ok file asked member said 0
  have topic := @text "MQT_TOPIC".toList (by decide) plan.mqttTopic rfl [] 50
  have pubTopic := @text "MQTT_DZ_PUB_TOPIC".toList (by decide) plan.mqttDzPubTopic rfl [] 128
  have subTopic := @text "MQTT_DZ_SUB_TOPIC".toList (by decide) plan.mqttDzSubTopic rfl [] 128
  have haTopic := @text "MQTT_HA_DIS_TOPIC".toList (by decide) plan.mqttHaDisTopic rfl [] 128
  have dzidx : [getNumber around sprinklerd "DZIDX_CALENDAR".toList 0,
      getNumber around sprinklerd "DZIDX_24HDELAY".toList 0,
      getNumber around sprinklerd "DZIDX_ALL_ZONES".toList 0,
      getNumber around sprinklerd "DZIDX_STATUS".toList 0,
      getNumber around sprinklerd "DZIDX_RAINSENSOR".toList 0] = plan.numbers := by
    rw [@number "DZIDX_CALENDAR".toList (by decide) plan.dzidxCalendar
        (by simp [Installation.numbers]) rfl,
      @number "DZIDX_24HDELAY".toList (by decide) plan.dzidx24hDelay
        (by simp [Installation.numbers]) rfl,
      @number "DZIDX_ALL_ZONES".toList (by decide) plan.dzidxAllzones
        (by simp [Installation.numbers]) rfl,
      @number "DZIDX_STATUS".toList (by decide) plan.dzidxStatus
        (by simp [Installation.numbers]) rfl,
      @number "DZIDX_RAINSENSOR".toList (by decide) plan.dzidxRainsensor
        (by simp [Installation.numbers]) rfl]
    rfl
  have someTopic (topic : Text) {size : Nat} (room : size ≠ 0) :
      topic.take size ≠ [] ↔ topic ≠ [] := by
    simp [List.take_eq_nil_iff, room]
  have aq : decide (getText around sprinklerd "MQT_TOPIC".toList [] 50 ≠ []) =
      decide (plan.mqttTopic ≠ []) := by
    rw [topic, decide_eq_decide]
    exact someTopic plan.mqttTopic (by decide)
  have ha : decide (getText around sprinklerd "MQTT_HA_DIS_TOPIC".toList [] 128 ≠ []) =
      decide (plan.mqttHaDisTopic ≠ []) := by
    rw [haTopic, decide_eq_decide]
    exact someTopic plan.mqttHaDisTopic (by decide)
  have sub : (if getText around sprinklerd "MQTT_DZ_PUB_TOPIC".toList [] 128 = [] then []
      else getText around sprinklerd "MQTT_DZ_SUB_TOPIC".toList [] 128) =
        if plan.mqttDzPubTopic = [] then [] else plan.mqttDzSubTopic.take 127 := by
    rw [pubTopic, subTopic]
    exact if_congr (not_iff_not.mp (someTopic plan.mqttDzPubTopic (by decide))) rfl rfl
  have dz : decide (getText around sprinklerd "MQTT_DZ_PUB_TOPIC".toList [] 128 ≠ [] ∧
      (if getText around sprinklerd "MQTT_DZ_PUB_TOPIC".toList [] 128 = [] then []
        else getText around sprinklerd "MQTT_DZ_SUB_TOPIC".toList [] 128) ≠ []) =
        decide (plan.mqttDzPubTopic ≠ [] ∧ plan.mqttDzSubTopic ≠ []) := by
    rw [sub, pubTopic, decide_eq_decide, someTopic plan.mqttDzPubTopic (by decide)]
    apply and_congr_right
    intro some
    rw [if_neg some]
    exact someTopic plan.mqttDzSubTopic (by decide)
  refine ⟨_, dif_pos positive, ?_⟩
  constructor
  · exact zones
  · exact master_planned ok file
  · exact zone_entries_planned ok file
  · exact fun _ => rfl
  · exact dzidx
  · exact aq
  · exact dz
  · exact ha
  · exact topic
  · exact pubTopic
  · exact sub
  · exact haTopic
  · exact @text "PORT".toList (by decide) plan.port rfl "8888".toList 6
  · exact @text "NAME".toList (by decide) plan.name rfl "None".toList 20
  · exact @text "DOCUMENTROOT".toList (by decide) plan.docroot rfl "./".toList 512
  · exact @text "CACHE".toList (by decide) plan.cacheFile rfl "/tmp/sprinklerd.cache".toList 512
  · exact @text "MQTT_ADDRESS".toList (by decide) plan.mqttAddress rfl [] 128
  · exact @text "MQTT_USER".toList (by decide) plan.mqttUser rfl [] 50
  · exact @text "MQTT_PASSWD".toList (by decide) plan.mqttPasswd rfl [] 50
  · exact input_count_planned ok file
  · exact input_entries_planned ok file
  · exact externals_planned ok file

def benchZone (name : String) (pin : Int) : ZonePlan where
  name := name.toList
  pin := pin
  onState := 0
  pullUpdown := 1
  dzIdx := 200
  defaultRuntime := 15

def benchPlan : Installation where
  name := "My Sprinklers".toList
  port := "80".toList
  docroot := "/var/www/sprinklerd".toList
  cacheFile := "/var/cache/sprinklerd.cache".toList
  mqttAddress := "localhost:1883".toList
  mqttUser := []
  mqttPasswd := []
  mqttTopic := "sprinkler".toList
  mqttDzPubTopic := []
  mqttDzSubTopic := []
  mqttHaDisTopic := "homeassistant".toList
  dzidxCalendar := 197
  dzidx24hDelay := 198
  dzidxAllzones := 199
  dzidxStatus := 0
  dzidxRainsensor := 48
  master := some (benchZone "Master Valve" 17)
  zones := [benchZone "Island" 18, benchZone "Beds; \"front\" # 2" 27]
  inputs := []
  externals := [{ mins := 30, command := "/usr/local/bin/rain".toList }]

theorem bench_zone_ok {name : String} {pin : Int} (named : TextOk name.toList)
    (fits : NumberOk pin) (some : pin ≠ -1) : ZonePlanOk (benchZone name pin) := by
  refine ⟨named, ?_, some⟩
  simp only [ZonePlan.numbers, benchZone, List.forall_mem_cons]
  exact ⟨fits, by decide, by decide, by decide, by decide,
    fun _ member => absurd member List.not_mem_nil⟩

theorem bench_plan_ok : InstallationOk benchPlan where
  texts := List.all_iff_forall_prop.mp (by decide +kernel)
  numbers := List.all_iff_forall_prop.mp (by decide +kernel)
  master zone member := by
    cases member
    exact bench_zone_ok (by decide) (by decide) (by decide)
  zones zone member := by
    rcases List.mem_cons.mp member with rfl | last
    · exact bench_zone_ok (by decide) (by decide) (by decide)
    · rw [List.mem_singleton.mp last]
      exact bench_zone_ok (by decide) (by decide) (by decide)
  zonesSome := List.cons_ne_nil _ _
  zonesFew := by decide
  inputs _ member := absurd member List.not_mem_nil
  inputsFew := by decide
  externals external member := by
    rw [List.mem_singleton.mp member]
    exact ⟨by decide, by decide, by decide⟩
  externalsFew := by decide

def benchSurroundings : Surroundings where
  inifile := some (installationFile benchPlan)
  zoneMemory _ := ⟨0, 0, 0, 0, 0, 0, 0, 0, 0, 0, []⟩
  inputMemory _ := ⟨⟨0, 0, 0⟩, 0, 0, 0, 0, [], [], []⟩

theorem installation_reads_back_bench :
    (readCfg benchSurroundings).map (fun made =>
        (made.cfg.zones, made.cfg.masterValve, (made.zonecfg 2).name, (made.zonecfg 2).pin)) =
      some (2, true, "Beds; \"front\" # 2".toList, 27) := by
  obtain ⟨made, read, configures⟩ := @installation_reads_back benchPlan bench_plan_ok
    benchSurroundings rfl
  rw [read, Option.map_some, configures.zones, configures.masterValve, configures.zonecfg]
  rfl

end Reading

end SprinklerD.InstallationFile
