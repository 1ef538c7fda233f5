import SprinklerD.GpioPi
import SprinklerD.InputSetup
import SprinklerD.MinIni
import SprinklerD.MqttSession

/-!
# The configuration of the process

`readCfg` of `config.c`, in the build that does not use WiringPi. It asks the configuration
file for every setting on its own. Zones, inputs and external commands are counted from one
until a number is missing. What it does not set stays as it was: the static variables are
zero, and the tables are memory that has just been allocated.
-/

namespace SprinklerD.ReadCfg

open Foundation.Decimal Foundation.MachineInt
open SprinklerD.Config SprinklerD.InputSetup SprinklerD.JsonMessages SprinklerD.MinIni
open SprinklerD.MqttSession
open SprinklerD.GpioPi ( validGPIO)

set_option autoImplicit false

section Tables

/-- An entry of `zonecfg` as `readCfg` fills it in. -/
structure ZoneEntry where
  inputOutput : Int
  receiveMode : Int
  zone : Int
  pin : Int
  onState : Int
  startupState : Int
  shutdownState : Int
  setPullUpdown : Int
  dzIdx : Int
  defaultRuntime : Int
  name : Text

/-- An entry of `inputcfg`. -/
structure InputEntry extends InputCfg where
  zone : Int
  onState : Int
  setPullUpdown : Int
  dzIdx : Int
  name : Text
  commandOn : Text
  commandOff : Text

/-- `_sdconfig_` after `readCfg`. The labels are the names the documents show. -/
structure Configuration where
  cfg : SprinklerdCfg
  name : Text
  docroot : Text
  cacheFile : Text
  mqttAddress : Text
  mqttUser : Text
  mqttPasswd : Text
  mqttDzSubTopic : Text
  mqttHaDisTopic : Text
  enableMQTTha : Bool
  zonecfg : Int → ZoneEntry
  inputs : Nat
  inputcfg : Int → InputEntry

end Tables

section Source

/-- The configuration file, if it can be opened, and what the tables hold when they have
been allocated. -/
structure Surroundings where
  inifile : Option Text
  zoneMemory : Int → ZoneEntry
  inputMemory : Int → InputEntry

variable (around : Surroundings)

def sprinklerd : Text := "SPRINKLERD".toList

def zoneSection (zone : Int) : Text := "ZONE:".toList ++ printInt zone

def inputSection (input : Int) : Text := "INPUT:".toList ++ printInt input

def externalSection (external : Int) : Text := "EXTERNAL:".toList ++ printInt external

def getText (name key defValue : Text) (size : Nat) : Text :=
  iniGets around.inifile name key defValue size

/-- The `long` is stored in an `int`. -/
def getNumber (name key : Text) (defValue : Int) : Int :=
  wrap32 (iniGetl around.inifile name key defValue)

def pinCfgName : Text := "GPIO_PIN".toList

/-- The loops that count: `left` numbers may still come, and `found` have been seen. -/
def countSections (named : Int → Text) (key : Text) : Nat → Nat → Nat
  | 0, found => found
  | left + 1, found =>
      if getNumber around (named (found + 1 : Nat)) key (-1) = -1 then found
      else countSections named key left (found + 1)

def zoneCount : Nat := countSections around zoneSection pinCfgName 24 0

def inputCount : Nat := countSections around inputSection pinCfgName 24 0

def externalCount : Nat := countSections around externalSection "RUNB4STARTTIME".toList 10 0

def zonePin (zone : Int) : Int := getNumber around (zoneSection zone) pinCfgName (-1)

/-- C's `!` on a number. -/
def cNot (value : Int) : Int := if value = 0 then 1 else 0

/-- The name of a zone that cannot be driven shows that, its pin is kept. -/
def readZone (zone : Int) : ZoneEntry :=
  let str := zoneSection zone
  let onState := getNumber around str "GPIO_ON_STATE".toList 0
  { inputOutput := 1
    receiveMode := 3
    zone := zone
    pin := zonePin around zone
    onState := onState
    startupState := cNot onState
    shutdownState := cNot onState
    setPullUpdown := getNumber around str "GPIO_PULL_UPDN".toList (-1)
    dzIdx := getNumber around str "DOMOTICZ_IDX".toList (-1)
    defaultRuntime := getNumber around str "DEFAULT_RUNTIME".toList 10
    name :=
      if validGPIO (zonePin around zone) then getText around str "NAME".toList [] 40
      else "ERROR".toList }

/-- The loop over the zones from `zone` on, which zone 0 need not be there for. -/
def readZones : Nat → Int → (Int → ZoneEntry) → Int → ZoneEntry
  | 0, _, table => table
  | left + 1, zone, table =>
      if zonePin around zone ≠ -1 then
        readZones left (zone + 1) (Function.update table zone (readZone around zone))
      else if 0 < zone then table
      else readZones left (zone + 1) table

def inputPin (input : Int) : Int := getNumber around (inputSection input) pinCfgName (-1)

def readInput (input : Int) : InputEntry :=
  let str := inputSection input
  { pin := inputPin around input
    inputOutput := 0
    receiveMode := 3
    zone := input
    onState := getNumber around str "GPIO_ON_STATE".toList 0
    setPullUpdown := getNumber around str "GPIO_PULL_UPDN".toList (-1)
    dzIdx := getNumber around str "DOMOTICZ_IDX".toList (-1)
    name := getText around str "NAME".toList [] 40
    commandOn := getText around str "COMMAND_ON".toList [] 512
    commandOff := getText around str "COMMAND_OFF".toList [] 512 }

/-- The inputs are numbered from 1 and stored from 0. One whose pin is not valid keeps its
place and what was in the memory. -/
def readInputs : Nat → Int → (Int → InputEntry) → Int → InputEntry
  | 0, _, table => table
  | left + 1, i, table =>
      if validGPIO (inputPin around (i + 1)) = false then readInputs left (i + 1) table
      else readInputs left (i + 1) (Function.update table i (readInput around (i + 1)))

def readExternal (external : Int) : RunB4CalStart where
  mins := getNumber around (externalSection external) "RUNB4STARTTIME".toList (-1)
  command := getText around (externalSection external) "COMMAND".toList [] 256

def gpioCfg (entry : ZoneEntry) : GPIOcfg where
  pin := entry.pin
  onState := entry.onState
  dzIdx := entry.dzIdx

end Source

section Counting

variable (around : Surroundings)

theorem count_sections_bounds {named : Int → Text} {key : Text} (left found : Nat) :
    found ≤ countSections around named key left found ∧
      countSections around named key left found ≤ found + left := by
  induction left generalizing found with
  | zero => exact ⟨le_refl found, le_refl found⟩
  | succ left ih =>
      rw [countSections]
      split_ifs
      · omega
      · have later := ih (found + 1)
        omega

theorem zone_count_le : zoneCount around ≤ 24 :=
  (@count_sections_bounds around zoneSection pinCfgName 24 0).2

theorem count_sections_there {named : Int → Text} {key : Text} {left found number : Nat}
    (after : found < number) (counted : number ≤ countSections around named key left found) :
    getNumber around (named number) key (-1) ≠ -1 := by
  induction left generalizing found with
  | zero =>
      rw [countSections] at counted
      omega
  | succ left ih =>
      rw [countSections] at counted
      split_ifs at counted with missing
      · omega
      · by_cases next : number = found + 1
        · rw [next]
          exact missing
        · exact ih (by omega) counted

/-- Round after round the zones that are there get their entries. -/
theorem read_zones_listed {left : Nat} {first : Int} (positive : 0 < first)
    (there : ∀ zone, first ≤ zone → zone < first + left → zonePin around zone ≠ -1)
    (table : Int → ZoneEntry) (zone : Int) :
    readZones around left first table zone =
      if first ≤ zone ∧ zone < first + left then readZone around zone else table zone := by
  induction left generalizing first table with
  | zero =>
      rw [readZones, if_neg (by omega)]
  | succ left ih =>
      have more (zone : Int) (lower : first + 1 ≤ zone) (upper : zone < first + 1 + left) :
          zonePin around zone ≠ -1 := there zone (by omega) (by omega)
      rw [readZones, if_pos (there first (le_refl first) (by omega)), ih (by omega) more]
      by_cases same : zone = first
      · rw [if_neg (by omega), if_pos (by omega), same, Function.update_self]
      · rw [Function.update_of_ne same]
        by_cases inside : first + 1 ≤ zone ∧ zone < first + 1 + left
        · rw [if_pos inside, if_pos (by omega)]
        · rw [if_neg inside, if_neg (by omega)]

/-- The entries of the table, whatever the file: those of the zones, and entry 0 where a
master valve is given. -/
theorem zone_entry (zone : Int) :
    readZones around (zoneCount around + 1) 0 around.zoneMemory zone =
      if (zone = 0 ∧ zonePin around 0 ≠ -1) ∨ (1 ≤ zone ∧ zone ≤ zoneCount around) then
        readZone around zone
      else around.zoneMemory zone := by
  have there (zone : Int) (lower : 1 ≤ zone) (upper : zone < 1 + (zoneCount around : Int)) :
      zonePin around zone ≠ -1 := by
    have counted := @count_sections_there around zoneSection pinCfgName 24 0 zone.toNat
      (by omega) (by change zone.toNat ≤ zoneCount around; omega)
    rwa [Int.toNat_of_nonneg (by omega)] at counted
  have listed (table : Int → ZoneEntry) :=
    read_zones_listed around (by decide) there table zone
  have bounds : (1 ≤ zone ∧ zone < 1 + (zoneCount around : Int)) ↔
      (1 ≤ zone ∧ zone ≤ zoneCount around) := by omega
  simp only [bounds] at listed
  rw [readZones, zero_add]
  by_cases master : zonePin around 0 = -1
  · rw [if_neg (not_not_intro master), if_neg (by decide), listed]
    have none : ¬(zone = 0 ∧ zonePin around 0 ≠ -1) := fun given => given.2 master
    exact if_congr (or_iff_right none).symm rfl rfl
  · rw [if_pos master, listed]
    by_cases zero : zone = 0
    · rw [if_neg (by omega), if_pos (Or.inl ⟨zero, master⟩), zero, Function.update_self]
    · have none : ¬(zone = 0 ∧ zonePin around 0 ≠ -1) := fun given => zero given.1
      rw [Function.update_of_ne zero]
      exact if_congr (or_iff_right none).symm rfl rfl

theorem read_inputs_listed (left : Nat) (first : Int) (table : Int → InputEntry) (i : Int) :
    readInputs around left first table i =
      if (first ≤ i ∧ i < first + left) ∧ validGPIO (inputPin around (i + 1)) = true then
        readInput around (i + 1)
      else table i := by
  induction left generalizing first table with
  | zero => rw [readInputs, if_neg (by omega)]
  | succ left ih =>
      rw [readInputs]
      by_cases same : i = first
      · subst same
        split_ifs with invalid valid valid
        · exact absurd (invalid.symm.trans valid.2) (by decide)
        · rw [ih, if_neg (by omega)]
        · rw [ih, if_neg (by omega), Function.update_self]
        · exact absurd ⟨by omega, Bool.eq_true_of_not_eq_false invalid⟩ valid
      · have inside : (first + 1 ≤ i ∧ i < first + 1 + left) ↔
            (first ≤ i ∧ i < first + (left + 1 : Nat)) := by
          push_cast
          omega
        have later := fun table => ih (first + 1) table
        simp only [inside] at later
        by_cases invalid : validGPIO (inputPin around (first + 1)) = false
        · rw [if_pos invalid]
          exact later table
        · rw [if_neg invalid, later, Function.update_of_ne same]

end Counting

section Source

variable (around : Surroundings)

/-- The topic to subscribe to for Domoticz is only asked for when there is one to publish
on. -/
def readCfg : Option Configuration :=
  let text := getText around sprinklerd
  let number key := getNumber around sprinklerd key 0
  let zones := zoneCount around
  let zonecfg := readZones around (zones + 1) 0 around.zoneMemory
  let pubTopic := text "MQTT_DZ_PUB_TOPIC".toList [] 128
  let subTopic := if pubTopic = [] then [] else text "MQTT_DZ_SUB_TOPIC".toList [] 128
  let topic := text "MQT_TOPIC".toList [] 50
  let haTopic := text "MQTT_HA_DIS_TOPIC".toList [] 128
  if positive : 0 < zones then
    some {
      cfg := {
        zones := zones
        zonesPositive := positive
        zonesBounded := zone_count_le around
        masterValve := zonePin around 0 ≠ -1
        zonecfg := fun zone => gpioCfg (zonecfg zone)
        dzidxCalendar := number "DZIDX_CALENDAR".toList
        dzidx24hDelay := number "DZIDX_24HDELAY".toList
        dzidxAllzones := number "DZIDX_ALL_ZONES".toList
        dzidxRainsensor := number "DZIDX_RAINSENSOR".toList
        dzidxStatus := number "DZIDX_STATUS".toList
        enableMQTTaq := topic ≠ []
        enableMQTTdz := pubTopic ≠ [] ∧ subTopic ≠ []
        mqttTopic := topic
        mqttDzPubTopic := pubTopic
        socketPort := text "PORT".toList "8888".toList 6
        runBeforeCmd := (zonesFrom (externalCount around) 1).map (readExternal around) }
      name := text "NAME".toList "None".toList 20
      docroot := text "DOCUMENTROOT".toList "./".toList 512
      cacheFile := text "CACHE".toList "/tmp/sprinklerd.cache".toList 512
      mqttAddress := text "MQTT_ADDRESS".toList [] 128
      mqttUser := text "MQTT_USER".toList [] 50
      mqttPasswd := text "MQTT_PASSWD".toList [] 50
      mqttDzSubTopic := subTopic
      mqttHaDisTopic := haTopic
      enableMQTTha := haTopic ≠ []
      zonecfg := zonecfg
      inputs := inputCount around
      inputcfg := readInputs around (inputCount around) 0 around.inputMemory }
  else none

/-- The identifier is made when the connection is. -/
def mqttCfg (mqttId : Text) (configuration : Configuration) : MqttCfg where
  mqttUser := configuration.mqttUser
  mqttPasswd := configuration.mqttPasswd
  mqttId := mqttId
  mqttDzSubTopic := configuration.mqttDzSubTopic
  enableMQTTha := configuration.enableMQTTha
  mqttHaDisTopic := configuration.mqttHaDisTopic
  labels := { title := configuration.name, names := fun zone => (configuration.zonecfg zone).name }

end Source

end SprinklerD.ReadCfg
