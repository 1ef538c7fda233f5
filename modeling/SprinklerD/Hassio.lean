import SprinklerD.JsonMessages

/-!
# Home Assistant discovery

`publish_mqtt_hassio_discover` of `hassio.c` announces one entity after the other: a JSON
document that names the topic on which the state of the entity is published and, for what
can be switched, the topic and the payloads that switch it. The four formats of the source
differ in their members only. A member is kept as it is printed between its quotes.
-/

namespace SprinklerD.Hassio

open Foundation.Decimal
open SprinklerD.Config SprinklerD.Broadcast SprinklerD.JsonMessages

set_option autoImplicit false

/-- What is announced, in the order of the source. The master valve is not. -/
inductive Entity where
  | status
  | activeZone
  | calendar
  | delay24h
  | cycleAllZones
  | rainProbability
  | rainTotal
  | zone (zone : Int)
deriving DecidableEq, Repr

abbrev Members := List (Text × Text)

section Formats

def sdVersion : Text := "1.4.1".toList

def hassDevice : Text :=
  "\"identifiers\": [\"SprinklerD\"], \"sw_version\": \"".toList ++ sdVersion ++
    "\", \"model\": \"Sprinkler Daemon\", \"name\": \"SprinklerD\",".toList ++
    " \"manufacturer\": \"SprinklerD\", \"suggested_area\": \"garden\"".toList

def mqttLwmTopic : Text := "Alive".toList

def hassAvailability (base : Text) : Text :=
  "\"payload_available\" : \"1\",\"payload_not_available\" : \"0\",\"topic\": \"".toList ++
    base ++ ['/'] ++ mqttLwmTopic ++ ['"']

def hassioTextSensorDiscover (id name state : Text) : Members :=
  [("type".toList, "sensor".toList), ("unique_id".toList, id), ("name".toList, name),
    ("state_topic".toList, state), ("icon".toList, "mdi:card-text".toList)]

def hassioSensorDiscover (id name state unit icon : Text) : Members :=
  [("type".toList, "sensor".toList), ("unique_id".toList, id), ("name".toList, name),
    ("state_topic".toList, state),
    ("value_template".toList, "\x7b\x7b value_json \x7d\x7d".toList),
    ("unit_of_measurement".toList, unit), ("icon".toList, icon)]

def hassioSwitchDiscover (id name state : Text) : Members :=
  [("type".toList, "switch".toList), ("unique_id".toList, id), ("name".toList, name),
    ("state_topic".toList, state), ("command_topic".toList, state ++ "/set".toList),
    ("payload_on".toList, "1".toList), ("payload_off".toList, "0".toList)]

def valveTemplate : Text :=
  "\x7b% set values = \x7b '0':'closed', '1':'open'\x7d %\x7d\x7b\x7b ".toList ++
    "values[value] if value in values.keys() else 'closed' \x7d\x7d".toList

def hassioValveDiscover (id : Text) (zone : Int) (name state : Text) : Members :=
  [("type".toList, "valve".toList), ("device_class".toList, "water".toList),
    ("unique_id".toList, id),
    ("name".toList, "Zone ".toList ++ printInt zone ++ " (".toList ++ name ++ ")".toList),
    ("state_topic".toList, state), ("command_topic".toList, state ++ "/set".toList),
    ("value_template".toList, valveTemplate),
    ("payload_open".toList, "1".toList), ("payload_close".toList, "0".toList)]

def memberText (member : Text × Text) : Text :=
  ",\"".toList ++ member.1 ++ "\": \"".toList ++ member.2 ++ ['"']

def documentText (base : Text) (members : Members) : Text :=
  "\x7b\"device\": \x7b".toList ++ hassDevice ++ "\x7d,\"availability\": \x7b".toList ++
    hassAvailability base ++ ['\x7d'] ++ members.flatMap memberText ++ ['\x7d']

end Formats

variable (cfg : SprinklerdCfg) (labels : Labels) (mqttHaDisTopic : Text)

section Entities

def entityId : Entity → Text
  | .status => "sprinklerd_status".toList
  | .activeZone => "sprinklerd_active_zone".toList
  | .calendar => "sprinklerd_calendar".toList
  | .delay24h => "sprinklerd_24hdelay".toList
  | .cycleAllZones => "sprinklerd_cycleallzones".toList
  | .rainProbability => "sprinklerd_rainprobability".toList
  | .rainTotal => "sprinklerd_raintotal".toList
  | .zone zone => "sprinklerd_zone_".toList ++ printInt zone

def entityComponent : Entity → Text
  | .calendar | .delay24h | .cycleAllZones => "switch".toList
  | .zone _ => "valve".toList
  | _ => "sensor".toList

def entityPart : Entity → Text
  | .status => "status".toList
  | .activeZone => "active".toList
  | .calendar => "calendar".toList
  | .delay24h => "24hdelay".toList
  | .cycleAllZones => "cycleallzones".toList
  | .rainProbability => "chanceofrain".toList
  | .rainTotal => "raintotal".toList
  | .zone zone => zoneText zone

def entityState (entity : Entity) : Text := cfg.mqttTopic ++ '/' :: entityPart entity

def entityMembers (entity : Entity) : Members :=
  let id := entityId entity
  let state := entityState cfg entity
  match entity with
  | .status => hassioTextSensorDiscover id "Status".toList state
  | .activeZone => hassioTextSensorDiscover id "Active Zone".toList state
  | .calendar => hassioSwitchDiscover id "Calendar Schedule".toList state
  | .delay24h => hassioSwitchDiscover id "24 Hour rain delay".toList state
  | .cycleAllZones => hassioSwitchDiscover id "Cycle All Zones".toList state
  | .rainProbability =>
      hassioSensorDiscover id "Todays Rain Probability".toList state "%".toList
        "mdi:water-percent".toList
  | .rainTotal =>
      hassioSensorDiscover id "Todays Rain Total".toList state "\\\"".toList
        "mdi:weather-hail".toList
  | .zone zone => hassioValveDiscover id zone (labels.names zone) state

def configTopic (entity : Entity) : Text :=
  mqttHaDisTopic ++ ['/'] ++ entityComponent entity ++ "/sprinklerd/".toList ++
    entityId entity ++ "/config".toList

def entities : List Entity :=
  [.status, .activeZone, .calendar, .delay24h, .cycleAllZones, .rainProbability, .rainTotal] ++
    (zoneList cfg).map .zone

def publishMqttHassioDiscover : List (Text × Text) :=
  (entities cfg).map fun entity =>
    (configTopic mqttHaDisTopic entity, documentText cfg.mqttTopic (entityMembers cfg labels entity))

end Entities

end SprinklerD.Hassio
