import Strom.Aggregate.Protocol
import Strom.Go.Errors
import Strom.Go.Json
import Strom.Go.Time
import Strom.Naming.Slugs

/-!
# The MQTT messages (`mqtt.go`)

The discovery, state and availability messages of a node and its UPSes, with their topics
and payloads.  A state message carries the reading of the clock at which it is made.
-/

namespace Strom.Mqtt

open Strom.Go

structure Config where
  discoveryPrefix : String
  statePrefix : String
deriving DecidableEq, Repr

structure NodeInfo where
  id : String
  displayName : String := ""
  hostname : String := ""
  location : String := ""
  online : Bool := false
  commsState : String := ""
  version : String := ""
deriving DecidableEq, Repr

structure CommandInfo where
  name : String
  description : String := ""
deriving DecidableEq, Repr

/-- A UPS; `F` is the type of a Go `float64`. -/
structure UPSInfo (F : Type) where
  name : String
  displayName : String := ""
  driver : String := ""
  status : String := ""
  batteryCharge : Option F := none
  loadPercent : Option F := none
  runtime : Option Int := none
  inputVoltage : Option F := none
  onBattery : Bool := false
  lowBattery : Bool := false
  commands : List CommandInfo := []
deriving DecidableEq, Repr

structure PublishMessage where
  topic : String
  payload : String
  retain : Bool := true
deriving DecidableEq, Repr

/-- The JSON text of a `float64`, or the error of `json.Marshal` where there is none. -/
abbrev FloatText (F : Type) := F → Except GoError String

def defaultDiscoveryPrefix : String := "homeassistant"
def defaultStatePrefix : String := "strom"

def defaultString (value fallback : String) : String := if value = "" then fallback else value

def Config.discoveryRoot (cfg : Config) : String :=
  defaultString (trimSpace cfg.discoveryPrefix) defaultDiscoveryPrefix

def Config.stateRoot (cfg : Config) : String :=
  defaultString (trimSpace cfg.statePrefix) defaultStatePrefix

/-- The same text as in the aggregate server. -/
def firstNonEmpty (values : List String) : String := Aggregate.firstNonEmpty values

def slug (value : String) : String := Naming.slug value

/-! ## Topics -/

def availabilityTopic (statePrefix nodeID : String) : String :=
  statePrefix ++ "/nodes/" ++ slug nodeID ++ "/availability"

def stateTopic (statePrefix nodeID upsName : String) : String :=
  statePrefix ++ "/nodes/" ++ slug nodeID ++ "/ups/" ++ slug upsName ++ "/state"

def commandTopic (statePrefix nodeID upsName : String) : String :=
  statePrefix ++ "/nodes/" ++ slug nodeID ++ "/ups/" ++ slug upsName ++ "/command"

/-- The part that the ids and the discovery topics of a UPS begin with. -/
def baseID (nodeID upsName : String) : String := slug (nodeID ++ "-" ++ upsName)

def discoveryTopic (discoveryPrefix component object : String) : String :=
  discoveryPrefix ++ "/" ++ component ++ "/" ++ object ++ "/config"

/-! ## Discovery -/

/-- A sensor of a UPS. -/
structure EntitySpec where
  component : String
  objectID : String
  name : String
  deviceCls : String := ""
  stateCls : String := ""
  unit : String := ""
  template : String
  icon : String := ""

def specs : List EntitySpec := [
  { component := "sensor", objectID := "battery_charge", name := "Battery charge", deviceCls := "battery"
    stateCls := "measurement", unit := "%", template := "\x7b\x7b value_json.battery_charge \x7d\x7d" },
  { component := "sensor", objectID := "load", name := "UPS load", stateCls := "measurement", unit := "%"
    template := "\x7b\x7b value_json.load_percent \x7d\x7d" },
  { component := "sensor", objectID := "runtime", name := "Battery runtime", deviceCls := "duration"
    stateCls := "measurement", unit := "s", template := "\x7b\x7b value_json.runtime_seconds \x7d\x7d" },
  { component := "sensor", objectID := "input_voltage", name := "Input voltage", deviceCls := "voltage"
    stateCls := "measurement", unit := "V", template := "\x7b\x7b value_json.input_voltage \x7d\x7d" },
  { component := "sensor", objectID := "status", name := "UPS status"
    template := "\x7b\x7b value_json.status \x7d\x7d" },
  { component := "binary_sensor", objectID := "on_battery", name := "On battery", deviceCls := "power"
    template := "\x7b\x7b value_json.on_battery \x7d\x7d" },
  { component := "binary_sensor", objectID := "low_battery", name := "Low battery", deviceCls := "battery"
    template := "\x7b\x7b value_json.low_battery \x7d\x7d" },
  { component := "binary_sensor", objectID := "online", name := "Online", deviceCls := "connectivity"
    template := "\x7b\x7b value_json.online \x7d\x7d" }]

variable {F : Type}

def upsEntityName (ups : UPSInfo F) (suffix : String) : String :=
  firstNonEmpty [ups.displayName, ups.name, "UPS"] ++ " " ++ suffix

/-- A field with `omitempty`. -/
def optionalField (key value : String) : List (String × Json) :=
  if value = "" then [] else [(key, .string value)]

/-- `discoveryPayload`, as far as the code fills it in. -/
structure DiscoveryPayload where
  name : String
  uniqueID : String
  stateTopic : String := ""
  commandTopic : String := ""
  availabilityTopic : String
  deviceClass : String := ""
  stateClass : String := ""
  unitOfMeasurement : String := ""
  valueTemplate : String := ""
  commandTemplate : String := ""
  icon : String := ""
  device : Json
  payloadPress : String := ""

def DiscoveryPayload.json (payload : DiscoveryPayload) : Json :=
  .object <|
    [("name", .string payload.name), ("unique_id", .string payload.uniqueID)] ++
    optionalField "state_topic" payload.stateTopic ++
    optionalField "command_topic" payload.commandTopic ++
    [("availability_topic", .string payload.availabilityTopic),
      ("payload_available", .string "online"), ("payload_not_available", .string "offline")] ++
    optionalField "device_class" payload.deviceClass ++
    optionalField "state_class" payload.stateClass ++
    optionalField "unit_of_measurement" payload.unitOfMeasurement ++
    optionalField "value_template" payload.valueTemplate ++
    optionalField "command_template" payload.commandTemplate ++
    optionalField "icon" payload.icon ++
    [("device", payload.device),
      ("availability", .array [.object [("topic", .string payload.availabilityTopic)]])] ++
    optionalField "payload_press" payload.payloadPress ++
    [("qos", .number "1")]

def device (node : NodeInfo) : Json :=
  let name := firstNonEmpty [node.displayName, node.hostname, node.id]
  .object <|
    [("identifiers", .array [.string ("strom-node-" ++ node.id)]), ("manufacturer", .string "Strom"),
      ("model", .string name), ("name", .string name)] ++
    (if trimSpace node.location ≠ "" then [("suggested_area", .string node.location)] else []) ++
    [("sw_version", .string node.version)]

variable (cfg : Config) (node : NodeInfo)

def sensorMessage (ups : UPSInfo F) (spec : EntitySpec) : PublishMessage where
  topic := discoveryTopic cfg.discoveryRoot spec.component (baseID node.id ups.name ++ "_" ++ spec.objectID)
  payload := Json.marshal <| DiscoveryPayload.json
    { name := upsEntityName ups spec.name
      uniqueID := baseID node.id ups.name ++ "-" ++ spec.objectID
      stateTopic := stateTopic cfg.stateRoot node.id ups.name
      availabilityTopic := availabilityTopic cfg.stateRoot node.id
      deviceClass := spec.deviceCls
      stateClass := spec.stateCls
      unitOfMeasurement := spec.unit
      valueTemplate := spec.template
      icon := spec.icon
      device := device node }

def buttonMessage (ups : UPSInfo F) (command : CommandInfo) : PublishMessage where
  topic := discoveryTopic cfg.discoveryRoot "button" (baseID node.id ups.name ++ "_cmd_" ++ slug command.name)
  payload := Json.marshal <| DiscoveryPayload.json
    { name := upsEntityName ups command.name
      uniqueID := baseID node.id ups.name ++ "-cmd-" ++ slug command.name
      commandTopic := commandTopic cfg.stateRoot node.id ups.name
      availabilityTopic := availabilityTopic cfg.stateRoot node.id
      commandTemplate := command.name
      device := device node
      payloadPress := command.name }

/-- `DiscoveryMessages`. -/
def discoveryMessages (ups : UPSInfo F) : Except GoError (List PublishMessage) := do
  rejectIf (trimSpace node.id = "") (.text "node id is required")
  rejectIf (trimSpace ups.name = "") (.text "ups name is required")
  let sortedCommands := Aggregate.byName (·.name) ups.commands
  return specs.map (sensorMessage cfg node ups) ++ sortedCommands.map (buttonMessage cfg node ups)

/-! ## State and availability -/

variable (floatText : FloatText F)

def optionalFloat (key : String) : Option F → Except GoError (List (String × Json))
  | none => return []
  | some value => return [(key, .number (← floatText value))]

def optionalInt (key : String) : Option Int → List (String × Json)
  | none => []
  | some value => [(key, .number (toString value))]

/-- The payload of a state message, its keys sorted. -/
def statePayload (ups : UPSInfo F) (now : Time) : Except GoError String := do
  let charge ← optionalFloat floatText "battery_charge" ups.batteryCharge
  let voltage ← optionalFloat floatText "input_voltage" ups.inputVoltage
  let load ← optionalFloat floatText "load_percent" ups.loadPercent
  return Json.marshal <| .object <|
    charge ++ [("comms_state", .string node.commsState)] ++ voltage ++ load ++
    [("low_battery", .bool ups.lowBattery), ("name", .string ups.name), ("node_id", .string node.id),
      ("node_name", .string (firstNonEmpty [node.displayName, node.hostname, node.id])),
      ("on_battery", .bool ups.onBattery),
      ("online", .bool (node.online && node.commsState ≠ "offline"))] ++
    optionalInt "runtime_seconds" ups.runtime ++
    [("status", .string ups.status), ("updated_at", .string (formatRFC3339 now))]

/-- `StateMessage`, made at the clock reading `now`. -/
def stateMessage (ups : UPSInfo F) (now : Time) : Except GoError PublishMessage := do
  rejectIf (trimSpace node.id = "" ∨ trimSpace ups.name = "")
    (.text "node id and ups name are required")
  let payload ← statePayload node floatText ups now
  return { topic := stateTopic cfg.stateRoot node.id ups.name, payload }

/-- `AvailabilityMessage`. -/
def availabilityMessage : Except GoError PublishMessage := do
  rejectIf (trimSpace node.id = "") (.text "node id is required")
  return { topic := availabilityTopic cfg.stateRoot node.id
           payload := if node.online then "online" else "offline" }

end Strom.Mqtt
