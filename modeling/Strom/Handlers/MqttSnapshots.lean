import Strom.Mqtt.Batch
import Strom.Registry.Latest

/-!
# The snapshots for MQTT (`buildMQTTSnapshots`)

The summaries of the registry, with what an agent answers put over them.  The registry and JSON
keep numbers that are none away from the charge and the load, but `parseFloatVariable` lets them
through to the input voltage, and then the state of the UPS has no JSON text
(`snapshots_publish_iff`).
-/

namespace Strom.Handlers

open Strom.Go Strom.Registry Strom.Mqtt

/-! ## What is asked -/

/-- The columns of an adopted node that a snapshot shows. -/
structure AdoptedNode where
  id : String
  displayName : String := ""
  hostname : String := ""
  locationLabel : String := ""
  siteLabel : String := ""
  lastSeen : Time := Time.zero
  commsState : String := ""
  version : String := ""

/-- The answer of an agent; the numbers of a JSON text are finite. -/
structure LiveDetail where
  status : String := ""
  batteryChargePercent : Option Rat := none
  loadPercent : Option Rat := none
  runtimeSeconds : Option Int := none
  vars : Registry.Variables := fun _ => none
  commands : List CommandInfo := []

/-- Whom `buildMQTTSnapshots` asks: the registry, whose queries succeed, and the agents, of which
    some do not answer. -/
structure Sources where
  now : Time
  adopted : Except GoError (List AdoptedNode)
  tables : Tables
  byVariable : RowOrder ByVariable
  byNameAndVariable : RowOrder ByNameAndVariable
  live : String → String → Option LiveDetail

def parseFloatVariable (raw : String) : Option Float64 := parseFloat (trimSpace raw)

/-- `value <= 20`. -/
def atMost20 : Float64 → Bool
  | .finite value => value ≤ 20
  | .inf negative => negative
  | .nan => false

def showsOnBattery (status : String) : Bool := contains (toUpper status) "OB"

/-! ## Snapshots -/

def AdoptedNode.info (node : AdoptedNode) (now : Time) : NodeInfo where
  id := node.id
  displayName := node.displayName
  hostname := node.hostname
  location := trimSpace (node.locationLabel ++ " / " ++ node.siteLabel)
  online := !node.lastSeen.isZero && now.sub node.lastSeen ≤ 45 * second
  commsState := node.commsState
  version := node.version

/-- What the registry knows of a UPS. -/
def summaryInfo (summary : UPSLatestSample) : UPSInfo Float64 where
  name := summary.name
  displayName := summary.name
  driver := summary.driver
  status := summary.status
  batteryCharge := summary.batteryChargePercent
  loadPercent := summary.loadPercent
  runtime := summary.runtimeSeconds
  onBattery := showsOnBattery summary.status
  lowBattery := summary.batteryChargePercent.any atMost20

/-- The commands with a name. -/
def liveCommands (commands : List CommandInfo) : List CommandInfo :=
  (commands.filter fun command => trimSpace command.name ≠ "").map fun command =>
    { name := trimSpace command.name, description := trimSpace command.description }

/-- What an agent's answer puts over it. -/
def withLive (info : UPSInfo Float64) (detail : LiveDetail) : UPSInfo Float64 :=
  { info with
    status := if trimSpace detail.status ≠ "" then detail.status else info.status
    onBattery := if trimSpace detail.status ≠ "" then showsOnBattery detail.status else info.onBattery
    batteryCharge := (detail.batteryChargePercent.map .finite).or info.batteryCharge
    lowBattery := (detail.batteryChargePercent.map fun charge => decide (charge ≤ 20)).getD info.lowBattery
    loadPercent := (detail.loadPercent.map .finite).or info.loadPercent
    runtime := detail.runtimeSeconds.or info.runtime
    inputVoltage := parseFloatVariable ((detail.vars "input.voltage").getD "")
    commands := liveCommands detail.commands }

@[simp] theorem withLive_batteryCharge (info : UPSInfo Float64) (detail : LiveDetail) :
    (withLive info detail).batteryCharge = (detail.batteryChargePercent.map .finite).or info.batteryCharge := by
  simp only [withLive]

@[simp] theorem withLive_loadPercent (info : UPSInfo Float64) (detail : LiveDetail) :
    (withLive info detail).loadPercent = (detail.loadPercent.map .finite).or info.loadPercent := by
  simp only [withLive]

@[simp] theorem withLive_inputVoltage (info : UPSInfo Float64) (detail : LiveDetail) :
    (withLive info detail).inputVoltage = parseFloatVariable ((detail.vars "input.voltage").getD "") := by
  simp only [withLive]

def withStored (info : UPSInfo Float64) (detail : UPSDetail) : UPSInfo Float64 :=
  { info with inputVoltage := parseFloatVariable ((detail.vars "input.voltage").getD "") }

@[simp] theorem withStored_batteryCharge (info : UPSInfo Float64) (detail : UPSDetail) :
    (withStored info detail).batteryCharge = info.batteryCharge := by
  simp only [withStored]

@[simp] theorem withStored_loadPercent (info : UPSInfo Float64) (detail : UPSDetail) :
    (withStored info detail).loadPercent = info.loadPercent := by
  simp only [withStored]

@[simp] theorem withStored_inputVoltage (info : UPSInfo Float64) (detail : UPSDetail) :
    (withStored info detail).inputVoltage = parseFloatVariable ((detail.vars "input.voltage").getD "") := by
  simp only [withStored]

variable (sources : Sources)

/-- The stored detail of a UPS, none where there is no such UPS. -/
def storedDetail (nodeID upsName : String) : Except GoError (Option UPSDetail) :=
  match getUPSDetail sources.byVariable nodeID upsName sources.tables with
  | .ok detail => .ok (some detail)
  | .error cause => if cause = errUPSNotFound then .ok none else .error cause

def upsInfo (nodeID : String) (summary : UPSLatestSample) : Except GoError (UPSInfo Float64) := do
  let stored ← storedDetail sources nodeID summary.name
  let info := summaryInfo summary
  match sources.live nodeID summary.name, stored with
  | some detail, _ => return withLive info detail
  | none, some detail => return withStored info detail
  | none, none => return info

def nodeSnapshot (node : AdoptedNode) : Except GoError (NodeSnapshot Float64) := do
  let summaries ← listNodeUPSSummaries sources.byNameAndVariable node.id sources.tables
  let upses ← summaries.mapM (upsInfo sources node.id)
  return { node := node.info sources.now, upses }

def buildMQTTSnapshots : Except GoError (List (NodeSnapshot Float64)) := do
  let nodes ← sources.adopted
  nodes.mapM (nodeSnapshot sources)

/-- What `json.Marshal` makes of a `float64`, with the text of a finite one. -/
def float64Text (render : Rat → String) : FloatText Float64
  | .finite value => .ok (render value)
  | .inf negative => .error (.text ("json: unsupported value: " ++ if negative then "-Inf" else "+Inf"))
  | .nan => .error (.text "json: unsupported value: NaN")

/-! ## Payloads -/

section Payloads

variable (render : Rat → String)

theorem optionalFloat_ok_iff (key : String) (value : Option Float64) :
    (∃ fields, optionalFloat (float64Text render) key value = .ok fields) ↔ AllFinite value := by
  cases value with
  | none => simp [optionalFloat, AllFinite, pure, Except.pure]
  | some x =>
    cases x with
    | finite q => simp [optionalFloat, AllFinite, float64Text, bind, Except.bind, pure, Except.pure]
    | inf negative => simp [optionalFloat, AllFinite, float64Text, bind, Except.bind]
    | nan => simp [optionalFloat, AllFinite, float64Text, bind, Except.bind]

theorem encodes_iff (node : NodeInfo) (ups : UPSInfo Float64) : Encodes (float64Text render) node ups ↔
    AllFinite ups.batteryCharge ∧ AllFinite ups.inputVoltage ∧ AllFinite ups.loadPercent := by
  rw [← optionalFloat_ok_iff render "battery_charge", ← optionalFloat_ok_iff render "input_voltage",
    ← optionalFloat_ok_iff render "load_percent"]
  constructor
  · intro encodes
    obtain ⟨payload, made⟩ := encodes Time.zero
    simp only [statePayload, except_bind_eq_ok] at made
    obtain ⟨charge, one, voltage, two, load, three, -⟩ := made
    exact ⟨⟨charge, one⟩, ⟨voltage, two⟩, load, three⟩
  · intro made now
    obtain ⟨⟨charge, one⟩, ⟨voltage, two⟩, load, three⟩ := made
    simp only [statePayload, one, two, three]
    exact ⟨_, rfl⟩

end Payloads

/-! ## Voltages -/

/-- The text that the input voltage of a UPS is read from. -/
def voltageText (nodeID upsName : String) : Option String :=
  match sources.live nodeID upsName with
  | some detail => some ((detail.vars "input.voltage").getD "")
  | none =>
    match getUPSDetail sources.byVariable nodeID upsName sources.tables with
    | .ok detail => some ((detail.vars "input.voltage").getD "")
    | .error _ => none

/-- A text that stands for no number, or for a finite one. -/
def Readable (text : String) : Prop := AllFinite (parseFloat (trimSpace text))

/-- The UPS has a place in the snapshots. -/
structure Shown (node : AdoptedNode) (summary : UPSLatestSample) : Prop where
  adopted : ∃ nodes, sources.adopted = .ok nodes ∧ node ∈ nodes
  listed : ∃ summaries, listNodeUPSSummaries sources.byNameAndVariable node.id sources.tables = .ok summaries ∧
    summary ∈ summaries

def ReadableVoltages : Prop := ∀ node summary, Shown sources node summary →
  ∀ text ∈ voltageText sources node.id summary.name, Readable text

variable {sources}

theorem allFinite_or {live stored : Option Float64} (finite : AllFinite live) (finite' : AllFinite stored) :
    AllFinite (live.or stored) := by
  cases live with
  | none => exact finite'
  | some x => exact finite

theorem allFinite_map (value : Option Rat) : AllFinite (value.map .finite) := by
  intro x inside
  obtain ⟨q, -, same⟩ := Option.map_eq_some_iff.mp inside
  exact ⟨q, same.symm⟩

/-- The registry and the answer of the agent bring finite numbers, but for the voltage. -/
theorem upsInfo_spec {nodeID : String} {summary : UPSLatestSample} {info : UPSInfo Float64}
    (made : upsInfo sources nodeID summary = .ok info) (numeric : summary.Numeric) :
    AllFinite info.batteryCharge ∧ AllFinite info.loadPercent ∧
      info.inputVoltage = (voltageText sources nodeID summary.name).bind parseFloatVariable := by
  simp only [upsInfo, except_bind_eq_ok] at made
  obtain ⟨stored, asked, built⟩ := made
  unfold voltageText
  cases live : sources.live nodeID summary.name with
  | some detail =>
    rw [live] at built
    rw [← Except.ok.inj built, withLive_batteryCharge, withLive_loadPercent, withLive_inputVoltage, Option.bind_some]
    exact ⟨allFinite_or (allFinite_map _) numeric.1, allFinite_or (allFinite_map _) numeric.2, rfl⟩
  | none =>
    rw [live] at built
    unfold storedDetail at asked
    cases found : getUPSDetail sources.byVariable nodeID summary.name sources.tables with
    | ok detail =>
      rw [found] at asked
      obtain rfl := Except.ok.inj asked
      rw [← Except.ok.inj built, withStored_batteryCharge, withStored_loadPercent, withStored_inputVoltage,
        Option.bind_some]
      exact ⟨numeric.1, numeric.2, rfl⟩
    | error cause =>
      rw [found] at asked
      simp only at asked
      split at asked
      · obtain rfl := Except.ok.inj asked
        rw [← Except.ok.inj built]
        exact ⟨numeric.1, numeric.2, rfl⟩
      · cases asked

theorem encodes_of_upsInfo_iff {render : Rat → String} (node : NodeInfo) {nodeID : String} {summary : UPSLatestSample}
    {info : UPSInfo Float64} (made : upsInfo sources nodeID summary = .ok info) (numeric : summary.Numeric) :
    Encodes (float64Text render) node info ↔ ∀ text ∈ voltageText sources nodeID summary.name, Readable text := by
  obtain ⟨charge, load, voltage⟩ := upsInfo_spec made numeric
  rw [encodes_iff, voltage]
  cases voltageText sources nodeID summary.name with
  | none =>
    have none : AllFinite none := by simp [AllFinite]
    simp [charge, load, none]
  | some text =>
    have same : AllFinite ((some text).bind parseFloatVariable) ↔ Readable text := by
      rw [Option.bind_some, parseFloatVariable, Readable]
    simp only [charge, load, same, true_and, and_true, Option.mem_def, Option.some.injEq, forall_eq']

/-! ## The batch -/

/-- The state of every UPS has a JSON text. -/
def EncodesAll (floatText : FloatText Float64) (snapshots : List (NodeSnapshot Float64)) : Prop :=
  ∀ snapshot ∈ snapshots, ∀ ups ∈ snapshot.upses, Encodes floatText snapshot.node ups

theorem encodesAll_iff {render : Rat → String} {snapshots : List (NodeSnapshot Float64)}
    (built : buildMQTTSnapshots sources = .ok snapshots) :
    EncodesAll (float64Text render) snapshots ↔ ReadableVoltages sources := by
  simp only [buildMQTTSnapshots, except_bind_eq_ok] at built
  obtain ⟨nodes, adopted, all⟩ := built
  constructor
  · intro encodes node summary shown
    obtain ⟨nodes', adopted', inside⟩ := shown.adopted
    obtain rfl := Except.ok.inj (adopted.symm.trans adopted')
    obtain ⟨summaries, listed, member⟩ := shown.listed
    obtain ⟨snapshot, kept, made⟩ := mem_of_mapM all node inside
    simp only [nodeSnapshot, listed, except_bind_eq_ok] at made
    obtain ⟨_, same, upses, infos, made⟩ := made
    obtain rfl := Except.ok.inj same
    obtain ⟨info, own, made'⟩ := mem_of_mapM infos summary member
    rw [← Except.ok.inj made] at kept
    have encoded := encodes _ kept info own
    exact (encodes_of_upsInfo_iff _ made' (numeric_of_mem_summaries listed summary member)).mp encoded
  · intro readable snapshot kept info own
    obtain ⟨node, inside, made⟩ := of_mem_mapM all snapshot kept
    simp only [nodeSnapshot, except_bind_eq_ok] at made
    obtain ⟨summaries, listed, upses, infos, made⟩ := made
    rw [← Except.ok.inj made] at own
    obtain ⟨summary, member, made'⟩ := of_mem_mapM infos info own
    have shown : Shown sources node summary := ⟨⟨nodes, adopted, inside⟩, summaries, listed, member⟩
    exact (encodes_of_upsInfo_iff _ made' (numeric_of_mem_summaries listed summary member)).mpr
      (readable node summary shown)

/-- Every state has a JSON text, and with names given all of them are published by a client that
    accepts everything, if and only if every voltage is no number or a finite one. -/
theorem snapshots_publish_iff {render : Rat → String} (cfg : PublisherConfig)
    {snapshots : List (NodeSnapshot Float64)} (built : buildMQTTSnapshots sources = .ok snapshots) :
    EncodesAll (float64Text render) snapshots ∧
        ((∀ snapshot ∈ snapshots, Named snapshot) → PublishesAll cfg (float64Text render) snapshots) ↔
      ReadableVoltages sources := by
  constructor
  · intro both
    exact (encodesAll_iff built).mp both.1
  · intro readable
    have encodes : EncodesAll (float64Text render) snapshots := (encodesAll_iff built).mpr readable
    exact ⟨encodes, fun named => publishesAll_of_encodes named encodes⟩

/-- Two UPSes, the first of which has this voltage. -/
def labSources (voltage : String) : Sources where
  now := Time.zero
  adopted := .ok [{ id := "n" }]
  tables := { ups := [{ id := "n:a", nodeID := "n", name := "a", driver := "" },
    { id := "n:b", nodeID := "n", name := "b", driver := "" }] }
  byVariable := tiesInserted ByVariable
  byNameAndVariable := tiesInserted ByNameAndVariable
  live := fun _ name => some { vars := fun key => if name = "a" ∧ key = "input.voltage" then some voltage else none }

theorem snapshots_publish_iff_of_lab : ∃ snapshots, buildMQTTSnapshots (labSources "230.1") = .ok snapshots ∧
    (EncodesAll (float64Text fun _ => "0") snapshots ∧
        ((∀ snapshot ∈ snapshots, Named snapshot) →
          PublishesAll (newPublisher {}) (float64Text fun _ => "0") snapshots) ↔
      ReadableVoltages (labSources "230.1")) := by
  have builds : (buildMQTTSnapshots (labSources "230.1")).toOption.isSome = true := by decide +kernel
  cases built : buildMQTTSnapshots (labSources "230.1") with
  | error cause =>
    rw [built] at builds
    cases builds
  | ok snapshots => exact ⟨snapshots, rfl, snapshots_publish_iff (newPublisher {}) built⟩

/-- How a call ends for these UPSes with a client that accepts everything, and what it has published
    of the second one. -/
def labOutcome (voltage : String) : Except GoError (Except GoError Unit × Option PublishedState) := do
  let snapshots ← buildMQTTSnapshots (labSources voltage)
  let ended := (Call.mk snapshots fun _ => none).outcome (newPublisher {}) (float64Text fun _ => "0") sampleSite
  return (ended.1, ended.2.published (stateTopic "strom" "n" "b"))

/-- A voltage that is not a number keeps the next UPS from being published. -/
theorem nan_stops_batch : labOutcome "nan" = .ok (.error (.text "json: unsupported value: NaN"), none) := by
  decide +kernel

end Strom.Handlers
