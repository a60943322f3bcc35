import Strom.Effects.Provided
import Strom.Registry.Alerts

/-!
# The alert engine (`alerts.go`)

`EvaluateOnce` and `TestRule` over the operations that they issue: clock readings, the
statements on the registry, deliveries and log lines.  A world holds what the registry
answers and the clock; `perform` is the effect of an operation, and a `Chance` decides
whether it fails.
-/

namespace Strom.Alerts

open Strom.Go Strom.Effects Strom.Registry

/-- What the engine does with a `float64`; nothing here depends on how it is rounded. -/
structure Floats (F : Type) where
  le : F → F → Bool
  /-- The text of `%.1f`. -/
  text : F → String

/-- The fields of an adopted node that the engine reads. -/
structure AlertNode where
  id : String
  lastSeen : Time
  commsState : String
deriving DecidableEq, Repr

/-- The fields of a UPS summary that the engine reads. -/
structure UPSSummary (F : Type) where
  name : String
  status : String
  batteryChargePercent : Option F
deriving DecidableEq, Repr

def kindOnBattery : String := "on_battery"
def kindLowBattery : String := "low_battery"
def kindNodeOffline : String := "node_offline"
def kindCommsLost : String := "comms_lost"

def commsStateDegraded : String := "degraded"
def commsStateOffline : String := "offline"

inductive AlertOp (F : Type) where
  | now
  | listAlertRules
  | listAdoptedNodes
  | listNodeUPSSummaries (nodeID : String)
  | lastAlertEvent (ruleID : Int) (subjectKey : String)
  | deliver (rule : AlertRule F) (event : AlertEvent)
  | insertAlertEvent (event : AlertEvent)
  | log (line : String)

@[reducible] def AlertOp.Reply {F : Type} : AlertOp F → Type
  | .now => Time
  | .listAlertRules => Except GoError (List (AlertRule F))
  | .listAdoptedNodes => Except GoError (List AlertNode)
  | .listNodeUPSSummaries _ => Except GoError (List (UPSSummary F))
  | .lastAlertEvent _ _ => Except GoError (Option AlertEvent)
  | .deliver _ _ => Except GoError Unit
  | .insertAlertEvent _ => Except GoError AlertEvent
  | .log _ => Unit

variable {F : Type}

abbrev AlertProgram (F : Type) := Program (AlertOp F) AlertOp.Reply

abbrev AlertAction (F : Type) := Action (AlertOp F) AlertOp.Reply GoError

/-- Issue an operation and take its reply. -/
def ask (op : AlertOp F) : AlertProgram F op.Reply := Program.perform op

def call {α : Type} (op : AlertOp F) (same : op.Reply = Except GoError α) : AlertAction F α :=
  Action.ofProgram (same ▸ ask op)

/-- A product of `int64` values, with the overflow. -/
def wrapInt64 (x : Int) : Int := (x + 2 ^ 63) % 2 ^ 64 - 2 ^ 63

/-- `time.Duration(rule.DebounceSeconds) * time.Second`. -/
def debounce (rule : AlertRule F) : Int := wrapInt64 (rule.debounceSeconds * second)

structure Engine (F : Type) where
  floats : Floats F
  nodeOfflineAfter : Int

namespace Engine

variable (e : Engine F)

/-- The configured time, or 45 seconds. -/
def offlineAfter : Int := if e.nodeOfflineAfter ≤ 0 then 45 * second else e.nodeOfflineAfter

/-- The event of a node that was not seen for too long. -/
def offlineEvents (now : Time) (rule : AlertRule F) (node : AlertNode) : List AlertEvent :=
  if !node.lastSeen.isZero ∧ e.offlineAfter < now.sub node.lastSeen then
    [{ ruleID := rule.id, nodeID := node.id, subjectKey := node.id, kind := rule.kind
       message := "node " ++ node.id ++ " has not been seen since " ++ formatRFC3339 node.lastSeen
       createdAt := now }]
  else []

def commsEvents (now : Time) (rule : AlertRule F) (node : AlertNode) : List AlertEvent :=
  if node.commsState = commsStateDegraded ∨ node.commsState = commsStateOffline then
    [{ ruleID := rule.id, nodeID := node.id, subjectKey := node.id, kind := rule.kind
       message := "node " ++ node.id ++ " communications state is " ++ node.commsState
       createdAt := now }]
  else []

/-- The event of a UPS, which is its own subject. -/
def upsEvent (now : Time) (rule : AlertRule F) (node : AlertNode) (summary : UPSSummary F)
    (what : String) : AlertEvent where
  ruleID := rule.id
  nodeID := node.id
  upsID := node.id ++ ":" ++ summary.name
  subjectKey := node.id ++ ":" ++ summary.name
  kind := rule.kind
  message := "UPS " ++ summary.name ++ " on node " ++ node.id ++ what
  createdAt := now

def onBatteryEvents (now : Time) (rule : AlertRule F) (node : AlertNode) (summary : UPSSummary F) :
    List AlertEvent :=
  if rule.kind = kindOnBattery ∧ contains (toUpper summary.status) "OB" then
    [upsEvent now rule node summary (" is on battery (" ++ summary.status ++ ")")]
  else []

def lowBatteryEvents (now : Time) (rule : AlertRule F) (node : AlertNode) (summary : UPSSummary F) :
    List AlertEvent :=
  match rule.threshold, summary.batteryChargePercent with
  | some threshold, some charge =>
    if rule.kind = kindLowBattery ∧ e.floats.le charge threshold then
      [upsEvent now rule node summary (" battery is " ++ e.floats.text charge ++ "%")]
    else []
  | _, _ => []

/-- The events of a rule on a node. -/
def events (now : Time) (rule : AlertRule F) (node : AlertNode) : AlertProgram F (List AlertEvent) :=
  if rule.kind = kindNodeOffline then return e.offlineEvents now rule node
  else if rule.kind = kindCommsLost then return commsEvents now rule node
  else if rule.kind = kindOnBattery ∨ rule.kind = kindLowBattery then do
    match ← ask (.listNodeUPSSummaries node.id) with
    | .ok summaries =>
      return summaries.flatMap fun summary =>
        onBatteryEvents now rule node summary ++ e.lowBatteryEvents now rule node summary
    | .error cause => do
      ask (.log ("alert summary load failed node=" ++ node.id ++ ": " ++ cause.message))
      return []
  else return []

/-- The event with the outcome of its delivery. -/
def delivered (event : AlertEvent) : Except GoError Unit → AlertEvent
  | .ok () => { event with delivered := true }
  | .error cause => { event with delivered := false, deliveryError := cause.message }

def deliverAndInsert (rule : AlertRule F) (event : AlertEvent) : AlertAction F AlertEvent := do
  let outcome ← Action.always (ask (.deliver rule event))
  call (.insertAlertEvent (delivered event outcome)) rfl

/-- `maybeFireEvent`. -/
def maybeFireEvent (rule : AlertRule F) (event : AlertEvent) : AlertAction F Unit := do
  match ← call (.lastAlertEvent rule.id event.subjectKey) rfl with
  | some last =>
    if event.createdAt.sub last.createdAt < debounce rule then return ()
    else
      let _ ← deliverAndInsert rule event
      return ()
  | none =>
    let _ ← deliverAndInsert rule event
    return ()

def fireEvents (rule : AlertRule F) : List AlertEvent → AlertProgram F Unit
  | [] => return ()
  | event :: rest => do
    match ← (maybeFireEvent rule event).toProgram with
    | .ok () => fireEvents rule rest
    | .error cause => do
      ask (.log ("alert evaluation failed rule=" ++ toString rule.id ++ " subject=" ++
        event.subjectKey ++ ": " ++ cause.message))
      fireEvents rule rest

def evaluateNodes (now : Time) (rule : AlertRule F) : List AlertNode → AlertProgram F Unit
  | [] => return ()
  | node :: rest => do
    let found ← e.events now rule node
    fireEvents rule found
    evaluateNodes now rule rest

def evaluateRules (now : Time) (nodes : List AlertNode) : List (AlertRule F) → AlertProgram F Unit
  | [] => return ()
  | rule :: rest => do
    if rule.enabled then e.evaluateNodes now rule nodes
    evaluateRules now nodes rest

/-- `EvaluateOnce`. -/
def evaluateOnce : AlertAction F Unit := do
  let now ← Action.always (ask .now)
  let rules ← call .listAlertRules rfl
  let nodes ← call .listAdoptedNodes rfl
  Action.always (e.evaluateRules now nodes rules)

/-- `TestRule`. -/
def testRule (rule : AlertRule F) : AlertAction F AlertEvent := do
  let now ← Action.always (ask .now)
  deliverAndInsert rule
    { ruleID := rule.id, nodeID := "test-node", subjectKey := "test:" ++ toString rule.id
      kind := rule.kind, message := "test event for " ++ rule.kind, createdAt := now }

end Engine

/-! ## The effect of the operations -/

structure AlertWorld (F : Type) where
  rules : List (AlertRule F) := []
  nodes : List AlertNode := []
  summaries : String → List (UPSSummary F) := fun _ => []
  table : AlertEvents := {}
  /-- The readings of the clock, one after the other. -/
  clock : Nat → Time
  readings : Nat := 0
  /-- The rows that `InsertAlertEvent` has stored. -/
  stored : List AlertEventRow := []

/-- What the surroundings decide about an operation. -/
structure Chance where
  fault : Option GoError := none
  /-- A statement that is reported as failed has been carried out. -/
  applied : Bool := false
  delivery : Except GoError Unit := .ok ()

def Chance.call {α : Type} (chance : Chance) (result : Except GoError α) : Except GoError α :=
  match chance.fault with
  | none => result
  | some cause => .error cause

namespace AlertWorld

/-- The next reading of the clock. -/
def now (w : AlertWorld F) : Time := w.clock w.readings

def read (w : AlertWorld F) : AlertWorld F := { w with readings := w.readings + 1 }

/-- `InsertAlertEvent` reads the clock for an event without a time. -/
def insert (w : AlertWorld F) (event : AlertEvent) : AlertWorld F :=
  { w with
    table := Registry.insertAlertEvent event w.now w.table
    stored := w.stored ++ [event.row w.now (w.table.lastID + 1)]
    readings := if event.createdAt.isZero then w.readings + 1 else w.readings }

end AlertWorld

def perform : (op : AlertOp F) → Chance → AlertWorld F → op.Reply × AlertWorld F
  | .now, _, w => (w.now, w.read)
  | .listAlertRules, chance, w => (chance.call (.ok w.rules), w)
  | .listAdoptedNodes, chance, w => (chance.call (.ok w.nodes), w)
  | .listNodeUPSSummaries nodeID, chance, w => (chance.call (.ok (w.summaries nodeID)), w)
  | .lastAlertEvent ruleID subjectKey, chance, w =>
    (chance.call (Registry.lastAlertEvent ruleID subjectKey w.table), w)
  | .deliver _ _, chance, w => (chance.delivery, w)
  | .insertAlertEvent event, chance, w =>
    match chance.fault with
    | none => (.ok { event with id := w.table.lastID + 1 }, w.insert event)
    | some cause => (.error cause, if chance.applied then w.insert event else w)
  | .log _, _, w => ((), w)

end Strom.Alerts
