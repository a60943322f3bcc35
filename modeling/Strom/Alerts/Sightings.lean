import Mathlib.Data.List.Sort
import Strom.Adoption.Trusted
import Strom.Alerts.Engine

/-!
# From the browser to the registry (`browse.go`, `main.go`, `registry.go`)

The browser keeps the last sighting of each node in memory.  Only requests copy them to the
table of nodes: those that begin with `syncLiveNodes` store what the browser holds at that
moment, one statement a node.  `EvaluateOnce` reads the table alone.

A `Watch` is the state of all three, with the history that a statement about sightings
needs: when which node was sighted, and which text was stored for it.
-/

namespace Strom.Alerts

open Strom.Go Strom.Effects Strom.Registry Strom.Adoption

variable {F : Type}

/-! ## The browser -/

/-- What `parseEntry` and `fetchSeedNode` return. -/
structure Sighting where
  id : String
  instance_ : String := ""
  hostname : String := ""
  address : String := ""
  port : Int := 0
  version : String := ""
  upsCount : Int := 0
  adopted : Bool := false
  seen : Time
deriving DecidableEq, Repr

/-- The node as `syncLiveNodes` passes it on; `UpsertDiscoveredNode` takes a reading of the
    clock, `now`, for the zero time. -/
def Sighting.live (s : Sighting) (now : String) : LiveNode where
  discovered :=
    { id := s.id, instance_ := s.instance_, hostname := s.hostname, address := s.address, port := s.port
      version := s.version, upsCount := s.upsCount
      lastSeen := if s.seen.isZero then now else formatRFC3339 s.seen }
  adopted := s.adopted

/-- `b.nodes[node.ID] = node`. -/
def record (nodes : List Sighting) (s : Sighting) : List Sighting := nodes.filter (·.id ≠ s.id) ++ [s]

/-- `b.Snapshot`, in the order of the ids. -/
def snapshot (nodes : List Sighting) (now : String) : List LiveNode :=
  (nodes.insertionSort fun a b => a.id ≤ b.id).map (·.live now)

/-! ## The nodes that an evaluation reads -/

/-- `scanNode`, with the column `comms_state` of the node. -/
def scanAlertNode (commsState : String → String) (row : NodeRow) : Option AlertNode :=
  if row.adoptedAt ≠ "" ∧ parseRFC3339 row.adoptedAt = none then none
  else (parseRFC3339 row.lastSeen).map fun lastSeen => { id := row.id, lastSeen, commsState := commsState row.id }

/-- `ListAdoptedNodes`; a row that cannot be read fails the query. -/
def listAdoptedNodes (commsState : String → String) (rows : Rows) : Option (List AlertNode) :=
  ((rows.filter (·.adopted)).insertionSort fun a b => a.id ≤ b.id).mapM (scanAlertNode commsState)

/-- A call of `EvaluateOnce`: the rest of what the registry holds, the clock, and what
    fails. -/
structure Evaluation (F : Type) where
  world : AlertWorld F
  commsState : String → String := fun _ => ""
  choices : Nat → Chance := fun _ => {}

/-- The events that are handed to the deliverer. -/
def deliveries (ops : List (AlertOp F)) : List AlertEvent :=
  ops.filterMap fun
    | .deliver _ event => some event
    | _ => none

def Evaluation.produced (e : Engine F) (evaluation : Evaluation F) (rows : Rows) : List AlertEvent :=
  match listAdoptedNodes evaluation.commsState rows with
  | none => []
  | some nodes => deliveries <| Action.trace (guide perform) e.evaluateOnce
      { state := { evaluation.world with nodes }, choices := evaluation.choices }

/-! ## Runs -/

/-- An event with the sightings up to then. -/
structure Produced where
  event : AlertEvent
  sightings : List (String × Time)
deriving DecidableEq, Repr

structure Watch where
  browser : List Sighting := []
  rows : Rows
  /-- The requests to the controller. -/
  requests : List (Thread Task ControllerOp ControllerOp.Reply) := []
  sightings : List (String × Time) := []
  /-- The texts that were stored as `last_seen`, the latest one first. -/
  copies : List (String × String)
  produced : List Produced := []

/-- The controller has opened the table; its texts are copies of sightings before. -/
def Watch.opened (rows : Rows) : Watch where
  rows := rows
  copies := rows.map fun row => (row.id, row.lastSeen)

inductive Happening (F : Type) where
  | sighted (s : Sighting)
  | request (task : Task)
  /-- The next operation of a request. -/
  | turn (turn : Turn Choice)
  | evaluate (evaluation : Evaluation F)

namespace Watch

/-- An operation of a request: a snapshot is the browser's, the others are the table's. -/
def perform (s : Watch) (choice : Choice) : (op : ControllerOp) → op.Reply × Rows
  | .snapshot => (snapshot s.browser choice.now, s.rows)
  | op => Adoption.perform op choice s.rows

/-- A stored node is copied, unless the statement fails before it takes effect. -/
def copied (copies : List (String × String)) (choice : Choice) : ControllerOp → List (String × String)
  | .upsertDiscoveredNode node =>
    match choice.fault with
    | some (false, _) => copies
    | _ => if node.id = "" then copies else (node.id, node.lastSeen) :: copies
  | _ => copies

def step (e : Engine F) (s : Watch) : Happening F → Option Watch
  | .sighted seen => some
      { s with browser := record s.browser seen, sightings := (seen.id, seen.seen) :: s.sightings }
  | .request task => some { s with requests := s.requests ++ [runtime.launch task] }
  | .turn turn =>
    match s.requests[turn.thread]? with
    | some { task, rest := .call op rest } => some
        { s with
          rows := (s.perform turn.choice op).2
          requests := s.requests.set turn.thread { task, rest := rest (s.perform turn.choice op).1 }
          copies := copied s.copies turn.choice op }
    | _ => none
  | .evaluate evaluation => some
      { s with produced := s.produced ++ (evaluation.produced e s.rows).map fun event =>
          { event, sightings := s.sightings } }

end Watch

end Strom.Alerts
