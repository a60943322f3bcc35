import Strom.Aggregate.Protocol
import Strom.Effects.Triples
import Strom.Go.Json
import Strom.Go.Time
import Strom.Registry.Nodes

/-!
# The tables of UPSes and samples (`registry.go`)

The rows of `ups` and `samples`, the statements on them, and `RecordUPSSnapshots` over the
operations of a transaction, each of which may fail.  The primary key of a UPS is the text
`node:name`; a UPS belongs to a row of `nodes` and a sample to a row of `ups`, and both go
with what they belong to.
-/

namespace Strom.Registry

open Strom.Go Strom.Effects

structure UPSMetadata where
  displayName : String := ""
  tags : List String := []
deriving DecidableEq, Repr

/-- A `map[string]string` by its entries. -/
structure StringMap where
  entries : List (String × String) := []
  distinct : (entries.map (·.1)).Nodup := by decide

def StringMap.get (map : StringMap) (key : String) : Option String := map.entries.lookup key

structure UPSSnapshot where
  name : String
  driver : String := ""
  metadata : UPSMetadata := {}
  vars : StringMap := {}

structure UPSRow where
  id : String
  nodeID : String
  name : String
  driver : String
  displayName : String := ""
  tagsJSON : String := "[]"
deriving DecidableEq, Repr

structure SampleRow where
  upsID : String
  variable_ : String
  value : String
  capturedAt : String
deriving DecidableEq, Repr

/-- The samples are in the order in which they were inserted. -/
structure Tables where
  nodes : Rows := []
  ups : List UPSRow := []
  samples : List SampleRow := []
deriving DecidableEq, Repr

def encodeUPSTags (tags : List String) : String :=
  if tags = [] then "[]" else (Json.array (tags.map .string)).marshal

/-! ## Statements -/

inductive Statement where
  | upsertUPS (row : UPSRow)
  | insertSample (row : SampleRow)
  /-- `DELETE FROM ups WHERE node_id = ?`. -/
  | clearInventory (nodeID : String)
  /-- `DELETE FROM ups WHERE node_id = ? AND id NOT IN (..)`. -/
  | pruneInventory (nodeID : String) (activeIDs : List String)

def foreignKeyError : GoError := .text "FOREIGN KEY constraint failed"

/-- The assignments of `ON CONFLICT(id) DO UPDATE`: the metadata stays. -/
def UPSRow.replaced (old row : UPSRow) : UPSRow :=
  { old with nodeID := row.nodeID, name := row.name, driver := row.driver }

def upsertRow (rows : List UPSRow) (row : UPSRow) : List UPSRow :=
  if row.id ∈ rows.map (·.id) then rows.map fun old => if old.id = row.id then old.replaced row else old
  else rows ++ [row]

/-- Delete rows of `ups`, and the samples that belong to them. -/
def Tables.deleteUPS (t : Tables) (stale : UPSRow → Bool) : Tables :=
  { t with
    ups := t.ups.filter fun row => !stale row
    samples := t.samples.filter fun sample => !t.ups.any fun row => stale row && row.id = sample.upsID }

def Statement.run : Statement → Tables → Except GoError Tables
  | .upsertUPS row, t =>
    if (find t.nodes row.nodeID).isSome then .ok { t with ups := upsertRow t.ups row }
    else .error foreignKeyError
  | .insertSample row, t =>
    if row.upsID ∈ t.ups.map (·.id) then .ok { t with samples := t.samples ++ [row] }
    else .error foreignKeyError
  | .clearInventory nodeID, t => .ok (t.deleteUPS fun row => row.nodeID = nodeID)
  | .pruneInventory nodeID activeIDs, t =>
    .ok (t.deleteUPS fun row => row.nodeID = nodeID && row.id ∉ activeIDs)

def runStatements (statements : List Statement) (t : Tables) : Except GoError Tables :=
  statements.foldlM (fun t statement => statement.run t) t

/-! ## Transactions -/

/-- The tables, and those of the open transaction. -/
structure Database where
  committed : Tables := {}
  working : Option Tables := none
deriving DecidableEq, Repr

inductive RegistryOp where
  | begin
  | exec (statement : Statement)
  | commit
  | rollback

@[reducible] def RegistryOp.Reply : RegistryOp → Type
  | .rollback => Unit
  | _ => Except GoError Unit

abbrev RegistryProgram := Program RegistryOp RegistryOp.Reply

abbrev RegistryAction := Action RegistryOp RegistryOp.Reply GoError

/-- An operation whose error is wrapped. -/
def tryTo (context : String) (op : RegistryOp) (same : op.Reply = Except GoError Unit) : RegistryAction Unit :=
  Action.mapError (.wrap context) (Action.ofProgram (same ▸ Program.perform op))

def rollback : RegistryProgram Unit := Program.perform RegistryOp.rollback

/-- The deferred function of a transaction: roll back where an error is returned. -/
def rollingBack (x : RegistryAction Unit) : RegistryAction Unit :=
  Action.ofProgram do
    match ← Action.toProgram x with
    | .ok _ => return .ok ()
    | .error cause =>
      rollback
      return .error cause

/-! ## `RecordUPSSnapshots` -/

/-- The primary key of a UPS. -/
def upsID (nodeID upsName : String) : String := nodeID ++ ":" ++ upsName

def UPSSnapshot.row (snapshot : UPSSnapshot) (nodeID : String) : UPSRow where
  id := upsID nodeID (trimSpace snapshot.name)
  nodeID := nodeID
  name := trimSpace snapshot.name
  driver := trimSpace snapshot.driver
  displayName := snapshot.metadata.displayName
  tagsJSON := encodeUPSTags snapshot.metadata.tags

/-- The samples of a snapshot, by key. -/
def UPSSnapshot.samples (snapshot : UPSSnapshot) (nodeID capturedAt : String) : List SampleRow :=
  (Aggregate.byName (·.1) snapshot.vars.entries).map fun entry =>
    { upsID := upsID nodeID (trimSpace snapshot.name), variable_ := entry.1, value := entry.2, capturedAt }

def insertSamples : List SampleRow → RegistryAction Unit
  | [] => return ()
  | sample :: rest => do
    tryTo ("insert sample " ++ sample.upsID ++ "/" ++ sample.variable_) (.exec (.insertSample sample)) rfl
    insertSamples rest

def recordSnapshots (nodeID capturedAt : String) : List UPSSnapshot → RegistryAction Unit
  | [] => return ()
  | snapshot :: rest => do
    if trimSpace snapshot.name = "" then recordSnapshots nodeID capturedAt rest
    else
      let row := snapshot.row nodeID
      tryTo ("upsert ups " ++ row.id) (.exec (.upsertUPS row)) rfl
      insertSamples (snapshot.samples nodeID capturedAt)
      recordSnapshots nodeID capturedAt rest

/-- The snapshots with a name. -/
def named (snapshots : List UPSSnapshot) : List UPSSnapshot :=
  snapshots.filter fun snapshot => trimSpace snapshot.name ≠ ""

def activeIDs (nodeID : String) (snapshots : List UPSSnapshot) : List String :=
  (named snapshots).map fun snapshot => (snapshot.row nodeID).id

def pruneStatement (nodeID : String) (activeIDs : List String) : String × Statement :=
  if activeIDs = [] then ("clear UPS inventory for node " ++ nodeID, .clearInventory nodeID)
  else ("prune stale UPS inventory for node " ++ nodeID, .pruneInventory nodeID activeIDs)

def recordUPSSnapshots (nodeID : String) (capturedAt : Time) (snapshots : List UPSSnapshot) :
    RegistryAction Unit := do
  Action.ofExcept (rejectIf (trimSpace nodeID = "") (.text "node id is required"))
  tryTo "begin UPS sample transaction" .begin rfl
  rollingBack do
    recordSnapshots nodeID (formatRFC3339 capturedAt) snapshots
    let prune := pruneStatement nodeID (activeIDs nodeID snapshots)
    tryTo prune.1 (.exec prune.2) rfl
    tryTo "commit UPS sample transaction" .commit rfl

/-! ## Other statements on the tables -/

/-- `UpdateUPSMetadata`. -/
def updateUPSMetadata (nodeID upsName : String) (metadata : UPSMetadata) (t : Tables) : Tables :=
  { t with ups := t.ups.map fun row =>
      if row.nodeID = nodeID ∧ row.name = upsName then
        { row with displayName := metadata.displayName, tagsJSON := encodeUPSTags metadata.tags }
      else row }

/-- `PruneSamplesBefore`. -/
def pruneSamplesBefore (cutoff : Time) (t : Tables) : Tables :=
  { t with samples := t.samples.filter fun sample => ¬ sample.capturedAt < formatRFC3339 cutoff }

/-- `DeleteNode` with the rows that belong to the node. -/
def Tables.deleteNode (t : Tables) (id : String) : Tables :=
  { t.deleteUPS fun row => row.nodeID = id with nodes := (Registry.deleteNode id t.nodes).2 }

/-! ## The effect of the operations -/

/-- An operation fails where its choice is an error, and a statement on its own account. -/
def performRegistry : (op : RegistryOp) → Option GoError → Database → op.Reply × Database
  | .begin, none, db => (.ok (), { db with working := some db.committed })
  | .exec statement, none, db =>
    match statement.run (db.working.getD db.committed) with
    | .ok t => (.ok (), { db with working := some t })
    | .error cause => (.error cause, db)
  | .commit, none, db => (.ok (), { committed := db.working.getD db.committed })
  | .begin, some cause, db => (.error cause, db)
  | .exec _, some cause, db => (.error cause, db)
  | .commit, some cause, db => (.error cause, db)
  | .rollback, _, db => ((), { db with working := none })

end Strom.Registry
