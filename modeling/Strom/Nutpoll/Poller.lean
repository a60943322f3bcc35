import Strom.Effects.Program
import Strom.Registry.Samples

/-!
# The poller of the nodes (`nutpoll.go`)

`PollOnce` over the operations it issues: the statements of the registry, which succeed,
the vault and the NUT client, whose outcomes are chosen.  A row of `nodes` has the columns
that polling and the operator write beside those of discovery and adoption.
-/

namespace Strom.Nutpoll

open Strom.Go Strom.Effects Strom.Registry

def commsStateUnknown : String := "unknown"
def commsStateHealthy : String := "healthy"
def commsStateDegraded : String := "degraded"
def commsStateOffline : String := "offline"

structure PolledRow where
  node : NodeRow
  displayName : String := ""
  locationLabel : String := ""
  siteLabel : String := ""
  commsState : String := commsStateUnknown
  pollFailures : Nat := 0
  lastPolledAt : String := ""
  lastPollError : String := ""
deriving DecidableEq, Repr

structure PollState where
  commsState : String
  pollFailures : Nat
  lastPolledAt : Time
  lastPollError : String := ""
deriving DecidableEq, Repr

/-- `NodeMetadataPatch`, an absent field for a nil pointer. -/
structure NodeMetadataPatch where
  displayName : Option String := none
  locationLabel : Option String := none
  siteLabel : Option String := none
deriving DecidableEq, Repr

/-! ## Statements -/

abbrev PolledRows := List PolledRow

/-- `UPDATE nodes SET .. WHERE id = ?`. -/
def updateRow (rows : PolledRows) (id : String) (set : PolledRow → PolledRow) : PolledRows :=
  rows.map fun row => if row.node.id = id then set row else row

/-- `UpsertDiscoveredNode`: of a row that is there, only the columns of discovery change. -/
def upsertDiscovered (node : DiscoveredNode) (rows : PolledRows) : PolledRows :=
  if node.id = "" then rows
  else if node.id ∈ rows.map (·.node.id) then
    updateRow rows node.id fun row => { row with node := row.node.rediscovered node }
  else rows ++ [{ node := node.row }]

/-- On the columns of discovery and adoption it is the statement of the registry. -/
theorem nodes_upsertDiscovered (node : DiscoveredNode) (rows : PolledRows) :
    (upsertDiscovered node rows).map (·.node) = (upsertDiscoveredNode node (rows.map (·.node))).2 := by
  have known : (find (rows.map (·.node)) node.id).isSome ↔ node.id ∈ rows.map (·.node.id) := by
    simp [find_isSome]
  unfold upsertDiscovered upsertDiscoveredNode
  by_cases blank : node.id = ""
  · simp [blank]
  · rw [if_neg blank, if_neg blank]
    by_cases present : node.id ∈ rows.map (·.node.id)
    · rw [if_pos present, if_pos (known.mpr present)]
      simp only [updateRow, update, List.map_map]
      apply List.map_congr_left
      intro row _
      simp only [Function.comp_apply]
      split <;> rfl
    · rw [if_neg present, if_neg (mt known.mp present)]
      simp

/-- `UpdateNodeMetadata`. -/
def updateNodeMetadata (id : String) (patch : NodeMetadataPatch) (rows : PolledRows) : PolledRows :=
  updateRow rows id fun row =>
    { row with
      displayName := (patch.displayName.map trimSpace).getD row.displayName
      locationLabel := (patch.locationLabel.map trimSpace).getD row.locationLabel
      siteLabel := (patch.siteLabel.map trimSpace).getD row.siteLabel }

/-- `SetNodeAdopted`. -/
def setAdopted (id : String) (adopted : Bool) (now : String) (rows : PolledRows) : PolledRows :=
  updateRow rows id fun row =>
    { row with node := { row.node with adopted, adoptedAt := if adopted then now else "" } }

/-- `SaveNodeTrust`. -/
def saveTrust (id : String) (trust : Trust) (rows : PolledRows) : PolledRows :=
  updateRow rows id fun row => { row with node := { row.node with trust } }

def formatOptionalTime (value : Time) : String := if value.isZero then "" else formatRFC3339 value

/-- The assignments of `UpdateNodePollState`. -/
def PolledRow.withPollState (row : PolledRow) (state : PollState) : PolledRow :=
  { row with
    commsState := if trimSpace state.commsState = "" then commsStateUnknown else trimSpace state.commsState
    pollFailures := state.pollFailures
    lastPolledAt := formatOptionalTime state.lastPolledAt
    lastPollError := trimSpace state.lastPollError }

/-- `ListAdoptedNodes`. -/
def adoptedNodes (rows : PolledRows) : PolledRows :=
  Aggregate.byName (·.node.id) (rows.filter (·.node.adopted))

/-! ## Operations -/

inductive PollOp where
  | listAdoptedNodes
  | loadNodeTrust (id : String)
  /-- `Vault.OpenString`, for the password of the node `id`. -/
  | openString (id sealedText : String)
  /-- `pollClient.Poll`, of the node `id`. -/
  | poll (id address username password : String)
  | updateNodePollState (id : String) (state : PollState)
  | recordUPSSnapshots (id : String) (now : Time) (snapshots : List UPSSnapshot)
  | pruneSamplesBefore (cutoff : Time)

@[reducible] def PollOp.Reply : PollOp → Type
  | .listAdoptedNodes => Except GoError PolledRows
  | .loadNodeTrust _ => Except GoError Trust
  | .openString _ _ => Except GoError String
  | .poll _ _ _ _ => Except GoError (List UPSSnapshot)
  | .updateNodePollState _ _ => Except GoError Unit
  | .recordUPSSnapshots _ _ _ => Except GoError Unit
  | .pruneSamplesBefore _ => Except GoError Unit

abbrev PollProgram := Program PollOp PollOp.Reply

def ask (op : PollOp) : PollProgram op.Reply := Program.perform op

/-! ## `PollOnce` -/

structure Poller where
  offlineThreshold : Int := 0
  retention : Int := 0

def defaultOfflineThreshold : Nat := 3

def Poller.threshold (p : Poller) : Nat :=
  if p.offlineThreshold ≤ 0 then defaultOfflineThreshold else p.offlineThreshold.toNat

/-- The state after `failures` failed polls in a row, of which there is at least one. -/
def failedState (threshold failures : Nat) : String :=
  if threshold ≤ failures then commsStateOffline else commsStateDegraded

def nextFailedPollState (node : PolledRow) (now : Time) (cause : GoError) (threshold : Nat) : PollState where
  commsState := failedState threshold (node.pollFailures + 1)
  pollFailures := node.pollFailures + 1
  lastPolledAt := now
  lastPollError := trimSpace cause.message

def healthyPollState (now : Time) : PollState where
  commsState := commsStateHealthy
  pollFailures := 0
  lastPolledAt := now

variable (threshold : Nat) (now : Time)

/-- One round of the loop; the errors of its statements are only logged. -/
def pollNode (node : PolledRow) : PollProgram Unit := do
  if trimSpace node.node.address = "" then return ()
  else
    match ← ask (.loadNodeTrust node.node.id) with
    | .error _ => return ()
    | .ok trust =>
      match ← ask (.openString node.node.id trust.nutPasswordEnc) with
      | .error cause =>
        let state := nextFailedPollState node now (.wrap "open NUT password" cause) threshold
        let _ ← ask (.updateNodePollState node.node.id state)
        return ()
      | .ok password =>
        match ← ask (.poll node.node.id node.node.address trust.nutUser password) with
        | .error cause =>
          let _ ← ask (.updateNodePollState node.node.id (nextFailedPollState node now cause threshold))
          return ()
        | .ok snapshots =>
          let _ ← ask (.updateNodePollState node.node.id (healthyPollState now))
          let _ ← ask (.recordUPSSnapshots node.node.id now snapshots)
          return ()

def pollNodes : PolledRows → PollProgram Unit
  | [] => return ()
  | node :: rest => do
    pollNode threshold now node
    pollNodes rest

def pollOnce (p : Poller) (now : Time) : PollProgram (Except GoError Unit) := do
  match ← ask .listAdoptedNodes with
  | .error cause => return .error cause
  | .ok nodes =>
    pollNodes p.threshold now nodes
    if 0 < p.retention then
      let _ ← ask (.pruneSamplesBefore (now.add (-p.retention)))
      return .ok ()
    else return .ok ()

/-! ## The effect of the operations -/

/-- What the vault and the client answer where they are asked. -/
structure PollChoice where
  password : Except GoError String := .ok ""
  snapshots : Except GoError (List UPSSnapshot) := .ok []

structure PollSite where
  rows : PolledRows := []
  /-- The polls that have ended, and whether they succeeded. -/
  polls : List (String × Bool) := []

def findPolled (rows : PolledRows) (id : String) : Option PolledRow := rows.find? (·.node.id = id)

def nodeNotFound : GoError := .text "node not found"

/-- A poll ends with the password that does not open, or with the answer of the client. -/
def performPoll : (op : PollOp) → PollChoice → PollSite → op.Reply × PollSite
  | .listAdoptedNodes, _, site => (.ok (adoptedNodes site.rows), site)
  | .loadNodeTrust id, _, site =>
    match findPolled site.rows id with
    | some row => (.ok row.node.trust, site)
    | none => (.error nodeNotFound, site)
  | .openString id _, choice, site =>
    match choice.password with
    | .ok password => (.ok password, site)
    | .error cause => (.error cause, { site with polls := site.polls ++ [(id, false)] })
  | .poll id _ _ _, choice, site =>
    match choice.snapshots with
    | .ok snapshots => (.ok snapshots, { site with polls := site.polls ++ [(id, true)] })
    | .error cause => (.error cause, { site with polls := site.polls ++ [(id, false)] })
  | .updateNodePollState id state, _, site =>
    if (findPolled site.rows id).isSome then
      (.ok (), { site with rows := updateRow site.rows id (·.withPollState state) })
    else (.error nodeNotFound, site)
  | .recordUPSSnapshots _ _ _, _, site => (.ok (), site)
  | .pruneSamplesBefore _, _, site => (.ok (), site)

end Strom.Nutpoll
