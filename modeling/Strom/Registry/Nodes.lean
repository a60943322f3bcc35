import Strom.Go.Errors

/-!
# The table of nodes (`registry.go`)

The rows of the table `nodes` with the columns that discovery, adoption and
forgetting read or write, and the effect of each statement on them.  `id` is the
primary key; an update reaches the rows with that key.  The database has one
connection, so a statement is one step.
-/

namespace Strom.Registry

open Strom.Go

/-- The columns that trusted calls to a node rest on. -/
structure Trust where
  controllerURL : String := ""
  tlsPort : Int := 0
  tlsFingerprint : String := ""
  nutUser : String := ""
  apiTokenEnc : String := ""
  nutPasswordEnc : String := ""
deriving DecidableEq, Repr

/-- A row with the columns' defaults. -/
structure NodeRow where
  id : String
  instance_ : String
  hostname : String
  address : String
  port : Int
  version : String
  upsCount : Int
  adopted : Bool := false
  adoptedAt : String := ""
  trust : Trust := {}
  lastSeen : String
deriving DecidableEq, Repr

/-- What a discovery reports about a node; the flag `Adopted` of `registry.Node` is
    not part of the statement that stores it. -/
structure DiscoveredNode where
  id : String
  instance_ : String
  hostname : String
  address : String
  port : Int
  version : String
  upsCount : Int
  lastSeen : String
deriving DecidableEq, Repr

abbrev Rows := List NodeRow

inductive RegistryError where
  | nodeNotFound
  | other (e : GoError)
deriving DecidableEq, Repr, Inhabited

/-- The row of a node, as `GetNode` finds it. -/
def find (rows : Rows) (id : String) : Option NodeRow := rows.find? fun row => row.id = id

/-- `UPDATE nodes SET .. WHERE id = ?`. -/
def update (rows : Rows) (id : String) (set : NodeRow → NodeRow) : Rows :=
  rows.map fun row => if row.id = id then set row else row

/-- An update or a delete that reaches no row reports the node as missing. -/
def affecting (rows : Rows) (id : String) (changed : Rows) : Except RegistryError Unit × Rows :=
  if (find rows id).isSome then (.ok (), changed) else (.error .nodeNotFound, rows)

/-- The assignments of `ON CONFLICT(id) DO UPDATE`: neither `adopted` nor the trust. -/
def NodeRow.rediscovered (row : NodeRow) (node : DiscoveredNode) : NodeRow :=
  { row with
    instance_ := node.instance_
    hostname := node.hostname
    address := node.address
    port := node.port
    version := node.version
    upsCount := node.upsCount
    lastSeen := node.lastSeen }

/-- The inserted row; no row has its id, so that `COALESCE` yields 0. -/
def DiscoveredNode.row (node : DiscoveredNode) : NodeRow where
  id := node.id
  instance_ := node.instance_
  hostname := node.hostname
  address := node.address
  port := node.port
  version := node.version
  upsCount := node.upsCount
  lastSeen := node.lastSeen

/-- `UpsertDiscoveredNode`. -/
def upsertDiscoveredNode (node : DiscoveredNode) (rows : Rows) : Except RegistryError Unit × Rows :=
  if node.id = "" then (.error (.other (.text "node id is required")), rows)
  else if (find rows node.id).isSome then
    (.ok (), update rows node.id fun row => row.rediscovered node)
  else (.ok (), rows ++ [node.row])

/-- `SetNodeAdopted` at the given time. -/
def setNodeAdopted (id : String) (adopted : Bool) (now : String) (rows : Rows) :
    Except RegistryError Unit × Rows :=
  affecting rows id <| update rows id fun row =>
    { row with adopted, adoptedAt := if adopted then now else "" }

/-- `SaveNodeTrust`. -/
def saveNodeTrust (id : String) (trust : Trust) (rows : Rows) : Except RegistryError Unit × Rows :=
  affecting rows id <| update rows id fun row => { row with trust }

/-- `DeleteNode`. -/
def deleteNode (id : String) (rows : Rows) : Except RegistryError Unit × Rows :=
  affecting rows id <| rows.filter fun row => row.id ≠ id

/-- `GetNode`. -/
def getNode (id : String) (rows : Rows) : Except RegistryError NodeRow :=
  match find rows id with
  | some row => .ok row
  | none => .error .nodeNotFound

/-! ## What a statement leaves of a row -/

variable {rows : Rows} {id : String} {row : NodeRow}

theorem find_isSome : (find rows id).isSome ↔ ∃ row ∈ rows, row.id = id := by
  simp [find]

theorem mem_update {set : NodeRow → NodeRow} : row ∈ update rows id set ↔
    row ∈ rows ∧ row.id ≠ id ∨ ∃ old ∈ rows, old.id = id ∧ row = set old := by
  simp only [update, List.mem_map]
  constructor
  · intro ⟨old, member, changed⟩
    by_cases same : old.id = id
    · exact .inr ⟨old, member, same, by simp [← changed, same]⟩
    · simp only [same, if_false] at changed
      subst changed
      exact .inl ⟨member, same⟩
  · rintro (⟨member, apart⟩ | ⟨old, member, same, rfl⟩)
    · exact ⟨row, member, by simp [apart]⟩
    · exact ⟨old, member, by simp [same]⟩

/-- Every row after `affecting` is one of the change or was there. -/
theorem mem_affecting {changed : Rows} (member : row ∈ (affecting rows id changed).2) :
    row ∈ changed ∨ (∀ other ∈ rows, other.id ≠ id) ∧ row ∈ rows := by
  unfold affecting at member
  split at member
  · exact .inl member
  · next missing =>
    rw [find_isSome] at missing
    simp only [not_exists, not_and] at missing
    exact .inr ⟨missing, member⟩

end Strom.Registry
