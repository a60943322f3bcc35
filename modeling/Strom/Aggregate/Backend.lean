import Strom.Aggregate.Protocol
import Strom.Naming.Slugs

/-!
# The backend of the aggregate server (`main.go`)

`aggregateNUTBackend` over what the registry holds of the adopted nodes: `List` shows each
UPS under an alias, and `resolve` finds the UPS of an alias again.  The nodes' own answers
to a trusted call are a table, and the calls are written down.
-/

namespace Strom.Aggregate

open Strom.Go Strom.Effects

/-- A UPS with its summary and the variables of its detail; `F` is the type of a Go
    `float64`. -/
structure RegisteredUPS (F : Type) where
  name : String
  status : String := ""
  batteryChargePercent : Option F := none
  loadPercent : Option F := none
  runtimeSeconds : Option Int := none
  detail : List (String × String) := []
deriving DecidableEq

structure RegisteredNode (F : Type) where
  id : String
  upses : List (RegisteredUPS F)
deriving DecidableEq

/-- The adopted nodes with their UPSes, in the order of the queries. -/
structure Contents (F : Type) where
  nodes : List (RegisteredNode F)
  distinctNodes : (nodes.map (·.id)).Nodup
  distinctUPSes : ∀ node ∈ nodes, (node.upses.map (·.name)).Nodup

/-- A UPS with the node that it belongs to. -/
structure Pair (F : Type) where
  nodeID : String
  ups : RegisteredUPS F
deriving DecidableEq

variable {F : Type}

def Contents.pairs (contents : Contents F) : List (Pair F) :=
  contents.nodes.flatMap fun node => node.upses.map fun ups => { nodeID := node.id, ups }

/-- What a pair is known by. -/
def Pair.key (pair : Pair F) : String × String := (pair.nodeID, pair.ups.name)

/-- The same text as for the MQTT topics. -/
def aggregateSlug (value : String) : String := Naming.slug value

def aggregateUPSAlias (nodeID upsName : String) : String := aggregateSlug nodeID ++ "__" ++ aggregateSlug upsName

def Pair.upsAlias (pair : Pair F) : String := aggregateUPSAlias pair.nodeID pair.ups.name

/-! ## `List` -/

/-- `variables[key] = value`. -/
def setVariable (vars : List (String × String)) (key value : String) : List (String × String) :=
  vars.filter (·.1 ≠ key) ++ [(key, value)]

/-- The same where the key is missing and there is a value. -/
def setMissing (vars : List (String × String)) (key : String) : Option String → List (String × String)
  | some value => if vars.lookup key = none then setVariable vars key value else vars
  | none => vars

variable (floatText : F → String)

def RegisteredUPS.exposed (ups : RegisteredUPS F) : List (String × String) :=
  let vars := ups.detail
  let vars := if trimSpace ((vars.lookup "ups.status").getD "") = "" then setVariable vars "ups.status" ups.status
    else vars
  let vars := setMissing vars "battery.charge" (ups.batteryChargePercent.map floatText)
  let vars := setMissing vars "ups.load" (ups.loadPercent.map floatText)
  setMissing vars "battery.runtime" (ups.runtimeSeconds.map toString)

def Pair.entry (pair : Pair F) : UPS where
  name := pair.upsAlias
  description := pair.ups.name ++ " on " ++ pair.nodeID
  vars := pair.ups.exposed floatText

/-- `List`; of two UPSes with one alias either may come first. -/
def Contents.list (contents : Contents F) : List UPS := byName (·.name) (contents.pairs.map (·.entry floatText))

/-! ## `resolve` and the trusted calls -/

def Contents.resolve (contents : Contents F) (name : String) : Option (Pair F) :=
  contents.pairs.find? fun pair => pair.upsAlias = name

/-- A trusted call to a node, about one of its UPSes. -/
inductive TrustedCall where
  | fetchDetail (nodeID upsName : String)
  | runCommand (nodeID upsName command : String)
deriving DecidableEq, Repr

structure BackendWorld (F : Type) where
  contents : Contents F
  /-- The commands of `fetchTrustedUPSDetail`. -/
  commands : String → String → Except BackendError (List Command) := fun _ _ => .ok []
  ran : String → String → String → Except BackendError Unit := fun _ _ _ => .ok ()
  calls : List TrustedCall := []

def BackendWorld.called (world : BackendWorld F) (call : TrustedCall) : BackendWorld F :=
  { world with calls := world.calls ++ [call] }

/-- The named commands, trimmed and sorted. -/
def offered (commands : List Command) : List Command :=
  byName (·.name) <| commands.filterMap fun command =>
    if trimSpace command.name = "" then none
    else some { name := trimSpace command.name, description := trimSpace command.description }

def aggregateNUTBackend : Handler BackendOp BackendOp.Reply (BackendWorld F)
  | .list, world => (.ok (world.contents.list floatText), world)
  | .listCommands name, world =>
    match world.contents.resolve name with
    | none => (.error .unknownUPS, world)
    | some target => ((world.commands target.nodeID target.ups.name).map offered,
        world.called (.fetchDetail target.nodeID target.ups.name))
  | .runCommand name command, world =>
    match world.contents.resolve name with
    | none => (.error .unknownUPS, world)
    | some target => (world.ran target.nodeID target.ups.name command,
        world.called (.runCommand target.nodeID target.ups.name command))

end Strom.Aggregate
