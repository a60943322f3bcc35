import Mathlib.Logic.Function.Basic
import Strom.Effects.Triples
import Strom.Mqtt.Messages

/-!
# The MQTT publisher (`publisher.go`)

`PublishSnapshots` over the operations it issues: the client's calls, which may fail, the
publisher's own fields, which it reads and writes under its lock, and two clocks, that of
the publisher (`p.now`) and `time.Now`, which `StateMessage` reads.  A site holds the
fields, the clocks and what the broker was sent.
-/

namespace Strom.Mqtt

open Strom.Go Strom.Effects

structure RuntimeConfig where
  discoveryPrefix : String := ""
  statePrefix : String := ""
  heartbeat : Int := 0

/-- The configuration that a publisher keeps. -/
structure PublisherConfig where
  messages : Config
  heartbeat : Int

def defaultHeartbeat : Int := 300 * second

def heartbeatOrDefault (value : Int) : Int := if value ≤ 0 then defaultHeartbeat else value

/-- The defaults that `NewPublisher` fills in. -/
def newPublisher (cfg : RuntimeConfig) : PublisherConfig where
  messages := {
    discoveryPrefix := defaultString (trimSpace cfg.discoveryPrefix) defaultDiscoveryPrefix
    statePrefix := defaultString (trimSpace cfg.statePrefix) defaultStatePrefix }
  heartbeat := heartbeatOrDefault cfg.heartbeat

structure NodeSnapshot (F : Type) where
  node : NodeInfo
  upses : List (UPSInfo F)

structure PublishedState where
  payload : String
  time : Time
deriving DecidableEq, Repr

structure CommandRoute where
  nodeID : String
  upsName : String
  /-- The entries of the map, in the order in which they were set. -/
  commands : List (String × String)
deriving DecidableEq, Repr

structure CommandRequest where
  nodeID : String
  upsName : String
  command : String
deriving DecidableEq, Repr

abbrev Routes := String → Option CommandRoute

/-! ## Routes -/

variable {F : Type}

def routeOf (nodeID : String) (ups : UPSInfo F) : CommandRoute where
  nodeID := nodeID
  upsName := trimSpace ups.name
  commands := (ups.commands.map fun command => trimSpace command.name).filterMap fun name =>
    if name = "" then none else some (toLower name, name)

def addRoutes (statePrefix nodeID : String) (upses : List (UPSInfo F)) (routes : Routes) : Routes :=
  upses.foldl (fun routes ups =>
    if trimSpace ups.name = "" then routes
    else Function.update routes (commandTopic statePrefix nodeID (trimSpace ups.name))
      (some (routeOf nodeID ups))) routes

/-- The map that `updateRoutes` makes. -/
def routesOf (statePrefix : String) (snapshots : List (NodeSnapshot F)) : Routes :=
  snapshots.foldl (fun routes snapshot =>
    if trimSpace snapshot.node.id = "" then routes
    else addRoutes statePrefix (trimSpace snapshot.node.id) snapshot.upses routes) fun _ => none

/-- `lookupRoute`. -/
def lookupRoute (routes : Routes) (topic command : String) : Option (CommandRoute × String) := do
  let route ← routes topic
  if route.commands = [] then return (route, command)
  else
    let entry ← route.commands.reverse.find? fun entry => entry.1 = toLower (trimSpace command)
    return (route, entry.2)

/-- What the receiver of a publication passes to the command handler. -/
def receive (cfg : PublisherConfig) (routes : Routes) (topic payload : String) : Option CommandRequest :=
  if !hasPrefix (trimSpace topic) (cfg.messages.statePrefix ++ "/nodes/") ||
      !hasSuffix (trimSpace topic) "/command" then none
  else if trimSpace payload = "" then none
  else (lookupRoute routes (trimSpace topic) (trimSpace payload)).map fun target =>
    { nodeID := target.1.nodeID, upsName := target.1.upsName, command := target.2 }

/-! ## Operations -/

inductive PublisherOp where
  | awaitConnection
  | isSubscribed
  | subscribe (topic : String)
  | setSubscribed
  | setRoutes (routes : Routes)
  /-- The publisher's clock. -/
  | now
  /-- `time.Now`. -/
  | timeNow
  | isDiscovered (topic : String)
  | cached (topic : String)
  | clientPublish (message : PublishMessage)
  | remember (message : PublishMessage) (time : Time) (discovery : Bool)

@[reducible] def PublisherOp.Reply : PublisherOp → Type
  | .awaitConnection => Except GoError Unit
  | .isSubscribed => Bool
  | .subscribe _ => Except GoError Unit
  | .setSubscribed => Unit
  | .setRoutes _ => Unit
  | .now => Time
  | .timeNow => Time
  | .isDiscovered _ => Bool
  | .cached _ => Option PublishedState
  | .clientPublish _ => Except GoError Unit
  | .remember _ _ _ => Unit

abbrev PublisherProgram := Program PublisherOp PublisherOp.Reply

abbrev PublisherAction := Action PublisherOp PublisherOp.Reply GoError

def ask (op : PublisherOp) : PublisherProgram op.Reply := Program.perform op

def call {α : Type} (op : PublisherOp) (same : op.Reply = Except GoError α) : PublisherAction α :=
  Action.ofProgram (same ▸ ask op)

/-! ## Publishing -/

/-- The same payload was published on the topic, and not a heartbeat ago. -/
def unchanged (heartbeat : Int) (message : PublishMessage) (now : Time) : Option PublishedState → Bool
  | some previous => previous.payload = message.payload && now.sub previous.time < heartbeat
  | none => false

variable (cfg : PublisherConfig)

/-- A discovery message was published before. -/
def wasDiscovered (message : PublishMessage) (discovery : Bool) : PublisherProgram Bool :=
  if discovery then ask (.isDiscovered message.topic) else return false

/-- `p.publish`. -/
def publish (message : PublishMessage) (discovery : Bool) : PublisherAction Unit := do
  let now ← Action.always (ask .now)
  if ← Action.always (wasDiscovered message discovery) then return ()
  else
    let previous ← Action.always (ask (.cached message.topic))
    if unchanged cfg.heartbeat message now previous then return ()
    else
      call (.clientPublish message) rfl
      Action.always (ask (.remember message now discovery))

def publishAll (discovery : Bool) : List PublishMessage → PublisherAction Unit
  | [] => return ()
  | message :: rest => do
    publish cfg message discovery
    publishAll discovery rest

variable (floatText : FloatText F)

/-- The messages of one UPS. -/
def publishUPS (node : NodeInfo) (ups : UPSInfo F) : PublisherAction Unit := do
  let messages ← Action.ofExcept (discoveryMessages cfg.messages node ups)
  publishAll cfg true messages
  let now ← Action.always (ask .timeNow)
  let state ← Action.ofExcept (stateMessage cfg.messages node floatText ups now)
  publish cfg state false

def publishUPSes (node : NodeInfo) : List (UPSInfo F) → PublisherAction Unit
  | [] => return ()
  | ups :: rest => do
    publishUPS cfg floatText node ups
    publishUPSes node rest

def publishNodes : List (NodeSnapshot F) → PublisherAction Unit
  | [] => return ()
  | snapshot :: rest => do
    let availability ← Action.ofExcept (availabilityMessage cfg.messages snapshot.node)
    publish cfg availability false
    publishUPSes cfg floatText snapshot.node snapshot.upses
    publishNodes rest

def commandSubscriptionTopic : String := cfg.messages.statePrefix ++ "/nodes/+/ups/+/command"

def ensureCommandSubscription : PublisherAction Unit := do
  if ← Action.always (ask .isSubscribed) then return ()
  else
    call (.subscribe (commandSubscriptionTopic cfg)) rfl
    Action.always (ask .setSubscribed)

def controllerMessage : PublishMessage where
  topic := cfg.messages.statePrefix ++ "/controller/availability"
  payload := "online"

/-- `PublishSnapshots`. -/
def publishSnapshots (snapshots : List (NodeSnapshot F)) : PublisherAction Unit := do
  call .awaitConnection rfl
  ensureCommandSubscription cfg
  Action.always (ask (.setRoutes (routesOf cfg.messages.statePrefix snapshots)))
  publish cfg (controllerMessage cfg) false
  publishNodes cfg floatText snapshots

/-! ## The effect of the operations -/

structure Site where
  published : String → Option PublishedState := fun _ => none
  discovery : List String := []
  routes : Routes := fun _ => none
  subscribed : Bool := false
  /-- The readings of the publisher's clock, and of `time.Now`. -/
  clock : Nat → Time
  wall : Nat → Time
  clockReadings : Nat := 0
  wallReadings : Nat := 0
  /-- The publications that the client has reported as done. -/
  sent : List PublishMessage := []

/-- An operation fails where its choice is an error. -/
abbrev Choice := Option GoError

/-- A client's call, which has its effect where it reports no error. -/
def Site.attempt (site : Site) (choice : Choice) (done : Site) : Except GoError Unit × Site :=
  match choice with
  | none => (.ok (), done)
  | some cause => (.error cause, site)

def Site.remember (site : Site) (message : PublishMessage) (time : Time) (discovery : Bool) : Site :=
  { site with
    published := Function.update site.published message.topic
      (some { payload := message.payload, time })
    discovery := if discovery then message.topic :: site.discovery else site.discovery }

def perform : (op : PublisherOp) → Choice → Site → op.Reply × Site
  | .awaitConnection, choice, site => site.attempt choice site
  | .isSubscribed, _, site => (site.subscribed, site)
  | .subscribe _, choice, site => site.attempt choice site
  | .setSubscribed, _, site => ((), { site with subscribed := true })
  | .setRoutes routes, _, site => ((), { site with routes })
  | .now, _, site => (site.clock site.clockReadings, { site with clockReadings := site.clockReadings + 1 })
  | .timeNow, _, site => (site.wall site.wallReadings, { site with wallReadings := site.wallReadings + 1 })
  | .isDiscovered topic, _, site => (site.discovery.contains topic, site)
  | .cached topic, _, site => (site.published topic, site)
  | .clientPublish message, choice, site =>
    site.attempt choice { site with sent := site.sent ++ [message] }
  | .remember message time discovery, _, site => ((), site.remember message time discovery)

end Strom.Mqtt
