import Strom.Agent.Adopt
import Strom.Effects.Run

/-!
# The advertised adoption (`discovery.go`, the agent's `main.go`)

The mDNS advertiser holds its own copy of whether the node is adopted.  It is built
anew at every start of the agent and told of an adoption by `ApplyAdoption`; what
is recorded in `adoption.json` outlives the process.

A `Host` is the node's disk, and the process that runs on it or none.
-/

namespace Strom.Agent

open Strom.Go Strom.Effects Strom.Nutconf Strom.Adoption

/-! ## The advertiser (`discovery.go`) -/

structure Metadata where
  serial : String
  instanceName : String
  version : String
  adopted : Bool := false
  port : Nat
deriving DecidableEq, Repr

/-- What is registered with mDNS. -/
structure Announcement where
  instanceName : String
  service : String
  domain : String
  port : Nat
  text : List String
deriving DecidableEq, Repr

structure Advertiser where
  metadata : Metadata
  server : Option Announcement := none
  upsCount : Nat := 0
  started : Bool := false
deriving DecidableEq, Repr

def txtRecords (metadata : Metadata) (upsCount : Nat) : List String :=
  let version := if metadata.version = "" then "dev" else metadata.version
  ["id=" ++ metadata.serial,
    "adopted=" ++ toString metadata.adopted,
    "ups_count=" ++ toString upsCount,
    "version=" ++ version]

def newAdvertiser (metadata : Metadata) : Advertiser where
  metadata := { metadata with port := if metadata.port = 0 then 80 else metadata.port }

namespace Advertiser

/-- The records of what the advertiser knows. -/
def records (adv : Advertiser) : List String := txtRecords adv.metadata adv.upsCount

/-- `Start`; `failed` is whether the registration fails. -/
def start (adv : Advertiser) (failed : Bool) : Advertiser :=
  if adv.started || failed then adv
  else
    { adv with
      server := some
        { instanceName := adv.metadata.instanceName
          service := "_strom._tcp"
          domain := "local."
          port := adv.metadata.port
          text := adv.records }
      started := true }

/-- The part of an update that tells the server. -/
def setText (adv : Advertiser) : Advertiser :=
  if adv.started then
    { adv with server := adv.server.map fun server => { server with text := adv.records } }
  else adv

def updateUPSCount (adv : Advertiser) (count : Nat) : Advertiser :=
  if count = adv.upsCount then adv
  else setText { adv with upsCount := count }

def updateAdopted (adv : Advertiser) (adopted : Bool) : Advertiser :=
  if adv.metadata.adopted = adopted then adv
  else setText { adv with metadata := { adv.metadata with adopted } }

/-- What is announced is what the advertiser knows. -/
def Current (adv : Advertiser) : Prop := ∀ server ∈ adv.server, server.text = adv.records

variable {adv : Advertiser}

theorem current_new (metadata : Metadata) : (newAdvertiser metadata).Current := by
  simp [Current, newAdvertiser]

@[simp] theorem start_metadata (failed : Bool) : (adv.start failed).metadata = adv.metadata := by
  unfold start
  split <;> rfl

theorem current_start (current : adv.Current) (failed : Bool) : (adv.start failed).Current := by
  unfold start
  split
  · exact current
  · simp [Current, records]

@[simp] theorem setText_metadata : adv.setText.metadata = adv.metadata := by
  unfold setText
  split <;> rfl

theorem current_setText (unannounced : adv.started = false → adv.server = none) :
    adv.setText.Current := by
  intro server member
  unfold setText at member ⊢
  by_cases started : adv.started = true
  · simp only [started, if_true] at member ⊢
    cases server' : adv.server with
    | none => simp [server'] at member
    | some old =>
      simp only [server', Option.map_some, Option.mem_def, Option.some.injEq] at member
      rw [← member]
      rfl
  · simp only [started, Bool.false_eq_true, if_false] at member ⊢
    rw [unannounced (by simpa using started)] at member
    cases member

/-- The registration and the announcement come together. -/
structure Sound (adv : Advertiser) : Prop where
  current : adv.Current
  announced : adv.started = adv.server.isSome

theorem sound_new (metadata : Metadata) : (newAdvertiser metadata).Sound :=
  ⟨current_new metadata, rfl⟩

theorem sound_start (sound : adv.Sound) (failed : Bool) : (adv.start failed).Sound := by
  refine ⟨current_start sound.current failed, ?_⟩
  unfold start
  split
  · exact sound.announced
  · rfl

theorem sound_setText (announced : adv.started = adv.server.isSome) : adv.setText.Sound := by
  constructor
  · apply current_setText
    intro unstarted
    simpa [unstarted] using announced.symm
  · unfold setText
    split <;> simp [announced]

theorem sound_updateUPSCount (sound : adv.Sound) (count : Nat) : (adv.updateUPSCount count).Sound := by
  unfold updateUPSCount
  split
  · exact sound
  · exact sound_setText sound.announced

theorem sound_updateAdopted (sound : adv.Sound) (adopted : Bool) :
    (adv.updateAdopted adopted).Sound := by
  unfold updateAdopted
  split
  · exact sound
  · exact sound_setText sound.announced

@[simp] theorem updateUPSCount_metadata (count : Nat) :
    (adv.updateUPSCount count).metadata = adv.metadata := by
  unfold updateUPSCount
  split <;> simp

@[simp] theorem updateAdopted_adopted (adopted : Bool) :
    (adv.updateAdopted adopted).metadata.adopted = adopted := by
  unfold updateAdopted
  split
  · assumption
  · simp

end Advertiser

theorem adopted_mem_txtRecords {metadata : Metadata} {upsCount : Nat} :
    "adopted=true" ∈ txtRecords metadata upsCount ↔ metadata.adopted = true := by
  -- the other records begin with other letters
  have apart : ∀ (key value : String), key.toList.head? ≠ some 'a' → key.toList ≠ [] →
      "adopted=true" ≠ key ++ value := by
    intro key value other some_ same
    have letters := congrArg (fun text => text.toList.head?) same
    obtain ⟨letter, rest, spelled⟩ := List.exists_cons_of_ne_nil some_
    simp only [String.toList_append, spelled, List.cons_append, List.head?_cons] at letters other
    exact other (letters.symm.trans (by decide))
  simp only [txtRecords, List.mem_cons, List.not_mem_nil, or_false]
  constructor
  · rintro (same | same | same | same)
    · exact (apart _ _ (by decide) (by decide) same).elim
    · cases adopted : metadata.adopted
      · rw [adopted] at same
        exact absurd same (by decide)
      · rfl
    · exact (apart _ _ (by decide) (by decide) same).elim
    · exact (apart _ _ (by decide) (by decide) same).elim
  · intro adopted
    rw [adopted]
    exact .inr (.inl (by decide))

/-! ## Resets -/

/-- The files that a reset removes. -/
inductive StatePath where
  | agent (file : AgentFile)
  | upsMetadata
  | webAuth
deriving DecidableEq, Repr

def resetPaths : List StatePath := [.agent .adoption, .agent .certificate, .agent .key]

/-- `factoryResetStatePaths`, with a path for the web auth file. -/
def factoryResetStatePaths : List StatePath :=
  [.agent .adoption, .agent .certificate, .agent .key, .agent .names, .upsMetadata, .webAuth]

def Node.remove (node : Node) : StatePath → Node
  | .agent file => { node with files := Function.update node.files file none }
  | _ => node

/-- `resetNodeState`; the second is whether every path could be removed. -/
def resetNodeState (faults : StatePath → Option Fault) : List StatePath → Node → Node × Bool
  | [], node => (node, true)
  | path :: rest, node =>
    match faults path with
    | none => resetNodeState faults rest (node.remove path)
    | some fault => (if fault.applied then node.remove path else node, false)

theorem files_remove (node : Node) (path : StatePath) (file : AgentFile) :
    (node.remove path).files file = none ∨ (node.remove path).files file = node.files file := by
  cases path with
  | agent file' =>
    by_cases same : file = file'
    · simp [Node.remove, same]
    · simp [Node.remove, Function.update_of_ne same]
  | _ => exact .inr rfl

/-- A reset removes a file or leaves it as it is. -/
theorem files_resetNodeState (faults : StatePath → Option Fault) (paths : List StatePath)
    (node : Node) (file : AgentFile) :
    (resetNodeState faults paths node).1.files file = none ∨
      (resetNodeState faults paths node).1.files file = node.files file := by
  induction paths generalizing node with
  | nil => exact .inr rfl
  | cons path rest ih =>
    unfold resetNodeState
    cases faults path with
    | none =>
      obtain gone | kept := ih (node.remove path)
      · exact .inl gone
      · simp only [kept]
        exact files_remove node path file
    | some fault =>
      cases applied : fault.applied
      · simp [applied]
      · simpa [applied] using files_remove node path file

/-- What a start of the agent makes of the disk, or `none` where it fails on the factory reset.
    `marker` is what looking for the marker file gives. -/
def startup (marker : Except GoError Bool) (faults : StatePath → Option Fault) (node : Node) :
    Node × Bool :=
  match marker with
  | .error _ => (node, false)
  | .ok true => resetNodeState faults factoryResetStatePaths node
  | .ok false => (node, true)

/-! ## Processes -/

/-- What the threads of the agent share. -/
structure Site where
  node : Node
  advertiser : Advertiser
  /-- `main` has given the adopter its advertiser, inventory and reloader.  Requests are
      served before that. -/
  wired : Bool := false

/-- What the adopter does without its advertiser, inventory and reloader is nothing. -/
def AgentOp.needsWiring : AgentOp → Bool
  | .loadState _ | .systemctl _ _ | .updateNUTCredentials _ | .updateAdopted _ => true
  | _ => false

/-- The reply where there is nobody to ask. -/
def AgentOp.skipped : (op : AgentOp) → op.Reply
  | .loadState _ => .ok ""
  | .systemctl _ _ => .ok ()
  | .updateNUTCredentials _ | .updateAdopted _ => ()
  | _ => default

def Advertiser.hear (adv : Advertiser) : AgentOp → Advertiser
  | .updateAdopted adopted => adv.updateAdopted adopted
  | _ => adv

def Site.perform (op : AgentOp) (chance : Chance) (site : Site) : op.Reply × Site :=
  if op.needsWiring && !site.wired then (op.skipped, site)
  else ((Agent.perform op chance site.node).1,
    { site with
      node := (Agent.perform op chance site.node).2
      advertiser := site.advertiser.hear op })

/-- Whether `adoption.json` holds an adoption state. -/
def Node.storesAdoption (node : Node) : Bool :=
  match node.files .adoption with
  | some (.adoption _) => true
  | _ => false

theorem Node.storesAdoption_iff {node : Node} :
    node.storesAdoption = true ↔ ∃ state, node.files .adoption = some (.adoption state) := by
  unfold storesAdoption
  cases holds : node.files .adoption with
  | none => simp
  | some content => cases content <;> simp

abbrev SitePool := Pool Site (Thread Task AgentOp AgentOp.Reply)

inductive Host where
  | down (node : Node)
  | up (pool : SitePool)

inductive HostStep where
  /-- The agent is started. -/
  | boot (marker : Except GoError Bool) (faults : StatePath → Option Fault)
    (instanceName : String) (port : Nat)
  /-- `strom-agent reset`. -/
  | reset (faults : StatePath → Option Fault)
  | wire
  /-- The service is registered with mDNS, which is tried until it succeeds. -/
  | register (failed : Bool)
  /-- A request arrives, or an iteration of the main loop begins. -/
  | launch (task : Task)
  | turn (turn : Turn Chance)
  | countUPS (count : Nat)
  /-- The process ends, whatever it is doing. -/
  | stop

variable (a : RuntimeAdopter)

def siteRuntime : Runtime Task AgentOp AgentOp.Reply Chance Site where
  code := Task.code a
  perform := fun op chance site => some (site.perform op chance)
  starts := fun _ => []

/-- A process that has just been started. -/
def newSite (node : Node) (instanceName : String) (port : Nat) : Site where
  node
  advertiser := newAdvertiser { serial := a.serial, instanceName, version := a.version, port }

def Host.step : Host → HostStep → Option Host
  | .down node, .boot marker faults instanceName port =>
    match startup marker faults node with
    | (node, true) => some (.up { state := newSite a node instanceName port, threads := [] })
    | (node, false) => some (.down node)
  | .down node, .reset faults => some (.down (resetNodeState faults resetPaths node).1)
  | .up pool, .reset faults =>
    some (.up { pool with state :=
      { pool.state with node := (resetNodeState faults resetPaths pool.state.node).1 } })
  | .up pool, .wire => some (.up { pool with state := { pool.state with wired := true } })
  | .up pool, .register failed =>
    -- the retries are begun after the wiring
    if pool.state.wired then
      some (.up { pool with state :=
        { pool.state with advertiser := pool.state.advertiser.start failed } })
    else none
  | .up pool, .launch task =>
    -- so is the main loop
    if task = .event && !pool.state.wired then none
    else some (.up { pool with threads := pool.threads ++ [(siteRuntime a).launch task] })
  | .up pool, .turn turn => ((siteRuntime a).step pool turn).map .up
  | .up pool, .countUPS count =>
    some (.up { pool with state :=
      { pool.state with advertiser := pool.state.advertiser.updateUPSCount count } })
  | .up pool, .stop => some (.down pool.state.node)
  | _, _ => none

/-! ## Adoptions in progress -/

def Task.isAdopt : Task → Bool
  | .adopt _ => true
  | .event => false

/-- The threads include a request that has not been answered. -/
def adopting (threads : List (Thread Task AgentOp AgentOp.Reply)) : Bool :=
  threads.any fun thread => thread.task.isAdopt && thread.op?.isSome

end Strom.Agent
