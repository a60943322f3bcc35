import Mathlib.Logic.Function.Basic
import Strom.Adoption.Messages
import Strom.Effects.Action
import Strom.Nutconf.Render

/-!
# The agent's files and services

The files that the agent keeps between starts, the system calls and service commands
it issues, and their effect.  A file is replaced by a rename, in one step, or written
in place by `os.WriteFile`, which opens it (and empties it) before it writes.

The node also keeps count of what has to be reloaded: `serverStale` and
`staleDrivers` are set when a generated file is replaced and cleared when the service
has been restarted.
-/

namespace Strom.Agent

open Strom.Go Strom.Effects Strom.Nutconf Strom.Adoption

inductive AgentFile where
  /-- `agent.yaml`. -/
  | agentConfig
  /-- `names.json`. -/
  | names
  | upsConf
  | nutConf
  | upsdConf
  | upsdUsers
  /-- `adoption.json`. -/
  | adoption
  | certificate
  | key
deriving DecidableEq, Repr

/-- `adoptionState`. -/
structure AdoptionState where
  caPEM : String
  nutUser : String
  nutPassword : String
  tokenSHA256 : String
  controllerURL : String
  tlsPort : Int
  tlsFingerprint : String
  adoptedAt : Int
deriving DecidableEq, Repr

/-- What a file holds.  Key pairs are numbered in the order of their generation. -/
inductive Content where
  /-- A text that is none of the following; an empty file is `text []`. -/
  | text (bytes : Bytes)
  /-- A rendered `ups.conf` and the names of the devices it was rendered for. -/
  | upsConf (bytes : Bytes) (names : List Bytes)
  /-- The JSON text of a name map. -/
  | nameMap (map : NameMap)
  /-- The JSON text of an adoption state. -/
  | adoption (state : AdoptionState)
  /-- A YAML text with the user under `nut`. -/
  | agentConfig (user : UPSDUser)
  /-- The PEM text of the certificate of a pair. -/
  | certificate (pair : Nat)
  /-- The PEM text of the private key of a pair. -/
  | key (pair : Nat)
deriving DecidableEq

def Content.empty : Content := .text []

/-- The bytes of a text that is told apart by its bytes only. -/
def Content.bytes? : Content → Option Bytes
  | .text bytes => some bytes
  | .upsConf bytes _ => some bytes
  | _ => none

/-- Whether two contents are the same bytes, so that their hashes agree. -/
def Content.same (c c' : Content) : Bool :=
  match c.bytes?, c'.bytes? with
  | some bytes, some bytes' => bytes = bytes'
  | _, _ => c = c'

/-- The units of the NUT services. -/
inductive NUTUnit where
  | enumerator
  | driver (name : Bytes)
  | server
deriving DecidableEq, Repr

def NUTUnit.text : NUTUnit → String
  | .enumerator => "nut-driver-enumerator.service"
  | .driver name => "nut-driver@" ++ textOf name ++ ".service"
  | .server => "nut-server.service"

inductive SystemctlAction where
  | restart
  | reloadOrRestart
deriving DecidableEq, Repr

def SystemctlAction.text : SystemctlAction → String
  | .restart => "restart"
  | .reloadOrRestart => "reload-or-restart"

/-- What an adopt request is answered with: the response, or a status and a message. -/
abbrev AdoptAnswer := Except (Nat × String) AdoptResponse

inductive AgentOp where
  | stat (file : AgentFile)
  | readFile (file : AgentFile)
  /-- `os.MkdirAll` of the file's directory. -/
  | mkdirAll (file : AgentFile)
  /-- `os.WriteFile` opens the file. -/
  | truncate (file : AgentFile)
  /-- `os.WriteFile` writes the file it has opened. -/
  | write (file : AgentFile) (content : Content)
  /-- `WriteIfChanged` makes a temporary file of its own, with the content, beside the file. -/
  | stageTemp (file : AgentFile) (content : Content)
  /-- `os.Rename` of that temporary file. -/
  | rename (file : AgentFile) (content : Content)
  | chmod (file : AgentFile)
  /-- Generate a private key and a certificate for it. -/
  | generateCertificate
  | now
  | scan
  /-- `systemctl show --property LoadState`. -/
  | loadState (unit : NUTUnit)
  | systemctl (action : SystemctlAction) (unit : NUTUnit)
  | updateNUTCredentials (user : UPSDUser)
  | updateAdopted (adopted : Bool)
  /-- The main loop logs how the event was handled. -/
  | log (failed : Option GoError)
  /-- The adopt handler writes its answer. -/
  | respond (request : AdoptRequest) (answer : AdoptAnswer)

@[reducible] def AgentOp.Reply : AgentOp → Type
  | .stat _ => Except GoError Unit
  | .readFile _ => Except GoError Content
  | .mkdirAll _ => Except GoError Unit
  | .truncate _ => Except GoError Unit
  | .write _ _ => Except GoError Unit
  | .stageTemp _ _ => Except GoError Unit
  | .rename _ _ => Except GoError Unit
  | .chmod _ => Except GoError Unit
  | .generateCertificate => Except GoError Nat
  | .now => Int
  | .scan => Except GoError (List DetectedUPS)
  | .loadState _ => Except GoError String
  | .systemctl _ _ => Except GoError Unit
  | .updateNUTCredentials _ => Unit
  | .updateAdopted _ => Unit
  | .log _ => Unit
  | .respond _ _ => Unit

instance (op : AgentOp) : Inhabited op.Reply := by
  cases op <;> exact ⟨default⟩

abbrev AgentProgram := Program AgentOp AgentOp.Reply

abbrev AgentAction := Action AgentOp AgentOp.Reply GoError

/-! ## Their effect -/

structure Node where
  files : AgentFile → Option Content := fun _ => none
  /-- How many key pairs have been generated. -/
  generated : Nat := 0
  /-- The credentials the inventory holds. -/
  credentials : Option UPSDUser := none
  /-- Whether the advertiser says that the node is adopted. -/
  advertised : Bool := false
  /-- A generated file was replaced and `nut-server` not restarted since. -/
  serverStale : Bool := false
  /-- The devices of `ups.conf` whose drivers were not restarted since it was replaced. -/
  staleDrivers : List Bytes := []
  /-- How the events so far were handled. -/
  logged : List (Option GoError) := []
  answers : List (AdoptRequest × AdoptAnswer) := []

/-- What goes wrong with a call: the system's reason, and whether the call had taken
    effect when it failed. -/
structure Fault where
  reason : String
  applied : Bool := false

def Fault.error (fault : Fault) : GoError := .os (.other fault.reason)

/-- What the surroundings decide about an operation. -/
structure Chance where
  fault : Option Fault := none
  /-- The devices that are plugged in. -/
  devices : List DetectedUPS := []
  /-- The load state that `systemctl show` prints. -/
  loadState : String := ""
  time : Int := 0
  /-- A write over another one that is longer leaves its end behind. -/
  leavesEnd : Bool := false

/-- A call that may fail, before or after it took effect. -/
def Chance.call {α : Type} (chance : Chance) (node : Node) (outcome : Except GoError α × Node) :
    Except GoError α × Node :=
  match chance.fault with
  | none => outcome
  | some fault => (.error fault.error, if fault.applied then outcome.2 else node)

/-- A call that has no effect where it fails. -/
def Chance.atomic {α : Type} (chance : Chance) (node : Node) (outcome : Except GoError α × Node) :
    Except GoError α × Node :=
  match chance.fault with
  | none => outcome
  | some fault => (.error fault.error, node)

def Node.put (node : Node) (file : AgentFile) (content : Content) : Node :=
  { node with files := Function.update node.files file (some content) }

/-- The files that the NUT services read. -/
def AgentFile.isNUTFile : AgentFile → Bool
  | .upsConf | .nutConf | .upsdConf | .upsdUsers => true
  | _ => false

/-- The devices of a rendered `ups.conf`. -/
def Content.sectionNames : Content → List Bytes
  | .upsConf _ names => names
  | _ => []

/-- A file is replaced, which makes the services that read it stale. -/
def Node.replace (node : Node) (file : AgentFile) (content : Content) : Node :=
  { node.put file content with
    serverStale := node.serverStale || file.isNUTFile
    staleDrivers := if file = .upsConf then content.sectionNames else node.staleDrivers }

/-- A unit has been restarted. -/
def Node.restarted (node : Node) : SystemctlAction → NUTUnit → Node
  | .restart, .enumerator => { node with staleDrivers := [] }
  | .restart, .driver name => { node with staleDrivers := node.staleDrivers.filter (· ≠ name) }
  | _, .server => { node with serverStale := false }
  | _, _ => node

/-- What a file holds after a write in place. -/
def Chance.written (chance : Chance) (old : Option Content) (content : Content) : Content :=
  if old = some .empty then content
  else if chance.leavesEnd then .text (utf8 "\x7d\x7d")
  else content

def perform : (op : AgentOp) → Chance → Node → op.Reply × Node
  | .stat file, chance, node =>
    chance.call node (if (node.files file).isSome then .ok () else .error (.os .notExist), node)
  | .readFile file, chance, node =>
    chance.call node
      (match node.files file with
        | some content => .ok content
        | none => .error (.os .notExist), node)
  | .mkdirAll _, chance, node => chance.call node (.ok (), node)
  | .truncate file, chance, node => chance.call node (.ok (), node.put file .empty)
  | .write file content, chance, node =>
    chance.call node (.ok (), node.put file (chance.written (node.files file) content))
  | .stageTemp _ _, chance, node => chance.call node (.ok (), node)
  | .rename file content, chance, node => chance.atomic node (.ok (), node.replace file content)
  | .chmod _, chance, node => chance.call node (.ok (), node)
  | .generateCertificate, chance, node =>
    chance.call node (.ok node.generated, { node with generated := node.generated + 1 })
  | .now, chance, node => (chance.time, node)
  | .scan, chance, node => chance.call node (.ok chance.devices, node)
  | .loadState _, chance, node => chance.call node (.ok chance.loadState, node)
  | .systemctl action unit, chance, node =>
    -- a command that reports an error counts as no restart
    chance.atomic node (.ok (), node.restarted action unit)
  | .updateNUTCredentials user, _, node => ((), { node with credentials := some user })
  | .updateAdopted adopted, _, node => ((), { node with advertised := adopted })
  | .log failed, _, node => ((), { node with logged := node.logged ++ [failed] })
  | .respond request answer, _, node => ((), { node with answers := node.answers ++ [(request, answer)] })

section Performs

variable (file : AgentFile) (content : Content) (unit : NUTUnit) (chance : Chance) (node : Node)

@[simp] theorem perform_stat : perform (.stat file) chance node = chance.call node
    (if (node.files file).isSome then .ok () else .error (.os .notExist), node) := rfl

@[simp] theorem perform_readFile : perform (.readFile file) chance node = chance.call node
    (match node.files file with
      | some content => .ok content
      | none => .error (.os .notExist), node) := rfl

@[simp] theorem perform_mkdirAll :
    perform (.mkdirAll file) chance node = chance.call node (.ok (), node) := rfl

@[simp] theorem perform_truncate :
    perform (.truncate file) chance node = chance.call node (.ok (), node.put file .empty) := rfl

@[simp] theorem perform_write : perform (.write file content) chance node = chance.call node
    (.ok (), node.put file (chance.written (node.files file) content)) := rfl

@[simp] theorem perform_stageTemp :
    perform (.stageTemp file content) chance node = chance.call node (.ok (), node) := rfl

@[simp] theorem perform_rename : perform (.rename file content) chance node =
    chance.atomic node (.ok (), node.replace file content) := rfl

@[simp] theorem perform_chmod :
    perform (.chmod file) chance node = chance.call node (.ok (), node) := rfl

@[simp] theorem perform_generateCertificate : perform .generateCertificate chance node =
    chance.call node (.ok node.generated, { node with generated := node.generated + 1 }) := rfl

@[simp] theorem perform_now : perform .now chance node = (chance.time, node) := rfl

@[simp] theorem perform_scan :
    perform .scan chance node = chance.call node (.ok chance.devices, node) := rfl

@[simp] theorem perform_loadState :
    perform (.loadState unit) chance node = chance.call node (.ok chance.loadState, node) := rfl

@[simp] theorem perform_systemctl (action : SystemctlAction) :
    perform (.systemctl action unit) chance node =
      chance.atomic node (.ok (), node.restarted action unit) := rfl

@[simp] theorem perform_updateNUTCredentials (user : UPSDUser) :
    perform (.updateNUTCredentials user) chance node =
      ((), { node with credentials := some user }) := rfl

@[simp] theorem perform_updateAdopted (adopted : Bool) :
    perform (.updateAdopted adopted) chance node = ((), { node with advertised := adopted }) := rfl

@[simp] theorem perform_log (failed : Option GoError) :
    perform (.log failed) chance node = ((), { node with logged := node.logged ++ [failed] }) := rfl

@[simp] theorem perform_respond (request : AdoptRequest) (answer : AdoptAnswer) :
    perform (.respond request answer) chance node =
      ((), { node with answers := node.answers ++ [(request, answer)] }) := rfl

end Performs

section Chances

variable {α : Type} {chance : Chance} {node : Node} {outcome : Except GoError α × Node} {fault : Fault}

@[simp] theorem Chance.call_of_none (free : chance.fault = none) : chance.call node outcome = outcome := by
  simp [Chance.call, free]

@[simp] theorem Chance.call_of_some (faulty : chance.fault = some fault) : chance.call node outcome =
    (.error fault.error, if fault.applied then outcome.2 else node) := by
  simp [Chance.call, faulty]

@[simp] theorem Chance.atomic_of_none (free : chance.fault = none) :
    chance.atomic node outcome = outcome := by
  simp [Chance.atomic, free]

@[simp] theorem Chance.atomic_of_some (faulty : chance.fault = some fault) :
    chance.atomic node outcome = (.error fault.error, node) := by
  simp [Chance.atomic, faulty]

end Chances

/-! ## What an operation leaves alone -/

/-- The file whose content an operation changes. -/
def AgentOp.changes? : AgentOp → Option AgentFile
  | .truncate file | .write file _ | .rename file _ => some file
  | _ => none

/-- The operations that say how an event or a request went. -/
def AgentOp.isReport : AgentOp → Bool
  | .log _ | .respond _ _ => true
  | _ => false

theorem perform_keeps_file {op : AgentOp} {file : AgentFile} (apart : op.changes? ≠ some file)
    (chance : Chance) (node : Node) : (perform op chance node).2.files file = node.files file := by
  -- a change of another file
  have other : ∀ (file' : AgentFile) (content : Content), file' ≠ file →
      Function.update node.files file' (some content) file = node.files file :=
    fun file' content apart => Function.update_of_ne (Ne.symm apart) _ _
  cases op with
  | truncate file' | write file' content | rename file' content =>
    have apart : file' ≠ file := by simpa [AgentOp.changes?] using apart
    cases fault : chance.fault with
    | none => simp [fault, Node.put, Node.replace, other, apart]
    | some f => cases applied : f.applied <;> simp [fault, applied, Node.put, other, apart]
  | systemctl action unit =>
    cases fault : chance.fault <;> cases action <;> cases unit <;> simp [fault, Node.restarted]
  | generateCertificate =>
    cases fault : chance.fault with
    | none => simp [fault]
    | some f => cases applied : f.applied <;> simp [fault, applied]
  | _ => cases fault : chance.fault <;> simp [fault]

theorem perform_keeps_reports {op : AgentOp} (silent : op.isReport = false) (chance : Chance)
    (node : Node) : (perform op chance node).2.logged = node.logged ∧
      (perform op chance node).2.answers = node.answers := by
  cases op with
  | log failed | respond request answer => cases silent
  | systemctl action unit =>
    cases fault : chance.fault <;> cases action <;> cases unit <;> simp [fault, Node.restarted]
  | truncate file | write file content | rename file content | generateCertificate =>
    cases fault : chance.fault with
    | none => simp [fault, Node.put, Node.replace]
    | some f => cases applied : f.applied <;> simp [fault, applied, Node.put]
  | _ => cases fault : chance.fault <;> simp [fault]

section Performed

variable {op : AgentOp} {file : AgentFile} {content : Content} {chance : Chance} {node node' : Node}
  {e : GoError}

theorem keeps_of_performed {reply : op.Reply} (performed : perform op chance node = (reply, node'))
    (apart : op.changes? ≠ some file) : node'.files file = node.files file := by
  have kept := perform_keeps_file apart chance node
  rwa [performed] at kept

/-- A read shows what the file holds. -/
theorem readFile_ok (performed : perform (.readFile file) chance node = (.ok content, node')) :
    node.files file = some content ∧ node' = node := by
  cases fault : chance.fault with
  | none =>
    simp only [perform_readFile, Chance.call_of_none fault, Prod.mk.injEq] at performed
    cases holds : node.files file <;> simp_all
  | some f => simp [fault] at performed

theorem Fault.isNotExist_error (fault : Fault) : fault.error.isNotExist = false := rfl

/-- Only a file that is missing is reported as missing. -/
theorem readFile_notExist (performed : perform (.readFile file) chance node = (.error e, node'))
    (absent : e.isNotExist = true) : node.files file = none := by
  cases fault : chance.fault with
  | none =>
    simp only [perform_readFile, Chance.call_of_none fault, Prod.mk.injEq] at performed
    cases holds : node.files file <;> simp_all
  | some f =>
    simp only [perform_readFile, Chance.call_of_some fault, Prod.mk.injEq, Except.error.injEq] at performed
    rw [← performed.1, f.isNotExist_error] at absent
    cases absent

theorem stat_notExist (performed : perform (.stat file) chance node = (.error e, node'))
    (absent : e.isNotExist = true) : node.files file = none := by
  cases fault : chance.fault with
  | none =>
    simp only [perform_stat, Chance.call_of_none fault, Prod.mk.injEq] at performed
    cases holds : node.files file <;> simp_all
  | some f =>
    simp only [perform_stat, Chance.call_of_some fault, Prod.mk.injEq, Except.error.injEq] at performed
    rw [← performed.1, f.isNotExist_error] at absent
    cases absent

theorem stat_ok (performed : perform (.stat file) chance node = (.ok (), node')) :
    node.files file ≠ none := by
  cases fault : chance.fault with
  | none =>
    simp only [perform_stat, Chance.call_of_none fault, Prod.mk.injEq] at performed
    intro absent
    simp [absent] at performed
  | some f => simp [fault] at performed

theorem truncate_ok (performed : perform (.truncate file) chance node = (.ok (), node')) :
    node'.files file = some .empty := by
  cases fault : chance.fault with
  | none =>
    simp only [perform_truncate, Chance.call_of_none fault, Prod.mk.injEq] at performed
    rw [← performed.2]
    simp [Node.put]
  | some f => simp [fault] at performed

/-- A truncation that fails may have taken place. -/
theorem truncate_error (performed : perform (.truncate file) chance node = (.error e, node')) :
    node'.files file = some .empty ∨ node'.files file = node.files file := by
  cases fault : chance.fault with
  | none => simp [fault] at performed
  | some f =>
    simp only [perform_truncate, Chance.call_of_some fault, Prod.mk.injEq] at performed
    rw [← performed.2]
    cases f.applied <;> simp [Node.put]

theorem write_ok (performed : perform (.write file content) chance node = (.ok (), node'))
    (emptied : node.files file = some .empty) : node'.files file = some content := by
  cases fault : chance.fault with
  | none =>
    simp only [perform_write, Chance.call_of_none fault, Prod.mk.injEq] at performed
    rw [← performed.2]
    simp [Node.put, Chance.written, emptied]
  | some f => simp [fault] at performed

theorem write_error (performed : perform (.write file content) chance node = (.error e, node'))
    (emptied : node.files file = some .empty) :
    node'.files file = some content ∨ node'.files file = some .empty := by
  cases fault : chance.fault with
  | none => simp [fault] at performed
  | some f =>
    simp only [perform_write, Chance.call_of_some fault, Prod.mk.injEq] at performed
    rw [← performed.2]
    cases f.applied <;> simp [Node.put, Chance.written, emptied]

theorem rename_ok (performed : perform (.rename file content) chance node = (.ok (), node')) :
    node'.files file = some content := by
  cases fault : chance.fault with
  | none =>
    simp only [perform_rename, Chance.atomic_of_none fault, Prod.mk.injEq] at performed
    rw [← performed.2]
    simp [Node.replace, Node.put]
  | some f => simp [fault] at performed

theorem rename_error (performed : perform (.rename file content) chance node = (.error e, node')) :
    node' = node := by
  cases fault : chance.fault with
  | none => simp [fault] at performed
  | some f =>
    simp only [perform_rename, Chance.atomic_of_some fault, Prod.mk.injEq] at performed
    exact performed.2.symm

end Performed

/-- An operation that may fail, its error wrapped. -/
def call (op : AgentOp) {α : Type} (same : op.Reply = Except GoError α)
    (wrapping : GoError → GoError) : AgentAction α :=
  Action.ofProgram ((Program.perform op).bind fun reply =>
    .ret ((same ▸ reply : Except GoError α).mapError wrapping))

end Strom.Agent
