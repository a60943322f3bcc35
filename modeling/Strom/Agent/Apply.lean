import Strom.Agent.Files
import Strom.Effects.Trace

/-!
# Applying a scan (the agent's `main.go`, `render.go`, `services.go`)

What the main loop does for a hotplug event: scan, generate the NUT files, reload the
services.
-/

namespace Strom.Agent

open Strom.Go Strom.Effects Strom.Nutconf

/-! ## Files (`render.go`) -/

/-- `WriteIfChanged`; whether the file was replaced. -/
def writeIfChanged (file : AgentFile) (content : Content) : AgentAction Bool := do
  let existing ← Action.always (Program.perform (AgentOp.readFile file))
  match existing with
  | .ok old =>
    if old.same content then return false
    else replaceFile file content
  | .error e =>
    if e.isNotExist then replaceFile file content
    else throw (.wrap "read existing file" e)
where
  /-- The rest of `WriteIfChanged`. -/
  replaceFile (file : AgentFile) (content : Content) : AgentAction Bool := do
    call (.mkdirAll file) rfl (.wrap "create parent dir")
    call (.stageTemp file content) rfl (.wrap "create temp file")
    call (.rename file content) rfl (.wrap "rename temp file")
    call (.chmod file) rfl (.wrap "chmod final file")
    return true

def loadNameMap : AgentAction NameMap := do
  match ← Action.always (Program.perform (AgentOp.readFile .names)) with
  | .ok (.nameMap map) => return map
  | .ok content =>
    if content = .empty then return .empty
    else throw (.wrap "decode names map" (.text "invalid character"))
  | .error e => if e.isNotExist then return .empty else throw (.wrap "read names map" e)

def saveNameMap (names : NameMap) : AgentAction Bool :=
  Action.mapError (.wrap "write names map") (writeIfChanged .names (.nameMap names.encoded))

/-! ## Services (`services.go`) -/

/-- `m.hasUnit`. -/
def hasUnit (unit : NUTUnit) : AgentAction Bool := do
  let output ← call (.loadState unit) rfl (.wrap ("detect " ++ unit.text))
  let state := trimSpace output
  return state ≠ "" && state ≠ "not-found"

/-- `m.runSystemctl`. -/
def runSystemctl (action : SystemctlAction) (unit : NUTUnit) : AgentAction Unit :=
  call (.systemctl action unit) rfl (.wrap ("systemctl " ++ action.text ++ " " ++ unit.text))

/-- `sort.Strings`. -/
def sortNames (names : List Bytes) : List Bytes := names.mergeSort fun a b => !decide (b < a)

/-- `uniqueSortedNames`; which of several equal names stays makes no difference. -/
def uniqueSortedNames (names : List Bytes) : List Bytes := sortNames names.dedup

def restartDrivers : List Bytes → AgentAction Unit
  | [] => return ()
  | name :: rest => do
    runSystemctl .restart (.driver name)
    restartDrivers rest

/-- `m.Reload`. -/
def reload (changed : Bool) (upsNames : List Bytes) : AgentAction Unit := do
  if !changed then return ()
  else
    if upsNames ≠ [] then
      if ← hasUnit .enumerator then runSystemctl .restart .enumerator
      else restartDrivers (uniqueSortedNames upsNames)
    runSystemctl .reloadOrRestart .server

/-! ## The main loop (`main.go`) -/

structure AppliedConfig where
  devices : List DetectedUPS
  changed : Bool
  restartUPSName : List Bytes
  user : UPSDUser

def loadAgentUser : AgentAction UPSDUser := do
  match ← call (.readFile .agentConfig) rfl (.wrap "read agent config") with
  | .agentConfig user =>
    if user.username = "" ∨ user.password = "" then
      throw (.text "agent config missing nut.username or nut.password")
    else return user
  | _ => throw (.wrap "decode agent config" (.text "yaml: unmarshal errors"))

def loadRuntimeNUTUser : AgentAction UPSDUser := do
  match ← Action.always (Program.perform (AgentOp.readFile .adoption)) with
  | .ok (.adoption state) =>
    if state.nutUser = "" ∨ state.nutPassword = "" then
      throw (.text "adoption config missing nut_user or nut_password")
    else return { username := state.nutUser, password := state.nutPassword }
  | .ok _ => throw (.wrap "decode adoption config" (.text "invalid character"))
  | .error e => if e.isNotExist then loadAgentUser else throw (.wrap "read adoption config" e)

def restartUnitsForUPSChange (upsChanged : Bool) (devices : List DetectedUPS) : List Bytes :=
  if !upsChanged then []
  else sortNames (((devices.map (·.name)).filter (· ≠ [])).dedup)

/-- The files that `apply` writes after `ups.conf`. -/
def otherFiles (user : UPSDUser) : List (AgentFile × String × Content) :=
  [(.nutConf, "nut.conf", .text (utf8 renderNutConf)),
    (.upsdConf, "upsd.conf", .text (utf8 renderUPSDConf)),
    (.upsdUsers, "upsd.users", .text (utf8 (renderUPSDUsers user)))]

/-- The loop of `apply` over the other files; `changed` so far. -/
def writeFiles : List (AgentFile × String × Content) → Bool → AgentAction Bool
  | [], changed => return changed
  | (file, name, content) :: rest, changed => do
    let fileChanged ← Action.mapError (.wrap ("write " ++ name)) (writeIfChanged file content)
    writeFiles rest (changed || fileChanged)

/-- The rendered `ups.conf` of the devices. -/
def upsConfContent (devices : List DetectedUPS) : Content :=
  .upsConf (renderUPSConf devices) ((devices.map (·.name)).filter (· ≠ []))

/-- `r.apply`. -/
def apply (devices : List DetectedUPS) : AgentAction AppliedConfig := do
  let user ← loadRuntimeNUTUser
  let persistedNames ← loadNameMap
  let (namedDevices, nextMap) := assignStableNames devices persistedNames
  let namesChanged ← saveNameMap nextMap
  let upsChanged ← Action.mapError (.wrap "write ups.conf")
    (writeIfChanged .upsConf (upsConfContent namedDevices))
  let changed ← writeFiles (otherFiles user) (namesChanged || upsChanged)
  return { devices := namedDevices
           changed
           restartUPSName := restartUnitsForUPSChange upsChanged namedDevices
           user }

/-- What the main loop does for one event. -/
def handleEvent : AgentAction AppliedConfig := do
  let current ← call .scan rfl id
  let applied ← apply current
  Action.always (Program.perform (AgentOp.updateNUTCredentials applied.user))
  reload applied.changed applied.restartUPSName
  return applied

/-- One iteration of the main loop; an error is logged and the loop goes on. -/
def iteration : AgentProgram Unit := do
  match ← Action.toProgram handleEvent with
  | .ok _ => Program.perform (AgentOp.log none)
  | .error e => Program.perform (AgentOp.log (some e))

/-! ## What they touch -/

/-- The file an operation is about. -/
def AgentOp.file? : AgentOp → Option AgentFile
  | .stat file | .readFile file | .mkdirAll file | .truncate file | .write file _
  | .stageTemp file _ | .rename file _ | .chmod file => some file
  | _ => none

/-- The commands of `services.go`. -/
def AgentOp.isService : AgentOp → Bool
  | .loadState _ | .systemctl _ _ => true
  | _ => false

section Touches

variable {P : AgentOp → Prop} {α : Type}

theorem only_call {op : AgentOp} (same : op.Reply = Except GoError α)
    (wrapping : GoError → GoError) (allowed : P op) : Action.Only P (call op same wrapping) :=
  ⟨allowed, fun _ => trivial⟩

theorem only_always {op : AgentOp} {ε : Type} (allowed : P op) :
    Action.Only P (Action.always (Program.perform op) : Action AgentOp AgentOp.Reply ε op.Reply) :=
  Action.Only.always (Program.only_perform allowed)

theorem only_writeIfChanged {file : AgentFile} (content : Content)
    (allowed : ∀ op : AgentOp, op.file? = some file → P op) :
    Action.Only P (writeIfChanged file content) := by
  have replaces : Action.Only P (writeIfChanged.replaceFile file content) := by
    apply Action.Only.bind (only_call rfl _ (allowed _ rfl))
    intro _
    apply Action.Only.bind (only_call rfl _ (allowed _ rfl))
    intro _
    apply Action.Only.bind (only_call rfl _ (allowed _ rfl))
    intro _
    apply Action.Only.bind (only_call rfl _ (allowed _ rfl))
    intro _
    exact Action.only_pure _
  apply Action.Only.bind (only_always (allowed _ rfl))
  intro existing
  cases existing with
  | ok old =>
    dsimp only
    split
    · exact Action.only_pure _
    · exact replaces
  | error e =>
    dsimp only
    split
    · exact replaces
    · exact Action.only_throw _

theorem only_runSystemctl (action : SystemctlAction) (unit : NUTUnit)
    (allowed : ∀ op : AgentOp, op.isService = true → P op) :
    Action.Only P (runSystemctl action unit) :=
  only_call rfl _ (allowed _ rfl)

theorem only_restartDrivers (names : List Bytes)
    (allowed : ∀ op : AgentOp, op.isService = true → P op) : Action.Only P (restartDrivers names) := by
  induction names with
  | nil => exact Action.only_pure _
  | cons name rest ih => exact Action.Only.bind (only_runSystemctl _ _ allowed) fun _ => ih

theorem only_reload (changed : Bool) (names : List Bytes)
    (allowed : ∀ op : AgentOp, op.isService = true → P op) : Action.Only P (reload changed names) := by
  have server : Action.Only P (runSystemctl .reloadOrRestart .server) := only_runSystemctl _ _ allowed
  unfold reload
  split
  · exact Action.only_pure _
  · split
    · apply Action.Only.bind
      · exact Action.Only.bind (only_call rfl _ (allowed _ rfl)) fun _ => Action.only_pure _
      · intro hasEnumerator
        cases hasEnumerator with
        | true => exact Action.Only.bind (only_runSystemctl _ _ allowed) fun _ => server
        | false => exact Action.Only.bind (only_restartDrivers _ allowed) fun _ => server
    · exact server

/-- What an iteration reads besides the files it writes. -/
def AgentOp.isReading : AgentOp → Bool
  | .readFile _ | .scan => true
  | _ => false

theorem only_loadAgentUser (allowed : ∀ op : AgentOp, op.isReading = true → P op) :
    Action.Only P loadAgentUser := by
  apply Action.Only.bind (only_call rfl _ (allowed _ rfl))
  intro content
  cases content with
  | agentConfig user =>
    dsimp only
    split
    · exact Action.only_throw _
    · exact Action.only_pure _
  | _ => exact Action.only_throw _

theorem only_loadRuntimeNUTUser (allowed : ∀ op : AgentOp, op.isReading = true → P op) :
    Action.Only P loadRuntimeNUTUser := by
  apply Action.Only.bind (only_always (allowed _ rfl))
  intro reply
  cases reply with
  | ok content =>
    cases content with
    | adoption state =>
      dsimp only
      split
      · exact Action.only_throw _
      · exact Action.only_pure _
    | _ => exact Action.only_throw _
  | error e =>
    dsimp only
    split
    · exact only_loadAgentUser allowed
    · exact Action.only_throw _

theorem only_loadNameMap (allowed : P (.readFile .names)) : Action.Only P loadNameMap := by
  apply Action.Only.bind (only_always allowed)
  intro reply
  cases reply with
  | ok content =>
    cases content with
    | nameMap map => exact Action.only_pure _
    | _ =>
      dsimp only
      split
      · exact Action.only_pure _
      · exact Action.only_throw _
  | error e =>
    dsimp only
    split
    · exact Action.only_pure _
    · exact Action.only_throw _

/-- The files that an iteration writes. -/
def AgentFile.isGenerated : AgentFile → Bool
  | .names | .upsConf | .nutConf | .upsdConf | .upsdUsers => true
  | _ => false

theorem only_writeFiles (files : List (AgentFile × String × Content)) (changed : Bool)
    (allowed : ∀ entry ∈ files, ∀ op : AgentOp, op.file? = some entry.1 → P op) :
    Action.Only P (writeFiles files changed) := by
  induction files generalizing changed with
  | nil => exact Action.only_pure _
  | cons first rest ih =>
    obtain ⟨file, name, content⟩ := first
    apply Action.Only.bind (Action.Only.mapError (only_writeIfChanged content
      (allowed _ List.mem_cons_self)))
    intro fileChanged
    exact ih _ fun entry member => allowed entry (List.mem_cons_of_mem _ member)

theorem only_apply (devices : List DetectedUPS)
    (reading : ∀ op : AgentOp, op.isReading = true → P op)
    (writing : ∀ (op : AgentOp) (file : AgentFile), op.file? = some file →
      file.isGenerated = true → P op) : Action.Only P (apply devices) := by
  unfold apply
  apply Action.Only.bind (only_loadRuntimeNUTUser reading)
  intro user
  apply Action.Only.bind (only_loadNameMap (reading _ rfl))
  intro persistedNames
  obtain ⟨namedDevices, nextMap⟩ := assignStableNames devices persistedNames
  apply Action.Only.bind (Action.Only.mapError (only_writeIfChanged _ fun op about =>
    writing op .names about rfl))
  intro namesChanged
  apply Action.Only.bind (Action.Only.mapError (only_writeIfChanged _ fun op about =>
    writing op .upsConf about rfl))
  intro upsChanged
  have generated : ∀ entry ∈ otherFiles user, entry.1.isGenerated = true := by
    simp [otherFiles, AgentFile.isGenerated]
  apply Action.Only.bind (only_writeFiles _ _ fun entry member op about =>
    writing op entry.1 about (generated entry member))
  intro changed
  exact Action.only_pure _

theorem only_iteration (reading : ∀ op : AgentOp, op.isReading = true → P op)
    (writing : ∀ (op : AgentOp) (file : AgentFile), op.file? = some file →
      file.isGenerated = true → P op)
    (services : ∀ op : AgentOp, op.isService = true → P op)
    (memory : ∀ user failed, P (.updateNUTCredentials user) ∧ P (.log failed)) :
    iteration.Only P := by
  have handles : Action.Only P handleEvent := by
    apply Action.Only.bind (only_call rfl _ (reading _ rfl))
    intro current
    apply Action.Only.bind (only_apply current reading writing)
    intro applied
    apply Action.Only.bind (only_always (memory _ none).1)
    intro _
    apply Action.Only.bind (only_reload _ _ services)
    intro _
    exact Action.only_pure _
  apply Program.Only.bind handles
  intro result
  cases result with
  | ok applied => exact Program.only_perform (memory applied.user none).2
  | error e => exact Program.only_perform (memory { username := "", password := "" } _).2

end Touches

end Strom.Agent
