import Strom.Agent.WritableVars
import Strom.Effects.Trace
import Strom.Go.Errors

/-!
# Commands and settings of a UPS (`runUPSCommand`, `runUPSSetVariable`)

The agent runs `upscmd` and `upsrw` with the NUT credentials.  Before it does, it asks the same
tool for what the UPS supports and refuses a command or a variable that is not listed.  It looks
at the list only where the listing succeeds: after a failed one it runs the tool for every
command and every variable (`runs_listed_iff`).
-/

namespace Strom.Agent

open Strom.Go Strom.Effects

/-! ## The tools -/

/-- A command line of `s.runner.CombinedOutput`. -/
structure ToolCall where
  path : String
  args : List String
deriving DecidableEq, Repr

/-- The output of a tool, with the error where it fails. -/
abbrev ToolOutcome := String × Option GoError

abbrev ToolProgram := Program ToolCall fun _ => ToolOutcome

abbrev ToolAction := Action ToolCall (fun _ => ToolOutcome) GoError

/-- The tools, each with the outcome that it has for a command line. -/
def toolHandler (tools : ToolCall → ToolOutcome) : Handler ToolCall (fun _ => ToolOutcome) Unit :=
  fun toolCall _ => (tools toolCall, ())

def combinedOutput (toolCall : ToolCall) : ToolAction ToolOutcome := Action.always (.perform toolCall)

structure ControlService where
  /-- The names of the inventory. -/
  devices : List String
  nutUser : String := ""
  nutPassword : String := ""
  upscPath : String := "upsc"
  upscmdPath : String := "upscmd"
  upsrwPath : String := "upsrw"

/-- `fmt.Errorf("run <what>: %w: %s", err, output)`. -/
def toolError (what : String) (cause : GoError) (output : String) : GoError :=
  .wrap ("run " ++ what) (.text (cause.message ++ ": " ++ trimSpace output))

def errUPSNotFound : GoError := .text "ups not found"
def errUPSCommandNotFound : GoError := .text "ups command not supported"
def errUPSVariableNotFound : GoError := .text "ups variable not supported"
def errUPSControlUnavailable : GoError := .text "ups control credentials unavailable"

/-- `fmt.Errorf("%w: %s", err, name)`. -/
def about (cause : GoError) (name : String) : GoError := .text (cause.message ++ ": " ++ name)

/-! ## The commands that `upscmd -l` prints -/

/-- `upsCommandNamePattern`: words of letters, digits and underscores between dots. -/
def isCommandName (name : String) : Bool :=
  (name.toList.splitOn '.').all fun word =>
    word ≠ [] && word.all fun c => c.isAlpha || c.isDigit || c = '_'

/-- `strings.Cut` at the first `" - "`. -/
def cutDash : List Char → Option (List Char × List Char)
  | [] => none
  | ' ' :: '-' :: ' ' :: rest => some ([], rest)
  | c :: rest => (cutDash rest).map fun cut => (c :: cut.1, cut.2)

structure UPSCommand where
  name : String
  description : String
  destructive : Bool
deriving DecidableEq, Repr

def isDestructiveUPSCommand (name : String) : Bool :=
  hasPrefix name "shutdown." || hasPrefix name "load.off" || name = "driver.killpower" ||
    name = "shutdown.return" || name = "shutdown.stayoff" || name = "shutdown.reboot" ||
    name = "shutdown.reboot.graceful" || name = "FSD"

/-- The name and the description of a line that is not blank. -/
def splitCommand (trimmed : String) : String × String :=
  match cutDash trimmed.toList with
  | some (head, tail) => (trimSpace (String.ofList head), trimSpace (String.ofList tail))
  | none =>
    match cutColon trimmed with
    | some (head, tail) => (trimSpace head, trimSpace tail)
    | none => (trimmed, "")

def parseUPSCommand (line : String) : Option UPSCommand :=
  if trimSpace line = "" then none
  else
    let (name, description) := splitCommand (trimSpace line)
    if isCommandName name then some { name, description, destructive := isDestructiveUPSCommand name } else none

def parseUPSCommands (output : String) : List UPSCommand :=
  ((output.toList.splitOn '\n').map String.ofList).filterMap parseUPSCommand

/-! ## The variables that `upsc` prints -/

structure UPSSnapshot where
  status : String
  /-- The entries of the map, the latest first. -/
  vars : List (String × String) := []
deriving DecidableEq, Repr

def UPSSnapshot.value (snapshot : UPSSnapshot) (key : String) : String := (snapshot.vars.lookup key).getD ""

/-- `strings.Cut` at the first equals sign. -/
def cutEquals (s : String) : Option (String × String) :=
  match s.toList.dropWhile (· ≠ '=') with
  | [] => none
  | _ :: tail => some (String.ofList (s.toList.takeWhile (· ≠ '=')), String.ofList tail)

def parseUPSVariablesText (output : String) : Except GoError (List (String × String)) :=
  let entries := ((output.toList.splitOn '\n').map String.ofList).filterMap fun line =>
    ((cutColon (trimSpace line)).or (cutEquals (trimSpace line))).map fun cut => (trimSpace cut.1, trimSpace cut.2)
  if entries = [] then .error (.text "ups variables not found") else .ok entries.reverse

def buildUPSSnapshot (vars : List (String × String)) : Except GoError UPSSnapshot :=
  let status := trimSpace ((vars.lookup "ups.status").getD "")
  if status = "" then .error (.text "ups.status not found") else .ok { status, vars }

def startingMarkers : List String := ["data stale", "driver not connected", "connection refused",
  "connection failure", "initializing", "driver is not connected"]

def isDriverStarting (output : String) (cause : GoError) : Bool :=
  startingMarkers.any fun marker =>
    contains (toLower (trimSpace output) ++ " " ++ toLower cause.message) marker

def startingStatus : String := "starting"

section Calls

variable {F : Type} (parseFloat : String → Option F)
-- `parseUPSVariablesJSON`
variable (parseJSON : String → Except GoError (List (String × String)))
variable (s : ControlService)

/-- What the text of `upsc` is taken for. -/
def snapshotOfText (name : String) (outcome : ToolOutcome) : Except GoError UPSSnapshot :=
  let starting := outcome.2.any (isDriverStarting outcome.1)
  match parseUPSVariablesText outcome.1 with
  | .ok vars =>
    match buildUPSSnapshot vars with
    | .ok snapshot => .ok snapshot
    | .error cause => if starting then .ok { status := startingStatus } else .error cause
  | .error parseErr =>
    if starting then .ok { status := startingStatus }
    else
      match outcome.2 with
      | some cause => .error (toolError (s.upscPath ++ " " ++ name) cause outcome.1)
      | none => .error parseErr

def queryUPSSnapshot (name : String) : ToolAction UPSSnapshot := do
  let json ← combinedOutput { path := s.upscPath, args := ["-j", name] }
  match json.2, parseJSON json.1 with
  | none, .ok vars => Action.ofExcept (buildUPSSnapshot vars)
  | _, _ =>
    let text ← combinedOutput { path := s.upscPath, args := [name] }
    Action.ofExcept (snapshotOfText s name text)

/-- The command line of `listUPSCommands`. -/
def listCommandsCall (name : String) : ToolCall := { path := s.upscmdPath, args := ["-l", name] }

/-- The command line of `listUPSWritableVars`. -/
def listVarsCall (name : String) : ToolCall := { path := s.upsrwPath, args := ["-l", name] }

/-- The names that a listing prints; none where the tool fails. -/
def listed (names : String → List String) (listing : ToolCall) : ToolAction (Option (List String)) := do
  let outcome ← combinedOutput listing
  return if outcome.2.isSome then none else some (names outcome.1)

def commandNames (output : String) : List String := (parseUPSCommands output).map (·.name)

def varNames (snapshot : UPSSnapshot) (output : String) : List String :=
  (parseUPSWritableVars parseFloat output snapshot.value).map (·.name)

/-- The checks on the UPS and the credentials. -/
def controllable (name : String) : Except GoError Unit := do
  rejectIf (name ∉ s.devices) (about errUPSNotFound name)
  rejectIf (trimSpace s.nutUser = "" ∨ trimSpace s.nutPassword = "") errUPSControlUnavailable

def commandCall (name command : String) : ToolCall where
  path := s.upscmdPath
  args := ["-u", s.nutUser, "-p", s.nutPassword, "-w", name, command]

def setVarCall (name variable_ value : String) : ToolCall where
  path := s.upsrwPath
  args := ["-s", variable_ ++ "=" ++ value, "-u", s.nutUser, "-p", s.nutPassword, "-w", name]

/-- Refuse what a list does not have; without a list nothing is refused. -/
def refuseUnlisted (names : Option (List String)) (wanted : String) (cause : GoError) : Except GoError Unit :=
  match names with
  | some names => rejectIf (wanted ∉ names) (about cause wanted)
  | none => .ok ()

/-- Run a tool for its trimmed output. -/
def runTool (what : String) (toolCall : ToolCall) : ToolAction String := do
  let outcome ← combinedOutput toolCall
  match outcome.2 with
  | some cause => throw (toolError what cause outcome.1)
  | none => return trimSpace outcome.1

/-- `runUPSCommand`, of whose response only the output is new. -/
def runUPSCommand (name command : String) : ToolAction String := do
  Action.ofExcept (controllable s name)
  let commands ← listed commandNames (listCommandsCall s name)
  Action.ofExcept (refuseUnlisted commands command errUPSCommandNotFound)
  runTool (s.upscmdPath ++ " " ++ name ++ " " ++ command) (commandCall s name command)

/-- `runUPSSetVariable`, of whose response only the output is new. -/
def runUPSSetVariable (name variable_ value : String) : ToolAction String := do
  Action.ofExcept (controllable s name)
  let snapshot ← queryUPSSnapshot parseJSON s name
  let writable ← listed (varNames parseFloat snapshot) (listVarsCall s name)
  Action.ofExcept (refuseUnlisted writable variable_ errUPSVariableNotFound)
  runTool (s.upsrwPath ++ " " ++ name ++ " " ++ variable_ ++ "=" ++ value) (setVarCall s name variable_ value)

end Calls

/-! ## What is run -/

section Gate

variable {tools : ToolCall → ToolOutcome}

theorem mem_trace_combinedOutput {toolCall control : ToolCall} :
    control ∈ Action.trace (toolHandler tools) (combinedOutput toolCall) () ↔ control = toolCall := by
  simp [combinedOutput, Action.mem_trace_always]

theorem exec_listed (names : String → List String) (listing : ToolCall) :
    Action.exec (toolHandler tools) (listed names listing) () =
      (.ok (if (tools listing).2.isSome then none else some (names (tools listing).1)), ()) := by
  simp [listed, combinedOutput, toolHandler]

theorem mem_trace_listed {names : String → List String} {listing control : ToolCall} :
    control ∈ Action.trace (toolHandler tools) (listed names listing) () ↔ control = listing := by
  unfold listed
  rw [Action.mem_trace_bind, mem_trace_combinedOutput]
  simp [Action.trace]

theorem mem_trace_runTool (what : String) (control : ToolCall) :
    control ∈ Action.trace (toolHandler tools) (runTool what control) () := by
  unfold runTool
  rw [Action.mem_trace_bind, mem_trace_combinedOutput]
  exact .inl rfl

/-- Behind the listing the tool is run for what is listed, and for everything where the listing
    has failed. -/
theorem mem_trace_gate {names : String → List String} {listing control : ToolCall} {wanted what : String}
    {cause : GoError} (apart : control ≠ listing) :
    control ∈ Action.trace (toolHandler tools) (do
        let found ← listed names listing
        Action.ofExcept (refuseUnlisted found wanted cause)
        runTool what control) () ↔
      (tools listing).2.isSome ∨ wanted ∈ names (tools listing).1 := by
  rw [Action.mem_trace_bind, mem_trace_listed, exec_listed]
  simp only [apart, false_or, Prod.mk.injEq, Except.ok.injEq]
  constructor
  · intro ran
    obtain ⟨_, t, ⟨rfl, -⟩, later⟩ := ran
    cases failed : (tools listing).2.isSome with
    | true => exact .inl rfl
    | false =>
      rw [failed, if_neg Bool.false_ne_true, Action.mem_trace_bind] at later
      obtain early | ⟨_, _, passed, -⟩ := later
      · simp [Action.trace] at early
      · simp only [Action.exec_ofExcept, Prod.mk.injEq] at passed
        exact .inr (not_not.mp (rejectIf_eq_ok.mp passed.1))
  · intro allowed
    refine ⟨_, (), ⟨rfl, trivial⟩, ?_⟩
    have passes : refuseUnlisted (if (tools listing).2.isSome = true then none else some (names (tools listing).1))
        wanted cause = .ok () := by
      obtain failed | known := allowed
      · rw [if_pos failed]
        rfl
      · split
        · rfl
        · exact rejectIf_eq_ok.mpr (not_not.mpr known)
    rw [passes, Action.mem_trace_bind]
    exact .inr ⟨(), (), rfl, mem_trace_runTool what control⟩

/-- A check in front of an action. -/
theorem mem_trace_check {α : Type} {check : Except GoError Unit} {x : ToolAction α} {control : ToolCall} :
    control ∈ Action.trace (toolHandler tools) (Action.ofExcept check >>= fun _ => x) () ↔
      check = .ok () ∧ control ∈ Action.trace (toolHandler tools) x () := by
  rw [Action.mem_trace_bind]
  constructor
  · intro ran
    obtain early | ⟨_, _, passed, later⟩ := ran
    · simp [Action.trace] at early
    · simp only [Action.exec_ofExcept, Prod.mk.injEq] at passed
      exact ⟨passed.1, later⟩
  · intro ran
    exact .inr ⟨(), (), by simp [ran.1], ran.2⟩

end Gate

section Listed

variable {F : Type} (parseFloat : String → Option F)
variable (parseJSON : String → Except GoError (List (String × String)))
variable (tools : ToolCall → ToolOutcome) (s : ControlService)

/-- Running the action, the agent runs the tool only for what the tool itself lists. -/
def RunsListed (x : ToolAction String) (control listing : ToolCall) (names : String → List String)
    (wanted : String) : Prop :=
  control ∈ Action.trace (toolHandler tools) x () →
    (tools listing).2 = none ∧ wanted ∈ names (tools listing).1

theorem mem_trace_runUPSCommand {name command : String} :
    commandCall s name command ∈ Action.trace (toolHandler tools) (runUPSCommand s name command) () ↔
      controllable s name = .ok () ∧ ((tools (listCommandsCall s name)).2.isSome ∨
        command ∈ commandNames (tools (listCommandsCall s name)).1) := by
  have apart : commandCall s name command ≠ listCommandsCall s name := by simp [commandCall, listCommandsCall]
  unfold runUPSCommand
  rw [mem_trace_check, mem_trace_gate apart]

/-- What `queryUPSSnapshot` finds out. -/
def snapshotOf (name : String) : Except GoError UPSSnapshot :=
  (Action.exec (toolHandler tools) (queryUPSSnapshot parseJSON s name) ()).1

theorem mem_trace_query {name : String} {control : ToolCall}
    (ran : control ∈ Action.trace (toolHandler tools) (queryUPSSnapshot parseJSON s name) ()) :
    control.args.length ≤ 2 := by
  unfold queryUPSSnapshot at ran
  rw [Action.mem_trace_bind, mem_trace_combinedOutput] at ran
  obtain rfl | ⟨json, _, -, later⟩ := ran
  · simp
  · split at later
    · simp [Action.trace] at later
    · rw [Action.mem_trace_bind, mem_trace_combinedOutput] at later
      obtain rfl | ⟨_, _, -, last⟩ := later
      · simp
      · simp [Action.trace] at last

theorem mem_trace_runUPSSetVariable {name variable_ value : String} :
    setVarCall s name variable_ value ∈
        Action.trace (toolHandler tools) (runUPSSetVariable parseFloat parseJSON s name variable_ value) () ↔
      controllable s name = .ok () ∧ ∃ snapshot, snapshotOf parseJSON tools s name = .ok snapshot ∧
        ((tools (listVarsCall s name)).2.isSome ∨
          variable_ ∈ varNames parseFloat snapshot (tools (listVarsCall s name)).1) := by
  have apart : setVarCall s name variable_ value ≠ listVarsCall s name := by simp [setVarCall, listVarsCall]
  unfold runUPSSetVariable
  rw [mem_trace_check, Action.mem_trace_bind]
  have unread : setVarCall s name variable_ value ∉
      Action.trace (toolHandler tools) (queryUPSSnapshot parseJSON s name) () := by
    intro ran
    have short := mem_trace_query parseJSON tools s ran
    simp [setVarCall] at short
  simp only [unread, false_or, mem_trace_gate apart]
  constructor
  · intro ran
    obtain ⟨known, snapshot, _, queried, allowed⟩ := ran
    exact ⟨known, snapshot, congrArg Prod.fst queried, allowed⟩
  · intro ran
    obtain ⟨known, snapshot, queried, allowed⟩ := ran
    exact ⟨known, snapshot, (), Prod.ext queried rfl, allowed⟩

/-- The variables that the listing prints, where the agent gets to it. -/
def reportedVars (name output : String) : List String :=
  match snapshotOf parseJSON tools s name with
  | .ok snapshot => varNames parseFloat snapshot output
  | .error _ => []

theorem runs_listed_command_iff (name command : String) :
    RunsListed tools (runUPSCommand s name command) (commandCall s name command) (listCommandsCall s name)
        commandNames command ↔
      (controllable s name = .ok () → (tools (listCommandsCall s name)).2 = none) := by
  unfold RunsListed
  rw [mem_trace_runUPSCommand]
  cases (tools (listCommandsCall s name)).2 with
  | none => simp
  | some cause => simp

theorem runs_listed_variable_iff (name variable_ value : String) :
    RunsListed tools (runUPSSetVariable parseFloat parseJSON s name variable_ value)
        (setVarCall s name variable_ value) (listVarsCall s name) (reportedVars parseFloat parseJSON tools s name)
        variable_ ↔
      (controllable s name = .ok () → (∃ snapshot, snapshotOf parseJSON tools s name = .ok snapshot) →
        (tools (listVarsCall s name)).2 = none) := by
  unfold RunsListed reportedVars
  rw [mem_trace_runUPSSetVariable]
  cases snapshotOf parseJSON tools s name with
  | error cause => simp
  | ok snapshot =>
    cases (tools (listVarsCall s name)).2 with
    | none => simp
    | some cause => simp

/-- The agent runs `upscmd` only for a listed command, and `upsrw` only for a listed variable,
    exactly where the listing succeeds or the request is refused before it. -/
theorem runs_listed_iff :
    (∀ name command : String,
      RunsListed tools (runUPSCommand s name command) (commandCall s name command) (listCommandsCall s name)
          commandNames command ↔
        (controllable s name = .ok () → (tools (listCommandsCall s name)).2 = none)) ∧
    ∀ name variable_ value : String,
      RunsListed tools (runUPSSetVariable parseFloat parseJSON s name variable_ value)
          (setVarCall s name variable_ value) (listVarsCall s name) (reportedVars parseFloat parseJSON tools s name)
          variable_ ↔
        (controllable s name = .ok () → (∃ snapshot, snapshotOf parseJSON tools s name = .ok snapshot) →
          (tools (listVarsCall s name)).2 = none) :=
  ⟨runs_listed_command_iff tools s, runs_listed_variable_iff parseFloat parseJSON tools s⟩

end Listed

/-- A UPS whose listing of commands times out. -/
def timedOutTools (toolCall : ToolCall) : ToolOutcome :=
  if toolCall.args = ["-l", "ups"] then ("", some (.text "exit status 1")) else ("OK", none)

/-- After a failed listing the agent switches the load off, although no list has the command. -/
theorem unlisted_command_runs :
    ¬ RunsListed timedOutTools
      (runUPSCommand { devices := ["ups"], nutUser := "admin", nutPassword := "secret" } "ups" "load.off")
      (commandCall { devices := ["ups"], nutUser := "admin", nutPassword := "secret" } "ups" "load.off")
      (listCommandsCall { devices := ["ups"], nutUser := "admin", nutPassword := "secret" } "ups")
      commandNames "load.off" := by
  intro listed
  have ran := listed (by decide +kernel)
  exact absurd ran.1 (by decide)

end Strom.Agent
