import Strom.Aggregate.Calls

/-!
# The settings handler (`main.go`)

A PATCH of the controller settings applies the new settings to the manager, with
the request's context, and then stores them.  `net/http` cancels that context when
the handler has returned.  The threads here are requests and the goroutines that
the starts of listeners leave behind.
-/

namespace Strom.Aggregate

open Strom.Go Strom.Effects

/-- `net.SplitHostPort`, without the error's text. -/
def splitHostPort (hostport : String) : Option (String × String) :=
  let chars := hostport.toList
  match chars.reverse.findIdx? (· = ':') with
  | none => none
  | some fromEnd =>
    -- the last colon
    let i := chars.length - 1 - fromEnd
    let port := chars.drop (i + 1)
    if chars.head? = some '[' then
      match chars.findIdx? (· = ']') with
      | none => none
      | some close =>
        if close + 1 = i ∧ '[' ∉ chars.drop 1 ∧ ']' ∉ chars.drop (close + 1) then
          some (String.ofList ((chars.take close).drop 1), String.ofList port)
        else none
    else
      let host := chars.take i
      if ':' ∈ host ∨ '[' ∈ chars ∨ ']' ∈ chars then none
      else some (String.ofList host, String.ofList port)

example : splitHostPort "[::]:3493" = some ("::", "3493") := by decide

def normalizeListenAddress (listen : String) : String :=
  let trimmed := trimSpace listen
  if trimmed.toList.head? = some ':' then "0.0.0.0" ++ trimmed else trimmed

/-- The body of a PATCH. -/
structure SettingsPatch where
  aggregateNUTEnabled : Option Bool := none
  aggregateNUTListen : Option String := none
deriving DecidableEq, Repr

inductive SettingsReply where
  | error (status : Nat) (message : String)
  | saved (settings : ControllerSettings)
deriving DecidableEq, Repr

/-- The settings that a patch asks for. -/
def SettingsPatch.next (patch : SettingsPatch) (current : ControllerSettings) : ControllerSettings where
  aggregateNUTEnabled := patch.aggregateNUTEnabled.getD current.aggregateNUTEnabled
  aggregateNUTListen := (patch.aggregateNUTListen.map trimSpace).getD current.aggregateNUTListen

/-- The checks of the handler between loading the settings and applying them. -/
def checkListen (next : ControllerSettings) : Option SettingsReply :=
  if trimSpace next.aggregateNUTListen = "" then
    some (.error 400 "aggregate_nut_listen is required")
  else if splitHostPort (normalizeListenAddress next.aggregateNUTListen) = none then
    some (.error 400 "aggregate_nut_listen must be host:port or :port")
  else none

/-- The listen address that a setting stands for, given the configured one. -/
def settledListen (defaults : ControllerSettings) (listen : String) : String :=
  if trimSpace listen ≠ "" then listen
  else if trimSpace defaults.aggregateNUTListen ≠ "" then defaults.aggregateNUTListen
  else defaultListen

/-- The settings as the handler sees them. -/
def settle (defaults settings : ControllerSettings) : ControllerSettings :=
  { settings with aggregateNUTListen := settledListen defaults settings.aggregateNUTListen }

/-- `a.loadControllerSettings`. -/
def loadControllerSettings (defaults : ControllerSettings) :
    AggregateProgram (Except GoError ControllerSettings) := do
  match ← Program.perform (AggregateOp.loadSettings defaults) with
  | .error e => return .error e
  | .ok settings =>
    return .ok (settle defaults settings)

/-- The handler once the settings are loaded. -/
def applyPatch (ctx : Nat) (patch : SettingsPatch) (current : ControllerSettings) :
    AggregateProgram SettingsReply :=
  let next := patch.next current
  match checkListen next with
  | some reply => return reply
  | none => do
    match ← apply ctx next.aggregateNUTEnabled next.aggregateNUTListen with
    | .error e => return .error 502 e.message
    | .ok () =>
      match ← Program.perform (AggregateOp.saveSettings next) with
      | .error e => do
        let _ ← apply ctx current.aggregateNUTEnabled current.aggregateNUTListen
        return .error 500 e.message
      | .ok () => return .saved next

/-- `a.handleControllerSettings` for a PATCH. -/
def handleControllerSettings (defaults : ControllerSettings) (ctx : Nat) (patch : SettingsPatch) :
    AggregateProgram SettingsReply :=
  if patch.aggregateNUTEnabled = none ∧ patch.aggregateNUTListen = none then
    return .error 400 "controller settings patch is empty"
  else do
    match ← loadControllerSettings defaults with
    | .error e => return .error 500 e.message
    | .ok current => applyPatch ctx patch current

inductive SettingsTask where
  | patch (ctx : Nat) (body : SettingsPatch)
  | watcher (ctx ch : Nat)
deriving DecidableEq, Repr

def SettingsTask.code (defaults : ControllerSettings) : SettingsTask → AggregateProgram Unit
  | .patch ctx body => do
    let _ ← handleControllerSettings defaults ctx body
    -- the request is over
    Program.perform (AggregateOp.cancel ctx)
  | .watcher ctx ch => Strom.Aggregate.watcher ctx ch

def startsGoroutine : AggregateOp → List SettingsTask
  | .watch ctx ch => [.watcher ctx ch]
  | _ => []

def settingsRuntime (defaults : ControllerSettings) :
    Runtime SettingsTask AggregateOp AggregateOp.Reply Choice Controller where
  code := SettingsTask.code defaults
  perform := perform
  starts := startsGoroutine

abbrev SettingsPool := Pool Controller (Thread SettingsTask AggregateOp AggregateOp.Reply)

/-! ## Stages of a request -/

/-- Which settings a request applies: the new ones, or the loaded ones again because
    the new ones could not be stored. -/
inductive Phase where
  | applying (current next : ControllerSettings)
  | restoring (current : ControllerSettings)

def Phase.settings : Phase → ControllerSettings
  | .applying _ next => next
  | .restoring current => current

inductive RequestStage where
  | loading
  | calling (phase : Phase) (stage : Stage)
  | saving (current next : ControllerSettings)
  /-- The handler has returned. -/
  | leaving
  | gone
  /-- A goroutine. -/
  | goroutine (stage : Stage)

/-- The request while, and after, it calls `Apply`. -/
def RequestStage.called : Phase → Stage → RequestStage
  | .applying current next, .returned => .saving current next
  | .restoring _, .returned => .leaving
  | _, .failed => .leaving
  | phase, stage => .calling phase stage

/-- The request once it has loaded the settings. -/
def RequestStage.loaded (patch : SettingsPatch) (current : ControllerSettings) : RequestStage :=
  match checkListen (patch.next current) with
  | some _ => .leaving
  | none => .calling (.applying current (patch.next current)) .asking

def SettingsTask.next (defaults : ControllerSettings) :
    SettingsTask → RequestStage → (op : AggregateOp) → op.Reply → Option RequestStage
  | .patch _ body, .loading, .loadSettings defaults', reply =>
    if defaults' = defaults then
      match reply with
      | .error _ => some .leaving
      | .ok settings => some (.loaded body (settle defaults settings))
    else none
  | .patch ctx _, .loading, .cancel ctx', _ => if ctx' = ctx then some .gone else none
  | .patch ctx _, .calling phase stage, op, reply =>
    (applyNext ctx phase.settings.aggregateNUTEnabled phase.settings.aggregateNUTListen stage op
      reply).map (.called phase)
  | .patch _ _, .saving current next, .saveSettings settings, reply =>
    if settings = next then
      match reply with
      | .ok _ => some .leaving
      | .error _ => some (.calling (.restoring current) .asking)
    else none
  | .patch ctx _, .leaving, .cancel ctx', _ => if ctx' = ctx then some .gone else none
  | .watcher ctx ch, .goroutine stage, op, reply =>
    (Task.next (.watcher ctx ch) stage op reply).map .goroutine
  | _, _, _, _ => none

def SettingsTask.start : SettingsTask → RequestStage
  | .patch _ _ => .loading
  | .watcher _ _ => .goroutine .selecting

def SettingsTask.ended : SettingsTask → RequestStage → Prop
  | .patch _ _, stage => stage = .gone
  | .watcher ctx ch, stage => ∃ inner, stage = .goroutine inner ∧ Task.ended (.watcher ctx ch) inner

section Follows

variable {defaults current : ControllerSettings} {ctx : Nat} {body : SettingsPatch}

theorem calling_follows (phase : Phase) :
    (Strom.Aggregate.apply ctx phase.settings.aggregateNUTEnabled
      phase.settings.aggregateNUTListen).Follows ((SettingsTask.patch ctx body).next defaults)
      (fun stage result => stage = .called phase (.ofResult result)) (.calling phase .asking) := by
  have inside : ∀ stage op reply stage',
      applyNext ctx phase.settings.aggregateNUTEnabled phase.settings.aggregateNUTListen stage op
        reply = some stage' →
      (SettingsTask.patch ctx body).next defaults (.called phase stage) op reply =
        some (.called phase stage') := by
    intro stage op reply stage' reached
    -- a call that has returned makes no move
    have going : RequestStage.called phase stage = .calling phase stage := by
      cases stage <;> cases phase <;> first | rfl | cases reached
    rw [going]
    simp [SettingsTask.next, reached]
  have starts : RequestStage.called phase .asking = .calling phase .asking := by cases phase <;> rfl
  rw [← starts]
  apply ((apply_follows ctx _ _).embed inside).mono
  rintro _ result ⟨stage, rfl, rfl⟩
  rfl

theorem applyPatch_follows : (applyPatch ctx body current).Follows
    ((SettingsTask.patch ctx body).next defaults) (fun stage _ => stage = .leaving)
    (.loaded body current) := by
  simp only [applyPatch, RequestStage.loaded]
  generalize body.next current = next
  cases checkListen next with
  | some reply => rfl
  | none =>
    dsimp only
    apply (Program.follows_bind _ _ _).mpr
    apply (calling_follows (.applying current next)).mono
    rintro _ result rfl
    cases result with
    | error e => rfl
    | ok u =>
      intro reply
      cases reply with
      | ok u => exact ⟨.leaving, if_pos rfl, rfl⟩
      | error e =>
        refine ⟨.calling (.restoring current) .asking, if_pos rfl, ?_⟩
        change ((Strom.Aggregate.apply ctx _ _).bind _).Follows _ _ _
        apply (Program.follows_bind _ _ _).mpr
        apply (calling_follows (.restoring current)).mono
        rintro _ result rfl
        cases result <;> rfl

-- otherwise the unifier evaluates the checks on the strings of a patch
attribute [local irreducible] applyPatch

theorem settings_code_follows (defaults : ControllerSettings) (task : SettingsTask) :
    ((settingsRuntime defaults).code task).Follows (task.next defaults)
      (fun stage _ => task.ended stage) task.start := by
  cases task with
  | patch ctx body =>
    have handled : (handleControllerSettings defaults ctx body).Follows
        ((SettingsTask.patch ctx body).next defaults)
        (fun stage _ => stage = .leaving ∨ stage = .loading) .loading := by
      simp only [handleControllerSettings]
      split
      · -- an empty patch never loads the settings
        show RequestStage.loading = .leaving ∨ RequestStage.loading = .loading
        simp
      · intro reply
        cases reply with
        | error e => exact ⟨.leaving, if_pos rfl, .inl rfl⟩
        | ok settings =>
          refine ⟨.loaded body (settle defaults settings), if_pos rfl, ?_⟩
          exact applyPatch_follows.mono fun stage _ left => .inl left
    refine (Program.follows_bind _ _ _).mpr (handled.mono ?_)
    rintro _ reply (rfl | rfl)
    · exact fun _ => ⟨.gone, if_pos rfl, rfl⟩
    · exact fun _ => ⟨.gone, if_pos rfl, rfl⟩
  | watcher ctx ch =>
    refine (Program.Follows.embed (f := RequestStage.goroutine) (code_follows (.watcher ctx ch))
      ?_).mono ?_
    · intro stage op reply stage' reached
      simp [SettingsTask.next, reached]
    · rintro _ _ ⟨stage, rfl, ended⟩
      exact ⟨stage, rfl, ended⟩

end Follows

/-- Every move of a request or a goroutine. -/
inductive SettingsMoves (defaults : ControllerSettings) :
    SettingsTask → RequestStage → (op : AggregateOp) → op.Reply → RequestStage → Prop where
  | unloaded {ctx : Nat} {body : SettingsPatch} (e : GoError) : SettingsMoves defaults
      (.patch ctx body) .loading (.loadSettings defaults) (.error e) .leaving
  | loaded {ctx : Nat} {body : SettingsPatch} (settings : ControllerSettings) : SettingsMoves defaults
      (.patch ctx body) .loading (.loadSettings defaults) (.ok settings)
        (.loaded body (settle defaults settings))
  | call {ctx : Nat} {body : SettingsPatch} {phase : Phase} {enabled : Bool} {listen : String}
      {stage stage' : Stage} {op : AggregateOp} {reply : op.Reply}
      (settings : phase.settings = ⟨enabled, listen⟩)
      (moves : Moves (.apply ctx enabled listen) stage op reply stage') : SettingsMoves defaults
      (.patch ctx body) (.calling phase stage) op reply (.called phase stage')
  | save {ctx : Nat} {body : SettingsPatch} (current next : ControllerSettings) (u : Unit) :
      SettingsMoves defaults (.patch ctx body) (.saving current next) (.saveSettings next) (.ok u)
        .leaving
  | unsaved {ctx : Nat} {body : SettingsPatch} (current next : ControllerSettings) (e : GoError) :
      SettingsMoves defaults (.patch ctx body) (.saving current next) (.saveSettings next) (.error e)
        (.calling (.restoring current) .asking)
  | leave {ctx : Nat} {body : SettingsPatch} {stage : RequestStage}
      (left : stage = .loading ∨ stage = .leaving) :
      SettingsMoves defaults (.patch ctx body) stage (.cancel ctx) () .gone
  | goroutine {ctx ch : Nat} {stage stage' : Stage} {op : AggregateOp} {reply : op.Reply}
      (moves : Moves (.watcher ctx ch) stage op reply stage') : SettingsMoves defaults
      (.watcher ctx ch) (.goroutine stage) op reply (.goroutine stage')

theorem settingsMoves_of_next {defaults : ControllerSettings} {task : SettingsTask}
    {stage stage' : RequestStage} {op : AggregateOp} {reply : op.Reply}
    (reached : task.next defaults stage op reply = some stage') :
    SettingsMoves defaults task stage op reply stage' := by
  cases task with
  | watcher ctx ch =>
    cases stage with
    | goroutine inner =>
      simp only [SettingsTask.next, Option.map_eq_some_iff] at reached
      obtain ⟨inner', reached, rfl⟩ := reached
      exact .goroutine (moves_of_next reached)
    | _ => simp [SettingsTask.next] at reached
  | patch ctx body =>
    cases stage with
    | loading =>
      cases op <;> simp only [SettingsTask.next, reduceCtorEq] at reached
      · split_ifs at reached with same
        subst same
        cases reached
        exact .leave (.inl rfl)
      · split_ifs at reached with same
        subst same
        split at reached <;> cases reached
        · exact .unloaded _
        · exact .loaded _
    | calling phase inner =>
      simp only [SettingsTask.next, Option.map_eq_some_iff] at reached
      obtain ⟨inner', reached, rfl⟩ := reached
      have moves : Moves (.apply ctx phase.settings.aggregateNUTEnabled
          phase.settings.aggregateNUTListen) inner op reply inner' := moves_of_next reached
      exact .call rfl moves
    | saving current next =>
      cases op <;> simp only [SettingsTask.next, reduceCtorEq] at reached
      split_ifs at reached with same
      subst same
      split at reached <;> cases reached
      · exact .save _ _ _
      · exact .unsaved _ _ _
    | leaving =>
      cases op <;> simp only [SettingsTask.next, reduceCtorEq] at reached
      split_ifs at reached with same
      subst same
      cases reached
      exact .leave (.inr rfl)
    | gone => cases op <;> simp [SettingsTask.next] at reached
    | goroutine inner => cases op <;> simp [SettingsTask.next] at reached

end Strom.Aggregate
