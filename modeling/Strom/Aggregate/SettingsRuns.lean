import Strom.Aggregate.Listeners
import Strom.Aggregate.Settings

/-!
# The listener and the persisted flag

Between requests the listener should be active exactly if the store says so.
`Kept` is what holds in every state of every interleaving: where the flag is set
and no listener is recorded, some request owes one (`owed`); and a recorded listener
is either that of the controller's own start, or a goroutine is waiting for the end
of the request that started it (`watched`).  So it breaks only where a goroutine, a
failure or a late store leaves the two apart, which `Permitted` rules out.
-/

namespace Strom.Aggregate

open Strom.Go Strom.Effects

/-- The persisted `AggregateNUTEnabled`. -/
def Controller.flag (defaults : ControllerSettings) (s : Controller) : Bool :=
  (s.settings.load defaults).aggregateNUTEnabled

theorem flag_save {defaults settings : ControllerSettings} {rows rows' : SettingsRows}
    (saved : rows.save settings = .ok rows') :
    (rows'.load defaults).aggregateNUTEnabled = settings.aggregateNUTEnabled := by
  unfold SettingsRows.save at saved
  split_ifs at saved
  cases saved
  cases settings.aggregateNUTEnabled with
  | true => rfl
  | false => rfl

/-- The store refuses only an empty address. -/
theorem save_ok {settings : ControllerSettings} (rows : SettingsRows)
    (listen : trimSpace settings.aggregateNUTListen ≠ "") :
    ∃ rows', rows.save settings = .ok rows' :=
  ⟨_, if_neg listen⟩

/-! ## Runs -/

/-- The controller as it starts serving requests.  With the flag set, `listen` is the
    address of its listener, whose channel has the number 0. -/
def startedWith (rows : SettingsRows) (enabled : Bool) (listen : String) : Controller :=
  if enabled then
    { fields := { enabled := true, listen, listener := some ⟨0, listen⟩, stopCh := some 0 }
      opened := 1
      listening := [⟨0, listen⟩]
      settings := rows }
  else { fields := { listen }, settings := rows }

/-- The goroutine of the controller's own start; 0 is the context of `main`. -/
def mainGoroutine (enabled : Bool) : List SettingsTask := if enabled then [.watcher 0 0] else []

/-- The request of number `i`, with a context of its own. -/
def requests (patches : List SettingsPatch) : List SettingsTask :=
  patches.mapIdx fun i body => .patch (i + 1) body

/-- A controller with these rows in its store and these requests to come. -/
def serving (defaults : ControllerSettings) (rows : SettingsRows) (listen : String)
    (patches : List SettingsPatch) : SettingsPool :=
  let enabled := (rows.load defaults).aggregateNUTEnabled
  (settingsRuntime defaults).start (startedWith rows enabled listen)
    (mainGoroutine enabled ++ requests patches)

/-- The controller's start leads there. -/
theorem startedWith_enabled (rows : SettingsRows) (listen address : String) :
    ∃ pool, replay runtime.step (runtime.start { settings := rows } [.apply 0 true listen])
        (openingTurns 0 address) = some pool ∧
      pool.state = startedWith rows true address ∧
      pool.threads.map Thread.task = [.apply 0 true listen, .watcher 0 0] :=
  ⟨_, rfl, rfl, rfl⟩

/-- The request of the thread ends after this operation and stores nothing. -/
def givesUp (thread : Thread SettingsTask AggregateOp AggregateOp.Reply) : Bool :=
  match thread.rest with
  | .call (.disable _) rest =>
    match rest () with
    | .call (.cancel _) _ => true
    | _ => false
  | _ => false

/-- While the flag is set and no listener is recorded, nothing fails and no request
    gives up; the flag is set only while a listener is recorded; and while it is
    set no goroutine takes the listener away. -/
def mayMove (flag active : Bool) (thread : Thread SettingsTask AggregateOp AggregateOp.Reply)
    (choice : Choice) : Bool :=
  match thread.op?, thread.task, choice with
  | some .take, .watcher _ _, _ => !flag || !active
  | some (.listen _), _, .refused _ => !flag || active
  | some (.saveSettings _), _, .refused _ => !flag || active
  | some (.saveSettings settings), _, _ => !settings.aggregateNUTEnabled || active
  | some (.disable _), _, _ => !givesUp thread || !flag || active
  | _, _, _ => true

def Permitted (defaults : ControllerSettings) (pool : SettingsPool) (turn : Turn Choice) : Bool :=
  pool.threads[turn.thread]?.all fun thread =>
    mayMove (pool.state.flag defaults) pool.state.fields.listener.isSome thread turn.choice

/-- No request is in progress, and no goroutine can take a step. -/
structure Quiescent (defaults : ControllerSettings) (pool : SettingsPool) : Prop where
  requests : ∀ thread ∈ pool.threads, ∀ ctx body, thread.task = .patch ctx body →
    thread.op? = none ∨ thread.op? = some (.loadSettings defaults)
  goroutines : ∀ turn thread, pool.threads[turn.thread]? = some thread →
    (∃ ctx ch, thread.task = .watcher ctx ch) → (settingsRuntime defaults).step pool turn = none

/-! ## Stop channels -/

/-- The channels that only the thread at this stage will record or close. -/
def Stage.channels : Stage → List Nat
  | .closingChannel _ ch => [ch]
  | .recording ln => [ln.id]
  | _ => []

def RequestStage.channels : RequestStage → List Nat
  | .calling _ stage => stage.channels
  | .goroutine stage => stage.channels
  | _ => []

abbrev SettingsPlaces := List (SettingsTask × RequestStage)

/-- How often a channel is recorded, in the hands of a thread, or closed. -/
def channelCount (places : SettingsPlaces) (s : Controller) (ch : Nat) : Nat :=
  s.fields.stopCh.toList.count ch + (places.flatMap fun place => place.2.channels).count ch +
    s.closedChannels.count ch

theorem channels_called (phase : Phase) (stage : Stage) :
    (RequestStage.called phase stage).channels = stage.channels := by
  cases phase <;> cases stage <;> rfl

theorem channels_afterTake (taken : Option Listener × Option Nat) :
    (Stage.afterTake taken).channels = taken.2.toList := by
  obtain ⟨ln, ch⟩ := taken
  cases ln <;> cases ch <;> rfl

theorem channels_afterChannel (ln : Option Listener) : (Stage.afterChannel ln).channels = [] := by
  cases ln <;> rfl

section Step

variable {defaults : ControllerSettings} {places : SettingsPlaces} {s s' : Controller}
  {choice : Choice} {op : AggregateOp} {reply : op.Reply}

/-- Only a new listener comes with a new channel. -/
theorem channels_moves {task : Task} {stage stage' : Stage}
    (moves : Moves task stage op reply stage') (performed : perform op choice s = some (reply, s'))
    (ch : Nat) : s.opened ≤ s'.opened ∧
      s'.fields.stopCh.toList.count ch + stage'.channels.count ch + s'.closedChannels.count ch ≤
        s.fields.stopCh.toList.count ch + stage.channels.count ch + s.closedChannels.count ch +
          if s.opened ≤ ch ∧ ch < s'.opened then 1 else 0 := by
  cases moves with
  | restart | unchanged =>
    obtain ⟨-, -, rfl⟩ := perform_needsRestart.mp performed
    simp [Stage.channels]
  | take taken =>
    obtain ⟨-, rfl, rfl⟩ := perform_take.mp performed
    rw [channels_afterTake]
    simp [Stage.channels, Controller.taken]
  | closeChannel ln ch' =>
    obtain ⟨-, rfl⟩ := perform_closeChannel.mp performed
    rw [channels_afterChannel]
    simp [Stage.channels, List.count_cons]
    omega
  | closeListener ln =>
    obtain ⟨-, rfl⟩ := perform_closeListener.mp performed
    simp [Stage.channels]
  | disable address =>
    obtain ⟨-, rfl⟩ := perform_disable.mp performed
    simp [Stage.channels]
  | listen address ln =>
    obtain ⟨-, -, fresh, rfl⟩ := perform_listen_ok.mp performed
    simp only [Stage.channels, List.count_singleton, fresh]
    refine ⟨by omega, ?_⟩
    split_ifs with same inside <;> simp_all
    omega
  | refused address e =>
    obtain ⟨-, rfl⟩ := perform_listen_error.mp performed
    simp [Stage.channels]
  | record ln =>
    -- the channel that was recorded before is not mentioned any more
    obtain ⟨-, rfl⟩ := perform_record.mp performed
    simp [Stage.channels]
    omega
  | watch ln =>
    obtain ⟨-, rfl⟩ := perform_watch.mp performed
    simp [Stage.channels]
  | done =>
    obtain ⟨-, -, rfl⟩ := perform_select_done.mp performed
    simp [Stage.channels]
  | closed =>
    obtain ⟨-, -, rfl⟩ := perform_select_closed.mp performed
    simp [Stage.channels]
  | cancel =>
    obtain ⟨-, rfl⟩ := perform_cancel.mp performed
    simp [Stage.channels]

/-- The rest of the controller, by the operation. -/
theorem channels_settingsMoves {task : SettingsTask} {stage stage' : RequestStage}
    (moves : SettingsMoves defaults task stage op reply stage')
    (performed : perform op choice s = some (reply, s')) (ch : Nat) : s.opened ≤ s'.opened ∧
      s'.fields.stopCh.toList.count ch + stage'.channels.count ch + s'.closedChannels.count ch ≤
        s.fields.stopCh.toList.count ch + stage.channels.count ch + s.closedChannels.count ch +
          if s.opened ≤ ch ∧ ch < s'.opened then 1 else 0 := by
  cases moves with
  | call settings moves =>
    rw [channels_called]
    exact channels_moves moves performed ch
  | goroutine moves => exact channels_moves moves performed ch
  | unloaded e =>
    obtain ⟨-, rfl⟩ := perform_loadSettings_error.mp performed
    simp [RequestStage.channels]
  | @loaded ctx body settings =>
    obtain ⟨-, -, rfl⟩ := perform_loadSettings_ok.mp performed
    have nothing : (RequestStage.loaded body (settle defaults settings)).channels = [] := by
      unfold RequestStage.loaded
      split <;> rfl
    rw [nothing]
    simp [RequestStage.channels]
  | save current next u =>
    obtain ⟨-, rows, -, rfl⟩ := perform_saveSettings_ok.mp performed
    simp [RequestStage.channels]
  | unsaved current next e =>
    obtain rfl := perform_saveSettings_error performed
    simp [RequestStage.channels, Stage.channels]
  | leave left =>
    obtain ⟨-, rfl⟩ := perform_cancel.mp performed
    rcases left with rfl | rfl <;> simp [RequestStage.channels]

/-! ## The invariant -/

/-- Between taking the listener and recording another one, or giving it up. -/
def Stage.between : Stage → Bool
  | .closingChannel _ _ => true
  | .closingListener _ => true
  | .stopped => true
  | .recording _ => true
  | _ => false

/-- The request will record a listener or store that there is none. -/
def Owes : SettingsTask × RequestStage → Prop
  | (.patch _ _, .calling _ stage) => stage.between = true
  | (.patch _ _, .saving _ next) => next.aggregateNUTEnabled = false
  | _ => False

/-- The thread has not stopped the manager, nor is it about to store that it has. -/
def Untouched : SettingsTask × RequestStage → Prop
  | (.patch _ _, .calling _ stage) => stage = .asking ∨ stage = .stopping
  | (.patch _ _, .saving _ next) => next.aggregateNUTEnabled = true
  | _ => True

/-- The goroutine of the listener waits for the request that started it, or will. -/
inductive Watched (places : SettingsPlaces) (ln : Listener) : Prop
  | starting {ctx : Nat} {body : SettingsPatch} {phase : Phase}
      (member : (.patch ctx body, .calling phase (.watching ln)) ∈ places)
  | waiting {ctx : Nat} {body : SettingsPatch} {stage : RequestStage} {inner : Stage}
      (member : (.watcher ctx ln.id, .goroutine inner) ∈ places)
      (waits : inner = .selecting ∨ inner = .stopping)
      (request : (.patch ctx body, stage) ∈ places) (begun : stage ≠ .loading)

/-- What the handler has checked. -/
def RequestStage.Checked : RequestStage → Prop
  | .calling (.applying _ next) _ => trimSpace next.aggregateNUTListen ≠ ""
  | .saving _ next => trimSpace next.aggregateNUTListen ≠ ""
  | _ => True

structure Kept (defaults : ControllerSettings) (places : SettingsPlaces) (s : Controller) : Prop where
  stopCh : s.fields.stopCh = s.fields.listener.map (·.id)
  once : ∀ ch, channelCount places s ch ≤ if ch < s.opened then 1 else 0
  checked : ∀ place ∈ places, place.2.Checked
  finished : ∀ ctx body, (.patch ctx body, .gone) ∈ places → ctx ∈ s.cancelled
  owed : s.flag defaults = true → s.fields.listener = none → ∃ place ∈ places, Owes place
  watched : ∀ ln, s.fields.listener = some ln →
    (s.flag defaults = true ∧ s.fields.enabled = true ∧ ∀ place ∈ places, Untouched place) ∨
      Watched places ln

section Moves

variable {task : SettingsTask} {stage stage' : RequestStage}

theorem begun_of_moves (moves : SettingsMoves defaults task stage op reply stage') :
    stage' ≠ .loading := by
  cases moves with
  | @loaded ctx body settings =>
    unfold RequestStage.loaded
    split <;> simp
  | @call _ _ phase _ _ inner inner' => cases phase <;> cases inner' <;> simp [RequestStage.called]
  | _ => simp

theorem checked_of_moves (moves : SettingsMoves defaults task stage op reply stage')
    (checked : stage.Checked) : stage'.Checked := by
  cases moves with
  | @loaded ctx body settings =>
    unfold RequestStage.loaded
    split
    · trivial
    · next passed =>
      -- the first check is that the address is not empty
      unfold checkListen at passed
      split_ifs at passed with empty
      exact empty
  | @call _ _ phase _ _ inner inner' => cases phase <;> cases inner' <;> first | exact checked | exact True.intro
  | _ => trivial

theorem stopCh_performed (moves : SettingsMoves defaults task stage op reply stage')
    (performed : perform op choice s = some (reply, s'))
    (stopCh : s.fields.stopCh = s.fields.listener.map (·.id)) :
    s'.fields.stopCh = s'.fields.listener.map (·.id) := by
  by_cases taking : op = .take
  · subst taking
    obtain ⟨-, -, rfl⟩ := perform_take.mp performed
    rfl
  by_cases recording : ∃ ln ch, op = .record ln ch
  · obtain ⟨ln, ch, rfl⟩ := recording
    obtain ⟨-, rfl⟩ := perform_record.mp performed
    cases moves with
    | call settings moves => cases moves; rfl
    | goroutine moves => cases moves
  · obtain ⟨listener, channel⟩ := perform_keeps_listener performed taking (by simpa using recording)
    rw [listener, channel, stopCh]

/-- A request leaves with its context cancelled. -/
theorem cancelled_of_gone {ctx : Nat} {body : SettingsPatch}
    (moves : SettingsMoves defaults (.patch ctx body) stage op reply stage')
    (gone : stage' = .gone) (performed : perform op choice s = some (reply, s')) :
    ctx ∈ s'.cancelled := by
  cases moves with
  | leave left =>
    obtain ⟨-, rfl⟩ := perform_cancel.mp performed
    simp
  | loaded settings =>
    unfold RequestStage.loaded at gone
    split at gone <;> cases gone
  | @call _ _ phase _ _ inner inner' => cases phase <;> cases inner' <;> cases gone
  | _ => cases gone

theorem between_afterTake (taken : Option Listener × Option Nat) :
    (Stage.afterTake taken).between = true := by
  obtain ⟨ln, ch⟩ := taken
  cases ln <;> cases ch <;> rfl

theorem between_afterChannel (ln : Option Listener) : (Stage.afterChannel ln).between = true := by
  cases ln <;> rfl

/-- A call that has stopped the manager has not returned. -/
theorem called_of_between (phase : Phase) {inner : Stage} (between : inner.between = true) :
    RequestStage.called phase inner = .calling phase inner := by
  cases inner <;> cases phase <;> first | rfl | cases between

theorem givesUp_of_at {ctx : Nat} {body : SettingsPatch} {current : ControllerSettings}
    {inner : Stage} {listen : String} {thread : Thread SettingsTask AggregateOp AggregateOp.Reply}
    (here : Runtime.At (SettingsTask.next defaults) SettingsTask.ended
      (.patch ctx body, .calling (.restoring current) inner) thread)
    (issues : thread.op? = some (.disable listen)) : givesUp thread = true := by
  obtain ⟨rest, same⟩ := Thread.op?_eq_some.mp issues
  have follows := here.follows
  rw [same] at follows
  obtain ⟨stage', reached, later⟩ := follows ()
  have left : stage' = .leaving := by
    cases settingsMoves_of_next reached with
    | call settings moves => cases moves; rfl
  subst left
  unfold givesUp
  rw [same]
  dsimp only
  cases after : rest () with
  | ret value =>
    rw [after] at later
    cases later
  | call op rest' =>
    rw [after] at later
    cases op with
    | cancel ctx' => rfl
    | _ =>
      obtain ⟨_, reached, -⟩ := later default
      cases reached

/-- A request that may move pays what it owes, or goes on owing it. -/
theorem owes_of_moves {thread : Thread SettingsTask AggregateOp AggregateOp.Reply}
    (here : Runtime.At (SettingsTask.next defaults) SettingsTask.ended (task, stage) thread)
    (issues : thread.op? = some op)
    (permitted : mayMove (s.flag defaults) s.fields.listener.isSome thread choice = true)
    (checked : stage.Checked) (moves : SettingsMoves defaults task stage op reply stage')
    (performed : perform op choice s = some (reply, s')) (flag : s'.flag defaults = true)
    (idle : s'.fields.listener = none) : Owes (task, stage') ∨
      s.flag defaults = true ∧ s.fields.listener = none ∧ ¬ Owes (task, stage) := by
  have goroutine : thread.task = task := here.task
  unfold mayMove at permitted
  rw [issues, goroutine] at permitted
  cases moves with
  | unloaded e =>
    obtain ⟨-, rfl⟩ := perform_loadSettings_error.mp performed
    exact .inr ⟨flag, idle, id⟩
  | loaded settings =>
    obtain ⟨-, -, rfl⟩ := perform_loadSettings_ok.mp performed
    exact .inr ⟨flag, idle, id⟩
  | leave left =>
    obtain ⟨-, rfl⟩ := perform_cancel.mp performed
    rcases left with rfl | rfl <;> exact .inr ⟨flag, idle, id⟩
  | save current next u =>
    -- the flag is set only while a listener is recorded
    obtain ⟨rfl, rows, saved, rfl⟩ := perform_saveSettings_ok.mp performed
    have enabled : next.aggregateNUTEnabled = true := (flag_save saved).symm.trans flag
    simp_all
  | unsaved current next e =>
    obtain ⟨rows, saved⟩ := save_ok s.settings checked
    obtain rfl := perform_saveSettings_error performed
    cases choice <;> simp_all [perform]
  | @call ctx body phase enabled listen inner inner' op reply settings moves =>
    cases moves with
    | restart | unchanged =>
      obtain ⟨-, -, rfl⟩ := perform_needsRestart.mp performed
      exact .inr ⟨flag, idle, Bool.false_ne_true⟩
    | take taken =>
      left
      rw [called_of_between _ (between_afterTake taken)]
      exact between_afterTake taken
    | closeChannel ln ch =>
      left
      rw [called_of_between _ (between_afterChannel ln)]
      exact between_afterChannel ln
    | closeListener ln =>
      left
      rw [called_of_between _ rfl]
      rfl
    | listen address ln =>
      left
      rw [called_of_between _ rfl]
      rfl
    | disable address =>
      obtain ⟨-, rfl⟩ := perform_disable.mp performed
      cases phase with
      | applying current next =>
        left
        show next.aggregateNUTEnabled = false
        exact congrArg ControllerSettings.aggregateNUTEnabled settings
      | restoring current =>
        -- giving up is for when the flag is false, or a listener recorded
        have last := givesUp_of_at here issues
        change s.flag defaults = true at flag
        change s.fields.listener = none at idle
        simp [last, idle, flag] at permitted
    | refused address e =>
      obtain ⟨rfl, rfl⟩ := perform_listen_error.mp performed
      simp_all
    | record ln =>
      obtain ⟨-, rfl⟩ := perform_record.mp performed
      cases idle
    | watch ln =>
      obtain ⟨-, rfl⟩ := perform_watch.mp performed
      exact .inr ⟨flag, idle, Bool.false_ne_true⟩
  | goroutine moves =>
    have same : s'.flag defaults = s.flag defaults := by
      rw [Controller.flag, perform_keeps_settings performed]
      · rfl
      · rintro settings rfl
        cases moves
    rw [same] at flag
    refine .inr ⟨flag, ?_, id⟩
    by_cases taking : op = .take
    · subst taking
      simp_all
    · have kept := perform_keeps_listener performed taking (by rintro ln ch rfl; cases moves)
      rw [← kept.1]
      exact idle

theorem untouched_of_moves (untouched : Untouched (task, stage)) (enabled : s.fields.enabled = true)
    (moves : SettingsMoves defaults task stage op reply stage') (notTake : op ≠ .take)
    (performed : perform op choice s = some (reply, s')) : Untouched (task, stage') := by
  cases moves with
  | loaded settings =>
    unfold RequestStage.loaded
    split
    · trivial
    · exact .inl rfl
  | unsaved current next e => exact .inl rfl
  | unloaded | save | leave | goroutine => trivial
  | @call ctx body phase wanted listen inner inner' op reply settings moves =>
    cases moves with
    | restart => cases phase <;> exact .inr rfl
    | unchanged =>
      cases phase with
      | restoring current => trivial
      | applying current next =>
        -- nothing changes only if the listener is wanted, for it is enabled
        obtain ⟨-, same, -⟩ := perform_needsRestart.mp performed
        show next.aggregateNUTEnabled = true
        have wanted : next.aggregateNUTEnabled = wanted :=
          congrArg ControllerSettings.aggregateNUTEnabled settings
        simp_all [Fields.needsRestart]
    | take taken => exact absurd rfl notTake
    | _ => rcases untouched with early | early <;> cases early

/-- While the controller's own listener is recorded the flag stays set. -/
theorem own_of_moves (untouched : Untouched (task, stage)) (flag : s.flag defaults = true)
    (enabled : s.fields.enabled = true)
    (moves : SettingsMoves defaults task stage op reply stage')
    (performed : perform op choice s = some (reply, s')) (notTake : op ≠ .take)
    (notRecord : ∀ ln ch, op ≠ .record ln ch) :
    s'.flag defaults = true ∧ s'.fields.enabled = true := by
  constructor
  · by_cases saving : ∃ settings, op = .saveSettings settings
    · obtain ⟨settings, rfl⟩ := saving
      cases moves with
      | save current next u =>
        obtain ⟨-, rows, saved, rfl⟩ := perform_saveSettings_ok.mp performed
        exact (flag_save saved).trans untouched
      | unsaved current next e =>
        obtain rfl := perform_saveSettings_error performed
        exact flag
      | call settings moves => cases moves
      | goroutine moves => cases moves
    · rw [Controller.flag, perform_keeps_settings performed (by simpa using saving)]
      exact flag
  · have notDisable : ∀ listen, op ≠ .disable listen := by
      rintro listen rfl
      cases moves with
      | call settings moves =>
        cases moves
        rcases untouched with early | early <;> cases early
      | goroutine moves => cases moves
    rw [perform_keeps_fields performed notTake notRecord notDisable]
    exact enabled

variable {i : Nat}

/-- After a move every thread is where it was, but for the one that has moved. -/
theorem place_stays (found : places[i]? = some (task, stage)) (stage' : RequestStage)
    (started : SettingsPlaces) {place : SettingsTask × RequestStage} (member : place ∈ places) :
    place ∈ places.set i (task, stage') ++ started ∨ place = (task, stage) := by
  rcases mem_set_or_getElem? member i (task, stage') with old | mover
  · exact .inl (List.mem_append_left _ old)
  · rw [found] at mover
    exact .inr (Option.some.inj mover).symm

theorem place_moved (found : places[i]? = some (task, stage)) (stage' : RequestStage)
    (started : SettingsPlaces) : (task, stage') ∈ places.set i (task, stage') ++ started :=
  List.mem_append_left _ (List.mem_set (List.getElem?_eq_some_iff.mp found).1 _)

theorem mem_places_step {stage' : RequestStage} {place : SettingsTask × RequestStage}
    (member : place ∈ places.set i (task, stage') ++
      Runtime.places SettingsTask.start (startsGoroutine op)) :
    place ∈ places ∨ place = (task, stage') ∨
      ∃ ctx ch, place = (.watcher ctx ch, .goroutine .selecting) := by
  rcases List.mem_append.mp member with member | member
  · rcases List.mem_or_eq_of_mem_set member with old | new
    · exact .inl old
    · exact .inr (.inl new)
  · obtain ⟨task', inside, rfl⟩ := List.mem_map.mp member
    cases op <;> simp only [startsGoroutine, List.mem_nil_iff] at inside
    obtain rfl := List.mem_singleton.mp inside
    exact .inr (.inr ⟨_, _, rfl⟩)

/-- The stop channel of the recorded listener is open. -/
theorem recorded_not_closed (stopCh : s.fields.stopCh = s.fields.listener.map (·.id))
    (once : ∀ ch, channelCount places s ch ≤ if ch < s.opened then 1 else 0) {ln : Listener}
    (recorded : s.fields.listener = some ln) : ln.id ∉ s.closedChannels := by
  intro closed
  have two := once ln.id
  have positive := List.count_pos_iff.mpr closed
  have mine : s.fields.stopCh.toList.count ln.id = 1 := by simp [stopCh, recorded]
  unfold channelCount at two
  split_ifs at two <;> omega

/-- As long as the listener stays recorded, it stays watched. -/
theorem watched_of_moves (found : places[i]? = some (task, stage))
    (moves : SettingsMoves defaults task stage op reply stage')
    (performed : perform op choice s = some (reply, s')) (notTake : op ≠ .take) {ln : Listener}
    (unclosed : ln.id ∉ s.closedChannels) (watched : Watched places ln) :
    Watched (places.set i (task, stage') ++
      Runtime.places SettingsTask.start (startsGoroutine op)) ln := by
  have moved := place_moved found stage' (Runtime.places SettingsTask.start (startsGoroutine op))
  cases watched with
  | starting member =>
    rcases place_stays found stage' (Runtime.places SettingsTask.start (startsGoroutine op)) member
      with old | mover
    · exact .starting old
    · cases mover
      have begun := begun_of_moves moves
      cases moves with
      | call settings moves =>
        cases moves with
        | watch =>
          refine .waiting ?_ (.inl rfl) moved begun
          simp [startsGoroutine, Runtime.places, SettingsTask.start]
      | leave left => rcases left with left | left <;> cases left
  | @waiting ctx body stage'' inner member waits request begun =>
    have request' : ∃ stage, (SettingsTask.patch ctx body, stage) ∈ places.set i (task, stage') ++
        Runtime.places SettingsTask.start (startsGoroutine op) ∧ stage ≠ .loading := by
      rcases place_stays found stage' _ request with old | mover
      · exact ⟨_, old, begun⟩
      · cases mover
        exact ⟨_, moved, begun_of_moves moves⟩
    obtain ⟨_, request', begun'⟩ := request'
    rcases place_stays found stage' _ member with old | mover
    · exact .waiting old waits request' begun'
    · cases mover
      cases moves with
      | goroutine moves =>
        cases moves with
        | done => exact .waiting moved (.inr rfl) request' begun'
        | closed =>
          obtain ⟨-, closed, -⟩ := perform_select_closed.mp performed
          exact absurd closed unclosed
        | take taken => exact absurd rfl notTake
        | _ => rcases waits with early | early <;> cases early

end Moves

end Step

section Run

variable {defaults : ControllerSettings} {places : SettingsPlaces} {pool next : SettingsPool}
  {turn : Turn Choice}

theorem once_step {task : SettingsTask} {stage stage' : RequestStage} {op : AggregateOp}
    {reply : op.Reply} {choice : Choice} {s s' : Controller} {i : Nat}
    (once : ∀ ch, channelCount places s ch ≤ if ch < s.opened then 1 else 0)
    (found : places[i]? = some (task, stage))
    (moves : SettingsMoves defaults task stage op reply stage')
    (performed : perform op choice s = some (reply, s')) (ch : Nat) :
    channelCount (places.set i (task, stage') ++
      Runtime.places SettingsTask.start (startsGoroutine op)) s' ch ≤
        if ch < s'.opened then 1 else 0 := by
  have before := once ch
  obtain ⟨opened, changed⟩ := channels_settingsMoves moves performed ch
  have moved := count_flatMap_set (fun place : SettingsTask × RequestStage => place.2.channels) found
    (task, stage') ch
  have started : (Runtime.places SettingsTask.start (startsGoroutine op)).flatMap
      (fun place => place.2.channels) = [] := by
    cases op <;> rfl
  unfold channelCount at before ⊢
  rw [List.flatMap_append, started, List.append_nil]
  dsimp only at moved
  split_ifs at * <;> omega

theorem kept_step (kept : Kept defaults places pool.state)
    (staged : Runtime.Staged (SettingsTask.next defaults) SettingsTask.ended places pool.threads)
    (permitted : Permitted defaults pool turn = true)
    (taken : (settingsRuntime defaults).step pool turn = some next) : ∃ places',
      Runtime.Staged (SettingsTask.next defaults) SettingsTask.ended places' next.threads ∧
        Kept defaults places' next.state := by
  obtain ⟨task, stage, op, reply, stage', found, issued, reached, performed, staged'⟩ :=
    Runtime.step_staged (settings_code_follows defaults) staged taken
  refine ⟨_, staged', ?_⟩
  replace performed : perform op turn.choice pool.state = some (reply, next.state) := performed
  have moves := settingsMoves_of_next reached
  have moved := place_moved found stage' (Runtime.places SettingsTask.start (startsGoroutine op))
  constructor
  · exact stopCh_performed moves performed kept.stopCh
  · exact once_step kept.once found moves performed
  · intro place member
    rcases mem_places_step member with old | rfl | ⟨ctx, ch, rfl⟩
    · exact kept.checked place old
    · exact checked_of_moves moves (kept.checked _ (List.mem_of_getElem? found))
    · trivial
  · intro ctx body member
    rcases mem_places_step member with old | new | ⟨ctx', ch, new⟩
    · exact perform_keeps_cancelled performed (kept.finished ctx body old)
    · cases new
      exact cancelled_of_gone moves rfl performed
    · cases new
  · intro flag idle
    obtain ⟨thread, present, issues⟩ := Option.bind_eq_some_iff.mp issued
    have here : Runtime.At (SettingsTask.next defaults) SettingsTask.ended (task, stage) thread := by
      obtain ⟨place, same, here⟩ := Runtime.staged_getElem? staged _ present
      rw [found] at same
      cases same
      exact here
    have mayMove : mayMove (pool.state.flag defaults) pool.state.fields.listener.isSome thread
        turn.choice = true := by
      simpa [Permitted, present] using permitted
    rcases owes_of_moves here issues mayMove (kept.checked _ (List.mem_of_getElem? found)) moves
      performed flag idle with owes | ⟨flagged, vacant, paid⟩
    · exact ⟨_, moved, owes⟩
    · obtain ⟨place, member, owes⟩ := kept.owed flagged vacant
      rcases place_stays found stage' _ member with old | mover
      · exact ⟨place, old, owes⟩
      · exact absurd (mover ▸ owes) paid
  · intro ln recorded
    by_cases taking : op = .take
    · subst taking
      obtain ⟨-, -, same⟩ := perform_take.mp performed
      rw [same] at recorded
      cases recorded
    by_cases recording : ∃ ln ch, op = .record ln ch
    · obtain ⟨ln', ch, rfl⟩ := recording
      obtain ⟨-, same⟩ := perform_record.mp performed
      rw [same] at recorded
      cases recorded
      cases moves with
      | @call _ _ phase =>
        rename_i moves
        cases moves
        right
        cases phase <;> exact .starting moved
      | goroutine moves => cases moves
    have notRecord : ∀ ln ch, op ≠ .record ln ch := by simpa using recording
    rw [(perform_keeps_listener performed taking notRecord).1] at recorded
    rcases kept.watched ln recorded with ⟨flag, enabled, untouched⟩ | watched
    · left
      have own := untouched _ (List.mem_of_getElem? found)
      obtain ⟨flag', enabled'⟩ := own_of_moves own flag enabled moves performed taking notRecord
      refine ⟨flag', enabled', ?_⟩
      intro place member
      rcases mem_places_step member with old | rfl | ⟨ctx, ch, rfl⟩
      · exact untouched place old
      · exact untouched_of_moves own enabled moves taking performed
      · trivial
    · right
      have unclosed := recorded_not_closed kept.stopCh kept.once recorded
      exact watched_of_moves found moves performed taking unclosed watched

theorem kept_start (defaults : ControllerSettings) (rows : SettingsRows) (listen : String)
    (patches : List SettingsPatch) :
    Kept defaults (Runtime.places SettingsTask.start
        (mainGoroutine (rows.load defaults).aggregateNUTEnabled ++ requests patches))
      (startedWith rows (rows.load defaults).aggregateNUTEnabled listen) := by
  have early : ∀ place ∈ Runtime.places SettingsTask.start
      (mainGoroutine (rows.load defaults).aggregateNUTEnabled ++ requests patches),
      place.2 = .loading ∨ place.2 = .goroutine .selecting := by
    intro place member
    obtain ⟨task, -, rfl⟩ := List.mem_map.mp member
    cases task with
    | patch ctx body => exact .inl rfl
    | watcher ctx ch => exact .inr rfl
  have nothing : (Runtime.places SettingsTask.start
      (mainGoroutine (rows.load defaults).aggregateNUTEnabled ++ requests patches)).flatMap
      (fun place => place.2.channels) = [] := by
    rw [List.flatMap_eq_nil_iff]
    intro place member
    rcases early place member with same | same <;> rw [same] <;> rfl
  constructor
  · cases (rows.load defaults).aggregateNUTEnabled <;> rfl
  · intro ch
    unfold channelCount
    rw [nothing]
    cases (rows.load defaults).aggregateNUTEnabled with
    | true => cases ch <;> simp [startedWith]
    | false => simp [startedWith]
  · intro place member
    rcases early place member with same | same <;> rw [same] <;> trivial
  · intro ctx body member
    rcases early _ member with same | same <;> cases same
  · intro flag idle
    cases enabled : (rows.load defaults).aggregateNUTEnabled with
    | true => rw [enabled] at idle; cases idle
    | false =>
      rw [enabled] at flag
      rw [Controller.flag] at flag
      exact absurd (enabled.symm.trans flag) Bool.false_ne_true
  · intro ln recorded
    left
    cases enabled : (rows.load defaults).aggregateNUTEnabled with
    | false => rw [enabled] at recorded; cases recorded
    | true =>
      refine ⟨enabled, rfl, ?_⟩
      intro place member
      rw [enabled] at early
      obtain ⟨task, stage⟩ := place
      rcases early _ member with same | same <;> cases same <;> cases task <;> trivial

/-! ## Between requests -/

/-- Between requests every request is over or has not begun. -/
theorem request_rests (staged : Runtime.Staged (SettingsTask.next defaults) SettingsTask.ended places
      pool.threads) (quiescent : Quiescent defaults pool) {ctx : Nat} {body : SettingsPatch}
    {stage : RequestStage} (member : (.patch ctx body, stage) ∈ places) :
    stage = .gone ∨ stage = .loading := by
  obtain ⟨thread, inside, here⟩ := Runtime.staged_mem staged member
  rcases quiescent.requests thread inside ctx body here.task with ended | unbegun
  · exact .inl (here.op?_eq_none ended)
  · have answered := here.op?_eq_some unbegun default
    cases stage <;> simp_all [SettingsTask.next, applyNext, stopNext]

theorem not_owes (staged : Runtime.Staged (SettingsTask.next defaults) SettingsTask.ended places
      pool.threads) (quiescent : Quiescent defaults pool) {place : SettingsTask × RequestStage}
    (member : place ∈ places) : ¬ Owes place := by
  intro owes
  obtain ⟨task, stage⟩ := place
  cases task with
  | watcher ctx ch => exact owes
  | patch ctx body => rcases request_rests staged quiescent member with rfl | rfl <;> exact owes

/-- A goroutine that waits for a cancelled context can take a step. -/
theorem goroutine_goes_on {thread : Thread SettingsTask AggregateOp AggregateOp.Reply} {ctx ch i : Nat}
    {inner : Stage} (waits : inner = .selecting ∨ inner = .stopping)
    (found : pool.threads[i]? = some thread)
    (here : Runtime.At (SettingsTask.next defaults) SettingsTask.ended
      (.watcher ctx ch, .goroutine inner) thread) (cancelled : ctx ∈ pool.state.cancelled) :
    ∃ choice, (settingsRuntime defaults).step pool ⟨i, choice⟩ ≠ none := by
  cases issues : thread.op? with
  | none =>
    obtain ⟨_, same, ended⟩ := here.op?_eq_none issues
    cases same
    rcases waits with rfl | rfl <;> simp [Task.ended] at ended
  | some op =>
    obtain ⟨stage', reached⟩ := Option.isSome_iff_exists.mp (here.op?_eq_some issues default)
    cases settingsMoves_of_next reached with
    | goroutine moves =>
      rcases waits with rfl | rfl
      · have selects : op = .select ctx ch := by cases moves; all_goals rfl
        subst selects
        have performed : perform (.select ctx ch) .done pool.state = some (true, pool.state) :=
          perform_select_done.mpr ⟨rfl, cancelled, rfl⟩
        exact ⟨.done, Runtime.step_of_perform found issues performed⟩
      · have takes : op = .take := by cases moves; rfl
        subst takes
        have performed : perform .take .go pool.state =
            some ((pool.state.fields.listener, pool.state.fields.stopCh), pool.state.taken) :=
          perform_take.mpr ⟨rfl, rfl, rfl⟩
        exact ⟨.go, Runtime.step_of_perform found issues performed⟩

/-- Between requests no goroutine waits for the end of one. -/
theorem not_watched (kept : Kept defaults places pool.state)
    (staged : Runtime.Staged (SettingsTask.next defaults) SettingsTask.ended places pool.threads)
    (quiescent : Quiescent defaults pool) (ln : Listener) : ¬ Watched places ln := by
  intro watched
  cases watched with
  | starting member => rcases request_rests staged quiescent member with same | same <;> cases same
  | waiting member waits request begun =>
    rcases request_rests staged quiescent request with rfl | rfl
    · obtain ⟨i, thread, found, here⟩ := Runtime.staged_place staged member
      obtain ⟨choice, goes⟩ := goroutine_goes_on waits found here (kept.finished _ _ request)
      exact goes (quiescent.goroutines ⟨i, choice⟩ thread found ⟨_, _, here.task⟩)
    · exact begun rfl

/-- In every run whose turns are all permitted, whenever no request is in progress
    and no goroutine can take a step, the listener is active exactly if the persisted
    flag is set. -/
theorem active_eq_flag {rows : SettingsRows} {listen : String} {patches : List SettingsPatch}
    {schedule : List (Turn Choice)}
    (run : replay (settingsRuntime defaults).step (serving defaults rows listen patches) schedule =
      some pool)
    (permitted : Guarded (settingsRuntime defaults).step
      (fun pool turn => Permitted defaults pool turn = true) (serving defaults rows listen patches)
      schedule)
    (quiescent : Quiescent defaults pool) :
    pool.state.fields.listener.isSome = pool.state.flag defaults := by
  have kept : ∃ places, Runtime.Staged (SettingsTask.next defaults) SettingsTask.ended places
      pool.threads ∧ Kept defaults places pool.state := by
    refine replay_invariant (I := fun pool : SettingsPool => ∃ places,
      Runtime.Staged (SettingsTask.next defaults) SettingsTask.ended places pool.threads ∧
        Kept defaults places pool.state)
      ?_ ⟨_, Runtime.staged_launch (settings_code_follows defaults) _,
        kept_start defaults rows listen patches⟩ permitted run
    rintro pool turn next ⟨places, staged, kept⟩ permitted taken
    exact kept_step kept staged permitted taken
  obtain ⟨places, staged, kept⟩ := kept
  cases flag : pool.state.flag defaults with
  | true =>
    cases recorded : pool.state.fields.listener with
    | some ln => rfl
    | none =>
      obtain ⟨place, member, owes⟩ := kept.owed flag recorded
      exact absurd owes (not_owes staged quiescent member)
  | false =>
    cases recorded : pool.state.fields.listener with
    | none => rfl
    | some ln =>
      rcases kept.watched ln recorded with ⟨set, -⟩ | watched
      · exact absurd (flag.symm.trans set) Bool.false_ne_true
      · exact absurd watched (not_watched kept staged quiescent ln)

theorem quiescent_of_ended (ended : ∀ thread ∈ pool.threads, thread.op? = none) :
    Quiescent defaults pool where
  requests thread member _ _ _ := .inl (ended thread member)
  goroutines _ thread found _ := Runtime.step_of_ended found (ended thread (List.mem_of_getElem? found))

end Run

/-- What is seen of the controller when a schedule is through: whether the listener
    is active, the persisted flag, and whether every thread has ended. -/
def settingsOutcome (defaults : ControllerSettings) (listen : String) (patches : List SettingsPatch)
    (schedule : List (Turn Choice)) : Option (Bool × Bool × Bool) := do
  let pool ← replay (settingsRuntime defaults).step (serving defaults {} listen patches) schedule
  return (pool.state.fields.listener.isSome, pool.state.flag defaults,
    pool.threads.all fun thread => thread.op?.isNone)

theorem settingsOutcome_eq_some {defaults : ControllerSettings} {listen : String}
    {patches : List SettingsPatch} {schedule : List (Turn Choice)} {active flag : Bool}
    (outcome : settingsOutcome defaults listen patches schedule = some (active, flag, true)) :
    ∃ pool, replay (settingsRuntime defaults).step (serving defaults {} listen patches) schedule =
        some pool ∧ Quiescent defaults pool ∧ pool.state.fields.listener.isSome = active ∧
      pool.state.flag defaults = flag := by
  simp only [settingsOutcome, Option.bind_eq_bind, Option.bind_eq_some_iff, Option.pure_def,
    Option.some.injEq, Prod.mk.injEq] at outcome
  obtain ⟨pool, run, active, flag, ended⟩ := outcome
  refine ⟨pool, run, quiescent_of_ended ?_, active, flag⟩
  intro thread member
  simpa using List.all_eq_true.mp ended thread member

/-- The configuration of a controller whose listener is enabled. -/
def enabledDefaults : ControllerSettings where
  aggregateNUTEnabled := true
  aggregateNUTListen := "127.0.0.1:3493"

/-- A request that disables the listener. -/
theorem active_eq_flag_of_disabling :
    ∃ pool, replay (settingsRuntime enabledDefaults).step
        (serving enabledDefaults {} "127.0.0.1:3493" [{ aggregateNUTEnabled := some false }])
        (List.replicate 8 ⟨1, .go⟩ ++ [⟨0, .stopped⟩]) = some pool ∧
      pool.state.fields.listener.isSome = pool.state.flag enabledDefaults := by
  have outcome : settingsOutcome enabledDefaults "127.0.0.1:3493"
      [{ aggregateNUTEnabled := some false }] (List.replicate 8 ⟨1, .go⟩ ++ [⟨0, .stopped⟩]) =
        some (false, false, true) := by decide +kernel
  obtain ⟨pool, run, quiescent, -⟩ := settingsOutcome_eq_some outcome
  exact ⟨pool, run, active_eq_flag run (by decide +kernel) quiescent⟩

def disabledDefaults : ControllerSettings where
  aggregateNUTEnabled := false
  aggregateNUTListen := ":3493"

/-- A request enables the listener, and its end stops it again. -/
theorem flag_without_listener :
    ¬ ∀ (defaults : ControllerSettings) (rows : SettingsRows) (listen : String)
        (patches : List SettingsPatch) (schedule : List (Turn Choice)) (pool : SettingsPool),
      replay (settingsRuntime defaults).step (serving defaults rows listen patches) schedule =
        some pool → Quiescent defaults pool →
      pool.state.fields.listener.isSome = pool.state.flag defaults := by
  intro claim
  have outcome : settingsOutcome disabledDefaults "" [{ aggregateNUTEnabled := some true }]
      (⟨0, .go⟩ :: openingTurns 0 "[::]:3493" ++ [⟨0, .go⟩, ⟨0, .go⟩] ++
        [⟨1, .done⟩, ⟨1, .go⟩, ⟨1, .go⟩, ⟨1, .go⟩]) = some (false, true, true) := by decide +kernel
  obtain ⟨pool, run, quiescent, active, flag⟩ := settingsOutcome_eq_some outcome
  have same := claim _ _ _ _ _ pool run quiescent
  rw [active, flag] at same
  cases same

end Strom.Aggregate
