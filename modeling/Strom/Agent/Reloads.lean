import Mathlib.Data.List.Dedup
import Strom.Agent.Apply
import Strom.Effects.Provided
import Strom.Effects.Run

/-!
# No change is left without a reload

`apply` reports what it changed to the reload that follows it, and forgets it when
something fails in between.  A node is `Settled` when nothing is stale.  As long as
nothing fails while something is stale, each iteration of the main loop leaves the
node settled (`settled_after_iterations`).
-/

namespace Strom.Agent

open Strom.Go Strom.Effects Strom.Nutconf

/-- What has to be restarted: the server, and the drivers of these devices. -/
def Node.stale (node : Node) : Bool × List Bytes := (node.serverStale, node.staleDrivers)

/-- The services have been reloaded since the last change of a NUT file, and the drivers
    since the last change of `ups.conf`. -/
def Node.Settled (node : Node) : Prop := node.stale = (false, [])

instance (node : Node) : Decidable node.Settled := inferInstanceAs (Decidable (_ = _))

abbrev EventWorld := Guided Node Chance

/-- Nothing fails now, or nothing is stale. -/
def Spared (_ : AgentOp) (w : EventWorld) : Prop := w.choice.fault.isNone ∨ w.state.Settled

instance (op : AgentOp) (w : EventWorld) : Decidable (Spared op w) :=
  inferInstanceAs (Decidable (_ ∨ _))

/-- `Action.Ends` for the agent. -/
abbrev Ends {ε α : Type} (x : Action AgentOp AgentOp.Reply ε α) (Q : Except ε α → Node → Prop)
    (w : EventWorld) : Prop :=
  Action.Ends (guide perform) Spared x (fun r t => Q r t.state) w

/-- A success leaves a node of which `P` holds, a failure a settled one. -/
def Leaves {α : Type} (P : α → Node → Prop) : Except GoError α → Node → Prop
  | .ok value, node => P value node
  | .error _, node => node.Settled

/-! ## Operations -/

section Operations

variable {w : EventWorld} {α : Type}

/-- A call fails only while nothing is stale, and then changes nothing about that. -/
theorem ends_call (op : AgentOp) (same : op.Reply = Except GoError α) (wrapping : GoError → GoError)
    (effect : Bool × List Bytes → Bool × List Bytes)
    (works : ∀ chance node, chance.fault = none →
      (∃ value, (same ▸ (perform op chance node).1 : Except GoError α) = .ok value) ∧
        (perform op chance node).2.stale = effect node.stale)
    (fails : ∀ chance node fault, chance.fault = some fault →
      (same ▸ (perform op chance node).1 : Except GoError α) = .error fault.error ∧
        (perform op chance node).2.stale = node.stale) :
    Ends (call op same wrapping) (Leaves fun _ node => node.stale = effect w.state.stale) w := by
  intro spared
  change Leaves _ ((same ▸ (perform op w.choice w.state).1 : Except GoError α).mapError wrapping)
    (perform op w.choice w.state).2
  cases fault : w.choice.fault with
  | none =>
    obtain ⟨⟨value, reply⟩, stale⟩ := works w.choice w.state fault
    simp only [reply]
    exact stale
  | some f =>
    obtain ⟨reply, stale⟩ := fails w.choice w.state f fault
    simp only [reply]
    rcases spared with free | settled
    · simp [fault] at free
    · exact stale.trans settled

theorem ends_mkdirAll (file : AgentFile) (wrapping : GoError → GoError) :
    Ends (call (.mkdirAll file) rfl wrapping) (Leaves fun _ node => node.stale = w.state.stale) w :=
  ends_call (.mkdirAll file) rfl wrapping id (by simp_all) (by simp_all)

theorem ends_stageTemp (file : AgentFile) (content : Content) (wrapping : GoError → GoError) :
    Ends (call (.stageTemp file content) rfl wrapping) (Leaves fun _ node => node.stale = w.state.stale) w :=
  ends_call (.stageTemp file content) rfl wrapping id (by simp_all) (by simp_all)

theorem ends_chmod (file : AgentFile) (wrapping : GoError → GoError) :
    Ends (call (.chmod file) rfl wrapping) (Leaves fun _ node => node.stale = w.state.stale) w :=
  ends_call (.chmod file) rfl wrapping id (by simp_all) (by simp_all)

theorem ends_loadState (unit : NUTUnit) (wrapping : GoError → GoError) :
    Ends (call (.loadState unit) rfl wrapping) (Leaves fun _ node => node.stale = w.state.stale) w :=
  ends_call (.loadState unit) rfl wrapping id (by simp_all) (by simp_all)

/-- What is stale after a file is replaced. -/
def replacedStale (file : AgentFile) (content : Content) (stale : Bool × List Bytes) :
    Bool × List Bytes :=
  (stale.1 || file.isNUTFile, if file = .upsConf then content.sectionNames else stale.2)

theorem ends_rename (file : AgentFile) (content : Content) (wrapping : GoError → GoError) :
    Ends (call (.rename file content) rfl wrapping) (Leaves fun _ node => node.stale = replacedStale file content w.state.stale) w :=
  ends_call (.rename file content) rfl wrapping (replacedStale file content)
    (by simp_all [Node.replace, Node.stale, replacedStale]) (by simp_all)

/-- What is stale after a unit has been restarted. -/
def restartedStale (action : SystemctlAction) (unit : NUTUnit) (stale : Bool × List Bytes) :
    Bool × List Bytes :=
  match action, unit with
  | .restart, .enumerator => (stale.1, [])
  | .restart, .driver name => (stale.1, stale.2.filter (· ≠ name))
  | _, .server => (false, stale.2)
  | _, _ => stale

theorem ends_runSystemctl (action : SystemctlAction) (unit : NUTUnit) :
    Ends (runSystemctl action unit) (Leaves fun _ node => node.stale = restartedStale action unit w.state.stale) w := by
  unfold runSystemctl
  refine ends_call (w := w) (.systemctl action unit) rfl _ (restartedStale action unit) ?_ ?_
  · intro chance node free
    refine ⟨⟨(), by simp [free]⟩, ?_⟩
    cases action <;> cases unit <;> simp [free, Node.restarted, Node.stale, restartedStale]
  · simp_all

end Operations

/-! ## Files -/

section Files

variable {w : EventWorld}

/-- The file is read; an error other than its absence comes while nothing is stale. -/
theorem ends_readFile (file : AgentFile) :
    (Program.perform (AgentOp.readFile file) : AgentProgram _).Ends (guide perform) Spared
      (fun reply t => t.state.stale = w.state.stale ∧
        ∀ e, reply = .error e → e.isNotExist = false → t.state.Settled) w := by
  intro spared
  have stale : (perform (.readFile file) w.choice w.state).2 = w.state := by
    cases fault : w.choice.fault <;> simp [fault]
  refine ⟨congrArg Node.stale stale, ?_⟩
  intro e failed other
  change ((perform (.readFile file) w.choice w.state).2).Settled
  rw [stale]
  rcases spared with free | settled
  · -- without a fault the file is read or missing
    change (perform (.readFile file) w.choice w.state).1 = .error e at failed
    cases found : w.state.files file <;> simp_all [GoError.isNotExist]
    subst failed
    simp at other
  · exact settled

theorem ends_replaceFile (file : AgentFile) (content : Content) :
    Ends (writeIfChanged.replaceFile file content) (Leaves fun changed node =>
      node.stale = if changed then replacedStale file content w.state.stale else w.state.stale) w := by
  refine Action.Ends.bind (ends_mkdirAll file _) ?_ (fun _ _ settled => settled)
  intro _ t made
  refine Action.Ends.bind (ends_stageTemp file content _) ?_ (fun _ _ settled => settled)
  intro _ t' staged
  refine Action.Ends.bind (ends_rename file content _) ?_ (fun _ _ settled => settled)
  intro _ t'' renamed
  refine Action.Ends.bind (ends_chmod file _) ?_ (fun _ _ settled => settled)
  intro _ t''' kept
  change t'''.state.stale = replacedStale file content w.state.stale
  rw [kept, renamed, staged, made]

/-- A file that is replaced is reported as changed; a failure leaves nothing stale. -/
theorem ends_writeIfChanged (file : AgentFile) (content : Content) :
    Ends (writeIfChanged file content) (Leaves fun changed node =>
      node.stale = if changed then replacedStale file content w.state.stale else w.state.stale) w := by
  refine Action.Ends.bind_always (ends_readFile file) ?_
  intro existing t ⟨stale, settled⟩
  have replaces : Ends (writeIfChanged.replaceFile file content) (Leaves fun changed node =>
      node.stale = if changed then replacedStale file content w.state.stale else w.state.stale) t := by
    rw [← stale]
    exact ends_replaceFile file content
  cases existing with
  | ok old =>
    dsimp only
    split
    · exact stale
    · exact replaces
  | error e =>
    dsimp only
    split
    · exact replaces
    · next other => exact settled e rfl (by simpa using other)

/-- What is reported as unchanged is settled. -/
def Reported (changed : Bool) (node : Node) : Prop := changed = false → node.Settled

/-- The other files leave the drivers alone. -/
theorem ends_writeFiles {files : List (AgentFile × String × Content)}
    (others : ∀ file ∈ files, file.1 ≠ .upsConf) {changed : Bool} {w : EventWorld}
    (reported : Reported changed w.state) :
    Ends (writeFiles files changed) (Leaves fun changed node =>
      Reported changed node ∧ node.staleDrivers = w.state.staleDrivers) w := by
  induction files generalizing changed w with
  | nil => exact ⟨reported, rfl⟩
  | cons first rest ih =>
    obtain ⟨file, name, content⟩ := first
    have other : file ≠ .upsConf := others _ List.mem_cons_self
    have written : Ends (Action.mapError (.wrap ("write " ++ name)) (writeIfChanged file content))
        (Leaves fun fileChanged node => Reported (changed || fileChanged) node ∧
          node.staleDrivers = w.state.staleDrivers) w := by
      refine Action.Ends.mapError (ends_writeIfChanged file content) ?_
      intro r t post
      cases r with
      | error e => exact post
      | ok fileChanged =>
        change t.state.stale = _ at post
        change Reported (changed || fileChanged) t.state ∧ _
        cases fileChanged with
        | false =>
          simp only [Bool.or_false, Bool.false_eq_true, if_false] at post ⊢
          refine ⟨?_, congrArg Prod.snd post⟩
          intro unchanged
          exact post.trans (reported unchanged)
        | true =>
          refine ⟨fun unchanged => by simp at unchanged, ?_⟩
          have drivers := congrArg Prod.snd post
          simpa [replacedStale, other, Node.stale] using drivers
    refine Action.Ends.bind written ?_ (fun _ _ settled => settled)
    intro fileChanged t ⟨reported, drivers⟩
    have later := ih (fun file member => others file (List.mem_cons_of_mem _ member)) reported
    rw [drivers] at later
    exact later

end Files

/-! ## Services -/

section Services

variable {w : EventWorld}

theorem ends_restartDrivers (names : List Bytes) {w : EventWorld} :
    Ends (restartDrivers names) (Leaves fun _ node => node.stale =
      (w.state.serverStale, w.state.staleDrivers.filter (· ∉ names))) w := by
  induction names generalizing w with
  | nil => simp [restartDrivers, Ends, Action.Ends, Program.Ends, Leaves, Node.stale]
  | cons name rest ih =>
    refine Action.Ends.bind (ends_runSystemctl .restart (.driver name)) ?_ (fun _ _ settled => settled)
    intro _ t restarted
    change t.state.stale = (w.state.serverStale, w.state.staleDrivers.filter (· ≠ name)) at restarted
    have server : t.state.serverStale = w.state.serverStale := congrArg Prod.fst restarted
    have drivers : t.state.staleDrivers = w.state.staleDrivers.filter (· ≠ name) :=
      congrArg Prod.snd restarted
    have later := ih (w := t)
    rw [server, drivers, List.filter_filter] at later
    refine later.mono ?_
    intro r node post
    cases r with
    | error e => exact post
    | ok _ =>
      refine Eq.trans post ?_
      congr 1
      apply List.filter_congr
      intro n _
      by_cases same : n = name <;> simp [same]

theorem mem_uniqueSortedNames {names : List Bytes} {name : Bytes} :
    name ∈ uniqueSortedNames names ↔ name ∈ names := by
  simp [uniqueSortedNames, sortNames, List.mem_dedup]

theorem ends_hasUnit (unit : NUTUnit) :
    Ends (hasUnit unit) (Leaves fun _ node => node.stale = w.state.stale) w := by
  refine Action.Ends.bind (ends_loadState unit _) ?_ (fun _ _ settled => settled)
  intro output t kept
  exact kept

/-- A reload of what is reported settles the node. -/
theorem ends_reload {changed : Bool} {names : List Bytes} (reported : Reported changed w.state)
    (drivers : ∀ name ∈ w.state.staleDrivers, name ∈ names) :
    Ends (reload changed names) (Leaves fun _ node => node.Settled) w := by
  cases changed with
  | false => exact reported rfl
  | true =>
    have server : ∀ t : EventWorld, t.state.staleDrivers = [] →
        Ends (runSystemctl .reloadOrRestart .server) (Leaves fun _ node => node.Settled) t := by
      intro t empty
      refine (ends_runSystemctl .reloadOrRestart .server).mono ?_
      intro r node post
      cases r with
      | error e => exact post
      | ok _ => exact post.trans (by simp [restartedStale, Node.stale, empty])
    unfold reload
    simp only [Bool.not_true, Bool.false_eq_true, if_false]
    by_cases none_ : names = []
    · subst none_
      simp only [ne_eq, not_true_eq_false, if_false]
      apply server
      exact List.eq_nil_iff_forall_not_mem.mpr fun name member => by simpa using drivers name member
    · simp only [ne_eq, none_, not_false_eq_true, if_true]
      refine Action.Ends.bind (ends_hasUnit .enumerator) ?_ (fun _ _ settled => settled)
      intro hasEnumerator t kept
      cases hasEnumerator with
      | true =>
        refine Action.Ends.bind (ends_runSystemctl .restart .enumerator) ?_ (fun _ _ settled => settled)
        intro _ t' restarted
        exact server t' (congrArg Prod.snd restarted)
      | false =>
        refine Action.Ends.bind (ends_restartDrivers _) ?_ (fun _ _ settled => settled)
        intro _ t' restarted
        refine server t' ((congrArg Prod.snd restarted).trans ?_)
        have same : t.state.staleDrivers = w.state.staleDrivers := congrArg Prod.snd kept
        simp only [List.filter_eq_nil_iff, decide_eq_true_eq, not_not]
        intro name member
        exact mem_uniqueSortedNames.mpr (drivers name (same ▸ member))

end Services

/-! ## An event -/

theorem reading_keeps {op : AgentOp} {chance : Chance} {node : Node} (reads : op.isReading = true) :
    (perform op chance node).2 = node := by
  cases op <;> simp [AgentOp.isReading] at reads <;> cases fault : chance.fault <;> simp [fault]

section Events

variable {w : EventWorld}

/-- Reading leaves a settled node settled, whether or not it succeeds. -/
theorem ends_reading {α : Type} {x : AgentAction α}
    (only : Action.Only (fun op => op.isReading = true) x) (settled : w.state.Settled) :
    Ends x (Leaves fun _ node => node.Settled) w := by
  refine Action.Ends.mono (Program.Only.ends (f := fun w => w.state.stale) only
    fun _ _ reads => congrArg Node.stale (reading_keeps reads)) ?_
  intro r t kept
  have still : t.state.Settled := kept.trans settled
  cases r <;> exact still

theorem ends_saveNameMap (names : NameMap) (settled : w.state.Settled) :
    Ends (saveNameMap names) (Leaves fun _ node => node.Settled) w := by
  refine Action.Ends.mapError (ends_writeIfChanged .names _) ?_
  intro r t post
  cases r with
  | error e => exact post
  | ok changed =>
    refine Eq.trans post ?_
    rw [show w.state.stale = (false, []) from settled]
    cases changed <;> rfl

/-- What the reload is told about the drivers. -/
theorem mem_restartUnits {devices : List DetectedUPS} {name : Bytes} :
    name ∈ restartUnitsForUPSChange true devices ↔ name ∈ (devices.map (·.name)).filter (· ≠ []) := by
  simp [restartUnitsForUPSChange, sortNames, List.mem_dedup]

theorem ends_apply (devices : List DetectedUPS) (settled : w.state.Settled) :
    Ends (apply devices) (Leaves fun applied node => Reported applied.changed node ∧
      ∀ name ∈ node.staleDrivers, name ∈ applied.restartUPSName) w := by
  unfold apply
  refine Action.Ends.bind (ends_reading (only_loadRuntimeNUTUser fun _ reads => reads) settled) ?_ (fun _ _ s => s)
  intro user t settled
  refine Action.Ends.bind (ends_reading (only_loadNameMap rfl) settled) ?_ (fun _ _ s => s)
  intro persistedNames t settled
  obtain ⟨namedDevices, nextMap⟩ := assignStableNames devices persistedNames
  refine Action.Ends.bind (ends_saveNameMap nextMap settled) ?_ (fun _ _ s => s)
  intro namesChanged t settled
  have written : Ends (Action.mapError (.wrap "write ups.conf")
      (writeIfChanged .upsConf (upsConfContent namedDevices))) (Leaves fun upsChanged node =>
        Reported (namesChanged || upsChanged) node ∧
          ∀ name ∈ node.staleDrivers, name ∈ restartUnitsForUPSChange upsChanged namedDevices) t := by
    refine Action.Ends.mapError (ends_writeIfChanged .upsConf _) ?_
    intro r t' post
    cases r with
    | error e => exact post
    | ok upsChanged =>
      change t'.state.stale = _ at post
      cases upsChanged with
      | false =>
        have still : t'.state.Settled := post.trans settled
        refine ⟨fun _ => still, ?_⟩
        intro name member
        rw [show t'.state.staleDrivers = [] from congrArg Prod.snd still] at member
        simp at member
      | true =>
        refine ⟨fun unchanged => by simp at unchanged, ?_⟩
        intro name member
        rw [show t'.state.staleDrivers = _ from congrArg Prod.snd post] at member
        exact mem_restartUnits.mpr member
  refine Action.Ends.bind written ?_ (fun _ _ s => s)
  rintro upsChanged t ⟨reported, drivers⟩
  have others : ∀ file ∈ otherFiles user, file.1 ≠ .upsConf := by
    simp [otherFiles]
  refine Action.Ends.bind (ends_writeFiles others reported) ?_ (fun _ _ s => s)
  rintro changed t' ⟨reported', same⟩
  exact ⟨reported', same ▸ drivers⟩

theorem ends_handleEvent (settled : w.state.Settled) :
    Ends handleEvent (Leaves fun _ node => node.Settled) w := by
  refine Action.Ends.bind (ends_reading (only_call rfl id rfl) settled) ?_ (fun _ _ s => s)
  intro current t settled
  refine Action.Ends.bind (ends_apply current settled) ?_ (fun _ _ s => s)
  intro applied t ⟨reported, drivers⟩
  have informs : (Program.perform (AgentOp.updateNUTCredentials applied.user)).Ends (guide perform)
      Spared (fun _ (t' : EventWorld) => t'.state.stale = t.state.stale) t := fun _ => rfl
  refine Action.Ends.bind_always informs ?_
  intro _ t' kept
  have server : t'.state.serverStale = t.state.serverStale := congrArg Prod.fst kept
  have same : t'.state.staleDrivers = t.state.staleDrivers := congrArg Prod.snd kept
  refine Action.Ends.bind (ends_reload (fun unchanged => kept.trans (reported unchanged))
    (same ▸ drivers)) ?_ (fun _ _ s => s)
  intro _ t'' settled
  exact settled

theorem ends_iteration (settled : w.state.Settled) :
    iteration.Ends (guide perform) Spared (fun _ t => t.state.Settled) w := by
  unfold iteration
  refine Program.ends_bind.mpr (Program.Ends.mono (ends_handleEvent settled) ?_)
  intro r t post
  -- the log line leaves everything else as it is
  cases r with
  | ok applied => exact fun _ => post
  | error e => exact fun _ => post

end Events

/-! ## All events -/

/-- `hotplug.Event`. -/
structure HotplugEvent where
  synthetic : Bool

/-- The main loop handles an event. -/
def loopStep (w : EventWorld) (_ : HotplugEvent) : Option EventWorld :=
  some (iteration.run (guide perform) w).2

/-- As long as nothing fails while something is stale, all changes have been reloaded
    after every event that was handled without an error. -/
theorem reloaded_after_events {w w' : EventWorld} {events : List HotplugEvent}
    (settled : w.state.Settled) (run : replay loopStep w events = some w')
    (guarded : Guarded loopStep (fun w _ => iteration.Meets (guide perform) Spared w) w events) :
    w'.state.logged.getLast? = some none → w'.state.Settled := by
  intro _
  refine replay_invariant (I := fun w => w.state.Settled) ?_ settled guarded run
  intro w event next settled meets handled
  cases handled
  exact (Program.ends_iff _ _).mp (ends_iteration settled) meets

/-- A node with one device plugged in. -/
def plugged : EventWorld where
  state := { files := fun file =>
    if file = .agentConfig then some (.agentConfig { username := "strom", password := "secret" })
    else none }
  choices := fun _ => { devices := [{ driver := "usbhid-ups", port := "auto", serial := "A1" }] }

theorem reloaded_after_events_of_two : ∃ w,
    replay loopStep plugged [⟨true⟩, ⟨false⟩] = some w ∧
      (w.state.logged.getLast? = some none → w.state.Settled) := by
  have run : (replay loopStep plugged [⟨true⟩, ⟨false⟩]).isSome := by decide +kernel
  obtain ⟨w, run⟩ := Option.isSome_iff_exists.mp run
  exact ⟨w, run, reloaded_after_events (by decide) run (by decide +kernel)⟩

/-- The node with one device, on which the first reload of `nut-server` fails. -/
def pluggedFaulty : EventWorld where
  state := plugged.state
  choices := fun i =>
    { plugged.choices i with fault := if i = 32 then some { reason := "exit status 1" } else none }

/-- The second event finds its files as they are and reloads nothing. -/
theorem stale_after_events :
    ¬ ∀ (w w' : EventWorld) (events : List HotplugEvent), w.state.Settled →
      replay loopStep w events = some w' →
      w'.state.logged.getLast? = some none → w'.state.Settled := by
  intro claim
  have outcome : (replay loopStep pluggedFaulty [⟨true⟩, ⟨false⟩]).map (fun w =>
      (w.state.logged.getLast?, w.state.stale)) = some (some none, true, []) := by decide +kernel
  obtain ⟨w, run, seen⟩ := Option.map_eq_some_iff.mp outcome
  simp only [Prod.mk.injEq] at seen
  have settled := claim pluggedFaulty w _ (by decide) run seen.1
  rw [Node.Settled, seen.2] at settled
  cases settled

end Strom.Agent
