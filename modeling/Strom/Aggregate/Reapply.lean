import Strom.Aggregate.Settings
import Strom.Effects.Answers

/-!
# Applying settings again, and settings that could not be applied

`Apply` compares the requested address with the one that the system reported for the running
socket.  `reapply_untouched_iff`: the same call again leaves the listener alone if and only if
both read the same.  `failed_patch_unchanged_iff`: a PATCH that is answered with an error has
changed nothing if and only if it did not get as far as stopping a running listener or leaving a
new one behind.
-/

namespace Strom.Aggregate

open Strom.Go Strom.Effects

/-! ## Calls of `Apply` -/

/-- After `stop`. -/
def Controller.afterStop (s : Controller) : Controller :=
  { s.taken with
    closedChannels := s.fields.stopCh.toList ++ s.closedChannels
    listening := match s.fields.listener with
      | none => s.listening
      | some ln => s.listening.erase ln }

/-- After `Apply` for a disabled listener. -/
def Controller.disabled (s : Controller) (listen : String) : Controller :=
  { s with fields := { enabled := false, listen } }

/-- After `start`. -/
def Controller.started (s : Controller) (address : String) : Controller :=
  { s with
    fields :=
      { enabled := true, listen := address, listener := some (s.opening address), stopCh := some s.opened }
    opened := s.opened + 1
    listening := s.opening address :: s.listening }

/-- What a call of `Apply` does, with the choices that it uses up and the goroutines it leaves. -/
inductive Applied (ctx : Nat) (enabled : Bool) (listen : String) (s : Controller) :
    List Choice → Except GoError Unit → Controller → List SettingsTask → Prop where
  | unchanged (same : s.fields.needsRestart enabled listen = false) :
      Applied ctx enabled listen s [.go] (.ok ()) s []
  | disabled {stopping : List Choice} (differs : s.fields.needsRestart enabled listen = true)
      (calm : ∀ choice ∈ stopping, choice = .go) (off : enabled = false) :
      Applied ctx enabled listen s stopping (.ok ())
        (s.afterStop.disabled listen) []
  | started {stopping : List Choice} {address : String}
      (differs : s.fields.needsRestart enabled listen = true) (calm : ∀ choice ∈ stopping, choice = .go)
      (on : enabled = true) :
      Applied ctx enabled listen s (stopping ++ [.bound address, .go, .go]) (.ok ())
        (s.afterStop.started address) [.watcher ctx s.opened]
  | refused {stopping : List Choice} {e : GoError} (differs : s.fields.needsRestart enabled listen = true)
      (calm : ∀ choice ∈ stopping, choice = .go) (on : enabled = true) :
      Applied ctx enabled listen s (stopping ++ [.refused e])
        (.error (.wrap ("start aggregate NUT listener on " ++ listen) e)) s.afterStop []

section Calls

variable {ctx : Nat} {enabled : Bool} {listen : String} {s t : Controller} {choices : List Choice}
  {ops : List AggregateOp} {result : Except GoError Unit}

theorem stop_answer {u : Unit} (run : stop.answer perform choices s = some (u, t, ops)) :
    t = s.afterStop ∧ (∀ choice ∈ choices, choice = .go) ∧ ops.flatMap startsGoroutine = [] := by
  obtain ⟨choice, rest, taken, s₁, after, rfl, rfl, performed, run⟩ := Program.answer_call.mp run
  obtain ⟨rfl, rfl, rfl⟩ := perform_take.mp performed
  cases listener : s.fields.listener with
  | none =>
    cases stopCh : s.fields.stopCh with
    | none =>
      rw [listener, stopCh] at run
      obtain ⟨rfl, rfl, rfl, rfl⟩ := Program.answer_ret.mp run
      simp [Controller.afterStop, Controller.taken, listener, stopCh, startsGoroutine]
    | some ch =>
      rw [listener, stopCh] at run
      obtain ⟨choice, rest, u, s₂, after, rfl, rfl, performed, run⟩ := Program.answer_call.mp run
      obtain ⟨rfl, rfl⟩ := perform_closeChannel.mp performed
      obtain ⟨rfl, rfl, rfl, rfl⟩ := Program.answer_ret.mp run
      simp [Controller.afterStop, Controller.taken, listener, stopCh, startsGoroutine]
  | some ln =>
    cases stopCh : s.fields.stopCh with
    | none =>
      rw [listener, stopCh] at run
      obtain ⟨choice, rest, u, s₂, after, rfl, rfl, performed, run⟩ := Program.answer_call.mp run
      obtain ⟨rfl, rfl⟩ := perform_closeListener.mp performed
      obtain ⟨rfl, rfl, rfl, rfl⟩ := Program.answer_ret.mp run
      simp [Controller.afterStop, Controller.taken, listener, stopCh, startsGoroutine]
    | some ch =>
      rw [listener, stopCh] at run
      obtain ⟨choice, rest, u, s₂, after, rfl, rfl, performed, run⟩ := Program.answer_call.mp run
      obtain ⟨rfl, rfl⟩ := perform_closeChannel.mp performed
      obtain ⟨choice, rest, u, s₃, after, rfl, rfl, performed, run⟩ := Program.answer_call.mp run
      obtain ⟨rfl, rfl⟩ := perform_closeListener.mp performed
      obtain ⟨rfl, rfl, rfl, rfl⟩ := Program.answer_ret.mp run
      simp [Controller.afterStop, Controller.taken, listener, stopCh, startsGoroutine]

/-- `stop` can always run. -/
theorem exists_stop_answer (s : Controller) : ∃ choices ops,
    stop.answer perform choices s = some ((), s.afterStop, ops) := by
  cases listener : s.fields.listener with
  | none =>
    cases stopCh : s.fields.stopCh with
    | none =>
      exact ⟨[.go], [.take], by
        simp [stop, Program.answer, perform, Controller.afterStop, Controller.taken, listener, stopCh]⟩
    | some ch =>
      exact ⟨[.go, .go], [.take, .closeChannel ch], by
        simp [stop, Program.perform, Program.answer, perform, Controller.afterStop, Controller.taken,
          listener, stopCh]⟩
  | some ln =>
    cases stopCh : s.fields.stopCh with
    | none =>
      exact ⟨[.go, .go], [.take, .closeListener ln], by
        simp [stop, Program.perform, Program.answer, perform, Controller.afterStop, Controller.taken,
          listener, stopCh]⟩
    | some ch =>
      exact ⟨[.go, .go, .go], [.take, .closeChannel ch, .closeListener ln], by
        simp [stop, Program.perform, Program.answer, perform, Controller.afterStop, Controller.taken,
          listener, stopCh]⟩

theorem applied_of_answer (run : (apply ctx enabled listen).answer perform choices s = some (result, t, ops)) :
    Applied ctx enabled (listenOrDefault listen) s choices result t (ops.flatMap startsGoroutine) := by
  obtain ⟨choice, rest, needed, s₁, after, rfl, rfl, performed, run⟩ := Program.answer_call.mp run
  obtain ⟨rfl, rfl, rfl⟩ := perform_needsRestart.mp performed
  cases differs : s₁.fields.needsRestart enabled (listenOrDefault listen) with
  | false =>
    rw [differs] at run
    obtain ⟨rfl, rfl, rfl, rfl⟩ := Program.answer_ret.mp run
    exact .unchanged differs
  | true =>
    rw [differs, Program.ret_bind, if_pos rfl] at run
    obtain ⟨stopping, rest, u, s₂, ops₁, after, rfl, rfl, stops, run⟩ := Program.answer_bind.mp run
    obtain ⟨rfl, calm, none_⟩ := stop_answer stops
    have calm' : ∀ choice ∈ Choice.go :: stopping, choice = .go := by simpa using calm
    cases enabled with
    | false =>
      rw [if_neg Bool.false_ne_true] at run
      obtain ⟨choice, rest, u, s₂, after, rfl, rfl, performed, run⟩ := Program.answer_call.mp run
      obtain ⟨rfl, rfl⟩ := perform_disable.mp performed
      obtain ⟨rfl, rfl, rfl, rfl⟩ := Program.answer_ret.mp run
      have calm'' : ∀ choice ∈ Choice.go :: (stopping ++ [.go]), choice = .go := by
        intro choice member
        obtain rfl | inside := List.mem_cons.mp member
        · rfl
        · obtain before | last := List.mem_append.mp inside
          · exact calm choice before
          · exact List.mem_singleton.mp last
      have tasks : (AggregateOp.needsRestart false (listenOrDefault listen) ::
          (ops₁ ++ [AggregateOp.disable (listenOrDefault listen)])).flatMap startsGoroutine = [] := by
        simp [none_, startsGoroutine]
      rw [tasks]
      exact .disabled differs calm'' rfl
    | true =>
      rw [if_pos rfl] at run
      obtain ⟨choice, rest, opened, s₂, after, rfl, rfl, performed, run⟩ := Program.answer_call.mp run
      cases opened with
      | error e =>
        obtain ⟨rfl, rfl⟩ := perform_listen_error.mp performed
        obtain ⟨rfl, rfl, rfl, rfl⟩ := Program.answer_ret.mp run
        have tasks : (AggregateOp.needsRestart true (listenOrDefault listen) ::
            (ops₁ ++ [AggregateOp.listen (listenOrDefault listen)])).flatMap startsGoroutine = [] := by
          simp [none_, startsGoroutine]
        rw [tasks]
        exact .refused differs calm' rfl
      | ok ln =>
        obtain ⟨rfl, free, fresh, rfl⟩ := perform_listen_ok.mp performed
        obtain ⟨choice, rest, u, s₃, after, rfl, rfl, performed, run⟩ := Program.answer_call.mp run
        obtain ⟨rfl, rfl⟩ := perform_record.mp performed
        obtain ⟨choice, rest, u, s₄, after, rfl, rfl, performed, run⟩ := Program.answer_call.mp run
        obtain ⟨rfl, rfl⟩ := perform_watch.mp performed
        obtain ⟨rfl, rfl, rfl, rfl⟩ := Program.answer_ret.mp run
        obtain ⟨id, address⟩ := ln
        obtain rfl : id = s₁.opened := fresh
        have tasks : (AggregateOp.needsRestart true (listenOrDefault listen) ::
            (ops₁ ++ [.listen (listenOrDefault listen), .record ⟨s₁.opened, address⟩ s₁.opened,
              .watch ctx s₁.opened])).flatMap startsGoroutine = [.watcher ctx s₁.opened] := by
          simp [none_, startsGoroutine]
        rw [tasks]
        exact .started differs calm' rfl

theorem Applied.settings {goroutines : List SettingsTask}
    (applied : Applied ctx enabled listen s choices result t goroutines) : t.settings = s.settings := by
  cases applied <;> rfl

end Calls

/-! ## The same call again -/

/-- A call of `Apply` can run, and all it ever does is to compare the request with the fields. -/
structure LeavesAlone (enabled : Bool) (listen : String) (t : Controller) : Prop where
  runs : ∀ ctx, ∃ choices ops, (apply ctx enabled listen).answer perform choices t = some (.ok (), t, ops)
  calm : ∀ ctx choices result u ops,
    (apply ctx enabled listen).answer perform choices t = some (result, u, ops) →
      result = .ok () ∧ u = t ∧ ops = [.needsRestart enabled (listenOrDefault listen)]

/-- A call that has to restart the listener takes it down before anything else. -/
theorem exists_restart (ctx : Nat) {enabled : Bool} {listen : String} {t : Controller}
    (differs : t.fields.needsRestart enabled (listenOrDefault listen) = true) :
    ∃ choices result u ops, (apply ctx enabled listen).answer perform choices t = some (result, u, ops) ∧
      AggregateOp.take ∈ ops := by
  obtain ⟨stopping, ops, stops⟩ := exists_stop_answer t
  have takes : AggregateOp.take ∈ ops := by
    obtain ⟨choice, rest, taken, s₁, after, rfl, rfl, performed, run⟩ := Program.answer_call.mp stops
    exact List.mem_cons_self ..
  have asked : perform (.needsRestart enabled (listenOrDefault listen)) .go t = some (true, t) :=
    perform_needsRestart.mpr ⟨rfl, differs.symm, rfl⟩
  cases enabled with
  | false =>
    refine ⟨.go :: (stopping ++ [.go]), .ok (), t.afterStop.disabled (listenOrDefault listen),
      .needsRestart false (listenOrDefault listen) :: (ops ++ [.disable (listenOrDefault listen)]), ?_,
      by simp [takes]⟩
    refine Program.answer_call.mpr ⟨_, _, _, _, _, rfl, rfl, asked, ?_⟩
    rw [Program.ret_bind, if_pos rfl]
    exact Program.answer_bind.mpr ⟨_, _, _, _, _, _, rfl, rfl, stops, rfl⟩
  | true =>
    -- the system may refuse the new socket
    refine ⟨.go :: (stopping ++ [.refused default]), .error (.wrap ("start aggregate NUT listener on " ++
      listenOrDefault listen) default), t.afterStop, .needsRestart true (listenOrDefault listen) :: (ops ++
      [.listen (listenOrDefault listen)]), ?_, by simp [takes]⟩
    refine Program.answer_call.mpr ⟨_, _, _, _, _, rfl, rfl, asked, ?_⟩
    rw [Program.ret_bind, if_pos rfl]
    exact Program.answer_bind.mpr ⟨_, _, _, _, _, _, rfl, rfl, stops, rfl⟩

theorem leavesAlone_iff {enabled : Bool} {listen : String} {t : Controller} :
    LeavesAlone enabled listen t ↔ t.fields.needsRestart enabled (listenOrDefault listen) = false := by
  constructor
  · intro alone
    by_contra differs
    obtain ⟨choices, result, u, ops, run, takes⟩ := exists_restart 0 (by simpa using differs)
    obtain ⟨-, -, rfl⟩ := alone.calm 0 choices result u ops run
    simp at takes
  · intro same
    refine ⟨fun ctx => ⟨[.go], [.needsRestart enabled (listenOrDefault listen)], ?_⟩, ?_⟩
    · simp [apply, Program.perform, Program.answer, perform, same]
    · intro ctx choices result u ops run
      obtain ⟨choice, rest, needed, s₁, after, rfl, rfl, performed, run⟩ := Program.answer_call.mp run
      obtain ⟨rfl, rfl, rfl⟩ := perform_needsRestart.mp performed
      rw [same] at run
      obtain ⟨rfl, rfl, rfl, rfl⟩ := Program.answer_ret.mp run
      exact ⟨rfl, rfl, rfl⟩

/-- The address that `Apply` compares with, once a socket reads so. -/
def recordedListen (address : String) : String := if address = "" then defaultListen else address

theorem listenOrDefault_ne_empty (listen : String) : listenOrDefault listen ≠ "" := by
  simp only [listenOrDefault]
  split
  · decide
  · assumption

/-- After a call that succeeded the same call leaves the listener alone if and only if the socket,
    where one was opened, reads as the request does. -/
theorem reapply_untouched_iff {ctx : Nat} {enabled : Bool} {listen : String} {s t : Controller}
    {choices : List Choice} {ops : List AggregateOp}
    (run : (apply ctx enabled listen).answer perform choices s = some (.ok (), t, ops)) :
    LeavesAlone enabled listen t ↔
      ∀ address, Choice.bound address ∈ choices → recordedListen address = listenOrDefault listen := by
  have applied := applied_of_answer run
  rw [leavesAlone_iff]
  generalize ops.flatMap startsGoroutine = goroutines at applied
  generalize result_eq : (Except.ok () : Except GoError Unit) = result at applied
  cases applied with
  | unchanged same => simp [same]
  | disabled differs calm off =>
    subst off
    have bound : ∀ address, Choice.bound address ∉ choices := by
      intro address member
      cases calm _ member
    simp [Fields.needsRestart, Controller.disabled, listenOrDefault_ne_empty, bound]
  | refused differs calm on => cases result_eq
  | @started stopping address differs calm on =>
    subst on
    have only : ∀ address', Choice.bound address' ∈ stopping ++ [.bound address, .go, .go] ↔
        address' = address := by
      intro address'
      rw [List.mem_append]
      constructor
      · rintro (before | here)
        · cases calm _ before
        · simpa using here
      · rintro rfl
        simp
    simp only [only, forall_eq, Fields.needsRestart, Controller.started, bne_self_eq_false, Bool.false_or,
      bne_eq_false_iff_eq]
    rfl

/-- A start whose address the system spells as given. -/
theorem reapply_untouched_of_spelled :
    LeavesAlone true "[::]:3493" (({} : Controller).afterStop.started "[::]:3493") := by
  have listens : listenOrDefault "[::]:3493" = "[::]:3493" := by decide +kernel
  have ran : (apply 0 true "[::]:3493").answer perform [.go, .go, .bound "[::]:3493", .go, .go] {} =
      some (.ok (), ({} : Controller).afterStop.started "[::]:3493",
        [.needsRestart true "[::]:3493", .take, .listen "[::]:3493", .record ⟨0, "[::]:3493"⟩ 0,
          .watch 0 0]) := by
    rw [apply, listens]
    rfl
  apply (reapply_untouched_iff ran).mpr
  intro address bound
  obtain rfl : address = "[::]:3493" := by simpa using bound
  exact listens.symm

/-- The default address reads otherwise once it is bound, and the same call takes the listener down. -/
theorem reapply_restarts :
    ∃ t ops choices u ops',
      (apply 0 true ":3493").answer perform [.go, .go, .bound "[::]:3493", .go, .go] {} =
        some (.ok (), t, ops) ∧
      (apply 0 true ":3493").answer perform choices t = some (.ok (), u, ops') ∧
      t.fields.listener = some ⟨0, "[::]:3493"⟩ ∧ AggregateOp.closeListener ⟨0, "[::]:3493"⟩ ∈ ops' ∧
      u.fields.listener = some ⟨1, "[::]:3493"⟩ := by
  have listens : listenOrDefault ":3493" = ":3493" := by decide +kernel
  have first : (apply 0 true ":3493").answer perform [.go, .go, .bound "[::]:3493", .go, .go] {} =
      some (.ok (), ({} : Controller).afterStop.started "[::]:3493",
        [.needsRestart true ":3493", .take, .listen ":3493", .record ⟨0, "[::]:3493"⟩ 0, .watch 0 0]) := by
    rw [apply, listens]
    rfl
  have second : (apply 0 true ":3493").answer perform
      [.go, .go, .go, .go, .bound "[::]:3493", .go, .go] (({} : Controller).afterStop.started "[::]:3493") =
      some (.ok (), (({} : Controller).afterStop.started "[::]:3493").afterStop.started "[::]:3493",
        [.needsRestart true ":3493", .take, .closeChannel 0, .closeListener ⟨0, "[::]:3493"⟩,
          .listen ":3493", .record ⟨1, "[::]:3493"⟩ 1, .watch 0 1]) := by
    rw [apply, listens]
    rfl
  exact ⟨_, _, _, _, _, first, second, rfl, by simp, rfl⟩

/-! ## A PATCH that is answered with an error -/

/-- The state in which the goroutines of a request go on: its context is cancelled. -/
def Controller.over (t : Controller) (ctx : Nat) : Controller := { t with cancelled := ctx :: t.cancelled }

/-- The address of the running listener; `none` where none is active. -/
def Controller.running (s : Controller) : Option String := s.fields.listener.map (·.address)

/-- A request leaves the settings and the running listener as they were, and so does every goroutine
    that it leaves behind. -/
structure Unchanged (ctx : Nat) (s t : Controller) (goroutines : List SettingsTask) : Prop where
  settings : t.settings = s.settings
  running : t.running = s.running
  stays : ∀ ch, SettingsTask.watcher ctx ch ∈ goroutines → ∀ choices u ops,
    (watcher ctx ch).answer perform choices (t.over ctx) = some ((), u, ops) → u.running = s.running

/-- A goroutine may always find its context cancelled, and then it takes the listener down. -/
theorem watcher_may_stop (ctx ch : Nat) (t : Controller) : ∃ choices u ops,
    (watcher ctx ch).answer perform choices (t.over ctx) = some ((), u, ops) ∧ u.running = none := by
  obtain ⟨choices, ops, stops⟩ := exists_stop_answer (t.over ctx)
  refine ⟨.done :: choices, (t.over ctx).afterStop, .select ctx ch :: ops, ?_, rfl⟩
  have done : perform (.select ctx ch) .done (t.over ctx) = some (true, t.over ctx) :=
    perform_select_done.mpr ⟨rfl, List.mem_cons_self .., rfl⟩
  exact Program.answer_call.mpr ⟨_, _, _, _, _, rfl, rfl, done, stops⟩

/-- Where no listener is running a goroutine leaves none running. -/
theorem watcher_none {ctx ch : Nat} {t u : Controller} {choices : List Choice} {ops : List AggregateOp}
    (none_ : t.running = none) (run : (watcher ctx ch).answer perform choices (t.over ctx) = some ((), u, ops)) :
    u.running = none := by
  obtain ⟨choice, rest, done, s₁, after, rfl, rfl, performed, run⟩ := Program.answer_call.mp run
  cases done with
  | true =>
    obtain ⟨rfl, -, rfl⟩ := perform_select_done.mp performed
    obtain ⟨rfl, -, -⟩ := stop_answer run
    rfl
  | false =>
    obtain ⟨rfl, -, rfl⟩ := perform_select_closed.mp performed
    obtain ⟨rfl, -, rfl, -⟩ := Program.answer_ret.mp run
    exact none_

theorem not_unchanged_of_watcher {ctx ch : Nat} {s t : Controller} {goroutines : List SettingsTask}
    (left : SettingsTask.watcher ctx ch ∈ goroutines) (running : s.running ≠ none) :
    ¬ Unchanged ctx s t goroutines := by
  intro unchanged
  obtain ⟨choices, u, ops, run, stopped⟩ := watcher_may_stop ctx ch t
  exact running ((unchanged.stays ch left choices u ops run).symm.trans stopped)

section Failing

variable {defaults : ControllerSettings} {ctx : Nat} {patch : SettingsPatch} {s t : Controller}
  {choices : List Choice} {ops : List AggregateOp} {status : Nat} {message : String}

/-- The settings as the handler loads them. -/
def Controller.current (defaults : ControllerSettings) (s : Controller) : ControllerSettings :=
  settle defaults (s.settings.load defaults)

/-- `Apply` would restart the listener for these settings. -/
def Controller.restarts (s : Controller) (settings : ControllerSettings) : Bool :=
  s.fields.needsRestart settings.aggregateNUTEnabled (listenOrDefault settings.aggregateNUTListen)

/-- `a.aggregate.Apply` with the settings. -/
abbrev AppliedFor (ctx : Nat) (settings : ControllerSettings) :=
  Applied ctx settings.aggregateNUTEnabled (listenOrDefault settings.aggregateNUTListen)

/-- How a PATCH comes to be answered with an error. -/
inductive FailedPatch (defaults : ControllerSettings) (ctx : Nat) (patch : SettingsPatch) (s : Controller) :
    List Choice → Controller → List SettingsTask → Prop where
  | empty (empty : patch.aggregateNUTEnabled = none ∧ patch.aggregateNUTListen = none) :
      FailedPatch defaults ctx patch s [] s []
  | unread (e : GoError) : FailedPatch defaults ctx patch s [.refused e] s []
  | invalid {reply : SettingsReply}
      (refused : checkListen (patch.next (s.current defaults)) = some reply) :
      FailedPatch defaults ctx patch s [.go] s []
  | unapplied {choices : List Choice} {e : GoError} {t : Controller} {goroutines : List SettingsTask}
      (given : ¬ (patch.aggregateNUTEnabled = none ∧ patch.aggregateNUTListen = none))
      (valid : checkListen (patch.next (s.current defaults)) = none)
      (applied : AppliedFor ctx (patch.next (s.current defaults)) s choices (.error e) t goroutines) :
      FailedPatch defaults ctx patch s (.go :: choices) t goroutines
  | unsaved {choices choices' : List Choice} {save : Choice} {result : Except GoError Unit} {t u : Controller}
      {goroutines goroutines' : List SettingsTask}
      (given : ¬ (patch.aggregateNUTEnabled = none ∧ patch.aggregateNUTListen = none))
      (valid : checkListen (patch.next (s.current defaults)) = none)
      (applied : AppliedFor ctx (patch.next (s.current defaults)) s choices (.ok ()) t goroutines)
      (restored : AppliedFor ctx (s.current defaults) t choices' result u goroutines') :
      FailedPatch defaults ctx patch s (.go :: (choices ++ save :: choices')) u (goroutines ++ goroutines')

theorem failedPatch_of_answer
    (run : (handleControllerSettings defaults ctx patch).answer perform choices s =
      some (.error status message, t, ops)) :
    FailedPatch defaults ctx patch s choices t (ops.flatMap startsGoroutine) := by
  rw [handleControllerSettings] at run
  split at run
  · rename_i empty
    obtain ⟨rfl, -, rfl, rfl⟩ := Program.answer_ret.mp run
    exact .empty empty
  rename_i given
  obtain ⟨choice, rest, loaded, s₁, after, rfl, rfl, performed, handles⟩ := Program.answer_call.mp run
  cases loaded with
  | error e =>
    obtain ⟨rfl, rfl⟩ := perform_loadSettings_error.mp performed
    obtain ⟨rfl, -, rfl, rfl⟩ := Program.answer_ret.mp handles
    exact .unread e
  | ok settings =>
    obtain ⟨rfl, rfl, rfl⟩ := perform_loadSettings_ok.mp performed
    change (applyPatch ctx patch (s₁.current defaults)).answer perform rest s₁ = _ at handles
    have skip : (AggregateOp.loadSettings defaults :: after).flatMap startsGoroutine =
        after.flatMap startsGoroutine := rfl
    rw [skip]
    rw [applyPatch] at handles
    split at handles
    · rename_i reply refused
      obtain ⟨rfl, -, rfl, rfl⟩ := Program.answer_ret.mp handles
      exact .invalid refused
    · rename_i valid
      obtain ⟨choices, choices', result, s₂, ops, ops', rfl, rfl, applies, ends⟩ :=
        Program.answer_bind.mp handles
      have applied := applied_of_answer applies
      cases result with
      | error e =>
        obtain ⟨rfl, -, rfl, rfl⟩ := Program.answer_ret.mp ends
        rw [List.append_nil, List.append_nil]
        exact .unapplied given valid applied
      | ok u =>
        obtain ⟨save, later, saved, s₃, after, rfl, rfl, performed, stored⟩ := Program.answer_call.mp ends
        cases saved with
        | ok u =>
          obtain ⟨-, same, -, -⟩ := Program.answer_ret.mp stored
          cases same
        | error e =>
          obtain rfl := perform_saveSettings_error performed
          -- the handler applies the settings that it had loaded
          rw [Program.ret_bind] at stored
          obtain ⟨again, none_, result, s₄, ops₂, ops₃, spent, rfl, reapplies, replies⟩ :=
            Program.answer_bind.mp stored
          obtain ⟨rfl, -, rfl, rfl⟩ := Program.answer_ret.mp replies
          obtain rfl : later = again := by simpa using spent
          have restored := applied_of_answer reapplies
          rw [List.flatMap_append, List.flatMap_cons, List.append_nil]
          exact .unsaved given valid applied restored

/-- What has happened to the running listener after a call of `Apply`. -/
theorem Applied.outcome {enabled : Bool} {listen : String} {result : Except GoError Unit}
    {goroutines : List SettingsTask} (applied : Applied ctx enabled listen s choices result t goroutines) :
    (s.fields.needsRestart enabled listen = false ∧ t = s) ∨ t.running = none ∨
      t.running ≠ none ∧ ∃ ch, SettingsTask.watcher ctx ch ∈ goroutines := by
  cases applied with
  | unchanged same => exact .inl ⟨same, rfl⟩
  | disabled differs calm off => exact .inr (.inl rfl)
  | started differs calm on =>
    exact .inr (.inr ⟨Option.some_ne_none _, s.opened, List.mem_singleton.mpr rfl⟩)
  | refused differs calm on => exact .inr (.inl rfl)

/-- A PATCH that fails does not touch the listener: it does not get as far as `Apply`, or `Apply` has
    nothing to restart, or no listener was running and none is started again. -/
inductive Undisturbed (defaults : ControllerSettings) (patch : SettingsPatch) (s : Controller)
    (choices : List Choice) : Prop where
  | empty (empty : patch.aggregateNUTEnabled = none ∧ patch.aggregateNUTListen = none)
  | unread {e : GoError} (refused : choices.head? = some (.refused e))
  | invalid {reply : SettingsReply} (refused : checkListen (patch.next (s.current defaults)) = some reply)
  | calm (next : s.restarts (patch.next (s.current defaults)) = false)
      (current : s.restarts (s.current defaults) = false)
  | idle (idle : s.running = none)
      (rests : (s.current defaults).aggregateNUTEnabled = false ∨
        ∃ e, choices.getLast? = some (.refused e))

/-- Where no listener was running, none is running after the request if the loaded settings are
    disabled or the last thing that happened was a refusal. -/
theorem FailedPatch.none_running {goroutines : List SettingsTask}
    (failed : FailedPatch defaults ctx patch s choices t goroutines) (idle : s.running = none)
    (rests : (s.current defaults).aggregateNUTEnabled = false ∨
      ∃ e, choices.getLast? = some (.refused e)) : t.running = none := by
  cases failed with
  | empty empty => exact idle
  | unread e => exact idle
  | invalid refused => exact idle
  | unapplied given valid applied =>
    cases applied with
    | refused differs calm on => rfl
  | @unsaved first again save result between _ _ _ given valid applied restored =>
    cases restored with
    | disabled differs calm off => rfl
    | refused differs calm on => rfl
    | started differs calm on =>
      -- the restored settings are enabled, and the last choice is the goroutine's
      obtain off | ⟨e, last⟩ := rests
      · rw [off] at on
        cases on
      · simp [List.getLast?_cons, List.getLast?_append] at last
    | unchanged same =>
      obtain off | ⟨e, last⟩ := rests
      · cases applied with
        | unchanged same => exact idle
        | disabled differs calm off => rfl
        | started differs calm on =>
          simp [Fields.needsRestart, Controller.started, off] at same
      · simp [List.getLast?_cons, List.getLast?_append] at last

theorem FailedPatch.settings {goroutines : List SettingsTask}
    (failed : FailedPatch defaults ctx patch s choices t goroutines) : t.settings = s.settings := by
  cases failed with
  | empty | unread | invalid => rfl
  | unapplied given valid applied => exact applied.settings
  | unsaved given valid applied restored => exact restored.settings.trans applied.settings

theorem Applied.calm {enabled : Bool} {listen : String} {result : Except GoError Unit}
    {goroutines : List SettingsTask} (applied : Applied ctx enabled listen s choices result t goroutines)
    (same : s.fields.needsRestart enabled listen = false) : t = s ∧ goroutines = [] ∧ result = .ok () := by
  cases applied with
  | unchanged => exact ⟨rfl, rfl, rfl⟩
  | disabled differs | started differs | refused differs => simp [same] at differs

theorem Undisturbed.unchanged {goroutines : List SettingsTask}
    (undisturbed : Undisturbed defaults patch s choices)
    (failed : FailedPatch defaults ctx patch s choices t goroutines) :
    Unchanged ctx s t goroutines := by
  have untouched (still : t = s ∧ goroutines = []) : Unchanged ctx s t goroutines := by
    obtain ⟨rfl, rfl⟩ := still
    exact ⟨rfl, rfl, fun ch left => absurd left List.not_mem_nil⟩
  cases undisturbed with
  | empty empty =>
    cases failed with
    | empty | unread | invalid => exact untouched ⟨rfl, rfl⟩
    | unapplied given | unsaved given => exact absurd empty given
  | unread refused =>
    cases failed with
    | empty | unread | invalid => exact untouched ⟨rfl, rfl⟩
    | unapplied | unsaved => simp at refused
  | invalid refused =>
    cases failed with
    | empty | unread | invalid => exact untouched ⟨rfl, rfl⟩
    | unapplied given valid | unsaved given valid => simp [valid] at refused
  | calm next current =>
    cases failed with
    | empty | unread | invalid => exact untouched ⟨rfl, rfl⟩
    | unapplied given valid applied =>
      obtain ⟨-, -, same⟩ := applied.calm next
      cases same
    | unsaved given valid applied restored =>
      obtain ⟨rfl, rfl, -⟩ := applied.calm next
      obtain ⟨rfl, rfl, -⟩ := restored.calm current
      exact untouched ⟨rfl, rfl⟩
  | idle idle rests =>
    have none_ := failed.none_running idle rests
    refine ⟨failed.settings, none_.trans idle.symm, ?_⟩
    intro ch left choices u ops run
    exact (watcher_none none_ run).trans idle.symm

theorem undisturbed_of_unchanged {goroutines : List SettingsTask}
    (failed : FailedPatch defaults ctx patch s choices t goroutines)
    (unchanged : Unchanged ctx s t goroutines) : Undisturbed defaults patch s choices := by
  cases failed with
  | empty empty => exact .empty empty
  | unread e => exact .unread rfl
  | invalid refused => exact .invalid refused
  | unapplied given valid applied =>
    cases applied with
    | @refused stopping e differs calm on =>
      have last : (Choice.go :: (stopping ++ [.refused e])).getLast? = some (.refused e) := by
        simp [List.getLast?_cons, List.getLast?_append]
      exact .idle unchanged.running.symm (.inr ⟨e, last⟩)
  | @unsaved first again save result between _ started startedAgain given valid applied restored =>
    by_cases running : s.running = none
    · have none_ : t.running = none := unchanged.running.trans running
      cases restored with
      | disabled differs calm off => exact .idle running (.inl off)
      | started differs calm on => cases none_
      | @refused stopping e differs calm on =>
        have last : (Choice.go :: (first ++ save :: (stopping ++ [.refused e]))).getLast? =
            some (.refused e) := by
          simp [List.getLast?_cons, List.getLast?_append]
        exact .idle running (.inr ⟨e, last⟩)
      | unchanged same =>
        cases applied with
        | unchanged same' => exact .calm same' same
        | started differs calm on => cases none_
        | disabled differs calm off =>
          -- the disabled listener is what the loaded settings ask for
          have asked := (Bool.or_eq_false_iff.mp same).1
          exact .idle running (.inl (by simpa [Controller.disabled] using asked))
    · -- a listener was running, so that no goroutine is left and no call has stopped it
      have none_left : ∀ ch, SettingsTask.watcher ctx ch ∉ started ++ startedAgain :=
        fun ch left => not_unchanged_of_watcher left running unchanged
      obtain ⟨current, rfl⟩ | stopped | ⟨-, ch, left⟩ := restored.outcome
      · obtain ⟨next, rfl⟩ | stopped | ⟨-, ch, left⟩ := applied.outcome
        · exact .calm next current
        · exact absurd (unchanged.running.symm.trans stopped) running
        · exact absurd (List.mem_append_left _ left) (none_left ch)
      · exact absurd (unchanged.running.symm.trans stopped) running
      · exact absurd (List.mem_append_right _ left) (none_left ch)

/-- A PATCH that is answered with an error leaves the settings and the listener as they were if and
    only if it does not touch the listener. -/
theorem failed_patch_unchanged_iff
    (run : (handleControllerSettings defaults ctx patch).answer perform choices s =
      some (.error status message, t, ops)) :
    Unchanged ctx s t (ops.flatMap startsGoroutine) ↔ Undisturbed defaults patch s choices :=
  ⟨undisturbed_of_unchanged (failedPatch_of_answer run),
    fun undisturbed => undisturbed.unchanged (failedPatch_of_answer run)⟩

end Failing

def localDefaults : ControllerSettings where
  aggregateNUTEnabled := true
  aggregateNUTListen := "127.0.0.1:3493"

/-- The listener runs at its stored address. -/
def localListener : Controller where
  fields :=
    { enabled := true, listen := "127.0.0.1:3493", listener := some ⟨0, "127.0.0.1:3493"⟩, stopCh := some 0 }
  opened := 1
  listening := [⟨0, "127.0.0.1:3493"⟩]
  settings := { enabled := some "true", listen := some "127.0.0.1:3493" }

/-- An address without a port is refused before `Apply`. -/
theorem unchanged_of_invalid : ∃ t ops status message,
    (handleControllerSettings localDefaults 7 { aggregateNUTListen := some "localhost" }).answer perform
      [.go] localListener = some (.error status message, t, ops) ∧
    Unchanged 7 localListener t (ops.flatMap startsGoroutine) := by
  have ran : ((handleControllerSettings localDefaults 7 { aggregateNUTListen := some "localhost" }).answer
      perform [.go] localListener).map (·.1) =
        some (.error 400 "aggregate_nut_listen must be host:port or :port") := by
    decide +kernel
  obtain ⟨⟨reply, t, ops⟩, run, replied⟩ := Option.map_eq_some_iff.mp ran
  obtain rfl : reply = .error 400 "aggregate_nut_listen must be host:port or :port" := replied
  have refused : checkListen (SettingsPatch.next { aggregateNUTListen := some "localhost" }
      (localListener.current localDefaults)) =
        some (.error 400 "aggregate_nut_listen must be host:port or :port") := by
    decide +kernel
  exact ⟨t, ops, _, _, run, (failed_patch_unchanged_iff run).mpr (.invalid refused)⟩

/-- The new address cannot be bound, and the old listener is gone. -/
theorem refused_patch_stops : ∃ t ops, localListener.running = some "127.0.0.1:3493" ∧
    (handleControllerSettings localDefaults 7 { aggregateNUTListen := some "10.0.0.9:3493" }).answer
      perform [.go, .go, .go, .go, .go, .refused (.text "cannot assign requested address")] localListener =
        some (.error 502 "start aggregate NUT listener on 10.0.0.9:3493: cannot assign requested address",
          t, ops) ∧
    t.running = none := by
  have ran : ((handleControllerSettings localDefaults 7 { aggregateNUTListen := some "10.0.0.9:3493" }).answer
      perform [.go, .go, .go, .go, .go, .refused (.text "cannot assign requested address")]
      localListener).map (fun (reply, t, _) => (reply, t.running)) =
        some (.error 502 "start aggregate NUT listener on 10.0.0.9:3493: cannot assign requested address",
          none) := by
    decide +kernel
  obtain ⟨⟨reply, t, ops⟩, run, replied⟩ := Option.map_eq_some_iff.mp ran
  obtain ⟨rfl, stopped⟩ := Prod.mk.inj replied
  exact ⟨t, ops, rfl, run, stopped⟩

end Strom.Aggregate
