import Strom.Aggregate.Manager

/-!
# Concurrent calls of `Apply`

The threads around the manager: calls of `Apply`, the goroutines they leave
behind, and whoever cancels a context.  `Stage` names the point that a thread has
reached; `code_follows` checks the names against the programs.
-/

namespace Strom.Aggregate

open Strom.Go Strom.Effects

inductive Task where
  | apply (ctx : Nat) (enabled : Bool) (listen : String)
  | watcher (ctx ch : Nat)
  | cancel (ctx : Nat)
deriving DecidableEq, Repr

def Task.code : Task → AggregateProgram Unit
  | .apply ctx enabled listen => do
    let _ ← Strom.Aggregate.apply ctx enabled listen
    return ()
  | .watcher ctx ch => Strom.Aggregate.watcher ctx ch
  | .cancel ctx => Program.perform (AggregateOp.cancel ctx)

def startsWatcher : AggregateOp → List Task
  | .watch ctx ch => [.watcher ctx ch]
  | _ => []

def runtime : Runtime Task AggregateOp AggregateOp.Reply Choice Controller where
  code := Task.code
  perform := perform
  starts := startsWatcher

abbrev AggregatePool := Pool Controller (Thread Task AggregateOp AggregateOp.Reply)

/-! ## Stages -/

inductive Stage where
  /-- About to compare the request with the fields. -/
  | asking
  /-- About to take the listener. -/
  | stopping
  | closingChannel (ln : Option Listener) (ch : Nat)
  | closingListener (ln : Listener)
  /-- Nothing is left to close. -/
  | stopped
  /-- The listener is open and about to be recorded. -/
  | recording (ln : Listener)
  /-- About to start the goroutine. -/
  | watching (ln : Listener)
  | selecting
  | cancelling
  | returned
  /-- `Apply` has returned an error. -/
  | failed
deriving DecidableEq

def Stage.afterTake : Option Listener × Option Nat → Stage
  | (ln, some ch) => .closingChannel ln ch
  | (some ln, none) => .closingListener ln
  | (none, none) => .stopped

def Stage.afterChannel : Option Listener → Stage
  | some ln => .closingListener ln
  | none => .stopped

/-- The stages of `stop`, in whichever thread it runs. -/
def stopNext : Stage → (op : AggregateOp) → op.Reply → Option Stage
  | .stopping, .take, taken => some (.afterTake taken)
  | .closingChannel ln ch, .closeChannel ch', _ => if ch' = ch then some (.afterChannel ln) else none
  | .closingListener ln, .closeListener ln', _ => if ln' = ln then some .stopped else none
  | _, _, _ => none

def applyNext (ctx : Nat) (enabled : Bool) (listen : String) :
    Stage → (op : AggregateOp) → op.Reply → Option Stage
  | .asking, .needsRestart enabled' listen', needed =>
    if enabled' = enabled ∧ listen' = listenOrDefault listen then
      some (if needed then .stopping else .returned)
    else none
  | .stopped, .disable _, _ => if enabled then none else some .returned
  | .stopped, .listen _, reply =>
    if enabled then
      match reply with
      | .ok ln => some (.recording ln)
      | .error _ => some .failed
    else none
  | .recording ln, .record ln' ch, _ => if ln' = ln ∧ ch = ln.id then some (.watching ln) else none
  | .watching ln, .watch ctx' ch, _ => if ctx' = ctx ∧ ch = ln.id then some .returned else none
  | stage, op, reply => stopNext stage op reply

def Task.next : Task → Stage → (op : AggregateOp) → op.Reply → Option Stage
  | .apply ctx enabled listen, stage, op, reply => applyNext ctx enabled listen stage op reply
  | .watcher ctx ch, .selecting, .select ctx' ch', done =>
    if ctx' = ctx ∧ ch' = ch then some (if done then .stopping else .returned) else none
  | .watcher _ _, stage, op, reply => stopNext stage op reply
  | .cancel ctx, .cancelling, .cancel ctx', _ => if ctx' = ctx then some .returned else none
  | .cancel _, _, _, _ => none

def Task.start : Task → Stage
  | .apply _ _ _ => .asking
  | .watcher _ _ => .selecting
  | .cancel _ => .cancelling

def Task.ended (task : Task) (stage : Stage) : Prop :=
  stage = .returned ∨ stage = .failed ∨ (∃ ctx ch, task = .watcher ctx ch) ∧ stage = .stopped

/-- Where a call of `Apply` with this result is. -/
def Stage.ofResult : Except GoError Unit → Stage
  | .ok _ => .returned
  | .error _ => .failed

/-- `stop` ends where nothing is left to close, in any list of stages that has its own. -/
theorem stop_follows {next : Stage → (op : AggregateOp) → op.Reply → Option Stage}
    (inside : ∀ stage op reply stage', stopNext stage op reply = some stage' →
      next stage op reply = some stage') :
    stop.Follows next (fun stage _ => stage = .stopped) .stopping := by
  have follows : stop.Follows stopNext (fun stage _ => stage = .stopped) .stopping := by
    rintro ⟨ln, stopCh⟩
    refine ⟨_, rfl, ?_⟩
    cases stopCh with
    | none =>
      cases ln with
      | none => rfl
      | some ln =>
        intro reply
        exact ⟨.stopped, if_pos rfl, rfl⟩
    | some ch =>
      intro reply
      refine ⟨.afterChannel ln, if_pos rfl, ?_⟩
      cases ln with
      | none => rfl
      | some ln =>
        intro reply
        exact ⟨.stopped, if_pos rfl, rfl⟩
  refine (Program.Follows.embed (f := id) follows inside).mono ?_
  rintro stage value ⟨_, rfl, ended⟩
  exact ended

theorem applyNext_of_stopNext {ctx : Nat} {enabled : Bool} {listen : String} {stage stage' : Stage}
    {op : AggregateOp} {reply : op.Reply} (reached : stopNext stage op reply = some stage') :
    applyNext ctx enabled listen stage op reply = some stage' := by
  cases stage <;> cases op <;> simp_all [stopNext, applyNext]

theorem start_follows (ctx : Nat) (listen listen' : String) :
    (Strom.Aggregate.start ctx listen).Follows (applyNext ctx true listen')
      (fun stage result => stage = .ofResult result) .stopped := by
  intro reply
  cases reply with
  | error e => exact ⟨.failed, rfl, rfl⟩
  | ok ln =>
    refine ⟨.recording ln, rfl, fun _ => ⟨.watching ln, ?_, fun _ => ⟨.returned, ?_, rfl⟩⟩⟩
    · simp [applyNext]
    · simp [applyNext]

theorem apply_follows (ctx : Nat) (enabled : Bool) (listen : String) :
    (Strom.Aggregate.apply ctx enabled listen).Follows (applyNext ctx enabled listen)
      (fun stage result => stage = .ofResult result) .asking := by
  intro needed
  refine ⟨if needed then .stopping else .returned, by simp [applyNext], ?_⟩
  cases needed with
  | false => rfl
  | true =>
    have stops : stop.Follows (applyNext ctx enabled listen) (fun stage _ => stage = .stopped)
      .stopping := stop_follows fun _ _ _ _ => applyNext_of_stopNext
    change (stop.bind _).Follows _ _ _
    refine (Program.follows_bind _ _ _).mpr (stops.mono ?_)
    rintro stage - rfl
    cases enabled with
    | true => exact start_follows ctx _ listen
    | false => exact fun _ => ⟨.returned, rfl, rfl⟩

theorem code_follows (task : Task) :
    (runtime.code task).Follows task.next (fun stage _ => task.ended stage) task.start := by
  cases task with
  | apply ctx enabled listen =>
    refine (Program.follows_bind _ _ _).mpr ((apply_follows ctx enabled listen).mono ?_)
    rintro stage result rfl
    cases result with
    | ok u => exact .inl rfl
    | error e => exact .inr (.inl rfl)
  | watcher ctx ch =>
    intro done
    refine ⟨if done then .stopping else .returned, by simp [Task.next, Task.start], ?_⟩
    cases done with
    | false => exact .inl rfl
    | true =>
      have stops : stop.Follows (Task.next (.watcher ctx ch)) (fun stage _ => stage = .stopped)
          .stopping := by
        apply stop_follows
        intro stage op reply stage' reached
        cases stage <;> cases op <;> simp_all [stopNext, Task.next]
      refine stops.mono ?_
      rintro stage - rfl
      exact .inr (.inr ⟨⟨ctx, ch, rfl⟩, rfl⟩)
  | cancel ctx =>
    intro reply
    exact ⟨.returned, if_pos rfl, .inl rfl⟩

/-- Every move of a thread, with what it takes. -/
inductive Moves : Task → Stage → (op : AggregateOp) → op.Reply → Stage → Prop where
  | restart {ctx enabled listen} : Moves (.apply ctx enabled listen) .asking
      (.needsRestart enabled (listenOrDefault listen)) true .stopping
  | unchanged {ctx enabled listen} : Moves (.apply ctx enabled listen) .asking
      (.needsRestart enabled (listenOrDefault listen)) false .returned
  | take {task} (taken : Option Listener × Option Nat) :
      Moves task .stopping .take taken (.afterTake taken)
  | closeChannel {task} (ln : Option Listener) (ch : Nat) :
      Moves task (.closingChannel ln ch) (.closeChannel ch) () (.afterChannel ln)
  | closeListener {task} (ln : Listener) :
      Moves task (.closingListener ln) (.closeListener ln) () .stopped
  | disable {ctx listen} (address : String) :
      Moves (.apply ctx false listen) .stopped (.disable address) () .returned
  | listen {ctx listen} (address : String) (ln : Listener) :
      Moves (.apply ctx true listen) .stopped (.listen address) (.ok ln) (.recording ln)
  | refused {ctx listen} (address : String) (e : GoError) :
      Moves (.apply ctx true listen) .stopped (.listen address) (.error e) .failed
  | record {ctx enabled listen} (ln : Listener) :
      Moves (.apply ctx enabled listen) (.recording ln) (.record ln ln.id) () (.watching ln)
  | watch {ctx enabled listen} (ln : Listener) :
      Moves (.apply ctx enabled listen) (.watching ln) (.watch ctx ln.id) () .returned
  | done {ctx ch} : Moves (.watcher ctx ch) .selecting (.select ctx ch) true .stopping
  | closed {ctx ch} : Moves (.watcher ctx ch) .selecting (.select ctx ch) false .returned
  | cancel {ctx} : Moves (.cancel ctx) .cancelling (.cancel ctx) () .returned

theorem moves_of_stopNext {stage stage' : Stage} {op : AggregateOp} {reply : op.Reply}
    (reached : stopNext stage op reply = some stage') (task : Task) :
    Moves task stage op reply stage' := by
  unfold stopNext at reached
  split at reached
  · cases reached
    exact .take _
  · split_ifs at reached with same
    cases reached
    subst same
    exact .closeChannel _ _
  · split_ifs at reached with same
    cases reached
    subst same
    exact .closeListener _
  · cases reached

theorem moves_of_next {task : Task} {stage stage' : Stage} {op : AggregateOp} {reply : op.Reply}
    (reached : task.next stage op reply = some stage') : Moves task stage op reply stage' := by
  unfold Task.next at reached
  split at reached
  · unfold applyNext at reached
    split at reached
    · split_ifs at reached with same needed <;> obtain ⟨rfl, rfl⟩ := same <;> cases reached
      · subst needed
        exact .restart
      · simp only [Bool.not_eq_true] at needed
        subst needed
        exact .unchanged
    · split_ifs at reached with enabled
      cases reached
      simp only [Bool.not_eq_true] at enabled
      subst enabled
      exact .disable _
    · split_ifs at reached with enabled
      subst enabled
      split at reached <;> cases reached
      · exact .listen _ _
      · exact .refused _ _
    · split_ifs at reached with same
      obtain ⟨rfl, rfl⟩ := same
      cases reached
      exact .record _
    · split_ifs at reached with same
      obtain ⟨rfl, rfl⟩ := same
      cases reached
      exact .watch _
    · exact moves_of_stopNext reached _
  · split_ifs at reached with same done <;> obtain ⟨rfl, rfl⟩ := same <;> cases reached
    · subst done
      exact .done
    · simp only [Bool.not_eq_true] at done
      subst done
      exact .closed
  · exact moves_of_stopNext reached _
  · split_ifs at reached with same
    subst same
    cases reached
    exact .cancel
  · cases reached

end Strom.Aggregate
