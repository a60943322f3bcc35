import Mathlib.Data.List.Perm.Basic
import Strom.Aggregate.Calls

/-!
# Which listeners stay open

No listener gets lost unnoticed: every open one is recorded by the manager, is in the
hands of a thread, or was overwritten while it was recorded.  `conserved_step` is
this balance for one operation.  Once all calls have returned no thread holds a
listener, so the open ones are those recorded exactly if none was overwritten
(`listening_eq_recorded_iff`).
-/

namespace Strom.Aggregate

open Strom.Go Strom.Effects

/-- The open listeners that only the thread at this stage knows of. -/
def Stage.holds : Stage → List Listener
  | .closingChannel ln _ => ln.toList
  | .closingListener ln => [ln]
  | .recording ln => [ln]
  | _ => []

def held (places : List (Task × Stage)) : List Listener := places.flatMap fun place => place.2.holds

/-- The recorded listener that the operation overwrites. -/
def AggregateOp.overwritten (s : Controller) : AggregateOp → List Listener
  | .record _ _ => s.fields.listener.toList
  | _ => []

/-- Every open listener is recorded, held or lost, and only those are open. -/
def Conserved (lost : List Listener) (places : List (Task × Stage)) (s : Controller) : Prop :=
  ∀ ln, s.listening.count ln =
    s.fields.listener.toList.count ln + (held places).count ln + lost.count ln

theorem count_held_set {places : List (Task × Stage)} {i : Nat} {place : Task × Stage}
    (found : places[i]? = some place) (place' : Task × Stage) (ln : Listener) :
    (held (places.set i place')).count ln + place.2.holds.count ln =
      (held places).count ln + place'.2.holds.count ln :=
  count_flatMap_set _ found place' ln

theorem held_append (places more : List (Task × Stage)) :
    held (places ++ more) = held places ++ held more := by
  simp [held]

theorem held_places (tasks : List Task) : held (Runtime.places Task.start tasks) = [] := by
  simp only [held, Runtime.places, List.flatMap_map, List.flatMap_eq_nil_iff]
  intro task _
  cases task <;> rfl

theorem conserved_step {lost : List Listener} {places : List (Task × Stage)} {s s' : Controller}
    {i : Nat} {task : Task} {stage stage' : Stage} {op : AggregateOp} {reply : op.Reply}
    {choice : Choice} (conserved : Conserved lost places s)
    (found : places[i]? = some (task, stage)) (reached : task.next stage op reply = some stage')
    (performed : perform op choice s = some (reply, s')) :
    Conserved (op.overwritten s ++ lost)
      (places.set i (task, stage') ++ Runtime.places Task.start (startsWatcher op)) s' := by
  intro ln
  have before := conserved ln
  have moved := count_held_set found (task, stage') ln
  rw [held_append, held_places, List.append_nil]
  cases moves_of_next reached with
  | restart =>
    obtain ⟨-, -, rfl⟩ := perform_needsRestart.mp performed
    simp_all [Stage.holds, AggregateOp.overwritten]
  | unchanged =>
    obtain ⟨-, -, rfl⟩ := perform_needsRestart.mp performed
    simp_all [Stage.holds, AggregateOp.overwritten]
  | take taken =>
    obtain ⟨-, rfl, rfl⟩ := perform_take.mp performed
    have taken : (Stage.afterTake (s.fields.listener, s.fields.stopCh)).holds =
        s.fields.listener.toList := by
      cases s.fields.listener <;> cases s.fields.stopCh <;> rfl
    simp_all [Stage.holds, AggregateOp.overwritten, Controller.taken]
    omega
  | closeChannel ln' ch =>
    obtain ⟨-, rfl⟩ := perform_closeChannel.mp performed
    cases ln' <;> simp_all [Stage.holds, Stage.afterChannel, AggregateOp.overwritten]
  | closeListener ln' =>
    obtain ⟨-, rfl⟩ := perform_closeListener.mp performed
    -- the listener is open, being held, and is neither held nor open afterwards
    simp_all [Stage.holds, AggregateOp.overwritten, List.count_erase, List.count_cons]
    split_ifs at * <;> omega
  | disable =>
    obtain ⟨-, rfl⟩ := perform_disable.mp performed
    simp_all [Stage.holds, AggregateOp.overwritten]
  | listen address ln' =>
    obtain ⟨-, -, -, rfl⟩ := perform_listen_ok.mp performed
    simp_all [Stage.holds, AggregateOp.overwritten, List.count_cons]
    omega
  | refused address e =>
    obtain ⟨-, rfl⟩ := perform_listen_error.mp performed
    simp_all [Stage.holds, AggregateOp.overwritten]
  | record ln' =>
    obtain ⟨-, rfl⟩ := perform_record.mp performed
    -- the recorded listener changes place with the one that was recorded before
    simp_all [Stage.holds, AggregateOp.overwritten, List.count_cons]
    omega
  | watch ln' =>
    obtain ⟨-, rfl⟩ := perform_watch.mp performed
    simp_all [Stage.holds, AggregateOp.overwritten]
  | done =>
    obtain ⟨-, -, rfl⟩ := perform_select_done.mp performed
    simp_all [Stage.holds, AggregateOp.overwritten]
  | closed =>
    obtain ⟨-, -, rfl⟩ := perform_select_closed.mp performed
    simp_all [Stage.holds, AggregateOp.overwritten]
  | cancel =>
    obtain ⟨-, rfl⟩ := perform_cancel.mp performed
    simp_all [Stage.holds, AggregateOp.overwritten]

/-! ## Calls without cancelled contexts -/

/-- No context is cancelled, so the goroutines only wait or have ended. -/
structure Quiet (places : List (Task × Stage)) (s : Controller) : Prop where
  cancelled : s.cancelled = []
  waiting : ∀ task stage, (task, stage) ∈ places →
    (∃ ctx enabled listen, task = .apply ctx enabled listen) ∨
      (∃ ctx ch, task = .watcher ctx ch) ∧ (stage = .selecting ∨ stage = .returned)

theorem quiet_step {places : List (Task × Stage)} {s s' : Controller} {i : Nat} {task : Task}
    {stage stage' : Stage} {op : AggregateOp} {reply : op.Reply} {choice : Choice}
    (quiet : Quiet places s) (found : places[i]? = some (task, stage))
    (reached : task.next stage op reply = some stage')
    (performed : perform op choice s = some (reply, s')) :
    Quiet (places.set i (task, stage') ++ Runtime.places Task.start (startsWatcher op)) s' := by
  have own := quiet.waiting task stage (List.mem_of_getElem? found)
  have started : ∀ task stage, (task, stage) ∈ Runtime.places Task.start (startsWatcher op) →
      (∃ ctx ch, task = .watcher ctx ch) ∧ stage = .selecting := by
    intro task stage member
    cases op <;> simp_all [startsWatcher, Runtime.places, Task.start]
  -- a goroutine leaves its place only when its channel is closed
  have moves : (∃ ctx enabled listen, task = .apply ctx enabled listen) ∧ s'.cancelled = [] ∨
      (∃ ctx ch, task = .watcher ctx ch) ∧ stage' = .returned ∧ s'.cancelled = [] := by
    have none_ := quiet.cancelled
    cases moves_of_next reached with
    | restart | unchanged => simp_all [perform_needsRestart.mp performed]
    | take => obtain ⟨-, -, rfl⟩ := perform_take.mp performed; simp_all [Controller.taken]
    | closeChannel => obtain ⟨-, rfl⟩ := perform_closeChannel.mp performed; simp_all
    | closeListener => obtain ⟨-, rfl⟩ := perform_closeListener.mp performed; simp_all
    | disable => obtain ⟨-, rfl⟩ := perform_disable.mp performed; simp_all
    | listen => obtain ⟨-, -, -, rfl⟩ := perform_listen_ok.mp performed; simp_all
    | refused => simp_all [perform_listen_error.mp performed]
    | record => obtain ⟨-, rfl⟩ := perform_record.mp performed; simp_all
    | watch => simp_all [perform_watch.mp performed]
    | done => obtain ⟨-, inside, -⟩ := perform_select_done.mp performed; simp_all
    | closed => simp_all [perform_select_closed.mp performed]
    | cancel => simp_all
  constructor
  · rcases moves with ⟨-, same⟩ | ⟨-, -, same⟩ <;> exact same
  · intro task' stage'' member
    rcases List.mem_append.mp member with member | member
    · rcases List.mem_or_eq_of_mem_set member with old | new
      · exact quiet.waiting _ _ old
      · cases new
        rcases moves with ⟨call, -⟩ | ⟨watcher, ended, -⟩
        · exact .inl call
        · exact .inr ⟨watcher, .inr ended⟩
    · obtain ⟨watcher, selecting⟩ := started _ _ member
      exact .inr ⟨watcher, .inl selecting⟩

/-- Calls of `Apply`, each with its context and arguments, next to the goroutines
    that earlier calls have left behind. -/
def applyTasks (calls : List (Nat × Bool × String)) (waiting : List (Nat × Nat)) : List Task :=
  calls.map (fun call => .apply call.1 call.2.1 call.2.2) ++
    waiting.map fun goroutine => .watcher goroutine.1 goroutine.2

def applyCalls (s : Controller) (calls : List (Nat × Bool × String)) (waiting : List (Nat × Nat)) :
    AggregatePool :=
  runtime.start s (applyTasks calls waiting)

/-- The turn does not overwrite a recorded listener. -/
def Vacant (pool : AggregatePool) (turn : Turn Choice) : Bool :=
  match Runtime.opOf pool turn with
  | some (.record _ _) => pool.state.fields.listener.isNone
  | _ => true

theorem overwritten_eq_nil_iff {pool : AggregatePool} {turn : Turn Choice} {op : AggregateOp}
    (issued : Runtime.opOf pool turn = some op) :
    op.overwritten pool.state = [] ↔ Vacant pool turn = true := by
  unfold Vacant
  rw [issued]
  cases op <;> simp [AggregateOp.overwritten]

theorem conserved_run {schedule : List (Turn Choice)} {lost : List Listener}
    {places : List (Task × Stage)} {pool next : AggregatePool}
    (staged : Runtime.Staged Task.next Task.ended places pool.threads)
    (conserved : Conserved lost places pool.state) (quiet : Quiet places pool.state)
    (run : replay runtime.step pool schedule = some next) :
    ∃ lost' places', Runtime.Staged Task.next Task.ended places' next.threads ∧
      Conserved (lost' ++ lost) places' next.state ∧ Quiet places' next.state ∧
      (lost' = [] ↔ Guarded runtime.step (fun pool turn => Vacant pool turn = true) pool schedule) := by
  induction schedule generalizing lost places pool with
  | nil =>
    cases run
    exact ⟨[], places, staged, conserved, quiet, by simp [Guarded]⟩
  | cons turn schedule ih =>
    obtain ⟨middle, taken, rest⟩ := replay_cons.mp run
    obtain ⟨task, stage, op, reply, stage', found, issued, reached, performed, staged'⟩ :=
      Runtime.step_staged code_follows staged taken
    obtain ⟨lost', places', ended, kept, quiet', guarded⟩ := ih staged'
      (conserved_step conserved found reached performed) (quiet_step quiet found reached performed) rest
    refine ⟨lost' ++ op.overwritten pool.state, places', ended, ?_, quiet', ?_⟩
    · simpa using kept
    · rw [List.append_eq_nil_iff, guarded, overwritten_eq_nil_iff issued]
      simp [Guarded, taken, and_comm]

theorem held_eq_nil {places : List (Task × Stage)} {pool : AggregatePool}
    (staged : Runtime.Staged Task.next Task.ended places pool.threads)
    (quiet : Quiet places pool.state)
    (returned : ∀ thread ∈ pool.threads, ∀ ctx enabled listen,
      thread.task = .apply ctx enabled listen → thread.op? = none) : held places = [] := by
  simp only [held, List.flatMap_eq_nil_iff]
  rintro ⟨task, stage⟩ member
  rcases quiet.waiting _ _ member with ⟨ctx, enabled, listen, rfl⟩ | ⟨-, rfl | rfl⟩
  · obtain ⟨thread, inside, here⟩ := Runtime.staged_mem staged member
    have ended := here.op?_eq_none (returned thread inside _ _ _ here.task)
    rcases ended with rfl | rfl | ⟨⟨_, _, other⟩, -⟩
    · rfl
    · rfl
    · cases other
  · rfl
  · rfl

/-- When all calls have returned, the open listeners are the one that the manager
    records, or none when it records none, exactly if no call has recorded its
    listener over that of another one. -/
theorem listening_eq_recorded_iff {s : Controller} {calls : List (Nat × Bool × String)}
    {waiting : List (Nat × Nat)} {schedule : List (Turn Choice)} {pool : AggregatePool}
    (consistent : s.listening = s.fields.listener.toList) (uncancelled : s.cancelled = [])
    (run : replay runtime.step (applyCalls s calls waiting) schedule = some pool)
    (returned : ∀ thread ∈ pool.threads, ∀ ctx enabled listen,
      thread.task = .apply ctx enabled listen → thread.op? = none) :
    pool.state.listening = pool.state.fields.listener.toList ↔
      Guarded runtime.step (fun pool turn => Vacant pool turn = true) (applyCalls s calls waiting)
        schedule := by
  have conserved : Conserved [] (Runtime.places Task.start (applyTasks calls waiting)) s := by
    intro ln
    rw [held_places, consistent]
    simp
  have quiet : Quiet (Runtime.places Task.start (applyTasks calls waiting)) s := by
    refine ⟨uncancelled, ?_⟩
    intro task stage member
    obtain ⟨task', inside, same⟩ := List.mem_map.mp member
    cases same
    simp only [applyTasks, List.mem_append, List.mem_map] at inside
    rcases inside with ⟨call, -, rfl⟩ | ⟨goroutine, -, rfl⟩
    · exact .inl ⟨_, _, _, rfl⟩
    · exact .inr ⟨⟨_, _, rfl⟩, .inl rfl⟩
  obtain ⟨lost, places, staged, kept, quiet', guarded⟩ := conserved_run
    (Runtime.staged_launch code_follows _) conserved quiet run
  have nothing := held_eq_nil staged quiet' returned
  rw [← guarded]
  have balance : pool.state.listening.Perm (pool.state.fields.listener.toList ++ lost) := by
    rw [List.perm_iff_count]
    intro ln
    simpa [nothing] using kept ln
  constructor
  · intro same
    have lengths := balance.length_eq
    rw [same, List.length_append] at lengths
    exact List.eq_nil_of_length_eq_zero (by omega)
  · rintro rfl
    rw [List.append_nil] at balance
    cases recorded : pool.state.fields.listener with
    | none => simpa [recorded] using balance
    | some ln => simpa [recorded] using balance

/-- What is seen of the controller when a schedule is through: the open listeners,
    the recorded one, and whether every call has returned. -/
def applyOutcome (calls : List (Nat × Bool × String)) (schedule : List (Turn Choice)) :
    Option (List Listener × Option Listener × Bool) := do
  let pool ← replay runtime.step (applyCalls {} calls []) schedule
  return (pool.state.listening, pool.state.fields.listener,
    pool.threads.all fun thread =>
      match thread.task with
      | .apply _ _ _ => thread.op?.isNone
      | _ => true)

theorem applyOutcome_eq_some {calls : List (Nat × Bool × String)} {schedule : List (Turn Choice)}
    {listening : List Listener} {recorded : Option Listener}
    (outcome : applyOutcome calls schedule = some (listening, recorded, true)) :
    ∃ pool, replay runtime.step (applyCalls {} calls []) schedule = some pool ∧
      (∀ thread ∈ pool.threads, ∀ ctx enabled listen,
        thread.task = .apply ctx enabled listen → thread.op? = none) ∧
      pool.state.listening = listening ∧ pool.state.fields.listener = recorded := by
  simp only [applyOutcome, Option.bind_eq_bind, Option.bind_eq_some_iff, Option.pure_def,
    Option.some.injEq, Prod.mk.injEq] at outcome
  obtain ⟨pool, run, listening, recorded, ended⟩ := outcome
  refine ⟨pool, run, ?_, listening, recorded⟩
  intro thread member ctx enabled listen task
  have finished := List.all_eq_true.mp ended thread member
  simpa [task] using finished

/-- The turns of a call that opens a listener at `address` while none is recorded. -/
def openingTurns (thread : Nat) (address : String) : List (Turn Choice) :=
  [⟨thread, .go⟩, ⟨thread, .go⟩, ⟨thread, .bound address⟩, ⟨thread, .go⟩, ⟨thread, .go⟩]

theorem listening_eq_recorded_iff_of_one :
    ∃ pool, replay runtime.step (applyCalls {} [(1, true, ":3493")] [])
        (openingTurns 0 "[::]:3493") = some pool ∧
      pool.state.listening = pool.state.fields.listener.toList := by
  have outcome : applyOutcome [(1, true, ":3493")] (openingTurns 0 "[::]:3493") =
      some ([⟨0, "[::]:3493"⟩], some ⟨0, "[::]:3493"⟩, true) := by decide +kernel
  obtain ⟨pool, run, returned, -⟩ := applyOutcome_eq_some outcome
  exact ⟨pool, run, (listening_eq_recorded_iff rfl rfl run returned).mpr (by decide +kernel)⟩

/-- Both calls find the manager stopped and both start it: the first listener stays
    open, and nothing records it. -/
theorem listening_not_recorded :
    ¬ ∀ (s : Controller) (calls : List (Nat × Bool × String)) (waiting : List (Nat × Nat))
        (schedule : List (Turn Choice)) (pool : AggregatePool),
      s.listening = s.fields.listener.toList → s.cancelled = [] →
      replay runtime.step (applyCalls s calls waiting) schedule = some pool →
      (∀ thread ∈ pool.threads, ∀ ctx enabled listen,
        thread.task = .apply ctx enabled listen → thread.op? = none) →
      pool.state.listening = pool.state.fields.listener.toList := by
  intro claim
  have outcome : applyOutcome [(1, true, ":3493"), (2, true, ":3494")]
      [⟨0, .go⟩, ⟨1, .go⟩, ⟨0, .go⟩, ⟨1, .go⟩, ⟨0, .bound "[::]:3493"⟩, ⟨1, .bound "[::]:3494"⟩,
        ⟨0, .go⟩, ⟨1, .go⟩, ⟨0, .go⟩, ⟨1, .go⟩] =
        some ([⟨1, "[::]:3494"⟩, ⟨0, "[::]:3493"⟩], some ⟨1, "[::]:3494"⟩, true) := by decide +kernel
  obtain ⟨pool, run, returned, listening, recorded⟩ := applyOutcome_eq_some outcome
  have same := claim _ _ _ _ pool rfl rfl run returned
  rw [listening, recorded] at same
  cases same

end Strom.Aggregate
