import Strom.Aggregate.Listeners

/-!
# What a cancelled context stops

The goroutine of a start calls `stop` when its context is cancelled, and `stop` acts
on whatever listener is recorded by then.  `Spared` says that every goroutine that
a cancelled context has woken, or can wake, finds its own listener or none; it
holds as long as no other start comes in between (`cancel_spares_later`).
-/

namespace Strom.Aggregate

open Strom.Go Strom.Effects

/-! ## Goroutines that are on their way to `stop` -/

/-- The listener whose goroutine this thread is, or is about to start, if the
    goroutine's context is cancelled and it has not called `stop` yet. -/
def pendingWatch (cancelled : List Nat) (thread : Thread Task AggregateOp AggregateOp.Reply) :
    Option Nat :=
  match thread.op?, thread.task with
  | some (.select ctx ch), _ => if ctx ∈ cancelled then some ch else none
  | some (.watch ctx ch), _ => if ctx ∈ cancelled then some ch else none
  | some .take, .watcher _ ch => some ch
  | _, _ => none

/-- The goroutine of the thread, if it waits for the context or is about to. -/
def watchOf (ctx : Nat) (thread : Thread Task AggregateOp AggregateOp.Reply) : Option Nat :=
  match thread.op? with
  | some (.select ctx' ch) => if ctx' = ctx then some ch else none
  | some (.watch ctx' ch) => if ctx' = ctx then some ch else none
  | _ => none

/-- No listener is recorded while a goroutine with a cancelled context has not
    stopped, and a context is cancelled only while its goroutine would find its own
    listener, or none. -/
def Settled (pool : AggregatePool) (turn : Turn Choice) : Bool :=
  match Runtime.opOf pool turn with
  | some (.record _ _) =>
    pool.threads.all fun thread => (pendingWatch pool.state.cancelled thread).isNone
  | some (.cancel ctx) =>
    pool.threads.all fun thread => (watchOf ctx thread).all fun ch =>
      pool.state.fields.listener.all fun ln => ln.id = ch
  | _ => true

/-- `pendingWatch`, by the stage of the thread. -/
def pendingAt (cancelled : List Nat) : Task × Stage → Option Nat
  | (.watcher ctx ch, .selecting) => if ctx ∈ cancelled then some ch else none
  | (.apply ctx _ _, .watching ln) => if ctx ∈ cancelled then some ln.id else none
  | (.watcher _ ch, .stopping) => some ch
  | _ => none

theorem op_of_at {place : Task × Stage} {thread : Thread Task AggregateOp AggregateOp.Reply}
    (here : Runtime.At Task.next Task.ended place thread) (going : ¬ place.1.ended place.2) :
    ∃ op reply stage', thread.op? = some op ∧ Moves place.1 place.2 op reply stage' := by
  cases issues : thread.op? with
  | none => exact absurd (here.op?_eq_none issues) going
  | some op =>
    have answered := here.op?_eq_some issues default
    obtain ⟨stage', reached⟩ := Option.isSome_iff_exists.mp answered
    exact ⟨op, default, stage', rfl, moves_of_next reached⟩

section At

variable {thread : Thread Task AggregateOp AggregateOp.Reply} {ctx ch : Nat} {enabled : Bool}
  {listen : String} {ln : Listener}

theorem op_of_selecting
    (here : Runtime.At Task.next Task.ended (.watcher ctx ch, .selecting) thread) :
    thread.op? = some (.select ctx ch) := by
  obtain ⟨op, reply, stage', issues, moves⟩ := op_of_at here (by simp [Task.ended])
  cases moves <;> exact issues

theorem op_of_watching
    (here : Runtime.At Task.next Task.ended (.apply ctx enabled listen, .watching ln) thread) :
    thread.op? = some (.watch ctx ln.id) := by
  obtain ⟨op, reply, stage', issues, moves⟩ := op_of_at here (by simp [Task.ended])
  cases moves
  exact issues

theorem op_of_stopping
    (here : Runtime.At Task.next Task.ended (.watcher ctx ch, .stopping) thread) :
    thread.op? = some .take := by
  obtain ⟨op, reply, stage', issues, moves⟩ := op_of_at here (by simp [Task.ended])
  cases moves
  exact issues

end At

theorem pendingWatch_of_pendingAt {cancelled : List Nat} {place : Task × Stage} {g : Nat}
    {thread : Thread Task AggregateOp AggregateOp.Reply}
    (here : Runtime.At Task.next Task.ended place thread) (pending : pendingAt cancelled place = some g) :
    pendingWatch cancelled thread = some g := by
  unfold pendingAt at pending
  have task := here.task
  split at pending
  · simpa [pendingWatch, op_of_selecting here] using pending
  · simpa [pendingWatch, op_of_watching here] using pending
  · simpa [pendingWatch, op_of_stopping here, task] using pending
  · cases pending

/-- Cancelling one more context. -/
theorem pendingAt_cons {cancelled : List Nat} {place : Task × Stage} {g ctx : Nat}
    {thread : Thread Task AggregateOp AggregateOp.Reply}
    (here : Runtime.At Task.next Task.ended place thread)
    (pending : pendingAt (ctx :: cancelled) place = some g) :
    pendingAt cancelled place = some g ∨ watchOf ctx thread = some g := by
  unfold pendingAt at pending ⊢
  split at pending
  · simp only [watchOf, op_of_selecting here]
    grind
  · simp only [watchOf, op_of_watching here]
    grind
  · exact .inl pending
  · cases pending

/-! ## The invariant -/

structure Spared (places : List (Task × Stage)) (s : Controller) : Prop where
  pending : ∀ place ∈ places, ∀ g, pendingAt s.cancelled place = some g →
    ∀ ln, s.fields.listener = some ln → ln.id = g
  /-- What a goroutine is about to close is its own listener. -/
  closing : ∀ ctx ch stage, (.watcher ctx ch, stage) ∈ places → ∀ ln ∈ stage.holds, ln.id = ch

theorem holds_afterTake (taken : Option Listener × Option Nat) :
    (Stage.afterTake taken).holds = taken.1.toList := by
  obtain ⟨ln, ch⟩ := taken
  cases ln <;> cases ch <;> rfl

theorem holds_afterChannel (ln : Option Listener) : (Stage.afterChannel ln).holds = ln.toList := by
  cases ln <;> rfl

section Step

variable {places : List (Task × Stage)} {pool next : AggregatePool} {turn : Turn Choice}
  {task : Task} {stage stage' : Stage} {op : AggregateOp} {reply : op.Reply}

/-- The goroutines that were there before the step. -/
theorem Spared.old (spared : Spared places pool.state)
    (staged : Runtime.Staged Task.next Task.ended places pool.threads)
    (settled : Settled pool turn = true) (issued : Runtime.opOf pool turn = some op)
    (performed : perform op turn.choice pool.state = some (reply, next.state))
    (moves : Moves task stage op reply stage') :
    ∀ place ∈ places, ∀ g, pendingAt next.state.cancelled place = some g →
      ∀ ln, next.state.fields.listener = some ln → ln.id = g := by
  intro place member g pending ln recorded
  obtain ⟨thread, inside, here⟩ := Runtime.staged_mem staged member
  have before := spared.pending place member g
  unfold Settled at settled
  rw [issued] at settled
  cases moves with
  | restart | unchanged =>
    obtain ⟨-, -, same⟩ := perform_needsRestart.mp performed
    exact before (same ▸ pending) ln (same ▸ recorded)
  | take taken =>
    obtain ⟨-, -, same⟩ := perform_take.mp performed
    simp [same, Controller.taken] at recorded
  | closeChannel ln' ch =>
    obtain ⟨-, same⟩ := perform_closeChannel.mp performed
    rw [same] at pending recorded
    exact before pending ln recorded
  | closeListener ln' =>
    obtain ⟨-, same⟩ := perform_closeListener.mp performed
    rw [same] at pending recorded
    exact before pending ln recorded
  | disable address =>
    obtain ⟨-, same⟩ := perform_disable.mp performed
    rw [same] at pending recorded
    exact before pending ln recorded
  | listen address ln' =>
    obtain ⟨-, -, -, same⟩ := perform_listen_ok.mp performed
    rw [same] at pending recorded
    exact before pending ln recorded
  | refused address e =>
    obtain ⟨-, same⟩ := perform_listen_error.mp performed
    exact before (same ▸ pending) ln (same ▸ recorded)
  | record ln' =>
    -- no goroutine is pending while a listener is recorded
    obtain ⟨-, same⟩ := perform_record.mp performed
    rw [same] at pending
    have none_ := List.all_eq_true.mp settled thread inside
    simp [pendingWatch_of_pendingAt here pending] at none_
  | watch ln' =>
    obtain ⟨-, same⟩ := perform_watch.mp performed
    exact before (same ▸ pending) ln (same ▸ recorded)
  | done =>
    obtain ⟨-, -, same⟩ := perform_select_done.mp performed
    exact before (same ▸ pending) ln (same ▸ recorded)
  | closed =>
    obtain ⟨-, -, same⟩ := perform_select_closed.mp performed
    exact before (same ▸ pending) ln (same ▸ recorded)
  | cancel =>
    obtain ⟨-, same⟩ := perform_cancel.mp performed
    rw [same] at pending recorded
    rcases pendingAt_cons here pending with earlier | woken
    · exact before earlier ln recorded
    · have own := List.all_eq_true.mp settled thread inside
      simp only at recorded
      simpa [woken, recorded] using own

/-- The thread that has moved, and the goroutine it may have started. -/
theorem Spared.new (spared : Spared places pool.state)
    (found : places[turn.thread]? = some (task, stage))
    (performed : perform op turn.choice pool.state = some (reply, next.state))
    (moves : Moves task stage op reply stage') :
    ∀ place, place = (task, stage') ∨ place ∈ Runtime.places Task.start (startsWatcher op) →
      ∀ g, pendingAt next.state.cancelled place = some g →
        ∀ ln, next.state.fields.listener = some ln → ln.id = g := by
  intro place fresh g pending ln recorded
  have before := spared.pending _ (List.mem_of_getElem? found) g
  cases moves with
  | record ln' =>
    obtain ⟨-, same⟩ := perform_record.mp performed
    rw [same] at recorded
    simp only [Option.some.injEq] at recorded
    rcases fresh with rfl | started
    · simp only [pendingAt] at pending
      grind
    · simp [startsWatcher, Runtime.places] at started
  | watch ln' =>
    obtain ⟨-, same⟩ := perform_watch.mp performed
    rw [same] at pending recorded
    rcases fresh with rfl | started
    · simp [pendingAt] at pending
    · simp only [startsWatcher, Runtime.places, List.map_cons, List.map_nil,
        List.mem_singleton] at started
      subst started
      exact before pending ln recorded
  | done =>
    obtain ⟨-, inside, same⟩ := perform_select_done.mp performed
    rw [same] at recorded
    rcases fresh with rfl | started
    · exact before (by simpa [pendingAt, inside] using pending) ln recorded
    · simp [startsWatcher, Runtime.places] at started
  | take taken =>
    obtain ⟨-, -, same⟩ := perform_take.mp performed
    simp [same, Controller.taken] at recorded
  | closeChannel ln' ch => cases ln' <;> simp_all [startsWatcher, Runtime.places, pendingAt, Stage.afterChannel]
  | restart | unchanged | closeListener | disable | listen | refused | closed | cancel =>
    simp_all [startsWatcher, Runtime.places, pendingAt]

theorem Spared.own (spared : Spared places pool.state)
    (found : places[turn.thread]? = some (task, stage))
    (performed : perform op turn.choice pool.state = some (reply, next.state))
    (moves : Moves task stage op reply stage') {ctx ch : Nat} (goroutine : task = .watcher ctx ch) :
    ∀ ln ∈ stage'.holds, ln.id = ch := by
  subst goroutine
  have member := List.mem_of_getElem? found
  have before := spared.closing ctx ch stage member
  cases moves with
  | take taken =>
    obtain ⟨-, rfl, -⟩ := perform_take.mp performed
    intro ln holds
    rw [holds_afterTake] at holds
    -- the goroutine was pending, so the listener it takes is its own
    exact spared.pending _ member ch rfl ln (by simpa using holds)
  | closeChannel ln' c =>
    rw [holds_afterChannel]
    simpa [Stage.holds] using before
  | closeListener | done | closed => simp [Stage.holds]

theorem spared_step (spared : Spared places pool.state)
    (staged : Runtime.Staged Task.next Task.ended places pool.threads)
    (settled : Settled pool turn = true) (found : places[turn.thread]? = some (task, stage))
    (issued : Runtime.opOf pool turn = some op) (reached : task.next stage op reply = some stage')
    (performed : perform op turn.choice pool.state = some (reply, next.state)) :
    Spared (places.set turn.thread (task, stage') ++ Runtime.places Task.start (startsWatcher op))
      next.state := by
  have moves := moves_of_next reached
  constructor
  · intro place member
    rcases List.mem_append.mp member with member | started
    · rcases List.mem_or_eq_of_mem_set member with old | rfl
      · exact spared.old staged settled issued performed moves place old
      · exact spared.new found performed moves _ (.inl rfl)
    · exact spared.new found performed moves _ (.inr started)
  · intro ctx ch stage'' member
    rcases List.mem_append.mp member with member | started
    · rcases List.mem_or_eq_of_mem_set member with old | new
      · exact spared.closing ctx ch stage'' old
      · cases new
        exact spared.own found performed moves rfl
    · obtain ⟨task', -, same⟩ := List.mem_map.mp started
      cases same
      simp [Task.start, Stage.holds]

end Step

/-! ## Every interleaving -/

/-- Calls of `Apply`, each with its context and arguments, and the contexts that are
    cancelled at some time. -/
def callsAndCancels (calls : List (Nat × Bool × String)) (cancels : List Nat) : AggregatePool :=
  runtime.start {} (calls.map (fun call => .apply call.1 call.2.1 call.2.2) ++ cancels.map .cancel)

/-- In this turn the goroutine of an earlier start takes, or closes, the listener of
    a later one. -/
def StopsLater (pool : AggregatePool) (turn : Turn Choice) : Prop :=
  (runtime.step pool turn).isSome ∧ ∃ thread ctx ch ln,
    pool.threads[turn.thread]? = some thread ∧ thread.task = .watcher ctx ch ∧ ch < ln.id ∧
      (thread.op? = some .take ∧ pool.state.fields.listener = some ln ∨
        thread.op? = some (.closeListener ln))

theorem spared_start (calls : List (Nat × Bool × String)) (cancels : List Nat) :
    Spared (Runtime.places Task.start
      (calls.map (fun call => .apply call.1 call.2.1 call.2.2) ++ cancels.map .cancel)) {} := by
  constructor
  · intro place member g pending ln recorded
    cases recorded
  · intro ctx ch stage member
    simp [Runtime.places] at member

/-- Where every turn is settled, no cancelled context stops or closes a listener of a
    later start. -/
theorem cancel_spares_later {calls : List (Nat × Bool × String)} {cancels : List Nat}
    {schedule : List (Turn Choice)} {pool : AggregatePool}
    (run : replay runtime.step (callsAndCancels calls cancels) schedule = some pool)
    (settled : Guarded runtime.step (fun pool turn => Settled pool turn = true)
      (callsAndCancels calls cancels) schedule) (turn : Turn Choice) : ¬ StopsLater pool turn := by
  have spared : ∃ places, Runtime.Staged Task.next Task.ended places pool.threads ∧
      Spared places pool.state := by
    refine replay_invariant (I := fun pool : AggregatePool => ∃ places,
      Runtime.Staged Task.next Task.ended places pool.threads ∧ Spared places pool.state)
      ?_ ⟨_, Runtime.staged_launch code_follows _, spared_start calls cancels⟩ settled run
    rintro pool turn next ⟨places, staged, spared⟩ settled taken
    obtain ⟨task, stage, op, reply, stage', found, issued, reached, performed, staged'⟩ :=
      Runtime.step_staged code_follows staged taken
    exact ⟨_, staged', spared_step spared staged settled found issued reached performed⟩
  obtain ⟨places, staged, spared⟩ := spared
  rintro ⟨-, thread, ctx, ch, ln, found, goroutine, later, acts⟩
  obtain ⟨⟨task, stage⟩, found', here⟩ := Runtime.staged_getElem? staged _ found
  obtain rfl : task = .watcher ctx ch := here.task.symm.trans goroutine
  have member := List.mem_of_getElem? found'
  have own : ln.id = ch := by
    rcases acts with ⟨takes, recorded⟩ | closes
    · obtain ⟨stage', reached⟩ := Option.isSome_iff_exists.mp (here.op?_eq_some takes default)
      cases moves_of_next reached
      exact spared.pending _ member ch rfl ln recorded
    · obtain ⟨stage', reached⟩ := Option.isSome_iff_exists.mp (here.op?_eq_some closes default)
      cases moves_of_next reached
      exact spared.closing ctx ch _ member ln (by simp [Stage.holds])
  omega

/-- The thread of number `i` when a schedule is through, the recorded listener, and
    whether the thread can go on. -/
def goroutineOutcome (calls : List (Nat × Bool × String)) (cancels : List Nat)
    (schedule : List (Turn Choice)) (i : Nat) :
    Option (Task × Option AggregateOp × Option Listener × Bool) := do
  let pool ← replay runtime.step (callsAndCancels calls cancels) schedule
  let thread ← pool.threads[i]?
  return (thread.task, thread.op?, pool.state.fields.listener,
    (runtime.step pool ⟨i, .go⟩).isSome)

theorem goroutineOutcome_eq_some {calls : List (Nat × Bool × String)} {cancels : List Nat}
    {schedule : List (Turn Choice)} {i : Nat} {task : Task} {op : Option AggregateOp}
    {recorded : Option Listener} {goesOn : Bool}
    (outcome : goroutineOutcome calls cancels schedule i = some (task, op, recorded, goesOn)) :
    ∃ pool thread, replay runtime.step (callsAndCancels calls cancels) schedule = some pool ∧
      pool.threads[i]? = some thread ∧ thread.task = task ∧ thread.op? = op ∧
      pool.state.fields.listener = recorded ∧ (runtime.step pool ⟨i, .go⟩).isSome = goesOn := by
  simpa [goroutineOutcome, Option.bind_eq_some_iff] using outcome

/-- Two starts, and the context of the first one is cancelled in between. -/
theorem cancel_spares_later_of_two :
    ∃ pool, replay runtime.step (callsAndCancels [(1, true, ":3493"), (2, true, ":3494")] [1])
        (openingTurns 0 "[::]:3493" ++ [⟨2, .go⟩, ⟨3, .done⟩, ⟨3, .go⟩, ⟨3, .go⟩, ⟨3, .go⟩] ++
          openingTurns 1 "[::]:3494") = some pool ∧
      pool.state.fields.listener = some ⟨1, "[::]:3494"⟩ ∧ ∀ turn, ¬ StopsLater pool turn := by
  have outcome : goroutineOutcome [(1, true, ":3493"), (2, true, ":3494")] [1]
      (openingTurns 0 "[::]:3493" ++ [⟨2, .go⟩, ⟨3, .done⟩, ⟨3, .go⟩, ⟨3, .go⟩, ⟨3, .go⟩] ++
        openingTurns 1 "[::]:3494") 3 =
        some (.watcher 1 0, none, some ⟨1, "[::]:3494"⟩, false) := by decide +kernel
  obtain ⟨pool, thread, run, -, -, -, recorded, -⟩ := goroutineOutcome_eq_some outcome
  exact ⟨pool, run, recorded, cancel_spares_later run (by decide +kernel)⟩

/-- The second call has replaced the first one's listener when the first one's
    context is cancelled; its goroutine finds both channels ready, takes the branch
    of the context, and stops the second listener. -/
theorem cancel_stops_later :
    ¬ ∀ (calls : List (Nat × Bool × String)) (cancels : List Nat) (schedule : List (Turn Choice))
        (pool : AggregatePool) (turn : Turn Choice),
      replay runtime.step (callsAndCancels calls cancels) schedule = some pool →
      ¬ StopsLater pool turn := by
  intro claim
  have outcome : goroutineOutcome [(1, true, ":3493"), (2, true, ":3494")] [1]
      (openingTurns 0 "[::]:3493" ++ [⟨1, .go⟩, ⟨1, .go⟩, ⟨1, .go⟩, ⟨1, .go⟩,
        ⟨1, .bound "[::]:3494"⟩, ⟨1, .go⟩, ⟨1, .go⟩, ⟨2, .go⟩, ⟨3, .done⟩]) 3 =
        some (.watcher 1 0, some .take, some ⟨1, "[::]:3494"⟩, true) := by decide +kernel
  obtain ⟨pool, thread, run, found, goroutine, takes, recorded, goesOn⟩ :=
    goroutineOutcome_eq_some outcome
  exact claim _ _ _ pool ⟨3, .go⟩ run
    ⟨goesOn, thread, 1, 0, _, found, goroutine, by decide, .inl ⟨takes, recorded⟩⟩

end Strom.Aggregate
