import Mathlib.Data.List.Forall2
import Strom.Effects.Pool
import Strom.Effects.Stages

/-!
# Threads that wait, choose and start others

A `Runtime` gives the operations of concurrent programs their meaning on a shared
state.  An operation may be impossible for now (a lock, a channel), its outcome may
depend on a choice of the surroundings, and it may start further threads, each
running the code of a task.  A run is a list of turns: which thread moves, and what
is chosen.

`step_staged` follows every thread through the stages of its task, so that an
invariant of all interleavings is a statement about stages.
-/

namespace Strom.Effects

/-- The task a thread was started for, and what is left of its program. -/
structure Thread (Task Op : Type) (Reply : Op → Type) where
  task : Task
  rest : Program Op Reply Unit

structure Runtime (Task Op : Type) (Reply : Op → Type) (Choice σ : Type) where
  code : Task → Program Op Reply Unit
  /-- `none` where the operation cannot happen now with this outcome. -/
  perform : (op : Op) → Choice → σ → Option (Reply op × σ)
  /-- The tasks an operation starts threads for. -/
  starts : Op → List Task

structure Turn (Choice : Type) where
  thread : Nat
  choice : Choice

variable {Task Op : Type} {Reply : Op → Type} {Choice σ Stage : Type}

/-- Counting what the elements of a list carry, when one of them changes. -/
theorem count_flatMap_set {α β : Type} [DecidableEq β] (f : α → List β) {l : List α} {i : Nat} {a : α}
    (found : l[i]? = some a) (a' : α) (b : β) :
    ((l.set i a').flatMap f).count b + (f a).count b = (l.flatMap f).count b + (f a').count b := by
  induction l generalizing i with
  | nil => simp at found
  | cons first rest ih =>
    cases i with
    | zero =>
      simp only [List.getElem?_cons_zero, Option.some.injEq] at found
      subst found
      simp only [List.set_cons_zero, List.flatMap_cons, List.count_append]
      omega
    | succ i =>
      have step := ih (i := i) (by simpa using found)
      simp only [List.set_cons_succ, List.flatMap_cons, List.count_append]
      omega

/-- An element that is not the one that changes stays. -/
theorem mem_set_or_getElem? {α : Type} {l : List α} {a : α} (member : a ∈ l) (i : Nat) (b : α) :
    a ∈ l.set i b ∨ l[i]? = some a := by
  obtain ⟨j, inside, rfl⟩ := List.getElem_of_mem member
  by_cases same : i = j
  · subst same
    exact .inr (List.getElem?_eq_getElem inside)
  · left
    apply List.mem_of_getElem? (i := j)
    rw [List.getElem?_set_ne same]
    exact List.getElem?_eq_getElem inside

namespace Thread

/-- The operation the thread is about to issue. -/
def op? (thread : Thread Task Op Reply) : Option Op :=
  match thread.rest with
  | .ret _ => none
  | .call op _ => some op

@[simp] theorem op?_call (task : Task) (op : Op) (rest : Reply op → Program Op Reply Unit) :
    (Thread.mk task (.call op rest)).op? = some op := rfl

theorem op?_eq_some {thread : Thread Task Op Reply} {op : Op} : thread.op? = some op ↔
    ∃ rest, thread = { task := thread.task, rest := .call op rest } := by
  obtain ⟨task, program⟩ := thread
  cases program with
  | ret value => simp [op?]
  | call op' rest =>
    simp only [op?, Option.some.injEq]
    constructor
    · rintro rfl
      exact ⟨rest, rfl⟩
    · rintro ⟨rest', same⟩
      cases same
      rfl

theorem op?_eq_none {thread : Thread Task Op Reply} : thread.op? = none ↔ thread.rest = .ret () := by
  obtain ⟨task, program⟩ := thread
  cases program <;> simp [op?]

end Thread

namespace Runtime

variable (rt : Runtime Task Op Reply Choice σ)

def launch (task : Task) : Thread Task Op Reply := { task, rest := rt.code task }

/-- The threads of the tasks, each about to start. -/
def start (state : σ) (tasks : List Task) : Pool σ (Thread Task Op Reply) :=
  { state, threads := tasks.map rt.launch }

/-- One operation of one thread. -/
def step (pool : Pool σ (Thread Task Op Reply)) (turn : Turn Choice) :
    Option (Pool σ (Thread Task Op Reply)) :=
  match pool.threads[turn.thread]? with
  | some { task, rest := .call op rest } =>
    (rt.perform op turn.choice pool.state).map fun outcome =>
      { state := outcome.2
        threads := pool.threads.set turn.thread { task, rest := rest outcome.1 } ++
          (rt.starts op).map rt.launch }
  | _ => none

/-- The operation that a turn performs. -/
def opOf (pool : Pool σ (Thread Task Op Reply)) (turn : Turn Choice) : Option Op :=
  pool.threads[turn.thread]?.bind Thread.op?

variable {rt} {pool next : Pool σ (Thread Task Op Reply)} {turn : Turn Choice}

theorem step_eq_some : rt.step pool turn = some next ↔ ∃ task op rest reply state,
    pool.threads[turn.thread]? = some { task, rest := .call op rest } ∧
      rt.perform op turn.choice pool.state = some (reply, state) ∧
      next = { state
               threads := pool.threads.set turn.thread { task, rest := rest reply } ++
                 (rt.starts op).map rt.launch } := by
  unfold step
  cases found : pool.threads[turn.thread]? with
  | none => simp
  | some thread =>
    obtain ⟨task, program⟩ := thread
    cases program with
    | ret value => simp
    | call op rest =>
      simp only [Option.map_eq_some_iff, Prod.exists, Option.some.injEq, Thread.mk.injEq]
      constructor
      · rintro ⟨reply, state, performed, rfl⟩
        exact ⟨task, op, rest, reply, state, ⟨rfl, rfl⟩, performed, rfl⟩
      · rintro ⟨_, _, _, reply, state, ⟨rfl, same⟩, performed, rfl⟩
        cases same
        exact ⟨reply, state, performed, rfl⟩

/-- A thread whose operation can happen now makes its turn. -/
theorem step_of_perform {thread : Thread Task Op Reply} {op : Op} {outcome : Reply op × σ}
    (found : pool.threads[turn.thread]? = some thread) (issues : thread.op? = some op)
    (performed : rt.perform op turn.choice pool.state = some outcome) :
    rt.step pool turn ≠ none := by
  obtain ⟨rest, same⟩ := Thread.op?_eq_some.mp issues
  rw [same] at found
  simp [step, found, performed]

theorem step_of_ended {thread : Thread Task Op Reply} (found : pool.threads[turn.thread]? = some thread)
    (ended : thread.op? = none) : rt.step pool turn = none := by
  obtain ⟨task, program⟩ := thread
  obtain rfl : program = .ret () := Thread.op?_eq_none.mp ended
  simp [step, found]

/-! ## Following the threads through their stages -/

variable {next' : Task → Stage → (op : Op) → Reply op → Option Stage} {ended : Task → Stage → Prop}

/-- The thread runs for the task and is at the stage. -/
structure At (next' : Task → Stage → (op : Op) → Reply op → Option Stage)
    (ended : Task → Stage → Prop) (place : Task × Stage) (thread : Thread Task Op Reply) : Prop where
  task : thread.task = place.1
  follows : thread.rest.Follows (next' place.1) (fun stage _ => ended place.1 stage) place.2

/-- The stages of all threads. -/
abbrev Staged (next' : Task → Stage → (op : Op) → Reply op → Option Stage)
    (ended : Task → Stage → Prop) (places : List (Task × Stage))
    (threads : List (Thread Task Op Reply)) : Prop :=
  List.Forall₂ (At next' ended) places threads

theorem At.op?_eq_some {place : Task × Stage} {thread : Thread Task Op Reply}
    (here : At next' ended place thread) {op : Op} (issues : thread.op? = some op) (reply : Reply op) :
    (next' place.1 place.2 op reply).isSome := by
  obtain ⟨rest, same⟩ := Thread.op?_eq_some.mp issues
  have follows := here.follows
  rw [same] at follows
  obtain ⟨stage', reached, -⟩ := follows reply
  simp [reached]

theorem At.op?_eq_none {place : Task × Stage} {thread : Thread Task Op Reply}
    (here : At next' ended place thread) (finished : thread.op? = none) : ended place.1 place.2 := by
  have follows := here.follows
  rw [Thread.op?_eq_none.mp finished] at follows
  exact follows

theorem staged_getElem? {places : List (Task × Stage)} {threads : List (Thread Task Op Reply)}
    (staged : Staged next' ended places threads) (i : Nat) {thread : Thread Task Op Reply}
    (found : threads[i]? = some thread) :
    ∃ place, places[i]? = some place ∧ At next' ended place thread := by
  obtain ⟨inside, rfl⟩ := List.getElem?_eq_some_iff.mp found
  have inside' : i < places.length := by
    rw [staged.length_eq]
    exact inside
  refine ⟨places[i], List.getElem?_eq_getElem inside', ?_⟩
  simpa using staged.get inside' inside

theorem staged_place {places : List (Task × Stage)} {threads : List (Thread Task Op Reply)}
    (staged : Staged next' ended places threads) {place : Task × Stage} (member : place ∈ places) :
    ∃ (i : Nat) (thread : Thread Task Op Reply), threads[i]? = some thread ∧ At next' ended place thread := by
  obtain ⟨i, inside, rfl⟩ := List.getElem_of_mem member
  have inside' : i < threads.length := by
    rw [← staged.length_eq]
    exact inside
  refine ⟨i, threads[i], List.getElem?_eq_getElem inside', ?_⟩
  simpa using staged.get inside inside'

theorem staged_mem {places : List (Task × Stage)} {threads : List (Thread Task Op Reply)}
    (staged : Staged next' ended places threads) {place : Task × Stage} (member : place ∈ places) :
    ∃ thread ∈ threads, At next' ended place thread := by
  obtain ⟨i, thread, found, here⟩ := staged_place staged member
  exact ⟨thread, List.mem_of_getElem? found, here⟩

theorem staged_set {places : List (Task × Stage)} {threads : List (Thread Task Op Reply)}
    (staged : Staged next' ended places threads) (i : Nat) {place : Task × Stage}
    {thread : Thread Task Op Reply} (here : At next' ended place thread) :
    Staged next' ended (places.set i place) (threads.set i thread) := by
  induction staged generalizing i with
  | nil => simp
  | cons first rest ih =>
    cases i with
    | zero => exact .cons here rest
    | succ i => exact .cons first (ih i)

variable {start : Task → Stage}

/-- Where the threads of the tasks are before they have moved. -/
def places (start : Task → Stage) (tasks : List Task) : List (Task × Stage) :=
  tasks.map fun task => (task, start task)

theorem staged_launch
    (codeFollows : ∀ task, (rt.code task).Follows (next' task) (fun stage _ => ended task stage)
      (start task)) (tasks : List Task) :
    Staged next' ended (places start tasks) (tasks.map rt.launch) := by
  unfold places
  induction tasks with
  | nil => exact .nil
  | cons task tasks ih => exact .cons ⟨rfl, codeFollows task⟩ ih

/-- One turn, seen at the stages: the thread that moves goes to the stage that its
    operation and the reply lead to, and the threads it starts are at theirs. -/
theorem step_staged
    (codeFollows : ∀ task, (rt.code task).Follows (next' task) (fun stage _ => ended task stage)
      (start task))
    {stages : List (Task × Stage)} (staged : Staged next' ended stages pool.threads)
    (taken : rt.step pool turn = some next) : ∃ task stage op reply stage',
      stages[turn.thread]? = some (task, stage) ∧ opOf pool turn = some op ∧
      next' task stage op reply = some stage' ∧
      rt.perform op turn.choice pool.state = some (reply, next.state) ∧
      Staged next' ended
        (stages.set turn.thread (task, stage') ++ places start (rt.starts op)) next.threads := by
  obtain ⟨task, op, rest, reply, state, found, performed, rfl⟩ := step_eq_some.mp taken
  obtain ⟨⟨task', stage⟩, found', here⟩ := staged_getElem? staged turn.thread found
  obtain rfl : task = task' := here.task
  obtain ⟨stage', reached, later⟩ := here.follows reply
  refine ⟨task, stage, op, reply, stage', found', ?_, reached, performed, ?_⟩
  · simp [opOf, found]
  · exact List.rel_append (staged_set staged _ ⟨rfl, later⟩) (staged_launch codeFollows _)

end Runtime

end Strom.Effects
