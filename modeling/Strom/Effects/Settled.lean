import Strom.Effects.Exclusive
import Strom.Effects.Provided
import Strom.Effects.Threads

/-!
# Threads that wait for what they start

`settle` gives an operation its effect and then runs whatever it has started to the end.  A program
that is run so behaves as its thread does where, apart from it, only the threads move that it
starts: `replay_settled` is such a run of the pool.
-/

namespace Strom.Effects

variable {Task Op : Type} {Reply : Op → Type} {Choice σ α : Type}

/-- What a program secures holds of its run under any handler that plays permitted choices on a part
    of its own state. -/
theorem Program.Secures.run {τ : Type} {perform : (op : Op) → Choice → σ → Reply op × σ}
    {G : Op → Choice → σ → Prop} {h : Handler Op Reply τ} {view : τ → σ} {I : τ → Prop}
    (plays : ∀ op t, I t → ∃ choice, G op choice (view t) ∧ (h op t).1 = (perform op choice (view t)).1 ∧
      view (h op t).2 = (perform op choice (view t)).2 ∧ I (h op t).2)
    {p : Program Op Reply α} {Q : α → σ → Prop} {t : τ} (secures : p.Secures perform G Q (view t)) (inv : I t) :
    Q (p.run h t).1 (view (p.run h t).2) ∧ I (p.run h t).2 := by
  induction p generalizing t with
  | ret value => exact ⟨secures, inv⟩
  | call op next ih =>
    obtain ⟨choice, permitted, replied, state, later⟩ := plays op t inv
    have rest := secures choice permitted
    rw [← replied, ← state] at rest
    exact ih _ rest later

/-- Turns of these threads one after the other, with the choices from a number on. -/
def turns (choices : Nat → Choice) : Nat → List Nat → List (Turn Choice)
  | _, [] => []
  | n, thread :: rest => ⟨thread, choices n⟩ :: turns choices (n + 1) rest

theorem turns_append (choices : Nat → Choice) (n : Nat) (threads later : List Nat) :
    turns choices n (threads ++ later) =
      turns choices n threads ++ turns choices (n + threads.length) later := by
  induction threads generalizing n with
  | nil => rfl
  | cons thread threads ih =>
    have shift : n + 1 + threads.length = n + (thread :: threads).length := by
      rw [List.length_cons]
      omega
    rw [List.cons_append, turns, turns, ih, shift, List.cons_append]

namespace Runtime

section Settled

variable (rt : Runtime Task Op Reply Choice σ) (perform : (op : Op) → Choice → σ → Reply op × σ)

/-- The tasks, each run to its end. -/
def runTasks (tasks : List Task) (g : Guided σ Choice) : Guided σ Choice :=
  tasks.foldl (fun g task => ((rt.code task).run (guide perform) g).2) g

def settle : Handler Op Reply (Guided σ Choice) :=
  fun op g => ((guide perform op g).1, rt.runTasks perform (rt.starts op) (guide perform op g).2)

end Settled

variable {rt : Runtime Task Op Reply Choice σ} {perform : (op : Op) → Choice → σ → Reply op × σ}
  (total : ∀ op choice s, rt.perform op choice s = some (perform op choice s))
include total

theorem step_of_total {pool : Pool σ (Thread Task Op Reply)} {i : Nat} {task : Task} {op : Op}
    {rest : Reply op → Program Op Reply Unit} (found : pool.threads[i]? = some ⟨task, .call op rest⟩)
    (choice : Choice) : rt.step pool ⟨i, choice⟩ = some
      { state := (perform op choice pool.state).2
        threads := pool.threads.set i ⟨task, rest (perform op choice pool.state).1⟩ ++
          (rt.starts op).map rt.launch } :=
  step_eq_some.mpr ⟨task, op, rest, _, _, found, total _ _ _, rfl⟩

/-- A part of a thread that starts nothing, run without the others. -/
theorem replay_alone {p : Program Op Reply α} {f : α → Program Op Reply Unit}
    (quiet : p.Only fun op => rt.starts op = []) {pool : Pool σ (Thread Task Op Reply)} {i : Nat} {task : Task}
    (found : pool.threads[i]? = some ⟨task, p.bind f⟩) (choices : Nat → Choice) (n : Nat) :
    ∃ count, (p.run (guide perform) ⟨pool.state, choices, n⟩).2.choices = choices ∧
      (p.run (guide perform) ⟨pool.state, choices, n⟩).2.turn = n + count ∧
      replay rt.step pool (turns choices n (List.replicate count i)) = some
        { state := (p.run (guide perform) ⟨pool.state, choices, n⟩).2.state
          threads := pool.threads.set i ⟨task, f (p.run (guide perform) ⟨pool.state, choices, n⟩).1⟩ } := by
  induction p generalizing pool n with
  | ret value =>
    refine ⟨0, rfl, rfl, ?_⟩
    obtain ⟨inside, here⟩ := List.getElem?_eq_some_iff.mp found
    have same : pool.threads.set i ⟨task, f value⟩ = pool.threads := by
      rw [show (⟨task, f value⟩ : Thread Task Op Reply) = pool.threads[i] from here.symm, List.set_getElem_self]
    simp only [Program.run_ret, same]
    rfl
  | call op next ih =>
    have inside := (List.getElem?_eq_some_iff.mp found).1
    have step := step_of_total total found (choices n)
    rw [quiet.1, List.map_nil, List.append_nil] at step
    have found' : (Pool.mk (perform op (choices n) pool.state).2 (pool.threads.set i
        ⟨task, (next (perform op (choices n) pool.state).1).bind f⟩)).threads[i]? =
          some ⟨task, (next (perform op (choices n) pool.state).1).bind f⟩ := List.getElem?_set_self inside
    obtain ⟨count, kept, counted, run⟩ := ih (perform op (choices n) pool.state).1 (quiet.2 _) found' (n + 1)
    refine ⟨count + 1, kept, counted.trans (by omega), ?_⟩
    rw [List.replicate_succ, turns]
    refine replay_cons.mpr ⟨_, step, ?_⟩
    rw [run, List.set_set]
    rfl

/-- The started threads, from the number `i` on, one after the other. -/
theorem replay_tasks {tasks : List Task} (quiet : ∀ task ∈ tasks, (rt.code task).Only fun op => rt.starts op = [])
    {pool : Pool σ (Thread Task Op Reply)} {older : List (Thread Task Op Reply)}
    (launched : pool.threads = older ++ tasks.map rt.launch) (choices : Nat → Choice) (n : Nat) :
    ∃ threads pool', (rt.runTasks perform tasks ⟨pool.state, choices, n⟩).choices = choices ∧
      (rt.runTasks perform tasks ⟨pool.state, choices, n⟩).turn = n + threads.length ∧
      (∀ j ∈ threads, older.length ≤ j) ∧ replay rt.step pool (turns choices n threads) = some pool' ∧
      pool'.state = (rt.runTasks perform tasks ⟨pool.state, choices, n⟩).state ∧
      older <+: pool'.threads := by
  induction tasks generalizing pool older n with
  | nil =>
    refine ⟨[], pool, rfl, rfl, by simp, rfl, rfl, ?_⟩
    rw [launched]
    exact List.prefix_append _ _
  | cons task tasks ih =>
    have found : pool.threads[older.length]? = some ⟨task, (rt.code task).bind .ret⟩ := by
      rw [launched, Program.bind_ret]
      simp [launch]
    obtain ⟨count, kept, counted, first⟩ :=
      replay_alone total (quiet task List.mem_cons_self) found choices n
    -- the thread is through, and counts as one of the older ones
    have ended : (Pool.mk ((rt.code task).run (guide perform) ⟨pool.state, choices, n⟩).2.state
        (pool.threads.set older.length
          ⟨task, .ret ((rt.code task).run (guide perform) ⟨pool.state, choices, n⟩).1⟩)).threads =
        (older ++ [⟨task, .ret ((rt.code task).run (guide perform) ⟨pool.state, choices, n⟩).1⟩]) ++
          tasks.map rt.launch := by
      rw [launched]
      simp
    have after := ih (fun task member => quiet task (List.mem_cons_of_mem _ member)) ended (n + count)
    obtain ⟨threads, pool', kept', counted', later, run, state, extends_⟩ := after
    have start : (⟨((rt.code task).run (guide perform) ⟨pool.state, choices, n⟩).2.state, choices, n + count⟩ :
        Guided σ Choice) = ((rt.code task).run (guide perform) ⟨pool.state, choices, n⟩).2 :=
      congrArg₂ (Guided.mk _) kept.symm counted.symm
    rw [start] at kept' counted' state
    refine ⟨List.replicate count older.length ++ threads, pool', kept', ?_, ?_, ?_, state, ?_⟩
    · refine counted'.trans ?_
      rw [List.length_append, List.length_replicate, Nat.add_assoc]
    · intro j member
      rcases List.mem_append.mp member with own | other
      · rw [List.eq_of_mem_replicate own]
      · exact le_trans (by simp) (later j other)
    · rw [turns_append, List.length_replicate]
      exact replay_append.mpr ⟨_, first, run⟩
    · exact (List.prefix_append _ _).trans extends_

/-- A part of a thread, run together with what it starts and without the others. -/
theorem replay_settled
    (quiet : ∀ op, ∀ task ∈ rt.starts op, (rt.code task).Only fun op => rt.starts op = [])
    {p : Program Op Reply α} {f : α → Program Op Reply Unit} {pool : Pool σ (Thread Task Op Reply)} {i : Nat}
    {task : Task} (found : pool.threads[i]? = some ⟨task, p.bind f⟩) (choices : Nat → Choice) (n : Nat) :
    ∃ threads pool', (p.run (rt.settle perform) ⟨pool.state, choices, n⟩).2.choices = choices ∧
      (p.run (rt.settle perform) ⟨pool.state, choices, n⟩).2.turn = n + threads.length ∧
      (∀ j ∈ threads, j = i ∨ pool.threads.length ≤ j) ∧
      replay rt.step pool (turns choices n threads) = some pool' ∧
      pool'.state = (p.run (rt.settle perform) ⟨pool.state, choices, n⟩).2.state ∧
      pool'.threads[i]? = some ⟨task, f (p.run (rt.settle perform) ⟨pool.state, choices, n⟩).1⟩ := by
  induction p generalizing pool n with
  | ret value => exact ⟨[], pool, rfl, rfl, by simp, rfl, rfl, found⟩
  | call op next ih =>
    have inside := (List.getElem?_eq_some_iff.mp found).1
    have step := step_of_total total found (choices n)
    -- first what the operation starts, then the rest of the thread
    have launched : (Pool.mk (perform op (choices n) pool.state).2 (pool.threads.set i
        ⟨task, (next (perform op (choices n) pool.state).1).bind f⟩ ++ (rt.starts op).map rt.launch)).threads =
        pool.threads.set i ⟨task, (next (perform op (choices n) pool.state).1).bind f⟩ ++
          (rt.starts op).map rt.launch := rfl
    obtain ⟨threads, mid, kept, counted, later, run, state, extends_⟩ :=
      replay_tasks total (quiet op) launched choices (n + 1)
    have found' : mid.threads[i]? = some ⟨task, (next (perform op (choices n) pool.state).1).bind f⟩ := by
      obtain ⟨rest, same⟩ := extends_
      rw [← same, List.getElem?_append_left (by simpa using inside)]
      exact List.getElem?_set_self inside
    obtain ⟨threads', pool', kept', counted', later', run', state', found''⟩ :=
      ih (perform op (choices n) pool.state).1 found' (n + 1 + threads.length)
    have start : (⟨mid.state, choices, n + 1 + threads.length⟩ : Guided σ Choice) =
        (rt.settle perform op ⟨pool.state, choices, n⟩).2 := by
      rw [state]
      exact congrArg₂ (Guided.mk _) kept.symm counted.symm
    rw [start] at kept' counted' state' found''
    refine ⟨i :: threads ++ threads', pool', kept', ?_, ?_, ?_, state', found''⟩
    · refine counted'.trans ?_
      rw [List.length_append, List.length_cons]
      omega
    · intro j member
      rw [List.cons_append, List.mem_cons, List.mem_append] at member
      rcases member with same | started | rest
      · exact .inl same
      · exact .inr (by simpa using later j started)
      · rcases later' j rest with same | new
        · exact .inl same
        · refine .inr (le_trans ?_ new)
          obtain ⟨_, same⟩ := extends_
          rw [← same]
          simp
    · rw [List.cons_append, turns, turns_append]
      exact replay_cons.mpr ⟨_, step, replay_append.mpr ⟨_, run, run'⟩⟩

end Runtime

end Strom.Effects
