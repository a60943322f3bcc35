import Mathlib.Data.List.Basic
import Strom.Effects.Program
import Strom.Effects.Run

/-!
# Threads that share a state

A `Pool` is a state and the threads that work on it.  `move` says what one
atomic step of one thread does; a schedule, a list of thread numbers, picks an
interleaving and is run by `replay`.

`mem_of_step` splits the threads after a step into the one that moved and the
others, which is all that an invariant over every interleaving needs.
`replay_map` carries runs along a map of threads that commutes with their moves.
-/

namespace Strom.Effects

structure Pool (σ Θ : Type) where
  state : σ
  threads : List Θ

namespace Pool

variable {σ Θ Θ' : Type}

/-- All threads but the one at `i`. -/
def others (pool : Pool σ Θ) (i : Nat) : List Θ := pool.threads.eraseIdx i

/-- The thread at `i` moves. -/
def step (move : Θ → σ → Option (Θ × σ)) (pool : Pool σ Θ) (i : Nat) : Option (Pool σ Θ) := do
  let thread ← pool.threads[i]?
  let (thread, state) ← move thread pool.state
  return { state, threads := pool.threads.set i thread }

variable {move : Θ → σ → Option (Θ × σ)} {pool next : Pool σ Θ} {i : Nat}

theorem step_eq_some : pool.step move i = some next ↔ ∃ thread thread' state,
    pool.threads[i]? = some thread ∧ move thread pool.state = some (thread', state) ∧
      next = { state, threads := pool.threads.set i thread' } := by
  simp only [step, Option.bind_eq_bind, Option.bind_eq_some_iff, Option.pure_def,
    Option.some.injEq, Prod.exists]
  constructor
  · rintro ⟨thread, found, thread', state, moved, rfl⟩
    exact ⟨thread, thread', state, found, moved, rfl⟩
  · rintro ⟨thread, thread', state, found, moved, rfl⟩
    exact ⟨thread, found, thread', state, moved, rfl⟩

theorem mem_threads {thread : Θ} (found : pool.threads[i]? = some thread) (u : Θ) :
    u ∈ pool.threads ↔ u = thread ∨ u ∈ pool.others i := by
  obtain ⟨inside, rfl⟩ := List.getElem?_eq_some_iff.mp found
  unfold others
  rw [List.mem_eraseIdx_iff_getElem]
  constructor
  · intro member
    obtain ⟨j, bound, rfl⟩ := List.getElem_of_mem member
    by_cases same : j = i
    · left; simp only [same]
    · exact .inr ⟨j, bound, same, rfl⟩
  · rintro (rfl | ⟨j, bound, -, rfl⟩)
    · exact List.getElem_mem inside
    · exact List.getElem_mem bound

theorem mem_set_threads (inside : i < pool.threads.length) (thread' u : Θ) :
    u ∈ pool.threads.set i thread' ↔ u = thread' ∨ u ∈ pool.others i := by
  unfold others
  rw [List.mem_eraseIdx_iff_getElem]
  constructor
  · intro member
    obtain ⟨j, bound, rfl⟩ := List.getElem_of_mem member
    rw [List.length_set] at bound
    by_cases same : j = i
    · left; simp only [same, List.getElem_set_self]
    · exact .inr ⟨j, bound, same, (List.getElem_set_ne (Ne.symm same) _).symm⟩
  · rintro (rfl | ⟨j, bound, apart, rfl⟩)
    · exact List.mem_set inside _
    · rw [← List.getElem_set_ne (Ne.symm apart) (by simpa using bound)]
      exact List.getElem_mem _

/-- The threads before and after a step: the one that moved, and the others. -/
theorem mem_of_step (taken : pool.step move i = some next) : ∃ thread thread',
    pool.threads[i]? = some thread ∧ move thread pool.state = some (thread', next.state) ∧
      (∀ u, u ∈ pool.threads ↔ u = thread ∨ u ∈ pool.others i) ∧
      ∀ u, u ∈ next.threads ↔ u = thread' ∨ u ∈ pool.others i := by
  obtain ⟨thread, thread', state, found, moved, rfl⟩ := step_eq_some.mp taken
  have inside : i < pool.threads.length := (List.getElem?_eq_some_iff.mp found).1
  exact ⟨thread, thread', found, moved, mem_threads found, mem_set_threads inside thread'⟩

/-! ## Threads seen through a map -/

def map (f : Θ → Θ') (pool : Pool σ Θ) : Pool σ Θ' :=
  { state := pool.state, threads := pool.threads.map f }

variable {move' : Θ' → σ → Option (Θ' × σ)} {f : Θ → Θ'}

theorem step_map (commutes : ∀ t s, move' (f t) s = (move t s).map (Prod.map f id))
    (pool : Pool σ Θ) (i : Nat) : (pool.map f).step move' i = (pool.step move i).map (map f) := by
  unfold step map
  simp only [List.getElem?_map, Option.bind_eq_bind]
  cases pool.threads[i]? with
  | none => rfl
  | some thread =>
    simp only [Option.map_some, Option.bind_some, commutes]
    cases move thread pool.state with
    | none => rfl
    | some moved => simp [List.map_set]

theorem replay_map (commutes : ∀ t s, move' (f t) s = (move t s).map (Prod.map f id))
    (pool : Pool σ Θ) (schedule : List Nat) :
    replay (step move') (pool.map f) schedule = (replay (step move) pool schedule).map (map f) := by
  induction schedule generalizing pool with
  | nil => rfl
  | cons i schedule ih =>
    unfold replay
    rw [step_map commutes]
    cases pool.step move i with
    | none => rfl
    | some next => exact ih next

end Pool

/-- One operation of a program. -/
def Program.move {Op : Type} {Reply : Op → Type} {α σ : Type} (h : Handler Op Reply σ) :
    Program Op Reply α → σ → Option (Program Op Reply α × σ)
  | .ret _, _ => none
  | .call op next, s => some (next (h op s).1, (h op s).2)

end Strom.Effects
