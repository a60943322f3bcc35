import Strom.Effects.Action

/-!
# The operations of a run

`trace` lists the operations that a run to the end issues, in order.  `Only`
says of a program, whatever the replies, that each of its operations meets a
predicate; `Only.trace` reads it off a run.
-/

namespace Strom.Effects

variable {Op : Type} {Reply : Op → Type} {ε α β σ : Type}

namespace Program

/-- All operations of the run, in the order in which they are issued. -/
def trace (h : Handler Op Reply σ) : Program Op Reply α → σ → List Op
  | .ret _, _ => []
  | .call op next, s => op :: (next (h op s).1).trace h (h op s).2

/-- Every operation the program can issue meets `P`. -/
def Only (P : Op → Prop) : Program Op Reply α → Prop
  | .ret _ => True
  | .call op next => P op ∧ ∀ reply, (next reply).Only P

variable {P : Op → Prop} {h : Handler Op Reply σ}

@[simp] theorem trace_ret (value : α) (s : σ) :
    (Program.ret value : Program Op Reply α).trace h s = [] := rfl

@[simp] theorem trace_call (op : Op) (next : Reply op → Program Op Reply α) (s : σ) :
    (Program.call op next).trace h s = op :: (next (h op s).1).trace h (h op s).2 := rfl

@[simp] theorem trace_perform (op : Op) (s : σ) :
    (perform op : Program Op Reply (Reply op)).trace h s = [op] := rfl

@[simp] theorem trace_bind (p : Program Op Reply α) (f : α → Program Op Reply β) (s : σ) :
    (p.bind f).trace h s = p.trace h s ++ (f (p.run h s).1).trace h (p.run h s).2 := by
  induction p generalizing s with
  | ret value => rfl
  | call op next ih => simp only [call_bind, trace_call, run_call, ih, List.cons_append]

theorem only_ret (value : α) : (Program.ret value : Program Op Reply α).Only P := trivial

theorem only_perform {op : Op} (allowed : P op) :
    (perform op : Program Op Reply (Reply op)).Only P := ⟨allowed, fun _ => trivial⟩

theorem Only.bind {p : Program Op Reply α} {f : α → Program Op Reply β} (first : p.Only P)
    (rest : ∀ value, (f value).Only P) : (p.bind f).Only P := by
  induction p with
  | ret value => exact rest value
  | call op next ih => exact ⟨first.1, fun reply => ih reply (first.2 reply)⟩

theorem Only.weaken {Q : Op → Prop} {p : Program Op Reply α} (only : p.Only P)
    (weaker : ∀ op, P op → Q op) : p.Only Q := by
  induction p with
  | ret value => trivial
  | call op next ih => exact ⟨weaker op only.1, fun reply => ih reply (only.2 reply)⟩

theorem Only.trace {p : Program Op Reply α} (only : p.Only P) (s : σ) :
    ∀ op ∈ p.trace h s, P op := by
  induction p generalizing s with
  | ret value =>
    intro op member
    cases member
  | call op next ih =>
    intro op' member
    rcases List.mem_cons.mp member with rfl | later
    · exact only.1
    · exact ih _ (only.2 _) _ op' later

/-- What every permitted operation keeps, a run keeps. -/
theorem Only.run {I : σ → Prop} (keeps : ∀ op s, P op → I s → I (h op s).2)
    {p : Program Op Reply α} (only : p.Only P) {s : σ} (inv : I s) : I (p.run h s).2 := by
  induction p generalizing s with
  | ret value => exact inv
  | call op next ih => exact ih _ (only.2 _) (keeps op s only.1 inv)

/-- What every permitted operation keeps holds at every instant. -/
theorem Only.holds {I : σ → Prop} (keeps : ∀ op s, P op → I s → I (h op s).2)
    {p : Program Op Reply α} (only : p.Only P) {s : σ} (inv : I s) : p.Holds h I (fun _ t => I t) s := by
  induction p generalizing s with
  | ret value => exact ⟨inv, inv⟩
  | call op next ih => exact ⟨inv, ih _ (only.2 _) (keeps op s only.1 inv)⟩

end Program

namespace Action

/-- `Program.trace` for an action. -/
def trace (h : Handler Op Reply σ) (x : Action Op Reply ε α) (s : σ) : List Op :=
  (toProgram x).trace h s

variable {h : Handler Op Reply σ}

/-- An operation of a sequence is one of the first action, or one of the second
    after the first has succeeded. -/
theorem mem_trace_bind {x : Action Op Reply ε α} {f : α → Action Op Reply ε β} {s : σ} {op : Op} :
    op ∈ trace h (x >>= f) s ↔ op ∈ trace h x s ∨
      ∃ a t, exec h x s = (.ok a, t) ∧ op ∈ trace h (f a) t := by
  unfold trace exec
  rw [toProgram_bind, Program.trace_bind, List.mem_append]
  generalize (toProgram x).run h s = outcome
  obtain ⟨result, t⟩ := outcome
  cases result with
  | ok a =>
    constructor
    · rintro (first | second)
      · exact .inl first
      · exact .inr ⟨a, t, rfl, second⟩
    · rintro (first | ⟨_, _, same, second⟩)
      · exact .inl first
      · cases same; exact .inr second
  | error e => simp

theorem mem_trace_always {p : Program Op Reply α} {s : σ} {op : Op} :
    op ∈ trace h (Action.always p : Action Op Reply ε α) s ↔ op ∈ p.trace h s := by
  simp [trace]

theorem mem_trace_mapError {ε' : Type} {f : ε → ε'} {x : Action Op Reply ε α} {s : σ} {op : Op} :
    op ∈ trace h (Action.mapError f x) s ↔ op ∈ trace h x s := by
  simp [trace]

/-- `Program.Only` for an action. -/
def Only (P : Op → Prop) (x : Action Op Reply ε α) : Prop := (toProgram x).Only P

variable {P : Op → Prop}

theorem only_pure (value : α) : Only P (pure value : Action Op Reply ε α) := trivial

theorem only_throw (e : ε) : Only P (throw e : Action Op Reply ε α) := trivial

theorem only_ofExcept (result : Except ε α) :
    Only P (ofExcept result : Action Op Reply ε α) := trivial

theorem Only.trace {x : Action Op Reply ε α} (only : Only P x) (s : σ) :
    ∀ op ∈ Action.trace h x s, P op :=
  Program.Only.trace only s

theorem Only.bind {x : Action Op Reply ε α} {f : α → Action Op Reply ε β} (first : Only P x)
    (rest : ∀ value, Only P (f value)) : Only P (x >>= f) := by
  unfold Only
  rw [toProgram_bind]
  apply Program.Only.bind first
  intro result
  cases result with
  | ok value => exact rest value
  | error e => trivial

theorem Only.always {p : Program Op Reply α} (only : p.Only P) :
    Only P (Action.always p : Action Op Reply ε α) :=
  Program.Only.bind only fun _ => trivial

theorem Only.mapError {ε' : Type} {f : ε → ε'} {x : Action Op Reply ε α} (only : Only P x) :
    Only P (Action.mapError f x) :=
  Program.Only.bind only fun _ => trivial

end Action

end Strom.Effects
