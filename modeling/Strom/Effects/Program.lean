import Mathlib.Logic.Basic

/-!
# Programs over an operation signature

A `Program Op Reply α` issues operations `op : Op`, continues with the reply of
type `Reply op`, and ends with an `α`.  What the operations do is not part of a
program: a `Handler` gives them a meaning on a state `σ`.  One program text can
therefore be run to the end (`run`), stopped between any two operations (`cut`),
or interleaved with others.

`Holds` is the program logic of the development: an invariant at every instant
of a run together with a postcondition at its end.  `holds_iff` ties it to
`cut` and `run`, and `holds_bind` is the rule for sequencing.
-/

namespace Strom.Effects

/-- A finite interaction tree over the operations `Op`. -/
inductive Program (Op : Type) (Reply : Op → Type) (α : Type) where
  | ret (value : α) : Program Op Reply α
  | call (op : Op) (next : Reply op → Program Op Reply α) : Program Op Reply α

/-- The meaning of each operation on a state `σ`. -/
abbrev Handler (Op : Type) (Reply : Op → Type) (σ : Type) :=
  (op : Op) → σ → Reply op × σ

namespace Program

variable {Op : Type} {Reply : Op → Type} {α β γ σ : Type}

def bind : Program Op Reply α → (α → Program Op Reply β) → Program Op Reply β
  | .ret value, f => f value
  | .call op next, f => .call op (fun reply => (next reply).bind f)

instance : Monad (Program Op Reply) where
  pure := .ret
  bind := bind

/-- Issue one operation and return its reply. -/
def perform (op : Op) : Program Op Reply (Reply op) := .call op .ret

@[simp] theorem pure_eq (value : α) : (pure value : Program Op Reply α) = .ret value := rfl

@[simp] theorem bind_eq (p : Program Op Reply α) (f : α → Program Op Reply β) :
    p >>= f = p.bind f := rfl

@[simp] theorem ret_bind (value : α) (f : α → Program Op Reply β) :
    (Program.ret value).bind f = f value := rfl

@[simp] theorem call_bind (op : Op) (next : Reply op → Program Op Reply α)
    (f : α → Program Op Reply β) :
    (Program.call op next).bind f = .call op (fun reply => (next reply).bind f) := rfl

@[simp] theorem perform_bind (op : Op) (f : Reply op → Program Op Reply β) :
    (perform op).bind f = .call op f := rfl

theorem bind_ret (p : Program Op Reply α) : p.bind .ret = p := by
  induction p with
  | ret value => rfl
  | call op next ih => simp only [call_bind, ih]

theorem bind_assoc (p : Program Op Reply α) (f : α → Program Op Reply β)
    (g : β → Program Op Reply γ) : (p.bind f).bind g = p.bind (fun a => (f a).bind g) := by
  induction p with
  | ret value => rfl
  | call op next ih => simp only [call_bind, ih]

/-! ## Running a program -/

/-- Run to the end: the result and the final state. -/
def run (h : Handler Op Reply σ) : Program Op Reply α → σ → α × σ
  | .ret value, s => (value, s)
  | .call op next, s => (next (h op s).1).run h (h op s).2

/-- The state after the first `k` operations, or the final state if the program
    issues fewer: what a crash after `k` operations leaves behind. -/
def cut (h : Handler Op Reply σ) : Nat → Program Op Reply α → σ → σ
  | 0, _, s => s
  | _ + 1, .ret _, s => s
  | k + 1, .call op next, s => cut h k (next (h op s).1) (h op s).2

/-- The first `k` operations issued. -/
def issued (h : Handler Op Reply σ) : Nat → Program Op Reply α → σ → List Op
  | 0, _, _ => []
  | _ + 1, .ret _, _ => []
  | k + 1, .call op next, s => op :: issued h k (next (h op s).1) (h op s).2

variable (h : Handler Op Reply σ)

@[simp] theorem run_ret (value : α) (s : σ) : (Program.ret value).run h s = (value, s) := rfl

@[simp] theorem run_call (op : Op) (next : Reply op → Program Op Reply α) (s : σ) :
    (Program.call op next).run h s = (next (h op s).1).run h (h op s).2 := rfl

@[simp] theorem run_perform (op : Op) (s : σ) :
    (perform op : Program Op Reply (Reply op)).run h s = h op s := rfl

@[simp] theorem run_bind (p : Program Op Reply α) (f : α → Program Op Reply β) (s : σ) :
    (p.bind f).run h s = (f (p.run h s).1).run h (p.run h s).2 := by
  induction p generalizing s with
  | ret value => rfl
  | call op next ih => simp only [call_bind, run_call, ih]

@[simp] theorem cut_zero (p : Program Op Reply α) (s : σ) : p.cut h 0 s = s := by
  cases p <;> rfl

@[simp] theorem cut_ret (k : Nat) (value : α) (s : σ) :
    (Program.ret value : Program Op Reply α).cut h k s = s := by
  cases k <;> rfl

/-- A program cut late enough has run to its end. -/
theorem exists_cut_eq_run (p : Program Op Reply α) (s : σ) : ∃ k, p.cut h k s = (p.run h s).2 := by
  induction p generalizing s with
  | ret value => exact ⟨0, rfl⟩
  | call op next ih =>
    obtain ⟨k, hk⟩ := ih (h op s).1 (h op s).2
    exact ⟨k + 1, hk⟩

/-- The handler that also writes down every operation. -/
def logged (h : Handler Op Reply σ) : Handler Op Reply (σ × List Op) :=
  fun op s => ((h op s.1).1, ((h op s.1).2, s.2 ++ [op]))

@[simp] theorem logged_apply (op : Op) (s : σ) (log : List Op) :
    logged h op (s, log) = ((h op s).1, ((h op s).2, log ++ [op])) := rfl

theorem cut_logged (k : Nat) (p : Program Op Reply α) (s : σ) (log : List Op) :
    p.cut (logged h) k (s, log) = (p.cut h k s, log ++ p.issued h k s) := by
  induction p generalizing k s log with
  | ret value => cases k <;> simp [cut, issued]
  | call op next ih =>
    cases k with
    | zero => simp [cut, issued]
    | succ k => simp only [cut, issued, logged_apply, ih, List.append_assoc, List.singleton_append]

theorem run_logged (p : Program Op Reply α) (s : σ) (log : List Op) :
    (p.run (logged h) (s, log)).1 = (p.run h s).1 ∧ (p.run (logged h) (s, log)).2.1 = (p.run h s).2 := by
  induction p generalizing s log with
  | ret value => exact ⟨rfl, rfl⟩
  | call op next ih => exact ih (h op s).1 (h op s).2 (log ++ [op])

/-! ## Invariants at every instant -/

/-- `I` holds before and after every operation of the run of `p` from `s`, and
    `Q` of the result and the final state. -/
def Holds (I : σ → Prop) : Program Op Reply α → (α → σ → Prop) → σ → Prop
  | .ret value, Q, s => I s ∧ Q value s
  | .call op next, Q, s => I s ∧ Holds I (next (h op s).1) Q (h op s).2

variable {h} {I : σ → Prop}

theorem Holds.inv {p : Program Op Reply α} {Q : α → σ → Prop} {s : σ}
    (holds : p.Holds h I Q s) : I s := by
  cases p with
  | ret value => exact holds.1
  | call op next => exact holds.1

theorem holds_iff (p : Program Op Reply α) (Q : α → σ → Prop) (s : σ) :
    p.Holds h I Q s ↔ (∀ k, I (p.cut h k s)) ∧ Q (p.run h s).1 (p.run h s).2 := by
  induction p generalizing s with
  | ret value => simp [Holds]
  | call op next ih =>
    simp only [Holds, ih, run_call]
    constructor
    · rintro ⟨now, later, final⟩
      refine ⟨?_, final⟩
      intro k
      cases k with
      | zero => exact now
      | succ k => exact later k
    · rintro ⟨always, final⟩
      exact ⟨always 0, fun k => always (k + 1), final⟩

theorem Holds.mono {p : Program Op Reply α} {Q Q' : α → σ → Prop} {s : σ}
    (holds : p.Holds h I Q s) (weaker : ∀ a t, I t → Q a t → Q' a t) : p.Holds h I Q' s := by
  induction p generalizing s with
  | ret value => exact ⟨holds.1, weaker _ _ holds.1 holds.2⟩
  | call op next ih => exact ⟨holds.1, ih _ holds.2⟩

theorem Holds.weaken {I' : σ → Prop} {p : Program Op Reply α} {Q : α → σ → Prop} {s : σ}
    (holds : p.Holds h I Q s) (weaker : ∀ t, I t → I' t) : p.Holds h I' Q s := by
  induction p generalizing s with
  | ret value => exact ⟨weaker _ holds.1, holds.2⟩
  | call op next ih => exact ⟨weaker _ holds.1, ih _ holds.2⟩

/-- The postcondition is about the end of the run only. -/
theorem Holds.end_of_run {p : Program Op Reply α} {Q Q' : α → σ → Prop} {s : σ}
    (holds : p.Holds h I Q s) (post : Q' (p.run h s).1 (p.run h s).2) : p.Holds h I Q' s :=
  (holds_iff p Q' s).mpr ⟨((holds_iff p Q s).mp holds).1, post⟩

/-- The sequencing rule. -/
theorem holds_bind {p : Program Op Reply α} {f : α → Program Op Reply β}
    {Q : β → σ → Prop} {s : σ} :
    (p.bind f).Holds h I Q s ↔ p.Holds h I (fun a t => (f a).Holds h I Q t) s := by
  induction p generalizing s with
  | ret value => exact ⟨fun holds => ⟨holds.inv, holds⟩, fun holds => holds.2⟩
  | call op next ih => simp only [call_bind, Holds, ih]

theorem holds_perform {op : Op} {Q : Reply op → σ → Prop} {s : σ} :
    (perform op : Program Op Reply (Reply op)).Holds h I Q s ↔
      I s ∧ I (h op s).2 ∧ Q (h op s).1 (h op s).2 := Iff.rfl

theorem holds_ret {value : α} {Q : α → σ → Prop} {s : σ} :
    (Program.ret value : Program Op Reply α).Holds h I Q s ↔ I s ∧ Q value s := Iff.rfl

theorem holds_call {op : Op} {next : Reply op → Program Op Reply α} {Q : α → σ → Prop} {s : σ} :
    (Program.call op next).Holds h I Q s ↔ I s ∧ (next (h op s).1).Holds h I Q (h op s).2 := Iff.rfl

/-- With the trivial invariant `Holds` is a statement about the final state only. -/
theorem holds_true_iff (p : Program Op Reply α) (Q : α → σ → Prop) (s : σ) :
    p.Holds h (fun _ => True) Q s ↔ Q (p.run h s).1 (p.run h s).2 := by
  simp [holds_iff]

end Program

end Strom.Effects
