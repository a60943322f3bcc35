import Strom.Effects.Provided

/-!
# Operations behind a gate

`Issues` says of an action that every operation it issues from a state with `R` meets `G`.  An
action that begins with a gate may use for the rest what the gate secures where it lets the caller
pass.
-/

namespace Strom.Effects

variable {Op : Type} {Reply : Op → Type} {ε α β σ : Type}

namespace Action

/-- From a state with `R`, every operation that is issued meets `G`. -/
def Issues (h : Handler Op Reply σ) (R : σ → Prop) (G : Op → Prop) (x : Action Op Reply ε α) : Prop :=
  ∀ s, R s → ∀ op ∈ trace h x s, G op

variable {h : Handler Op Reply σ} {R : σ → Prop} {G P : Op → Prop}

theorem Only.issues {x : Action Op Reply ε α} (only : Only G x) : Issues h R G x :=
  fun s _ => only.trace s

theorem Only.weaken {x : Action Op Reply ε α} (only : Only P x) (weaker : ∀ op, P op → G op) : Only G x :=
  Program.Only.weaken only weaker

/-- What every permitted operation keeps, an action keeps. -/
theorem Only.exec {x : Action Op Reply ε α} (only : Only P x) (keeps : ∀ op s, P op → R s → R (h op s).2)
    {s : σ} (now : R s) : R (Action.exec h x s).2 :=
  Program.Only.run keeps only now

/-- The rule for what comes first and keeps `R`. -/
theorem Issues.bind {x : Action Op Reply ε α} {f : α → Action Op Reply ε β} (first : Issues h R G x)
    (keeps : ∀ s, R s → R (exec h x s).2) (rest : ∀ a, Issues h R G (f a)) : Issues h R G (x >>= f) := by
  intro s now op issued
  cases mem_trace_bind.mp issued with
  | inl early => exact first s now op early
  | inr late =>
    obtain ⟨a, t, passed, late⟩ := late
    have after := keeps s now
    rw [passed] at after
    exact rest a t after op late

/-- The rule for a gate: where it is passed with `a`, `D a` holds. -/
theorem Issues.gate {D : α → Prop} {x : Action Op Reply ε α} {f : α → Action Op Reply ε β} (first : Issues h R G x)
    (secures : ∀ s a t, R s → exec h x s = (.ok a, t) → D a) (rest : ∀ a, D a → Only G (f a)) :
    Issues h R G (x >>= f) := by
  intro s now op issued
  cases mem_trace_bind.mp issued with
  | inl early => exact first s now op early
  | inr late =>
    obtain ⟨a, t, passed, late⟩ := late
    exact (rest a (secures s a t now passed)).trace t op late

/-- The rule for a gate that keeps `R`, so that what comes next may be another one. -/
theorem Issues.guard {D : α → Prop} {x : Action Op Reply ε α} {f : α → Action Op Reply ε β} (first : Issues h R G x)
    (secures : ∀ s a t, R s → exec h x s = (.ok a, t) → D a ∧ R t) (rest : ∀ a, D a → Issues h R G (f a)) :
    Issues h R G (x >>= f) := by
  intro s now op issued
  cases mem_trace_bind.mp issued with
  | inl early => exact first s now op early
  | inr late =>
    obtain ⟨a, t, passed, late⟩ := late
    obtain ⟨given, after⟩ := secures s a t now passed
    exact rest a given t after op late

/-- The operations of a kind, in their order. -/
def selected (h : Handler Op Reply σ) (kind : Op → Bool) (x : Action Op Reply ε α) (s : σ) : List Op :=
  (trace h x s).filter kind

variable {kind : Op → Bool}

theorem selected_of_only {x : Action Op Reply ε α} (only : Only (fun op => kind op = false) x) (s : σ) :
    selected h kind x s = [] := by
  rw [selected, List.filter_eq_nil_iff]
  intro op issued
  rw [only.trace s op issued]
  exact Bool.false_ne_true

theorem selected_bind_ok {x : Action Op Reply ε α} {f : α → Action Op Reply ε β} {s t : σ} {a : α}
    (only : Only (fun op => kind op = false) x) (passed : exec h x s = (.ok a, t)) :
    selected h kind (x >>= f) s = selected h kind (f a) t := by
  have first := selected_of_only (h := h) only s
  unfold selected trace exec at *
  rw [toProgram_bind, Program.trace_bind, List.filter_append, first, List.nil_append, passed]

/-- What has none of the kind may come first, and decides the result where it fails. -/
theorem selected_exec_bind {Q : List Op → Except ε β → Prop} {x : Action Op Reply ε α}
    {f : α → Action Op Reply ε β} {s : σ} (only : Only (fun op => kind op = false) x)
    (failed : ∀ e t, exec h x s = (.error e, t) → Q [] (.error e))
    (rest : ∀ a t, exec h x s = (.ok a, t) → Q (selected h kind (f a) t) (exec h (f a) t).1) :
    Q (selected h kind (x >>= f) s) (exec h (x >>= f) s).1 := by
  rw [exec_bind]
  cases ran : exec h x s with
  | mk result t =>
    cases result with
    | ok a =>
      rw [selected_bind_ok only ran]
      exact rest a t ran
    | error e =>
      have first := selected_of_only (h := h) only s
      have none : selected h kind (x >>= f) s = [] := by
        unfold selected trace exec at *
        rw [toProgram_bind, Program.trace_bind, List.filter_append, first, List.nil_append, ran]
        rfl
      rw [none]
      exact failed e t ran

theorem selected_bind {Q : List Op → Prop} {x : Action Op Reply ε α} {f : α → Action Op Reply ε β} {s : σ}
    (only : Only (fun op => kind op = false) x) (none : Q [])
    (rest : ∀ a t, exec h x s = (.ok a, t) → Q (selected h kind (f a) t)) : Q (selected h kind (x >>= f) s) :=
  selected_exec_bind (Q := fun l _ => Q l) only (fun _ _ _ => none) rest

end Action

end Strom.Effects
