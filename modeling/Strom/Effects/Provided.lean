import Strom.Effects.Trace

/-!
# Runs whose operations meet a condition

`Meets` says of a run that every operation meets a condition in the state in which it
is issued; `Ends` is the program logic that may assume so: if the run meets the
condition then `Q` holds at its end (`ends_iff`).

A `Guided` state carries the choices that the surroundings make, one for each
operation, so that a handler can be deterministic where a choice decides the outcome.
-/

namespace Strom.Effects

variable {Op : Type} {Reply : Op → Type} {ε α β σ Choice : Type}

namespace Program

/-- Every operation of the run meets `G` where it is issued. -/
def Meets (h : Handler Op Reply σ) (G : Op → σ → Prop) : Program Op Reply α → σ → Prop
  | .ret _, _ => True
  | .call op next, s => G op s ∧ (next (h op s).1).Meets h G (h op s).2

instance Meets.decidable (h : Handler Op Reply σ) (G : Op → σ → Prop) [∀ op s, Decidable (G op s)] :
    (p : Program Op Reply α) → (s : σ) → Decidable (p.Meets h G s)
  | .ret _, _ => .isTrue trivial
  | .call op next, s =>
    have := Meets.decidable h G (next (h op s).1) (h op s).2
    inferInstanceAs (Decidable (_ ∧ _))

/-- `Q` holds at the end of the run if every operation meets `G`. -/
def Ends (h : Handler Op Reply σ) (G : Op → σ → Prop) :
    Program Op Reply α → (α → σ → Prop) → σ → Prop
  | .ret value, Q, s => Q value s
  | .call op next, Q, s => G op s → (next (h op s).1).Ends h G Q (h op s).2

variable {h : Handler Op Reply σ} {G : Op → σ → Prop} {s : σ}

theorem ends_iff (p : Program Op Reply α) (Q : α → σ → Prop) :
    p.Ends h G Q s ↔ (p.Meets h G s → Q (p.run h s).1 (p.run h s).2) := by
  induction p generalizing s with
  | ret value => simp [Ends, Meets]
  | call op next ih => simp only [Ends, Meets, ih, run_call, and_imp]

theorem Ends.mono {p : Program Op Reply α} {Q Q' : α → σ → Prop} (ends : p.Ends h G Q s)
    (weaker : ∀ a t, Q a t → Q' a t) : p.Ends h G Q' s := by
  induction p generalizing s with
  | ret value => exact weaker _ _ ends
  | call op next ih => exact fun meets => ih _ (ends meets)

/-- The sequencing rule. -/
theorem ends_bind {p : Program Op Reply α} {f : α → Program Op Reply β} {Q : β → σ → Prop} :
    (p.bind f).Ends h G Q s ↔ p.Ends h G (fun a t => (f a).Ends h G Q t) s := by
  induction p generalizing s with
  | ret value => rfl
  | call op next ih => simp only [call_bind, Ends, ih]

/-- What every operation of a kind keeps is as it was. -/
theorem Only.ends {P : Op → Prop} {γ : Type} {f : σ → γ} {p : Program Op Reply α} (only : p.Only P)
    (keeps : ∀ op s, P op → f (h op s).2 = f s) : p.Ends h G (fun _ t => f t = f s) s := by
  induction p generalizing s with
  | ret value => rfl
  | call op next ih =>
    intro _
    refine (ih _ (only.2 _)).mono ?_
    intro a t same
    rw [same, keeps op s only.1]

end Program

namespace Action

variable {h : Handler Op Reply σ} {G : Op → σ → Prop} {s : σ}

/-- `Program.Ends` for an action. -/
def Ends (h : Handler Op Reply σ) (G : Op → σ → Prop) (x : Action Op Reply ε α)
    (Q : Except ε α → σ → Prop) (s : σ) : Prop :=
  (toProgram x).Ends h G Q s

theorem Ends.mono {x : Action Op Reply ε α} {Q Q' : Except ε α → σ → Prop} (ends : Ends h G x Q s)
    (weaker : ∀ r t, Q r t → Q' r t) : Ends h G x Q' s :=
  Program.Ends.mono ends weaker

/-- The sequencing rule, forwards. -/
theorem Ends.bind {x : Action Op Reply ε α} {f : α → Action Op Reply ε β}
    {R : Except ε α → σ → Prop} {Q : Except ε β → σ → Prop} (first : Ends h G x R s)
    (rest : ∀ value t, R (.ok value) t → Ends h G (f value) Q t)
    (failed : ∀ e t, R (.error e) t → Q (.error e) t) : Ends h G (x >>= f) Q s := by
  unfold Ends
  rw [toProgram_bind, Program.ends_bind]
  refine Program.Ends.mono first ?_
  intro result t post
  cases result with
  | ok value => exact rest value t post
  | error e => exact failed e t post

theorem Ends.mapError {ε' : Type} {f : ε → ε'} {x : Action Op Reply ε α}
    {R : Except ε α → σ → Prop} {Q : Except ε' α → σ → Prop} (ends : Ends h G x R s)
    (mapped : ∀ r t, R r t → Q (r.mapError f) t) : Ends h G (mapError f x) Q s :=
  Program.ends_bind.mpr (Program.Ends.mono ends mapped)

theorem ends_always {p : Program Op Reply α} {Q : Except ε α → σ → Prop} :
    Ends h G (always p : Action Op Reply ε α) Q s ↔ p.Ends h G (fun a t => Q (.ok a) t) s :=
  Program.ends_bind

/-- What cannot fail comes first. -/
theorem Ends.bind_always {p : Program Op Reply α} {f : α → Action Op Reply ε β}
    {R : α → σ → Prop} {Q : Except ε β → σ → Prop} (first : p.Ends h G R s)
    (rest : ∀ a t, R a t → Ends h G (f a) Q t) :
    Ends h G ((always p : Action Op Reply ε α) >>= f) Q s := by
  refine Ends.bind (R := fun r t => ∃ a, r = .ok a ∧ R a t) ?_ ?_ ?_
  · exact ends_always.mpr (first.mono fun a t post => ⟨a, rfl, post⟩)
  · rintro a t ⟨_, same, post⟩
    cases same
    exact rest a t post
  · rintro e t ⟨_, same, _⟩
    cases same

end Action

/-! ## Choices made in advance -/

/-- A state with the choices that come next. -/
structure Guided (σ Choice : Type) where
  state : σ
  choices : Nat → Choice
  /-- How many operations have been issued. -/
  turn : Nat := 0

namespace Guided

/-- The choice for the next operation. -/
def choice (g : Guided σ Choice) : Choice := g.choices g.turn

def next (g : Guided σ Choice) (state : σ) : Guided σ Choice :=
  { g with state, turn := g.turn + 1 }

@[simp] theorem state_next (g : Guided σ Choice) (state : σ) : (g.next state).state = state := rfl

end Guided

/-- Operations whose outcome depends on a choice, with the choices made in advance. -/
def guide (perform : (op : Op) → Choice → σ → Reply op × σ) :
    Handler Op Reply (Guided σ Choice) :=
  fun op g => ((perform op g.choice g.state).1, g.next (perform op g.choice g.state).2)

end Strom.Effects
