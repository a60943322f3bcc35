import Strom.Effects.Provided

/-!
# Preconditions and postconditions

`Triple P p Q` for a program whose operations depend on choices: from a state that meets
`P`, and whatever the choices, `p` ends with a value and a state that meet `Q`.  There is
one rule for an operation, one for sequencing, and the rule of consequence; an invariant is
a triple with the same condition before and after.
-/

namespace Strom.Effects

variable {Op : Type} {Reply : Op → Type} {ε α β σ Choice : Type}
  {perform : (op : Op) → Choice → σ → Reply op × σ}

namespace Program

structure Triple (perform : (op : Op) → Choice → σ → Reply op × σ) (P : σ → Prop)
    (p : Program Op Reply α) (Q : α → σ → Prop) : Prop where
  run : ∀ g : Guided σ Choice, P g.state →
    Q (p.run (guide perform) g).1 (p.run (guide perform) g).2.state

variable {P P' : σ → Prop} {Q Q' : α → σ → Prop}

theorem triple_ret {value : α} (now : ∀ s, P s → Q value s) :
    Triple perform P (.ret value) Q := ⟨fun g pre => now g.state pre⟩

theorem triple_perform {op : Op} {Q : Reply op → σ → Prop}
    (effect : ∀ choice s, P s → Q (perform op choice s).1 (perform op choice s).2) :
    Triple perform P (Program.perform op) Q := ⟨fun g pre => effect g.choice g.state pre⟩

/-- The rule of consequence. -/
theorem Triple.mono {p : Program Op Reply α} (triple : Triple perform P p Q)
    (stronger : ∀ s, P' s → P s) (weaker : ∀ a s, Q a s → Q' a s) : Triple perform P' p Q' :=
  ⟨fun g pre => weaker _ _ (triple.run g (stronger _ pre))⟩

/-- The sequencing rule. -/
theorem Triple.bind {p : Program Op Reply α} {f : α → Program Op Reply β} {R : β → σ → Prop}
    (first : Triple perform P p Q) (rest : ∀ a, Triple perform (Q a) (f a) R) :
    Triple perform P (p.bind f) R := by
  constructor
  intro g pre
  rw [run_bind]
  exact (rest _).run _ (first.run g pre)

/-- A condition that does not depend on the state may be assumed. -/
theorem Triple.assuming {p : Program Op Reply α} {φ : Prop} (triple : φ → Triple perform P p Q) :
    Triple perform (fun s => φ ∧ P s) p Q := ⟨fun g pre => (triple pre.1).run g pre.2⟩

/-- A value that the precondition only says to exist may be named. -/
theorem triple_exists {ι : Type} {P : ι → σ → Prop} {p : Program Op Reply α}
    (each : ∀ i, Triple perform (P i) p Q) : Triple perform (fun s => ∃ i, P i s) p Q := by
  constructor
  intro g pre
  obtain ⟨i, pre⟩ := pre
  exact (each i).run g pre

/-- What every permitted operation keeps is kept by a program of such operations. -/
theorem Only.triple {Permitted : Op → Prop} {I : σ → Prop} {p : Program Op Reply α} (only : p.Only Permitted)
    (keeps : ∀ op choice s, Permitted op → I s → I (perform op choice s).2) :
    Triple perform I p (fun _ => I) := by
  constructor
  intro g inv
  apply Only.run (h := guide perform) (I := fun g => I g.state) _ only inv
  intro op g permitted inv
  exact keeps op g.choice g.state permitted inv

end Program

namespace Action

/-- `Program.Triple` for an action. -/
def Triple (perform : (op : Op) → Choice → σ → Reply op × σ) (P : σ → Prop)
    (x : Action Op Reply ε α) (Q : Except ε α → σ → Prop) : Prop :=
  Program.Triple perform P (toProgram x) Q

variable {P P' : σ → Prop} {Q Q' : Except ε α → σ → Prop}

theorem triple_pure {value : α} (now : ∀ s, P s → Q (.ok value) s) :
    Triple perform P (pure value : Action Op Reply ε α) Q := Program.triple_ret now

theorem triple_throw {e : ε} (now : ∀ s, P s → Q (.error e) s) :
    Triple perform P (throw e : Action Op Reply ε α) Q := Program.triple_ret now

theorem Triple.mono {x : Action Op Reply ε α} (triple : Triple perform P x Q)
    (stronger : ∀ s, P' s → P s) (weaker : ∀ r s, Q r s → Q' r s) : Triple perform P' x Q' :=
  Program.Triple.mono triple stronger weaker

theorem Triple.bind {x : Action Op Reply ε α} {f : α → Action Op Reply ε β}
    {R : Except ε β → σ → Prop} (first : Triple perform P x Q)
    (rest : ∀ a, Triple perform (Q (.ok a)) (f a) R)
    (failed : ∀ e s, Q (.error e) s → R (.error e) s) : Triple perform P (x >>= f) R := by
  unfold Triple
  rw [toProgram_bind]
  apply Program.Triple.bind first
  intro result
  cases result with
  | ok a => exact rest a
  | error e => exact Program.triple_ret (failed e)

theorem triple_always {p : Program Op Reply α} (triple : Program.Triple perform P p fun a => Q (.ok a)) :
    Triple perform P (always p : Action Op Reply ε α) Q :=
  Program.Triple.bind triple fun _ => Program.triple_ret fun _ post => post

theorem triple_mapError {ε' : Type} {f : ε → ε'} {x : Action Op Reply ε α} {R : Except ε' α → σ → Prop}
    (triple : Triple perform P x fun r => R (r.mapError f)) : Triple perform P (mapError f x) R :=
  Program.Triple.bind triple fun _ => Program.triple_ret fun _ post => post

/-- What cannot fail comes first. -/
theorem Triple.bind_always {p : Program Op Reply α} {f : α → Action Op Reply ε β} {R : α → σ → Prop}
    {Q : Except ε β → σ → Prop} (first : Program.Triple perform P p R)
    (rest : ∀ a, Triple perform (R a) (f a) Q) :
    Triple perform P ((always p : Action Op Reply ε α) >>= f) Q := by
  unfold Triple
  rw [toProgram_bind, toProgram_always, Program.bind_assoc]
  exact Program.Triple.bind first rest

end Action

end Strom.Effects
