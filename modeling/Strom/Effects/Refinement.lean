import Strom.Effects.Program

/-!
# Implementing operations by programs

`expand implement p` replaces every operation of `p` by a program over other
operations.  `Implements` is what makes the replacement sound at every instant:
while the implementation of an operation runs, the concrete state represents an
abstract state that is similar to the one before or to the one after it.
`Holds.expand` then carries an invariant that respects similarity from the
abstract program to the expanded one.
-/

namespace Strom.Effects

variable {Op Op' : Type} {Reply : Op → Type} {Reply' : Op' → Type} {α σ σ' : Type}

/-- Replace every operation by its implementation. -/
def Program.expand (implement : (op : Op) → Program Op' Reply' (Reply op)) :
    Program Op Reply α → Program Op' Reply' α
  | .ret value => .ret value
  | .call op next => (implement op).bind fun reply => (next reply).expand implement

/-- `implement op` run on a state that represents `s` stays similar to `s` or to
    the state after `op`, and ends with the reply and the state of `op`. -/
def Implements (h : Handler Op Reply σ) (h' : Handler Op' Reply' σ')
    (represents : σ' → σ → Prop) (similar : σ → σ → Prop)
    (implement : (op : Op) → Program Op' Reply' (Reply op)) : Prop :=
  ∀ op s' s, represents s' s →
    (implement op).Holds h'
      (fun t' => ∃ t, represents t' t ∧ (similar s t ∨ similar (h op s).2 t))
      (fun reply t' => reply = (h op s).1 ∧ represents t' (h op s).2) s'

/-- An invariant that respects similarity survives the expansion, at every instant. -/
theorem Program.Holds.expand {h : Handler Op Reply σ} {h' : Handler Op' Reply' σ'}
    {represents : σ' → σ → Prop} {similar : σ → σ → Prop}
    {implement : (op : Op) → Program Op' Reply' (Reply op)}
    (implements : Implements h h' represents similar implement) {I : σ → Prop}
    (respects : ∀ s t, similar s t → I s → I t) {p : Program Op Reply α} {Q : α → σ → Prop}
    {s : σ} {s' : σ'} (holds : p.Holds h I Q s) (related : represents s' s) :
    (p.expand implement).Holds h' (fun t' => ∃ t, represents t' t ∧ I t)
      (fun value t' => ∃ t, represents t' t ∧ Q value t) s' := by
  induction p generalizing s s' with
  | ret value => exact ⟨⟨s, related, holds.1⟩, s, related, holds.2⟩
  | call op next ih =>
    have before : I s := holds.1
    have after : I (h op s).2 := holds.2.inv
    refine Program.holds_bind.mpr (((implements op s' s related).weaken ?_).mono ?_)
    · rintro t' ⟨t, related', same | same⟩
      · exact ⟨t, related', respects s t same before⟩
      · exact ⟨t, related', respects _ t same after⟩
    · rintro reply t' - ⟨rfl, related'⟩
      exact ih _ holds.2 related'

end Strom.Effects
