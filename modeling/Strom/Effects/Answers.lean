import Strom.Effects.Program

/-!
# Runs under given choices

Where an operation may be refused its turn, a run consumes the choices that the surroundings
make, one for each operation.  `answer` is such a run, with the operations that it issues;
`answer_bind` splits it where the program is put together.
-/

namespace Strom.Effects.Program

variable {Op : Type} {Reply : Op → Type} {α β σ Choice : Type}

/-- The run that uses up the choices: its result, the state it reaches and its operations. -/
def answer (perform : (op : Op) → Choice → σ → Option (Reply op × σ)) :
    Program Op Reply α → List Choice → σ → Option (α × σ × List Op)
  | .ret value, [], s => some (value, s, [])
  | .ret _, _ :: _, _ => none
  | .call _ _, [], _ => none
  | .call op next, choice :: choices, s =>
    (perform op choice s).bind fun (reply, t) =>
      ((next reply).answer perform choices t).map fun (value, u, ops) => (value, u, op :: ops)

variable {perform : (op : Op) → Choice → σ → Option (Reply op × σ)} {choices : List Choice} {s t : σ}
  {ops : List Op}

theorem answer_ret {value value' : α} :
    (Program.ret value : Program Op Reply α).answer perform choices s = some (value', t, ops) ↔
      choices = [] ∧ value' = value ∧ t = s ∧ ops = [] := by
  cases choices <;> simp [answer, eq_comm]

theorem answer_call {op : Op} {next : Reply op → Program Op Reply α} {value : α} :
    (Program.call op next).answer perform choices s = some (value, t, ops) ↔
      ∃ choice choices' reply u ops', choices = choice :: choices' ∧ ops = op :: ops' ∧
        perform op choice s = some (reply, u) ∧
        (next reply).answer perform choices' u = some (value, t, ops') := by
  cases choices with
  | nil => simp [answer]
  | cons choice choices =>
    simp only [answer, Option.bind_eq_some_iff, Option.map_eq_some_iff, Prod.exists, Prod.mk.injEq]
    constructor
    · rintro ⟨reply, u, performed, value', t', ops', rest, rfl, rfl, rfl⟩
      exact ⟨choice, choices, reply, u, ops', rfl, rfl, performed, rest⟩
    · rintro ⟨_, _, reply, u, ops', same, rfl, performed, rest⟩
      cases same
      exact ⟨reply, u, performed, value, t, ops', rest, rfl, rfl, rfl⟩

/-- A run of two parts uses up the choices one after the other. -/
theorem answer_bind {p : Program Op Reply α} {f : α → Program Op Reply β} {value : β} :
    (p.bind f).answer perform choices s = some (value, t, ops) ↔
      ∃ choices₁ choices₂ a u ops₁ ops₂, choices = choices₁ ++ choices₂ ∧ ops = ops₁ ++ ops₂ ∧
        p.answer perform choices₁ s = some (a, u, ops₁) ∧
        (f a).answer perform choices₂ u = some (value, t, ops₂) := by
  induction p generalizing choices s ops with
  | ret a =>
    constructor
    · intro run
      exact ⟨[], choices, a, s, [], ops, rfl, rfl, rfl, run⟩
    · rintro ⟨choices₁, choices₂, a', u, ops₁, ops₂, rfl, rfl, first, rest⟩
      obtain ⟨rfl, rfl, rfl, rfl⟩ := answer_ret.mp first
      exact rest
  | call op next ih =>
    rw [call_bind, answer_call]
    constructor
    · rintro ⟨choice, choices', reply, u, ops', rfl, rfl, performed, rest⟩
      obtain ⟨choices₁, choices₂, a, v, ops₁, ops₂, rfl, rfl, first, rest⟩ := (ih reply).mp rest
      refine ⟨choice :: choices₁, choices₂, a, v, op :: ops₁, ops₂, rfl, rfl, ?_, rest⟩
      exact answer_call.mpr ⟨choice, choices₁, reply, u, ops₁, rfl, rfl, performed, first⟩
    · rintro ⟨choices₁, choices₂, a, v, ops₁, ops₂, rfl, rfl, first, rest⟩
      obtain ⟨choice, choices', reply, u, ops', rfl, rfl, performed, first⟩ := answer_call.mp first
      refine ⟨choice, choices' ++ choices₂, reply, u, ops' ++ ops₂, rfl, rfl, performed, ?_⟩
      exact (ih reply).mpr ⟨choices', choices₂, a, v, ops', ops₂, rfl, rfl, first, rest⟩

theorem answer_perform {op : Op} {reply : Reply op} :
    (Program.perform op : Program Op Reply (Reply op)).answer perform choices s = some (reply, t, ops) ↔
      ∃ choice, choices = [choice] ∧ ops = [op] ∧ perform op choice s = some (reply, t) := by
  rw [Program.perform, answer_call]
  constructor
  · rintro ⟨choice, choices', reply', u, ops', rfl, rfl, performed, ended⟩
    obtain ⟨rfl, rfl, rfl, rfl⟩ := answer_ret.mp ended
    exact ⟨choice, rfl, rfl, performed⟩
  · rintro ⟨choice, rfl, rfl, performed⟩
    exact ⟨choice, [], reply, t, [], rfl, rfl, performed, rfl⟩

end Strom.Effects.Program
