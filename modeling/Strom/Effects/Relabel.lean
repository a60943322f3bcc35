import Strom.Effects.Stages

/-!
# Programs over another signature

A `Relabeling` says how the operations of one signature are operations of another one.  It carries
a label along, which may count the operations so far.  A relabelled program follows the stages that
the program follows (`Follows.relabel`), and its run is the run of the program under the handler
seen through the relabelling (`run_relabel`).
-/

namespace Strom.Effects

structure Relabeling (Op : Type) (Reply : Op → Type) (Op' : Type) (Reply' : Op' → Type) (κ : Type) where
  op : κ → Op → Op'
  /-- The label for what comes after the operation. -/
  after : κ → Op → κ
  reply : (k : κ) → (o : Op) → Reply' (op k o) → Reply o

variable {Op Op' : Type} {Reply : Op → Type} {Reply' : Op' → Type} {κ α σ Stage Stage' : Type}

/-- A handler seen from the other signature; the label is part of the state. -/
def Relabeling.handler (r : Relabeling Op Reply Op' Reply' κ) (h : Handler Op' Reply' σ) :
    Handler Op Reply (κ × σ) :=
  fun o s => (r.reply s.1 o (h (r.op s.1 o) s.2).1, r.after s.1 o, (h (r.op s.1 o) s.2).2)

namespace Program

/-- The program over the other signature, from a label on, with the label at its end. -/
def relabel (r : Relabeling Op Reply Op' Reply' κ) :
    κ → Program Op Reply α → Program Op' Reply' (α × κ)
  | k, .ret value => .ret (value, k)
  | k, .call o next => .call (r.op k o) fun reply => (next (r.reply k o reply)).relabel r (r.after k o)

variable {r : Relabeling Op Reply Op' Reply' κ} {k : κ} {p : Program Op Reply α}

theorem run_relabel (h : Handler Op' Reply' σ) (s : σ) :
    (p.relabel r k).run h s =
      (((p.run (r.handler h) (k, s)).1, (p.run (r.handler h) (k, s)).2.1),
        (p.run (r.handler h) (k, s)).2.2) := by
  induction p generalizing k s with
  | ret value => rfl
  | call o next ih => exact ih _ _

theorem only_relabel {P : Op' → Prop} (allowed : ∀ k o, P (r.op k o)) : (p.relabel r k).Only P := by
  induction p generalizing k with
  | ret value => trivial
  | call o next ih => exact ⟨allowed k o, fun reply => ih _⟩

/-- Stages carry over, where the other signature has the same moves. -/
theorem Follows.relabel {next : Stage → (o : Op) → Reply o → Option Stage}
    {next' : Stage' → (o : Op') → Reply' o → Option Stage'} {f : Stage → Stage'} {stage : Stage}
    {Q : Stage → α → Prop} (follows : p.Follows next Q stage)
    (moves : ∀ k stage o reply stage', next stage o (r.reply k o reply) = some stage' →
      next' (f stage) (r.op k o) reply = some (f stage')) :
    (p.relabel r k).Follows next' (fun stage' value => ∃ stage, stage' = f stage ∧ Q stage value.1) (f stage) := by
  induction p generalizing k stage with
  | ret value => exact ⟨stage, rfl, follows⟩
  | call o nexts ih =>
    intro reply
    obtain ⟨stage', reached, later⟩ := follows (r.reply k o reply)
    exact ⟨f stage', moves k stage o reply stage' reached, ih _ later⟩

end Program

end Strom.Effects
