import Strom.Effects.Trace

/-!
# Stages of a program

A list of stages says what a program has done so far: `next stage op reply` is the
stage after `op` answered `reply`, or `none` where `op` is out of place.  A program
that `Follows` the stages from one of them issues operations in their places only,
whatever the replies, and ends in a stage of which `Q` holds.

An invariant over interleaved programs is then proved over their stages, one stage
and one operation at a time.
-/

namespace Strom.Effects

variable {Op : Type} {Reply : Op → Type} {Stage ε α β : Type}

namespace Program

def Follows (next : Stage → (op : Op) → Reply op → Option Stage) :
    Program Op Reply α → (Stage → α → Prop) → Stage → Prop
  | .ret value, Q, stage => Q stage value
  | .call op rest, Q, stage => ∀ reply, ∃ stage', next stage op reply = some stage' ∧
      (rest reply).Follows next Q stage'

variable {next : Stage → (op : Op) → Reply op → Option Stage} {stage : Stage}

@[simp] theorem follows_ret (value : α) (Q : Stage → α → Prop) :
    (Program.ret value : Program Op Reply α).Follows next Q stage ↔ Q stage value := Iff.rfl

theorem follows_call (op : Op) (rest : Reply op → Program Op Reply α) (Q : Stage → α → Prop) :
    (Program.call op rest).Follows next Q stage ↔ ∀ reply, ∃ stage',
      next stage op reply = some stage' ∧ (rest reply).Follows next Q stage' := Iff.rfl

theorem follows_perform (op : Op) (Q : Stage → Reply op → Prop) :
    (perform op : Program Op Reply (Reply op)).Follows next Q stage ↔ ∀ reply, ∃ stage',
      next stage op reply = some stage' ∧ Q stage' reply := Iff.rfl

/-- The sequencing rule. -/
theorem follows_bind (p : Program Op Reply α) (f : α → Program Op Reply β)
    (Q : Stage → β → Prop) : (p.bind f).Follows next Q stage ↔
      p.Follows next (fun stage value => (f value).Follows next Q stage) stage := by
  induction p generalizing stage with
  | ret value => rfl
  | call op rest ih => simp only [call_bind, follows_call, ih]

theorem Follows.mono {p : Program Op Reply α} {Q Q' : Stage → α → Prop}
    (follows : p.Follows next Q stage) (weaker : ∀ stage value, Q stage value → Q' stage value) :
    p.Follows next Q' stage := by
  induction p generalizing stage with
  | ret value => exact weaker _ _ follows
  | call op rest ih =>
    intro reply
    obtain ⟨stage', reached, later⟩ := follows reply
    exact ⟨stage', reached, ih reply later⟩

/-- What happens inside another list of stages, of which this one is a part. -/
theorem Follows.embed {Stage' : Type} {next' : Stage' → (op : Op) → Reply op → Option Stage'}
    {f : Stage → Stage'} {p : Program Op Reply α} {Q : Stage → α → Prop}
    (follows : p.Follows next Q stage)
    (inside : ∀ stage op reply stage', next stage op reply = some stage' →
      next' (f stage) op reply = some (f stage')) :
    p.Follows next' (fun stage' value => ∃ stage, stage' = f stage ∧ Q stage value) (f stage) := by
  induction p generalizing stage with
  | ret value => exact ⟨stage, rfl, follows⟩
  | call op rest ih =>
    intro reply
    obtain ⟨stage', reached, later⟩ := follows reply
    exact ⟨f stage', inside _ _ _ _ reached, ih reply later⟩

/-- Operations that leave the stage as it is. -/
theorem Only.follows {P : Op → Prop} {p : Program Op Reply α} (only : p.Only P)
    (stays : ∀ op reply, P op → next stage op reply = some stage) :
    p.Follows next (fun stage' _ => stage' = stage) stage := by
  induction p with
  | ret value => rfl
  | call op rest ih =>
    intro reply
    exact ⟨stage, stays op reply only.1, ih reply (only.2 reply)⟩

end Program

namespace Action

variable {next : Stage → (op : Op) → Reply op → Option Stage} {stage : Stage}

/-- `Program.Follows` for an action. -/
def Follows (next : Stage → (op : Op) → Reply op → Option Stage) (x : Action Op Reply ε α)
    (Q : Stage → Except ε α → Prop) (stage : Stage) : Prop :=
  (toProgram x).Follows next Q stage

theorem follows_bind (x : Action Op Reply ε α) (f : α → Action Op Reply ε β)
    (Q : Stage → Except ε β → Prop) : Follows next (x >>= f) Q stage ↔
      Follows next x (fun stage result => match result with
        | .ok value => Follows next (f value) Q stage
        | .error e => Q stage (.error e)) stage := by
  unfold Follows
  rw [toProgram_bind, Program.follows_bind]
  constructor <;> intro follows <;> refine follows.mono ?_ <;> intro stage result post <;>
    cases result <;> exact post

/-- The sequencing rule, forwards. -/
theorem Follows.bind {x : Action Op Reply ε α} {f : α → Action Op Reply ε β}
    {R : Stage → Except ε α → Prop} {Q : Stage → Except ε β → Prop} (first : Follows next x R stage)
    (rest : ∀ stage value, R stage (.ok value) → Follows next (f value) Q stage)
    (failed : ∀ stage e, R stage (.error e) → Q stage (.error e)) :
    Follows next (x >>= f) Q stage := by
  rw [follows_bind]
  refine Program.Follows.mono first ?_
  intro stage result post
  cases result with
  | ok value => exact rest stage value post
  | error e => exact failed stage e post

/-- What cannot fail comes first. -/
theorem Follows.bind_always {p : Program Op Reply α} {f : α → Action Op Reply ε β}
    {R : Stage → α → Prop} {Q : Stage → Except ε β → Prop} (first : p.Follows next R stage)
    (rest : ∀ stage value, R stage value → Follows next (f value) Q stage) :
    Follows next ((always p : Action Op Reply ε α) >>= f) Q stage := by
  refine Follows.bind (R := fun stage result => ∃ value, result = .ok value ∧ R stage value) ?_ ?_ ?_
  · exact (Program.follows_bind _ _ _).mpr (first.mono fun stage value post => ⟨value, rfl, post⟩)
  · rintro stage value ⟨_, same, post⟩
    cases same
    exact rest stage value post
  · rintro stage e ⟨_, same, _⟩
    cases same

end Action

end Strom.Effects
