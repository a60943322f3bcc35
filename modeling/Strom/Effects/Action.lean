import Strom.Effects.Program

/-!
# Fallible programs

An `Action` is a program whose result may be an error; `>>=` stops at the first
error, as a chain of early returns does.  `exec` runs an action, and
`exec_bind` and `holds_bind` are the sequencing rules of `Program` with the
error case made explicit.
-/

namespace Strom.Effects

abbrev Action (Op : Type) (Reply : Op → Type) (ε α : Type) := ExceptT ε (Program Op Reply) α

namespace Action

variable {Op : Type} {Reply : Op → Type} {ε α β σ : Type}

/-- A program that reports its own success or failure, as an action. -/
def ofProgram (p : Program Op Reply (Except ε α)) : Action Op Reply ε α := ExceptT.mk p

/-- A program that cannot fail, as an action. -/
def always (p : Program Op Reply α) : Action Op Reply ε α :=
  ExceptT.mk (p.bind fun value => .ret (.ok value))

/-- A result that is already known, as an action. -/
def ofExcept (result : Except ε α) : Action Op Reply ε α := ExceptT.mk (.ret result)

/-- The action as a program with a result of either kind. -/
def toProgram (x : Action Op Reply ε α) : Program Op Reply (Except ε α) := ExceptT.run x

/-- Change the error an action fails with. -/
def mapError {ε' : Type} (f : ε → ε') (x : Action Op Reply ε α) : Action Op Reply ε' α :=
  ExceptT.mk ((toProgram x).bind fun result => .ret (result.mapError f))

variable (h : Handler Op Reply σ)

def exec (x : Action Op Reply ε α) (s : σ) : Except ε α × σ := (toProgram x).run h s

/-- `Program.Holds` for an action. -/
def Holds (I : σ → Prop) (x : Action Op Reply ε α) (Q : Except ε α → σ → Prop) (s : σ) : Prop :=
  (toProgram x).Holds h I Q s

@[simp] theorem toProgram_bind (x : Action Op Reply ε α) (f : α → Action Op Reply ε β) :
    toProgram (x >>= f) = (toProgram x).bind fun
      | .ok value => toProgram (f value)
      | .error e => .ret (.error e) := by
  change (ExceptT.run x).bind (ExceptT.bindCont f) = _
  congr 1

theorem bind_assoc {γ : Type} (x : Action Op Reply ε α) (f : α → Action Op Reply ε β)
    (g : β → Action Op Reply ε γ) : x >>= f >>= g = x >>= fun value => f value >>= g := by
  show toProgram (x >>= f >>= g) = toProgram (x >>= fun value => f value >>= g)
  simp only [toProgram_bind, Program.bind_assoc]
  congr
  funext result
  cases result with
  | ok value => rfl
  | error e => rfl

@[simp] theorem toProgram_pure (value : α) :
    toProgram (pure value : Action Op Reply ε α) = .ret (.ok value) := rfl

@[simp] theorem toProgram_throw (e : ε) :
    toProgram (throw e : Action Op Reply ε α) = .ret (.error e) := rfl

@[simp] theorem toProgram_ofProgram (p : Program Op Reply (Except ε α)) :
    toProgram (ofProgram p) = p := rfl

@[simp] theorem toProgram_ofExcept (result : Except ε α) :
    toProgram (ofExcept result : Action Op Reply ε α) = .ret result := rfl

@[simp] theorem toProgram_mapError {ε' : Type} (f : ε → ε') (x : Action Op Reply ε α) :
    toProgram (mapError f x) = (toProgram x).bind fun result => .ret (result.mapError f) := rfl

@[simp] theorem toProgram_always (p : Program Op Reply α) :
    toProgram (always p : Action Op Reply ε α) = p.bind fun value => .ret (.ok value) := rfl

@[simp] theorem exec_pure (value : α) (s : σ) :
    exec h (pure value : Action Op Reply ε α) s = (.ok value, s) := rfl

@[simp] theorem exec_throw (e : ε) (s : σ) :
    exec h (throw e : Action Op Reply ε α) s = (.error e, s) := rfl

@[simp] theorem exec_ofProgram (p : Program Op Reply (Except ε α)) (s : σ) :
    exec h (ofProgram p) s = p.run h s := rfl

@[simp] theorem exec_ofExcept (result : Except ε α) (s : σ) :
    exec h (ofExcept result : Action Op Reply ε α) s = (result, s) := rfl

@[simp] theorem exec_mapError {ε' : Type} (f : ε → ε') (x : Action Op Reply ε α) (s : σ) :
    exec h (mapError f x) s = ((exec h x s).1.mapError f, (exec h x s).2) := by
  simp [exec]

@[simp] theorem exec_always (p : Program Op Reply α) (s : σ) :
    exec h (always p : Action Op Reply ε α) s = (.ok (p.run h s).1, (p.run h s).2) := by
  simp [exec]

@[simp] theorem exec_bind (x : Action Op Reply ε α) (f : α → Action Op Reply ε β) (s : σ) :
    exec h (x >>= f) s = match exec h x s with
      | (.ok value, t) => exec h (f value) t
      | (.error e, t) => (.error e, t) := by
  simp only [exec, toProgram_bind, Program.run_bind]
  generalize (toProgram x).run h s = outcome
  obtain ⟨result, t⟩ := outcome
  cases result <;> rfl

/-- An action that succeeds as a whole succeeded at its first part. -/
theorem exec_bind_ok {x : Action Op Reply ε α} {f : α → Action Op Reply ε β} {s t : σ} {b : β}
    (ok : exec h (x >>= f) s = (.ok b, t)) :
    ∃ a u, exec h x s = (.ok a, u) ∧ exec h (f a) u = (.ok b, t) := by
  rw [exec_bind] at ok
  cases first : exec h x s with
  | mk result u =>
    cases result with
    | ok a => rw [first] at ok; exact ⟨a, u, rfl, ok⟩
    | error e => rw [first] at ok; cases ok

/-- What the second action leaves alone is as the first one left it. -/
theorem exec_bind_frame {γ : Type} (g : σ → γ) {x : Action Op Reply ε α}
    {f : α → Action Op Reply ε β} (keeps : ∀ a t, g (exec h (f a) t).2 = g t) (s : σ) :
    g (exec h (x >>= f) s).2 = g (exec h x s).2 := by
  rw [exec_bind]
  cases exec h x s with
  | mk result t =>
    cases result with
    | ok a => exact keeps a t
    | error e => rfl

variable {h} {I : σ → Prop}

theorem holds_bind {x : Action Op Reply ε α} {f : α → Action Op Reply ε β}
    {Q : Except ε β → σ → Prop} {s : σ} :
    Holds h I (x >>= f) Q s ↔ Holds h I x (fun r t => match r with
      | .ok value => Holds h I (f value) Q t
      | .error e => I t ∧ Q (.error e) t) s := by
  unfold Holds
  rw [toProgram_bind, Program.holds_bind]
  constructor <;> intro holds <;> refine Program.Holds.mono holds fun r t _ post => ?_ <;>
    cases r <;> exact post

theorem holds_pure {value : α} {Q : Except ε α → σ → Prop} {s : σ} :
    Holds h I (pure value : Action Op Reply ε α) Q s ↔ I s ∧ Q (.ok value) s := Iff.rfl

theorem holds_throw {e : ε} {Q : Except ε α → σ → Prop} {s : σ} :
    Holds h I (throw e : Action Op Reply ε α) Q s ↔ I s ∧ Q (.error e) s := Iff.rfl

theorem holds_ofExcept {result : Except ε α} {Q : Except ε α → σ → Prop} {s : σ} :
    Holds h I (ofExcept result : Action Op Reply ε α) Q s ↔ I s ∧ Q result s := Iff.rfl

theorem holds_ofProgram {p : Program Op Reply (Except ε α)} {Q : Except ε α → σ → Prop} {s : σ} :
    Holds h I (ofProgram p) Q s ↔ p.Holds h I Q s := Iff.rfl

theorem holds_always {p : Program Op Reply α} {Q : Except ε α → σ → Prop} {s : σ} :
    Holds h I (always p : Action Op Reply ε α) Q s ↔
      p.Holds h I (fun value t => I t ∧ Q (.ok value) t) s := Program.holds_bind

theorem holds_mapError {ε' : Type} {f : ε → ε'} {x : Action Op Reply ε α}
    {Q : Except ε' α → σ → Prop} {s : σ} :
    Holds h I (mapError f x) Q s ↔ Holds h I x (fun r t => I t ∧ Q (r.mapError f) t) s :=
  Program.holds_bind

theorem Holds.mono {x : Action Op Reply ε α} {Q Q' : Except ε α → σ → Prop} {s : σ}
    (holds : Holds h I x Q s) (weaker : ∀ r t, I t → Q r t → Q' r t) : Holds h I x Q' s :=
  Program.Holds.mono holds weaker

/-- Sequencing after an action whose end is known. -/
theorem holds_seq {x : Action Op Reply ε α} {f : α → Action Op Reply ε β}
    {Q : Except ε β → σ → Prop} {s t : σ} {value : α}
    (instants : Holds h I x (fun _ _ => True) s) (ran : exec h x s = (.ok value, t))
    (rest : Holds h I (f value) Q t) : Holds h I (x >>= f) Q s := by
  refine holds_bind.mpr (Program.Holds.end_of_run instants ?_)
  rw [show (toProgram x).run h s = (.ok value, t) from ran]
  exact rest

end Action

end Strom.Effects
