import Mathlib.Data.List.Infix

/-!
# Runs of a step function

`step s e` is the state the event `e` leads to from `s`, or `none` where `e`
cannot happen.  `replay` takes a list of events in turn.  A property of the
states of all runs is proved once for one step: `replay_invariant` is the
induction, with a `guard` that the events of a run may be assumed to meet.
-/

namespace Strom.Effects

variable {State Event : Type} (step : State → Event → Option State)

/-- The state after the events in turn, if each of them can happen. -/
def replay : State → List Event → Option State
  | s, [] => some s
  | s, e :: es => (step s e).bind fun t => replay t es

/-- Every event of the run meets `guard` in the state in which it happens. -/
def Guarded (guard : State → Event → Prop) : State → List Event → Prop
  | _, [] => True
  | s, e :: es => guard s e ∧ ∀ t ∈ step s e, Guarded guard t es

instance Guarded.decidable (guard : State → Event → Prop) [∀ s e, Decidable (guard s e)] :
    (s : State) → (es : List Event) → Decidable (Guarded step guard s es)
  | _, [] => .isTrue trivial
  | s, e :: es =>
    match reached : step s e with
    | none => decidable_of_iff (guard s e) (by simp [Guarded, reached])
    | some t =>
      have := Guarded.decidable guard t es
      decidable_of_iff (guard s e ∧ Guarded step guard t es) (by simp [Guarded, reached])

variable {step}

theorem replay_cons {s u : State} {e : Event} {es : List Event} :
    replay step s (e :: es) = some u ↔ ∃ t, step s e = some t ∧ replay step t es = some u := by
  simp [replay, Option.bind_eq_some_iff]

theorem replay_append {s u : State} {es later : List Event} :
    replay step s (es ++ later) = some u ↔
      ∃ t, replay step s es = some t ∧ replay step t later = some u := by
  induction es generalizing s with
  | nil => simp [replay]
  | cons e es ih =>
    simp only [List.cons_append, replay_cons, ih]
    constructor
    · rintro ⟨t, one, v, run, rest⟩
      exact ⟨v, ⟨t, one, run⟩, rest⟩
    · rintro ⟨v, ⟨t, one, run⟩, rest⟩
      exact ⟨t, one, v, run, rest⟩

/-- The guard of a run holds of every part of it. -/
theorem Guarded.append {guard : State → Event → Prop} {s t : State} {es later : List Event}
    (guarded : Guarded step guard s (es ++ later)) (run : replay step s es = some t) :
    Guarded step guard s es ∧ Guarded step guard t later := by
  induction es generalizing s with
  | nil => cases run; exact ⟨trivial, guarded⟩
  | cons e es ih =>
    obtain ⟨u, one, rest⟩ := replay_cons.mp run
    obtain ⟨first, after⟩ := guarded
    refine ⟨⟨first, ?_⟩, (ih (after u one) rest).2⟩
    intro u' one'
    obtain rfl : u = u' := Option.some.inj (one.symm.trans one')
    exact (ih (after u one) rest).1

/-- What every guarded step preserves holds after every guarded run. -/
theorem replay_invariant {guard : State → Event → Prop} {I : State → Prop}
    (preserved : ∀ s e t, I s → guard s e → step s e = some t → I t)
    {s t : State} {es : List Event} (inv : I s) (guarded : Guarded step guard s es)
    (run : replay step s es = some t) : I t := by
  induction es generalizing s with
  | nil => cases run; exact inv
  | cons e es ih =>
    obtain ⟨u, one, rest⟩ := replay_cons.mp run
    exact ih (preserved s e u inv guarded.1 one) (guarded.2 u one) rest

theorem guarded_true (s : State) (es : List Event) : Guarded step (fun _ _ => True) s es := by
  induction es generalizing s with
  | nil => trivial
  | cons e es ih => exact ⟨trivial, fun t _ => ih t⟩

/-- `replay_invariant` without a guard. -/
theorem replay_preserves {I : State → Prop} (preserved : ∀ s e t, I s → step s e = some t → I t)
    {s t : State} {es : List Event} (inv : I s) (run : replay step s es = some t) : I t :=
  replay_invariant (fun s e t inv _ => preserved s e t inv) inv (guarded_true s es) run

/-- Where a step leads to a state of `I` exactly if it meets the guard, the runs through states
    of `I` only are the guarded ones. -/
theorem forall_reached_iff {guard : State → Event → Prop} {I : State → Prop}
    (exact : ∀ s e, I s → ∃ t, step s e = some t ∧ (I t ↔ guard s e))
    {s : State} (inv : I s) (es : List Event) :
    (∀ earlier, earlier <+: es → ∀ t ∈ replay step s earlier, I t) ↔ Guarded step guard s es := by
  induction es generalizing s with
  | nil =>
    constructor
    · intro _
      trivial
    · intro _ earlier isPrefix t reached
      obtain rfl := List.prefix_nil.mp isPrefix
      cases reached
      exact inv
  | cons e es ih =>
    obtain ⟨u, one, iff⟩ := exact s e inv
    constructor
    · intro sound
      have held : I u := by
        apply sound [e] (List.prefix_append [e] es)
        simp [replay, one]
      refine ⟨iff.mp held, ?_⟩
      intro t stepped
      obtain rfl : u = t := Option.some.inj (one.symm.trans stepped)
      apply (ih held).mp
      intro earlier isPrefix t reached
      apply sound (e :: earlier) ((List.cons_prefix_cons).mpr ⟨rfl, isPrefix⟩)
      exact replay_cons.mpr ⟨u, one, reached⟩
    · rintro ⟨here, after⟩ earlier isPrefix t reached
      cases earlier with
      | nil =>
        cases reached
        exact inv
      | cons first earlier =>
        obtain ⟨rfl, shorter⟩ := List.cons_prefix_cons.mp isPrefix
        obtain ⟨v, stepped, rest⟩ := replay_cons.mp reached
        obtain rfl : u = v := Option.some.inj (one.symm.trans stepped)
        exact (ih (iff.mpr here)).mpr (after u one) earlier shorter t rest

end Strom.Effects
