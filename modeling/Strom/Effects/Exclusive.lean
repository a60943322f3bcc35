import Strom.Effects.Threads

/-!
# Requests that are handled one at a time

`Secures` is the weakest precondition of a program whose operations depend on choices, where
only the choices that a guard permits have to be considered.  A `Client` is a request that is
being handled operation by operation.  If every request, handled from a good state, secures a
good state and its own postcondition, then so does every run in which no request begins while
another one is being handled (`exclusive_run`).
-/

namespace Strom.Effects

section Secures

variable {Op : Type} {Reply : Op → Type} {ε α β σ Choice : Type}
  {perform : (op : Op) → Choice → σ → Reply op × σ} {G : Op → Choice → σ → Prop}

/-- From the state, and whatever the choices that `G` permits, the program ends with `Q`. -/
def Program.Secures (perform : (op : Op) → Choice → σ → Reply op × σ) (G : Op → Choice → σ → Prop) :
    Program Op Reply α → (α → σ → Prop) → σ → Prop
  | .ret value, Q, s => Q value s
  | .call op next, Q, s => ∀ choice, G op choice s →
    (next (perform op choice s).1).Secures perform G Q (perform op choice s).2

namespace Program

theorem Secures.mono {p : Program Op Reply α} {Q Q' : α → σ → Prop} {s : σ} (secures : p.Secures perform G Q s)
    (weaker : ∀ a t, Q a t → Q' a t) : p.Secures perform G Q' s := by
  induction p generalizing s with
  | ret value => exact weaker value s secures
  | call op next ih =>
    intro choice permitted
    exact ih _ (secures choice permitted)

/-- The sequencing rule. -/
theorem secures_bind {p : Program Op Reply α} {f : α → Program Op Reply β} {Q : β → σ → Prop} {s : σ} :
    (p.bind f).Secures perform G Q s ↔ p.Secures perform G (fun a t => (f a).Secures perform G Q t) s := by
  induction p generalizing s with
  | ret value => rfl
  | call op next ih => simp only [call_bind, Secures, ih]

end Program

namespace Action

/-- `Program.Secures` for an action. -/
def Secures (perform : (op : Op) → Choice → σ → Reply op × σ) (G : Op → Choice → σ → Prop)
    (x : Action Op Reply ε α) (Q : Except ε α → σ → Prop) (s : σ) : Prop :=
  (toProgram x).Secures perform G Q s

theorem Secures.mono {x : Action Op Reply ε α} {Q Q' : Except ε α → σ → Prop} {s : σ}
    (secures : Secures perform G x Q s) (weaker : ∀ r t, Q r t → Q' r t) : Secures perform G x Q' s :=
  Program.Secures.mono secures weaker

/-- The sequencing rule, forwards. -/
theorem Secures.bind {x : Action Op Reply ε α} {f : α → Action Op Reply ε β} {R : Except ε α → σ → Prop}
    {Q : Except ε β → σ → Prop} {s : σ} (first : Secures perform G x R s)
    (rest : ∀ value t, R (.ok value) t → Secures perform G (f value) Q t)
    (failed : ∀ e t, R (.error e) t → Q (.error e) t) : Secures perform G (x >>= f) Q s := by
  unfold Secures
  rw [toProgram_bind, Program.secures_bind]
  refine Program.Secures.mono first ?_
  intro result t post
  cases result with
  | ok value => exact rest value t post
  | error e => exact failed e t post

theorem Secures.mapError {ε' : Type} {f : ε → ε'} {x : Action Op Reply ε α} {R : Except ε α → σ → Prop}
    {Q : Except ε' α → σ → Prop} {s : σ} (secures : Secures perform G x R s)
    (mapped : ∀ r t, R r t → Q (r.mapError f) t) : Secures perform G (mapError f x) Q s :=
  Program.secures_bind.mpr (Program.Secures.mono secures mapped)

theorem Secures.bind_always {p : Program Op Reply α} {f : α → Action Op Reply ε β} {R : α → σ → Prop}
    {Q : Except ε β → σ → Prop} {s : σ} (first : p.Secures perform G R s)
    (rest : ∀ a t, R a t → Secures perform G (f a) Q t) :
    Secures perform G ((always p : Action Op Reply ε α) >>= f) Q s := by
  unfold Secures
  rw [toProgram_bind, toProgram_always, Program.bind_assoc]
  exact Program.secures_bind.mpr (first.mono fun a t post => rest a t post)

end Action

end Secures

/-! ## Requests -/

/-- A request, the state in which its handling began, and its answer with the state at that moment. -/
structure Client (Request σ : Type) (Op : Type) (Reply : Op → Type) (α : Type) where
  request : Request
  began : Option σ := none
  answer : Option (α × σ) := none
  rest : Program Op Reply α

variable {Request σ Op : Type} {Reply : Op → Type} {α Choice : Type}

namespace Client

/-- Whether the request is being handled. -/
def Busy (client : Client Request σ Op Reply α) : Prop := client.began.isSome ∧ client.answer = none

instance (client : Client Request σ Op Reply α) : Decidable client.Busy :=
  match answered : client.answer with
  | none => decidable_of_iff (client.began.isSome = true) (by simp [Busy, answered])
  | some _ => .isFalse (by simp [Busy, answered])

/-- The operation that comes next. -/
def op? (client : Client Request σ Op Reply α) : Option Op :=
  match client.rest with
  | .ret _ => none
  | .call op _ => some op

/-- One operation of the handling, or its end. -/
def advance (perform : (op : Op) → Choice → σ → Reply op × σ) (choice : Choice)
    (client : Client Request σ Op Reply α) (s : σ) : Option (Client Request σ Op Reply α × σ) :=
  match client.answer with
  | some _ => none
  | none =>
    match client.rest with
    | .ret value => some ({ client with began := some (client.began.getD s), answer := some (value, s) }, s)
    | .call op next => some ({ client with
        began := some (client.began.getD s)
        rest := next (perform op choice s).1 }, (perform op choice s).2)

theorem advance_eq_some {perform : (op : Op) → Choice → σ → Reply op × σ} {choice : Choice}
    {client client' : Client Request σ Op Reply α} {s t : σ}
    (moved : client.advance perform choice s = some (client', t)) :
    client.answer = none ∧ client'.request = client.request ∧ client'.began = some (client.began.getD s) ∧
      ((∃ value, client.rest = .ret value ∧ client'.answer = some (value, s) ∧ t = s) ∨
        ∃ op next, client.rest = .call op next ∧ client'.answer = none ∧
          client'.rest = next (perform op choice s).1 ∧ t = (perform op choice s).2) := by
  unfold advance at moved
  split at moved
  · cases moved
  · next unanswered =>
    split at moved
    · next value rest =>
      cases moved
      exact ⟨unanswered, rfl, rfl, .inl ⟨value, rest, rfl, rfl⟩⟩
    · next op next rest =>
      cases moved
      exact ⟨unanswered, rfl, rfl, .inr ⟨op, next, rest, unanswered, rfl, rfl⟩⟩

end Client

/-- One operation of one request. -/
def attend (perform : (op : Op) → Choice → σ → Reply op × σ) (pool : Pool σ (Client Request σ Op Reply α))
    (turn : Turn Choice) : Option (Pool σ (Client Request σ Op Reply α)) :=
  pool.step (Client.advance perform turn.choice) turn.thread

/-- No request begins while another one is being handled, and every operation meets `G`, which
    may depend on the request and on the state in which its handling began. -/
def Permitted (G : Request → σ → Op → Choice → σ → Prop) (pool : Pool σ (Client Request σ Op Reply α))
    (turn : Turn Choice) : Prop :=
  ∀ client ∈ pool.threads[turn.thread]?,
    (client.began = none → ∀ other ∈ pool.threads, ¬ other.Busy) ∧
      ∀ op ∈ client.op?, G client.request (client.began.getD pool.state) op turn.choice pool.state

instance (G : Request → σ → Op → Choice → σ → Prop) [∀ request before op choice s, Decidable (G request before op choice s)]
    (pool : Pool σ (Client Request σ Op Reply α)) (turn : Turn Choice) : Decidable (Permitted G pool turn) := by
  unfold Permitted
  infer_instance

/-- The requests, none of which is handled yet. -/
def queue (code : Request → Program Op Reply α) (s : σ) (requests : List Request) :
    Pool σ (Client Request σ Op Reply α) :=
  { state := s, threads := requests.map fun request => { request, rest := code request } }

section Runs

variable {code : Request → Program Op Reply α} {perform : (op : Op) → Choice → σ → Reply op × σ}
  {G : Request → σ → Op → Choice → σ → Prop} {Inv : σ → Prop} {Post : Request → σ → α → σ → Prop}

/-- The good states between the operations: at most one request is being handled, and the rest of
    its handling secures what it must. -/
structure Orderly (code : Request → Program Op Reply α) (perform : (op : Op) → Choice → σ → Reply op × σ)
    (G : Request → σ → Op → Choice → σ → Prop) (Inv : σ → Prop) (Post : Request → σ → α → σ → Prop)
    (pool : Pool σ (Client Request σ Op Reply α)) : Prop where
  answered : ∀ client ∈ pool.threads, ∀ s ∈ client.began, ∀ a ∈ client.answer, Post client.request s a.1 a.2
  fresh : ∀ client ∈ pool.threads, client.began = none → client.rest = code client.request
  quiet : (∀ client ∈ pool.threads, ¬ client.Busy) → Inv pool.state
  alone : ∀ (i j : Nat) (client other : Client Request σ Op Reply α), pool.threads[i]? = some client →
    pool.threads[j]? = some other → client.Busy → other.Busy → i = j
  secures : ∀ client ∈ pool.threads, client.answer = none → ∀ s ∈ client.began,
    client.rest.Secures perform (G client.request s) (fun a t => Inv t ∧ Post client.request s a t) pool.state

theorem orderly_step
    (each : ∀ request s, Inv s →
      (code request).Secures perform (G request s) (fun a t => Inv t ∧ Post request s a t) s)
    (pool : Pool σ (Client Request σ Op Reply α)) (turn : Turn Choice) (next : Pool σ (Client Request σ Op Reply α))
    (orderly : Orderly code perform G Inv Post pool) (permitted : Permitted G pool turn)
    (taken : attend perform pool turn = some next) : Orderly code perform G Inv Post next := by
  obtain ⟨client, client', t, found, moved, rfl⟩ := Pool.step_eq_some.mp taken
  have member : client ∈ pool.threads := List.mem_of_getElem? found
  have inside : turn.thread < pool.threads.length := (List.getElem?_eq_some_iff.mp found).1
  obtain ⟨unanswered, request, began', outcome⟩ := Client.advance_eq_some moved
  -- no other request is being handled
  have others : ∀ (j : Nat) (other : Client Request σ Op Reply α), pool.threads[j]? = some other →
      other.Busy → j = turn.thread := by
    intro j other here busy
    cases began : client.began with
    | none => exact absurd busy ((permitted client found).1 began other (List.mem_of_getElem? here))
    | some s => exact orderly.alone j turn.thread other client here found busy ⟨by simp [began], unanswered⟩
  have secures : client.rest.Secures perform (G client.request (client.began.getD pool.state))
      (fun a t => Inv t ∧ Post client.request (client.began.getD pool.state) a t) pool.state := by
    cases began : client.began with
    | none =>
      rw [orderly.fresh client member began]
      exact each client.request pool.state (orderly.quiet ((permitted client found).1 began))
    | some s => exact orderly.secures client member unanswered s began
  have threads : ∀ (j : Nat) (other : Client Request σ Op Reply α),
      (pool.threads.set turn.thread client')[j]? = some other →
      j = turn.thread ∧ other = client' ∨ j ≠ turn.thread ∧ pool.threads[j]? = some other := by
    intro j other here
    by_cases same : j = turn.thread
    · subst same
      simp only [List.getElem?_set_self inside, Option.some.injEq] at here
      exact .inl ⟨rfl, here.symm⟩
    · rw [List.getElem?_set_ne (Ne.symm same)] at here
      exact .inr ⟨same, here⟩
  constructor
  · intro other member' b began a answer
    obtain ⟨j, here⟩ := List.mem_iff_getElem?.mp member'
    cases threads j other here with
    | inr old => exact orderly.answered other (List.mem_of_getElem? old.2) b began a answer
    | inl new =>
      obtain ⟨rfl, rfl⟩ := new
      obtain rfl : client.began.getD pool.state = b := Option.some.inj (began'.symm.trans began)
      cases outcome with
      | inl ends =>
        obtain ⟨value, rest, answered, -⟩ := ends
        obtain rfl : (value, pool.state) = a := Option.some.inj (answered.symm.trans answer)
        rw [rest] at secures
        rw [request]
        exact secures.2
      | inr goes =>
        obtain ⟨op, next, -, answered, -⟩ := goes
        rw [answered] at answer
        cases answer
  · intro other member' began
    obtain ⟨j, here⟩ := List.mem_iff_getElem?.mp member'
    cases threads j other here with
    | inr old => exact orderly.fresh other (List.mem_of_getElem? old.2) began
    | inl new =>
      obtain ⟨rfl, rfl⟩ := new
      rw [began'] at began
      cases began
  · intro idle
    cases outcome with
    | inl ends =>
      obtain ⟨value, rest, -, rfl⟩ := ends
      rw [rest] at secures
      exact secures.1
    | inr goes =>
      obtain ⟨op, next, -, answered, -⟩ := goes
      exact absurd ⟨by simp [began'], answered⟩ (idle client' (List.mem_set inside client'))
  · intro i j c d here here' busy busy'
    cases threads i c here with
    | inl new =>
      cases threads j d here' with
      | inl new' => rw [new.1, new'.1]
      | inr old' => rw [new.1, others j d old'.2 busy']
    | inr old =>
      have same := others i c old.2 busy
      exact absurd same old.1
  · intro other member' unanswered' b began
    obtain ⟨j, here⟩ := List.mem_iff_getElem?.mp member'
    cases threads j other here with
    | inr old => exact absurd (others j other old.2 ⟨by simp [Option.mem_def.mp began], unanswered'⟩) old.1
    | inl new =>
      obtain ⟨rfl, rfl⟩ := new
      obtain rfl : client.began.getD pool.state = b := Option.some.inj (began'.symm.trans began)
      cases outcome with
      | inl ends =>
        obtain ⟨value, -, answered, -⟩ := ends
        rw [answered] at unanswered'
        cases unanswered'
      | inr goes =>
        obtain ⟨op, next, rest, -, rest', rfl⟩ := goes
        rw [rest] at secures
        rw [rest', request]
        apply secures turn.choice
        apply (permitted client found).2 op
        simp [Client.op?, rest]

/-- What every request secures, every permitted run does. -/
theorem exclusive_run
    (each : ∀ request s, Inv s →
      (code request).Secures perform (G request s) (fun a t => Inv t ∧ Post request s a t) s)
    {s : σ} {requests : List Request} {turns : List (Turn Choice)} {final : Pool σ (Client Request σ Op Reply α)}
    (inv : Inv s) (permitted : Guarded (attend perform) (Permitted G) (queue code s requests) turns)
    (run : replay (attend perform) (queue code s requests) turns = some final) :
    ((∀ client ∈ final.threads, ¬ client.Busy) → Inv final.state) ∧
      ∀ client ∈ final.threads, ∀ s ∈ client.began, ∀ a ∈ client.answer, Post client.request s a.1 a.2 := by
  have start : Orderly code perform G Inv Post (queue code s requests) := by
    have waiting : ∀ client ∈ (queue code s requests).threads, ∃ request,
        client = { request, rest := code request } := by
      intro client member
      obtain ⟨request, -, rfl⟩ := List.mem_map.mp member
      exact ⟨request, rfl⟩
    refine ⟨?_, ?_, fun _ => inv, ?_, ?_⟩
    · intro client member s began
      obtain ⟨request, rfl⟩ := waiting client member
      cases began
    · intro client member _
      obtain ⟨request, rfl⟩ := waiting client member
      rfl
    · intro i j client other here _ busy
      obtain ⟨request, rfl⟩ := waiting client (List.mem_of_getElem? here)
      cases busy.1
    · intro client member _ s began
      obtain ⟨request, rfl⟩ := waiting client member
      cases began
  have orderly := replay_invariant (orderly_step each) start permitted run
  exact ⟨orderly.quiet, orderly.answered⟩

end Runs

end Strom.Effects
