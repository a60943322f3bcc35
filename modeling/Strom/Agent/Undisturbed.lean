import Strom.Agent.Adopt
import Strom.Effects.Exclusive

/-!
# An adoption that nothing disturbs

What the handler of `POST /adopt` does where no call fails.  A node that is not adopted takes the
request and answers with the port and the certificate of its TLS API (`secures_handleAdopt`); one
that another request has adopted refuses with 409 and stays as it is (`refuses_handleAdopt`).
-/

namespace Strom.Agent

open Strom.Go Strom.Effects Strom.Nutconf Strom.Adoption

/-- No call fails. -/
def Calm : AgentOp → Chance → Node → Prop := fun _ chance _ => chance.fault = none

/-- The certificate and the key are there, and belong together. -/
def Certified (node : Node) (pair : Nat) : Prop :=
  node.files .certificate = some (.certificate pair) ∧ node.files .key = some (.key pair)

/-- The agent is adopted by the request, and the response names what its TLS API presents. -/
structure AdoptedFor (a : RuntimeAdopter) (req : AdoptRequest) (response : AdoptResponse) (node : Node) : Prop where
  state : ∃ state, node.files .adoption = some (.adoption state) ∧ state.isFor a req = true
  certificate : ∃ pair, Certified node pair ∧ response.tlsFingerprint = a.digests.certificate pair
  tlsPort : response.tlsPort = a.tlsPort

section Rules

variable {ε α β : Type} {node : Node}

/-- The action ends with this value in this state. -/
abbrev EndsWith (x : Action AgentOp AgentOp.Reply ε α) (value : α) (node' node : Node) : Prop :=
  Action.Secures perform Calm x (fun r t => r = .ok value ∧ t = node') node

theorem secures_step {x : Action AgentOp AgentOp.Reply ε α} {f : α → Action AgentOp AgentOp.Reply ε β}
    {Q : Except ε β → Node → Prop} (value : α) (node' : Node) (first : EndsWith x value node' node)
    (rest : Action.Secures perform Calm (f value) Q node') :
    Action.Secures perform Calm (x >>= f) Q node := by
  refine Action.Secures.bind first ?_ ?_
  · rintro _ t ⟨same, rfl⟩
    cases same
    exact rest
  · rintro e t ⟨same, -⟩
    cases same

theorem endsWith_call {op : AgentOp} {same : op.Reply = Except GoError α} {wrapping : GoError → GoError}
    {value : α} {node' : Node} (effect : ∀ chance : Chance, chance.fault = none →
      (same ▸ (perform op chance node).1 : Except GoError α) = .ok value ∧ (perform op chance node).2 = node') :
    EndsWith (call op same wrapping) value node' node := by
  intro chance calm
  obtain ⟨replied, state⟩ := effect chance calm
  refine ⟨?_, state⟩
  rw [replied]
  rfl

theorem EndsWith.plain {x : AgentAction α} {wrapping : GoError → GoError} {value : α} {node' : Node}
    (ends : EndsWith x value node' node) : EndsWith (plain wrapping x) value node' node := by
  refine Action.Secures.mapError ends ?_
  rintro r t ⟨rfl, state⟩
  exact ⟨rfl, state⟩

theorem EndsWith.mapError {x : AgentAction α} {wrapping : GoError → GoError} {value : α} {node' : Node}
    (ends : EndsWith x value node' node) : EndsWith (Action.mapError wrapping x) value node' node := by
  refine Action.Secures.mapError ends ?_
  rintro r t ⟨rfl, state⟩
  exact ⟨rfl, state⟩

theorem secures_always {op : AgentOp} {f : op.Reply → Action AgentOp AgentOp.Reply ε β}
    {Q : Except ε β → Node → Prop}
    (rest : ∀ chance : Chance, chance.fault = none →
      Action.Secures perform Calm (f (perform op chance node).1) Q (perform op chance node).2) :
    Action.Secures perform Calm ((Action.always (Program.perform op) : Action AgentOp AgentOp.Reply ε op.Reply) >>= f)
      Q node :=
  Action.Secures.bind_always (R := fun reply t => Action.Secures perform Calm (f reply) Q t) rest fun _ _ post => post

/-- A part that succeeds comes first. -/
theorem secures_part {x : AgentAction α} {wrapping : GoError → GoError} {f : α → AdoptionAction β}
    {R : α → Node → Prop} {Q : Except AdoptionError β → Node → Prop}
    (first : Action.Secures perform Calm x (fun r t => ∃ value, r = .ok value ∧ R value t) node)
    (rest : ∀ value t, R value t → Action.Secures perform Calm (f value) Q t) :
    Action.Secures perform Calm (plain wrapping x >>= f) Q node := by
  refine Action.Secures.bind (R := fun r t => ∃ value, r = .ok value ∧ R value t) ?_ ?_ ?_
  · refine Action.Secures.mapError first ?_
    rintro r t ⟨value, rfl, post⟩
    exact ⟨value, rfl, post⟩
  · rintro _ t ⟨value, same, post⟩
    cases same
    exact rest _ t post
  · rintro e t ⟨value, same, -⟩
    cases same

end Rules

/-! ## Files -/

section Files

variable {node : Node} {file : AgentFile} {content : Content} (a : RuntimeAdopter)

theorem endsWith_writeFile : EndsWith (writeFile file content) () (node.put file content) node := by
  refine secures_step () (node.put file .empty) (endsWith_call fun chance calm => ?_) ?_
  · simp [calm]
  · refine endsWith_call fun chance calm => ?_
    simp [calm, Node.put, Chance.written]

theorem endsWith_certificateFingerprint {pair : Nat} (there : node.files .certificate = some (.certificate pair)) :
    EndsWith (certificateFingerprint a) (a.digests.certificate pair) node node := by
  refine secures_step (.certificate pair) node (endsWith_call fun chance calm => ?_) ?_
  · simp [calm, there]
  · exact ⟨rfl, rfl⟩

/-- The files once a new pair is made. -/
def Node.certify (node : Node) : Node :=
  ({ node with generated := node.generated + 1 }.put .certificate (.certificate node.generated)).put .key
    (.key node.generated)

theorem endsWith_makeNodeCertificate :
    EndsWith (makeNodeCertificate a) (a.digests.certificate node.generated) node.certify node := by
  refine secures_step () node (endsWith_call fun chance calm => by simp [calm]) ?_
  refine secures_step node.generated { node with generated := node.generated + 1 }
    (endsWith_call fun chance calm => by simp [calm]) ?_
  refine secures_step () _ (EndsWith.mapError endsWith_writeFile) ?_
  refine secures_step () _ (EndsWith.mapError endsWith_writeFile) ?_
  exact endsWith_certificateFingerprint a (by simp [Node.certify, Node.put, Function.update])

/-- The pair is there, or one is made. -/
theorem secures_ensureNodeCertificate
    (pair : (∃ pair, Certified node pair) ∨ node.files .certificate = none ∨ node.files .key = none) :
    Action.Secures perform Calm (ensureNodeCertificate a) (fun r t => ∃ pair, r = .ok (a.digests.certificate pair) ∧
      Certified t pair ∧ ∀ file, file ≠ .certificate → file ≠ .key → t.files file = node.files file) node := by
  have makes : Action.Secures perform Calm (makeNodeCertificate a) (fun r t => ∃ pair,
      r = .ok (a.digests.certificate pair) ∧ Certified t pair ∧
        ∀ file, file ≠ .certificate → file ≠ .key → t.files file = node.files file) node := by
    refine Action.Secures.mono (endsWith_makeNodeCertificate a) ?_
    rintro r t ⟨rfl, rfl⟩
    refine ⟨node.generated, rfl, ?_, ?_⟩
    · simp [Certified, Node.certify, Node.put, Function.update]
    · intro file certificate key
      simp [Node.certify, Node.put, Function.update, certificate, key]
  refine secures_always fun chance calm => ?_
  cases certificate : node.files .certificate with
  | none =>
    simp only [perform_stat, Chance.call_of_none calm, certificate]
    exact makes
  | some content =>
    simp only [perform_stat, Chance.call_of_none calm, certificate]
    refine secures_always fun chance calm => ?_
    cases key : node.files .key with
    | none =>
      simp only [perform_stat, Chance.call_of_none calm, key]
      exact makes
    | some content' =>
      simp only [perform_stat, Chance.call_of_none calm, key]
      rcases pair with ⟨pair, certified⟩ | missing | missing
      · refine Action.Secures.mono (endsWith_certificateFingerprint a certified.1) ?_
        rintro r t ⟨rfl, rfl⟩
        exact ⟨pair, rfl, certified, fun _ _ _ => rfl⟩
      · cases certificate.symm.trans missing
      · cases key.symm.trans missing

/-- `WriteIfChanged` succeeds and leaves the other files. -/
theorem secures_writeIfChanged :
    Action.Secures perform Calm (writeIfChanged file content) (fun r t => ∃ changed, r = .ok changed ∧
      ∀ other, other ≠ file → t.files other = node.files other) node := by
  have replaces : Action.Secures perform Calm (writeIfChanged.replaceFile file content)
      (fun r t => ∃ changed, r = .ok changed ∧ ∀ other, other ≠ file → t.files other = node.files other) node := by
    refine secures_step () node (endsWith_call fun chance calm => by simp [calm]) ?_
    refine secures_step () node (endsWith_call fun chance calm => by simp [calm]) ?_
    refine secures_step () (node.replace file content) (endsWith_call fun chance calm => by simp [calm]) ?_
    refine secures_step () (node.replace file content) (endsWith_call fun chance calm => by simp [calm]) ?_
    refine ⟨true, rfl, ?_⟩
    intro other apart
    simp [Node.replace, Node.put, Function.update, apart]
  refine secures_always fun chance calm => ?_
  cases there : node.files file with
  | none =>
    simp only [perform_readFile, Chance.call_of_none calm, there]
    exact replaces
  | some old =>
    simp only [perform_readFile, Chance.call_of_none calm, there]
    split
    · exact ⟨false, rfl, fun _ _ => rfl⟩
    · exact replaces

theorem endsWith_reload : EndsWith (reload true []) () { node with serverStale := false } node := by
  have restarts : EndsWith (runSystemctl .reloadOrRestart .server) () { node with serverStale := false } node :=
    endsWith_call fun chance calm => by simp [calm, Node.restarted]
  exact restarts

/-! ## Adopting -/

variable {req : AdoptRequest}

theorem secures_announceAdoption {pair : Nat} (certified : Certified node pair)
    (adopted : ∃ state, node.files .adoption = some (.adoption state) ∧ state.isFor a req = true) :
    Action.Secures perform Calm (announceAdoption a req (a.digests.certificate pair))
      (fun r t => ∃ response, r = .ok response ∧ AdoptedFor a req response t) node := by
  refine secures_part secures_writeIfChanged ?_
  intro _ t kept
  refine secures_step () _ (EndsWith.plain endsWith_reload) ?_
  refine secures_always fun _ _ => ?_
  refine secures_always fun _ _ => ?_
  refine ⟨_, rfl, ?_, ⟨pair, ⟨?_, ?_⟩, rfl⟩, rfl⟩
  · obtain ⟨state, here, same⟩ := adopted
    exact ⟨state, (kept .adoption nofun).trans here, same⟩
  · exact (kept .certificate nofun).trans certified.1
  · exact (kept .key nofun).trans certified.2

theorem secures_firstAdoption
    (pair : (∃ pair, Certified node pair) ∨ node.files .certificate = none ∨ node.files .key = none) :
    Action.Secures perform Calm (firstAdoption a req)
      (fun r t => ∃ response, r = .ok response ∧ AdoptedFor a req response t) node := by
  refine secures_always fun chance calm => ?_
  have ensures : Action.Secures perform Calm (ensureNodeCertificate a) (fun r t => ∃ fingerprint, r = .ok fingerprint ∧
      ∃ pair, fingerprint = a.digests.certificate pair ∧ Certified t pair) node := by
    refine (secures_ensureNodeCertificate a pair).mono ?_
    rintro r t ⟨pair, rfl, certified, -⟩
    exact ⟨_, rfl, pair, rfl, certified⟩
  refine secures_part ensures ?_
  rintro _ t ⟨pair, rfl, certified⟩
  refine secures_step () t (EndsWith.plain (endsWith_call fun chance calm => by simp [calm])) ?_
  refine secures_step () _ (EndsWith.plain endsWith_writeFile) ?_
  refine secures_announceAdoption a ⟨?_, ?_⟩ ⟨_, rfl, ?_⟩
  · exact certified.1
  · exact certified.2
  · simp [AdoptionState.isFor, adoptionStateOf]

/-- A node that is not adopted takes the request. -/
theorem secures_handleAdopt (valid : validateAdoptRequest req = .ok ()) (absent : node.files .adoption = none)
    (pair : (∃ pair, Certified node pair) ∨ node.files .certificate = none ∨ node.files .key = none) :
    (handleAdopt a req).Secures perform Calm
      (fun answer t => ∃ response, answer = .ok response ∧ AdoptedFor a req response t) node := by
  unfold handleAdopt
  rw [valid]
  refine Program.secures_bind.mpr ?_
  have adopts : Action.Secures perform Calm (applyAdoption a req)
      (fun r t => ∃ response, r = .ok response ∧ AdoptedFor a req response t) node := by
    refine secures_always fun chance calm => ?_
    simp only [perform_stat, Chance.call_of_none calm, absent]
    exact secures_firstAdoption a pair
  refine Program.Secures.mono adopts ?_
  rintro _ t ⟨response, rfl, adopted⟩
  exact ⟨response, rfl, adopted⟩

/-- A node that another request has adopted refuses. -/
theorem refuses_handleAdopt {state : AdoptionState} (valid : validateAdoptRequest req = .ok ())
    (adopted : node.files .adoption = some (.adoption state)) (other : state.isFor a req = false) :
    (handleAdopt a req).Secures perform Calm
      (fun answer t => answer = .error (409, "node already adopted: " ++ a.serial) ∧ t = node) node := by
  unfold handleAdopt
  rw [valid]
  refine Program.secures_bind.mpr ?_
  have refuses : Action.Secures perform Calm (applyAdoption a req)
      (fun r t => r = .error (.alreadyAdopted a.serial) ∧ t = node) node := by
    refine secures_always fun chance calm => ?_
    simp only [perform_stat, Chance.call_of_none calm, adopted]
    refine secures_step state node (EndsWith.plain ?_) ?_
    · refine secures_step (.adoption state) node (endsWith_call fun chance calm => ?_) ⟨rfl, rfl⟩
      simp [calm, adopted]
    · rw [other]
      exact ⟨rfl, rfl⟩
  refine Program.Secures.mono refuses ?_
  rintro _ t ⟨rfl, rfl⟩
  exact ⟨rfl, rfl⟩

end Files

end Strom.Agent
