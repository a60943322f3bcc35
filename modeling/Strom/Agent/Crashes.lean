import Strom.Agent.Replays

/-!
# Crashes between emptying a file and writing it

`os.WriteFile` empties a file before it writes it, and the agent decides by the existence of
`adoption.json`, the certificate and the key whether to keep them.  `crashes_recoverable`: as
long as no crash falls right after the emptying of `adoption.json` or of the key, the files are
complete and match after any number of crashes.
-/

namespace Strom.Agent

open Strom.Go Strom.Effects Strom.Nutconf Strom.Adoption

/-! ## Attempts that are cut off -/

/-- No system call fails; `time` is what the clock shows. -/
def calmly (time : Int) : Handler AgentOp AgentOp.Reply Node := fun op node => perform op { time } node

/-- A call of `ApplyAdoption` whose process is cut off after so many operations, if it is not
    done by then. -/
structure Attempt where
  serial : String
  version : String
  tlsPort : Int
  request : AdoptRequest
  time : Int := 0
  ops : Nat

namespace Attempt

variable (digests : Digests) (attempt : Attempt)

def adopter : RuntimeAdopter where
  serial := attempt.serial
  version := attempt.version
  tlsPort := attempt.tlsPort
  digests := digests

def program : AgentProgram (Except AdoptionError AdoptResponse) :=
  Action.toProgram (applyAdoption (attempt.adopter digests) attempt.request)

/-- The operations done before the crash. -/
def done (node : Node) : List AgentOp := (attempt.program digests).issued (calmly attempt.time) attempt.ops node

/-- What the crash leaves. -/
def step (node : Node) : Option Node :=
  some ((attempt.program digests).cut (calmly attempt.time) attempt.ops node)

end Attempt

/-- The operation empties `adoption.json` or the key. -/
def AgentOp.empties : AgentOp → Bool
  | .truncate .adoption | .truncate .key => true
  | _ => false

def Torn (log : List AgentOp) : Prop := log.getLast?.any AgentOp.empties = true

instance (log : List AgentOp) : Decidable (Torn log) := inferInstanceAs (Decidable (_ = _))

/-- The crash does not come right after `adoption.json` or the key was emptied. -/
def Attempt.Whole (digests : Digests) (node : Node) (attempt : Attempt) : Prop :=
  ¬ Torn (attempt.done digests node)

instance (digests : Digests) (node : Node) (attempt : Attempt) : Decidable (attempt.Whole digests node) :=
  inferInstanceAs (Decidable (¬ _))

/-! ## The files -/

/-- The certificate and the key are those of the pair. -/
def Holding (node : Node) (pair : Nat) : Prop :=
  node.files .certificate = some (.certificate pair) ∧ node.files .key = some (.key pair)

/-- The key is absent or that of the certificate, and so is the record. -/
structure Durable (digests : Digests) (node : Node) : Prop where
  key : node.files .key = none ∨ ∃ pair, Holding node pair
  record : node.files .adoption = none ∨ ∃ state pair, node.files .adoption = some (.adoption state) ∧
    Holding node pair ∧ state.tlsFingerprint = digests.certificate pair

/-- What a restart must find. -/
structure Recoverable (digests : Digests) (node : Node) : Prop where
  /-- `adoption.json` is absent or complete. -/
  record : node.files .adoption = none ∨ ∃ state, node.files .adoption = some (.adoption state)
  /-- A fingerprint is returned for a certificate and its key only. -/
  certificate : ∀ (attempt : Attempt) fingerprint node',
    Action.exec (calmly attempt.time) (ensureNodeCertificate (attempt.adopter digests)) node =
        (.ok fingerprint, node') →
      ∃ pair, Holding node' pair ∧ fingerprint = digests.certificate pair
  /-- A node without a record can be adopted. -/
  adoption : node.files .adoption = none → ∀ (attempt : Attempt), ∃ response node',
    Action.exec (calmly attempt.time) (applyAdoption (attempt.adopter digests) attempt.request) node =
      (.ok response, node')
  /-- A node with a record has the certificate of the record and its key. -/
  api : ∀ state, node.files .adoption = some (.adoption state) →
    ∃ pair, Holding node pair ∧ state.tlsFingerprint = digests.certificate pair

/-! ## One attempt -/

section Attempts

variable {time : Int} {digests : Digests} {node : Node} {log : List AgentOp}

/-- At every instant the files are in order, or one of them has just been emptied. -/
def Instant (digests : Digests) (s : Node × List AgentOp) : Prop := Durable digests s.1 ∨ Torn s.2

/-- `Action.Holds` for an attempt. -/
abbrev During {ε α : Type} (time : Int) (digests : Digests) (x : Action AgentOp AgentOp.Reply ε α)
    (Q : Except ε α → Node → Prop) (node : Node) (log : List AgentOp) : Prop :=
  Action.Holds (Program.logged (calmly time)) (Instant digests) x (fun r s => Q r s.1) (node, log)

/-- The part succeeds. -/
def Succeeds {ε α : Type} (P : α → Node → Prop) : Except ε α → Node → Prop
  | .ok value, t => P value t
  | .error _, _ => False

section Rules

variable {ε α β : Type} {x : Action AgentOp AgentOp.Reply ε α} {P R : α → Node → Prop}

/-- The postcondition of an attempt that is not cut off. -/
theorem During.exec {Q : Except ε α → Node → Prop} (during : During time digests x Q node log) :
    Q (Action.exec (calmly time) x node).1 (Action.exec (calmly time) x node).2 := by
  have post := ((Program.holds_iff _ _ _).mp during).2
  obtain ⟨result, reached⟩ := Program.run_logged (h := calmly time) (Action.toProgram x) node log
  rwa [result, reached] at post

theorem During.bind {f : α → Action AgentOp AgentOp.Reply ε β} {Q : Except ε β → Node → Prop}
    (first : During time digests x (Succeeds R) node log)
    (rest : ∀ value t log', R value t → During time digests (f value) Q t log') :
    During time digests (x >>= f) Q node log := by
  apply Action.holds_bind.mpr
  apply Action.Holds.mono first
  intro r s instant post
  cases r with
  | ok value => exact rest value s.1 s.2 post
  | error e => cases post

theorem During.mono (during : During time digests x (Succeeds P) node log)
    (weaker : ∀ value t, P value t → R value t) : During time digests x (Succeeds R) node log := by
  apply Action.Holds.mono during
  intro r s _ post
  cases r with
  | ok value => exact weaker value s.1 post
  | error e => cases post

theorem During.mapError {ε' : Type} {wrapping : ε → ε'} (during : During time digests x (Succeeds P) node log) :
    During time digests (Action.mapError wrapping x) (Succeeds P) node log := by
  apply Action.holds_mapError.mpr
  apply Action.Holds.mono during
  intro r s instant post
  cases r with
  | ok value => exact ⟨instant, post⟩
  | error e => cases post

/-- What cannot fail comes first. -/
theorem During.bind_always {op : AgentOp} {f : op.Reply → Action AgentOp AgentOp.Reply ε β}
    {Q : Except ε β → Node → Prop} (before : Durable digests node)
    (after : Durable digests (calmly time op node).2)
    (rest : ∀ log', During time digests (f (calmly time op node).1) Q (calmly time op node).2 log') :
    During time digests (Action.always (Program.perform op) >>= f) Q node log := by
  apply Action.holds_bind.mpr
  apply Action.holds_always.mpr
  exact ⟨.inl before, .inl after, .inl after, rest _⟩

theorem during_pure {value : α} (durable : Durable digests node) (post : P value node) :
    During time digests (pure value : Action AgentOp AgentOp.Reply ε α) (Succeeds P) node log :=
  ⟨.inl durable, post⟩

end Rules

/-- A call between two states in which the files are in order. -/
theorem during_call {α : Type} {op : AgentOp} {same : op.Reply = Except GoError α} {wrapping : GoError → GoError}
    {value : α} {next : Node} (before : Durable digests node) (after : Durable digests next)
    (replied : (same ▸ (calmly time op node).1 : Except GoError α) = .ok value)
    (reached : (calmly time op node).2 = next) :
    During time digests (call op same wrapping) (Succeeds fun v t => v = value ∧ t = next) node log := by
  have result : (same ▸ (calmly time op node).1 : Except GoError α).mapError wrapping = .ok value := by
    rw [replied]
    rfl
  refine ⟨.inl before, ?_, ?_⟩
  · rw [← reached] at after
    exact .inl after
  · change Succeeds _ ((same ▸ (calmly time op node).1 : Except GoError α).mapError wrapping) _
    rw [result]
    exact ⟨rfl, reached⟩

theorem put_put (node : Node) (file : AgentFile) (content content' : Content) :
    (node.put file content).put file content' = node.put file content' := by
  simp [Node.put]

/-- `os.WriteFile`: in between the file is empty. -/
theorem during_writeFile (file : AgentFile) (content : Content) (before : Durable digests node)
    (emptied : ∀ earlier, Instant digests (node.put file .empty, earlier ++ [.truncate file]))
    (after : Durable digests (node.put file content)) :
    During time digests (writeFile file content) (Succeeds fun _ t => t = node.put file content)
      node log := by
  have written : (calmly time (.write file content) (node.put file .empty)).2 = node.put file content := by
    simp [calmly, Chance.written, files_put, put_put]
  refine ⟨.inl before, emptied log, ?_, written⟩
  rw [← written] at after
  exact .inl after

theorem Holding.unique {pair pair' : Nat} (one : Holding node pair) (other : Holding node pair') :
    pair = pair' := by
  cases one.2.symm.trans other.2
  rfl

theorem durable_of_none (key : node.files .key = none) (adoption : node.files .adoption = none) :
    Durable digests node := ⟨.inl key, .inl adoption⟩

theorem durable_of_holding {pair : Nat} (holding : Holding node pair) (adoption : node.files .adoption = none) :
    Durable digests node := ⟨.inr ⟨pair, holding⟩, .inl adoption⟩

/-- Without a key there is no record. -/
theorem Durable.unrecorded (durable : Durable digests node) (key : node.files .key = none) :
    node.files .adoption = none := by
  obtain absent | ⟨_, _, _, holding, _⟩ := durable.record
  · exact absent
  · cases holding.2.symm.trans key

/-! ### The certificate -/

variable (a : RuntimeAdopter)

/-- The fingerprint of a certificate that is there. -/
theorem during_certificateFingerprint {pair : Nat} (durable : Durable digests node)
    (holding : Holding node pair) :
    During time digests (certificateFingerprint a)
      (Succeeds fun fingerprint t => fingerprint = a.digests.certificate pair ∧ t = node) node log := by
  have reads : During time digests (call (.readFile .certificate) rfl (.wrap "read node TLS cert"))
      (Succeeds fun content t => content = .certificate pair ∧ t = node) node log :=
    during_call durable durable (by simp [calmly, holding.1]) (by simp [calmly])
  apply reads.bind
  rintro content t log' ⟨rfl, rfl⟩
  exact during_pure durable ⟨rfl, rfl⟩

/-- A new pair is made where there is no key. -/
theorem during_makeNodeCertificate (key : node.files .key = none) (adoption : node.files .adoption = none) :
    During time digests (makeNodeCertificate a) (Succeeds fun fingerprint t =>
      ∃ pair, fingerprint = a.digests.certificate pair ∧ Holding t pair ∧ t.files .adoption = none)
      node log := by
  have durable : Durable digests node := durable_of_none key adoption
  have makes : During time digests (call (.mkdirAll .certificate) rfl (.wrap "create TLS dir"))
      (Succeeds fun _ t => t = node) node log :=
    (during_call durable durable rfl rfl).mono fun _ t post => post.2
  apply makes.bind
  rintro _ t _ rfl
  have generates (log : List AgentOp) : During time digests
      (call .generateCertificate rfl (.wrap "generate node TLS key"))
      (Succeeds fun _ u => u.files = t.files) t log := by
    have counted : Durable digests { t with generated := t.generated + 1 } := durable_of_none key adoption
    apply (during_call durable counted rfl rfl).mono
    rintro _ u ⟨-, rfl⟩
    rfl
  apply (generates _).bind
  intro pair u _ same
  have key' : u.files .key = none := same ▸ key
  have adoption' : u.files .adoption = none := same ▸ adoption
  have certifies (log : List AgentOp) : During time digests (writeFile .certificate (.certificate pair))
      (Succeeds fun _ v => v = u.put .certificate (.certificate pair)) u log := by
    apply during_writeFile .certificate _ (durable_of_none key' adoption')
    · intro earlier
      exact .inl (durable_of_none key' adoption')
    · exact durable_of_none key' adoption'
  apply (certifies _).mapError.bind
  rintro _ v _ rfl
  have holding : Holding ((u.put .certificate (.certificate pair)).put .key (.key pair)) pair := by
    simp [Holding, Node.put]
  have keys (log : List AgentOp) : During time digests (writeFile .key (.key pair))
      (Succeeds fun _ w => w = (u.put .certificate (.certificate pair)).put .key (.key pair))
      (u.put .certificate (.certificate pair)) log := by
    have certified : Durable digests (u.put .certificate (.certificate pair)) :=
      durable_of_none key' adoption'
    apply during_writeFile .key _ certified
    · intro earlier
      exact .inr (by simp [Torn, AgentOp.empties])
    · exact durable_of_holding holding adoption'
  apply (keys _).mapError.bind
  rintro _ w _ rfl
  apply (during_certificateFingerprint a (durable_of_holding holding adoption') holding).mono
  rintro fingerprint w ⟨rfl, rfl⟩
  exact ⟨pair, rfl, holding, adoption'⟩

/-- The pair there is, or a new one. -/
theorem during_ensureNodeCertificate (durable : Durable digests node) :
    During time digests (ensureNodeCertificate a) (Succeeds fun fingerprint t =>
      ∃ pair, fingerprint = a.digests.certificate pair ∧ Holding t pair ∧
        t.files .adoption = node.files .adoption) node log := by
  have stat (file : AgentFile) : calmly time (.stat file) node =
      (if (node.files file).isSome then .ok () else .error (.os .notExist), node) := rfl
  have same (file : AgentFile) : Durable digests (calmly time (.stat file) node).2 := durable
  obtain key | ⟨pair, holding⟩ := durable.key
  · -- without a key a pair is made, whether there is a certificate or not
    have adoption := durable.unrecorded key
    have makes (log : List AgentOp) : During time digests (makeNodeCertificate a)
        (Succeeds fun fingerprint t => ∃ pair, fingerprint = a.digests.certificate pair ∧ Holding t pair ∧
          t.files .adoption = node.files .adoption) node log := by
      rw [adoption]
      exact during_makeNodeCertificate a key adoption
    apply During.bind_always durable (same .certificate)
    intro log
    rw [stat .certificate]
    cases certified : (node.files .certificate).isSome with
    | false => exact makes log
    | true =>
      apply During.bind_always durable (same .key)
      intro log
      rw [stat .key, key]
      exact makes log
  · apply During.bind_always durable (same .certificate)
    intro log
    rw [stat .certificate, holding.1]
    apply During.bind_always durable (same .key)
    intro log
    rw [stat .key, holding.2]
    apply (during_certificateFingerprint a durable holding).mono
    rintro fingerprint t ⟨rfl, rfl⟩
    exact ⟨pair, rfl, holding, rfl⟩

/-! ### The record -/

/-- Neither the record nor the pair is touched. -/
def AgentOp.apart (op : AgentOp) : Prop :=
  op.changes? ≠ some .adoption ∧ op.changes? ≠ some .certificate ∧ op.changes? ≠ some .key

theorem Durable.perform {op : AgentOp} (durable : Durable digests node) (apart : op.apart) :
    Durable digests (calmly time op node).2 := by
  have adoption : (calmly time op node).2.files .adoption = _ := perform_keeps_file apart.1 _ _
  have certificate : (calmly time op node).2.files .certificate = _ := perform_keeps_file apart.2.1 _ _
  have key : (calmly time op node).2.files .key = _ := perform_keeps_file apart.2.2 _ _
  constructor
  · simpa only [Holding, certificate, key] using durable.key
  · simpa only [Holding, adoption, certificate, key] using durable.record

/-- The action succeeds at every node. -/
def Works {ε α : Type} (time : Int) (x : Action AgentOp AgentOp.Reply ε α) : Prop :=
  ∀ node, ∃ value t, Action.exec (calmly time) x node = (.ok value, t)

section Works

variable {ε α β : Type} {x : Action AgentOp AgentOp.Reply ε α}

theorem Works.bind {f : α → Action AgentOp AgentOp.Reply ε β} (first : Works time x)
    (rest : ∀ value, Works time (f value)) : Works time (x >>= f) := by
  intro node
  obtain ⟨value, t, ran⟩ := first node
  rw [Action.exec_bind, ran]
  exact rest value t

theorem Works.mapError {ε' : Type} {wrapping : ε → ε'} (works : Works time x) :
    Works time (Action.mapError wrapping x) := by
  intro node
  obtain ⟨value, t, ran⟩ := works node
  exact ⟨value, t, by simp [ran, Except.mapError]⟩

theorem works_pure (value : α) : Works time (pure value : Action AgentOp AgentOp.Reply ε α) :=
  fun node => ⟨value, node, rfl⟩

theorem works_always (op : AgentOp) :
    Works time (Action.always (Program.perform op) : Action AgentOp AgentOp.Reply ε op.Reply) :=
  fun _ => ⟨_, _, rfl⟩

theorem works_replaceFile (file : AgentFile) (content : Content) :
    Works time (writeIfChanged.replaceFile file content) :=
  fun _ => ⟨_, _, rfl⟩

theorem works_writeIfChanged (file : AgentFile) (content : Content) :
    Works time (writeIfChanged file content) := by
  intro node
  have replaces : ∃ value t, Action.exec (calmly time) (writeIfChanged.replaceFile file content) node =
      (.ok value, t) := works_replaceFile file content node
  cases held : node.files file with
  | none => simpa [writeIfChanged, calmly, held, GoError.isNotExist] using replaces
  | some old =>
    by_cases same : old.same content
    · exact ⟨false, node, by simp [writeIfChanged, calmly, held, same]⟩
    · simpa [writeIfChanged, calmly, held, same] using replaces

end Works

/-- The rest of the first adoption succeeds where no call fails. -/
theorem works_announceAdoption (req : AdoptRequest) (fingerprint : String) :
    Works time (announceAdoption a req fingerprint) := by
  apply Works.bind (Works.mapError (works_writeIfChanged _ _))
  intro _
  have reloads : Works time (reload true []) := fun _ => ⟨_, _, rfl⟩
  apply Works.bind reloads.mapError
  intro _
  apply Works.bind (works_always _)
  intro _
  apply Works.bind (works_always _)
  intro _
  exact works_pure _

theorem during_announceAdoption (req : AdoptRequest) (fingerprint : String) (durable : Durable digests node) :
    During time digests (announceAdoption a req fingerprint) (Succeeds fun _ _ => True) node log := by
  have only : Action.Only AgentOp.apart (announceAdoption a req fingerprint) := by
    apply only_announceAdoption
    · intro op users
      cases op <;> simp_all [AgentOp.apart, AgentOp.changes?, AgentOp.file?]
    · intro op service
      cases op <;> simp_all [AgentOp.apart, AgentOp.changes?, AgentOp.isService]
    · intro user adopted
      simp [AgentOp.apart, AgentOp.changes?]
  have kept := only.holds (h := Program.logged (calmly time)) (I := fun s => Durable digests s.1)
    (fun op s apart held => held.perform apart) (s := (node, log)) durable
  apply Program.Holds.end_of_run (kept.weaken fun s held => .inl held)
  have works : Works time (announceAdoption a req fingerprint) := works_announceAdoption a req fingerprint
  obtain ⟨response, t, ran⟩ := works node
  have result : (Program.run (calmly time) (Action.toProgram (announceAdoption a req fingerprint)) node).1 =
      .ok response := congrArg Prod.fst ran
  rw [(Program.run_logged _ _ _ _).1, result]
  trivial

/-! ### `ApplyAdoption` -/

theorem during_firstAdoption (req : AdoptRequest) (durable : Durable a.digests node)
    (unadopted : node.files .adoption = none) :
    During time a.digests (firstAdoption a req) (Succeeds fun _ _ => True) node log := by
  have asked : Durable a.digests (calmly time .now node).2 := durable
  apply During.bind_always durable asked
  intro log
  apply (During.mapError (during_ensureNodeCertificate a asked)).bind
  rintro fingerprint t log ⟨pair, rfl, holding, same⟩
  have adoption : t.files .adoption = none := same.trans unadopted
  have durable' : Durable a.digests t := durable_of_holding holding adoption
  have makes (log : List AgentOp) : During time a.digests (call (.mkdirAll .adoption) rfl id)
      (Succeeds fun _ u => u = t) t log :=
    (during_call durable' durable' rfl rfl).mono fun _ u post => post.2
  apply (makes log).mapError.bind
  rintro _ u log rfl
  have recorded (state : AdoptionState) (matching : state.tlsFingerprint = a.digests.certificate pair) :
      Durable a.digests (u.put .adoption (.adoption state)) :=
    ⟨.inr ⟨pair, holding⟩, .inr ⟨state, pair, files_put .., holding, matching⟩⟩
  have records : During time a.digests _ _ u log := during_writeFile .adoption
    (.adoption (adoptionStateOf a req (a.digests.certificate pair) (calmly time .now node).1)) durable'
    (fun earlier => .inr (by simp [Torn, AgentOp.empties])) (recorded _ rfl)
  apply records.mapError.bind
  rintro _ v log rfl
  exact during_announceAdoption a req _ (recorded _ rfl)

/-- The end of a replay, where the record is written anew if the port has changed. -/
theorem during_answer {existing : AdoptionState} {pair : Nat}
    (recorded : node.files .adoption = some (.adoption existing)) (holding : Holding node pair)
    (matching : existing.tlsFingerprint = a.digests.certificate pair) (differs : Prop) [Decidable differs]
    (state : AdoptionState) (same : state.tlsFingerprint = existing.tlsFingerprint) (response : AdoptResponse) :
    During time a.digests (do
        if differs then plain (.wrap "write adoption config") (writeAdoptionState state)
        return response : AdoptionAction AdoptResponse) (fun _ _ => True) node log := by
  have durable : Durable a.digests node :=
    ⟨.inr ⟨pair, holding⟩, .inr ⟨existing, pair, recorded, holding, matching⟩⟩
  have rewritten : Durable a.digests (node.put .adoption (.adoption state)) :=
    ⟨.inr ⟨pair, holding⟩, .inr ⟨state, pair, files_put .., holding, same.trans matching⟩⟩
  dsimp only
  split
  · have records : During time a.digests _ _ node log := during_writeFile .adoption (.adoption state) durable
      (fun earlier => .inr (by simp [Torn, AgentOp.empties])) rewritten
    apply records.mapError.bind
    rintro _ t log rfl
    exact ⟨.inl rewritten, trivial⟩
  · exact ⟨.inl durable, trivial⟩

/-- A replay writes at most the record anew. -/
theorem during_replayAdoption (req : AdoptRequest) {state : AdoptionState} {pair : Nat}
    (recorded : node.files .adoption = some (.adoption state)) (holding : Holding node pair)
    (matching : state.tlsFingerprint = a.digests.certificate pair) :
    During time a.digests (replayAdoption a req) (fun _ _ => True) node log := by
  have durable : Durable a.digests node := ⟨.inr ⟨pair, holding⟩, .inr ⟨state, pair, recorded, holding, matching⟩⟩
  have reads : During time a.digests readAdoptionState (Succeeds fun found t => found = state ∧ t = node)
      node log := by
    have content : During time a.digests (call (.readFile .adoption) rfl id)
        (Succeeds fun content t => content = .adoption state ∧ t = node) node log :=
      during_call durable durable (by simp [calmly, recorded]) (by simp [calmly])
    apply content.bind
    rintro _ t log ⟨rfl, rfl⟩
    exact during_pure durable ⟨rfl, rfl⟩
  apply reads.mapError.bind
  rintro existing t log ⟨rfl, rfl⟩
  have named : existing.tlsFingerprint ≠ "" := by
    rw [matching]
    exact a.digests.certificate_ne pair
  dsimp only
  split
  · -- the answer comes from the record, and its fingerprint is not the empty one
    have found (log : List AgentOp) : During time a.digests
        (pure existing.tlsFingerprint : AdoptionAction String)
        (Succeeds fun fingerprint u => fingerprint = existing.tlsFingerprint ∧ u = t) t log :=
      during_pure durable ⟨rfl, rfl⟩
    apply (found log).bind
    rintro _ u log ⟨rfl, rfl⟩
    have answers (tlsPort : Int) (response : AdoptResponse) : During time a.digests _ _ u log :=
      during_answer a recorded holding matching
        (existing.tlsPort ≠ tlsPort ∨ existing.tlsFingerprint ≠ existing.tlsFingerprint)
        { existing with tlsPort } rfl response
    exact answers _ _
  · exact ⟨.inl durable, trivial⟩

end Attempts

/-! ## Runs with crashes -/

section Runs

variable {digests : Digests} {node : Node}

/-- One attempt, up to its crash. -/
theorem during_applyAdoption (a : RuntimeAdopter) (time : Int) (req : AdoptRequest) (log : List AgentOp)
    (durable : Durable a.digests node) :
    During time a.digests (applyAdoption a req) (fun r _ => node.files .adoption = none →
      ∃ response, r = .ok response) node log := by
  have asked : Durable a.digests (calmly time (.stat .adoption) node).2 := durable
  apply During.bind_always durable asked
  intro log
  have stat : calmly time (.stat .adoption) node =
      (if (node.files .adoption).isSome then .ok () else .error (.os .notExist), node) := rfl
  rw [stat]
  obtain unadopted | ⟨state, pair, recorded, holding, matching⟩ := durable.record
  · rw [unadopted]
    apply Action.Holds.mono (during_firstAdoption a req durable unadopted)
    intro r s _ succeeds _
    cases r with
    | ok response => exact ⟨response, rfl⟩
    | error e => cases succeeds
  · rw [recorded]
    apply Action.Holds.mono (during_replayAdoption a req recorded holding matching)
    intro r s _ _ absent
    cases absent

theorem durable_step (node : Node) (attempt : Attempt) (next : Node) (durable : Durable digests node)
    (whole : attempt.Whole digests node) (stepped : attempt.step digests node = some next) :
    Durable digests next := by
  cases stepped
  have during := during_applyAdoption (attempt.adopter digests) attempt.time attempt.request [] durable
  have instant := ((Program.holds_iff _ _ _).mp during).1 attempt.ops
  rw [Program.cut_logged, List.nil_append] at instant
  exact instant.resolve_right whole

/-- In order at an instant is in order after a restart. -/
theorem recoverable_of_durable (durable : Durable digests node) : Recoverable digests node where
  record := by
    obtain absent | ⟨state, _, recorded, _⟩ := durable.record
    · exact .inl absent
    · exact .inr ⟨state, recorded⟩
  certificate := by
    intro attempt fingerprint node' ran
    have during : During attempt.time digests (ensureNodeCertificate (attempt.adopter digests)) _ node [] :=
      during_ensureNodeCertificate (attempt.adopter digests) durable
    have post := during.exec
    rw [ran] at post
    obtain ⟨pair, rfl, holding, -⟩ := post
    exact ⟨pair, holding, rfl⟩
  adoption := by
    intro unadopted attempt
    have during := during_applyAdoption (attempt.adopter digests) attempt.time attempt.request [] durable
    obtain ⟨response, result⟩ := during.exec unadopted
    exact ⟨response, _, Prod.ext result rfl⟩
  api := by
    intro state recorded
    obtain absent | ⟨state', pair, recorded', holding, matching⟩ := durable.record
    · cases absent.symm.trans recorded
    · cases recorded'.symm.trans recorded
      exact ⟨pair, holding, matching⟩

/-- Crashes leave the files complete and matching, unless one falls between the emptying and the
    writing of `adoption.json` or of the key. -/
theorem crashes_recoverable (digests : Digests) (start final : Node) (attempts : List Attempt)
    (unadopted : start.files .adoption = none) (keyless : start.files .key = none)
    (whole : Guarded (fun node attempt => Attempt.step digests attempt node)
      (fun node attempt => attempt.Whole digests node) start attempts)
    (run : replay (fun node attempt => Attempt.step digests attempt node) start attempts = some final) :
    Recoverable digests final :=
  recoverable_of_durable (replay_invariant durable_step (durable_of_none keyless unadopted) whole run)

end Runs

/-- An adoption that is cut off after so many operations. -/
def attempt1 (ops : Nat) : Attempt where
  serial := "node-1"
  version := "1.0.0"
  tlsPort := 8443
  request := requestOf "token"
  ops := ops

/-- A crash between certificate and key, then an adoption to the end. -/
theorem crashes_recoverable_of_two :
    Guarded (fun node attempt => Attempt.step adopter1.digests attempt node)
        (fun node attempt => attempt.Whole adopter1.digests node) {} [attempt1 7, attempt1 30] ∧
      ∀ final, replay (fun node attempt => Attempt.step adopter1.digests attempt node) {}
        [attempt1 7, attempt1 30] = some final → Recoverable adopter1.digests final := by
  have whole : Guarded (fun node attempt => Attempt.step adopter1.digests attempt node)
      (fun node attempt => attempt.Whole adopter1.digests node) {} [attempt1 7, attempt1 30] := by
    decide
  refine ⟨whole, ?_⟩
  intro final run
  exact crashes_recoverable adopter1.digests {} final [attempt1 7, attempt1 30] rfl rfl whole run

/-- A crash right after `adoption.json` was emptied: no adoption works any more.  A crash right
    after the key was emptied: the certificate is taken for one that has its key. -/
theorem emptied_files_stay :
    (∃ node, replay (fun node attempt => Attempt.step adopter1.digests attempt node) {} [attempt1 12] = some node ∧
      node.files .adoption = some .empty ∧ ¬ Recoverable adopter1.digests node ∧
      ∀ attempt : Attempt, ∃ e, Action.exec (calmly attempt.time)
        (applyAdoption (attempt.adopter adopter1.digests) attempt.request) node = (.error e, node)) ∧
    ∃ node, replay (fun node attempt => Attempt.step adopter1.digests attempt node) {} [attempt1 8] = some node ∧
      node.files .key = some .empty ∧ ¬ Recoverable adopter1.digests node ∧
      Action.exec (calmly 0) (ensureNodeCertificate adopter1) node = (.ok "pair 0", node) := by
  refine ⟨⟨_, rfl, rfl, ?_, ?_⟩, _, rfl, rfl, ?_, ?_⟩
  · intro recoverable
    obtain absent | ⟨state, recorded⟩ := recoverable.record
    · cases absent
    · cases recorded
  · intro attempt
    exact ⟨_, rfl⟩
  · intro recoverable
    obtain ⟨pair, holding, -⟩ := recoverable.certificate (attempt1 0) "pair 0" _ rfl
    cases holding.2
  · rfl

end Strom.Agent
