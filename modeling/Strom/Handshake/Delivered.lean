import Mathlib.Data.List.TakeWhile
import Strom.Agent.Undisturbed
import Strom.Effects.Settled
import Strom.Handshake.Agreement

/-!
# Attempts whose messages are delivered

An attempt that has the link to itself: each of its requests is handled to the end before it
receives, no message is lost and no call fails.
-/

namespace Strom.Handshake

open Strom.Go Strom.Effects Strom.Registry Strom.Adoption Strom.Agent

/-- Nothing goes wrong. -/
structure Delivers (chance : Chance) : Prop where
  statement : chance.controller.fault = none
  agent : chance.agent.fault = none
  arrives : chance.lost = false
  delivery : chance.delivery = .delivered
  seals : chance.sealFault = none
  secret : ∀ length, ∃ secret, chance.controller.answer (.randomSecret length) = .ok secret ∧ trimSpace secret ≠ ""
  newRequest : ∀ url, chance.controller.answer (.newRequest url) = .ok ()
  health : ∀ address port apiToken fingerprint,
    chance.controller.answer (.health address port apiToken fingerprint) = .ok ()
  snapshot : ∀ live ∈ (chance.controller.answer .snapshot : List LiveNode), live.discovered.id ≠ ""
  listNodeUPSSummaries : ∀ id, chance.controller.answer (.listNodeUPSSummaries id) = .ok ()

variable (p : Parties) (attempt : Nat)

/-- The operations of the attempt, with what they start run to its end. -/
def settled : Handler ControllerOp ControllerOp.Reply (Nat × Guided Link Chance) :=
  (attemptLabels attempt).handler ((runtime p).settle (perform p))

variable {p attempt} {choices : Nat → Chance} {s : Nat × Guided Link Chance} {α β : Type}

/-- The agent's operations in the run of a handler are those of the agent on its own. -/
theorem agent_plays (delivers : ∀ n, Delivers (choices n)) (link : Link) (op : AgentOp)
    (t : Unit × Guided Link Chance)
    (kept : t.2.choices = choices ∧ t.2.state = { link with node := t.2.state.node }) :
    ∃ chance, Calm op chance t.2.state.node ∧
      (agentLabels.handler (guide (perform p)) op t).1 = (Agent.perform op chance t.2.state.node).1 ∧
      (agentLabels.handler (guide (perform p)) op t).2.2.state.node = (Agent.perform op chance t.2.state.node).2 ∧
      (agentLabels.handler (guide (perform p)) op t).2.2.choices = choices ∧
      (agentLabels.handler (guide (perform p)) op t).2.2.state =
        { link with node := (agentLabels.handler (guide (perform p)) op t).2.2.state.node } := by
  obtain ⟨u, g⟩ := t
  obtain ⟨chosen, state⟩ := kept
  refine ⟨g.choice.agent, ?_, rfl, rfl, chosen, ?_⟩
  · have calm := (delivers g.turn).agent
    rw [← chosen] at calm
    exact calm
  · exact congrArg (fun before : Link => { before with node := (Agent.perform op g.choice.agent g.state.node).2 }) state

/-- The run of a handler's thread, with any program in the place of the agent's handler. -/
theorem run_handler (attempt number : Nat) (delivers : ∀ n, Delivers (choices n)) {g : Guided Link Chance} (chosen : g.choices = choices)
    {program : AgentProgram AdoptAnswer} {Q : AdoptAnswer → Node → Prop}
    (secures : program.Secures Agent.perform Calm Q g.state.node) {thread : LinkProgram Unit}
    (code : thread = (Program.perform LinkOp.arrive).bind fun arrived =>
      if arrived then ((program.relabel agentLabels ()).bind fun answered => .ret answered.1).bind fun answer =>
        Program.perform (LinkOp.answer attempt number answer)
      else .ret ()) :
    ∃ answer node, Q answer node ∧ (thread.run (guide (perform p)) g).2.choices = choices ∧
      (thread.run (guide (perform p)) g).2.state =
        { g.state with node, answers := g.state.answers ++ [((attempt, number), answer)] } := by
  have arrives : guide (perform p) .arrive g = (true, g.next g.state) := by
    have kept := (delivers g.turn).arrives
    rw [← chosen] at kept
    simp [guide, perform, Guided.choice, kept]
  have begun : program.Secures Agent.perform Calm Q (g.next g.state).state.node := secures
  obtain ⟨post, kept⟩ := Program.Secures.run (agent_plays (p := p) delivers g.state)
    (t := ((), g.next g.state)) begun ⟨chosen, rfl⟩
  refine ⟨_, _, post, ?_⟩
  rw [code, Program.run_bind, Program.run_perform, arrives]
  dsimp only
  rw [if_pos rfl, Program.run_bind, Program.run_bind, Program.run_relabel]
  have answered := congrArg (fun link : Link => { link with
    answers := link.answers ++ [((attempt, number), (program.run (agentLabels.handler (guide (perform p)))
      ((), g.next g.state)).1)] }) kept.2
  exact ⟨kept.1, answered⟩

/-- A request is handled, as the agent's handler does where no call fails. -/
theorem settled_send (attempt : Nat) (delivers : ∀ n, Delivers (choices n)) (chosen : s.2.choices = choices) (url : String)
    {body : AdoptRequest} {Q : AdoptAnswer → Node → Prop}
    (secures : (handleAdopt p.adopter body).Secures Agent.perform Calm Q s.2.state.node) :
    ∃ answer node, Q answer node ∧ (settled p attempt (.send url body) s).2.2.choices = choices ∧
      (settled p attempt (.send url body) s).2.1 = s.1 + 1 ∧
      (settled p attempt (.send url body) s).2.2.state = { s.2.state with
        requests := s.2.state.requests ++ [(attempt, body)]
        node
        answers := s.2.state.answers ++ [((attempt, s.1 + 1), answer)] } := by
  obtain ⟨sent, g⟩ := s
  have begun : (handleAdopt p.adopter body).Secures Agent.perform Calm Q
      (g.next { g.state with requests := g.state.requests ++ [(attempt, body)] }).state.node := secures
  have same : (g.next { g.state with requests := g.state.requests ++ [(attempt, body)] }).choices = choices := chosen
  obtain ⟨answer, node, post, kept, state⟩ := run_handler attempt (sent + 1) delivers same begun
    (rfl : (Task.handle attempt (sent + 1) body).code p = _)
  exact ⟨answer, node, post, kept, rfl, state⟩

/-! ## The parts of an attempt -/

/-- The part of the attempt succeeds, and `R` holds of its value, the requests so far and the link. -/
abbrev Succeeds (p : Parties) (attempt : Nat) (choices : Nat → Chance) (x : ControllerAction α)
    (R : α → Nat → Link → Prop) (s : Nat × Guided Link Chance) : Prop :=
  Action.Holds (settled p attempt) (fun s => s.2.choices = choices) x
    (fun r t => ∃ value, r = .ok value ∧ R value t.1 t.2.state) s

theorem Succeeds.bind {x : ControllerAction α} {f : α → ControllerAction β} {R : α → Nat → Link → Prop}
    {Q : Except AdoptError β → Nat × Guided Link Chance → Prop} (first : Succeeds p attempt choices x R s)
    (rest : ∀ value (t : Nat × Guided Link Chance), t.2.choices = choices → R value t.1 t.2.state →
      Action.Holds (settled p attempt) (fun s => s.2.choices = choices) (f value) Q t) :
    Action.Holds (settled p attempt) (fun s => s.2.choices = choices) (x >>= f) Q s := by
  refine Action.holds_bind.mpr (Action.Holds.mono first ?_)
  rintro r t kept ⟨value, rfl, post⟩
  exact rest value t kept post

theorem Succeeds.weaken {x : ControllerAction α} {R R' : α → Nat → Link → Prop}
    (succeeds : Succeeds p attempt choices x R s) (weaker : ∀ value sent link, R value sent link → R' value sent link) :
    Succeeds p attempt choices x R' s := by
  refine Action.Holds.mono succeeds ?_
  rintro r t - ⟨value, rfl, post⟩
  exact ⟨value, rfl, weaker _ _ _ post⟩

theorem succeeds_fallible {op : ControllerOp} {same : op.Reply = Except GoError α} {wrapping : GoError → GoError}
    {R : α → Nat → Link → Prop} (value : α) (chosen : s.2.choices = choices)
    (kept : (settled p attempt op s).2.2.choices = choices)
    (replied : (same ▸ (settled p attempt op s).1 : Except GoError α) = .ok value)
    (post : R value (settled p attempt op s).2.1 (settled p attempt op s).2.2.state) :
    Succeeds p attempt choices (fallible op same wrapping) R s := by
  refine ⟨chosen, kept, value, ?_, post⟩
  change (same ▸ (settled p attempt op s).1 : Except GoError α).mapError _ = _
  rw [replied]
  rfl

theorem succeeds_statement {op : ControllerOp} {same : op.Reply = Except RegistryError α}
    {R : α → Nat → Link → Prop} (value : α) (chosen : s.2.choices = choices) (kept : (settled p attempt op s).2.2.choices = choices)
    (replied : (same ▸ (settled p attempt op s).1 : Except RegistryError α) = .ok value)
    (post : R value (settled p attempt op s).2.1 (settled p attempt op s).2.2.state) :
    Succeeds p attempt choices (statement op same) R s := by
  refine ⟨chosen, kept, value, ?_, post⟩
  change (same ▸ (settled p attempt op s).1 : Except RegistryError α).mapError _ = _
  rw [replied]
  rfl

theorem succeeds_always {op : ControllerOp} {R : op.Reply → Nat → Link → Prop} (chosen : s.2.choices = choices)
    (kept : (settled p attempt op s).2.2.choices = choices)
    (post : R (settled p attempt op s).1 (settled p attempt op s).2.1 (settled p attempt op s).2.2.state) :
    Succeeds p attempt choices (Action.always (Program.perform op) : ControllerAction op.Reply) R s :=
  ⟨chosen, kept, _, rfl, post⟩

section Delivering

variable (delivers : ∀ n, Delivers (choices n))
include delivers

theorem delivers_now (chosen : s.2.choices = choices) : Delivers s.2.choice := by
  have now := delivers s.2.turn
  rwa [← chosen] at now

theorem succeeds_randomSecret (chosen : s.2.choices = choices) (length : Nat) :
    Succeeds p attempt choices (fallible (.randomSecret length) rfl id)
      (fun secret sent link => trimSpace secret ≠ "" ∧ sent = s.1 ∧ link = s.2.state ∧
        ∃ n, (choices n).controller.answer (.randomSecret length) = .ok secret) s := by
  obtain ⟨secret, answered, nonblank⟩ := (delivers_now delivers chosen).secret length
  refine succeeds_fallible secret chosen chosen answered ⟨nonblank, rfl, rfl, s.2.turn, ?_⟩
  rw [← chosen]
  exact answered

/-- What an attempt makes of a reply. -/
def judge (last : Bool) (reply : AdoptReply) : ControllerAction Adoption.Attempt :=
  if reply.status = 200 then return .accepted reply
  else if reply.status = 409 then
    let message := if reply.errorMessage = "" then "node already adopted" else reply.errorMessage
    return .rejected (.alreadyAdopted message) false
  else return .rejected (rejection reply) (!last && shouldRetryAdoptStatus reply.status)

/-- A request and its reply: what the agent's handler answers is what the controller receives. -/
theorem holds_adoptAttempt (chosen : s.2.choices = choices) {url : String} {body : AdoptRequest} {last : Bool}
    {Q : AdoptAnswer → Node → Prop} {Q' : Except AdoptError Adoption.Attempt → Nat × Guided Link Chance → Prop}
    (secures : (handleAdopt p.adopter body).Secures Agent.perform Calm Q s.2.state.node)
    (unanswered : s.2.state.answers.lookup (attempt, s.1 + 1) = none)
    (rest : ∀ answer node (t : Nat × Guided Link Chance), Q answer node → t.2.choices = choices →
      t.2.state = { s.2.state with
        requests := s.2.state.requests ++ [(attempt, body)]
        node
        answers := s.2.state.answers ++ [((attempt, s.1 + 1), answer)] } →
      Action.Holds (settled p attempt) (fun s => s.2.choices = choices) (judge last (replyOf answer)) Q' t) :
    Action.Holds (settled p attempt) (fun s => s.2.choices = choices) (adoptAttempt url body last) Q' s := by
  have asks : Succeeds p attempt choices (fallible (.newRequest url) rfl id)
      (fun _ sent link => sent = s.1 ∧ link = s.2.state) s :=
    succeeds_fallible () chosen chosen ((delivers_now delivers chosen).newRequest url) ⟨rfl, rfl⟩
  refine Succeeds.bind asks ?_
  rintro _ t chosen ⟨count, state⟩
  rw [← state] at secures
  obtain ⟨answer, node, post, kept, sent, state'⟩ := settled_send attempt delivers chosen url secures
  have sends : Succeeds p attempt choices (Action.always (Program.perform (ControllerOp.send url body)))
      (fun _ sent link => sent = s.1 + 1 ∧ link = { s.2.state with
        requests := s.2.state.requests ++ [(attempt, body)]
        node
        answers := s.2.state.answers ++ [((attempt, s.1 + 1), answer)] }) t := by
    refine succeeds_always chosen kept ⟨sent.trans (by rw [count]), ?_⟩
    rw [state', state, count]
  refine Succeeds.bind sends ?_
  rintro _ u chosen ⟨sent', state''⟩
  have found : u.2.state.answers.lookup (attempt, u.1) = some answer := by
    rw [state'', sent', List.lookup_append, unanswered]
    simp
  have receives : Succeeds p attempt choices (Action.always (Program.perform ControllerOp.receive))
      (fun reply _ link => reply = .ok (replyOf answer) ∧ link = u.2.state) u := by
    refine succeeds_always chosen chosen ⟨?_, rfl⟩
    have delivered := (delivers_now delivers chosen).delivery
    change u.2.choice.delivery.received (u.2.state.answers.lookup (attempt, u.1)) = _
    rw [delivered, found]
    rfl
  refine Succeeds.bind receives ?_
  rintro _ v chosen ⟨rfl, state⟩
  exact rest answer node v post chosen (state.trans state'')

/-- The link once the request is answered. -/
def Link.answered (link : Link) (attempt sent : Nat) (body : AdoptRequest) (node : Node) (answer : AdoptAnswer) : Link :=
  { link with
    requests := link.requests ++ [(attempt, body)]
    node
    answers := link.answers ++ [((attempt, sent + 1), answer)] }

/-- The first request is accepted, so that there is no second one. -/
theorem succeeds_adoptExchange (chosen : s.2.choices = choices) {url : String} {body : AdoptRequest}
    {Q : AdoptResponse → Node → Prop}
    (secures : (handleAdopt p.adopter body).Secures Agent.perform Calm
      (fun answer node => ∃ response, answer = .ok response ∧ Q response node) s.2.state.node)
    (unanswered : s.2.state.answers.lookup (attempt, s.1 + 1) = none) (left : Nat) :
    Succeeds p attempt choices (adoptExchange url body left) (fun reply _ link => ∃ response node,
      reply = replyOf (.ok response) ∧ Q response node ∧
        link = s.2.state.answered attempt s.1 body node (.ok response)) s := by
  have attempts (last : Bool) : Action.Holds (settled p attempt) (fun s => s.2.choices = choices)
      (adoptAttempt url body last) (fun r t => ∃ response node, r = .ok (.accepted (replyOf (.ok response))) ∧
        Q response node ∧ t.2.state = s.2.state.answered attempt s.1 body node (.ok response)) s := by
    refine holds_adoptAttempt delivers chosen secures unanswered ?_
    rintro _ node t ⟨response, rfl, post⟩ kept state
    exact ⟨kept, response, node, rfl, post, state⟩
  cases left with
  | zero =>
    refine Action.holds_bind.mpr (Action.Holds.mono (attempts true) ?_)
    rintro _ t kept ⟨response, node, rfl, post, state⟩
    exact ⟨kept, _, rfl, response, node, rfl, post, state⟩
  | succ left =>
    refine Action.holds_bind.mpr (Action.Holds.mono (attempts false) ?_)
    rintro _ t kept ⟨response, node, rfl, post, state⟩
    exact ⟨kept, _, rfl, response, node, rfl, post, state⟩

/-- The first request is refused by an adopted agent, and is not sent again. -/
theorem refused_adoptExchange (chosen : s.2.choices = choices) {url : String} {body : AdoptRequest} {message : String}
    (secures : (handleAdopt p.adopter body).Secures Agent.perform Calm
      (fun answer node => answer = .error (409, message) ∧ node = s.2.state.node) s.2.state.node)
    (unanswered : s.2.state.answers.lookup (attempt, s.1 + 1) = none) (left : Nat) :
    Action.Holds (settled p attempt) (fun s => s.2.choices = choices) (adoptExchange url body left)
      (fun r t => (∃ message, r = .error (.alreadyAdopted message)) ∧
        t.2.state = s.2.state.answered attempt s.1 body s.2.state.node (.error (409, message))) s := by
  have attempts (last : Bool) : Action.Holds (settled p attempt) (fun s => s.2.choices = choices)
      (adoptAttempt url body last) (fun r t => (∃ message, r = .ok (.rejected (.alreadyAdopted message) false)) ∧
        t.2.state = s.2.state.answered attempt s.1 body s.2.state.node (.error (409, message))) s := by
    refine holds_adoptAttempt delivers chosen secures unanswered ?_
    rintro _ node t ⟨rfl, rfl⟩ kept state
    exact ⟨kept, ⟨_, rfl⟩, state⟩
  cases left with
  | zero =>
    refine Action.holds_bind.mpr (Action.Holds.mono (attempts true) ?_)
    rintro _ t kept ⟨⟨_, rfl⟩, state⟩
    exact ⟨kept, ⟨_, rfl⟩, state⟩
  | succ left =>
    refine Action.holds_bind.mpr (Action.Holds.mono (attempts false) ?_)
    rintro _ t kept ⟨⟨_, rfl⟩, state⟩
    exact ⟨kept, ⟨_, rfl⟩, state⟩

/-- The agent answers under the pinned certificate and accepts the token. -/
theorem succeeds_verify (chosen : s.2.choices = choices) {address apiToken fingerprint : String} {port : Int}
    (given : address ≠ "" ∧ port ≠ 0 ∧ apiToken ≠ "" ∧ fingerprint ≠ "")
    (served : serves p s.2.state.node port apiToken fingerprint = true) :
    Succeeds p attempt choices (verifyPinnedNodeHealth address port apiToken fingerprint)
      (fun _ _ link => link = s.2.state) s := by
  unfold verifyPinnedNodeHealth
  rw [if_neg (by tauto)]
  refine succeeds_fallible () chosen chosen ?_ rfl
  have answered := (delivers_now delivers chosen).health address port apiToken fingerprint
  simp only [settled, Relabeling.handler, attemptLabels, Runtime.settle, guide, perform, answered, served, if_true]

theorem succeeds_sealString (chosen : s.2.choices = choices) (value : String) (wrapping : GoError → GoError) :
    Succeeds p attempt choices (fallible (.sealString value) rfl wrapping)
      (fun sealedText _ link => p.vault.openString sealedText.text = .ok value ∧ link = s.2.state) s := by
  refine succeeds_fallible _ chosen chosen ?_ ⟨p.vault.open_seal s.2.choice.nonce value, rfl⟩
  have seals := (delivers_now delivers chosen).seals
  simp only [settled, Relabeling.handler, attemptLabels, Runtime.settle, guide, perform, seals]

section Agreement

variable {nodeID : String}

theorem succeeds_saveNodeTrust (chosen : s.2.choices = choices) {body : AdoptRequest} {trust : Trust}
    (row : (find s.2.state.rows nodeID).isSome = true) (holds : AgentHolds p s.2.state body)
    (opens : p.vault.openString trust.apiTokenEnc = .ok body.apiToken) :
    Succeeds p attempt choices (statement (.saveNodeTrust nodeID trust) rfl)
      (fun _ _ link => Agreed p nodeID link) s := by
  have performed : Adoption.perform (.saveNodeTrust nodeID trust) s.2.choice.controller s.2.state.rows =
      (.ok (), (saveNodeTrust nodeID trust s.2.state.rows).2) := by
    simp only [Adoption.perform, Choice.statement, (delivers_now delivers chosen).statement]
    simp [saveNodeTrust, affecting, row]
  refine succeeds_statement () chosen chosen (congrArg Prod.fst performed) ?_
  have agreed := agreed_saved performed holds opens row (.inl rfl)
  rwa [← congrArg Prod.snd performed] at agreed

/-- A statement that leaves the trust succeeds, and what is agreed on stays so. -/
theorem succeeds_keeping {op : ControllerOp} {same : op.Reply = Except RegistryError α} (value : α)
    (chosen : s.2.choices = choices) (keeps : KeepsTrust op) (agreed : Agreed p nodeID s.2.state)
    (replied : (same ▸ (settled p attempt op s).1 : Except RegistryError α) = .ok value) :
    Succeeds p attempt choices (statement op same) (fun _ _ link => Agreed p nodeID link) s := by
  have state : (settled p attempt op s).2.2.choices = s.2.choices ∧ (settled p attempt op s).2.2.state =
      { s.2.state with rows := (Adoption.perform op s.2.choice.controller s.2.state.rows).2 } := by
    cases op with
    | send url body => exact keeps.elim
    | receive => exact keeps.elim
    | _ => exact ⟨rfl, rfl⟩
  refine succeeds_statement value chosen (state.1.trans chosen) replied ?_
  rw [state.2]
  exact agreed_keeps keeps agreed

theorem succeeds_upsertAll {lives : List LiveNode} (named : ∀ live ∈ lives, live.discovered.id ≠ "")
    (chosen : s.2.choices = choices) (agreed : Agreed p nodeID s.2.state) :
    Succeeds p attempt choices (upsertAll lives) (fun _ _ link => Agreed p nodeID link) s := by
  induction lives generalizing s with
  | nil => exact ⟨chosen, (), rfl, agreed⟩
  | cons live rest ih =>
    obtain ⟨own, others⟩ := List.forall_mem_cons.mp named
    refine Succeeds.bind (succeeds_keeping delivers () chosen trivial agreed ?_) ?_
    · change (Adoption.perform (.upsertDiscoveredNode live.discovered) s.2.choice.controller s.2.state.rows).1 = _
      simp only [Adoption.perform, Choice.statement, (delivers_now delivers chosen).statement]
      unfold upsertDiscoveredNode
      rw [if_neg own]
      split_ifs <;> rfl
    · exact fun _ t kept post => ih others kept post

theorem succeeds_snapshot (chosen : s.2.choices = choices) (agreed : Agreed p nodeID s.2.state) :
    Succeeds p attempt choices (Action.always (Program.perform ControllerOp.snapshot))
      (fun lives _ link => (∀ live ∈ lives, live.discovered.id ≠ "") ∧ Agreed p nodeID link) s :=
  succeeds_always chosen chosen ⟨(delivers_now delivers chosen).snapshot, agreed⟩

theorem succeeds_buildNodeResponse (chosen : s.2.choices = choices) (agreed : Agreed p nodeID s.2.state) :
    Succeeds p attempt choices (buildNodeResponse nodeID) (fun _ _ link => Agreed p nodeID link) s := by
  have syncs : Succeeds p attempt choices syncLiveNodes (fun _ _ link => Agreed p nodeID link) s := by
    have listed : (settled p attempt .listNodes s).1 = .ok s.2.state.rows := by
      change (Adoption.perform .listNodes s.2.choice.controller s.2.state.rows).1 = _
      simp only [Adoption.perform, (delivers_now delivers chosen).statement]
    refine Succeeds.bind (succeeds_keeping delivers _ chosen trivial agreed listed) ?_
    intro _ t chosen agreed
    refine Succeeds.bind (succeeds_snapshot delivers chosen agreed) ?_
    rintro lives u chosen ⟨named, agreed⟩
    exact succeeds_upsertAll delivers named chosen agreed
  refine Succeeds.bind syncs ?_
  intro _ t chosen agreed
  have got : ∃ row, (settled p attempt (.getNode nodeID) t).1 = .ok row := by
    obtain ⟨-, -, row, -⟩ := agreed
    obtain ⟨row, found⟩ := Option.isSome_iff_exists.mp row
    refine ⟨row, ?_⟩
    change (Adoption.perform (.getNode nodeID) t.2.choice.controller t.2.state.rows).1 = _
    simp only [Adoption.perform, (delivers_now delivers chosen).statement, getNode, found]
  obtain ⟨row, got⟩ := got
  refine Succeeds.bind (succeeds_keeping delivers row chosen trivial agreed got) ?_
  intro row u chosen agreed
  refine Succeeds.bind (succeeds_snapshot delivers chosen agreed) ?_
  rintro lives v chosen ⟨_, agreed⟩
  have summaries := (delivers_now delivers chosen).listNodeUPSSummaries row.id
  refine Succeeds.bind (succeeds_keeping delivers () chosen trivial agreed summaries) ?_
  intro _ w chosen agreed
  exact ⟨chosen, _, rfl, agreed⟩

/-- What an attempt can be called with where the agent is to accept it. -/
structure Call.Acceptable (call : Call) : Prop where
  caPEM : trimSpace call.caPEM ≠ ""
  host : call.host ≠ ""
  address : call.node.address ≠ ""

omit delivers in
theorem trimSpace_ne_empty {text : String} {c : Char} (member : c ∈ text.toList) (visible : isSpaceRune c = false) :
    trimSpace text ≠ "" := by
  intro blank
  have none_ : trimmed isSpaceRune text.toList = [] := by
    rw [← trimSpace_toList, blank]
    rfl
  rw [trimmed, List.reverse_eq_nil_iff, List.dropWhile_eq_nil_iff] at none_
  have left : text.toList.dropWhile isSpaceRune = [] := by
    cases rest : text.toList.dropWhile isSpaceRune with
    | nil => rfl
    | cons first others =>
      have start := head?_dropWhile (p := isSpaceRune) text.toList first (by simp [rest])
      have space := none_ first (by simp [rest])
      rw [start] at space
      cases space
  rw [List.dropWhile_eq_nil_iff] at left
  have space := left c member
  rw [visible] at space
  cases space

omit delivers in
theorem validate_bodyOf {call : Call} (acceptable : call.Acceptable) {nutPassword apiToken : String}
    (password : trimSpace nutPassword ≠ "") (token : trimSpace apiToken ≠ "") :
    validateAdoptRequest (bodyOf call nutPassword apiToken) = .ok () := by
  have user : trimSpace "controller" ≠ "" := by decide
  have url : trimSpace (controllerURLFromRequest call.host) ≠ "" := by
    unfold controllerURLFromRequest
    rw [if_neg acceptable.host]
    exact trimSpace_ne_empty (c := 'h') (by simp) (by decide)
  simp [validateAdoptRequest, bodyOf, rejectIf, acceptable.caPEM, user, password, token, url]
  rfl

omit delivers in
/-- The agent that has adopted the request serves its API under what it has answered. -/
theorem serves_of_adoptedFor {body : AdoptRequest} {response : AdoptResponse} {node : Node}
    (adopted : AdoptedFor p.adopter body response node) :
    serves p node response.tlsPort body.apiToken response.tlsFingerprint = true := by
  obtain ⟨state, file, same⟩ := adopted.state
  obtain ⟨pair, ⟨certificate, key⟩, fingerprint⟩ := adopted.certificate
  have digest : state.tokenSHA256 = p.adopter.digests.token body.apiToken := by
    simp only [AdoptionState.isFor, Bool.and_eq_true, decide_eq_true_eq] at same
    exact same.1.1.1
  simp [serves, certificate, key, file, fingerprint, adopted.tlsPort, digest]

variable {call : Call}

/-- An attempt whose messages are delivered succeeds with a node that is not adopted. -/
theorem succeeds_adoptNode (acceptable : call.Acceptable) (chosen : s.2.choices = choices)
    (absent : s.2.state.node.files .adoption = none)
    (pair : (∃ pair, Certified s.2.state.node pair) ∨ s.2.state.node.files .certificate = none ∨
      s.2.state.node.files .key = none)
    (row : (find s.2.state.rows call.node.id).isSome = true) (port : p.adopter.tlsPort ≠ 0)
    (unanswered : s.2.state.answers.lookup (attempt, s.1 + 1) = none) :
    Succeeds p attempt choices (adoptNode call.caPEM call.host call.node)
      (fun _ _ link => Agreed p call.node.id link) s := by
  unfold adoptNode
  refine Succeeds.bind (succeeds_randomSecret delivers chosen 24) ?_
  rintro nutPassword t chosen ⟨password, count, state, -⟩
  refine Succeeds.bind (succeeds_randomSecret delivers chosen 32) ?_
  rintro apiToken u chosen ⟨token, count', state', -⟩
  have valid := validate_bodyOf acceptable password token
  have state'' : u.2.state = s.2.state := state'.trans state
  have count'' : u.1 = s.1 := count'.trans count
  rw [← state''] at absent pair row unanswered
  rw [← count''] at unanswered
  have handled := secures_handleAdopt p.adopter valid absent pair
  refine Succeeds.bind (succeeds_adoptExchange delivers chosen handled unanswered 2) ?_
  rintro _ v chosen ⟨response, node, rfl, adopted, state⟩
  have decodes : Succeeds p attempt choices (Action.ofExcept ((replyOf (.ok response)).body.mapError fun e =>
      AdoptError.other (.wrap "decode node adopt response" e))) (fun r _ link => response = r ∧ link = v.2.state) v :=
    ⟨chosen, response, rfl, rfl, rfl⟩
  refine Succeeds.bind decodes ?_
  rintro _ w chosen ⟨rfl, decoded⟩
  have served : serves p w.2.state.node response.tlsPort apiToken response.tlsFingerprint = true := by
    rw [decoded, state]
    exact serves_of_adoptedFor adopted
  have given : call.node.address ≠ "" ∧ response.tlsPort ≠ 0 ∧ apiToken ≠ "" ∧ response.tlsFingerprint ≠ "" := by
    refine ⟨acceptable.address, ?_, ?_, ?_⟩
    · rw [adopted.tlsPort]
      exact port
    · rintro rfl
      exact token rfl
    · obtain ⟨pair, -, same⟩ := adopted.certificate
      rw [same]
      exact p.adopter.digests.certificate_ne pair
  refine Succeeds.bind (succeeds_verify delivers chosen given served) ?_
  intro _ x chosen verified
  refine Succeeds.bind (succeeds_sealString delivers chosen apiToken _) ?_
  rintro sealedToken y chosen ⟨opens, tokenSealed⟩
  refine Succeeds.bind (succeeds_sealString delivers chosen nutPassword _) ?_
  rintro sealedPassword z chosen ⟨-, passwordSealed⟩
  have link : z.2.state = u.2.state.answered attempt u.1 (bodyOf call nutPassword apiToken) node (.ok response) := by
    rw [passwordSealed, tokenSealed, verified, decoded, state]
  have holds : AgentHolds p z.2.state (bodyOf call nutPassword apiToken) := by
    obtain ⟨adoption, file, same⟩ := adopted.state
    refine ⟨adoption, ?_, same⟩
    rw [AdoptedAs, link]
    exact file
  have row' : (find z.2.state.rows call.node.id).isSome = true := by
    rw [link]
    exact row
  refine Succeeds.bind (succeeds_saveNodeTrust delivers chosen row' holds opens) ?_
  intro _ a chosen agreed
  have flagged : (settled p attempt (.setNodeAdopted call.node.id true) a).1 = .ok () := by
    obtain ⟨-, -, there, -⟩ := agreed
    change (Adoption.perform (.setNodeAdopted call.node.id true) a.2.choice.controller a.2.state.rows).1 = _
    simp [Adoption.perform, Choice.statement, (delivers_now delivers chosen).statement, setNodeAdopted, affecting, there]
  refine Succeeds.bind (succeeds_keeping delivers () chosen trivial agreed flagged) ?_
  intro _ b chosen agreed
  refine Succeeds.bind (succeeds_buildNodeResponse delivers chosen agreed) ?_
  intro updated c chosen agreed
  exact ⟨chosen, _, rfl, agreed⟩

/-- An attempt whose messages are delivered is refused by an agent that is adopted, and changes nothing
    but what has been sent. -/
theorem refused_adoptNode (acceptable : call.Acceptable) (chosen : s.2.choices = choices) {state : AdoptionState}
    (adopted : AdoptedAs s.2.state state)
    (other : ∀ n apiToken, (choices n).controller.answer (.randomSecret 32) = .ok apiToken →
      p.adopter.digests.token apiToken ≠ state.tokenSHA256)
    (unanswered : s.2.state.answers.lookup (attempt, s.1 + 1) = none) :
    Action.Holds (settled p attempt) (fun s => s.2.choices = choices) (adoptNode call.caPEM call.host call.node)
      (fun r t => (∃ message, r = .error (.alreadyAdopted message)) ∧ t.2.state.rows = s.2.state.rows ∧
        t.2.state.node = s.2.state.node ∧ t.2.state.results = s.2.state.results) s := by
  unfold adoptNode
  refine Succeeds.bind (succeeds_randomSecret delivers chosen 24) ?_
  rintro nutPassword t chosen ⟨password, count, drawn, -⟩
  refine Succeeds.bind (succeeds_randomSecret delivers chosen 32) ?_
  rintro apiToken u chosen ⟨token, count', drawn', n, answered⟩
  have link : u.2.state = s.2.state := drawn'.trans drawn
  have sent : u.1 = s.1 := count'.trans count
  rw [← link] at adopted unanswered
  rw [← sent] at unanswered
  have fresh : state.isFor p.adopter (bodyOf call nutPassword apiToken) = false := by
    have differs : state.tokenSHA256 ≠ p.adopter.digests.token apiToken := (other n apiToken answered).symm
    simp [AdoptionState.isFor, bodyOf, differs]
  have handled := refuses_handleAdopt p.adopter (validate_bodyOf acceptable password token) adopted fresh
  refine Action.holds_bind.mpr (Action.Holds.mono (refused_adoptExchange delivers chosen handled unanswered 2) ?_)
  rintro r v chosen ⟨⟨message, rfl⟩, answered⟩
  refine ⟨chosen, ⟨message, rfl⟩, ?_⟩
  rw [answered, ← link]
  exact ⟨rfl, rfl, rfl⟩

end Agreement

end Delivering

/-! ## The attempt as a thread -/

/-- Handlers start nothing. -/
theorem handlers_quiet (op : LinkOp) (task : Task) (started : task ∈ (runtime p).starts op) :
    ((runtime p).code task).Only fun op => (runtime p).starts op = [] := by
  have handler (id number : Nat) (body : AdoptRequest) :
      (Task.code p (.handle id number body)).Only fun op => (runtime p).starts op = [] := by
    simp only [Task.code, handleRequest]
    generalize handleAdopt p.adopter body = program
    refine Program.Only.bind (Program.only_perform rfl) ?_
    intro arrived
    split_ifs
    · refine Program.Only.bind (Program.Only.bind (Program.only_relabel fun _ _ => rfl) fun _ => trivial) ?_
      exact fun answer => Program.only_perform rfl
    · trivial
  cases op with
  | attempt id sent op =>
    cases op with
    | send url body =>
      cases List.mem_singleton.mp started
      exact handler id (sent + 1) body
    | _ => cases started
  | _ => cases started

/-- The thread of an attempt is run with the handlers that it starts, and nothing else: it ends with the
    result of `adoptNode` under `settled`. -/
theorem replay_attempt {pool : LinkPool} {i : Nat} {call : Call}
    (waiting : pool.threads[i]? = some ((runtime p).launch (.attempt attempt call)))
    {Q : Except AdoptError AdoptNodeResponse → Link → Prop}
    (holds : Action.Holds (settled p attempt) (fun s => s.2.choices = choices)
      (adoptNode call.caPEM call.host call.node) (fun r t => Q r t.2.state) (0, ⟨pool.state, choices, 0⟩)) :
    ∃ threads pool' result link, replay (runtime p).step pool (turns choices 0 threads) = some pool' ∧
      (∀ j ∈ threads, j = i ∨ pool.threads.length ≤ j) ∧ Q result link ∧
      pool'.state = { link with results := link.results ++ [(attempt, result)] } := by
  have found : pool.threads[i]? = some ⟨.attempt attempt call, (Task.code p (.attempt attempt call)).bind .ret⟩ := by
    rw [waiting, Program.bind_ret]
    rfl
  have total : ∀ op choice link, (runtime p).perform op choice link = some (perform p op choice link) :=
    fun _ _ _ => rfl
  obtain ⟨threads, pool', -, -, own, run, state, -⟩ :=
    Runtime.replay_settled total handlers_quiet found choices 0
  have post := ((Program.holds_iff _ _ _).mp holds).2
  refine ⟨threads, pool', _, _, run, own, post, ?_⟩
  rw [state, Task.code, Program.run_bind, Program.run_relabel]
  rfl

/-- An attempt that has yet to begin has sent nothing, and nothing has been answered to it. -/
theorem untouched_of_waiting {nodeID : String} {places : List (Task × LinkStage)} {pool : LinkPool} {call : Call}
    (staged : Runtime.Staged (Task.next p) Task.ended places pool.threads) (linked : Linked p nodeID places pool.state)
    (waiting : pool.threads[attempt]? = some ((runtime p).launch (.attempt attempt call))) :
    call.node.id = nodeID ∧ ∀ number, pool.state.answers.lookup (attempt, number) = none := by
  obtain ⟨⟨task, stage⟩, there, here⟩ := Runtime.staged_getElem? staged attempt waiting
  cases here.task
  refine ⟨(linked.numbered attempt attempt call stage there).2, ?_⟩
  have unsent : ∀ body, (attempt, body) ∉ pool.state.requests := by
    have fact := linked.facts _ (List.mem_of_getElem? there)
    rcases stage_of_launched here with rfl | ⟨nutPassword, rfl⟩
    · exact fact
    · exact fact
  intro number
  rw [List.lookup_eq_none_iff]
  rintro ⟨⟨id, number'⟩, answer⟩ member
  rw [bne_iff_ne]
  rintro ⟨rfl, rfl⟩
  have sound := linked.answered attempt number answer member
  cases answer with
  | ok response =>
    obtain ⟨body, sent, -⟩ := sound
    exact unsent body sent
  | error refusal =>
    obtain ⟨-, body, sent⟩ := sound
    exact unsent body sent

theorem delivers_smooth : Delivers smooth where
  statement := rfl
  agent := rfl
  arrives := rfl
  delivery := rfl
  seals := rfl
  secret := fun _ => ⟨"secret", rfl, by decide⟩
  newRequest := fun _ => rfl
  health := fun _ _ _ _ => rfl
  snapshot := by simp [smooth, answering, node1]
  listNodeUPSSummaries := fun _ => rfl

theorem acceptable_call1 : call1.Acceptable := ⟨by decide, by decide, by decide⟩

/-- In a run of adoption attempts, an attempt that has yet to begin and whose messages are delivered is refused
    if the agent is adopted with another token: it ends with the error of a node that is already adopted, and
    neither the table nor the agent has changed. -/
theorem delivered_attempt_refused {nodeID : String} {link : Link} {calls : List Call} {schedule : List (Turn Chance)}
    {pool : LinkPool} {call : Call} {state : AdoptionState} (initial : Initial nodeID link)
    (named : ∀ call ∈ calls, call.node.id = nodeID)
    (run : replay (runtime p).step ((runtime p).start link (attempts calls)) schedule = some pool)
    (guarded : Guarded (runtime p).step (fun pool turn => Unclaimed pool turn = true)
      ((runtime p).start link (attempts calls)) schedule)
    (waiting : pool.threads[attempt]? = some ((runtime p).launch (.attempt attempt call)))
    (delivers : ∀ n, Delivers (choices n)) (acceptable : call.Acceptable)
    (adopted : AdoptedAs pool.state state)
    (other : ∀ n apiToken, (choices n).controller.answer (.randomSecret 32) = .ok apiToken →
      p.adopter.digests.token apiToken ≠ state.tokenSHA256) :
    ∃ threads pool' message, replay (runtime p).step pool (turns choices 0 threads) = some pool' ∧
      (∀ j ∈ threads, j = attempt ∨ pool.threads.length ≤ j) ∧
      (attempt, .error (.alreadyAdopted message)) ∈ pool'.state.results ∧
      pool'.state.rows = pool.state.rows ∧ pool'.state.node = pool.state.node := by
  obtain ⟨places, staged, linked⟩ := linked_run initial named run guarded
  obtain ⟨-, unanswered⟩ := untouched_of_waiting staged linked waiting
  obtain ⟨threads, pool', result, link', replayed, turned, ⟨⟨message, rfl⟩, rows, node, -⟩, after⟩ :=
    replay_attempt (Q := fun r link => (∃ message, r = .error (.alreadyAdopted message)) ∧
      link.rows = pool.state.rows ∧ link.node = pool.state.node ∧ link.results = pool.state.results) waiting
      (refused_adoptNode delivers acceptable rfl adopted other (unanswered 1))
  refine ⟨threads, pool', message, replayed, turned, ?_, ?_, ?_⟩
  · rw [after]
    exact List.mem_append_right _ (List.mem_singleton.mpr rfl)
  · rw [after]
    exact rows
  · rw [after]
    exact node

/-- Nothing goes wrong, and other secrets are drawn. -/
def smoothAgain : Chance where
  controller := { answer := fun op => match op with
    | .randomSecret _ => .ok "other"
    | op => answering.answer op }

theorem delivers_smoothAgain : Delivers smoothAgain where
  statement := rfl
  agent := rfl
  arrives := rfl
  delivery := rfl
  seals := rfl
  secret := fun _ => ⟨"other", rfl, by decide⟩
  newRequest := fun _ => rfl
  health := fun _ _ _ _ => rfl
  snapshot := by simp [smoothAgain, answering, node1]
  listNodeUPSSummaries := fun _ => rfl

/-- The agent of the sample node, adopted by the first of two attempts. -/
def adopted1 : AdoptionState := adoptionStateOf adopter1 (bodyOf call1 "secret" "secret") "pair 0" 0

theorem delivered_attempt_refused_of_second : ∃ threads pool pool' message,
    replay (runtime parties1).step ((runtime parties1).start link1 (attempts [call1, call1]))
        (smoothTurns [(0, 4), (2, 23), (0, 13)]) = some pool ∧
      replay (runtime parties1).step pool (turns (fun _ => smoothAgain) 0 threads) = some pool' ∧
      (1, .error (.alreadyAdopted message)) ∈ pool'.state.results := by
  have initial : Initial "n1" link1 := ⟨rfl, rfl, rfl, rfl, rfl⟩
  have named : ∀ call ∈ [call1, call1], call.node.id = "n1" := by simp [call1]
  have first : (replay (runtime parties1).step ((runtime parties1).start link1 (attempts [call1, call1]))
      (smoothTurns [(0, 4), (2, 23), (0, 13)])).map (fun pool => (pool.threads[1]?, pool.state.node.files .adoption)) =
        some (some ((runtime parties1).launch (.attempt 1 call1)), some (.adoption adopted1)) := by rfl
  obtain ⟨pool, run, seen⟩ := Option.map_eq_some_iff.mp first
  obtain ⟨waiting, adopted⟩ := Prod.mk.inj seen
  obtain ⟨threads, pool', message, replayed, -, refused, -, -⟩ :=
    delivered_attempt_refused initial named run (by decide +kernel) waiting (fun _ => delivers_smoothAgain)
      acceptable_call1 adopted (fun n apiToken drawn => by cases drawn; decide)
  exact ⟨threads, pool, pool', message, run, replayed, refused⟩

end Strom.Handshake
