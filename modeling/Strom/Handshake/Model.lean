import Strom.Adoption.Trusted
import Strom.Agent.Adopt
import Strom.Effects.Relabel

/-!
# Both sides of an adoption

The controller's `adoptNode` and the agent's handler of `POST /adopt` as threads over the table of
nodes, the agent's files and the messages between them.  Each request of an attempt starts a
handler, which begins when the request comes in, if it is not lost.  An attempt that receives
before its request is answered has run into the timeout of the client, so that the schedule decides
how long a message takes.
-/

namespace Strom.Handshake

open Strom.Go Strom.Effects Strom.Registry Strom.Adoption Strom.Agent

/-- The controller's secure store: what is sealed, under any nonce, is opened again. -/
structure Vault where
  sealString : (nonce : Nat) → String → Sealed
  openString : String → Except GoError String
  open_seal : ∀ nonce value, openString (sealString nonce value).text = .ok value

structure Parties where
  adopter : RuntimeAdopter
  /-- `cfg.httpAuth` of the agent. -/
  httpAuth : Bool := true
  vault : Vault

inductive LinkOp where
  /-- An operation of an attempt that has sent so many requests. -/
  | attempt (id sent : Nat) (op : ControllerOp)
  /-- A request comes in at the agent or is lost. -/
  | arrive
  | agent (op : AgentOp)
  /-- The agent answers a request of an attempt. -/
  | answer (id request : Nat) (answer : AdoptAnswer)
  /-- `adoptNode` returns. -/
  | finish (id : Nat) (result : Except AdoptError AdoptNodeResponse)

@[reducible] def LinkOp.Reply : LinkOp → Type
  | .attempt _ _ op => op.Reply
  | .arrive => Bool
  | .agent op => op.Reply
  | .answer _ _ _ => Unit
  | .finish _ _ => Unit

/-! ## Their effect -/

structure Link where
  rows : Rows := []
  node : Node := {}
  /-- The requests that have been sent, with the attempts that sent them. -/
  requests : List (Nat × AdoptRequest) := []
  /-- The answers that have been given, by attempt and request. -/
  answers : List ((Nat × Nat) × AdoptAnswer) := []
  results : List (Nat × Except AdoptError AdoptNodeResponse) := []

/-- What becomes of an answer on its way. -/
inductive Delivery where
  | delivered
  | failed (e : TransportError)
  /-- Something on the way answers with an error. -/
  | refused (status : Nat) (message : String) (isError : status ≠ 200)

structure Chance where
  controller : Choice
  agent : Agent.Chance := {}
  /-- Whether a request is lost on its way. -/
  lost : Bool := false
  delivery : Delivery := .delivered
  nonce : Nat := 0
  sealFault : Option GoError := none

/-- What `client.Do` fails with once its timeout is over. -/
def clientTimeout : TransportError where
  text := "context deadline exceeded (Client.Timeout exceeded while awaiting headers)"
  deadlineExceeded := true
  netTimeout := some true

/-- An answer, as the controller reads it. -/
def replyOf : AdoptAnswer → AdoptReply
  | .ok response => { status := 200, body := .ok response }
  | .error (status, message) =>
    { status, errorMessage := trimSpace message, body := .error (.text "no response") }

def Delivery.received : Delivery → Option AdoptAnswer → Except TransportError AdoptReply
  | .failed e, _ => .error e
  | .refused status message _, _ =>
    .ok { status, errorMessage := trimSpace message, body := .error (.text "no response") }
  | .delivered, none => .error clientTimeout
  | .delivered, some answer => .ok (replyOf answer)

/-- Whether the agent's TLS API presents the certificate with the fingerprint and accepts the
    token: `DynamicCertificateLoader`, `VerifyPeerCertificate` and `requireReadAccess`. -/
def serves (p : Parties) (node : Node) (port : Int) (apiToken fingerprint : String) : Bool :=
  (match node.files .certificate, node.files .key with
    | some (.certificate pair), some (.key pair') =>
      pair = pair' && p.adopter.digests.certificate pair = fingerprint
    | _, _ => false) &&
  port = p.adopter.tlsPort &&
  (!p.httpAuth || match node.files .adoption with
    | some (.adoption state) => state.tokenSHA256 = p.adopter.digests.token apiToken
    | _ => false)

variable (p : Parties)

def perform : (op : LinkOp) → Chance → Link → op.Reply × Link
  | .attempt id _ (.send _ request), _, link =>
    ((), { link with requests := link.requests ++ [(id, request)] })
  | .attempt id sent .receive, chance, link =>
    (chance.delivery.received (link.answers.lookup (id, sent)), link)
  | .attempt _ _ (.health address port apiToken fingerprint), chance, link =>
    (match chance.controller.answer (.health address port apiToken fingerprint) with
      | .error e => .error e
      | .ok _ => if serves p link.node port apiToken fingerprint then .ok ()
          else .error (.text "unexpected status 401"), link)
  | .attempt _ _ (.sealString value), chance, link =>
    (match chance.sealFault with
      | some e => .error e
      | none => .ok (p.vault.sealString chance.nonce value), link)
  | .attempt _ _ op, chance, link =>
    ((Adoption.perform op chance.controller link.rows).1,
      { link with rows := (Adoption.perform op chance.controller link.rows).2 })
  | .arrive, chance, link => (!chance.lost, link)
  | .agent op, chance, link =>
    ((Agent.perform op chance.agent link.node).1,
      { link with node := (Agent.perform op chance.agent link.node).2 })
  | .answer id request answer, _, link =>
    ((), { link with answers := link.answers ++ [((id, request), answer)] })
  | .finish id result, _, link => ((), { link with results := link.results ++ [(id, result)] })

/-! ## Threads -/

/-- What `adoptNode` is called with. -/
structure Call where
  caPEM : String
  host : String
  node : NodeResponse
deriving DecidableEq, Repr

inductive Task where
  | attempt (id : Nat) (call : Call)
  /-- The handler of the request of that number of the attempt. -/
  | handle (id request : Nat) (body : AdoptRequest)
deriving DecidableEq, Repr

/-- The operations of an attempt, with the number of requests so far. -/
def attemptLabels (id : Nat) : Relabeling ControllerOp ControllerOp.Reply LinkOp LinkOp.Reply Nat where
  op := fun sent op => .attempt id sent op
  after := fun sent op => match op with
    | .send _ _ => sent + 1
    | _ => sent
  reply := fun _ _ reply => reply

def agentLabels : Relabeling AgentOp AgentOp.Reply LinkOp LinkOp.Reply Unit where
  op := fun _ op => .agent op
  after := fun _ _ => ()
  reply := fun _ _ reply => reply

abbrev LinkProgram := Program LinkOp LinkOp.Reply

def handleRequest (body : AdoptRequest) : LinkProgram AdoptAnswer :=
  ((handleAdopt p.adopter body).relabel agentLabels ()).bind fun answered => .ret answered.1

def Task.code : Task → LinkProgram Unit
  | .attempt id call =>
    ((Action.toProgram (adoptNode call.caPEM call.host call.node)).relabel (attemptLabels id) 0).bind fun returned =>
      Program.perform (LinkOp.finish id returned.1)
  | .handle id request body =>
    (Program.perform LinkOp.arrive).bind fun arrived =>
      if arrived then (handleRequest p body).bind fun answer => Program.perform (LinkOp.answer id request answer)
      else .ret ()

/-- A request that is sent is handled as the one after those sent before. -/
def LinkOp.starts : LinkOp → List Task
  | .attempt id sent (.send _ body) => [.handle id (sent + 1) body]
  | _ => []

def runtime : Runtime Task LinkOp LinkOp.Reply Chance Link where
  code := Task.code p
  perform := fun op chance link => some (perform p op chance link)
  starts := LinkOp.starts

abbrev LinkPool := Pool Link (Thread Task LinkOp LinkOp.Reply)

/-- The attempts, numbered as they are listed. -/
def attempts (calls : List Call) : List Task := calls.mapIdx Task.attempt

/-- No exchange is in progress: each thread is through, or is an attempt that has yet to begin. -/
def Quiet (pool : LinkPool) : Prop :=
  ∀ thread ∈ pool.threads, thread.op? = none ∨ ∃ id call, thread = (runtime p).launch (.attempt id call)

/-! ## What the two parties hold -/

/-- The agent is adopted, with this state. -/
def AdoptedAs (link : Link) (state : AdoptionState) : Prop :=
  link.node.files .adoption = some (.adoption state)

/-- The agent's adoption is that of a request of the attempt. -/
def AdoptedBy (link : Link) (id : Nat) : Prop :=
  ∃ state body, AdoptedAs link state ∧ (id, body) ∈ link.requests ∧ state.isFor p.adopter body = true

/-- The trust that is stored for a node holds a token that the agent accepts. -/
def Agreed (nodeID : String) (link : Link) : Prop :=
  ∃ state, AdoptedAs link state ∧ (find link.rows nodeID).isSome = true ∧
    ∀ row ∈ link.rows, row.id = nodeID → ∃ apiToken, p.vault.openString row.trust.apiTokenEnc = .ok apiToken ∧
      p.adopter.digests.token apiToken = state.tokenSHA256

/-! ## A sample node -/

/-- A vault that seals by putting a mark in front. -/
def vault1 : Vault where
  sealString := fun _ value => { text := "#" ++ value, nonempty := by simp }
  openString := fun text => .ok (String.ofList (text.toList.drop 1))
  open_seal := by simp

def parties1 : Parties where
  adopter := adopter1
  vault := vault1

def link1 : Link where
  rows := [node1.row]

def call1 : Call where
  caPEM := "ca"
  host := "strom"
  node :=
    { id := "n1"
      address := "10.0.0.7"
      port := 8080
      adopted := false
      live := true
      status := "pending" }

/-- Nothing goes wrong. -/
def smooth : Chance where
  controller := answering

/-- Turns of these threads, so many of each, in which nothing goes wrong. -/
def smoothTurns (counts : List (Nat × Nat)) : List (Turn Chance) :=
  counts.flatMap fun (thread, count) => List.replicate count ⟨thread, smooth⟩

end Strom.Handshake
