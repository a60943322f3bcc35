import Strom.Adoption.Messages
import Strom.Effects.Stages
import Strom.Registry.Nodes

/-!
# Adopting a node (the controller's `main.go`)

`adoptNode` and the handlers around it as programs.  Their operations are the
statements of the registry, the HTTP exchanges with the node, and what the
surroundings decide: fresh secrets, the state of the request's context, the nodes
that are seen on the network.
-/

namespace Strom.Adoption

open Strom.Go Strom.Effects Strom.Registry

/-- What `client.Do` fails with, as `shouldRetryAdoptTransportError` looks at it. -/
structure TransportError where
  text : String
  canceled : Bool := false
  deadlineExceeded : Bool := false
  /-- `Timeout()`, if the error is a `net.Error`. -/
  netTimeout : Option Bool := none
deriving DecidableEq, Repr, Inhabited

/-- An answer to `POST /adopt`: its status, the error text in its body, and the body
    decoded as a response. -/
structure AdoptReply where
  status : Nat
  errorMessage : String := ""
  body : Except GoError AdoptResponse
deriving Repr

inductive ContextError where
  | canceled
  | deadlineExceeded
deriving DecidableEq, Repr

/-- A text the vault has sealed: nonce and ciphertext in base64, never empty. -/
structure Sealed where
  text : String
  nonempty : text ≠ ""

/-- A node that is seen on the network. -/
structure LiveNode where
  discovered : DiscoveredNode
  adopted : Bool
deriving DecidableEq, Repr

inductive ControllerOp where
  | randomSecret (bytesLen : Nat)
  /-- `http.NewRequestWithContext`, which parses the address. -/
  | newRequest (url : String)
  /-- The two halves of `client.Do`. -/
  | send (url : String) (request : AdoptRequest)
  | receive
  | contextErr
  | waitForRetry (attempt : Nat)
  /-- `GET /api/health` with the token, at the pinned certificate. -/
  | health (address : String) (port : Int) (apiToken fingerprint : String)
  | sealString (value : String)
  | saveNodeTrust (id : String) (trust : Trust)
  | setNodeAdopted (id : String) (adopted : Bool)
  | deleteNode (id : String)
  | listNodes
  /-- `browser.Snapshot`. -/
  | snapshot
  | upsertDiscoveredNode (node : DiscoveredNode)
  | getNode (id : String)
  /-- `ListNodeUPSSummaries`, whose rows only the answer's body shows. -/
  | listNodeUPSSummaries (id : String)
deriving DecidableEq, Repr

@[reducible] def ControllerOp.Reply : ControllerOp → Type
  | .randomSecret _ => Except GoError String
  | .newRequest _ => Except GoError Unit
  | .send _ _ => Unit
  | .receive => Except TransportError AdoptReply
  | .contextErr => Option ContextError
  | .waitForRetry _ => Except ContextError Unit
  | .health _ _ _ _ => Except GoError Unit
  | .sealString _ => Except GoError Sealed
  | .saveNodeTrust _ _ => Except RegistryError Unit
  | .setNodeAdopted _ _ => Except RegistryError Unit
  | .deleteNode _ => Except RegistryError Unit
  | .listNodes => Except RegistryError Rows
  | .snapshot => List LiveNode
  | .upsertDiscoveredNode _ => Except RegistryError Unit
  | .getNode _ => Except RegistryError NodeRow
  | .listNodeUPSSummaries _ => Except RegistryError Unit

instance (op : ControllerOp) : Inhabited op.Reply := by
  cases op <;> exact ⟨default⟩

inductive AdoptError where
  /-- Wraps `errNodeAlreadyAdopted`. -/
  | alreadyAdopted (message : String)
  | registry (e : RegistryError)
  | other (e : GoError)
deriving DecidableEq, Repr

abbrev ControllerProgram := Program ControllerOp ControllerOp.Reply

abbrev ControllerAction := Action ControllerOp ControllerOp.Reply AdoptError

/-- An operation of the registry, whose error ends the caller. -/
def statement (op : ControllerOp) {α : Type} (same : op.Reply = Except RegistryError α) :
    ControllerAction α :=
  Action.ofProgram ((Program.perform op).bind fun reply =>
    .ret ((same ▸ reply : Except RegistryError α).mapError AdoptError.registry))

/-- An operation that fails with an error of its own, wrapped by the caller. -/
def fallible (op : ControllerOp) {α : Type} (same : op.Reply = Except GoError α)
    (wrapping : GoError → GoError) : ControllerAction α :=
  Action.ofProgram ((Program.perform op).bind fun reply =>
    .ret ((same ▸ reply : Except GoError α).mapError fun e => AdoptError.other (wrapping e)))

section Operations

variable {op : ControllerOp} {α Stage : Type} {P : ControllerOp → Prop}
  {next : Stage → (op : ControllerOp) → op.Reply → Option Stage} {stage : Stage}

theorem only_statement (same : op.Reply = Except RegistryError α) (allowed : P op) :
    Action.Only P (statement op same) :=
  ⟨allowed, fun _ => trivial⟩

theorem only_fallible (same : op.Reply = Except GoError α) (wrapping : GoError → GoError)
    (allowed : P op) : Action.Only P (fallible op same wrapping) :=
  ⟨allowed, fun _ => trivial⟩

theorem only_always (allowed : P op) :
    Action.Only P (Action.always (Program.perform op) : ControllerAction op.Reply) :=
  Action.Only.always (Program.only_perform allowed)

end Operations

/-- `nodeResponse`, as far as the handlers look at it. -/
structure NodeResponse where
  id : String
  address : String
  port : Int
  adopted : Bool
  live : Bool
  status : String
deriving DecidableEq, Repr

/-- `adoptNodeResponse`. -/
structure AdoptNodeResponse where
  node : NodeResponse
  tokenSHA256 : String
  nutUser : String
deriving DecidableEq, Repr

/-! ## Discovered nodes -/

def toNodeResponse (row : NodeRow) (live : Option LiveNode) : NodeResponse where
  id := row.id
  address := (live.map (·.discovered.address)).getD row.address
  port := (live.map (·.discovered.port)).getD row.port
  adopted := row.adopted
  live := live.isSome
  status := if row.adopted then (if live.isSome then "adopted-online" else "adopted-offline")
    else "pending"

/-- The loop of `syncLiveNodes`. -/
def upsertAll : List LiveNode → ControllerAction Unit
  | [] => return ()
  | live :: rest => do
    statement (.upsertDiscoveredNode live.discovered) rfl
    upsertAll rest

/-- `a.syncLiveNodes`; the flag `Adopted` it computes is not stored. -/
def syncLiveNodes : ControllerAction Unit := do
  let _ ← statement .listNodes rfl
  let lives ← Action.always (Program.perform ControllerOp.snapshot)
  upsertAll lives

/-- `a.buildNodeResponse`. -/
def buildNodeResponse (id : String) : ControllerAction NodeResponse := do
  syncLiveNodes
  let row ← statement (.getNode id) rfl
  let lives ← Action.always (Program.perform ControllerOp.snapshot)
  statement (.listNodeUPSSummaries row.id) rfl
  return toNodeResponse row (lives.find? fun live => live.discovered.id = id)

/-! ## The exchange with the node -/

def adoptRequestMaxAttempts : Nat := 3

def shouldRetryAdoptTransportError (contextErr : Option ContextError) (e : TransportError) : Bool :=
  if e.canceled then false
  else if contextErr.isSome then false
  else if e.deadlineExceeded then true
  else e.netTimeout.getD true

def shouldRetryAdoptStatus (status : Nat) : Bool := status ∈ [502, 503, 504]

/-- How one iteration of the loop ends: with the answer, or with what `adoptNode` fails
    with unless it tries `again`. -/
inductive Attempt where
  | accepted (reply : AdoptReply)
  | rejected (e : AdoptError) (again : Bool)

def rejection (reply : AdoptReply) : AdoptError :=
  if reply.errorMessage ≠ "" then .other (.text ("node adopt rejected: " ++ reply.errorMessage))
  else .other (.text ("node adopt rejected with status " ++ toString reply.status))

/-- One iteration, up to the wait before the next one. -/
def adoptAttempt (url : String) (request : AdoptRequest) (last : Bool) :
    ControllerAction Attempt := do
  fallible (.newRequest url) rfl id
  Action.always (Program.perform (ControllerOp.send url request))
  match ← Action.always (Program.perform ControllerOp.receive) with
  | .error e =>
    let failed := AdoptError.other (.wrap "call node adopt endpoint" (.text e.text))
    if last then return .rejected failed false
    else
      let contextErr ← Action.always (Program.perform ControllerOp.contextErr)
      return .rejected failed (shouldRetryAdoptTransportError contextErr e)
  | .ok reply =>
    if reply.status = 200 then return .accepted reply
    else if reply.status = 409 then
      let message := if reply.errorMessage = "" then "node already adopted" else reply.errorMessage
      return .rejected (.alreadyAdopted message) false
    else return .rejected (rejection reply) (!last && shouldRetryAdoptStatus reply.status)

/-- The loop of `adoptNode`, with `left` attempts left after the next one. -/
def adoptExchange (url : String) (request : AdoptRequest) : (left : Nat) → ControllerAction AdoptReply
  | 0 => do
    match ← adoptAttempt url request true with
    | .accepted reply => return reply
    | .rejected e _ => throw e
  | left + 1 => do
    match ← adoptAttempt url request false with
    | .accepted reply => return reply
    | .rejected e false => throw e
    | .rejected e true =>
      match ← Action.always (Program.perform
        (ControllerOp.waitForRetry (adoptRequestMaxAttempts - (left + 1)))) with
      | .ok _ => adoptExchange url request left
      | .error _ => throw e

/-- `a.verifyPinnedNodeHealth`. -/
def verifyPinnedNodeHealth (address : String) (port : Int) (apiToken fingerprint : String) :
    ControllerAction Unit := do
  if address = "" ∨ port = 0 ∨ apiToken = "" ∨ fingerprint = "" then
    throw (.other (.wrap "verify node TLS API" (.text "missing TLS verification inputs")))
  else fallible (.health address port apiToken fingerprint) rfl (.wrap "verify node TLS API")

def controllerURLFromRequest (host : String) : String :=
  if host = "" then "" else "http://" ++ host

def adoptURL (node : NodeResponse) : String :=
  "http://" ++ node.address ++ ":" ++ toString node.port ++ "/adopt"

/-- `a.adoptNode`, for a request that came in under the name `host`. -/
def adoptNode (caPEM host : String) (node : NodeResponse) : ControllerAction AdoptNodeResponse := do
  let nutPassword ← fallible (.randomSecret 24) rfl id
  let apiToken ← fallible (.randomSecret 32) rfl id
  let request : AdoptRequest := { caPEM, nutUser := "controller", nutPassword, apiToken,
                                  controllerURL := controllerURLFromRequest host }
  let reply ← adoptExchange (adoptURL node) request (adoptRequestMaxAttempts - 1)
  let response ← Action.ofExcept (reply.body.mapError fun e =>
    .other (.wrap "decode node adopt response" e))
  verifyPinnedNodeHealth node.address response.tlsPort apiToken response.tlsFingerprint
  let sealedToken ← fallible (.sealString apiToken) rfl (.wrap "seal node api token")
  let sealedPassword ← fallible (.sealString nutPassword) rfl (.wrap "seal node NUT password")
  statement (.saveNodeTrust node.id
    { controllerURL := request.controllerURL
      tlsPort := response.tlsPort
      tlsFingerprint := response.tlsFingerprint
      nutUser := request.nutUser
      apiTokenEnc := sealedToken.text
      nutPasswordEnc := sealedPassword.text }) rfl
  statement (.setNodeAdopted node.id true) rfl
  let updated ← buildNodeResponse node.id
  return { node := { updated with adopted := true, status := "adopted-online" }
           tokenSHA256 := response.tokenSHA256
           nutUser := request.nutUser }

/-! ## The handlers -/

/-- What a handler answers: a status, with the error's text or the adopted node. -/
inductive Answer where
  | error (status : Nat) (message : String)
  | adopted (response : AdoptNodeResponse)
  | noContent
deriving DecidableEq, Repr

def RegistryError.message : RegistryError → String
  | .nodeNotFound => "node not found"
  | .other e => e.message

def AdoptError.message : AdoptError → String
  | .alreadyAdopted message => "node already adopted: " ++ message
  | .registry e => RegistryError.message e
  | .other e => e.message

/-- The status of a failed registry operation. -/
def AdoptError.lookupStatus : AdoptError → Nat
  | .registry .nodeNotFound => 404
  | _ => 500

/-- The status of a failed adoption. -/
def AdoptError.adoptStatus : AdoptError → Nat
  | .alreadyAdopted _ => 409
  | _ => 502

/-- `handleAdoptNode`, for the id in its path. -/
def handleAdoptNode (caPEM host id : String) : ControllerProgram Answer := do
  if id = "" then return .error 404 "404 page not found"
  match ← Action.toProgram (buildNodeResponse id) with
  | .error e => return .error e.lookupStatus e.message
  | .ok node =>
    if !node.live || node.address = "" || node.port = 0 then
      return .error 502 "node is not currently reachable for adoption"
    match ← Action.toProgram (adoptNode caPEM host node) with
    | .error e => return .error e.adoptStatus e.message
    | .ok response => return .adopted response

/-- `handleForgetNode`, for the id in its path. -/
def handleForgetNode (id : String) : ControllerProgram Answer := do
  if id = "" || id.toList.contains '/' then return .error 404 "404 page not found"
  match ← Action.toProgram (statement (.deleteNode id) rfl) with
  | .error e => return .error e.lookupStatus e.message
  | .ok _ => return .noContent

end Strom.Adoption
