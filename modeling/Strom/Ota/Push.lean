import Strom.Api.ControllerUpdates
import Strom.Effects.Triples
import Strom.Go.Paths
import Strom.Registry.Nodes

/-!
# Updates pushed by the controller (`main.go`)

`strom-controller ota` as a program whose one request is served by the agent.  The connection is pinned to the
certificate that the adoption has stored; whether a request arrives, what the agent meets while it serves it and
whether its answer comes back is chosen by the surroundings.
-/

namespace Strom.Ota

open Strom.Go Strom.Effects Strom.Registry Strom.Api

/-- The arguments of the command. -/
structure OtaConfig where
  dataDir : String
  nodeID : String
  binaryPath : String
  version : String
deriving DecidableEq, Repr

structure AgentOtaUpdateResponse where
  status : String
  version : String
  sha256 : String
  restartRequired : Bool
deriving DecidableEq, Repr

/-- What `client.Do` returns: the status, `decodeNodeError` and the decoded body. -/
structure NodeReply where
  status : Nat
  errorMessage : String
  body : Except GoError AgentOtaUpdateResponse

inductive PushError where
  | nodeNotFound
  | upsNotFound
  /-- `errTrustedNodeUnauthorized`, with the status. -/
  | unauthorized (status : Nat)
  | fingerprintDrift
  | other (e : GoError)
deriving DecidableEq, Repr

inductive PushOp where
  /-- `ca.Ensure`, `securestore.Ensure` and `registry.Open`. -/
  | ensureAuthority (dataDir : String)
  | ensureVault (dataDir : String)
  | openRegistry (path : String)
  /-- `os.Stat`, and whether the file is a regular one. -/
  | stat (path : String)
  | readFile (path : String)
  | signSHA256Digest (digest : Bytes)
  | getNode (id : String)
  | loadNodeTrust (id : String)
  | openString (value : String)
  | newRequest (url : String)
  /-- `client.Do` with a client of `pinnedNodeClient`. -/
  | do_ (url fingerprint : String) (request : Request)

@[reducible] def PushOp.Reply : PushOp → Type
  | .ensureAuthority _ => Except GoError Unit
  | .ensureVault _ => Except GoError Unit
  | .openRegistry _ => Except GoError Unit
  | .stat _ => Except GoError Bool
  | .readFile _ => Except GoError Bytes
  | .signSHA256Digest _ => Except GoError Bytes
  | .getNode _ => Except RegistryError NodeRow
  | .loadNodeTrust _ => Except RegistryError Trust
  | .openString _ => Except GoError String
  | .newRequest _ => Except GoError Unit
  | .do_ _ _ _ => Except PushError NodeReply

abbrev PushAction := Action PushOp PushOp.Reply PushError

/-- A call whose error is passed on in a form of its own. -/
def call {α ε : Type} (wrap : ε → PushError) (op : PushOp) (kind : op.Reply = Except ε α) : PushAction α := do
  let reply ← Action.always (Program.perform op)
  Action.ofExcept ((cast kind reply).mapError wrap)

/-- A call whose error is wrapped. -/
def plain {α : Type} (wrap : GoError → GoError) (op : PushOp) (kind : op.Reply = Except GoError α) : PushAction α :=
  call (fun e => .other (wrap e)) op kind

def registryError : RegistryError → PushError
  | .nodeNotFound => .nodeNotFound
  | .other e => .other e

/-- A query whose error is returned as it is. -/
def query {α : Type} (op : PushOp) (kind : op.Reply = Except RegistryError α) : PushAction α :=
  call registryError op kind

def fail {α : Type} (message : String) : PushAction α := throw (.other (.text message))

def failIf (condition : Prop) [Decidable condition] (message : String) : PushAction Unit :=
  if condition then fail message else return ()

/-! ## Trusted requests -/

/-- The request, as it is sent. -/
def trustedRequest (method path apiToken : String) (payload : Option Body) : Request where
  method
  rawPath := utf8 path
  authorization := "Bearer " ++ apiToken
  accept := "application/json"
  contentType := if payload.isSome then "application/json" else ""
  body := payload.getD {}

def nodeURL (address : String) (tlsPort : Int) (path : String) : String :=
  "https://" ++ address ++ ":" ++ toString tlsPort ++ path

/-- What the answer of a node is taken for. -/
def checkReply (path : String) (reply : NodeReply) : Except PushError AgentOtaUpdateResponse :=
  if reply.status = 401 ∨ reply.status = 403 then .error (.unauthorized reply.status)
  else if reply.status = 404 then
    if hasPrefix path "/api/ups/" then .error .upsNotFound
    else .error (.other (.text ("trusted node request rejected with status " ++ toString reply.status)))
  else if reply.status < 200 ∨ 300 ≤ reply.status then
    if reply.errorMessage ≠ "" then .error (.other (.text ("trusted node request rejected: " ++ reply.errorMessage)))
    else .error (.other (.text ("trusted node request rejected with status " ++ toString reply.status)))
  else reply.body.mapError fun e => .other (.wrap "decode trusted node response" e)

def doTrustedNodeJSON (nodeID method path : String) (payload : Option Body) : PushAction AgentOtaUpdateResponse := do
  let node ← query (.getNode nodeID) rfl
  let trust ← query (.loadNodeTrust nodeID) rfl
  let apiToken ← plain (.wrap "open stored node api token") (.openString trust.apiTokenEnc) rfl
  let url := nodeURL node.address trust.tlsPort path
  plain id (.newRequest url) rfl
  let request := trustedRequest method path apiToken payload
  let answer ← Action.always (Program.perform (PushOp.do_ url trust.tlsFingerprint request))
  let reply ← Action.ofExcept answer
  Action.ofExcept (checkReply path reply)

/-! ## The command -/

/-- `sha256.Sum256`. -/
def updateRequest (sha256 : Bytes → Bytes) (versionText : String) (binaryPayload signature : Bytes) :
    OtaUpdateRequest where
  version := versionText
  binaryBase64 := base64Encode binaryPayload
  sha256 := hexEncode (sha256 binaryPayload)
  signatureBase64 := base64Encode signature

def pushTrustedAgentUpdate (sha256 : Bytes → Bytes) (nodeID binaryPath versionText : String) :
    PushAction AgentOtaUpdateResponse := do
  let isRegular ← plain (.wrap "stat binary payload") (.stat binaryPath) rfl
  failIf (¬ isRegular) ("binary payload is not a regular file: " ++ binaryPath)
  let binaryPayload ← plain (.wrap "read binary payload") (.readFile binaryPath) rfl
  failIf (binaryPayload.length = 0) ("binary payload is empty: " ++ binaryPath)
  let signature ← plain (.wrap "sign ota payload digest") (.signSHA256Digest (sha256 binaryPayload)) rfl
  doTrustedNodeJSON nodeID "POST" "/api/agent/update"
    (some { otaUpdate := .ok (updateRequest sha256 versionText binaryPayload signature) })

/-- `filepath.Join` leaves out an empty directory. -/
def controllerDBPath (dataDir : String) : String :=
  let directory := trimSpace dataDir
  pathClean (if directory = "" then "controller.db" else directory ++ "/controller.db")

def runOTACommand (sha256 : Bytes → Bytes) (cfg : OtaConfig) : PushAction AgentOtaUpdateResponse := do
  let nodeID := trimSpace cfg.nodeID
  failIf (nodeID = "") "node-id is required"
  let binaryPath := trimSpace cfg.binaryPath
  failIf (binaryPath = "") "binary path is required"
  let versionText := trimSpace cfg.version
  failIf (versionText = "") "version is required"
  plain (.wrap "ensure controller CA") (.ensureAuthority cfg.dataDir) rfl
  plain (.wrap "ensure secure store") (.ensureVault cfg.dataDir) rfl
  plain (.wrap "open registry") (.openRegistry (controllerDBPath cfg.dataDir)) rfl
  pushTrustedAgentUpdate sha256 nodeID binaryPath versionText

/-! ## The two hosts -/

inductive FileEntry where
  | regular (content : Bytes)
  | other
deriving DecidableEq, Repr

/-- The agent with its certificate, and what the controller signs and opens its secrets with. -/
structure Hosts where
  agent : Service
  fingerprint : String
  /-- A signature takes a number that is drawn for it. -/
  sign : Nat → Bytes → Bytes
  openString : String → Except GoError String

structure Site where
  files : String → Option FileEntry
  rows : Rows
  agent : AgentState
  /-- The operations that replaced the agent, in their order. -/
  replaced : List ApiOp := []

inductive Exchange where
  /-- No request is sent, or none arrives. -/
  | unreached (e : GoError)
  /-- A host with that certificate answers.  Where it is the agent, it serves the request with these choices, and
      its answer may be lost. -/
  | reached (presented : String) (choices : Nat → ApiChoice) (lost : Option GoError)
    (stranger : Except PushError NodeReply)

structure Chance where
  /-- The error of an operation other than the request. -/
  fault : Option GoError := none
  nonce : Nat := 0
  exchange : Exchange

/-- The answer of a handler, whether it returned early or not. -/
def responseOf : Except Response Response → Response
  | .ok response => response
  | .error response => response

/-- The answer to the request, as the controller reads it: the body of a success is that of an `otaUpdateResponse`. -/
def replyOf (request : Request) (response : Response) : NodeReply where
  status := response.status
  errorMessage := trimSpace response.text
  body := match response.status, request.body.otaUpdate with
    | 200, .ok update => .ok
        { status := "applied"
          version := trimSpace update.version
          sha256 := toLower (trimSpace update.sha256)
          restartRequired := true }
    | _, _ => .error (.text "EOF")

variable (hosts : Hosts)

/-- An operation that may fail, and changes nothing. -/
def orFault {α : Type} (chance : Chance) (result : Except GoError α) : Except GoError α :=
  match chance.fault with
  | some e => .error e
  | none => result

def entryOf (site : Site) (path : String) : Except GoError FileEntry :=
  match site.files path with
  | some entry => .ok entry
  | none => .error (.os .notExist)

/-- A request that the agent serves. -/
def serveRequest (request : Request) (choices : Nat → ApiChoice) (site : Site) : Response × Site :=
  let g : ApiTrial := { state := site.agent, choices }
  let outcome := Action.exec (handler hosts.agent) (serve hosts.agent request) g
  (responseOf outcome.1,
    { site with
      agent := outcome.2.state
      replaced := site.replaced ++ upgradesOf hosts.agent (serve hosts.agent request) g })

def performExchange (fingerprint : String) (request : Request) (exchange : Exchange) (site : Site) :
    Except PushError NodeReply × Site :=
  match exchange with
  | .unreached e => (.error (.other e), site)
  | .reached presented choices lost stranger =>
    if presented ≠ fingerprint then (.error .fingerprintDrift, site)
    else if presented ≠ hosts.fingerprint then (stranger, site)
    else
      let served := serveRequest hosts request choices site
      (match lost with
        | some e => .error (.other e)
        | none => .ok (replyOf request served.1), served.2)

def queryRows {α : Type} (chance : Chance) (result : Except RegistryError α) : Except RegistryError α :=
  match chance.fault with
  | some e => .error (.other e)
  | none => result

def perform : (op : PushOp) → Chance → Site → op.Reply × Site
  | .ensureAuthority _, chance, site => (orFault chance (.ok ()), site)
  | .ensureVault _, chance, site => (orFault chance (.ok ()), site)
  | .openRegistry _, chance, site => (orFault chance (.ok ()), site)
  | .stat path, chance, site =>
    (orFault chance ((entryOf site path).map fun | .regular _ => true | .other => false), site)
  | .readFile path, chance, site =>
    (orFault chance (match entryOf site path with
      | .ok (.regular content) => .ok content
      | .ok .other => .error (.text "is a directory")
      | .error e => .error e), site)
  | .signSHA256Digest digest, chance, site => (orFault chance (.ok (hosts.sign chance.nonce digest)), site)
  | .getNode id, chance, site => (queryRows chance (getNode id site.rows), site)
  | .loadNodeTrust id, chance, site => (queryRows chance ((getNode id site.rows).map (·.trust)), site)
  | .openString value, chance, site => (orFault chance (hosts.openString value), site)
  | .newRequest _, chance, site => (orFault chance (.ok ()), site)
  | .do_ _ fingerprint request, chance, site => performExchange hosts fingerprint request chance.exchange site

/-- A run of the command. -/
def runPush (cfg : OtaConfig) (g : Guided Site Chance) : Except PushError AgentOtaUpdateResponse × Site :=
  let outcome := Action.exec (guide (perform hosts)) (runOTACommand hosts.agent.signatures.sha256 cfg) g
  (outcome.1, outcome.2.state)

end Strom.Ota
