import Strom.Ota.Push

/-!
# What a push brings about

Whatever fails and whoever answers, an agent stages nothing but the binary that was pushed, under the version that
was given; and the command succeeds only if the pinned agent has it in place.
-/

namespace Strom.Ota

open Strom.Go Strom.Effects Strom.Registry Strom.Api

variable {hosts : Hosts} {site site₀ : Site} {α β : Type} {version : String} {binary : Bytes}

/-! ## The request -/

/-- The request of a push. -/
def otaRequest (hosts : Hosts) (apiToken version : String) (binary signature : Bytes) : Request :=
  trustedRequest "POST" "/api/agent/update" apiToken
    (some { otaUpdate := .ok (updateRequest hosts.agent.signatures.sha256 version binary signature) })

/-- What the body describes is what was pushed. -/
theorem describes_updateRequest {p : Signatures} {version version' : String} {binary binary' signature signature' : Bytes}
    (describes : (updateRequest p.sha256 version binary signature).Describes p version' binary' signature') :
    version' = trimSpace version ∧ binary' = binary := by
  refine ⟨describes.versionIs.symm, ?_⟩
  have read := describes.binaryIs
  rw [updateRequest, trimSpace_base64Encode, base64Decode_encode] at read
  exact (Except.ok.inj read).symm

/-- The agent replaces nothing, or stages the update; where the store takes it, it restarts. -/
inductive Pushed (version : String) (binary : Bytes) : List ApiOp → Prop where
  | nothing : Pushed version binary []
  | notTaken : Pushed version binary [.stageAndActivate version binary]
  | taken : Pushed version binary [.stageAndActivate version binary, .restartAgentAsync]

theorem otaRequest_rawPath {apiToken : String} {signature : Bytes} :
    (otaRequest hosts apiToken version binary signature).rawPath = utf8 "/api/agent/update" := by
  simp only [otaRequest, trustedRequest]

theorem otaRequest_otaUpdate {apiToken : String} {signature : Bytes} :
    (otaRequest hosts apiToken version binary signature).body.otaUpdate =
      .ok (updateRequest hosts.agent.signatures.sha256 version binary signature) := by
  simp only [otaRequest, trustedRequest, Option.getD_some]

theorem otaRequest_sessionCookie {apiToken : String} {signature : Bytes} :
    (otaRequest hosts apiToken version binary signature).sessionCookie = none := by
  simp only [otaRequest, trustedRequest]

theorem pushed_of_upgraded {apiToken : String} {signature : Bytes} {g : ApiTrial} {replaced : List ApiOp}
    (trimmed : trimSpace version = version)
    (upgraded : Upgraded hosts.agent (otaRequest hosts apiToken version binary signature) g replaced) :
    Pushed version binary replaced := by
  have same : ∀ {version' : String} {binary' : Bytes},
      ControllerSigned hosts.agent (otaRequest hosts apiToken version binary signature) g version' binary' →
        version' = version ∧ binary' = binary := by
    intro version' binary' ⟨_, adoption, request, signature', _, body, describes, _⟩
    rw [otaRequest_otaUpdate] at body
    obtain rfl := Except.ok.inj body
    obtain ⟨rfl, rfl⟩ := describes_updateRequest describes
    exact ⟨trimmed, rfl⟩
  have noSession : ¬ HasSession (otaRequest hosts apiToken version binary signature) g := by
    intro ⟨_, _, cookie, _⟩
    rw [otaRequest_sessionCookie] at cookie
    cases cookie
  cases upgraded with
  | untouched => exact .nothing
  | notStaged signed =>
    obtain ⟨rfl, rfl⟩ := same signed
    exact .notTaken
  | staged signed =>
    obtain ⟨rfl, rfl⟩ := same signed
    exact .taken
  | notInstalled session => exact absurd session noSession
  | installed session => exact absurd session noSession

/-- The site after the request of a push: at most the agent has changed. -/
structure Sent (version : String) (binary : Bytes) (site₀ site : Site) (replaced : List ApiOp) : Prop where
  files : site.files = site₀.files
  rows : site.rows = site₀.rows
  log : site.replaced = site₀.replaced ++ replaced
  pushed : Pushed version binary replaced

theorem Sent.refl (version : String) (binary : Bytes) (site : Site) : Sent version binary site site [] where
  files := rfl
  rows := rfl
  log := (List.append_nil _).symm
  pushed := .nothing

/-- What the operations are once the update is in place. -/
abbrev inPlace (version : String) (binary : Bytes) : List ApiOp :=
  [.stageAndActivate version binary, .restartAgentAsync]

theorem serveRequest_eq (request : Request) (choices : Nat → ApiChoice) (site : Site) :
    serveRequest hosts request choices site =
      (responseOf (Action.exec (handler hosts.agent) (serve hosts.agent request) { state := site.agent, choices }).1,
        { site with
          agent := (Action.exec (handler hosts.agent) (serve hosts.agent request)
            { state := site.agent, choices }).2.state
          replaced := site.replaced ++
            upgradesOf hosts.agent (serve hosts.agent request) { state := site.agent, choices } }) := by
  unfold serveRequest
  dsimp only

/-- The agent serves the request; a success says that the update is in place. -/
theorem serveRequest_sent (enabled : hosts.agent.auth.enabled = true) (trimmed : trimSpace version = version)
    (apiToken : String) (signature : Bytes) (choices : Nat → ApiChoice) (site : Site) :
    ∃ replaced, Sent version binary site
        (serveRequest hosts (otaRequest hosts apiToken version binary signature) choices site).2 replaced ∧
      ((serveRequest hosts (otaRequest hosts apiToken version binary signature) choices site).1.status < 400 →
        replaced = inPlace version binary) := by
  obtain ⟨request, requestIs⟩ : ∃ request, request = otaRequest hosts apiToken version binary signature := ⟨_, rfl⟩
  have served : serve hosts.agent request = handleAgentUpdate hosts.agent request :=
    serve_update (requestIs ▸ otaRequest_rawPath)
  have pushed : Pushed version binary
      (upgradesOf hosts.agent (handleAgentUpdate hosts.agent request) { state := site.agent, choices }) := by
    rw [requestIs]
    exact pushed_of_upgraded trimmed (upgraded_handleAgentUpdate enabled)
  have answered := answered_handleAgentUpdate (s := hosts.agent) (r := request)
    (g := { state := site.agent, choices })
  rw [← requestIs, serveRequest_eq, served]
  generalize upgradesOf hosts.agent (handleAgentUpdate hosts.agent request) { state := site.agent, choices } = replaced
    at pushed answered ⊢
  generalize Action.exec (handler hosts.agent) (handleAgentUpdate hosts.agent request)
    { state := site.agent, choices } = outcome at answered ⊢
  refine ⟨replaced, ⟨rfl, rfl, rfl, pushed⟩, ?_⟩
  intro success
  rcases answered with ⟨version', binary', rfl, -⟩ | ⟨answer, refused, status⟩
  · cases pushed
    rfl
  · rw [refused] at success
    exact absurd success (Nat.not_lt.mpr status)

/-! ## The exchange -/

/-- What the request of a push leaves: an answer of the pinned agent is the one to this request. -/
def Exchanged (hosts : Hosts) (fingerprint : String) (request : Request) (version : String) (binary : Bytes)
    (site₀ : Site) (answer : Except PushError NodeReply) (site : Site) : Prop :=
  ∃ replaced, Sent version binary site₀ site replaced ∧
    (fingerprint = hosts.fingerprint → ∀ reply, answer = .ok reply → ∃ response, reply = replyOf request response ∧
      (response.status < 400 → replaced = inPlace version binary))

/-- Nothing has arrived at the agent. -/
theorem exchanged_error {fingerprint : String} {request : Request} (e : PushError) :
    Exchanged hosts fingerprint request version binary site (.error e) site :=
  ⟨[], Sent.refl version binary site, fun _ _ answered => nomatch answered⟩

theorem exchanged_performExchange (enabled : hosts.agent.auth.enabled = true) (trimmed : trimSpace version = version)
    (fingerprint apiToken : String) (signature : Bytes) (exchange : Exchange) (site : Site) :
    Exchanged hosts fingerprint (otaRequest hosts apiToken version binary signature) version binary site
      (performExchange hosts fingerprint (otaRequest hosts apiToken version binary signature) exchange site).1
      (performExchange hosts fingerprint (otaRequest hosts apiToken version binary signature) exchange site).2 := by
  cases exchange with
  | unreached e => exact exchanged_error _
  | reached presented choices lost stranger =>
    unfold performExchange
    dsimp only
    split
    · exact exchanged_error _
    · next same =>
      split
      · next other =>
        refine ⟨[], Sent.refl version binary site, fun pinned => ?_⟩
        exact absurd ((Decidable.not_not.mp same).trans pinned) other
      · obtain ⟨replaced, sent, success⟩ := serveRequest_sent enabled trimmed apiToken signature choices site
        refine ⟨replaced, sent, fun _ reply answered => ?_⟩
        cases lost with
        | some e => cases answered
        | none => exact ⟨_, (Except.ok.inj answered).symm, success⟩

theorem checkReply_ok {path : String} {reply : NodeReply} {response : AgentOtaUpdateResponse}
    (checked : checkReply path reply = .ok response) : reply.status < 300 ∧ reply.body = .ok response := by
  unfold checkReply at checked
  split at checked
  · cases checked
  · split at checked
    · split at checked <;> cases checked
    · split at checked
      · split at checked <;> cases checked
      · next success => exact ⟨by omega, mapError_eq_ok.mp checked⟩

theorem replyOf_body {request : Request} {update : OtaUpdateRequest} {response : Response}
    {answer : AgentOtaUpdateResponse} (given : request.body.otaUpdate = .ok update)
    (body : (replyOf request response).body = .ok answer) : answer.version = trimSpace update.version := by
  unfold replyOf at body
  rw [given] at body
  dsimp only at body
  split at body
  · next same =>
    cases same
    cases body
    rfl
  · cases body

/-! ## The program -/

section Rules

variable {Q : Except PushError β → Site → Prop}

/-- A call that leaves the site alone. -/
theorem triple_call {ε : Type} {wrap : ε → PushError} {op : PushOp} {kind : op.Reply = Except ε α} {A : α → Prop}
    {f : α → PushAction β} (failed : ∀ e, Q (.error e) site)
    (effect : ∀ chance, (perform hosts op chance site).2 = site ∧
      ∀ a, cast kind (perform hosts op chance site).1 = .ok a → A a)
    (rest : ∀ a, A a → Action.Triple (perform hosts) (· = site) (f a) Q) :
    Action.Triple (perform hosts) (· = site) (call wrap op kind >>= f) Q := by
  unfold call
  rw [Action.bind_assoc]
  refine Action.Triple.bind_always (R := fun reply t => t = site ∧ ∀ a, cast kind reply = .ok a → A a) ?_ ?_
  · apply Program.triple_perform
    rintro chance _ rfl
    exact effect chance
  · intro reply
    beta_reduce
    generalize cast kind reply = result
    unfold Action.Triple
    constructor
    intro g ⟨same, holds⟩
    cases result with
    | error e =>
      show Q (.error (wrap e)) g.state
      rw [same]
      exact failed _
    | ok a => exact (rest a (holds a rfl)).run g same

theorem triple_failIf {condition : Prop} [Decidable condition] {message : String} {f : Unit → PushAction β}
    (failed : ∀ e, Q (.error e) site)
    (rest : ¬ condition → Action.Triple (perform hosts) (· = site) (f ()) Q) :
    Action.Triple (perform hosts) (· = site) (failIf condition message >>= f) Q := by
  unfold failIf
  by_cases holds : condition
  · rw [if_pos holds]
    unfold Action.Triple
    constructor
    intro g same
    show Q (.error _) g.state
    rw [same]
    exact failed _
  · rw [if_neg holds]
    exact rest holds

end Rules

theorem orFault_ok {chance : Chance} {result : Except GoError α} {a : α} (read : orFault chance result = .ok a) :
    result = .ok a := by
  unfold orFault at read
  split at read
  · cases read
  · exact read

theorem queryRows_ok {chance : Chance} {result : Except RegistryError α} {a : α}
    (read : queryRows chance result = .ok a) : result = .ok a := by
  unfold queryRows at read
  split at read
  · cases read
  · exact read

theorem row_of_loadNodeTrust {chance : Chance} {nodeID : String} {trust : Trust}
    (read : (perform hosts (.loadNodeTrust nodeID) chance site).1 = .ok trust) :
    ∃ row, getNode nodeID site.rows = .ok row ∧ row.trust = trust := by
  have given := queryRows_ok read
  cases found : getNode nodeID site.rows with
  | error e =>
    rw [found] at given
    cases given
  | ok row =>
    rw [found] at given
    exact ⟨row, rfl, Except.ok.inj given⟩

theorem content_of_readFile {chance : Chance} {path : String} {content : Bytes}
    (read : (perform hosts (.readFile path) chance site).1 = .ok content) :
    site.files path = some (.regular content) := by
  have given := orFault_ok read
  unfold entryOf at given
  cases there : site.files path with
  | none =>
    rw [there] at given
    cases given
  | some entry =>
    rw [there] at given
    cases entry with
    | regular content' => rw [Except.ok.inj given]
    | other => cases given

/-- The certificate that the adoption has stored is that of the agent. -/
def Pinned (hosts : Hosts) (nodeID : String) (site : Site) : Prop :=
  ∃ row, getNode nodeID site.rows = .ok row ∧ row.trust.tlsFingerprint = hosts.fingerprint

/-- What a push leaves: nothing has changed but the agent, and that by the file that was read; a success of the
    pinned agent says that it restarts into it. -/
def Applied (hosts : Hosts) (nodeID binaryPath version : String) (site₀ : Site)
    (result : Except PushError AgentOtaUpdateResponse) (site : Site) : Prop :=
  ∃ binary replaced, Sent version binary site₀ site replaced ∧
    (replaced ≠ [] → site₀.files binaryPath = some (.regular binary)) ∧
    (Pinned hosts nodeID site₀ → ∀ response, result = .ok response →
      replaced = inPlace version binary ∧ response.version = version)

theorem applied_error {nodeID binaryPath : String} (e : PushError) :
    Applied hosts nodeID binaryPath version site (.error e) site :=
  ⟨[], [], Sent.refl version [] site, fun some_ => absurd rfl some_, fun _ _ done => nomatch done⟩

theorem triple_doTrustedNodeJSON (enabled : hosts.agent.auth.enabled = true) (trimmed : trimSpace version = version)
    {nodeID binaryPath : String} {signature : Bytes} (content : site.files binaryPath = some (.regular binary)) :
    Action.Triple (perform hosts) (· = site) (doTrustedNodeJSON nodeID "POST" "/api/agent/update"
        (some { otaUpdate := .ok (updateRequest hosts.agent.signatures.sha256 version binary signature) }))
      (Applied hosts nodeID binaryPath version site) := by
  unfold doTrustedNodeJSON
  refine triple_call (A := fun _ => True) applied_error (fun _ => ⟨rfl, fun _ _ => trivial⟩) fun node _ => ?_
  refine triple_call (A := fun trust => ∃ row, getNode nodeID site.rows = .ok row ∧ row.trust = trust) applied_error
    (fun _ => ⟨rfl, fun _ read => row_of_loadNodeTrust read⟩) ?_
  rintro _ ⟨row, found, rfl⟩
  refine triple_call (A := fun _ => True) applied_error (fun _ => ⟨rfl, fun _ _ => trivial⟩) fun apiToken _ => ?_
  refine triple_call (A := fun _ => True) applied_error (fun _ => ⟨rfl, fun _ _ => trivial⟩) fun _ _ => ?_
  refine Action.Triple.bind_always (R := Exchanged hosts row.trust.tlsFingerprint
    (otaRequest hosts apiToken version binary signature) version binary site) ?_ ?_
  · apply Program.triple_perform
    rintro chance _ rfl
    exact exchanged_performExchange enabled trimmed _ apiToken signature chance.exchange _
  · intro answer
    unfold Action.Triple
    constructor
    intro g ⟨replaced, sent, success⟩
    cases answer with
    | error e => exact ⟨binary, replaced, sent, fun _ => content, fun _ _ done => nomatch done⟩
    | ok reply =>
      show Applied hosts nodeID binaryPath version site (checkReply "/api/agent/update" reply) g.state
      refine ⟨binary, replaced, sent, fun _ => content, ?_⟩
      intro ⟨row', found', same⟩ response checked
      obtain rfl := Except.ok.inj (found.symm.trans found')
      obtain ⟨answer, rfl, served⟩ := success same reply rfl
      obtain ⟨low, body⟩ := checkReply_ok checked
      refine ⟨served (Nat.lt_of_lt_of_le low (by decide)), ?_⟩
      rw [replyOf_body otaRequest_otaUpdate body]
      exact trimmed

/-- The file is regular and not empty, and what is sent is its content. -/
theorem triple_pushTrustedAgentUpdate (enabled : hosts.agent.auth.enabled = true)
    (trimmed : trimSpace version = version) {nodeID binaryPath : String} :
    Action.Triple (perform hosts) (· = site)
      (pushTrustedAgentUpdate hosts.agent.signatures.sha256 nodeID binaryPath version)
      (Applied hosts nodeID binaryPath version site) := by
  unfold pushTrustedAgentUpdate
  refine triple_call (A := fun _ => True) applied_error (fun _ => ⟨rfl, fun _ _ => trivial⟩) fun isRegular _ => ?_
  refine triple_failIf applied_error fun _ => ?_
  refine triple_call (A := fun binary => site.files binaryPath = some (.regular binary)) applied_error
    (fun chance => ⟨rfl, fun binary read => content_of_readFile read⟩) fun binary content => ?_
  refine triple_failIf applied_error fun _ => ?_
  refine triple_call (A := fun _ => True) applied_error (fun _ => ⟨rfl, fun _ _ => trivial⟩) fun signature _ => ?_
  exact triple_doTrustedNodeJSON enabled trimmed content

theorem triple_runOTACommand (enabled : hosts.agent.auth.enabled = true) (cfg : OtaConfig) :
    Action.Triple (perform hosts) (· = site) (runOTACommand hosts.agent.signatures.sha256 cfg)
      (Applied hosts (trimSpace cfg.nodeID) (trimSpace cfg.binaryPath) (trimSpace cfg.version) site) := by
  unfold runOTACommand
  refine triple_failIf applied_error fun _ => ?_
  refine triple_failIf applied_error fun _ => ?_
  refine triple_failIf applied_error fun _ => ?_
  refine triple_call (A := fun _ => True) applied_error (fun _ => ⟨rfl, fun _ _ => trivial⟩) fun _ _ => ?_
  refine triple_call (A := fun _ => True) applied_error (fun _ => ⟨rfl, fun _ _ => trivial⟩) fun _ _ => ?_
  refine triple_call (A := fun _ => True) applied_error (fun _ => ⟨rfl, fun _ _ => trivial⟩) fun _ _ => ?_
  exact triple_pushTrustedAgentUpdate enabled (trimSpace_trimSpace cfg.version)

def elfHosts : Hosts where
  agent := adoptedService
  fingerprint := "aa:bb"
  sign := fun _ _ => [0x30]
  openString := fun _ => .ok "token"

def elfConfig : OtaConfig where
  dataDir := "/var/lib/strom"
  nodeID := "n1"
  binaryPath := "/tmp/strom-agent"
  version := " v1.2.0"

def elfSite : Site where
  files := fun path => if path = "/tmp/strom-agent" then some (.regular elf) else none
  rows :=
    [{ id := "n1", instance_ := "strom", hostname := "n1.local", address := "10.0.0.2", port := 8080, version := "1.1.0"
       upsCount := 1, adopted := true, trust := { tlsPort := 8443, tlsFingerprint := "aa:bb" }, lastSeen := "" }]
  agent := adoptedTrial.state

/-- Every request reaches the agent, and its answer comes back. -/
def elfRun : Guided Site Chance where
  state := elfSite
  choices := fun _ => { exchange := .reached "aa:bb" (fun _ => { answer := quietReply }) none (.error .fingerprintDrift) }

end Strom.Ota
