import Strom.Api.Routes
import Strom.Effects.Run
import Strom.Updates.StoreSpec

/-!
# The probe that confirms an update (`main.go`)

After a start that awaits health the agent asks its own `/healthz`, without credentials, and
confirms the release if the answer is 200.  `probe_healthy_iff` says when it is, and
`updates_confirmed_iff` what follows for whole runs: with web auth enabled no release is ever
confirmed.
-/

namespace Strom.Api

open Strom.Go Strom.Effects Strom.WebAuth
open Strom.Updates (Machine Link exec reconcileStartup confirmHealthy stageAndActivate ReconcileAction)

/-! ## The probe -/

/-- The request of `healthy`. -/
def probe : Request where
  rawPath := utf8 "/healthz"

/-- `response.StatusCode == http.StatusOK`. -/
def isHealthy : Except Response Response → Bool
  | .ok answer => answer.status = 200
  | .error answer => answer.status = 200

/-- The patterns of `routes`, numbered. -/
def patterns : List (String × Nat) :=
  ["/assets/", "/", "/adopt", "/auth/bootstrap", "/auth/login", "/auth/logout", "/auth/reset", "/api/about",
    "/api/health", "/api/health/stream", "/api/health/history/long", "/api/diagnostics", "/api/ups", "/api/ups/",
    "/diagnostics", "/settings", "/settings/ui", "/settings/password", "/settings/ssh", "/settings/api-key",
    "/settings/api-docs", "/api/settings/ui/policy", "/api/agent/update", "/api/agent/updates/status",
    "/api/agent/updates/check", "/api/agent/updates/install", "/api/docs", "/api/docs/", "/openapi.json", "/status",
    "/status/details", "/healthz"].zipIdx

section Routing

variable {α β : Type}

/-- The pattern alone decides. -/
theorem mostSpecific_map (f : α → β) (path : List Bytes) (l : List (String × α)) :
    mostSpecific path (l.map (Prod.map id f)) = (mostSpecific path l).map (Prod.map id f) := by
  induction l with
  | nil => rfl
  | cons first rest ih =>
    obtain ⟨pattern, x⟩ := first
    simp only [List.map_cons, Prod.map_apply, id_eq, mostSpecific, ih]
    cases mostSpecific path rest with
    | none => split <;> rfl
    | some best =>
      simp only [Option.map_some, Prod.map_fst, id_eq]
      split
      · split <;> rfl
      · rfl

theorem routes_eq (s : Service) (r : Request) :
    routes s r = patterns.map (Prod.map id fun k => ((routes s r)[k]?.map Prod.snd).getD handleAssets) := rfl

theorem serve_probe (s : Service) : serve s probe = handleHealthz s probe := by
  have path : (splitPath probe.rawPath).mapM pathUnescape = some [[], utf8 "healthz"] := by decide +kernel
  have clean : Routes.isUnclean probe.rawPath = false := by decide +kernel
  have best : mostSpecific [[], utf8 "healthz"] patterns = some ("/healthz", 31) := by decide +kernel
  have found : mostSpecific [[], utf8 "healthz"] (routes s probe) = some ("/healthz", handleHealthz s probe) := by
    rw [routes_eq, mostSpecific_map, best]
    rfl
  have same : splitPath (utf8 "/healthz") = [[], utf8 "healthz"] := by decide +kernel
  unfold serve
  rw [path]
  simp only [clean, found, same]
  simp

end Routing

theorem probe_token : probe.bearerToken = "" := by decide +kernel

theorem probe_html : probe.wantsHTML = false := by decide +kernel

/-- Without a cookie and without a token there is no way in. -/
theorem probe_refused {s : Service} (enabled : s.auth.enabled = true) (g : ApiTrial) :
    ∃ text, (Action.exec (handler s) (requireSession s probe) g).1 = .error ⟨401, text⟩ := by
  unfold requireSession
  rw [if_neg (by simp [enabled]), exec_asked]
  split
  · rw [probe_html]
    exact ⟨_, rfl⟩
  · have none : (handler s (.sessionUsername probe.sessionCookie) (handler s .bootstrapped g).2).1 =
        .error errInvalidCredentials := by
      show (method s.auth (Action.toProgram (s.auth.sessionUsername none)) _ _).1 = _
      simp [AuthManager.sessionUsername, method, enabled]
    rw [exec_asked, none, probe_html]
    exact ⟨_, rfl⟩

theorem probe_access_refused {s : Service} (enabled : s.auth.enabled = true) (g : ApiTrial) :
    ∃ text, (Action.exec (handler s) (requireReadAccess s probe) g).1 = .error ⟨401, text⟩ := by
  have controller : controllerTokenMatches s probe = pure (.ok false) := by
    unfold controllerTokenMatches
    rw [probe_token]
    split <;> rfl
  have key : localAPIKeyMatches probe = pure (.ok none) := by
    unfold localAPIKeyMatches
    rw [probe_token]
    rfl
  obtain ⟨text, refused⟩ := probe_refused enabled g
  refine ⟨text, ?_⟩
  unfold requireReadAccess requireAccess
  rw [if_neg (by simp [enabled]), controller, key]
  simp only [Action.exec_bind, Action.exec_pure, Except.ok.injEq, Bool.false_eq_true, if_false]
  generalize Action.exec (handler s) (requireSession s probe) g = outcome at refused ⊢
  obtain ⟨result, t⟩ := outcome
  cases refused
  rfl

/-- The probe finds the agent healthy exactly if web auth is disabled and the answer can be built. -/
theorem probe_healthy_iff (s : Service) (g : ApiTrial) :
    isHealthy (Action.exec (handler s) (serve s probe) g).1 = true ↔
      s.auth.enabled = false ∧ g.choice.answer .buildHealthResponse = .ok () := by
  have allowed : requireMethod probe ["GET"] = pure () := rfl
  rw [serve_probe]
  unfold handleHealthz handleStatusDetails handleRead
  rw [allowed, Action.exec_bind, Action.exec_pure]
  dsimp only
  rw [Action.exec_bind]
  cases enabled : s.auth.enabled with
  | true =>
    obtain ⟨text, refused⟩ := probe_access_refused enabled g
    generalize Action.exec (handler s) (requireReadAccess s probe) g = outcome at refused ⊢
    obtain ⟨result, t⟩ := outcome
    cases refused
    simp [isHealthy]
  | false =>
    have open_ : requireReadAccess s probe = pure () := by
      unfold requireReadAccess requireAccess
      rw [if_pos (by simp [enabled])]
    rw [open_, Action.exec_pure]
    dsimp only
    unfold showHealth
    rw [exec_asked]
    show isHealthy (Action.exec _ (orAnswer _ (g.choice.answer .buildHealthResponse) >>= _) _).1 = true ↔ _
    cases g.choice.answer .buildHealthResponse with
    | ok u => simp [orAnswer, isHealthy, ok]
    | error e => simp [orAnswer, isHealthy, internalServerError]

/-! ## Runs -/

/-- An installed agent: its store, what its API remembers, and the running process. -/
structure Installation where
  machine : Machine
  api : AgentState := {}
  /-- `cfg.httpAuth` of the running process. -/
  httpAuth : Bool := true
  /-- The version of the running process. -/
  running : Option String := none
  /-- Whether `confirmUpdateHealthy` is running. -/
  confirming : Bool := false
  /-- The release that was asked by its own probe since it was activated. -/
  answered : Option String := none
  /-- Whether a probe was ever answered with another status than 200. -/
  refused : Bool := false

inductive LifeEvent where
  | start (httpAuth : Bool)
  | stage (version : String) (binary : Bytes)
  /-- Any request to the API. -/
  | request (r : Request) (choices : Nat → ApiChoice)
  | probe (choices : Nat → ApiChoice)
  /-- The confirmation window is over. -/
  | giveUp

namespace Installation

section Life

variable (s : Service) (packaged : String)

/-- The service of the running process. -/
def service (i : Installation) : Service := { s with auth := { s.auth with enabled := i.httpAuth } }

/-- The outcome of a request, which changes what the API remembers. -/
def asked (i : Installation) (r : Request) (choices : Nat → ApiChoice) : Except Response Response × ApiTrial :=
  Action.exec (handler (i.service s)) (serve (i.service s) r) { state := i.api, choices }

/-- A new process: the sessions and the record in memory are gone. -/
def restarted (i : Installation) (httpAuth : Bool) : Installation :=
  let version := i.machine.disk.current.getD packaged
  let outcome := exec (reconcileStartup version) i.machine
  let started := { i with
    machine := outcome.2
    api := { i.api with auth := { file := i.api.auth.file } }
    httpAuth }
  match outcome.1 with
  | .ok .rolledBack => { started with running := none, confirming := false }
  | .ok .awaitingHealth => { started with running := some version, confirming := true }
  | _ => { started with running := some version, confirming := false }

/-- `StageAndActivate`, whether it succeeds or not; a new pending record begins a new activation. -/
def staged (i : Installation) (version : String) (binary : Bytes) : Installation :=
  let machine := (exec (stageAndActivate version binary) i.machine).2
  { i with machine, answered := if machine.disk.pending = i.machine.disk.pending then i.answered else none }

/-- One turn of the loop of `confirmUpdateHealthy`. -/
def probed (i : Installation) (version : String) (choices : Nat → ApiChoice) : Installation :=
  let outcome := i.asked s probe choices
  let answered :=
    if i.machine.disk.pending.record?.map (·.version) = some version then some version else i.answered
  let seen := { i with api := outcome.2.state, answered }
  if isHealthy outcome.1 then { seen with machine := (exec (confirmHealthy version) i.machine).2, confirming := false }
  else { seen with refused := true }

def next (i : Installation) : LifeEvent → Installation
  | .start httpAuth => i.restarted packaged httpAuth
  | .stage version binary => if i.running = none then i else i.staged version binary
  | .request r choices => if i.running = none then i else { i with api := (i.asked s r choices).2.state }
  | .probe choices =>
    match i.running, i.confirming with
    | some version, true => i.probed s version choices
    | _, _ => i
  | .giveUp => { i with confirming := false }

def step (i : Installation) (event : LifeEvent) : Option Installation := some (i.next s packaged event)

end Life

/-- Every probe was answered with 200, and a release that was asked is confirmed: there is no
    pending record, and no later start rolls anything back. -/
structure Confirming (i : Installation) : Prop where
  accepted : i.refused = false
  cleared : i.answered.isSome → i.machine.disk.pending = .absent
  kept : i.answered.isSome → ∀ version, exec (reconcileStartup version) i.machine = (.ok .none, i.machine)

/-- A probe that is sent finds web auth disabled, and its answer can be built. -/
def ProbesOpen (i : Installation) : LifeEvent → Prop
  | .probe choices => i.running.isSome → i.confirming = true →
      i.httpAuth = false ∧ (choices 0).answer .buildHealthResponse = .ok ()
  | _ => True

/-- Without a pending record a start changes nothing. -/
theorem reconcileStartup_of_absent {m : Machine} (absent : m.disk.pending = .absent) (version : String) :
    exec (reconcileStartup version) m = (.ok .none, m) := by
  unfold reconcileStartup
  simp only [Action.exec_bind, Updates.exec_wrapping, Updates.exec_readPending, absent]
  rfl

theorem confirmHealthy_of_absent {m : Machine} (absent : m.disk.pending = .absent) (version : String) :
    (exec (confirmHealthy version) m).2 = m := by
  unfold confirmHealthy
  simp only [Action.exec_bind, Updates.exec_wrapping, Updates.exec_readPending, absent]
  rfl

/-- A confirmation clears the record, whether or not its outcome can be written. -/
theorem confirmHealthy_clears {m : Machine} {version : String}
    (named : m.disk.pending.record?.map (·.version) = some version) :
    (exec (confirmHealthy version) m).2.disk.pending = .absent := by
  cases stored : m.disk.pending with
  | absent => simp [stored] at named
  | malformed => simp [stored, Updates.RecordFile.record?] at named
  | stored pending =>
    have same : pending.version = version := by simpa [stored] using named
    unfold confirmHealthy
    simp only [Action.exec_bind, Updates.exec_wrapping, Updates.exec_readPending, stored, Go.wrapError_ok, same,
      ne_eq, not_true_eq_false, if_false, Updates.exec_clearPending, Updates.exec_recordInstallOutcome,
      Updates.Disk.readableStatus_cleared]
    cases m.disk.readableStatus <;> rfl

theorem confirming_of {i : Installation} (accepted : i.refused = false)
    (cleared : i.answered.isSome → i.machine.disk.pending = .absent) : i.Confirming :=
  ⟨accepted, cleared, fun asked => reconcileStartup_of_absent (cleared asked)⟩

section Runs

variable {s : Service} {packaged : String} {i : Installation}

theorem probed_confirming_iff (confirming : i.Confirming) (version : String) (choices : Nat → ApiChoice) :
    (i.probed s version choices).Confirming ↔
      i.httpAuth = false ∧ (choices 0).answer .buildHealthResponse = .ok () := by
  have healthy_iff := probe_healthy_iff (i.service s) { state := i.api, choices }
  unfold probed
  dsimp only
  split
  · next healthy =>
    refine iff_of_true ?_ (healthy_iff.mp healthy)
    apply confirming_of
    · exact confirming.accepted
    · dsimp only
      split
      · next named => exact fun _ => confirmHealthy_clears named
      · intro asked
        rw [confirmHealthy_of_absent (confirming.cleared asked)]
        exact confirming.cleared asked
  · next unhealthy =>
    refine iff_of_false ?_ fun open_ => unhealthy (healthy_iff.mpr open_)
    intro later
    cases later.accepted

theorem next_confirming_iff (confirming : i.Confirming) (event : LifeEvent) :
    (i.next s packaged event).Confirming ↔ ProbesOpen i event := by
  cases event with
  | start httpAuth =>
    refine iff_of_true ?_ trivial
    have same : ∀ started : Installation, started.refused = i.refused → started.answered = i.answered →
        started.machine = (exec (reconcileStartup (i.machine.disk.current.getD packaged)) i.machine).2 →
        started.Confirming := by
      intro started refused answered machine
      apply confirming_of (refused.trans confirming.accepted)
      intro asked
      rw [answered] at asked
      rw [machine, confirming.kept asked]
      exact confirming.cleared asked
    simp only [next, restarted]
    split <;> exact same _ rfl rfl rfl
  | stage version binary =>
    refine iff_of_true ?_ trivial
    simp only [next]
    split
    · exact confirming
    · apply confirming_of
      · exact confirming.accepted
      · unfold staged
        dsimp only
        split
        · next same =>
          intro asked
          rw [same]
          exact confirming.cleared asked
        · intro asked
          cases asked
  | request r choices =>
    refine iff_of_true ?_ trivial
    simp only [next]
    split
    · exact confirming
    · exact confirming_of confirming.accepted confirming.cleared
  | probe choices =>
    simp only [next, ProbesOpen]
    cases running : i.running with
    | none => simpa using confirming
    | some version =>
      cases waiting : i.confirming with
      | false => simpa using confirming
      | true => simpa using probed_confirming_iff confirming version choices
  | giveUp => exact iff_of_true (confirming_of confirming.accepted confirming.cleared) trivial

/-- In every state of a run, from any store without a pending activation and whatever the API
    remembers: each probe was accepted, and what was probed stays confirmed.  That is so exactly
    if each probe finds web auth disabled. -/
theorem updates_confirmed_iff (s : Service) (packaged : String) (m : Machine) (api : AgentState)
    (events : List LifeEvent) :
    (∀ earlier, earlier <+: events → ∀ i ∈ replay (step s packaged) { machine := m, api } earlier, i.Confirming) ↔
      Guarded (step s packaged) ProbesOpen { machine := m, api } events := by
  apply forall_reached_iff
  · intro i event confirming
    exact ⟨_, rfl, next_confirming_iff confirming event⟩
  · refine confirming_of rfl ?_
    intro asked
    cases asked

end Runs

/-- Every event is possible. -/
theorem replay_step (s : Service) (packaged : String) (i : Installation) (events : List LifeEvent) :
    replay (step s packaged) i events = some (events.foldl (next s packaged) i) := by
  induction events generalizing i with
  | nil => rfl
  | cons event events ih => exact replay_cons.mpr ⟨_, rfl, ih _⟩

/-- An update to v1.0.0 with web auth enabled; it is started three times and probes itself each time. -/
def refusedUpdate : List LifeEvent :=
  [.start true, .stage "v1.0.0" [1], .start true, .probe fun _ => { answer := quietReply }, .start true,
    .probe fun _ => { answer := quietReply }, .start true, .probe fun _ => { answer := quietReply }]

def newlyInstalled (file : AuthFile) : Installation where
  machine := { disk := {}, clock := fun _ => 0 }
  api := { auth := { file } }

def afterRefusedUpdate (file : AuthFile) : Installation :=
  refusedUpdate.foldl (next readKeyService "v0.9.0") (newlyInstalled file)

/-- The release has answered its probe and is not confirmed, and the next start rolls it back. -/
def GivesUpAnswering (file : AuthFile) : Prop :=
  replay (step readKeyService "v0.9.0") (newlyInstalled file) refusedUpdate = some (afterRefusedUpdate file) ∧
    (afterRefusedUpdate file).answered = some "v1.0.0" ∧
      (exec (reconcileStartup "v1.0.0") (afterRefusedUpdate file).machine).1 = .ok .rolledBack ∧
        ¬ (afterRefusedUpdate file).Confirming

theorem givesUp_of {file : AuthFile} (answered : (afterRefusedUpdate file).answered = some "v1.0.0")
    (rollsBack : (exec (reconcileStartup "v1.0.0") (afterRefusedUpdate file).machine).1 = .ok .rolledBack) :
    GivesUpAnswering file := by
  refine ⟨replay_step _ _ _ _, answered, rollsBack, ?_⟩
  intro confirming
  rw [confirming.kept (by rw [answered]; rfl)] at rollsBack
  cases rollsBack

/-- With web auth enabled, not yet bootstrapped or bootstrapped, a release that answers its probe is
    rolled back. -/
theorem refused_probe_rolls_back : GivesUpAnswering .absent ∧ GivesUpAnswering (.stored readKeyRecord) :=
  ⟨givesUp_of (by decide +kernel) (by decide +kernel), givesUp_of (by decide +kernel) (by decide +kernel)⟩

end Installation

end Strom.Api
