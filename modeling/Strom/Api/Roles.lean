import Strom.Api.Routes

/-!
# What each route can bring about

Two kinds of operations reach beyond a record or a UPS: those that replace the agent, and the one that starts a
session.  All routes but four have neither.
-/

namespace Strom.Api

open Strom.Go Strom.Effects Strom.WebAuth Strom.Adoption Strom.Agent

variable {s : Service} {r : Request} {α β : Type}

/-- The operations that replace the running agent. -/
def ApiOp.upgrades : ApiOp → Bool
  | .stageAndActivate _ _ | .install _ | .restartAgentAsync => true
  | _ => false

def ApiOp.startsSession : ApiOp → Bool
  | .createSession _ => true
  | _ => false

/-- The operations of neither kind. -/
def ApiOp.Plain (op : ApiOp) : Prop := op.upgrades = false ∧ op.startsSession = false

theorem ApiOp.plain_of_reads (op : ApiOp) (reads : op.Reads) : op.Plain := by
  cases op <;> first | exact False.elim reads | exact ⟨rfl, rfl⟩

abbrev Plain (x : ApiAction α) : Prop := Action.Only ApiOp.Plain x

abbrev Staying (x : ApiAction α) : Prop := Action.Only (fun op => op.upgrades = false) x

theorem Reading.plain {x : ApiAction α} (reading : Reading x) : Plain x := reading.weaken ApiOp.plain_of_reads

theorem Plain.staying {x : ApiAction α} (plain : Plain x) : Staying x := plain.weaken fun _ both => both.1

theorem staying_asked {op : ApiOp} (stays : op.upgrades = false) {f : op.Reply → ApiAction α}
    (rest : ∀ reply, Staying (f reply)) : Staying (ask op >>= f) :=
  only_asked (P := fun op => op.upgrades = false) stays rest

/-! ## The handlers in front of a session -/

theorem plain_handleAdopt : Plain (handleAdopt s r) := by
  apply Action.Only.bind (reading_requireMethod _).plain
  intro _
  apply Action.Only.bind (only_answerIf _ _)
  intro _
  apply Action.Only.bind (only_orAnswer _ _)
  intro request
  apply Action.Only.bind (only_orAnswer _ _)
  intro _
  apply only_asked ⟨rfl, rfl⟩
  intro applied
  exact Action.Only.bind (only_orAnswer _ _) fun _ => Action.only_pure _

theorem plain_clearSession (cookie : Option String) : Plain (clearSession cookie) := by
  cases cookie with
  | none => exact Action.only_pure ()
  | some token => exact only_ask ⟨rfl, rfl⟩

theorem plain_handleLogout : Plain (handleLogout s r) := by
  apply Action.Only.bind (only_answerIf _ _)
  intro _
  apply Action.Only.bind (reading_requireMethod _).plain
  intro _
  apply Action.Only.bind reading_checkPageCSRF.plain
  intro _
  exact Action.Only.bind (plain_clearSession _) fun _ => Action.only_pure _

theorem reading_refuseAnonymous (status : Nat) (message page : String) :
    Reading (refuseAnonymous (α := α) r status message page) := by
  unfold refuseAnonymous
  split
  · exact reading_renderPage status page
  · exact Action.only_throw _

theorem reading_orRefuse (status : GoError → Nat) (result : Except GoError α) : Reading (orRefuse r status result) := by
  cases result with
  | ok value => exact Action.only_pure value
  | error e => exact reading_refuseAnonymous _ _ _

theorem reading_checkAnonymousCSRF : Reading (checkAnonymousCSRF r) := by
  unfold checkAnonymousCSRF
  split
  · split
    · exact Action.only_pure ()
    · exact reading_renderPage 403 _
  · exact Action.only_pure ()

theorem staying_startSession (username : String) : Staying (startSession r username) := by
  apply Action.Only.bind (plain_clearSession _).staying
  intro _
  apply staying_asked rfl
  intro created
  exact Action.Only.bind (only_orAnswer _ _) fun _ => Action.only_pure _

/-- The page of the login. -/
theorem reading_loginPage : Reading (issueCSRFToken >>= fun _ => ask .load >>= fun loaded => match loaded with
    | .ok _ => pure ok
    | .error e => if e = errAuthNotConfigured then pure ok else throw (internalServerError e)) := by
  apply Action.Only.bind
  · exact only_asked (show ApiOp.Reads .randomToken from trivial) fun _ => only_orAnswer _ _
  · intro _
    apply only_asked (show ApiOp.Reads .load from trivial)
    intro loaded
    cases loaded with
    | ok loaded => exact Action.only_pure _
    | error e =>
      dsimp only
      split
      · exact Action.only_pure _
      · exact Action.only_throw _

theorem staying_handleLogin : Staying (handleLogin s r) := by
  apply Action.Only.bind (only_answerIf _ _)
  intro _
  apply staying_asked rfl
  intro bootstrapped
  apply Action.Only.bind (only_answerIf _ _)
  intro _
  split
  · exact reading_loginPage.plain.staying
  · apply Action.Only.bind (reading_requireMethod _).plain.staying
    intro _
    apply Action.Only.bind reading_checkAnonymousCSRF.plain.staying
    intro _
    apply Action.Only.bind (reading_orRefuse _ _).plain.staying
    intro request
    apply Action.Only.bind (reading_orRefuse _ _).plain.staying
    intro _
    apply staying_asked rfl
    intro authenticated
    apply Action.Only.bind (reading_orRefuse _ _).plain.staying
    intro _
    apply Action.Only.bind (staying_startSession _)
    intro _
    exact staying_asked rfl fun _ => Action.only_pure _

theorem staying_handleBootstrap : Staying (handleBootstrap s r) := by
  apply Action.Only.bind (only_answerIf _ _)
  intro _
  apply staying_asked rfl
  intro bootstrapped
  apply Action.Only.bind (only_answerIf _ _)
  intro _
  split
  · exact (reading_renderPage _ _).plain.staying
  · apply Action.Only.bind (reading_requireMethod _).plain.staying
    intro _
    apply Action.Only.bind reading_checkAnonymousCSRF.plain.staying
    intro _
    apply Action.Only.bind (reading_orRefuse _ _).plain.staying
    intro request
    apply staying_asked rfl
    intro created
    apply Action.Only.bind (reading_orRefuse _ _).plain.staying
    intro _
    exact Action.Only.bind (staying_startSession _) fun _ => Action.only_pure _

/-! ## The handlers behind a session -/

/-- A handler of a form, up to its session. -/
theorem plain_session {f : String → ApiAction α} {allowed : List String} (rest : ∀ username, Plain (f username)) :
    Plain (requireMethod r allowed >>= fun _ => checkPageCSRF r >>= fun _ => requireSession s r >>= f) := by
  apply Action.Only.bind (reading_requireMethod _).plain
  intro _
  apply Action.Only.bind reading_checkPageCSRF.plain
  intro _
  exact Action.Only.bind reading_requireSession.plain rest

theorem plain_handleReset : Plain (handleReset s r) := by
  apply plain_session
  intro _
  apply Action.Only.bind reading_load.plain
  intro loaded
  have disable : ∀ active, Plain (disableSSH active) := by
    intro active
    unfold disableSSH
    split
    · exact only_asked ⟨rfl, rfl⟩ fun _ => only_orAnswer _ _
    · exact Action.only_pure ()
  apply Action.Only.bind (disable _)
  intro _
  apply only_asked ⟨rfl, rfl⟩
  intro reset
  exact Action.Only.bind (only_orAnswer _ _) fun _ => Action.only_pure _

theorem plain_handleChangePassword : Plain (handleChangePassword s r) := by
  apply plain_session
  intro _
  apply Action.Only.bind (reading_orSettingsError _ _).plain
  intro request
  split
  · exact (reading_respondSettingsError _).plain
  · apply only_asked ⟨rfl, rfl⟩
    intro loaded
    apply Action.Only.bind (reading_orSettingsError _ _).plain
    intro stored
    have sync : ∀ active, Plain (syncPassword r active request.newPassword) := by
      intro active
      unfold syncPassword
      split
      · apply only_asked ⟨rfl, rfl⟩
        intro hash
        apply Action.Only.bind (reading_orSettingsError _ _).plain
        intro passwordHash
        exact only_asked ⟨rfl, rfl⟩ fun _ => (reading_orSettingsError _ _).plain
      · exact Action.only_pure ()
    apply Action.Only.bind (sync _)
    intro _
    apply only_asked ⟨rfl, rfl⟩
    intro changed
    exact Action.Only.bind (reading_orSettingsError _ _).plain fun _ => Action.only_pure _

theorem plain_handleSSHSetting : Plain (handleSSHSetting s r) := by
  apply plain_session
  intro username
  apply Action.Only.bind (reading_orSettingsError _ _).plain
  intro request
  have switching : Plain (switchSSH r username request) := by
    unfold switchSSH
    split
    · apply only_asked ⟨rfl, rfl⟩
      intro authenticated
      apply Action.Only.bind (reading_orSettingsError _ _).plain
      intro _
      apply only_asked ⟨rfl, rfl⟩
      intro hash
      cases hash with
      | error e => exact Action.only_pure _
      | ok hash => exact only_ask ⟨rfl, rfl⟩
    · apply only_asked ⟨rfl, rfl⟩
      intro disabled
      cases disabled with
      | error e => exact Action.only_pure _
      | ok u => exact only_ask ⟨rfl, rfl⟩
  apply Action.Only.bind switching
  intro switched
  exact Action.Only.bind (reading_orSettingsError _ _).plain fun _ => Action.only_pure _

theorem plain_handleAPIKeySetting : Plain (handleAPIKeySetting s r) := by
  apply Action.Only.bind (reading_requireMethod _).plain
  intro _
  apply Action.Only.bind reading_validateSessionCSRF.plain
  intro checked
  apply Action.Only.bind (only_orAnswer _ _)
  intro _
  apply Action.Only.bind reading_requireSession.plain
  intro _
  apply Action.Only.bind (only_orAnswer _ _)
  intro request
  apply Action.Only.bind (only_answerIf _ _)
  intro _
  split
  · apply only_asked ⟨rfl, rfl⟩
    intro key
    apply Action.Only.bind (only_orAnswer _ _)
    intro key
    exact Action.Only.bind (only_answerIf _ _) fun _ => Action.only_pure _
  · split
    · apply only_asked ⟨rfl, rfl⟩
      intro regenerated
      exact Action.Only.bind (only_orAnswer _ _) fun _ => Action.only_pure _
    · exact Action.only_throw _

/-- A switch of a form: what it reads, what it saves and what it answers. -/
theorem plain_switch {status : GoError → Response} {call : Bool → SettingsCall} {answer : Bool → Response} :
    Plain (requireMethod r ["POST"] >>= fun _ => checkPageCSRF r >>= fun _ => requireSession s r >>= fun _ =>
      orAnswer badRequest r.enabledFlag >>= fun enabled => ask (.settings (call enabled)) >>= fun saved =>
        orAnswer status saved >>= fun _ => pure (answer enabled)) := by
  apply plain_session
  intro _
  apply Action.Only.bind (only_orAnswer _ _)
  intro enabled
  apply only_asked ⟨rfl, rfl⟩
  intro saved
  exact Action.Only.bind (only_orAnswer _ _) fun _ => Action.only_pure _

theorem plain_handleAPIDocsSetting : Plain (handleAPIDocsSetting s r) := plain_switch

theorem plain_handleUISetting : Plain (handleUISetting s r) := plain_switch

/-! ## The handlers behind a token or a write key -/

theorem plain_handleUIPolicy : Plain (handleUIPolicy s r) := by
  apply Action.Only.bind (reading_requireMethod _).plain
  intro _
  apply Action.Only.bind reading_requireControllerToken.plain
  intro _
  apply Action.Only.bind (only_orAnswer _ _)
  intro request
  apply only_asked ⟨rfl, rfl⟩
  intro applied
  exact Action.Only.bind (only_orAnswer _ _) fun _ => Action.only_pure _

theorem plain_handleUpdatesCheck : Plain (handleUpdatesCheck s r) := by
  apply Action.Only.bind (reading_requireMethod _).plain
  intro _
  apply Action.Only.bind reading_checkPageCSRF.plain
  intro _
  apply Action.Only.bind (reading_requireAccess _).plain
  intro _
  apply Action.Only.bind (only_answerIf _ _)
  intro _
  apply only_asked ⟨rfl, rfl⟩
  intro checked
  exact Action.Only.bind (only_orAnswer _ _) fun _ => (reading_show _).plain

/-- A handler of one UPS, up to what it asks for. -/
theorem plain_write {x : ApiAction α} {allowed : List String} (rest : Plain x) :
    Plain (requireMethod r allowed >>= fun _ => requireWriteAccess s r >>= fun _ => x) := by
  apply Action.Only.bind (reading_requireMethod _).plain
  intro _
  exact Action.Only.bind (reading_requireAccess _).plain fun _ => rest

theorem plain_handleUPSCommand (name : String) : Plain (handleUPSCommand s r name) := by
  apply plain_write
  apply Action.Only.bind (only_orAnswer _ _)
  intro command
  apply Action.Only.bind (only_answerIf _ _)
  intro _
  apply only_asked ⟨rfl, rfl⟩
  intro ran
  exact Action.Only.bind (only_orAnswer _ _) fun _ => Action.only_pure _

theorem plain_handleUPSMetadata (name : String) : Plain (handleUPSMetadata s r name) := by
  apply plain_write
  apply Action.Only.bind (only_orAnswer _ _)
  intro metadata
  apply only_asked ⟨rfl, rfl⟩
  intro updated
  exact Action.Only.bind (only_orAnswer _ _) fun _ => Action.only_pure _

theorem plain_handleUPSSetVar (name : String) : Plain (handleUPSSetVar s r name) := by
  apply plain_write
  apply Action.Only.bind (only_orAnswer _ _)
  intro request
  apply Action.Only.bind (only_answerIf _ _)
  intro _
  apply only_asked ⟨rfl, rfl⟩
  intro ran
  exact Action.Only.bind (only_orAnswer _ _) fun _ => Action.only_pure _

theorem plain_handleAPIUPS : Plain (handleAPIUPS s r) := by
  have refused : Plain (throw notFound : ApiAction Response) := Action.only_throw _
  unfold handleAPIUPS
  dsimp only
  split
  · exact (reading_handleRead (reading_show _)).plain
  · split
    · split
      · exact refused
      · exact (reading_handleUPSDetail _).plain
    · split
      · exact refused
      · split
        · exact plain_handleUPSCommand _
        · split
          · exact plain_handleUPSMetadata _
          · split
            · exact plain_handleUPSSetVar _
            · exact refused
    · exact refused

/-! ## The server -/

/-- The handlers that start a session, those that replace the agent, and all others. -/
inductive HasRole (s : Service) (r : Request) : ApiAction Response → Prop where
  | plain {x : ApiAction Response} (plain : Plain x) : HasRole s r x
  | login : HasRole s r (handleLogin s r)
  | bootstrap : HasRole s r (handleBootstrap s r)
  | update : HasRole s r (handleAgentUpdate s r)
  | install : HasRole s r (handleUpdatesInstall s r)

theorem hasRole_routes : ∀ route ∈ routes s r, HasRole s r route.2 := by
  have reading : ∀ {x : ApiAction Response}, Reading x → HasRole s r x := fun reading => .plain reading.plain
  have docs := fun answer => reading (reading_handleDocs (s := s) (r := r) answer)
  have health := reading (reading_handleRead (s := s) (r := r) reading_showHealth)
  have view := fun view => reading (reading_handleRead (s := s) (r := r) (reading_show view))
  have status : Reading (handleStatus r) := Action.Only.bind (reading_requireMethod _) fun _ => reading_show _
  simp only [routes, List.forall_mem_cons, List.not_mem_nil, false_imp_iff, implies_true, and_true]
  exact ⟨.plain (Action.only_pure _), reading reading_handleIndex, .plain plain_handleAdopt, .bootstrap, .login,
    .plain plain_handleLogout, .plain plain_handleReset, reading reading_handleAPIAbout, health, view .stream,
    view .longHistory, view .diagnostics, .plain plain_handleAPIUPS, .plain plain_handleAPIUPS,
    reading reading_handleDiagnostics, reading reading_handleSettings, .plain plain_handleUISetting,
    .plain plain_handleChangePassword, .plain plain_handleSSHSetting, .plain plain_handleAPIKeySetting,
    .plain plain_handleAPIDocsSetting, .plain plain_handleUIPolicy, .update, reading reading_handleUpdatesStatus,
    .plain plain_handleUpdatesCheck, .install, docs _, docs _, docs _, reading status, health, health⟩

/-- The server is one of its handlers, or answers itself. -/
theorem hasRole_serve : HasRole s r (serve s r) := by
  have refused : ∀ answer : Response, HasRole s r (throw answer : ApiAction Response) := fun answer =>
    .plain (Action.only_throw answer)
  unfold serve
  split
  · exact refused _
  · split
    · exact refused _
    · split
      · exact refused _
      · next best =>
        split
        · exact refused _
        · exact hasRole_routes _ (mem_of_mostSpecific best)

end Strom.Api
