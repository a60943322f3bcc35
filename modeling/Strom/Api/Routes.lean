import Strom.Api.Permitted

/-!
# The routes behind their gates

One lemma for each handler, and `issues_serve` for the server.
-/

namespace Strom.Api

open Strom.Go Strom.Effects Strom.WebAuth Strom.Adoption Strom.Agent

variable {s : Service} {r : Request} {g₀ : ApiTrial} {α β : Type}

/-! ## What may come after a gate -/

theorem Covered.of_effect {op : ApiOp} {e : Effect} (effect : op.effect = some e) (permitted : e.Permitted s r g₀) :
    Covered s r g₀ op := by
  intro e' effect'
  obtain rfl : e = e' := Option.some.inj (effect.symm.trans effect')
  exact permitted

theorem Covered.of_none {op : ApiOp} (none : op.effect = none) : Covered s r g₀ op := by
  intro e effect
  rw [none] at effect
  cases effect

/-- Every effect is permitted, whatever has come before. -/
abbrev Harmless (s : Service) (r : Request) (g₀ : ApiTrial) (x : ApiAction α) : Prop :=
  Action.Only (Covered s r g₀) x

theorem Reading.harmless {x : ApiAction α} (reading : Reading x) : Harmless s r g₀ x := reading.weaken covered_of_reads

theorem reading_requireMethod (allowed : List String) : Reading (requireMethod r allowed) := only_answerIf _ _

/-- A handler begins with the method and, where it has a page, the CSRF token. -/
theorem behind_method {allowed : List String} {x : ApiAction α} (rest : Behind s r g₀ x) :
    Behind s r g₀ (requireMethod r allowed >>= fun _ => x) :=
  (reading_requireMethod allowed).then fun _ => rest

theorem behind_page {x : ApiAction α} (rest : Behind s r g₀ x) : Behind s r g₀ (checkPageCSRF r >>= fun _ => x) :=
  reading_checkPageCSRF.then fun _ => rest

theorem behind_session (enabled : s.auth.enabled = true) {f : String → ApiAction α}
    (rest : HasSession r g₀ → ∀ username, Harmless s r g₀ (f username)) :
    Behind s r g₀ (requireSession s r >>= f) :=
  Action.Issues.gate reading_requireSession.behind
    (fun _ _ _ since passed => requireSession_secures enabled since passed) fun username session => rest session username

theorem behind_write (enabled : s.auth.enabled = true) {x : ApiAction α}
    (rest : HasSession r g₀ ∨ HasControllerToken s r g₀ ∨ HasAPIKey r g₀ apiKeyScopeWrite → Harmless s r g₀ x) :
    Behind s r g₀ (requireWriteAccess s r >>= fun _ => x) := by
  refine Action.Issues.gate (reading_requireAccess _).behind
    (fun _ _ _ since passed => requireAccess_secures enabled since passed) ?_
  intro _ access
  apply rest
  simpa using access

theorem behind_controller (enabled : s.auth.enabled = true) {x : ApiAction α}
    (rest : HasControllerToken s r g₀ → Harmless s r g₀ x) :
    Behind s r g₀ (requireControllerToken s r >>= fun _ => x) :=
  Action.Issues.gate reading_requireControllerToken.behind
    (fun _ _ _ since passed => requireControllerToken_secures enabled since passed) fun _ token => rest token

/-! ## The handlers that only read -/

theorem reading_requireReadAccess : Reading (requireReadAccess s r) := reading_requireAccess _

theorem reading_handleRead {answer : ApiAction Response} (reading : Reading answer) :
    Reading (handleRead s r answer) := by
  apply Action.Only.bind (reading_requireMethod _)
  intro _
  exact Action.Only.bind reading_requireReadAccess fun _ => reading

theorem reading_handleDocs (answer : Response) : Reading (handleDocs s r answer) := by
  have docs : Reading apiDocsEnabled := by
    apply only_asked (show ApiOp.Reads .load from trivial)
    intro loaded
    cases loaded with
    | ok loaded => exact only_answerIf _ _
    | error e => exact Action.only_throw _
  apply Action.Only.bind (reading_requireMethod _)
  intro _
  apply Action.Only.bind docs
  intro _
  exact Action.Only.bind reading_requireSession fun _ => Action.only_pure _

theorem reading_csrfToken {x : ApiAction α} (reading : Reading x) :
    Reading (ask (.sessionCSRFToken r.sessionCookie) >>= fun token =>
      orAnswer (fun _ => ⟨500, "load CSRF token"⟩) token >>= fun _ => x) :=
  only_asked (show ApiOp.Reads (.sessionCSRFToken r.sessionCookie) from trivial) fun _ =>
    Action.Only.bind (only_orAnswer _ _) fun _ => reading

theorem reading_handleIndex : Reading (handleIndex s r) := by
  apply Action.Only.bind (only_answerIf _ _)
  intro _
  apply Action.Only.bind (reading_requireMethod _)
  intro _
  split
  · apply Action.Only.bind reading_requireSession
    intro _
    apply Action.Only.bind reading_load
    intro loaded
    apply Action.Only.bind (only_answerIf _ _)
    intro _
    exact reading_csrfToken reading_showHealth
  · exact reading_showHealth

theorem reading_handleDiagnostics : Reading (handleDiagnostics s r) := by
  apply Action.Only.bind (reading_requireMethod _)
  intro _
  apply Action.Only.bind reading_requireSession
  intro _
  exact reading_csrfToken (reading_show _)

theorem reading_handleAPIAbout : Reading (handleAPIAbout s r) := by
  apply Action.Only.bind (reading_requireMethod _)
  intro _
  exact Action.Only.bind reading_requireSession fun _ => reading_show _

theorem reading_handleSettings : Reading (handleSettings s r) := by
  apply Action.Only.bind (reading_requireMethod _)
  intro _
  apply Action.Only.bind (only_answerIf _ _)
  intro _
  apply Action.Only.bind reading_requireSession
  intro _
  exact Action.Only.bind reading_buildSettingsViewModel fun _ => Action.only_pure _

theorem reading_handleUpdatesStatus : Reading (handleUpdatesStatus s r) := by
  apply Action.Only.bind (reading_requireMethod _)
  intro _
  exact Action.Only.bind reading_requireReadAccess fun _ => reading_show _

theorem reading_handleUPSDetail (name : String) : Reading (handleUPSDetail s r name) := by
  apply Action.Only.bind (reading_requireMethod _)
  intro _
  apply Action.Only.bind reading_requireReadAccess
  intro _
  apply only_asked (show ApiOp.Reads (.buildUPSDetailResponse name) from trivial)
  intro built
  exact Action.Only.bind (only_orAnswer _ _) fun _ => Action.only_pure _

/-! ## The handlers in front of a session -/

theorem harmless_refuseAnonymous (status : Nat) (message page : String) :
    Harmless s r g₀ (refuseAnonymous (α := α) r status message page) := by
  unfold refuseAnonymous
  split
  · exact (reading_renderPage status page).harmless
  · exact Action.only_throw _

theorem harmless_orRefuse (status : GoError → Nat) (result : Except GoError α) :
    Harmless s r g₀ (orRefuse r status result) := by
  cases result with
  | ok value => exact Action.only_pure value
  | error e => exact harmless_refuseAnonymous _ _ _

theorem harmless_clearSession (cookie : Option String) : Harmless s r g₀ (clearSession cookie) := by
  cases cookie with
  | none => exact Action.only_pure ()
  | some token => exact only_ask (Covered.of_none rfl)

theorem harmless_startSession (username : String) : Harmless s r g₀ (startSession r username) := by
  apply Action.Only.bind (harmless_clearSession _)
  intro _
  apply only_asked (Covered.of_none rfl)
  intro created
  exact Action.Only.bind (only_orAnswer _ _) fun _ => Action.only_pure _

theorem harmless_checkAnonymousCSRF : Harmless s r g₀ (checkAnonymousCSRF r) := by
  unfold checkAnonymousCSRF
  split
  · split
    · exact Action.only_pure ()
    · exact (reading_renderPage 403 _).harmless
  · exact Action.only_pure ()

theorem harmless_handleAdopt : Harmless s r g₀ (handleAdopt s r) := by
  apply Action.Only.bind (reading_requireMethod _).harmless
  intro _
  apply Action.Only.bind (only_answerIf _ _)
  intro _
  apply Action.Only.bind (only_orAnswer _ _)
  intro request
  apply Action.Only.bind (only_orAnswer _ _)
  intro _
  apply only_asked (Covered.of_none rfl)
  intro applied
  exact Action.Only.bind (only_orAnswer _ _) fun _ => Action.only_pure _

theorem harmless_handleLogin : Harmless s r g₀ (handleLogin s r) := by
  apply Action.Only.bind (only_answerIf _ _)
  intro _
  apply only_asked (Covered.of_none rfl)
  intro bootstrapped
  apply Action.Only.bind (only_answerIf _ _)
  intro _
  split
  · apply Action.Only.bind
    · exact only_asked (Covered.of_none rfl) fun _ => only_orAnswer _ _
    · intro _
      apply only_asked (Covered.of_none rfl)
      intro loaded
      cases loaded with
      | ok loaded => exact Action.only_pure _
      | error e =>
        dsimp only
        split
        · exact Action.only_pure _
        · exact Action.only_throw _
  · apply Action.Only.bind (reading_requireMethod _).harmless
    intro _
    apply Action.Only.bind harmless_checkAnonymousCSRF
    intro _
    apply Action.Only.bind (harmless_orRefuse _ _)
    intro request
    apply Action.Only.bind (harmless_orRefuse _ _)
    intro _
    apply only_asked (Covered.of_none rfl)
    intro authenticated
    apply Action.Only.bind (harmless_orRefuse _ _)
    intro _
    apply Action.Only.bind (harmless_startSession _)
    intro _
    exact only_asked (Covered.of_none rfl) fun _ => Action.only_pure _

theorem harmless_handleLogout : Harmless s r g₀ (handleLogout s r) := by
  apply Action.Only.bind (only_answerIf _ _)
  intro _
  apply Action.Only.bind (reading_requireMethod _).harmless
  intro _
  apply Action.Only.bind reading_checkPageCSRF.harmless
  intro _
  exact Action.Only.bind (harmless_clearSession _) fun _ => Action.only_pure _

/-! ## The handlers behind a session -/

section Session

variable (enabled : s.auth.enabled = true)

include enabled

theorem behind_handleReset : Behind s r g₀ (handleReset s r) := by
  apply behind_method
  apply behind_page
  apply behind_session enabled
  intro session _
  apply Action.Only.bind reading_load.harmless
  intro loaded
  have disable : ∀ active, Harmless s r g₀ (disableSSH active) := by
    intro active
    unfold disableSSH
    split
    · exact only_asked (Covered.of_effect (e := .settingsChange) rfl session) fun _ => only_orAnswer _ _
    · exact Action.only_pure ()
  apply Action.Only.bind (disable _)
  intro _
  apply only_asked (Covered.of_effect (e := .authReset) rfl session)
  intro reset
  exact Action.Only.bind (only_orAnswer _ _) fun _ => Action.only_pure _

theorem behind_handleChangePassword : Behind s r g₀ (handleChangePassword s r) := by
  apply behind_method
  apply behind_page
  apply behind_session enabled
  intro session _
  apply Action.Only.bind (reading_orSettingsError _ _).harmless
  intro request
  split
  · exact (reading_respondSettingsError _).harmless
  · apply only_asked (Covered.of_none rfl)
    intro loaded
    apply Action.Only.bind (reading_orSettingsError _ _).harmless
    intro stored
    have sync : ∀ active, Harmless s r g₀ (syncPassword r active request.newPassword) := by
      intro active
      unfold syncPassword
      split
      · apply only_asked (Covered.of_effect (e := .settingsChange) rfl session)
        intro hash
        apply Action.Only.bind (reading_orSettingsError _ _).harmless
        intro passwordHash
        exact only_asked (Covered.of_effect (e := .settingsChange) rfl session) fun _ => (reading_orSettingsError _ _).harmless
      · exact Action.only_pure ()
    apply Action.Only.bind (sync _)
    intro _
    apply only_asked (Covered.of_effect (e := .settingsChange) rfl session)
    intro changed
    exact Action.Only.bind (reading_orSettingsError _ _).harmless fun _ => Action.only_pure _

theorem behind_handleSSHSetting : Behind s r g₀ (handleSSHSetting s r) := by
  apply behind_method
  apply behind_page
  apply behind_session enabled
  intro session username
  apply Action.Only.bind (reading_orSettingsError _ _).harmless
  intro request
  have switching : Harmless s r g₀ (switchSSH r username request) := by
    unfold switchSSH
    split
    · apply only_asked (Covered.of_none rfl)
      intro authenticated
      apply Action.Only.bind (reading_orSettingsError _ _).harmless
      intro _
      apply only_asked (Covered.of_effect (e := .settingsChange) rfl session)
      intro hash
      cases hash with
      | error e => exact Action.only_pure _
      | ok hash => exact only_ask (Covered.of_effect (e := .settingsChange) rfl session)
    · apply only_asked (Covered.of_effect (e := .settingsChange) rfl session)
      intro disabled
      cases disabled with
      | error e => exact Action.only_pure _
      | ok u => exact only_ask (Covered.of_effect (e := .settingsChange) rfl session)
  apply Action.Only.bind switching
  intro switched
  exact Action.Only.bind (reading_orSettingsError _ _).harmless fun _ => Action.only_pure _

theorem behind_handleAPIKeySetting : Behind s r g₀ (handleAPIKeySetting s r) := by
  apply behind_method
  apply reading_validateSessionCSRF.then
  intro checked
  apply Reading.then (only_orAnswer _ _)
  intro _
  apply behind_session enabled
  intro session _
  apply Action.Only.bind (only_orAnswer _ _)
  intro request
  apply Action.Only.bind (only_answerIf _ _)
  intro _
  split
  · apply only_asked (Covered.of_none rfl)
    intro key
    apply Action.Only.bind (only_orAnswer _ _)
    intro key
    exact Action.Only.bind (only_answerIf _ _) fun _ => Action.only_pure _
  · split
    · apply only_asked (Covered.of_effect (e := .settingsChange) rfl session)
      intro regenerated
      exact Action.Only.bind (only_orAnswer _ _) fun _ => Action.only_pure _
    · exact Action.only_throw _

theorem behind_handleAPIDocsSetting : Behind s r g₀ (handleAPIDocsSetting s r) := by
  apply behind_method
  apply behind_page
  apply behind_session enabled
  intro session _
  apply Action.Only.bind (only_orAnswer _ _)
  intro documented
  apply only_asked (Covered.of_effect (e := .settingsChange) rfl session)
  intro saved
  exact Action.Only.bind (only_orAnswer _ _) fun _ => Action.only_pure _

theorem behind_handleUISetting : Behind s r g₀ (handleUISetting s r) := by
  apply behind_method
  apply behind_page
  apply behind_session enabled
  intro session _
  apply Action.Only.bind (only_orAnswer _ _)
  intro shown
  apply only_asked (Covered.of_effect (e := .settingsChange) rfl session)
  intro saved
  exact Action.Only.bind (only_orAnswer _ _) fun _ => Action.only_pure _

theorem behind_handleUpdatesInstall : Behind s r g₀ (handleUpdatesInstall s r) := by
  apply behind_method
  apply behind_page
  apply behind_session enabled
  intro session _
  apply Action.Only.bind (only_answerIf _ _)
  intro _
  apply Action.Only.bind (only_orAnswer _ _)
  intro version
  apply Action.Only.bind (only_answerIf _ _)
  intro _
  apply only_asked (Covered.of_effect (e := .updateInstall) rfl session)
  intro installed
  apply Action.Only.bind (only_orAnswer _ _)
  intro _
  exact only_asked (Covered.of_none rfl) fun _ => Action.only_pure _

/-! ## The handlers behind a token or a write key -/

theorem behind_handleUIPolicy : Behind s r g₀ (handleUIPolicy s r) := by
  apply behind_method
  apply behind_controller enabled
  intro token
  apply Action.Only.bind (only_orAnswer _ _)
  intro request
  apply only_asked (Covered.of_effect (e := .uiPolicy) rfl token)
  intro applied
  exact Action.Only.bind (only_orAnswer _ _) fun _ => Action.only_pure _

theorem behind_handleAgentUpdate : Behind s r g₀ (handleAgentUpdate s r) := by
  apply behind_method
  apply behind_controller enabled
  intro token
  apply Action.Only.bind (only_orAnswer _ _)
  intro request
  apply Action.Only.bind (only_orAnswer _ _)
  intro payload
  apply only_asked (Covered.of_none rfl)
  intro loaded
  apply Action.Only.bind (only_orAnswer _ _)
  intro adoption
  apply Action.Only.bind (only_answerIf _ _)
  intro _
  apply Action.Only.bind (only_orAnswer _ _)
  intro _
  apply only_asked (Covered.of_effect (e := .controllerUpdate) rfl token)
  intro staged
  apply Action.Only.bind (only_orAnswer _ _)
  intro _
  exact only_asked (Covered.of_none rfl) fun _ => Action.only_pure _

theorem behind_handleUpdatesCheck : Behind s r g₀ (handleUpdatesCheck s r) := by
  apply behind_method
  apply behind_page
  apply behind_write enabled
  intro access
  apply Action.Only.bind (only_answerIf _ _)
  intro _
  apply only_asked (Covered.of_effect (e := .updateCheck) rfl access)
  intro checked
  exact Action.Only.bind (only_orAnswer _ _) fun _ => (reading_show _).harmless

theorem behind_handleUPSCommand (name : String) : Behind s r g₀ (handleUPSCommand s r name) := by
  apply behind_method
  apply behind_write enabled
  intro access
  apply Action.Only.bind (only_orAnswer _ _)
  intro command
  apply Action.Only.bind (only_answerIf _ _)
  intro _
  apply only_asked (Covered.of_effect (e := .instantCommand) rfl access)
  intro ran
  exact Action.Only.bind (only_orAnswer _ _) fun _ => Action.only_pure _

theorem behind_handleUPSMetadata (name : String) : Behind s r g₀ (handleUPSMetadata s r name) := by
  apply behind_method
  apply behind_write enabled
  intro access
  apply Action.Only.bind (only_orAnswer _ _)
  intro metadata
  apply only_asked (Covered.of_effect (e := .metadataUpdate) rfl access)
  intro updated
  exact Action.Only.bind (only_orAnswer _ _) fun _ => Action.only_pure _

theorem behind_handleUPSSetVar (name : String) : Behind s r g₀ (handleUPSSetVar s r name) := by
  apply behind_method
  apply behind_write enabled
  intro access
  apply Action.Only.bind (only_orAnswer _ _)
  intro request
  apply Action.Only.bind (only_answerIf _ _)
  intro _
  apply only_asked (Covered.of_effect (e := .variableWrite) rfl access)
  intro ran
  exact Action.Only.bind (only_orAnswer _ _) fun _ => Action.only_pure _

theorem behind_handleAPIUPS : Behind s r g₀ (handleAPIUPS s r) := by
  have refused : Behind s r g₀ (throw notFound : ApiAction Response) := Reading.behind (Action.only_throw _)
  unfold handleAPIUPS
  dsimp only
  split
  · exact (reading_handleRead (reading_show _)).behind
  · split
    · split
      · exact refused
      · exact (reading_handleUPSDetail _).behind
    · split
      · exact refused
      · split
        · exact behind_handleUPSCommand enabled _
        · split
          · exact behind_handleUPSMetadata enabled _
          · split
            · exact behind_handleUPSSetVar enabled _
            · exact refused
    · exact refused

end Session

/-! ## The server -/

/-- The first password is set only if there is none. -/
theorem issues_handleBootstrap :
    Action.Issues (handler s) (· = g₀) (Covered s r g₀) (handleBootstrap s r) := by
  unfold handleBootstrap
  refine Action.Issues.bind (only_answerIf _ _).issues ?_ ?_
  · intro g same
    unfold answerIf
    split <;> exact same
  · intro _
    refine Action.Issues.gate (D := fun bootstrapped => bootstrapped = false → ¬ IsBootstrapped s g₀)
      (only_ask (Covered.of_none rfl)).issues ?_ ?_
    · rintro g bootstrapped t rfl asked none all
      have answered : (method s.auth s.auth.bootstrapped g.choice.auth g.state).1 = bootstrapped :=
        Except.ok.inj (congrArg Prod.fst asked)
      exact absurd ((all g.turn).symm.trans (answered.trans none)) (by decide)
    · intro bootstrapped first
      cases bootstrapped with
      | true => exact Action.only_throw _
      | false =>
        apply Action.Only.bind (only_answerIf _ _)
        intro _
        split
        · exact (reading_renderPage _ _).harmless
        · apply Action.Only.bind (reading_requireMethod _).harmless
          intro _
          apply Action.Only.bind harmless_checkAnonymousCSRF
          intro _
          apply Action.Only.bind (harmless_orRefuse _ _)
          intro request
          apply only_asked (Covered.of_effect (e := .bootstrap) rfl (first rfl))
          intro created
          apply Action.Only.bind (harmless_orRefuse _ _)
          intro _
          exact Action.Only.bind (harmless_startSession _) fun _ => Action.only_pure _

theorem mem_of_mostSpecific {path : List Bytes} {l : List (String × α)} {route : String × α}
    (best : mostSpecific path l = some route) : route ∈ l := by
  induction l with
  | nil => cases best
  | cons first rest ih =>
    obtain ⟨pattern, x⟩ := first
    unfold mostSpecific at best
    dsimp only at best
    split at best
    · split at best
      · next later found =>
        split at best
        · cases best
          exact List.mem_cons_of_mem _ (ih found)
        · cases best
          exact List.mem_cons_self
      · cases best
        exact List.mem_cons_self
    · exact List.mem_cons_of_mem _ (ih best)

theorem Behind.issues {x : ApiAction α} (behind : Behind s r g₀ x) :
    Action.Issues (handler s) (· = g₀) (Covered s r g₀) x :=
  fun g same => behind g (same ▸ Since.refl g)

theorem issues_routes (enabled : s.auth.enabled = true) :
    ∀ route ∈ routes s r, Action.Issues (handler s) (· = g₀) (Covered s r g₀) route.2 := by
  have reading : ∀ {x : ApiAction Response}, Reading x → Action.Issues (handler s) (· = g₀) (Covered s r g₀) x :=
    fun reading => reading.behind.issues
  have docs := fun answer => reading (reading_handleDocs (s := s) (r := r) answer)
  have health := reading (reading_handleRead (s := s) (r := r) reading_showHealth)
  have view := fun view => reading (reading_handleRead (s := s) (r := r) (reading_show view))
  have ups : Action.Issues (handler s) (· = g₀) (Covered s r g₀) (handleAPIUPS s r) :=
    (behind_handleAPIUPS enabled).issues
  have status : Reading (handleStatus r) :=
    Action.Only.bind (reading_requireMethod _) fun _ => reading_show _
  simp only [routes, List.forall_mem_cons, List.not_mem_nil, false_imp_iff, implies_true, and_true]
  exact ⟨(Action.only_pure _).issues, reading reading_handleIndex, harmless_handleAdopt.issues,
    issues_handleBootstrap, harmless_handleLogin.issues, harmless_handleLogout.issues,
    (behind_handleReset enabled).issues, reading reading_handleAPIAbout, health, view .stream, view .longHistory,
    view .diagnostics, ups, ups, reading reading_handleDiagnostics, reading reading_handleSettings,
    (behind_handleUISetting enabled).issues, (behind_handleChangePassword enabled).issues,
    (behind_handleSSHSetting enabled).issues, (behind_handleAPIKeySetting enabled).issues,
    (behind_handleAPIDocsSetting enabled).issues, (behind_handleUIPolicy enabled).issues,
    (behind_handleAgentUpdate enabled).issues, reading reading_handleUpdatesStatus,
    (behind_handleUpdatesCheck enabled).issues, (behind_handleUpdatesInstall enabled).issues, docs _, docs _, docs _,
    reading status, health, health⟩

/-- No request has an effect without the credentials that it needs. -/
theorem issues_serve (enabled : s.auth.enabled = true) :
    Action.Issues (handler s) (· = g₀) (Covered s r g₀) (serve s r) := by
  have refused : ∀ answer : Response, Action.Issues (handler s) (· = g₀) (Covered s r g₀) (throw answer : ApiAction Response) :=
    fun answer => (Action.only_throw answer).issues
  unfold serve
  split
  · exact refused _
  · split
    · exact refused _
    · split
      · exact refused _
      · next best =>
        split
        · exact refused _
        · exact issues_routes enabled _ (mem_of_mostSpecific best)

theorem effects_need_credentials {s : Service} (r : Request) (g : ApiTrial) (enabled : s.auth.enabled = true)
    (bootstrapped : IsBootstrapped s g) :
    (OnlyReadKey s r g → ∀ op ∈ Action.trace (handler s) (serve s r) g, op.effect = none) ∧
      (∀ op ∈ Action.trace (handler s) (serve s r) g,
        op.effect = some .controllerUpdate ∨ op.effect = some .uiPolicy → HasControllerToken s r g) ∧
      ∀ op ∈ Action.trace (handler s) (serve s r) g,
        op.effect = some .updateInstall ∨ op.effect = some .authReset ∨ op.effect = some .settingsChange →
          HasSession r g := by
  have covered : ∀ op ∈ Action.trace (handler s) (serve s r) g, Covered s r g op := issues_serve enabled g rfl
  refine ⟨?_, ?_, ?_⟩
  · intro only op issued
    cases effect : op.effect with
    | none => rfl
    | some e =>
      have permitted := covered op issued e effect
      have neither : ¬ (HasSession r g ∨ HasControllerToken s r g ∨ HasAPIKey r g apiKeyScopeWrite) := by
        rintro (session | token | key)
        · exact only.noSession session
        · exact only.notController token
        · exact only.noWriteKey key
      cases e with
      | instantCommand => exact absurd permitted neither
      | variableWrite => exact absurd permitted neither
      | metadataUpdate => exact absurd permitted neither
      | updateCheck => exact absurd permitted neither
      | settingsChange => exact absurd permitted only.noSession
      | authReset => exact absurd permitted only.noSession
      | updateInstall => exact absurd permitted only.noSession
      | uiPolicy => exact absurd permitted only.notController
      | controllerUpdate => exact absurd permitted only.notController
      | bootstrap => exact absurd bootstrapped permitted
  · intro op issued effect
    cases effect with
    | inl update => exact covered op issued _ update
    | inr policy => exact covered op issued _ policy
  · intro op issued effect
    rcases effect with install | reset | setting
    · exact covered op issued _ install
    · exact covered op issued _ reset
    · exact covered op issued _ setting

/-- Every call succeeds with an empty result. -/
def quietReply : (op : ApiOp) → op.Reply := fun op => by
  cases op <;> first | exact () | exact false | exact .ok () | exact .ok "" | exact .ok none | exact .ok ("", "") |
    exact .error (.text "")

def readKeyService : Service where
  auth := { enabled := true, bcrypt := { generate := fun p _ => .ok p, compare := fun hash p => hash = p } }
  adoptionPath := "/var/lib/strom/adoption.json"
  signatures := { sha256 := id, publicKey := fun _ => .ok [], verifyASN1 := fun _ _ _ => true }

def readKeyRecord : StoredAuth where
  username := "admin"
  passwordHash := "$2a$10$secret"
  createdAt := ⟨0⟩
  readAPIKey := "strom_ro_a"
  writeAPIKey := "strom_rw_b"

def readKeyTrial : ApiTrial where
  state := { auth := { file := .stored readKeyRecord } }
  choices := fun _ => { answer := quietReply }

def readKeyRequest : Request where
  method := "POST"
  rawPath := utf8 "/api/agent/updates/check"
  authorization := "Bearer strom_ro_a"

theorem effects_need_credentials_of_read_key :
    (Action.trace (handler readKeyService) (serve readKeyService readKeyRequest) readKeyTrial).filterMap
      ApiOp.effect = [] := by
  rw [List.filterMap_eq_nil_iff]
  have bootstrapped : IsBootstrapped readKeyService readKeyTrial := fun _ => rfl
  have token : readKeyRequest.bearerToken = "strom_ro_a" := by decide +kernel
  have sees : readKeyTrial.state.auth.seen = .ok readKeyRecord := rfl
  refine (effects_need_credentials readKeyRequest readKeyTrial rfl bootstrapped).1 ⟨?_, ?_, ?_, ?_⟩
  · exact ⟨readKeyRecord, sees, by rw [token]; decide, by rw [token]; rfl⟩
  · rintro ⟨record, sees', -, key⟩
    cases sees.symm.trans sees'
    rw [token] at key
    exact absurd key (by decide)
  · rintro ⟨_, _, cookie, -⟩
    cases cookie
  · rintro ⟨_, file, -⟩
    cases file

end Strom.Api
