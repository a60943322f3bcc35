import Strom.Api.Requests
import Strom.Routes.Nodes

/-!
# The handlers of the agent (`api.go`)

The gates, the handlers behind them and the routes, as `routes` registers them.  What a page or a
body shows is not modelled, but what is called to build it is.
-/

namespace Strom.Api

open Strom.Go Strom.Effects Strom.WebAuth Strom.Adoption Strom.Agent

/-- What `verifySignedUpdate` and the digests take from the standard library. -/
structure Signatures where
  sha256 : Bytes → Bytes
  /-- The ECDSA key of the certificate in a PEM text. -/
  publicKey : String → Except GoError Bytes
  /-- `ecdsa.VerifyASN1`. -/
  verifyASN1 : (publicKey digest signature : Bytes) → Bool

/-- The fields of a `Service` that the gates and the handlers read. -/
structure Service where
  auth : AuthManager
  adoptionPath : String
  hasAdopter : Bool := true
  hasUpdatesChecker : Bool := true
  signatures : Signatures

/-! ## Requests -/

namespace Request

/-- `r.URL.Path`. -/
@[irreducible] def path (r : Request) : String := textOf ((pathUnescape r.rawPath).getD [])

@[irreducible] def wantsHTML (r : Request) : Bool :=
  contains (toLower r.accept) "text/html" ||
    hasPrefix (toLower r.contentType) "application/x-www-form-urlencoded" ||
      hasPrefix (toLower r.contentType) "multipart/form-data"

def isJSON (r : Request) : Bool := hasPrefix (toLower r.contentType) "application/json"

/-- `r.FormValue`. -/
def formValue (r : Request) (key : String) : String :=
  match r.body.form with
  | .ok values => (values.lookup key).getD ""
  | .error _ => ""

@[irreducible] def bearerToken (r : Request) : String :=
  let authorization := trimSpace r.authorization
  if hasPrefix (toLower authorization) "bearer " then
    trimSpace (String.ofList (authorization.toList.drop "Bearer ".length))
  else ""

def csrfTokenFromRequest (r : Request) : Except GoError String :=
  let headerToken := trimSpace r.csrfHeader
  if headerToken ≠ "" then .ok headerToken
  else
    match r.body.form with
    | .error e => .error (.wrap "parse csrf form token" e)
    | .ok _ =>
      let formToken := trimSpace (r.formValue "csrf_token")
      if formToken = "" then .error (.text "csrf token is required") else .ok formToken

/-- A body that is JSON or a form. -/
def jsonOrForm {α : Type} (r : Request) (decodeContext parseContext : String) (decoded : Except GoError α)
    (ofForm : Except GoError α) : Except GoError α :=
  if r.isJSON then wrapError decodeContext decoded
  else
    match r.body.form with
    | .error e => .error (.wrap parseContext e)
    | .ok _ => ofForm

def loginRequest (r : Request) : Except GoError LoginRequest :=
  r.jsonOrForm "decode login request" "parse login form" r.body.login
    (.ok ⟨r.formValue "username", r.formValue "password"⟩)

def bootstrapRequest (r : Request) : Except GoError BootstrapRequest :=
  r.jsonOrForm "decode bootstrap request" "parse bootstrap form" r.body.bootstrap
    (.ok ⟨r.formValue "new_password", r.formValue "confirm_password"⟩)

def enabledFlag (r : Request) : Except GoError Bool :=
  r.jsonOrForm "decode ui setting request" "parse ui setting form" r.body.enabled
    (let value := toLower (trimSpace (r.formValue "enabled"))
    if value ∈ ["true", "1", "yes", "on"] then .ok true
    else if value ∈ ["false", "0", "no", "off"] then .ok false
    else .error (.text "enabled must be true or false"))

def sshSettingRequest (r : Request) : Except GoError SshSettingRequest :=
  if r.isJSON then wrapError "decode SSH setting request" r.body.sshSetting
  else r.enabledFlag.map fun enabled => ⟨enabled, r.formValue "password"⟩

def changePasswordRequest (r : Request) : Except GoError ChangePasswordRequest :=
  r.jsonOrForm "decode change password request" "parse change password form" r.body.changePassword
    (.ok ⟨r.formValue "current_password", r.formValue "new_password", r.formValue "confirm_password"⟩)

end Request

def validateLoginRequest (req : LoginRequest) : Except GoError Unit :=
  rejectIf (trimSpace req.username = "" ∨ req.password = "") (.text "username and password are required")

/-! ## Calls -/

/-- A call whose result is used as it is. -/
def ask (op : ApiOp) : ApiAction op.Reply := Action.always (.perform op)

/-- An error, as the answer of the handler. -/
def orAnswer {ε α : Type} (answer : ε → Response) : Except ε α → ApiAction α
  | .ok value => pure value
  | .error e => throw (answer e)

def badRequest (e : GoError) : Response := ⟨400, e.message⟩

def internalServerError (e : GoError) : Response := ⟨500, e.message⟩

def ok : Response := ⟨200, ""⟩

/-- `http.Redirect` with `http.StatusSeeOther`. -/
def seeOther (location : String) : Response := ⟨303, location⟩

def answerIf (condition : Prop) [Decidable condition] (answer : Response) : ApiAction Unit :=
  if condition then throw answer else return ()

def requireMethod (r : Request) (allowed : List String) : ApiAction Unit :=
  answerIf (r.method ∉ allowed) ⟨405, "method not allowed"⟩

/-- A call whose error is an internal one. -/
def load : ApiAction Loaded := do
  let loaded ← ask .load
  orAnswer internalServerError loaded

def showHealth : ApiAction Response := do
  let built ← ask .buildHealthResponse
  orAnswer internalServerError built
  return ok

def show_ (view : View) : ApiAction Response := do
  ask (.view view)
  return ok

section Handlers

variable (s : Service) (r : Request)

/-! ## Gates -/

def issueCSRFToken : ApiAction String := do
  let token ← ask .randomToken
  orAnswer internalServerError token

/-- `renderLoginPage` and `renderBootstrapPage` with a new token. -/
def renderPage {α : Type} (status : Nat) (message : String) : ApiAction α := do
  let _ ← issueCSRFToken
  throw ⟨status, message⟩

def requireSession : ApiAction String :=
  if ¬ s.auth.enabled then return ""
  else do
    let bootstrapped ← ask .bootstrapped
    if ¬ bootstrapped then
      if r.wantsHTML then throw (seeOther "/auth/bootstrap")
      else throw ⟨401, "node web auth not initialized; complete setup at /auth/bootstrap"⟩
    else do
      match ← ask (.sessionUsername r.sessionCookie) with
      | .ok username => return username
      | .error _ =>
        if r.wantsHTML then do
          let _ ← ask .load
          renderPage 401 "sign in required"
        else throw ⟨401, "authentication required"⟩

def controllerTokenMatches : ApiAction (Except GoError Bool) :=
  if s.adoptionPath = "" then return .ok false
  else if r.bearerToken = "" then return .ok false
  else do
    match ← ask .loadAdoption with
    | .error e => return .error e
    | .ok none => return .ok false
    | .ok (some adoption) =>
      return .ok (adoption.tokenSHA256 ≠ "" &&
        adoption.tokenSHA256 = hexEncode (s.signatures.sha256 (utf8 r.bearerToken)))

def localAPIKeyMatches : ApiAction (Except GoError (Option String)) :=
  if r.bearerToken = "" then return .ok none
  else ask (.matchAPIKey r.bearerToken)

/-- `requireReadAccess` and `requireWriteAccess`, by the scopes that suffice. -/
def requireAccess (scopes : List String) : ApiAction Unit :=
  if ¬ s.auth.enabled then return ()
  else do
    let controller ← controllerTokenMatches s r
    if controller = .ok true then return ()
    else do
      match ← localAPIKeyMatches r with
      | .ok (some scope) =>
        if scope ∈ scopes then return ()
        else do
          let _ ← requireSession s r
          return ()
      | _ => do
        let _ ← requireSession s r
        return ()

def requireReadAccess : ApiAction Unit := requireAccess s r [apiKeyScopeRead, apiKeyScopeWrite]

def requireWriteAccess : ApiAction Unit := requireAccess s r [apiKeyScopeWrite]

def requireControllerToken : ApiAction Unit :=
  if ¬ s.auth.enabled then throw ⟨404, "controller token auth unavailable when http auth is disabled"⟩
  else do
    let controller ← controllerTokenMatches s r
    if controller = .ok true then return () else throw ⟨401, "controller authentication required"⟩

def validateSessionCSRF : ApiAction (Except GoError Unit) :=
  match r.csrfTokenFromRequest with
  | .error e => return .error e
  | .ok requestToken => do
    match ← ask (.sessionCSRFToken r.sessionCookie) with
    | .error _ => return .error (.text "csrf session token is required")
    | .ok sessionToken => return rejectIf (requestToken ≠ sessionToken) (.text "csrf token mismatch")

def validateAnonymousCSRF : Except GoError Unit := do
  let requestToken ← r.csrfTokenFromRequest
  match r.csrfCookie with
  | none => .error (.text "csrf token cookie is required")
  | some cookie => rejectIf (requestToken ≠ cookie) (.text "csrf token mismatch")

/-- The CSRF check of a handler that also has a page. -/
def checkPageCSRF : ApiAction Unit :=
  if r.wantsHTML then do
    let checked ← validateSessionCSRF r
    orAnswer (fun e => ⟨403, e.message⟩) checked
  else return ()

/-! ## The account -/

def handleIndex : ApiAction Response := do
  answerIf (r.path ≠ "/") ⟨404, "404 page not found"⟩
  requireMethod r ["GET"]
  if s.auth.enabled then do
    let _ ← requireSession s r
    let loaded ← load
    answerIf (¬ loaded.record.isUIEnabled) (seeOther "/settings?message=local-ui-disabled")
    let csrfToken ← ask (.sessionCSRFToken r.sessionCookie)
    let _ ← orAnswer (fun _ => ⟨500, "load CSRF token"⟩) csrfToken
    showHealth
  else showHealth

def handleAdopt : ApiAction Response := do
  requireMethod r ["POST"]
  answerIf (¬ s.hasAdopter) ⟨501, "adoption unavailable"⟩
  let request ← orAnswer badRequest (wrapError "decode adopt request" r.body.adopt)
  orAnswer badRequest (validateAdoptRequest request)
  let applied ← ask (.applyAdoption request)
  orAnswer (fun failure => ⟨if failure.alreadyAdopted then 409 else 500, failure.error.message⟩) applied
  return ok

def clearSession (cookie : Option String) : ApiAction Unit :=
  match cookie with
  | none => return ()
  | some token => ask (.clearSession token)

def startSession (username : String) : ApiAction Unit := do
  clearSession (r.sessionCookie.map trimSpace)
  let created ← ask (.createSession username)
  let _ ← orAnswer internalServerError created
  return ()

/-- An answer of the handlers that come before a session: a page or JSON. -/
def refuseAnonymous {α : Type} (status : Nat) (message page : String) : ApiAction α :=
  if r.wantsHTML then renderPage status page else throw ⟨status, message⟩

/-- An error of a body or of the account, on a page or as JSON. -/
def orRefuse {α : Type} (status : GoError → Nat) : Except GoError α → ApiAction α
  | .ok value => pure value
  | .error e => refuseAnonymous r (status e) e.message e.message

def checkAnonymousCSRF : ApiAction Unit :=
  if r.wantsHTML then
    match validateAnonymousCSRF r with
    | .ok () => return ()
    | .error e => renderPage 403 e.message
  else return ()

def handleBootstrap : ApiAction Response := do
  answerIf (¬ s.auth.enabled) ⟨404, "bootstrap unavailable when http auth is disabled"⟩
  let bootstrapped ← ask .bootstrapped
  answerIf bootstrapped
    (if r.wantsHTML then seeOther "/auth/login" else ⟨409, "node web auth already initialized"⟩)
  if r.method = "GET" then renderPage 200 ""
  else do
    requireMethod r ["GET", "POST"]
    checkAnonymousCSRF r
    let request ← orRefuse r (fun _ => 400) r.bootstrapRequest
    let created ← ask (.bootstrap request.newPassword request.confirmPassword)
    orRefuse r (fun e => if e = errAlreadyBootstrapped then 409 else 400) created
    startSession r defaultAdminUsername
    return if r.wantsHTML then seeOther "/" else ok

def handleLogin : ApiAction Response := do
  answerIf (¬ s.auth.enabled) ⟨404, "login unavailable when http auth is disabled"⟩
  let bootstrapped ← ask .bootstrapped
  answerIf (¬ bootstrapped) (if r.wantsHTML then seeOther "/auth/bootstrap"
    else ⟨401, "node web auth not initialized; complete setup at /auth/bootstrap"⟩)
  if r.method = "GET" then do
    let _ ← issueCSRFToken
    let loaded ← ask .load
    match loaded with
    | .ok _ => return ok
    | .error e => if e = errAuthNotConfigured then return ok else throw (internalServerError e)
  else do
    requireMethod r ["GET", "POST"]
    checkAnonymousCSRF r
    let request ← orRefuse r (fun _ => 400) r.loginRequest
    orRefuse r (fun _ => 400) (validateLoginRequest request)
    let authenticated ← ask (.authenticate request.username request.password)
    orRefuse r (fun _ => 401) (authenticated.mapError fun _ => .text "invalid username or password")
    startSession r (trimSpace request.username)
    let loaded ← ask .load
    let uiEnabled := match loaded with | .ok stored => stored.record.isUIEnabled | .error _ => false
    return if r.wantsHTML then seeOther (if uiEnabled then "/" else "/settings?message=local-ui-disabled")
      else ok

def handleLogout : ApiAction Response := do
  answerIf (¬ s.auth.enabled) ⟨404, "logout unavailable when http auth is disabled"⟩
  requireMethod r ["POST"]
  checkPageCSRF r
  clearSession r.sessionCookie
  return if r.wantsHTML then seeOther "/auth/login" else ok

/-- The SSH access that a reset takes away. -/
def disableSSH (enabled : Bool) : ApiAction Unit :=
  if enabled then do
    let disabled ← ask .sshDisable
    orAnswer internalServerError disabled
  else return ()

def handleReset : ApiAction Response := do
  requireMethod r ["POST"]
  checkPageCSRF r
  let _ ← requireSession s r
  let loaded ← load
  disableSSH (loaded.record.sshEnabled.getD false)
  let reset ← ask .reset
  orAnswer internalServerError reset
  return if r.wantsHTML then seeOther "/" else ok

/-! ## The settings -/

/-- `buildSettingsViewModel`: `UIEnabled`, `UIManaged`, `SSHEnabled`, `SessionCSRFToken`,
    `APIKeyExists` twice, `APIDocsEnabled` and the status of the updates. -/
def buildSettingsViewModel : ApiAction Unit := do
  let _ ← load
  let _ ← load
  let _ ← load
  let csrfToken ← ask (.sessionCSRFToken r.sessionCookie)
  let _ ← orAnswer internalServerError csrfToken
  let _ ← load
  let _ ← load
  let _ ← load
  ask (.view .updatesStatus)

def handleSettings : ApiAction Response := do
  requireMethod r ["GET"]
  answerIf (¬ s.auth.enabled) (seeOther "/")
  let _ ← requireSession s r
  buildSettingsViewModel r
  return ok

def respondSettingsError {α : Type} (answer : Response) : ApiAction α :=
  if ¬ r.wantsHTML then throw answer
  else do
    buildSettingsViewModel r
    throw answer

/-- An error of a settings handler. -/
def orSettingsError {α : Type} (answer : GoError → Response) : Except GoError α → ApiAction α
  | .ok value => pure value
  | .error e => respondSettingsError r (answer e)

/-- `changePasswordError`, but for any answer. -/
def wrongPassword (status : Nat) (e : GoError) : Response :=
  if e = errInvalidCredentials then ⟨401, "current password is incorrect"⟩ else ⟨status, e.message⟩

/-- What the change of the password does first if SSH access is enabled. -/
def syncPassword (enabled : Bool) (newPassword : String) : ApiAction Unit :=
  if enabled then do
    let hash ← ask (.sshSyncPassword newPassword)
    let passwordHash ← orSettingsError r internalServerError hash
    let saved ← ask (.settings (.setSSHPasswordHash passwordHash))
    orSettingsError r internalServerError saved
  else return ()

def handleChangePassword : ApiAction Response := do
  requireMethod r ["POST"]
  checkPageCSRF r
  let _ ← requireSession s r
  let request ← orSettingsError r badRequest r.changePasswordRequest
  if request.newPassword ≠ request.confirmPassword then
    respondSettingsError r ⟨400, "new passwords do not match"⟩
  else do
    let loaded ← ask .load
    let stored ← orSettingsError r internalServerError loaded
    syncPassword r (stored.record.sshEnabled.getD false) request.newPassword
    let changed ← ask (.settings (.changePassword request.currentPassword request.newPassword))
    orSettingsError r (wrongPassword 400) changed
    return if r.wantsHTML then seeOther "/settings?message=password-updated" else ok

/-- The two branches of `handleSSHSetting`. -/
def switchSSH (username : String) (request : SshSettingRequest) : ApiAction (Except GoError Unit) :=
  if request.enabled then do
    let authenticated ← ask (.authenticate username request.password)
    orSettingsError r (fun _ => ⟨401, "current password is incorrect"⟩) authenticated
    match ← ask (.sshEnable request.password) with
    | .error e => return .error e
    | .ok passwordHash => ask (.settings (.setSSHEnabled true passwordHash))
  else do
    match ← ask .sshDisable with
    | .error e => return .error e
    | .ok () => ask (.settings (.setSSHEnabled false ""))

def handleSSHSetting : ApiAction Response := do
  requireMethod r ["POST"]
  checkPageCSRF r
  let username ← requireSession s r
  let request ← orSettingsError r badRequest r.sshSettingRequest
  let switched ← switchSSH r username request
  orSettingsError r internalServerError switched
  return if r.wantsHTML then
      seeOther ("/settings?message=" ++ if request.enabled then "ssh-access-enabled" else "ssh-access-disabled")
    else ok

def handleAPIKeySetting : ApiAction Response := do
  requireMethod r ["POST"]
  let checked ← validateSessionCSRF r
  orAnswer (fun e => ⟨403, e.message⟩) checked
  let _ ← requireSession s r
  let request ← orAnswer badRequest (wrapError "decode API key request" r.body.apiKey)
  let scope := trimSpace request.scope
  let action := trimSpace request.action
  answerIf (request.password = "") ⟨400, "current password is required"⟩
  if action = "reveal" then do
    let key ← ask (.revealAPIKey scope request.password)
    let key ← orAnswer (wrongPassword 500) key
    answerIf (key = "") ⟨404, "API key has not been generated"⟩
    return ok
  else if action = "regenerate" then do
    let regenerated ← ask (.settings (.regenerateAPIKey scope request.password))
    orAnswer (wrongPassword 500) regenerated
    return ok
  else throw ⟨400, "action must be reveal or regenerate"⟩

def handleAPIDocsSetting : ApiAction Response := do
  requireMethod r ["POST"]
  checkPageCSRF r
  let _ ← requireSession s r
  let enabled ← orAnswer badRequest r.enabledFlag
  let saved ← ask (.settings (.setAPIDocsEnabled enabled))
  orAnswer internalServerError saved
  return if r.wantsHTML then seeOther ("/settings?message=API+documentation+" ++
      if enabled then "enabled" else "disabled")
    else ok

def handleUISetting : ApiAction Response := do
  requireMethod r ["POST"]
  checkPageCSRF r
  let _ ← requireSession s r
  let enabled ← orAnswer badRequest r.enabledFlag
  let saved ← ask (.settings (.setUIEnabled enabled))
  orAnswer (fun e => ⟨if e = errUIPolicyManaged then 409 else 500, e.message⟩) saved
  return if r.wantsHTML then
      seeOther ("/settings?message=" ++ if enabled then "local-ui-enabled" else "local-ui-disabled")
    else ok

/-! ## What the controller calls -/

def handleUIPolicy : ApiAction Response := do
  requireMethod r ["POST"]
  requireControllerToken s r
  let request ← orAnswer badRequest (wrapError "decode local UI policy request" r.body.uiPolicy)
  let applied ← ask (.settings (.applyControllerUIPolicy request.managed request.enabled))
  orAnswer internalServerError applied
  return ok

/-- The value of a character of `base64.StdEncoding`. -/
def base64Value (c : Char) : Option Nat :=
  if 'A' ≤ c ∧ c ≤ 'Z' then some (c.toNat - 'A'.toNat)
  else if 'a' ≤ c ∧ c ≤ 'z' then some (c.toNat - 'a'.toNat + 26)
  else if '0' ≤ c ∧ c ≤ '9' then some (c.toNat - '0'.toNat + 52)
  else if c = '+' then some 62
  else if c = '/' then some 63
  else none

def base64Quanta : List Char → Option Bytes
  | [] => some []
  | [a, b, '=', '='] => do
    let a ← base64Value a
    let b ← base64Value b
    return [UInt8.ofNat (a * 4 + b / 16)]
  | [a, b, c, '='] => do
    let a ← base64Value a
    let b ← base64Value b
    let c ← base64Value c
    return [UInt8.ofNat (a * 4 + b / 16), UInt8.ofNat (b % 16 * 16 + c / 4)]
  | a :: b :: c :: d :: rest => do
    let a ← base64Value a
    let b ← base64Value b
    let c ← base64Value c
    let d ← base64Value d
    let rest ← base64Quanta rest
    return UInt8.ofNat (a * 4 + b / 16) :: UInt8.ofNat (b % 16 * 16 + c / 4) :: UInt8.ofNat (c % 4 * 64 + d) :: rest
  | _ => none

/-- `base64.StdEncoding.DecodeString`, whose error also says where the input is wrong. -/
def base64Decode (text : String) : Except GoError Bytes :=
  match base64Quanta (text.toList.filter fun c => c ≠ '\n' && c ≠ '\r') with
  | some bytes => .ok bytes
  | none => .error (.text "illegal base64 data")

def verifySignedUpdate (p : Signatures) (caPEM : String) (digest signature : Bytes) : Except GoError Unit := do
  rejectIf (digest.length ≠ 32) (.text "invalid digest size")
  let publicKey ← p.publicKey caPEM
  rejectIf (¬ p.verifyASN1 publicKey digest signature) (.text "signature verification failed")

/-- The binary and its signature, as the body of an update has them. -/
def decodeUpdate (p : Signatures) (request : OtaUpdateRequest) : Except Response (Bytes × Bytes) := do
  if trimSpace request.version = "" ∨ trimSpace request.binaryBase64 = "" ∨ trimSpace request.sha256 = "" ∨
      trimSpace request.signatureBase64 = "" then
    .error ⟨400, "version, binary_base64, sha256, and signature_base64 are required"⟩
  else
    let binary ← (base64Decode (trimSpace request.binaryBase64)).mapError fun e =>
      badRequest (.wrap "decode binary_base64" e)
    if binary.length = 0 then .error ⟨400, "binary payload is empty"⟩
    else
      let signature ← (base64Decode (trimSpace request.signatureBase64)).mapError fun e =>
        badRequest (.wrap "decode signature_base64" e)
      match hexDecode (toLower (trimSpace request.sha256)).toList with
      | none => .error ⟨400, "sha256 must be a 64-character lowercase hex digest"⟩
      | some providedDigest =>
        if providedDigest.length ≠ 32 then .error ⟨400, "sha256 must be a 64-character lowercase hex digest"⟩
        else if p.sha256 binary ≠ providedDigest then .error ⟨400, "sha256 does not match binary payload"⟩
        else .ok (binary, signature)

def handleAgentUpdate : ApiAction Response := do
  requireMethod r ["POST"]
  requireControllerToken s r
  let request ← orAnswer badRequest (wrapError "decode ota update request" r.body.otaUpdate)
  let (binary, signature) ← orAnswer id (decodeUpdate s.signatures request)
  let loaded ← ask .loadAdoption
  let adoption ← orAnswer internalServerError loaded
  let caPEM := (adoption.map (·.caPEM)).getD ""
  answerIf (trimSpace caPEM = "") ⟨409, "node adoption CA is unavailable for signature verification"⟩
  orAnswer (fun e => ⟨401, e.message⟩)
    (verifySignedUpdate s.signatures caPEM (s.signatures.sha256 binary) signature)
  let staged ← ask (.stageAndActivate (trimSpace request.version) binary)
  orAnswer internalServerError staged
  ask .restartAgentAsync
  return ok

/-! ## Standalone updates -/

def handleUpdatesStatus : ApiAction Response := do
  requireMethod r ["GET"]
  requireReadAccess s r
  show_ .updatesStatus

def noChecker : Response := ⟨404, "standalone update checking is not enabled on this node"⟩

def handleUpdatesCheck : ApiAction Response := do
  requireMethod r ["POST"]
  checkPageCSRF r
  requireWriteAccess s r
  answerIf (¬ s.hasUpdatesChecker) noChecker
  let checked ← ask .check
  orAnswer (fun e => ⟨502, e.message⟩) checked
  show_ .updatesStatus

def handleUpdatesInstall : ApiAction Response := do
  requireMethod r ["POST"]
  checkPageCSRF r
  let _ ← requireSession s r
  answerIf (¬ s.hasUpdatesChecker) noChecker
  let version ← orAnswer badRequest (wrapError "decode install request" r.body.updatesInstall)
  let requestedVersion := trimSpace version
  answerIf (requestedVersion = "") ⟨400, "version is required"⟩
  let installed ← ask (.install requestedVersion)
  orAnswer (fun e => ⟨502, e.message⟩) installed
  ask .restartAgentAsync
  return ok

/-! ## What only reads -/

/-- A page or an answer for whoever may read. -/
def handleRead (answer : ApiAction Response) : ApiAction Response := do
  requireMethod r ["GET"]
  requireReadAccess s r
  answer

def handleStatus : ApiAction Response := do
  requireMethod r ["GET"]
  show_ .status

def handleStatusDetails : ApiAction Response := handleRead s r showHealth

def handleHealthz : ApiAction Response := handleStatusDetails s r

def handleAPIHealth : ApiAction Response := handleRead s r showHealth

def handleAPIHealthHistoryLong : ApiAction Response := handleRead s r (show_ .longHistory)

def handleAPIHealthStream : ApiAction Response := handleRead s r (show_ .stream)

def handleAPIDiagnostics : ApiAction Response := handleRead s r (show_ .diagnostics)

def handleDiagnostics : ApiAction Response := do
  requireMethod r ["GET"]
  let _ ← requireSession s r
  let csrfToken ← ask (.sessionCSRFToken r.sessionCookie)
  let _ ← orAnswer (fun _ => ⟨500, "load CSRF token"⟩) csrfToken
  show_ .diagnostics

def handleAPIAbout : ApiAction Response := do
  requireMethod r ["GET"]
  let _ ← requireSession s r
  show_ .about

def apiDocsEnabled : ApiAction Unit := do
  match ← ask .load with
  | .ok loaded => answerIf (¬ loaded.record.apiDocsEnabled.getD false) ⟨404, "404 page not found"⟩
  | .error _ => throw ⟨404, "404 page not found"⟩

/-- The handlers of the documentation differ in what they answer. -/
def handleDocs (answer : Response) : ApiAction Response := do
  requireMethod r ["GET"]
  apiDocsEnabled
  let _ ← requireSession s r
  return answer

def handleAPIDocsRedirect : ApiAction Response := handleDocs s r ⟨307, "/api/docs/"⟩

def handleAPIDocs : ApiAction Response := handleDocs s r ok

def handleOpenAPISpecification : ApiAction Response := handleDocs s r ok

/-! ## One UPS -/

def detailStatus : ControlError → Nat
  | .notFound _ => 404
  | _ => 500

def controlStatus : ControlError → Nat
  | .notFound _ => 404
  | .notSupported _ => 400
  | .unavailable _ => 400
  | .other _ => 500

def metadataStatus : ControlError → Nat
  | .notFound _ => 400
  | e =>
    if contains e.message "must be" ∨ contains e.message "metadata cannot" ∨
        contains e.message "tags are allowed" then 400
    else 500

def handleUPSCommand (name : String) : ApiAction Response := do
  requireMethod r ["POST"]
  requireWriteAccess s r
  let command ← orAnswer badRequest (wrapError "decode command request" r.body.command)
  let command := trimSpace command
  answerIf (command = "") ⟨400, "cmd is required"⟩
  let ran ← ask (.runUPSCommand name command)
  orAnswer (fun e => ⟨controlStatus e, e.message⟩) ran
  return ok

def handleUPSMetadata (name : String) : ApiAction Response := do
  requireMethod r ["PATCH"]
  requireWriteAccess s r
  let metadata ← orAnswer badRequest (wrapError "decode UPS metadata" r.body.metadata)
  let updated ← ask (.updateUPSMetadata name metadata)
  orAnswer (fun e => ⟨metadataStatus e, e.message⟩) updated
  return ok

def handleUPSSetVar (name : String) : ApiAction Response := do
  requireMethod r ["POST"]
  requireWriteAccess s r
  let request ← orAnswer badRequest (wrapError "decode setvar request" r.body.setVar)
  let variable_ := trimSpace request.variable_
  answerIf (variable_ = "") ⟨400, "var is required"⟩
  let ran ← ask (.runUPSSetVariable name variable_ (trimSpace request.value))
  orAnswer (fun e => ⟨controlStatus e, e.message⟩) ran
  return ok

def handleUPSDetail (name : String) : ApiAction Response := do
  requireMethod r ["GET"]
  requireReadAccess s r
  let built ← ask (.buildUPSDetailResponse name)
  orAnswer (fun e => ⟨detailStatus e, e.message⟩) built
  return ok

/-- `strings.TrimPrefix`. -/
def trimPrefixText (text front : String) : String :=
  if hasPrefix text front then String.ofList (text.toList.drop front.length) else text

def notFound : Response := ⟨404, "404 page not found"⟩

def handleAPIUPS : ApiAction Response :=
  let path := trimPrefixText r.path "/api/ups"
  if path = "" ∨ path = "/" then handleRead s r (show_ .upsStatuses)
  else
    match ((trimPrefixText path "/").toList.splitOn '/').map String.ofList with
    | [name] => if name = "" then throw notFound else handleUPSDetail s r name
    | [name, part] =>
      if name = "" then throw notFound
      else if part = "command" then handleUPSCommand s r name
      else if part = "metadata" then handleUPSMetadata s r name
      else if part = "setvar" then handleUPSSetVar s r name
      else throw notFound
    | _ => throw notFound

/-! ## Routes -/

/-- The embedded files. -/
def handleAssets : ApiAction Response := return ok

/-- The patterns of `routes`, with their handlers. -/
def routes : List (String × ApiAction Response) :=
  [("/assets/", handleAssets),
    ("/", handleIndex s r),
    ("/adopt", handleAdopt s r),
    ("/auth/bootstrap", handleBootstrap s r),
    ("/auth/login", handleLogin s r),
    ("/auth/logout", handleLogout s r),
    ("/auth/reset", handleReset s r),
    ("/api/about", handleAPIAbout s r),
    ("/api/health", handleAPIHealth s r),
    ("/api/health/stream", handleAPIHealthStream s r),
    ("/api/health/history/long", handleAPIHealthHistoryLong s r),
    ("/api/diagnostics", handleAPIDiagnostics s r),
    ("/api/ups", handleAPIUPS s r),
    ("/api/ups/", handleAPIUPS s r),
    ("/diagnostics", handleDiagnostics s r),
    ("/settings", handleSettings s r),
    ("/settings/ui", handleUISetting s r),
    ("/settings/password", handleChangePassword s r),
    ("/settings/ssh", handleSSHSetting s r),
    ("/settings/api-key", handleAPIKeySetting s r),
    ("/settings/api-docs", handleAPIDocsSetting s r),
    ("/api/settings/ui/policy", handleUIPolicy s r),
    ("/api/agent/update", handleAgentUpdate s r),
    ("/api/agent/updates/status", handleUpdatesStatus s r),
    ("/api/agent/updates/check", handleUpdatesCheck s r),
    ("/api/agent/updates/install", handleUpdatesInstall s r),
    ("/api/docs", handleAPIDocsRedirect s r),
    ("/api/docs/", handleAPIDocs s r),
    ("/openapi.json", handleOpenAPISpecification s r),
    ("/status", handleStatus r),
    ("/status/details", handleStatusDetails s r),
    ("/healthz", handleHealthz s r)]

/-- Whether a pattern is for a path, given by the segments read: all paths below it if it ends in a
    slash, else the one that it is. -/
def matchesPattern (pattern path : List Bytes) : Bool :=
  if pattern.getLast? = some [] then pattern.dropLast.isPrefixOf path && decide (pattern.length ≤ path.length)
  else pattern = path

/-- How much of a path the pattern fixes. -/
def specificity (pattern : List Bytes) : Nat :=
  if pattern.getLast? = some [] then pattern.length - 1 else pattern.length

/-- The handler of the most specific pattern. -/
def mostSpecific {α : Type} (path : List Bytes) : List (String × α) → Option (String × α)
  | [] => none
  | (pattern, handler) :: rest =>
    let segments := splitPath (utf8 pattern)
    if matchesPattern segments path then
      match mostSpecific path rest with
      | some best => if specificity segments < specificity (splitPath (utf8 best.1)) then some best
        else some (pattern, handler)
      | none => some (pattern, handler)
    else mostSpecific path rest

/-- What the server does with a request: `http.ServeMux` with the patterns of `routes`. -/
def serve : ApiAction Response :=
  match (splitPath r.rawPath).mapM pathUnescape with
  | none => throw ⟨400, "400 Bad Request"⟩
  | some segments =>
    if Routes.isUnclean r.rawPath then throw ⟨301, ""⟩
    else
      match mostSpecific segments (routes s r) with
      | none => throw notFound
      | some (pattern, handler) =>
        -- A path that only lacks the slash at the end is redirected to the pattern that has it.
        if splitPath (utf8 pattern) ≠ segments ∧ segments.getLast? ≠ some [] ∧
            (routes s r).any (fun route => splitPath (utf8 route.1) = segments ++ [[]]) then throw ⟨301, ""⟩
        else handler

end Handlers

end Strom.Api
