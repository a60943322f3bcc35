import Strom.Adoption.Messages
import Strom.Agent.UpsMetadata
import Strom.WebAuth.Settings

/-!
# Requests to the agent (`api.go`)

What a handler of the agent reads of a request, and the operations that it calls: the methods of
the web account and of the other parts of the agent.  A request is one program over these
operations.
-/

namespace Strom.Api

open Strom.Go Strom.Effects Strom.WebAuth Strom.Adoption Strom.Agent

/-! ## Bodies -/

structure LoginRequest where
  username : String
  password : String
deriving DecidableEq, Repr

structure BootstrapRequest where
  newPassword : String
  confirmPassword : String
deriving DecidableEq, Repr

structure ChangePasswordRequest where
  currentPassword : String
  newPassword : String
  confirmPassword : String
deriving DecidableEq, Repr

structure SshSettingRequest where
  enabled : Bool
  password : String
deriving DecidableEq, Repr

structure ApiKeyRequest where
  scope : String
  action : String
  password : String
deriving DecidableEq, Repr

structure UiPolicyRequest where
  managed : Bool
  enabled : Bool
deriving DecidableEq, Repr

structure OtaUpdateRequest where
  version : String
  binaryBase64 : String
  sha256 : String
  signatureBase64 : String
deriving DecidableEq, Repr

structure UpsSetVarRequest where
  variable_ : String
  value : String
deriving DecidableEq, Repr

/-- The error of decoding an empty body. -/
def eof : GoError := .text "EOF"

/-- What the body is, decoded as JSON into each of the types that a handler decodes into, and as
    a form. -/
structure Body where
  /-- `r.ParseForm`, and the values of the form. -/
  form : Except GoError (List (String × String)) := .ok []
  adopt : Except GoError AdoptRequest := .error eof
  login : Except GoError LoginRequest := .error eof
  bootstrap : Except GoError BootstrapRequest := .error eof
  enabled : Except GoError Bool := .error eof
  sshSetting : Except GoError SshSettingRequest := .error eof
  changePassword : Except GoError ChangePasswordRequest := .error eof
  apiKey : Except GoError ApiKeyRequest := .error eof
  uiPolicy : Except GoError UiPolicyRequest := .error eof
  otaUpdate : Except GoError OtaUpdateRequest := .error eof
  updatesInstall : Except GoError String := .error eof
  command : Except GoError String := .error eof
  metadata : Except GoError UpsMetadata := .error eof
  setVar : Except GoError UpsSetVarRequest := .error eof

structure Request where
  method : String := "GET"
  /-- The path as it is sent. -/
  rawPath : Bytes
  authorization : String := ""
  accept : String := ""
  contentType : String := ""
  csrfHeader : String := ""
  /-- The values of the cookies `strom_session` and `strom_csrf`. -/
  sessionCookie : Option String := none
  csrfCookie : Option String := none
  body : Body := {}

/-- An answer: its status, and the error, the location or the message in it. -/
structure Response where
  status : Nat
  text : String := ""
deriving DecidableEq, Repr

/-! ## Operations -/

/-- `storedAdoption`. -/
structure StoredAdoption where
  tokenSHA256 : String
  caPEM : String
deriving DecidableEq, Repr

inductive AdoptionFile where
  | absent
  | malformed
  | stored (adoption : StoredAdoption)
deriving DecidableEq, Repr

/-- The errors that the handlers of a UPS tell apart. -/
inductive ControlError where
  | notFound (e : GoError)
  | notSupported (e : GoError)
  | unavailable (e : GoError)
  | other (e : GoError)
deriving DecidableEq, Repr

def ControlError.message : ControlError → String
  | notFound e => e.message
  | notSupported e => e.message
  | unavailable e => e.message
  | other e => e.message

/-- The error of `ApplyAdoption`, and whether it wraps `errNodeAlreadyAdopted`. -/
structure AdoptFailure where
  alreadyAdopted : Bool
  error : GoError
deriving DecidableEq, Repr

/-- What a page or an answer is made of, without changing anything. -/
inductive View where
  | status
  | longHistory
  | stream
  | about
  | diagnostics
  | upsStatuses
  | updatesStatus
deriving DecidableEq, Repr

inductive ApiOp where
  | bootstrapped
  | authenticate (username password : String)
  | bootstrap (newPassword confirmPassword : String)
  | createSession (username : String)
  | clearSession (token : String)
  | sessionUsername (cookie : Option String)
  | sessionCSRFToken (cookie : Option String)
  | matchAPIKey (token : String)
  /-- `load`, of which `UIEnabled` and the other methods read a field. -/
  | load
  | revealAPIKey (scope password : String)
  | settings (call : SettingsCall)
  | reset
  | randomToken
  /-- `loadAdoption`, which reads the file that `ApplyAdoption` writes. -/
  | loadAdoption
  | applyAdoption (request : AdoptRequest)
  | sshEnable (password : String)
  | sshDisable
  | sshSyncPassword (password : String)
  | runUPSCommand (name command : String)
  | runUPSSetVariable (name variable_ value : String)
  | updateUPSMetadata (name : String) (metadata : UpsMetadata)
  | buildHealthResponse
  | buildUPSDetailResponse (name : String)
  /-- The methods of `updates.Checker` and of `updates.Store`. -/
  | check
  | install (version : String)
  | stageAndActivate (version : String) (binary : Bytes)
  | restartAgentAsync
  | view (view : View)
deriving DecidableEq

@[reducible] def ApiOp.Reply : ApiOp → Type
  | .bootstrapped => Bool
  | .authenticate _ _ => Except GoError Unit
  | .bootstrap _ _ => Except GoError Unit
  | .createSession _ => Except GoError (String × String)
  | .clearSession _ => Unit
  | .sessionUsername _ => Except GoError String
  | .sessionCSRFToken _ => Except GoError String
  | .matchAPIKey _ => Except GoError (Option String)
  | .load => Except GoError Loaded
  | .revealAPIKey _ _ => Except GoError String
  | .settings _ => Except GoError Unit
  | .reset => Except GoError Unit
  | .randomToken => Except GoError String
  | .loadAdoption => Except GoError (Option StoredAdoption)
  | .applyAdoption _ => Except AdoptFailure Unit
  | .sshEnable _ => Except GoError String
  | .sshDisable => Except GoError Unit
  | .sshSyncPassword _ => Except GoError String
  | .runUPSCommand _ _ => Except ControlError Unit
  | .runUPSSetVariable _ _ _ => Except ControlError Unit
  | .updateUPSMetadata _ _ => Except ControlError Unit
  | .buildHealthResponse => Except GoError Unit
  | .buildUPSDetailResponse _ => Except ControlError Unit
  | .check => Except GoError Unit
  | .install _ => Except GoError Unit
  | .stageAndActivate _ _ => Except GoError Unit
  | .restartAgentAsync => Unit
  | .view _ => Unit

/-! ## Their meaning -/

/-- What the agent remembers of who may do what. -/
structure AgentState where
  auth : AuthState := {}
  adoption : AdoptionFile := .absent
deriving DecidableEq

structure ApiChoice where
  /-- The chances of the steps of a method of the account. -/
  auth : Nat → WebAuth.Chance := fun _ => {}
  /-- The error of reading the adoption file. -/
  fault : Option GoError := none
  /-- The adoption file after `ApplyAdoption`, if that changes it. -/
  adopted : Option AdoptionFile := none
  /-- The reply of whatever is neither the account nor the adoption file. -/
  answer : (op : ApiOp) → op.Reply

/-- `os.ReadFile` and the decoding of `loadAdoption`. -/
def AdoptionFile.load (file : AdoptionFile) (fault : Option GoError) : Except GoError (Option StoredAdoption) :=
  match fault, file with
  | some cause, _ => .error (.wrap "read adoption config" cause)
  | none, .absent => .ok none
  | none, .malformed => .error (.wrap "decode adoption config" (.text "invalid JSON"))
  | none, .stored adoption => .ok (some adoption)

/-- A method of the account, run to its end. -/
def method {α : Type} (a : AuthManager) (p : AuthProgram α) (chances : Nat → WebAuth.Chance) (s : AgentState) :
    α × AgentState :=
  let outcome := p.run (guide (WebAuth.perform a)) { state := s.auth, choices := chances }
  (outcome.1, { s with auth := outcome.2.state })

def performApi (a : AuthManager) : (op : ApiOp) → ApiChoice → AgentState → op.Reply × AgentState
  | .bootstrapped, choice, s => method a a.bootstrapped choice.auth s
  | .authenticate username password, choice, s =>
    method a (Action.toProgram (a.authenticate username password)) choice.auth s
  | .bootstrap newPassword confirmPassword, choice, s =>
    method a (Action.toProgram (a.bootstrap newPassword confirmPassword)) choice.auth s
  | .createSession username, choice, s => method a (Action.toProgram (a.createSession username)) choice.auth s
  | .clearSession token, choice, s => method a (AuthManager.clearSession token) choice.auth s
  | .sessionUsername cookie, choice, s => method a (Action.toProgram (a.sessionUsername cookie)) choice.auth s
  | .sessionCSRFToken cookie, choice, s => method a (Action.toProgram (a.sessionCSRFToken cookie)) choice.auth s
  | .matchAPIKey token, choice, s => method a (Action.toProgram (AuthManager.matchAPIKey token)) choice.auth s
  | .load, choice, s => method a (Action.toProgram AuthManager.load) choice.auth s
  | .revealAPIKey scope password, choice, s =>
    method a (Action.toProgram (a.revealAPIKey scope password)) choice.auth s
  | .settings call, choice, s => method a (Action.toProgram (call.run a)) choice.auth s
  | .reset, choice, s => method a (Action.toProgram AuthManager.reset) choice.auth s
  | .randomToken, choice, s => method a (Action.toProgram AuthManager.randomToken) choice.auth s
  | .loadAdoption, choice, s => (s.adoption.load choice.fault, s)
  | .applyAdoption request, choice, s =>
    (choice.answer (.applyAdoption request), { s with adoption := choice.adopted.getD s.adoption })
  | op, choice, s => (choice.answer op, s)

abbrev ApiProgram := Program ApiOp ApiOp.Reply

/-- A handler returns early with an answer, or goes on. -/
abbrev ApiAction := Action ApiOp ApiOp.Reply Response

end Strom.Api
