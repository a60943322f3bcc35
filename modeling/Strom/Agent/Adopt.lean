import Strom.Agent.Apply
import Strom.Effects.Threads

/-!
# Being adopted (`adoption.go`, the agent's `api.go`)

`ApplyAdoption` as a program over the agent's files, and the handler of `POST /adopt`
around it.  The first request to be accepted is recorded in `adoption.json`; a later
one is refused, or answered again if it is the same.
-/

namespace Strom.Agent

open Strom.Go Strom.Effects Strom.Nutconf Strom.Adoption

/-- SHA-256 in hexadecimal: of an API token, and of the certificate of a pair. -/
structure Digests where
  token : String → String
  certificate : Nat → String
  token_ne : ∀ apiToken, token apiToken ≠ ""
  certificate_ne : ∀ pair, certificate pair ≠ ""

/-- `RuntimeAdopter`, as `main` fills it in. -/
structure RuntimeAdopter where
  serial : String
  version : String
  tlsPort : Int
  digests : Digests

/-- What `ApplyAdoption` fails with. -/
inductive AdoptionError where
  /-- Wraps `ErrNodeAlreadyAdopted`. -/
  | alreadyAdopted (serial : String)
  | other (e : GoError)
deriving DecidableEq, Repr

abbrev AdoptionAction := Action AgentOp AgentOp.Reply AdoptionError

/-- A part of `ApplyAdoption` that fails with an error of its own. -/
def plain {α : Type} (wrapping : GoError → GoError) (x : AgentAction α) : AdoptionAction α :=
  Action.mapError (fun e => .other (wrapping e)) x

/-- `os.WriteFile`. -/
def writeFile (file : AgentFile) (content : Content) : AgentAction Unit := do
  call (.truncate file) rfl id
  call (.write file content) rfl id

variable (a : RuntimeAdopter)

def certificateFingerprint : AgentAction String := do
  match ← call (.readFile .certificate) rfl (.wrap "read node TLS cert") with
  | .certificate pair => return a.digests.certificate pair
  | _ => throw (.text "decode node TLS cert PEM")

/-- The part of `ensureNodeCertificate` that makes a pair. -/
def makeNodeCertificate : AgentAction String := do
  call (.mkdirAll .certificate) rfl (.wrap "create TLS dir")
  let pair ← call .generateCertificate rfl (.wrap "generate node TLS key")
  Action.mapError (.wrap "write node TLS cert") (writeFile .certificate (.certificate pair))
  Action.mapError (.wrap "write node TLS key") (writeFile .key (.key pair))
  certificateFingerprint a

def ensureNodeCertificate : AgentAction String := do
  match ← Action.always (Program.perform (AgentOp.stat .certificate)) with
  | .ok _ =>
    match ← Action.always (Program.perform (AgentOp.stat .key)) with
    | .ok _ => certificateFingerprint a
    | .error _ => makeNodeCertificate a
  | .error _ => makeNodeCertificate a

def readAdoptionState : AgentAction AdoptionState := do
  match ← call (.readFile .adoption) rfl id with
  | .adoption state => return state
  | _ => throw (.text "invalid character")

def writeAdoptionState (state : AdoptionState) : AgentAction Unit :=
  writeFile .adoption (.adoption state)

def AdoptionState.isFor (state : AdoptionState) (a : RuntimeAdopter) (req : AdoptRequest) : Bool :=
  state.tokenSHA256 = a.digests.token req.apiToken && state.nutUser = req.nutUser &&
    state.nutPassword = req.nutPassword && state.controllerURL = req.controllerURL

/-- `ApplyAdoption` for a node that is adopted. -/
def replayAdoption (req : AdoptRequest) : AdoptionAction AdoptResponse := do
  let existing ← plain (.wrap "read existing adoption config") readAdoptionState
  if existing.isFor a req then
    let tlsPort := if existing.tlsPort = 0 then a.tlsPort else existing.tlsPort
    let fingerprint ←
      if existing.tlsFingerprint = "" then
        plain (.wrap "ensure node TLS certificate") (ensureNodeCertificate a)
      else pure existing.tlsFingerprint
    if existing.tlsPort ≠ tlsPort ∨ existing.tlsFingerprint ≠ fingerprint then
      plain (.wrap "write adoption config")
        (writeAdoptionState { existing with tlsPort, tlsFingerprint := fingerprint })
    return { serial := a.serial
             version := a.version
             controllerURL := req.controllerURL
             tlsPort
             tlsFingerprint := fingerprint
             tokenSHA256 := existing.tokenSHA256 }
  else throw (.alreadyAdopted a.serial)

/-- The content of `upsd.users` for a user. -/
def usersContent (user : UPSDUser) : Content := .text (utf8 (renderUPSDUsers user))

def AdoptRequest.nutAccount (req : AdoptRequest) : UPSDUser where
  username := req.nutUser
  password := req.nutPassword

/-- What the first adoption records. -/
def adoptionStateOf (req : AdoptRequest) (fingerprint : String) (now : Int) : AdoptionState where
  caPEM := req.caPEM
  nutUser := req.nutUser
  nutPassword := req.nutPassword
  tokenSHA256 := a.digests.token req.apiToken
  controllerURL := req.controllerURL
  tlsPort := a.tlsPort
  tlsFingerprint := fingerprint
  adoptedAt := now

/-- What `ApplyAdoption` does once the adoption is recorded. -/
def announceAdoption (req : AdoptRequest) (fingerprint : String) : AdoptionAction AdoptResponse := do
  let _ ← plain (.wrap "write upsd.users")
    (writeIfChanged .upsdUsers (usersContent (AdoptRequest.nutAccount req)))
  plain (.wrap "reload NUT services") (reload true [])
  Action.always (Program.perform (AgentOp.updateNUTCredentials (AdoptRequest.nutAccount req)))
  Action.always (Program.perform (AgentOp.updateAdopted true))
  return { serial := a.serial
           version := a.version
           controllerURL := req.controllerURL
           tlsPort := a.tlsPort
           tlsFingerprint := fingerprint
           tokenSHA256 := a.digests.token req.apiToken }

/-- `ApplyAdoption` for a node that is not adopted. -/
def firstAdoption (req : AdoptRequest) : AdoptionAction AdoptResponse := do
  let now ← Action.always (Program.perform AgentOp.now)
  let fingerprint ← plain (.wrap "ensure node TLS certificate") (ensureNodeCertificate a)
  plain (.wrap "create adoption dir") (call (.mkdirAll .adoption) rfl id)
  plain (.wrap "write adoption config") (writeAdoptionState (adoptionStateOf a req fingerprint now))
  announceAdoption a req fingerprint

/-- `a.ApplyAdoption`. -/
def applyAdoption (req : AdoptRequest) : AdoptionAction AdoptResponse := do
  match ← Action.always (Program.perform (AgentOp.stat .adoption)) with
  | .ok _ => replayAdoption a req
  | .error e =>
    if e.isNotExist then firstAdoption a req
    else throw (.other (.wrap "stat adoption config" e))

/-! ## What they touch -/

section Touches

variable {P : AgentOp → Prop} {α : Type}

theorem only_plain {wrapping : GoError → GoError} {x : AgentAction α} (only : Action.Only P x) :
    Action.Only P (plain wrapping x) :=
  Action.Only.mapError only

theorem only_writeFile (file : AgentFile) (content : Content)
    (allowed : ∀ op : AgentOp, op.file? = some file → P op) :
    Action.Only P (writeFile file content) := by
  apply Action.Only.bind (only_call rfl _ (allowed _ rfl))
  intro _
  exact only_call rfl _ (allowed _ rfl)

/-- The operations of `ensureNodeCertificate`. -/
def AgentOp.onCertificate (op : AgentOp) : Prop :=
  op.file? = some .certificate ∨ op.file? = some .key ∨ op = .generateCertificate

variable (a : RuntimeAdopter)

theorem only_certificateFingerprint (allowed : ∀ op : AgentOp, op.onCertificate → P op) :
    Action.Only P (certificateFingerprint a) := by
  apply Action.Only.bind (only_call rfl _ (allowed _ (.inl rfl)))
  intro content
  cases content with
  | certificate pair => exact Action.only_pure _
  | _ => exact Action.only_throw _

theorem only_ensureNodeCertificate (allowed : ∀ op : AgentOp, op.onCertificate → P op) :
    Action.Only P (ensureNodeCertificate a) := by
  have makes : Action.Only P (makeNodeCertificate a) := by
    apply Action.Only.bind (only_call rfl _ (allowed _ (.inl rfl)))
    intro _
    apply Action.Only.bind (only_call rfl _ (allowed _ (.inr (.inr rfl))))
    intro pair
    apply Action.Only.bind
    · exact Action.Only.mapError (only_writeFile _ _ fun op about => allowed op (.inl about))
    · intro _
      apply Action.Only.bind
      · exact Action.Only.mapError (only_writeFile _ _ fun op about => allowed op (.inr (.inl about)))
      · intro _
        exact only_certificateFingerprint a allowed
  apply Action.Only.bind (only_always (allowed _ (.inl rfl)))
  intro certificate
  cases certificate with
  | error e => exact makes
  | ok _ =>
    apply Action.Only.bind (only_always (allowed _ (.inr (.inl rfl))))
    intro key
    cases key with
    | error e => exact makes
    | ok _ => exact only_certificateFingerprint a allowed

theorem only_announceAdoption (req : AdoptRequest) (fingerprint : String)
    (users : ∀ op : AgentOp, op.file? = some .upsdUsers → P op)
    (services : ∀ op : AgentOp, op.isService = true → P op)
    (memory : ∀ user adopted, P (.updateNUTCredentials user) ∧ P (.updateAdopted adopted)) :
    Action.Only P (announceAdoption a req fingerprint) := by
  apply Action.Only.bind (only_plain (only_writeIfChanged _ users))
  intro _
  apply Action.Only.bind (only_plain (only_reload _ _ services))
  intro _
  apply Action.Only.bind (only_always (memory _ true).1)
  intro _
  apply Action.Only.bind (only_always (memory (AdoptRequest.nutAccount req) _).2)
  intro _
  exact Action.only_pure _

end Touches

/-! ## The handler -/

def AdoptionError.message : AdoptionError → String
  | .alreadyAdopted serial => "node already adopted: " ++ serial
  | .other e => e.message

def AdoptionError.status : AdoptionError → Nat
  | .alreadyAdopted _ => 409
  | .other _ => 500

/-- `handleAdopt`, for a body that decodes. -/
def handleAdopt (req : AdoptRequest) : AgentProgram AdoptAnswer :=
  match validateAdoptRequest req with
  | .error e => .ret (.error (400, e.message))
  | .ok _ => do
    match ← Action.toProgram (applyAdoption a req) with
    | .error e => return .error (e.status, e.message)
    | .ok response => return .ok response

/-! ## Goroutines -/

/-- The goroutines that work on the agent's files. -/
inductive Task where
  /-- A request handler. -/
  | adopt (req : AdoptRequest)
  /-- One iteration of the main loop. -/
  | event
deriving DecidableEq, Repr

def Task.code : Task → AgentProgram Unit
  | .adopt req => (handleAdopt a req).bind fun answer => Program.perform (AgentOp.respond req answer)
  | .event => iteration

def runtime : Runtime Task AgentOp AgentOp.Reply Chance Node where
  code := Task.code a
  perform := fun op chance node => some (perform op chance node)
  starts := fun _ => []

abbrev AgentPool := Pool Node (Thread Task AgentOp AgentOp.Reply)

/-! ## Sample requests -/

/-- An adopter with digests that tell short texts apart. -/
def adopter1 : RuntimeAdopter where
  serial := "node-1"
  version := "1.0.0"
  tlsPort := 8443
  digests :=
    { token := fun apiToken => "sha256:" ++ apiToken
      certificate := fun pair => "pair " ++ toString pair
      token_ne := by simp
      certificate_ne := by simp }

def requestOf (apiToken : String) : AdoptRequest where
  caPEM := "ca"
  nutUser := "controller"
  nutPassword := "secret"
  apiToken
  controllerURL := "http://strom"

/-- So many turns of a thread without faults. -/
def calmTurns (thread count : Nat) : List (Turn Chance) := List.replicate count ⟨thread, {}⟩

end Strom.Agent
