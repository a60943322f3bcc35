import Strom.Api.Handlers
import Strom.Effects.Gates

/-!
# Who may do what

`Permitted` names the credentials that an effect needs; no request has an effect without them, whatever
the replies are (`issues_serve`).
-/

namespace Strom.Api

open Strom.Go Strom.Effects Strom.WebAuth Strom.Adoption Strom.Agent

abbrev ApiTrial := Guided AgentState ApiChoice

abbrev handler (s : Service) : Handler ApiOp ApiOp.Reply ApiTrial := guide (performApi s.auth)

/-! ## Credentials -/

section Credentials

variable (s : Service) (r : Request) (g : ApiTrial)

/-- The cookie is that of a session, which at an instant of the request has not expired. -/
def HasSession : Prop :=
  ∃ token session, r.sessionCookie = some token ∧ session ∈ g.state.auth.sessions ∧ session.token = token ∧
    ∃ turn step, ¬ session.expiresAt.ns < ((g.choices turn).auth step).now.ns

/-- The bearer token is the one of the adoption. -/
def HasControllerToken : Prop :=
  ∃ adoption, g.state.adoption = .stored adoption ∧ r.bearerToken ≠ "" ∧ adoption.tokenSHA256 ≠ "" ∧
    adoption.tokenSHA256 = hexEncode (s.signatures.sha256 (utf8 r.bearerToken))

/-- The bearer token is the API key of a scope. -/
def HasAPIKey (scope : String) : Prop :=
  ∃ record, g.state.auth.seen = .ok record ∧ r.bearerToken ≠ "" ∧ record.apiKey scope = .ok r.bearerToken

/-- The read key is the only credential. -/
structure OnlyReadKey : Prop where
  readKey : HasAPIKey r g apiKeyScopeRead
  noWriteKey : ¬ HasAPIKey r g apiKeyScopeWrite
  noSession : ¬ HasSession r g
  notController : ¬ HasControllerToken s r g

/-- `Bootstrapped` answers yes, whenever it is asked. -/
def IsBootstrapped : Prop := ∀ turn, (method s.auth s.auth.bootstrapped (g.choices turn).auth g.state).1 = true

end Credentials

/-! ## Effects -/

inductive Effect where
  | instantCommand
  | variableWrite
  | metadataUpdate
  /-- The password, an API key, or the settings of the UI, SSH access or the documentation. -/
  | settingsChange
  | authReset
  | uiPolicy
  | updateCheck
  | updateInstall
  | controllerUpdate
  /-- The first password. -/
  | bootstrap
deriving DecidableEq, Repr

def ApiOp.effect : ApiOp → Option Effect
  | .runUPSCommand _ _ => some .instantCommand
  | .runUPSSetVariable _ _ _ => some .variableWrite
  | .updateUPSMetadata _ _ => some .metadataUpdate
  | .settings (.applyControllerUIPolicy _ _) => some .uiPolicy
  | .settings _ => some .settingsChange
  | .sshEnable _ => some .settingsChange
  | .sshDisable => some .settingsChange
  | .sshSyncPassword _ => some .settingsChange
  | .reset => some .authReset
  | .check => some .updateCheck
  | .install _ => some .updateInstall
  | .stageAndActivate _ _ => some .controllerUpdate
  | .bootstrap _ _ => some .bootstrap
  | _ => none

/-- The credentials that an effect needs. -/
def Effect.Permitted (s : Service) (r : Request) (g : ApiTrial) : Effect → Prop
  | instantCommand | variableWrite | metadataUpdate | updateCheck =>
    HasSession r g ∨ HasControllerToken s r g ∨ HasAPIKey r g apiKeyScopeWrite
  | settingsChange | authReset | updateInstall => HasSession r g
  | uiPolicy | controllerUpdate => HasControllerToken s r g
  | bootstrap => ¬ IsBootstrapped s g

/-- The effect of the operation, if it has one, is permitted. -/
def Covered (s : Service) (r : Request) (g : ApiTrial) (op : ApiOp) : Prop := ∀ e ∈ op.effect, e.Permitted s r g

/-! ## What only reads -/

/-- The operations that leave the credentials as they are and have no effect. -/
def ApiOp.Reads : ApiOp → Prop
  | .bootstrapped | .authenticate _ _ | .sessionUsername _ | .sessionCSRFToken _ | .matchAPIKey _ | .load
  | .revealAPIKey _ _ | .randomToken | .loadAdoption | .buildHealthResponse | .buildUPSDetailResponse _
  | .view _ => True
  | _ => False

theorem covered_of_reads {s : Service} {r : Request} {g : ApiTrial} (op : ApiOp) (reads : op.Reads) :
    Covered s r g op := by
  intro e effect
  cases op <;> first | exact False.elim reads | cases effect

/-- What the credentials at an instant were when the request came. -/
structure Since (g₀ g : ApiTrial) : Prop where
  choices : g.choices = g₀.choices
  adoption : g.state.adoption = g₀.state.adoption
  seen : g.state.auth.seen = g₀.state.auth.seen
  sessions : ∀ session ∈ g.state.auth.sessions, session ∈ g₀.state.auth.sessions

theorem Since.refl (g : ApiTrial) : Since g g := ⟨rfl, rfl, rfl, fun _ member => member⟩

/-- The operations of the account that leave the record and add no session. -/
def Quiet : AuthOp → Prop
  | .load | .generateHash _ | .randomToken | .now | .findSession _ => True
  | _ => False

section Quiet

variable {a : AuthManager}

theorem quiet_keeps {record : Except GoError StoredAuth} {sessions : List AuthSession} (op : AuthOp) (g : Trial)
    (quiet : Quiet op)
    (now : g.state.seen = record ∧ ∀ session ∈ g.state.sessions, session ∈ sessions) :
    (guide (WebAuth.perform a) op g).2.state.seen = record ∧
      ∀ session ∈ (guide (WebAuth.perform a) op g).2.state.sessions, session ∈ sessions := by
  obtain ⟨seen, inside⟩ := now
  cases op with
  | load =>
    refine ⟨(g.state.seen_load g.choice).trans seen, ?_⟩
    cases g.state.load_cases g.choice with
    | inl loaded =>
      obtain ⟨stored, -, -, ⟨after, -⟩ | ⟨after, -⟩⟩ := loaded <;>
        simp only [guide, WebAuth.perform, after] <;> exact inside
    | inr failed =>
      obtain ⟨e, -, after, -⟩ := failed
      simp only [guide, WebAuth.perform, after]
      exact inside
  | findSession token =>
    refine ⟨seen, ?_⟩
    intro session member
    exact inside session (List.mem_of_mem_filter member)
  | generateHash password => exact ⟨seen, inside⟩
  | randomToken => exact ⟨seen, inside⟩
  | now => exact ⟨seen, inside⟩
  | _ => cases quiet

/-- A method that is quiet leaves the credentials as they are. -/
theorem method_since {α : Type} {p : AuthProgram α} (quiet : p.Only Quiet) (chances : Nat → WebAuth.Chance)
    (s : AgentState) :
    (method a p chances s).2.adoption = s.adoption ∧ (method a p chances s).2.auth.seen = s.auth.seen ∧
      ∀ session ∈ (method a p chances s).2.auth.sessions, session ∈ s.auth.sessions := by
  have kept := quiet.run (h := guide (WebAuth.perform a))
    (I := fun g => g.state.seen = s.auth.seen ∧ ∀ session ∈ g.state.sessions, session ∈ s.auth.sessions)
    quiet_keeps (s := { state := s.auth, choices := chances }) ⟨rfl, fun _ member => member⟩
  exact ⟨rfl, kept⟩

theorem quiet_load : Action.Only Quiet AuthManager.load := Program.only_perform trivial

theorem quiet_randomToken : Action.Only Quiet AuthManager.randomToken := Program.only_perform trivial

theorem quiet_bootstrapped : a.bootstrapped.Only Quiet := by
  unfold AuthManager.bootstrapped
  split
  · exact Program.only_ret _
  · apply Program.Only.bind quiet_load
    intro loaded
    cases loaded <;> exact Program.only_ret _

theorem quiet_authenticate (username password : String) : Action.Only Quiet (a.authenticate username password) := by
  unfold AuthManager.authenticate
  split
  · exact Action.only_pure ()
  · apply Action.Only.bind quiet_load
    intro stored
    split
    · exact Action.only_throw _
    · split
      · exact Action.only_throw _
      · exact Action.only_pure ()

theorem quiet_findSession {α : Type} (token : String) {f : Option AuthSession → AuthAction α}
    (rest : ∀ found, Action.Only Quiet (f found)) :
    Action.Only Quiet ((Action.always (.perform (AuthOp.findSession token)) : AuthAction (Option AuthSession)) >>= f) :=
  Action.Only.bind (Action.Only.always (Program.only_perform trivial)) rest

theorem quiet_sessionUsername (cookie : Option String) : Action.Only Quiet (a.sessionUsername cookie) := by
  unfold AuthManager.sessionUsername
  split
  · exact Action.only_pure _
  · cases cookie with
    | none => exact Action.only_throw _
    | some token =>
      apply quiet_findSession
      intro found
      cases found with
      | none => exact Action.only_throw _
      | some session => exact Action.only_pure _

theorem quiet_sessionCSRFToken (cookie : Option String) : Action.Only Quiet (a.sessionCSRFToken cookie) := by
  unfold AuthManager.sessionCSRFToken
  split
  · exact Action.only_pure _
  · cases cookie with
    | none => exact Action.only_throw _
    | some token =>
      apply quiet_findSession
      intro found
      cases found with
      | none => exact Action.only_throw _
      | some session =>
        dsimp only
        split
        · exact Action.only_throw _
        · exact Action.only_pure _

theorem quiet_matchAPIKey (token : String) : Action.Only Quiet (AuthManager.matchAPIKey token) := by
  unfold AuthManager.matchAPIKey
  split
  · exact Action.only_pure _
  · exact Action.Only.bind quiet_load fun _ => Action.only_ofExcept _

theorem quiet_revealAPIKey (scope password : String) : Action.Only Quiet (a.revealAPIKey scope password) := by
  unfold AuthManager.revealAPIKey
  apply Action.Only.bind quiet_load
  intro stored
  split
  · exact Action.only_throw _
  · exact Action.only_ofExcept _

end Quiet

end Strom.Api
