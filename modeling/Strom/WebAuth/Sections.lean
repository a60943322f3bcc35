import Strom.Effects.Refinement
import Strom.WebAuth.Calls

/-!
# The sections of a load, and the calls of the requests

`load` looks at the copy in memory, reads the file and fills the copy, and other calls may come
between these sections.  `loadSteps` is `load` with each section a step of its own; run without
interruption it is the `load` of the operations (`run_loadSteps`).

`Fits` says what a call can be about to save: what a settings call makes of the record it has
loaded, or the first record of an account.
-/

namespace Strom.WebAuth

open Strom.Go Strom.Effects

/-! ## Sections -/

inductive SectionOp where
  | peek
  | readFile
  | fill (record : StoredAuth)
  | whole (op : AuthOp)

@[reducible] def SectionOp.Reply : SectionOp → Type
  | .peek => Option Loaded
  | .readFile => Except GoError StoredAuth
  | .fill _ => Loaded
  | .whole op => op.Reply

def performSection (a : AuthManager) : (op : SectionOp) → Chance → AuthState → op.Reply × AuthState
  | .peek, _, s => s.peek
  | .readFile, chance, s => (s.readFile chance, s)
  | .fill record, _, s => s.fill record
  | .whole op, chance, s => perform a op chance s

abbrev SectionProgram := Program SectionOp SectionOp.Reply

section Steps

variable {α : Type} (next : Except GoError Loaded → SectionProgram α)

def afterRead : Except GoError StoredAuth → SectionProgram α
  | .error e => next (.error e)
  | .ok record => .call (.fill record) fun loaded => next (.ok loaded)

def afterPeek : Option Loaded → SectionProgram α
  | some loaded => next (.ok loaded)
  | none => .call .readFile (afterRead next)

/-- The sections of `load`, and what comes after them. -/
def loadSteps : SectionProgram α := .call .peek (afterPeek next)

end Steps

/-- The sections of an operation. -/
def sections : (op : AuthOp) → SectionProgram op.Reply
  | .load => loadSteps .ret
  | op => .call (.whole op) .ret

/-- A load whose sections come one right after the other. -/
theorem run_loadSteps (a : AuthManager) (chance : Chance) (s : AuthState) :
    (sections .load).run (fun op s => performSection a op chance s) s = s.load chance := by
  unfold AuthState.load
  show (afterPeek .ret s.peek.1).run _ s.peek.2 = _
  cases here : s.peek with
  | mk found t =>
    cases found with
    | some loaded => rfl
    | none =>
      show (afterRead .ret (t.readFile chance)).run _ t = _
      simp only
      cases t.readFile chance <;> rfl

theorem loadSteps_bind {α β : Type} (next : Except GoError Loaded → SectionProgram α) (f : α → SectionProgram β) :
    (loadSteps next).bind f = loadSteps fun r => (next r).bind f := by
  unfold loadSteps
  rw [Program.call_bind]
  congr
  funext found
  cases found with
  | some loaded => rfl
  | none =>
    unfold afterPeek
    rw [Program.call_bind]
    congr
    funext read
    cases read <;> rfl

theorem expand_load {α : Type} (next : Except GoError Loaded → AuthProgram α) :
    (Program.call AuthOp.load next).expand sections = loadSteps fun r => (next r).expand sections :=
  loadSteps_bind .ret _

theorem expand_whole {α : Type} (op : AuthOp) (next : op.Reply → AuthProgram α) (other : op ≠ .load) :
    (Program.call op next).expand sections =
      .call (.whole op) (fun reply => (next reply).expand sections) := by
  cases op <;> first | exact absurd rfl other | rfl

/-! ## The calls of the requests -/

/-- A call of a method of the manager. -/
inductive Request where
  | bootstrapped
  | bootstrap (newPassword confirmPassword : String)
  | authenticate (username password : String)
  | createSession (username : String)
  | sessionUsername (cookie : Option String)
  | clearSession (token : String)
  | matchAPIKey (value : String)
  | sshEnabled
  | settings (call : SettingsCall)
  | reset
deriving DecidableEq, Repr

namespace Request

/-- The call, without its result. -/
def run (a : AuthManager) : Request → AuthProgram Unit
  | bootstrapped => a.bootstrapped.bind fun _ => .ret ()
  | bootstrap newPassword confirmPassword =>
    (a.bootstrap newPassword confirmPassword).toProgram.bind fun _ => .ret ()
  | authenticate username password => (a.authenticate username password).toProgram.bind fun _ => .ret ()
  | createSession username => (a.createSession username).toProgram.bind fun _ => .ret ()
  | sessionUsername cookie => (a.sessionUsername cookie).toProgram.bind fun _ => .ret ()
  | clearSession token => AuthManager.clearSession token
  | matchAPIKey value => (AuthManager.matchAPIKey value).toProgram.bind fun _ => .ret ()
  | sshEnabled => AuthManager.sshEnabled.toProgram.bind fun _ => .ret ()
  | settings call => (call.run a).toProgram.bind fun _ => .ret ()
  | reset => AuthManager.reset.toProgram.bind fun _ => .ret ()

/-- Whether the call makes the first record of an account. -/
def Founds : Request → Prop
  | bootstrap _ _ => True
  | _ => False

instance (request : Request) : Decidable request.Founds := by
  cases request <;> unfold Founds <;> infer_instance

end Request

/-- The operations that save nothing and load nothing. -/
def AuthOp.Plain : AuthOp → Prop
  | .load => False
  | .save _ _ => False
  | .saveNew _ => False
  | .generateHash _ => False
  | _ => True

/-- The operations of the calls that save nothing. -/
def AuthOp.Reads (op : AuthOp) : Prop := op = .load ∨ op.Plain

/-- What the rest of a call can save, by the record that the call has loaded. -/
inductive Fits (a : AuthManager) (request : Request) : Option Loaded → AuthProgram Unit → Prop where
  | ret {l : Option Loaded} : Fits a request l (.ret ())
  | load {l : Option Loaded} {next : Except GoError Loaded → AuthProgram Unit}
      (failed : ∀ e, Fits a request none (next (.error e)))
      (later : ∀ loaded, Fits a request (some loaded) (next (.ok loaded))) :
      Fits a request l (.call .load next)
  | save {loaded : Loaded} {call : SettingsCall} {random : String} {f : StoredAuth → StoredAuth}
      {next : Except GoError Unit → AuthProgram Unit}
      (updates : call.update a random loaded.record = .ok (f loaded.record))
      (later : ∀ r, Fits a request none (next r)) :
      Fits a request (some loaded) (.call (.save loaded.pointer f) next)
  | saveNew {loaded : Loaded} {call : SettingsCall} {random : String} {record : StoredAuth}
      {next : Except GoError Unit → AuthProgram Unit} (changes : ¬ request.Founds)
      (updates : call.update a random loaded.record = .ok record) (later : ∀ r, Fits a request none (next r)) :
      Fits a request (some loaded) (.call (.saveNew record) next)
  | found {l : Option Loaded} {record : StoredAuth} {next : Except GoError Unit → AuthProgram Unit}
      (founds : request.Founds) (complete : record.Complete) (later : ∀ r, Fits a request none (next r)) :
      Fits a request l (.call (.saveNew record) next)
  | hash {l : Option Loaded} {password : String} {next : Except GoError String → AuthProgram Unit}
      (later : ∀ chance : Chance, Fits a request l (next (a.bcrypt.generate password chance.random))) :
      Fits a request l (.call (.generateHash password) next)
  | plain {l : Option Loaded} {op : AuthOp} {next : op.Reply → AuthProgram Unit} (plain : op.Plain)
      (later : ∀ reply, Fits a request l (next reply)) : Fits a request l (.call op next)

section Fitting

variable {a : AuthManager} {request : Request}

theorem fits_of_only {p : AuthProgram Unit} (only : p.Only AuthOp.Reads) (l : Option Loaded) :
    Fits a request l p := by
  induction p generalizing l with
  | ret _ => exact .ret
  | call op next ih =>
    obtain ⟨rfl | plain, later⟩ := only
    · exact .load (fun e => ih _ (later _) none) fun loaded => ih _ (later _) (some loaded)
    · exact .plain plain fun reply => ih reply (later reply) l

theorem fits_of_heading {call : SettingsCall} {loaded : Loaded} {rest : AuthProgram (Except GoError Unit)}
    (changes : ¬ request.Founds) (heading : Heading a call loaded rest) :
    Fits a request (some loaded) (rest.bind fun _ => .ret ()) := by
  induction heading with
  | failed e => exact .ret
  | hashing later ih => exact .hash ih
  | drawing refused later ihRefused ihLater =>
    refine .plain trivial ?_
    intro reply
    cases reply with
    | error e => exact ihRefused e
    | ok random => exact ihLater random
  | saving updates => exact .save updates fun _ => .ret
  | savingNew updates returns =>
    refine .saveNew changes updates ?_
    intro r
    rw [returns]
    exact .ret

theorem fits_settings (call : SettingsCall) : Fits a (.settings call) none (Request.run a (.settings call)) := by
  show Fits a _ none ((call.run a).toProgram.bind fun _ => .ret ())
  have opening := opening_run a call
  generalize (call.run a).toProgram = rest at opening
  cases opening with
  | refused e => exact .ret
  | loading failed later =>
    refine .load ?_ ?_
    · intro e
      rw [failed]
      exact .ret
    · intro loaded
      exact fits_of_heading id (later loaded)

theorem fits_bootstrap (hashes : a.bcrypt.Hashes) (newPassword confirmPassword : String) :
    Fits a (.bootstrap newPassword confirmPassword) none
      (Request.run a (.bootstrap newPassword confirmPassword)) := by
  show Fits a _ none ((a.bootstrap newPassword confirmPassword).toProgram.bind fun _ => .ret ())
  unfold AuthManager.bootstrap AuthManager.bootstrapped
  cases enabled : a.enabled with
  | false => exact .ret
  | true =>
    refine Fits.load ?_ fun _ => .ret
    intro e
    show Fits a _ none ((Action.toProgram (if newPassword ≠ confirmPassword then _ else _)).bind _)
    split
    · exact .ret
    · split
      · exact .ret
      · refine .hash ?_
        intro chance
        cases hashed : a.bcrypt.generate newPassword chance.random with
        | error e => exact .ret
        | ok hash =>
          refine .plain trivial ?_
          intro now
          have complete : StoredAuth.Complete {
              username := defaultAdminUsername
              passwordHash := hash
              createdAt := now
              uiEnabled := some true } :=
            ⟨by simp [defaultAdminUsername], hashes _ _ _ hashed⟩
          refine .found trivial complete ?_
          intro r
          cases r <;> exact .ret

theorem only_load : Action.Only AuthOp.Reads AuthManager.load := ⟨.inl rfl, fun _ => trivial⟩

theorem only_randomToken : Action.Only AuthOp.Reads AuthManager.randomToken := ⟨.inr trivial, fun _ => trivial⟩

theorem only_plain {op : AuthOp} (plain : op.Plain) :
    (Program.perform op : AuthProgram op.Reply).Only AuthOp.Reads := ⟨.inr plain, fun _ => trivial⟩

theorem fits_of_action {α : Type} {x : AuthAction α} (only : Action.Only AuthOp.Reads x) (l : Option Loaded) :
    Fits a request l ((Action.toProgram x).bind fun _ => .ret ()) :=
  fits_of_only (Program.Only.bind only fun _ => Program.only_ret ()) l

theorem only_authenticate (username password : String) :
    Action.Only AuthOp.Reads (a.authenticate username password) := by
  unfold AuthManager.authenticate
  split
  · trivial
  · apply Action.Only.bind only_load
    intro stored
    split
    · trivial
    · split <;> trivial

theorem only_createSession (username : String) : Action.Only AuthOp.Reads (a.createSession username) := by
  unfold AuthManager.createSession
  split
  · trivial
  · apply Action.Only.bind only_randomToken
    intro token
    apply Action.Only.bind only_randomToken
    intro csrfToken
    apply Action.Only.bind
    · exact Action.Only.always (only_plain trivial)
    · intro _
      trivial

theorem only_sessionUsername (cookie : Option String) : Action.Only AuthOp.Reads (a.sessionUsername cookie) := by
  unfold AuthManager.sessionUsername
  split
  · trivial
  · cases cookie with
    | none => trivial
    | some token =>
      apply Action.Only.bind
      · exact Action.Only.always (only_plain trivial)
      · intro session
        cases session <;> trivial

theorem only_matchAPIKey (value : String) : Action.Only AuthOp.Reads (AuthManager.matchAPIKey value) := by
  unfold AuthManager.matchAPIKey
  split
  · trivial
  · apply Action.Only.bind only_load
    intro stored
    trivial

theorem only_sshEnabled : Action.Only AuthOp.Reads AuthManager.sshEnabled := by
  apply Action.Only.bind only_load
  intro stored
  trivial

/-- What each call can save. -/
theorem fits_run (hashes : a.bcrypt.Hashes) (request : Request) : Fits a request none (request.run a) := by
  cases request with
  | bootstrap newPassword confirmPassword => exact fits_bootstrap hashes newPassword confirmPassword
  | settings call => exact fits_settings call
  | authenticate username password => exact fits_of_action (only_authenticate username password) none
  | createSession username => exact fits_of_action (only_createSession username) none
  | sessionUsername cookie => exact fits_of_action (only_sessionUsername cookie) none
  | matchAPIKey value => exact fits_of_action (only_matchAPIKey value) none
  | sshEnabled => exact fits_of_action only_sshEnabled none
  | reset => exact fits_of_action (x := AuthManager.reset) ⟨.inr trivial, fun _ => trivial⟩ none
  | bootstrapped =>
    apply fits_of_only
    apply Program.Only.bind (P := AuthOp.Reads)
    · unfold AuthManager.bootstrapped
      split
      · trivial
      · refine ⟨.inl rfl, ?_⟩
        intro reply
        cases reply <;> trivial
    · intro _
      trivial
  | clearSession token =>
    apply fits_of_only
    show (AuthManager.clearSession token).Only _
    unfold AuthManager.clearSession
    split
    · trivial
    · exact ⟨.inr trivial, fun _ => trivial⟩

end Fitting

end Strom.WebAuth
