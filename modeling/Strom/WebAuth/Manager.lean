import Strom.Effects.Provided
import Strom.Go.Errors
import Strom.Go.Strings
import Strom.Go.Time

/-!
# The web account of a node (`auth.go`)

The account is a record in the auth file, of which `authManager` keeps a copy in memory.
`load` returns a pointer.  Where the copy is there it points to another copy; where the file had
to be read it points to the very record that becomes the copy in memory.  So the records are the
cells of a heap here, and a pointer is the number of a cell.

Each operation is one critical section of `authManager`, or `load` as a whole, whose sections
are those of `loadSteps`.
-/

namespace Strom.WebAuth

open Strom.Go Strom.Effects

structure StoredAuth where
  username : String
  passwordHash : String
  createdAt : Time
  uiEnabled : Option Bool := none
  uiManaged : Option Bool := none
  sshEnabled : Option Bool := none
  sshPasswordHash : String := ""
  readAPIKey : String := ""
  writeAPIKey : String := ""
  apiDocsEnabled : Option Bool := none
deriving DecidableEq, Repr

structure AuthSession where
  token : String
  username : String
  csrfToken : String
  expiresAt : Time
deriving DecidableEq, Repr

/-- What the auth file holds: no JSON text of a record, or the text of one. -/
inductive AuthFile where
  | absent
  | malformed
  | stored (record : StoredAuth)
deriving DecidableEq, Repr

/-- The `bcrypt` package: a hash is made of a password and a random salt. -/
structure Bcrypt where
  generate : String → String → Except GoError String
  compare : String → String → Bool

/-- The fields of an `authManager` that do not change. -/
structure AuthManager where
  enabled : Bool
  bcrypt : Bcrypt

theorem nothing_inside : ∀ pointer ∈ (none : Option Nat), pointer < ([] : List StoredAuth).length := nofun

structure AuthState where
  file : AuthFile := .absent
  /-- The records in memory. -/
  cells : List StoredAuth := []
  cached : Option Nat := none
  sessions : List AuthSession := []
  /-- The pointer to the copy in memory is one. -/
  inside : ∀ pointer ∈ cached, pointer < cells.length := by first | exact nothing_inside | simp
deriving DecidableEq

def errAuthDisabled : GoError := .text "node web auth disabled"
def errAuthNotConfigured : GoError := .text "node web auth not initialized"
def errAlreadyBootstrapped : GoError := .text "node web auth already initialized"
def errInvalidCredentials : GoError := .text "invalid credentials"
def errUIPolicyManaged : GoError := .text "local UI is controller-managed"

def defaultAdminUsername : String := "admin"
def apiKeyScopeRead : String := "read"
def apiKeyScopeWrite : String := "write"
def defaultSessionTTL : Int := 12 * 3600 * second

namespace StoredAuth

def isUIEnabled (s : StoredAuth) : Bool := s.uiEnabled.getD true

def isUIManaged (s : StoredAuth) : Bool := s.uiManaged.getD false

def unknownScope (scope : String) : GoError := .text s!"unknown API key scope {quote scope}"

def apiKey (s : StoredAuth) (scope : String) : Except GoError String :=
  if scope = apiKeyScopeRead then .ok s.readAPIKey
  else if scope = apiKeyScopeWrite then .ok s.writeAPIKey
  else .error (unknownScope scope)

def setAPIKey (s : StoredAuth) (scope key : String) : Except GoError StoredAuth :=
  if scope = apiKeyScopeRead then .ok { s with readAPIKey := key }
  else if scope = apiKeyScopeWrite then .ok { s with writeAPIKey := key }
  else .error (unknownScope scope)

end StoredAuth

/-! ## Steps on the state -/

/-- What `load` returns: a pointer, and the record it points to.  No other call writes through
    the pointer. -/
structure Loaded where
  pointer : Nat
  record : StoredAuth
deriving DecidableEq, Repr

/-- The outcome of the fallible parts of a step. -/
structure Chance where
  /-- The error of a system call or of the source of random bytes. -/
  fault : Option GoError := none
  /-- Which step of `saveLocked` the error is of. -/
  context : String := ""
  /-- The random text that is drawn. -/
  random : String := ""
  now : Time := ⟨0⟩
deriving DecidableEq, Repr

/-- `os.ReadFile` and the decoding of `load`. -/
def AuthFile.read : AuthFile → Except GoError StoredAuth
  | .absent => .error errAuthNotConfigured
  | .malformed => .error (.wrap "decode auth config" (.text "invalid JSON"))
  | .stored record =>
    if record.username = "" ∨ record.passwordHash = "" then
      .error (.text "decode auth config: missing username or password hash")
    else .ok record

namespace AuthState

/-- A new cell, which holds `record`. -/
def alloc (s : AuthState) (record : StoredAuth) : Loaded × AuthState :=
  (⟨s.cells.length, record⟩, { s with
    cells := s.cells ++ [record]
    inside := fun pointer here => by
      have := s.inside pointer here
      simp only [List.length_append]
      omega })

/-- The new cell of `alloc` becomes the one of the copy in memory. -/
def install (s : AuthState) (record : StoredAuth) : AuthState :=
  { (s.alloc record).2 with
    cached := some s.cells.length
    inside := by simp [alloc] }

/-- Assignments to the fields of a record. -/
def assign (s : AuthState) (pointer : Nat) (f : StoredAuth → StoredAuth) : AuthState :=
  { s with
    cells := s.cells.modify pointer f
    inside := by simpa using s.inside }

/-- The record in memory. -/
def copy (s : AuthState) : Option StoredAuth := s.cached.bind fun pointer => s.cells[pointer]?

/-- The first section of `load`: a copy of the record in memory. -/
def peek (s : AuthState) : Option Loaded × AuthState :=
  match s.copy with
  | some record => (some (s.alloc record).1, (s.alloc record).2)
  | none => (none, s)

/-- What is read from the file. -/
def readFile (chance : Chance) (s : AuthState) : Except GoError StoredAuth :=
  match chance.fault with
  | some cause => .error (.wrap "read auth config" cause)
  | none => s.file.read

/-- The last section of `load`: the record becomes the one in memory. -/
def fill (s : AuthState) (record : StoredAuth) : Loaded × AuthState :=
  ((s.alloc record).1, s.install record)

def load (chance : Chance) (s : AuthState) : Except GoError Loaded × AuthState :=
  match s.peek with
  | (some loaded, t) => (.ok loaded, t)
  | (none, t) =>
    match t.readFile chance with
    | .error e => (.error e, t)
    | .ok record => (.ok (t.fill record).1, (t.fill record).2)

/-- `saveLocked`: the file is replaced by a rename, after which nothing fails. -/
def saveLocked (chance : Chance) (pointer : Nat) (s : AuthState) : Except GoError Unit × AuthState :=
  match chance.fault, s.cells[pointer]? with
  | some cause, _ => (.error (.wrap chance.context cause), s)
  | none, none => (.error (.text "nil record"), s)
  | none, some record =>
    (.ok (), { s.install record with file := .stored record })

/-- The locked section of `Reset`. -/
def reset (chance : Chance) (s : AuthState) : Except GoError Unit × AuthState :=
  let cleared : AuthState := { s with cached := none, sessions := [], inside := by simp }
  match chance.fault with
  | some cause => (.error (.wrap "remove auth config" cause), cleared)
  | none => (.ok (), { cleared with file := .absent })

/-- `cleanupExpiredSessionsLocked`. -/
def cleanup (s : AuthState) (now : Time) : AuthState :=
  { s with sessions := s.sessions.filter fun session => ¬ session.expiresAt.ns < now.ns }

end AuthState

/-! ## What a load sees -/

namespace AuthState

/-- The record that a `load` returns where no system call fails. -/
def seen (s : AuthState) : Except GoError StoredAuth :=
  match s.copy with
  | some record => .ok record
  | none => s.file.read

variable (s : AuthState)

@[simp] theorem copy_alloc (record : StoredAuth) : (s.alloc record).2.copy = s.copy := by
  unfold copy
  show (s.cached.bind fun pointer => (s.cells ++ [record])[pointer]?) = _
  cases cached : s.cached with
  | none => rfl
  | some pointer =>
    have inside := s.inside pointer cached
    simp [List.getElem?_append_left inside]

@[simp] theorem copy_install (record : StoredAuth) : (s.install record).copy = some record := by
  show (s.cells ++ [record])[s.cells.length]? = some record
  simp

@[simp] theorem file_alloc (record : StoredAuth) : (s.alloc record).2.file = s.file := rfl

@[simp] theorem file_install (record : StoredAuth) : (s.install record).file = s.file := rfl

@[simp] theorem seen_alloc (record : StoredAuth) : (s.alloc record).2.seen = s.seen := by
  simp [seen]

@[simp] theorem seen_install (record : StoredAuth) : (s.install record).seen = .ok record := by
  simp [seen]

theorem load_of_copy {record : StoredAuth} (here : s.copy = some record) (chance : Chance) :
    s.load chance = (.ok ⟨s.cells.length, record⟩, (s.alloc record).2) := by
  simp only [load, peek, here]
  rfl

theorem load_of_read {record : StoredAuth} {chance : Chance} (empty : s.copy = none)
    (read : s.readFile chance = .ok record) :
    s.load chance = (.ok ⟨s.cells.length, record⟩, s.install record) := by
  simp only [load, peek, empty, read]
  rfl

theorem load_of_error {e : GoError} {chance : Chance} (empty : s.copy = none)
    (failed : s.readFile chance = .error e) : s.load chance = (.error e, s) := by
  simp only [load, peek, empty, failed]

theorem read_of_readFile {record : StoredAuth} {chance : Chance} (read : s.readFile chance = .ok record) :
    s.file.read = .ok record := by
  unfold readFile at read
  split at read
  · cases read
  · exact read

/-- A load sees what `seen` says, and changes nothing that later loads see. -/
theorem load_cases (chance : Chance) :
    (∃ record, s.seen = .ok record ∧ (s.load chance).1 = .ok ⟨s.cells.length, record⟩ ∧
      ((s.load chance).2 = (s.alloc record).2 ∧ s.copy = some record ∨
        (s.load chance).2 = s.install record ∧ s.copy = none ∧ s.readFile chance = .ok record)) ∨
      ∃ e, (s.load chance).1 = .error e ∧ (s.load chance).2 = s ∧ s.copy = none ∧
        s.readFile chance = .error e := by
  cases here : s.copy with
  | some record =>
    rw [s.load_of_copy here]
    exact .inl ⟨record, by simp [seen, here], rfl, .inl ⟨rfl, rfl⟩⟩
  | none =>
    cases read : s.readFile chance with
    | ok record =>
      rw [s.load_of_read here read]
      exact .inl ⟨record, by simp [seen, here, s.read_of_readFile read], rfl, .inr ⟨rfl, rfl, rfl⟩⟩
    | error e =>
      rw [s.load_of_error here read]
      exact .inr ⟨e, rfl, rfl, rfl, rfl⟩

@[simp] theorem seen_load (chance : Chance) : (s.load chance).2.seen = s.seen := by
  cases s.load_cases chance with
  | inl loaded =>
    obtain ⟨record, sees, -, ⟨after, -⟩ | ⟨after, -⟩⟩ := loaded
    · rw [after, seen_alloc]
    · rw [after, seen_install, sees]
  | inr failed =>
    obtain ⟨e, -, after, -⟩ := failed
    rw [after]

@[simp] theorem file_load (chance : Chance) : (s.load chance).2.file = s.file := by
  cases s.load_cases chance with
  | inl loaded =>
    obtain ⟨record, -, -, ⟨after, -⟩ | ⟨after, -⟩⟩ := loaded <;> rw [after] <;> rfl
  | inr failed =>
    obtain ⟨e, -, after, -⟩ := failed
    rw [after]

theorem map_load : (s.load {}).1.map Loaded.record = s.seen := by
  cases s.load_cases {} with
  | inl loaded =>
    obtain ⟨record, sees, result, -⟩ := loaded
    rw [result, sees]
    rfl
  | inr failed =>
    obtain ⟨e, result, -, empty, failed⟩ := failed
    rw [result, seen, empty]
    exact failed.symm

end AuthState

/-! ## Operations -/

inductive AuthOp where
  | load
  /-- Lock, assign through the pointer, `saveLocked`. -/
  | save (pointer : Nat) (f : StoredAuth → StoredAuth)
  /-- Lock, `saveLocked` of a new record. -/
  | saveNew (record : StoredAuth)
  | reset
  | generateHash (password : String)
  | randomToken
  | now
  | addSession (username token csrfToken : String)
  | findSession (token : String)
  | clearSession (token : String)

@[reducible] def AuthOp.Reply : AuthOp → Type
  | .load => Except GoError Loaded
  | .save _ _ => Except GoError Unit
  | .saveNew _ => Except GoError Unit
  | .reset => Except GoError Unit
  | .generateHash _ => Except GoError String
  | .randomToken => Except GoError String
  | .now => Time
  | .addSession _ _ _ => Unit
  | .findSession _ => Option AuthSession
  | .clearSession _ => Unit

/-- The meaning of each operation. -/
def perform (a : AuthManager) : (op : AuthOp) → Chance → AuthState → op.Reply × AuthState
  | .load, chance, s => s.load chance
  | .save pointer f, chance, s => (s.assign pointer f).saveLocked chance pointer
  | .saveNew record, chance, s => (s.alloc record).2.saveLocked chance s.cells.length
  | .reset, chance, s => s.reset chance
  | .generateHash password, chance, s => (a.bcrypt.generate password chance.random, s)
  | .randomToken, chance, s =>
    (match chance.fault with
      | some cause => .error (.wrap "generate token" cause)
      | none => .ok chance.random, s)
  | .now, chance, s => (chance.now, s)
  | .addSession username token csrfToken, chance, s =>
    let cleaned := s.cleanup chance.now
    let session : AuthSession :=
      { token, username, csrfToken, expiresAt := ⟨chance.now.ns + defaultSessionTTL⟩ }
    ((), { cleaned with sessions := session :: cleaned.sessions.filter (·.token ≠ token) })
  | .findSession token, chance, s =>
    ((s.cleanup chance.now).sessions.find? (·.token = token), s.cleanup chance.now)
  | .clearSession token, _, s => ((), { s with sessions := s.sessions.filter (·.token ≠ token) })

abbrev AuthProgram := Program AuthOp AuthOp.Reply
abbrev AuthAction := Action AuthOp AuthOp.Reply GoError

namespace AuthManager

variable (a : AuthManager)

def load : AuthAction Loaded := .ofProgram (.perform AuthOp.load)

def save (pointer : Nat) (f : StoredAuth → StoredAuth) : AuthAction Unit :=
  .ofProgram (.perform (AuthOp.save pointer f))

def saveNew (record : StoredAuth) : AuthAction Unit := .ofProgram (.perform (AuthOp.saveNew record))

/-- `bcrypt.GenerateFromPassword`. -/
def generateHash (password : String) : AuthAction String :=
  Action.mapError (.wrap "hash password") (.ofProgram (.perform (AuthOp.generateHash password)))

def randomToken : AuthAction String := .ofProgram (.perform AuthOp.randomToken)

def timeNow : AuthAction Time := .always (.perform AuthOp.now)

/-! ## The account -/

def bootstrapped : AuthProgram Bool :=
  if ¬ a.enabled then return true
  else do
    match ← load.toProgram with
    | .ok _ => return true
    | .error _ => return false

def bootstrap (newPassword confirmPassword : String) : AuthAction Unit :=
  if ¬ a.enabled then throw errAuthDisabled
  else do
    let bootstrapped ← Action.always a.bootstrapped
    if bootstrapped then throw errAlreadyBootstrapped
    else if newPassword ≠ confirmPassword then throw (.text "passwords do not match")
    else if (utf8 newPassword).length < 8 then throw (.text "password must be at least 8 characters")
    else do
      let hash ← generateHash newPassword
      let now ← timeNow
      saveNew {
        username := defaultAdminUsername
        passwordHash := hash
        createdAt := now
        uiEnabled := some true }

def authenticate (username password : String) : AuthAction Unit :=
  if ¬ a.enabled then return ()
  else do
    let stored ← load
    if stored.record.username ≠ trimSpace username then throw errInvalidCredentials
    else if ¬ a.bcrypt.compare stored.record.passwordHash password then throw errInvalidCredentials
    else return ()

def createSession (username : String) : AuthAction (String × String) :=
  if ¬ a.enabled then throw errAuthDisabled
  else do
    let token ← randomToken
    let csrfToken ← randomToken
    Action.always (.perform (AuthOp.addSession username token csrfToken))
    return (token, csrfToken)

/-- `SessionUsername`, for the token of the request's cookie, if it has one. -/
def sessionUsername (cookie : Option String) : AuthAction String :=
  if ¬ a.enabled then return ""
  else
    match cookie with
    | none => throw errInvalidCredentials
    | some token => do
      match ← Action.always (.perform (AuthOp.findSession token)) with
      | some session => return session.username
      | none => throw errInvalidCredentials

/-- `SessionCSRFToken`, for the token of the request's cookie. -/
def sessionCSRFToken (cookie : Option String) : AuthAction String :=
  if ¬ a.enabled then return ""
  else
    match cookie with
    | none => throw errInvalidCredentials
    | some token => do
      match ← Action.always (.perform (AuthOp.findSession token)) with
      | some session =>
        if trimSpace session.csrfToken = "" then throw errInvalidCredentials else return session.csrfToken
      | none => throw errInvalidCredentials

def clearSession (token : String) : AuthProgram Unit :=
  if token = "" then .ret () else .perform (AuthOp.clearSession token)

def changePassword (currentPassword newPassword : String) : AuthAction Unit :=
  if ¬ a.enabled then throw errAuthDisabled
  else if (utf8 newPassword).length < 8 then throw (.text "new password must be at least 8 characters")
  else do
    let stored ← load
    if ¬ a.bcrypt.compare stored.record.passwordHash currentPassword then throw errInvalidCredentials
    else do
      let hash ← generateHash newPassword
      saveNew { stored.record with passwordHash := hash }

/-! ## The settings -/

/-- The prefix of the keys of a scope. -/
def keyStart (scope : String) : Except GoError String :=
  if scope = apiKeyScopeRead then .ok "strom_ro_"
  else if scope = apiKeyScopeWrite then .ok "strom_rw_"
  else .error (StoredAuth.unknownScope scope)

def generateAPIKey (scope : String) : AuthAction String := do
  let start ← Action.ofExcept (keyStart scope)
  let token ← randomToken
  return start ++ token

def revealAPIKey (scope password : String) : AuthAction String := do
  let stored ← load
  if ¬ a.bcrypt.compare stored.record.passwordHash password then throw errInvalidCredentials
  else Action.ofExcept (stored.record.apiKey scope)

def regenerateAPIKey (scope password : String) : AuthAction String := do
  let stored ← load
  if ¬ a.bcrypt.compare stored.record.passwordHash password then throw errInvalidCredentials
  else do
    let key ← generateAPIKey scope
    let updated ← Action.ofExcept (stored.record.setAPIKey scope key)
    saveNew updated
    return key

/-- The loop of `MatchAPIKey` over the scopes. -/
def matchScopes (record : StoredAuth) (value : String) : List String → Except GoError (Option String)
  | [] => .ok none
  | scope :: scopes =>
    match record.apiKey scope with
    | .error e => .error e
    | .ok key => if key ≠ "" ∧ key = value then .ok (some scope) else matchScopes record value scopes

def matchAPIKey (value : String) : AuthAction (Option String) :=
  if value = "" then return none
  else do
    let stored ← load
    Action.ofExcept (matchScopes stored.record value [apiKeyScopeWrite, apiKeyScopeRead])

def setUIEnabled (enabled : Bool) : AuthAction Unit := do
  let stored ← load
  if stored.record.isUIManaged then throw errUIPolicyManaged
  else save stored.pointer fun record => { record with uiEnabled := some enabled }

def sshEnabled : AuthAction Bool := do
  let stored ← load
  return stored.record.sshEnabled.getD false

def setSSHEnabled (enabled : Bool) (passwordHash : String) : AuthAction Unit := do
  let stored ← load
  save stored.pointer fun record =>
    { record with sshEnabled := some enabled, sshPasswordHash := if enabled then passwordHash else "" }

def setSSHPasswordHash (passwordHash : String) : AuthAction Unit := do
  let stored ← load
  save stored.pointer fun record => { record with sshPasswordHash := passwordHash }

def setAPIDocsEnabled (enabled : Bool) : AuthAction Unit := do
  let stored ← load
  save stored.pointer fun record => { record with apiDocsEnabled := some enabled }

def applyControllerUIPolicy (managed enabled : Bool) : AuthAction Unit := do
  let stored ← load
  save stored.pointer fun record => { record with uiManaged := some managed, uiEnabled := some enabled }

def reset : AuthAction Unit := .ofProgram (.perform AuthOp.reset)

end AuthManager

end Strom.WebAuth
