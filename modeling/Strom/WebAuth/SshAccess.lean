import Strom.Effects.Exclusive
import Strom.WebAuth.Calls

/-!
# SSH access with the admin password (`ssh_access.go` and its handlers)

While SSH access is enabled the Linux account `admin` is to have the password of the dashboard.
The two are kept by different systems: the account by `chpasswd`, the dashboard's by the manager.
The handlers are modelled from the decoded request on, with the answers they give to JSON
requests.
-/

namespace Strom.WebAuth

open Strom.Go Strom.Effects

/-- What the commands change on the system: the account `admin` and the file for `sshd`. -/
structure Linux where
  account : Bool := false
  password : Option String := none
  locked : Bool := false
  config : Bool := false
deriving DecidableEq

structure Machine where
  auth : AuthState
  linux : Linux := {}
deriving DecidableEq

/-- The commands, by what they do. -/
structure Commands where
  /-- The password that `admin` has after `chpasswd` has accepted the input. -/
  chpasswd : String → String

/-- The steps that change the system in a fixed way. -/
inductive SystemStep where
  /-- `useradd --create-home --shell /bin/bash --groups sudo admin` -/
  | useradd
  /-- `usermod --append --groups sudo admin` -/
  | usermodGroups
  /-- `usermod --lock admin` -/
  | usermodLock
  /-- `os.MkdirAll` of the directory of the file for `sshd` -/
  | makeConfigDir
  /-- `os.WriteFile` of the file for `sshd` -/
  | writeConfig
  /-- `sshd -t` -/
  | validate
  /-- `systemctl restart ssh` -/
  | restart
deriving DecidableEq, Repr

def SystemStep.effect : SystemStep → Linux → Linux
  | useradd, linux => { linux with account := true }
  | usermodLock, linux => { linux with locked := true }
  | writeConfig, linux => { linux with config := true }
  | _, linux => linux

inductive AccessOp where
  | auth (op : AuthOp)
  | system (step : SystemStep)
  /-- `id -u admin` -/
  | id
  | chpasswd (input : String)
  /-- `getent shadow admin` -/
  | getentShadow
  /-- `os.Remove` of the file for `sshd` -/
  | removeConfig

@[reducible] def AccessOp.Reply : AccessOp → Type
  | .auth op => op.Reply
  | .getentShadow => Except GoError String
  | _ => Except GoError Unit

structure AccessChance where
  auth : Chance := {}
  /-- The error of a command or of a system call. -/
  fault : Option GoError := none
  /-- Whether a step that reports an error has had its effect all the same. -/
  applied : Bool := false
  /-- What `getent` prints. -/
  output : String := ""
deriving DecidableEq

/-- A step that changes the system. -/
def command (chance : AccessChance) (effect : Linux → Linux) (m : Machine) : Except GoError Unit × Machine :=
  match chance.fault with
  | none => (.ok (), { m with linux := effect m.linux })
  | some e => (.error e, if chance.applied then { m with linux := effect m.linux } else m)

def performAccess (a : AuthManager) (commands : Commands) :
    (op : AccessOp) → AccessChance → Machine → op.Reply × Machine
  | .auth op, chance, m =>
    ((perform a op chance.auth m.auth).1, { m with auth := (perform a op chance.auth m.auth).2 })
  | .system step, chance, m => command chance step.effect m
  | .id, chance, m =>
    if m.linux.account then command chance id m else (.error (.text "id: 'admin': no such user"), m)
  | .chpasswd input, chance, m =>
    command chance (fun linux => { linux with password := some (commands.chpasswd input), locked := false }) m
  | .getentShadow, chance, m =>
    (match chance.fault with
      | none => .ok chance.output
      | some e => .error e, m)
  | .removeConfig, chance, m =>
    if m.linux.config then command chance (fun linux => { linux with config := false }) m
    else (.error (.os .notExist), m)

abbrev AccessProgram := Program AccessOp AccessOp.Reply
abbrev AccessAction := Action AccessOp AccessOp.Reply GoError

/-- A method of the manager. -/
def liftAuth {α : Type} (p : AuthProgram α) : AccessProgram α :=
  match p with
  | .ret value => .ret value
  | .call op next => .call (.auth op) fun reply => liftAuth (next reply)

def ofAuth {α : Type} (x : AuthAction α) : AccessAction α := .ofProgram (liftAuth (Action.toProgram x))

/-! ## `systemSSHAccessManager` -/

namespace SshAccess

def locked : GoError := .text "read SSH admin password hash: account password is locked"

def run (context : String) (step : SystemStep) : AccessAction Unit :=
  Action.mapError (.wrap context) (.ofProgram (.perform (AccessOp.system step)))

/-- The hash in the line that `getent` prints. -/
def shadowHash (output : String) : Except GoError String :=
  match (trimSpace output).toList.splitOn ':' with
  | _ :: hash :: _ =>
    if hash = [] ∨ hash = ['!'] ∨ hash = ['*'] then .error locked else .ok (String.ofList hash)
  | _ => .error locked

def passwordHash : AccessAction String := do
  let output ← Action.mapError (.wrap "read SSH admin password hash") (.ofProgram (.perform AccessOp.getentShadow))
  Action.ofExcept (shadowHash output)

/-- What `chpasswd` reads. -/
def passwordLine (password : String) : String := defaultAdminUsername ++ ":" ++ password ++ "\n"

def syncPassword (password : String) : AccessAction String := do
  Action.mapError (.wrap "set SSH admin password") (.ofProgram (.perform (AccessOp.chpasswd (passwordLine password))))
  passwordHash

def ensureAdminAccount : AccessAction Unit := do
  match ← Action.always (.perform AccessOp.id) with
  | .error _ => run "create SSH admin account" .useradd
  | .ok () => run "grant SSH admin sudo access" .usermodGroups

def writeConfig : AccessAction Unit := do
  run "create SSH config directory" .makeConfigDir
  run "write SSH access config" .writeConfig

def validateAndRestart : AccessAction Unit := do
  run "validate SSH configuration" .validate
  run "restart SSH service" .restart

def enable (password : String) : AccessAction String := do
  ensureAdminAccount
  let hash ← syncPassword password
  writeConfig
  validateAndRestart
  return hash

def disable : AccessAction Unit := do
  match ← Action.always (.perform AccessOp.removeConfig) with
  | .error e =>
    if e.isNotExist then lock else throw (.wrap "remove SSH access config" e)
  | .ok () => lock
where
  lock : AccessAction Unit := do
    run "lock SSH admin account" .usermodLock
    validateAndRestart

end SshAccess

/-! ## The handlers -/

/-- An answer with an error. -/
structure Refusal where
  status : Nat
  message : String
deriving DecidableEq, Repr

abbrev HandlerAction := Action AccessOp AccessOp.Reply Refusal

/-- An error of the manager or of the system, as an answer. -/
def refuse {α : Type} (answer : GoError → Refusal) (x : AccessAction α) : HandlerAction α := Action.mapError answer x

def internalError (e : GoError) : Refusal := ⟨500, e.message⟩

section Handlers

variable (a : AuthManager)

def requireSession (cookie : Option String) : HandlerAction String :=
  if ¬ a.enabled then return ""
  else do
    let bootstrapped ← Action.always (liftAuth a.bootstrapped)
    if ¬ bootstrapped then
      throw ⟨401, "node web auth not initialized; complete setup at /auth/bootstrap"⟩
    else refuse (fun _ => ⟨401, "authentication required"⟩) (ofAuth (a.sessionUsername cookie))

/-- What the change of the password does first if SSH access is enabled. -/
def syncIfEnabled (sshEnabled : Bool) (newPassword : String) : HandlerAction Unit :=
  if sshEnabled then do
    let passwordHash ← refuse internalError (SshAccess.syncPassword newPassword)
    refuse internalError (ofAuth (AuthManager.setSSHPasswordHash passwordHash))
  else return ()

def changePasswordError (e : GoError) : Refusal :=
  if e = errInvalidCredentials then ⟨401, "current password is incorrect"⟩ else ⟨400, e.message⟩

def handleChangePassword (cookie : Option String) (currentPassword newPassword confirmPassword : String) :
    HandlerAction Unit := do
  let _ ← requireSession a cookie
  if newPassword ≠ confirmPassword then throw ⟨400, "new passwords do not match"⟩
  else do
    let sshEnabled ← refuse internalError (ofAuth AuthManager.sshEnabled)
    syncIfEnabled sshEnabled newPassword
    refuse changePasswordError (ofAuth (a.changePassword currentPassword newPassword))

def handleSSHSetting (cookie : Option String) (enabled : Bool) (password : String) : HandlerAction Unit := do
  let username ← requireSession a cookie
  if enabled then do
    refuse (fun _ => ⟨401, "current password is incorrect"⟩) (ofAuth (a.authenticate username password))
    let passwordHash ← refuse internalError (SshAccess.enable password)
    refuse internalError (ofAuth (AuthManager.setSSHEnabled true passwordHash))
  else do
    refuse internalError SshAccess.disable
    refuse internalError (ofAuth (AuthManager.setSSHEnabled false ""))

end Handlers

inductive AccessRequest where
  | changePassword (cookie : Option String) (currentPassword newPassword confirmPassword : String)
  | sshSetting (cookie : Option String) (enabled : Bool) (password : String)
deriving DecidableEq, Repr

def AccessRequest.handle (a : AuthManager) : AccessRequest → AccessProgram (Except Refusal Unit)
  | changePassword cookie currentPassword newPassword confirmPassword =>
    Action.toProgram (handleChangePassword a cookie currentPassword newPassword confirmPassword)
  | sshSetting cookie enabled password => Action.toProgram (handleSSHSetting a cookie enabled password)

/-! ## The password of the dashboard and of the account -/

/-- The records in force: the one a load sees, and the one of the file. -/
def Machine.Holds (m : Machine) (record : StoredAuth) : Prop :=
  m.auth.seen = .ok record ∨ m.auth.file.read = .ok record

/-- While SSH access is enabled, the dashboard takes the password of the account. -/
def Machine.Agrees (a : AuthManager) (m : Machine) : Prop :=
  ∀ record, m.Holds record → record.sshEnabled.getD false = true →
    ∃ password, m.linux.password = some password ∧ a.bcrypt.compare record.passwordHash password = true

/-- The password of the dashboard, the password of the account and the stored SSH flag. -/
structure Secrets where
  dashboard : Option String
  stored : Option String
  sshEnabled : Option (Option Bool)
  linux : Option String
deriving DecidableEq

def Machine.secrets (m : Machine) : Secrets where
  dashboard := m.auth.seen.toOption.map StoredAuth.passwordHash
  stored := m.auth.file.read.toOption.map StoredAuth.passwordHash
  sshEnabled := m.auth.file.read.toOption.map StoredAuth.sshEnabled
  linux := m.linux.password

/-- A request to change the password or to enable SSH access that is answered with an error has
    changed nothing of these. -/
def AccessRequest.Undone (request : AccessRequest) (before : Machine) (answer : Except Refusal Unit)
    (after : Machine) : Prop :=
  match request with
  | sshSetting _ false _ => True
  | _ => ∀ refusal, answer = .error refusal → after.secrets = before.secrets

end Strom.WebAuth
