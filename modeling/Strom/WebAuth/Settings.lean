import Strom.Effects.Triples
import Strom.WebAuth.Manager

/-!
# Settings that could not be saved

`changePassword` and `regenerateAPIKey` change a copy of the record that `load` returned; the
other operations assign through its pointer before they save it.  `failed_setting_undone_iff`
says when an operation that returns an error has left no trace.
-/

namespace Strom.WebAuth

open Strom.Go Strom.Effects

/-- A call of one of the operations that change the account. -/
inductive SettingsCall where
  | changePassword (currentPassword newPassword : String)
  | regenerateAPIKey (scope password : String)
  | setUIEnabled (enabled : Bool)
  | applyControllerUIPolicy (managed enabled : Bool)
  | setSSHEnabled (enabled : Bool) (passwordHash : String)
  | setSSHPasswordHash (passwordHash : String)
  | setAPIDocsEnabled (enabled : Bool)
deriving DecidableEq, Repr

namespace SettingsCall

/-- The operation; the key that `RegenerateAPIKey` returns is in the record too. -/
def run (a : AuthManager) : SettingsCall → AuthAction Unit
  | changePassword currentPassword newPassword => a.changePassword currentPassword newPassword
  | regenerateAPIKey scope password => do
    let _ ← a.regenerateAPIKey scope password
    return ()
  | setUIEnabled enabled => AuthManager.setUIEnabled enabled
  | applyControllerUIPolicy managed enabled => AuthManager.applyControllerUIPolicy managed enabled
  | setSSHEnabled enabled passwordHash => AuthManager.setSSHEnabled enabled passwordHash
  | setSSHPasswordHash passwordHash => AuthManager.setSSHPasswordHash passwordHash
  | setAPIDocsEnabled enabled => AuthManager.setAPIDocsEnabled enabled

/-- What the operation assigns through the pointer that `load` returned, if it does. -/
def assigns : SettingsCall → Option (StoredAuth → StoredAuth)
  | changePassword _ _ => none
  | regenerateAPIKey _ _ => none
  | setUIEnabled enabled => some fun record => { record with uiEnabled := some enabled }
  | applyControllerUIPolicy managed enabled => some fun record =>
    { record with uiManaged := some managed, uiEnabled := some enabled }
  | setSSHEnabled enabled passwordHash => some fun record =>
    { record with sshEnabled := some enabled, sshPasswordHash := if enabled then passwordHash else "" }
  | setSSHPasswordHash passwordHash => some fun record => { record with sshPasswordHash := passwordHash }
  | setAPIDocsEnabled enabled => some fun record => { record with apiDocsEnabled := some enabled }

/-- Whether the operation is refused before it assigns anything. -/
def refused : SettingsCall → StoredAuth → Bool
  | setUIEnabled _, record => record.isUIManaged
  | _, _ => false

end SettingsCall

/-- Load, refuse or assign, and save. -/
def assignAndSave (refused : StoredAuth → Bool) (f : StoredAuth → StoredAuth) : AuthAction Unit := do
  let stored ← AuthManager.load
  if refused stored.record then throw errUIPolicyManaged
  else AuthManager.save stored.pointer f

theorem run_eq_assignAndSave (a : AuthManager) {call : SettingsCall} {f : StoredAuth → StoredAuth}
    (assigns : call.assigns = some f) : call.run a = assignAndSave call.refused f := by
  cases call <;> cases assigns <;> rfl

/-! ## The steps, with the choices made in advance -/

section Steps

variable {a : AuthManager}

/-- A machine with the chances to come. -/
abbrev Trial := Guided AuthState Chance

abbrev attempt {α : Type} (a : AuthManager) (x : AuthAction α) (g : Trial) : Except GoError α × Trial :=
  Action.exec (guide (perform a)) x g

@[simp] theorem attempt_load (g : Trial) : attempt a AuthManager.load g =
    ((g.state.load g.choice).1, g.next (g.state.load g.choice).2) := rfl

@[simp] theorem attempt_save (g : Trial) (pointer : Nat) (f : StoredAuth → StoredAuth) :
    attempt a (AuthManager.save pointer f) g =
      (((g.state.assign pointer f).saveLocked g.choice pointer).1,
        g.next ((g.state.assign pointer f).saveLocked g.choice pointer).2) := rfl

@[simp] theorem attempt_saveNew (g : Trial) (record : StoredAuth) :
    attempt a (AuthManager.saveNew record) g =
      (((g.state.alloc record).2.saveLocked g.choice g.state.cells.length).1,
        g.next ((g.state.alloc record).2.saveLocked g.choice g.state.cells.length).2) := rfl

end Steps

/-! ## Operations on a copy -/

section Copies

variable {a : AuthManager} {v : Except GoError StoredAuth} {file : AuthFile}

/-- What later loads see, and what the file holds. -/
def Sees (v : Except GoError StoredAuth) (file : AuthFile) (s : AuthState) : Prop :=
  s.seen = v ∧ s.file = file

/-- If the outcome is an error, nothing has changed. -/
def Undoes {α : Type} (v : Except GoError StoredAuth) (file : AuthFile) (r : Except GoError α)
    (s : AuthState) : Prop := ∀ e, r = .error e → Sees v file s

theorem load_sees : Action.Triple (perform a) (Sees v file) AuthManager.load (fun _ => Sees v file) := by
  apply Program.triple_perform
  rintro chance s ⟨seen, held⟩
  exact ⟨(s.seen_load chance).trans seen, (s.file_load chance).trans held⟩

theorem saveNew_undoes (record : StoredAuth) :
    Action.Triple (perform a) (Sees v file) (AuthManager.saveNew record) (Undoes v file) := by
  apply Program.triple_perform
  rintro chance s ⟨seen, held⟩ e failed
  have there : (s.alloc record).2.cells[s.cells.length]? = some record := by simp [AuthState.alloc]
  simp only [perform, AuthState.saveLocked, there] at failed ⊢
  cases fault : chance.fault with
  | none => simp [fault] at failed
  | some cause => exact ⟨(s.seen_alloc record).trans seen, held⟩

theorem randomToken_sees :
    Action.Triple (perform a) (Sees v file) AuthManager.randomToken (fun _ => Sees v file) := by
  apply Program.triple_perform
  intro _ _ sees
  exact sees

theorem generateHash_sees (password : String) :
    Action.Triple (perform a) (Sees v file) (AuthManager.generateHash password) (fun _ => Sees v file) := by
  apply Action.triple_mapError
  apply Program.triple_perform
  intro _ _ sees
  exact sees

theorem changePassword_undoes (currentPassword newPassword : String) :
    Action.Triple (perform a) (Sees v file) (a.changePassword currentPassword newPassword)
      (Undoes v file) := by
  have failed : ∀ {α : Type} (e : GoError), Action.Triple (perform a) (Sees v file)
      (throw e : AuthAction α) (Undoes v file) :=
    fun e => Action.triple_throw fun _ sees _ _ => sees
  unfold AuthManager.changePassword
  split
  · exact failed _
  · split
    · exact failed _
    · apply Action.Triple.bind load_sees
      · intro stored
        dsimp only
        split
        · exact failed _
        · apply Action.Triple.bind (generateHash_sees newPassword)
          · intro hash
            exact saveNew_undoes _
          · intro _ _ sees _ _
            exact sees
      · intro _ _ sees _ _
        exact sees

theorem generateAPIKey_sees (scope : String) :
    Action.Triple (perform a) (Sees v file) (AuthManager.generateAPIKey scope) (fun _ => Sees v file) := by
  unfold AuthManager.generateAPIKey
  cases AuthManager.keyStart scope with
  | error e => exact Action.triple_throw fun _ sees => sees
  | ok start =>
    apply Action.Triple.bind randomToken_sees
    · intro token
      exact Action.triple_pure fun _ sees => sees
    · intro _ _ sees
      exact sees

theorem regenerateAPIKey_undoes (scope password : String) :
    Action.Triple (perform a) (Sees v file) (a.regenerateAPIKey scope password) (Undoes v file) := by
  unfold AuthManager.regenerateAPIKey
  apply Action.Triple.bind load_sees
  · intro stored
    split
    · exact Action.triple_throw fun _ sees _ _ => sees
    · apply Action.Triple.bind (generateAPIKey_sees scope)
      · intro key
        cases stored.record.setAPIKey scope key with
        | error e => exact Action.triple_throw fun _ sees _ _ => sees
        | ok updated =>
          apply Action.Triple.bind (saveNew_undoes updated)
          · intro _
            exact Action.triple_pure fun _ _ _ failed => by cases failed
          · intro e s undoes _ failed
            exact undoes e rfl
      · intro _ _ sees _ _
        exact sees
  · intro _ _ sees _ _
    exact sees

end Copies

/-! ## Operations through the pointer -/

section Assignments

variable (s : AuthState)

theorem copy_assign_alloc (record : StoredAuth) (f : StoredAuth → StoredAuth) :
    ((s.alloc record).2.assign s.cells.length f).copy = s.copy := by
  rw [← s.copy_alloc record]
  unfold AuthState.copy
  show (s.cached.bind fun pointer => ((s.cells ++ [record]).modify s.cells.length f)[pointer]?) =
    s.cached.bind fun pointer => (s.cells ++ [record])[pointer]?
  cases cached : s.cached with
  | none => rfl
  | some pointer =>
    -- the new cell is not the one of the copy
    have inside := s.inside pointer cached
    have other : s.cells.length ≠ pointer := by omega
    simp [List.getElem?_modify, other]

theorem copy_assign_install (record : StoredAuth) (f : StoredAuth → StoredAuth) :
    ((s.install record).assign s.cells.length f).copy = some (f record) := by
  show ((s.cells ++ [record]).modify s.cells.length f)[s.cells.length]? = some (f record)
  simp

theorem saveLocked_of_fault {chance : Chance} {cause : GoError} (fault : chance.fault = some cause)
    (pointer : Nat) : s.saveLocked chance pointer = (.error (.wrap chance.context cause), s) := by
  simp [AuthState.saveLocked, fault]

theorem saveLocked_of_none {chance : Chance} (fault : chance.fault = none) {pointer : Nat} {record : StoredAuth}
    (there : s.cells[pointer]? = some record) :
    s.saveLocked chance pointer = (.ok (), { s.install record with file := .stored record }) := by
  simp [AuthState.saveLocked, fault, there]

theorem cells_assign {pointer : Nat} {record : StoredAuth} (there : s.cells[pointer]? = some record)
    (f : StoredAuth → StoredAuth) : (s.assign pointer f).cells[pointer]? = some (f record) := by
  simp [AuthState.assign, there]

end Assignments

/-- What an assigning operation has changed is undone when it fails: either it worked on a copy,
    or it stopped before the assignment, or the assignment changed nothing. -/
def SettingsCall.Undone (call : SettingsCall) (s : AuthState) (choices : Nat → Chance) : Prop :=
  ∀ f ∈ call.assigns, s.copy = none → ∀ record, s.readFile (choices 0) = .ok record →
    call.refused record = false → (choices 1).fault ≠ none → f record = record

/-- What is left to do after the load. -/
theorem refuseOrSave_undone_iff (a : AuthManager) {refused : Bool} {f : StoredAuth → StoredAuth} {pointer : Nat}
    {record : StoredAuth} {v : Except GoError StoredAuth} {file : AuthFile} (g : Trial)
    (there : g.state.cells[pointer]? = some record) :
    (∀ e g', attempt a (if refused then throw errUIPolicyManaged else AuthManager.save pointer f) g = (.error e, g') →
      Sees v file g'.state) ↔
      (refused = true → Sees v file g.state) ∧
        (refused = false → g.choice.fault ≠ none → Sees v file (g.state.assign pointer f)) := by
  cases refused with
  | true => simp [attempt]
  | false =>
    simp only [Bool.false_eq_true, if_false, attempt_save, false_implies, true_and, forall_const]
    cases fault : g.choice.fault with
    | none => simp [saveLocked_of_none _ fault (cells_assign _ there f)]
    | some cause => simp [saveLocked_of_fault _ fault]

theorem assignAndSave_undone_iff (a : AuthManager) (refused : StoredAuth → Bool) (f : StoredAuth → StoredAuth)
    (s : AuthState) (choices : Nat → Chance) :
    (∀ e g, attempt a (assignAndSave refused f) { state := s, choices } = (.error e, g) →
      Sees s.seen s.file g.state) ↔
      (s.copy = none → ∀ record, s.readFile (choices 0) = .ok record → refused record = false →
        (choices 1).fault ≠ none → f record = record) := by
  have first : Guided.choice ({ state := s, choices } : Trial) = choices 0 := rfl
  have second : ∀ t : AuthState, Guided.choice ({ state := t, choices, turn := 1 } : Trial) = choices 1 :=
    fun _ => rfl
  have loading : ∀ {loaded t}, s.load (choices 0) = (.ok loaded, t) →
      attempt a (assignAndSave refused f) { state := s, choices } =
        attempt a (if refused loaded.record then throw errUIPolicyManaged else AuthManager.save loaded.pointer f)
          { state := t, choices, turn := 1 } := by
    intro loaded t loads
    unfold assignAndSave attempt
    rw [Action.exec_bind, ← attempt, attempt_load, first]
    simp only [loads]
    rfl
  cases here : s.copy with
  | some record =>
    have there : (s.alloc record).2.cells[s.cells.length]? = some record := by simp [AuthState.alloc]
    rw [loading (s.load_of_copy here (choices 0)), refuseOrSave_undone_iff a _ there]
    have undone : ((s.alloc record).2.assign s.cells.length f).seen = s.seen := by
      unfold AuthState.seen
      rw [copy_assign_alloc, here]
    simp only [reduceCtorEq, false_implies, iff_true]
    exact ⟨fun _ => ⟨s.seen_alloc record, rfl⟩, fun _ _ => ⟨undone, rfl⟩⟩
  | none =>
    cases read : s.readFile (choices 0) with
    | error e =>
      simp only [reduceCtorEq, false_implies, implies_true, iff_true]
      intro e' g failed
      unfold assignAndSave attempt at failed
      rw [Action.exec_bind, ← attempt, attempt_load, first, s.load_of_error here read] at failed
      cases failed
      exact ⟨rfl, rfl⟩
    | ok record =>
      have there : (s.install record).cells[s.cells.length]? = some record := by
        simp [AuthState.install, AuthState.alloc]
      have sees : s.seen = .ok record := by simp [AuthState.seen, here, s.read_of_readFile read]
      have assigned : ((s.install record).assign s.cells.length f).seen = .ok (f record) := by
        unfold AuthState.seen
        rw [copy_assign_install]
      rw [loading (s.load_of_read here read), refuseOrSave_undone_iff a _ there]
      simp only [Sees, AuthState.seen_install, sees, assigned, forall_const, Except.ok.injEq, forall_eq']
      constructor
      · rintro ⟨_, undone⟩ accepted faulty
        exact (undone accepted faulty).1
      · intro unchanged
        exact ⟨fun _ => ⟨trivial, rfl⟩, fun accepted faulty => ⟨unchanged accepted faulty, rfl⟩⟩

/-- An operation that returns an error has left the file and what later loads see as they were,
    exactly if what it assigned, if it did, is undone. -/
theorem failed_setting_undone_iff (a : AuthManager) (call : SettingsCall) (s : AuthState) (choices : Nat → Chance) :
    (∀ e g, Action.exec (guide (perform a)) (call.run a) { state := s, choices } = (.error e, g) →
      (g.state.load {}).1.map Loaded.record = (s.load {}).1.map Loaded.record ∧ g.state.file = s.file) ↔
      call.Undone s choices := by
  simp only [AuthState.map_load]
  cases assigns : call.assigns with
  | some f =>
    have exact := assignAndSave_undone_iff a call.refused f s choices
    rw [← run_eq_assignAndSave a assigns] at exact
    simpa [SettingsCall.Undone, assigns, Sees] using exact
  | none =>
    have undoes : Action.Triple (perform a) (Sees s.seen s.file) (call.run a) (Undoes s.seen s.file) := by
      cases call with
      | changePassword currentPassword newPassword => exact changePassword_undoes currentPassword newPassword
      | regenerateAPIKey scope password =>
        apply Action.Triple.bind (regenerateAPIKey_undoes scope password)
        · intro _
          exact Action.triple_pure fun _ _ _ failed => by cases failed
        · intro e _ undone _ _
          exact undone e rfl
      | _ => cases assigns
    constructor
    · intro _ f here
      rw [assigns] at here
      cases here
    · intro _ e g failed
      have ended := undoes.run { state := s, choices } ⟨rfl, rfl⟩
      unfold Action.exec at failed
      rw [failed] at ended
      exact ended e rfl

/-- The first call of a process switches the local UI off and cannot write the file: from then on
    the UI is off, until the next start. -/
theorem unsaved_setting_in_force :
    let account : StoredAuth := { username := "admin", passwordHash := "$2a$10$hash", createdAt := ⟨0⟩ }
    let a : AuthManager := { enabled := true, bcrypt := ⟨fun password salt => .ok (salt ++ password), fun _ _ => true⟩ }
    let full : Chance := { fault := some (.os (.other "no space left on device")), context := "write auth config" }
    let outcome := Action.exec (guide (perform a)) (AuthManager.setUIEnabled false)
      { state := { file := .stored account }, choices := fun turn => if turn = 1 then full else {} }
    outcome.1 = .error (.wrap "write auth config" (.os (.other "no space left on device"))) ∧
      outcome.2.state.file = .stored account ∧
      (outcome.2.state.load {}).1.map (·.record.isUIEnabled) = .ok false ∧ account.isUIEnabled = true := by
  decide +kernel

end Strom.WebAuth
