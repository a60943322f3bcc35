import Strom.WebAuth.Settings

/-!
# What a call makes of the account

`update` says which record a call saves, by the record it has loaded.  A call that runs alone
and succeeds has made the `update` of what it saw (`update_of_exec`), and where there is an
`update` it can succeed (`exec_update`).
-/

namespace Strom.WebAuth

open Strom.Go Strom.Effects

/-! ## What a call makes of the record -/

namespace SettingsCall

/-- The record that the call saves, by the record it has loaded and the random text it drew. -/
def update (a : AuthManager) (random : String) : SettingsCall → StoredAuth → Except GoError StoredAuth
  | changePassword currentPassword newPassword, record => do
    rejectIf (¬ a.enabled) errAuthDisabled
    rejectIf ((utf8 newPassword).length < 8) (.text "new password must be at least 8 characters")
    rejectIf (¬ a.bcrypt.compare record.passwordHash currentPassword) errInvalidCredentials
    let hash ← wrapError "hash password" (a.bcrypt.generate newPassword random)
    return { record with passwordHash := hash }
  | regenerateAPIKey scope password, record => do
    rejectIf (¬ a.bcrypt.compare record.passwordHash password) errInvalidCredentials
    let start ← AuthManager.keyStart scope
    record.setAPIKey scope (start ++ random)
  | call, record =>
    match call.assigns with
    | some f => if call.refused record then .error errUIPolicyManaged else .ok (f record)
    | none => .error errInvalidCredentials

theorem update_of_assigns {a : AuthManager} {random : String} {call : SettingsCall} {f : StoredAuth → StoredAuth}
    (assigns : call.assigns = some f) {record : StoredAuth} (accepted : call.refused record = false) :
    call.update a random record = .ok (f record) := by
  cases call <;> cases assigns <;> simp [update, SettingsCall.assigns, accepted]

end SettingsCall

/-! ## The rest of a call -/

/-- The call has loaded; what is left to do is to draw random text, perhaps, and to save what
    `update` says, through the pointer of the load or as a new record. -/
inductive Heading (a : AuthManager) (call : SettingsCall) (loaded : Loaded) :
    AuthProgram (Except GoError Unit) → Prop where
  | failed (e : GoError) : Heading a call loaded (.ret (.error e))
  | hashing {password : String} {next : Except GoError String → AuthProgram (Except GoError Unit)}
      (later : ∀ chance : Chance, Heading a call loaded (next (a.bcrypt.generate password chance.random))) :
      Heading a call loaded (.call (.generateHash password) next)
  | drawing {next : Except GoError String → AuthProgram (Except GoError Unit)}
      (refused : ∀ e, Heading a call loaded (next (.error e)))
      (later : ∀ random, Heading a call loaded (next (.ok random))) :
      Heading a call loaded (.call .randomToken next)
  | saving {f : StoredAuth → StoredAuth} {random : String}
      (updates : call.update a random loaded.record = .ok (f loaded.record)) :
      Heading a call loaded (.call (.save loaded.pointer f) .ret)
  | savingNew {record : StoredAuth} {random : String} {next : Except GoError Unit → AuthProgram (Except GoError Unit)}
      (updates : call.update a random loaded.record = .ok record) (returns : ∀ r, next r = .ret r) :
      Heading a call loaded (.call (.saveNew record) next)

/-- The call has not loaded yet. -/
inductive Opening (a : AuthManager) (call : SettingsCall) : AuthProgram (Except GoError Unit) → Prop where
  | refused (e : GoError) : Opening a call (.ret (.error e))
  | loading {next : Except GoError Loaded → AuthProgram (Except GoError Unit)}
      (failed : ∀ e, next (.error e) = .ret (.error e))
      (later : ∀ loaded, Heading a call loaded (next (.ok loaded))) :
      Opening a call (.call .load next)

theorem opening_run (a : AuthManager) (call : SettingsCall) : Opening a call (call.run a).toProgram := by
  cases assigns : call.assigns with
  | some f =>
    rw [run_eq_assignAndSave a assigns]
    refine Opening.loading (fun _ => rfl) ?_
    intro loaded
    show Heading a call loaded (Action.toProgram (if call.refused loaded.record then _ else _))
    cases refused : call.refused loaded.record with
    | true => exact .failed _
    | false =>
      have updates : call.update a "" loaded.record = .ok (f loaded.record) :=
        SettingsCall.update_of_assigns assigns refused
      exact .saving updates
  | none =>
    cases call with
    | changePassword currentPassword newPassword =>
      show Opening a _ (Action.toProgram (a.changePassword currentPassword newPassword))
      unfold AuthManager.changePassword
      split
      · exact .refused _
      · next enabled =>
        split
        · exact .refused _
        · next long =>
          refine Opening.loading (fun _ => rfl) ?_
          intro loaded
          show Heading a _ loaded (Action.toProgram
            (if ¬ a.bcrypt.compare loaded.record.passwordHash currentPassword then _ else _))
          split
          · exact .failed _
          · next correct =>
            refine Heading.hashing ?_
            intro chance
            cases hashed : a.bcrypt.generate newPassword chance.random with
            | error e => exact .failed _
            | ok hash =>
              have updates : SettingsCall.update a chance.random
                  (.changePassword currentPassword newPassword) loaded.record =
                  .ok { loaded.record with passwordHash := hash } := by
                simp [SettingsCall.update, rejectIf, enabled, long, correct, hashed]
                rfl
              exact .savingNew updates fun _ => rfl
    | regenerateAPIKey scope password =>
      refine Opening.loading (fun _ => rfl) ?_
      intro loaded
      dsimp only
      rw [Program.ret_bind]
      show Heading a _ loaded ((Action.toProgram
        (if ¬ a.bcrypt.compare loaded.record.passwordHash password then _ else _)).bind _)
      split
      · exact .failed _
      · next correct =>
        simp only [AuthManager.generateAPIKey]
        cases started : AuthManager.keyStart scope with
        | error e => exact .failed e
        | ok start =>
          refine Heading.drawing (fun e => .failed e) ?_
          intro random
          show Heading a _ loaded ((Action.toProgram
            (Action.ofExcept (loaded.record.setAPIKey scope (start ++ random)) >>= _)).bind _)
          cases updated : loaded.record.setAPIKey scope (start ++ random) with
          | error e => exact .failed e
          | ok record =>
            have updates : SettingsCall.update a random (.regenerateAPIKey scope password) loaded.record =
                .ok record := by
              simp [SettingsCall.update, rejectIf, correct, started]
              exact updated
            refine Heading.savingNew updates ?_
            intro r
            cases r <;> rfl
    | _ => cases assigns

/-! ## A call that runs alone -/

/-- A load that does not fail sees the record, and returns a pointer to a cell that holds it. -/
theorem load_seen {s : AuthState} {record : StoredAuth} (sees : s.seen = .ok record) {chance : Chance}
    (fault : chance.fault = none) :
    ∃ t, s.load chance = (.ok ⟨s.cells.length, record⟩, t) ∧ t.cells = s.cells ++ [record] ∧
      t.seen = .ok record ∧ t.file = s.file := by
  cases here : s.copy with
  | some record' =>
    obtain rfl : record' = record := by simpa [AuthState.seen, here] using sees
    exact ⟨_, s.load_of_copy here chance, rfl, (s.seen_alloc _).trans sees, rfl⟩
  | none =>
    have read : s.readFile chance = .ok record := by
      simpa [AuthState.readFile, fault, AuthState.seen, here] using sees
    exact ⟨_, s.load_of_read here read, rfl, s.seen_install record, rfl⟩

theorem seen_of_copy {s : AuthState} {record : StoredAuth} (copied : s.copy = some record) :
    s.seen = .ok record := by
  unfold AuthState.seen
  rw [copied]

/-- A save that does not fail leaves the record of its cell stored. -/
theorem saveLocked_stores {s : AuthState} {pointer : Nat} {record : StoredAuth}
    (there : s.cells[pointer]? = some record) {chance : Chance} (fault : chance.fault = none) :
    ∃ t, s.saveLocked chance pointer = (.ok (), t) ∧ t.file = .stored record ∧ t.seen = .ok record ∧
      t.cells = s.cells ++ [record] :=
  ⟨_, saveLocked_of_none s fault there, rfl, seen_of_copy (s.copy_install record), rfl⟩

theorem exec_saveNew (a : AuthManager) (record : StoredAuth) (g : Trial) (fault : g.choice.fault = none) :
    ∃ g', attempt a (AuthManager.saveNew record) g = (.ok (), g') ∧ g'.state.file = .stored record ∧
      g'.state.seen = .ok record := by
  have there : (g.state.alloc record).2.cells[g.state.cells.length]? = some record := by simp [AuthState.alloc]
  obtain ⟨t, saves, file, sees, -⟩ := saveLocked_stores there fault
  rw [attempt_saveNew, saves]
  exact ⟨_, rfl, file, sees⟩

@[simp] theorem attempt_generateHash (a : AuthManager) (password : String) (g : Trial) :
    attempt a (AuthManager.generateHash password) g =
      (wrapError "hash password" (a.bcrypt.generate password g.choice.random), g.next g.state) := rfl

@[simp] theorem attempt_randomToken (a : AuthManager) (g : Trial) :
    attempt a AuthManager.randomToken g =
      (match g.choice.fault with
        | some cause => .error (.wrap "generate token" cause)
        | none => .ok g.choice.random, g.next g.state) := rfl

theorem attempt_generateAPIKey (a : AuthManager) {scope start : String} (started : AuthManager.keyStart scope = .ok start)
    {random : String} (g : Trial) (draws : g.choice = { random }) :
    attempt a (AuthManager.generateAPIKey scope) g = (.ok (start ++ random), g.next g.state) := by
  unfold AuthManager.generateAPIKey attempt
  rw [started, Action.exec_bind, Action.exec_ofExcept]
  dsimp only
  rw [Action.exec_bind, ← attempt, attempt_randomToken, draws]
  rfl

/-- A call that makes `record'` of the record can run to its end and leave `record'` stored. -/
theorem exec_update {a : AuthManager} {random : String} {call : SettingsCall} {s : AuthState}
    {record record' : StoredAuth} (sees : s.seen = .ok record)
    (updates : call.update a random record = .ok record') :
    ∃ choices g, Action.exec (guide (perform a)) (call.run a) { state := s, choices } = (.ok (), g) ∧
      g.state.file = .stored record' ∧ g.state.seen = .ok record' := by
  have quiet : ∀ (t : AuthState) (turn : Nat), Guided.choice
      ({ state := t, choices := fun _ => { random }, turn } : Trial) = { random } := fun _ _ => rfl
  refine ⟨fun _ => { random }, ?_⟩
  obtain ⟨t, loads, cells, -, -⟩ : ∃ t, s.load { random } = (.ok ⟨s.cells.length, record⟩, t) ∧
      t.cells = s.cells ++ [record] ∧ t.seen = .ok record ∧ t.file = s.file := load_seen sees rfl
  have loaded : attempt a AuthManager.load { state := s, choices := fun _ => { random } } =
      (.ok ⟨s.cells.length, record⟩, { state := t, choices := fun _ => { random }, turn := 1 }) := by
    rw [attempt_load, quiet, loads]
    rfl
  cases assigns : call.assigns with
  | some f =>
    rw [run_eq_assignAndSave a assigns, assignAndSave, Action.exec_bind, ← attempt, loaded]
    dsimp only
    cases refused : call.refused record with
    | true => cases call <;> simp [SettingsCall.update, SettingsCall.assigns, refused] at updates assigns
    | false =>
      obtain rfl : f record = record' := by
        rw [SettingsCall.update_of_assigns assigns refused] at updates
        exact Except.ok.inj updates
      have there : (t.assign s.cells.length f).cells[s.cells.length]? = some (f record) := by
        apply cells_assign
        simp [cells]
      obtain ⟨u, saves, file, sees, -⟩ : ∃ u, (t.assign s.cells.length f).saveLocked { random } s.cells.length =
          (.ok (), u) ∧ u.file = .stored (f record) ∧ u.seen = .ok (f record) ∧ _ :=
        saveLocked_stores there rfl
      simp only [Bool.false_eq_true, if_false]
      rw [← attempt, attempt_save, quiet, saves]
      exact ⟨_, rfl, file, sees⟩
  | none =>
    cases call with
    | changePassword currentPassword newPassword =>
      simp only [SettingsCall.update, except_bind_eq_ok, rejectIf_eq_ok] at updates
      obtain ⟨_, enabled, _, long, _, correct, hash, hashed, saved⟩ := updates
      show ∃ g, attempt a (a.changePassword currentPassword newPassword) _ = _ ∧ _
      unfold AuthManager.changePassword attempt
      rw [if_neg enabled, if_neg long, Action.exec_bind, ← attempt, loaded]
      dsimp only
      rw [if_neg correct, Action.exec_bind, ← attempt, attempt_generateHash, quiet, hashed]
      cases saved
      exact exec_saveNew a _ _ rfl
    | regenerateAPIKey scope password =>
      simp only [SettingsCall.update, except_bind_eq_ok, rejectIf_eq_ok] at updates
      obtain ⟨_, correct, start, started, updated⟩ := updates
      have drawn := attempt_generateAPIKey a started
        { state := t, choices := fun _ => { random }, turn := 1 } rfl
      show ∃ g, Action.exec (guide (perform a)) (a.regenerateAPIKey scope password >>= fun _ => pure ()) _ = _ ∧ _
      unfold AuthManager.regenerateAPIKey
      rw [Action.exec_bind, Action.exec_bind, ← attempt, loaded]
      dsimp only
      rw [if_neg correct, Action.exec_bind, ← attempt, drawn]
      dsimp only
      rw [Action.exec_bind, Action.exec_ofExcept, updated]
      dsimp only
      obtain ⟨g, saves, file, sees⟩ := exec_saveNew a record'
        (Guided.next { state := t, choices := fun _ => { random }, turn := 1 } t) rfl
      rw [Action.exec_bind, ← attempt, saves]
      exact ⟨g, rfl, file, sees⟩
    | _ => cases assigns

/-- A call that runs to its end has made what `update` says of the record it saw. -/
theorem update_of_heading {a : AuthManager} {call : SettingsCall} {loaded : Loaded}
    {rest : AuthProgram (Except GoError Unit)} (heading : Heading a call loaded rest) {g g' : Trial}
    (there : g.state.cells[loaded.pointer]? = some loaded.record)
    (ran : rest.run (guide (perform a)) g = (.ok (), g')) :
    ∃ random record, call.update a random loaded.record = .ok record ∧ g'.state.file = .stored record ∧
      g'.state.seen = .ok record := by
  induction heading generalizing g with
  | failed e => cases ran
  | hashing later ih =>
    rw [Program.run_call] at ran
    exact ih g.choice (g := g.next g.state) there ran
  | drawing refused later ihRefused ihLater =>
    rw [Program.run_call] at ran
    cases drawn : (guide (perform a) .randomToken g).1 with
    | error e =>
      rw [drawn] at ran
      exact ihRefused e (g := g.next g.state) there ran
    | ok random =>
      rw [drawn] at ran
      exact ihLater random (g := g.next g.state) there ran
  | @saving f random updates =>
    cases fault : g.choice.fault with
    | some cause =>
      simp [guide, perform, saveLocked_of_fault _ fault] at ran
    | none =>
      obtain ⟨u, saves, file, seen, -⟩ := saveLocked_stores (cells_assign g.state there f) fault
      simp only [Program.run_call, Program.run_ret, guide, perform, saves] at ran
      cases ran
      exact ⟨random, _, updates, file, seen⟩
  | @savingNew record random next updates returns =>
    have new : (g.state.alloc record).2.cells[g.state.cells.length]? = some record := by simp [AuthState.alloc]
    cases fault : g.choice.fault with
    | some cause =>
      simp [guide, perform, returns, saveLocked_of_fault _ fault] at ran
    | none =>
      obtain ⟨u, saves, file, seen, -⟩ := saveLocked_stores new fault
      simp only [Program.run_call, Program.run_ret, guide, perform, returns, saves] at ran
      cases ran
      exact ⟨random, record, updates, file, seen⟩

theorem update_of_exec {a : AuthManager} {call : SettingsCall} {s : AuthState} {choices : Nat → Chance} {g : Trial}
    (ran : Action.exec (guide (perform a)) (call.run a) { state := s, choices } = (.ok (), g)) :
    ∃ random before after, s.seen = .ok before ∧ call.update a random before = .ok after ∧
      g.state.file = .stored after ∧ g.state.seen = .ok after := by
  unfold Action.exec at ran
  have opening := opening_run a call
  generalize (call.run a).toProgram = rest at opening ran
  cases opening with
  | refused e => cases ran
  | loading failed later =>
    rw [Program.run_call] at ran
    have first : (guide (perform a) .load ({ state := s, choices } : Trial)) =
        ((s.load (choices 0)).1, { state := (s.load (choices 0)).2, choices, turn := 1 }) := rfl
    rw [first] at ran
    cases s.load_cases (choices 0) with
    | inr refused =>
      obtain ⟨e, result, -⟩ := refused
      rw [result, failed] at ran
      cases ran
    | inl loads =>
      obtain ⟨before, sees, result, after⟩ := loads
      rw [result] at ran
      have there : (s.load (choices 0)).2.cells[s.cells.length]? = some before := by
        obtain ⟨same, -⟩ | ⟨same, -⟩ := after <;> rw [same] <;> simp [AuthState.install, AuthState.alloc]
      obtain ⟨random, record, updates, file, seen⟩ := update_of_heading (later _) there ran
      exact ⟨random, before, record, sees, updates, file, seen⟩

/-! ## Calls one after the other -/

/-- The state after the calls in turn, each with its own choices, if all of them succeed. -/
def inTurn (a : AuthManager) : List (SettingsCall × (Nat → Chance)) → AuthState → Option AuthState
  | [], s => some s
  | (call, choices) :: calls, s =>
    match Action.exec (guide (perform a)) (call.run a) { state := s, choices } with
    | (.ok (), g) => inTurn a calls g.state
    | (.error _, _) => none

theorem inTurn_append (a : AuthManager) (calls later : List (SettingsCall × (Nat → Chance))) (s : AuthState) :
    inTurn a (calls ++ later) s = (inTurn a calls s).bind (inTurn a later) := by
  induction calls generalizing s with
  | nil => rfl
  | cons first calls ih =>
    obtain ⟨call, choices⟩ := first
    simp only [List.cons_append, inTurn]
    split
    · exact ih _
    · rfl

theorem update_of_inTurn {a : AuthManager} {first second : SettingsCall} {choices choices' : Nat → Chance}
    {s t : AuthState} (ran : inTurn a [(first, choices), (second, choices')] s = some t) :
    ∃ random random' before between after, s.seen = .ok before ∧ first.update a random before = .ok between ∧
      second.update a random' between = .ok after ∧ t.file = .stored after := by
  unfold inTurn at ran
  split at ran
  · next g first =>
    unfold inTurn at ran
    split at ran
    · next g' second =>
      cases ran
      obtain ⟨random, before, between, sees, updates, -, seesBetween⟩ := update_of_exec first
      obtain ⟨random', between', after, sees', updates', file, -⟩ := update_of_exec second
      obtain rfl : between = between' := Except.ok.inj (seesBetween.symm.trans sees')
      exact ⟨random, random', before, between, after, sees, updates, updates', file⟩
    · cases ran
  · cases ran

/-! ## Records that a load accepts -/

/-- The record of an account that `load` accepts. -/
def StoredAuth.Complete (record : StoredAuth) : Prop := record.username ≠ "" ∧ record.passwordHash ≠ ""

/-- What `bcrypt` returns is a hash. -/
def Bcrypt.Hashes (bcrypt : Bcrypt) : Prop :=
  ∀ password random hash, bcrypt.generate password random = .ok hash → hash ≠ ""

/-- A `bcrypt` package for runs on given inputs, whose hashes are readable. -/
def readable : Bcrypt where
  generate password _ := .ok ("$2a$10$" ++ password)
  compare hash password := hash = "$2a$10$" ++ password

theorem hashes_readable : readable.Hashes := by
  rintro password random _ ⟨⟩ empty
  have := congrArg String.length empty
  simp at this

theorem read_stored {record record' : StoredAuth} :
    (AuthFile.stored record).read = .ok record' ↔ record.Complete ∧ record = record' := by
  unfold AuthFile.read StoredAuth.Complete
  by_cases missing : record.username = "" ∨ record.passwordHash = ""
  · simp only [missing, if_true, reduceCtorEq, false_iff, not_and]
    intro complete
    tauto
  · simp only [missing, if_false, Except.ok.injEq]
    tauto

theorem complete_of_read {file : AuthFile} {record : StoredAuth} (read : file.read = .ok record) :
    record.Complete := by
  cases file with
  | stored record' =>
    obtain ⟨complete, rfl⟩ := read_stored.mp read
    exact complete
  | _ => cases read

/-- A settings call takes no user name and no password away. -/
theorem complete_of_update {a : AuthManager} (hashes : a.bcrypt.Hashes) {random : String} {call : SettingsCall}
    {record record' : StoredAuth} (complete : record.Complete) (updates : call.update a random record = .ok record') :
    record'.Complete := by
  cases call with
  | changePassword currentPassword newPassword =>
    simp only [SettingsCall.update, except_bind_eq_ok, rejectIf_eq_ok] at updates
    obtain ⟨_, -, _, -, _, -, hash, hashed, saved⟩ := updates
    cases saved
    refine ⟨complete.1, hashes newPassword random hash ?_⟩
    cases generated : a.bcrypt.generate newPassword random with
    | error e => simp [generated] at hashed
    | ok hash' => simpa [generated] using hashed
  | regenerateAPIKey scope password =>
    simp only [SettingsCall.update, except_bind_eq_ok, rejectIf_eq_ok] at updates
    obtain ⟨_, -, start, -, updated⟩ := updates
    unfold StoredAuth.setAPIKey at updated
    split at updated
    · cases updated
      exact complete
    · split at updated
      · cases updated
        exact complete
      · cases updated
  | _ =>
    simp only [SettingsCall.update, SettingsCall.assigns] at updates
    split at updates <;> cases updates
    exact complete

/-! ## The pointers of several calls -/

/-- No pointer that was loaded is out of bounds, and no two are the same. -/
structure Apart (bound : Nat) (loads : List (Option Loaded)) : Prop where
  inside : ∀ (i : Nat) (l : Loaded), loads[i]? = some (some l) → l.pointer < bound
  apart : ∀ (i j : Nat) (l m : Loaded), loads[i]? = some (some l) → loads[j]? = some (some m) → i ≠ j →
    l.pointer ≠ m.pointer

/-- One call keeps its pointer or gets the next one. -/
theorem Apart.set {bound bound' : Nat} {loads : List (Option Loaded)} (pointers : Apart bound loads)
    (longer : bound ≤ bound') {i : Nat} (within : i < loads.length) {load : Option Loaded}
    (fresh : ∀ l ∈ load, loads[i]? = some (some l) ∨ l.pointer = bound ∧ bound < bound') :
    Apart bound' (loads.set i load) := by
  have old_or_new : ∀ (j : Nat) (l : Loaded), (loads.set i load)[j]? = some (some l) →
      loads[j]? = some (some l) ∨ j = i ∧ l.pointer = bound ∧ bound < bound' := by
    intro j l here
    by_cases same : j = i
    · subst same
      rw [List.getElem?_set_self within, Option.some.injEq] at here
      cases fresh l here with
      | inl before => exact .inl before
      | inr new => exact .inr ⟨rfl, new⟩
    · rw [List.getElem?_set_ne (Ne.symm same)] at here
      exact .inl here
  constructor
  · intro j l here
    cases old_or_new j l here with
    | inl before =>
      have := pointers.inside j l before
      omega
    | inr new => omega
  · intro j k l m here here' different
    cases old_or_new j l here with
    | inl before =>
      have := pointers.inside j l before
      cases old_or_new k m here' with
      | inl before' => exact pointers.apart j k l m before before' different
      | inr new => omega
    | inr new =>
      cases old_or_new k m here' with
      | inl before' =>
        have := pointers.inside k m before'
        omega
      | inr new' => omega

end Strom.WebAuth
