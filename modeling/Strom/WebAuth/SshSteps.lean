import Strom.WebAuth.SshAccess

/-!
# What the steps of the handlers keep

`chpasswd` comes before the checks and the other fallible steps, and nothing undoes it.
`Careful` names the steps after which a handler can still keep its promise: none fails once the
password of the account is another one.  Here is what the methods of the manager and the steps
on the system secure if every step is careful.
-/

namespace Strom.WebAuth

open Strom.Go Strom.Effects

/-! ## When the handlers do what they promise -/

def failed {α : Type} (r : Except GoError α) : Bool := r.toOption.isNone

/-- Whether the code takes the reply for an error. -/
def AuthOp.failed : (op : AuthOp) → op.Reply → Bool
  | .load, r => WebAuth.failed r
  | .save _ _, r => WebAuth.failed r
  | .saveNew _, r => WebAuth.failed r
  | .reset, r => WebAuth.failed r
  | .generateHash _, r => WebAuth.failed r
  | .randomToken, r => WebAuth.failed r
  | _, _ => false

def AccessOp.failed : (op : AccessOp) → op.Reply → Bool
  | .auth op, r => op.failed r
  | .id, _ => false
  | .getentShadow, r => WebAuth.failed (r.bind SshAccess.shadowHash)
  | .system _, r => WebAuth.failed r
  | .chpasswd _, r => WebAuth.failed r
  | .removeConfig, r => WebAuth.failed r

/-- What `changePassword` checks before it saves. -/
def AuthManager.Admits (a : AuthManager) (currentPassword newPassword : String) (s : AuthState) : Prop :=
  a.enabled = true ∧ 8 ≤ (utf8 newPassword).length ∧
    ∀ record ∈ s.seen.toOption, a.bcrypt.compare record.passwordHash currentPassword = true

/-- The new password of the account is one line, and the request will not be refused after it
    has been set. -/
def AccessRequest.Admits (a : AuthManager) (request : AccessRequest) (before m after : Machine) : Prop :=
  match request with
  | changePassword _ currentPassword newPassword _ => '\n' ∉ newPassword.toList ∧
    (after.linux.password = before.linux.password ∨ a.Admits currentPassword newPassword m.auth)
  | sshSetting _ _ password => '\n' ∉ password.toList ∧ a.enabled = true

/-- A step that fails leaves the account its password and the loads what they saw, and a password
    is set only if the request admits it. -/
def AccessRequest.Careful (a : AuthManager) (commands : Commands) (request : AccessRequest) (before : Machine)
    (op : AccessOp) (chance : AccessChance) (m : Machine) : Prop :=
  let outcome := performAccess a commands op chance m
  (op.failed outcome.1 = true →
    outcome.2.linux.password = before.linux.password ∧ outcome.2.auth.seen = m.auth.seen) ∧
  match op with
  | .chpasswd _ => request.Admits a before m outcome.2
  | _ => True

/-- `bcrypt` accepts a password for the hash that it has made of it. -/
def Bcrypt.Matches (bcrypt : Bcrypt) : Prop :=
  ∀ password random hash, bcrypt.generate password random = .ok hash → bcrypt.compare hash password = true

/-- `chpasswd` sets a password that is one line. -/
def Commands.OneLines (commands : Commands) : Prop :=
  ∀ password, '\n' ∉ password.toList → commands.chpasswd (SshAccess.passwordLine password) = password

instance (a : AuthManager) (currentPassword newPassword : String) (s : AuthState) :
    Decidable (a.Admits currentPassword newPassword s) := by
  unfold AuthManager.Admits
  infer_instance

instance (a : AuthManager) (request : AccessRequest) (before m after : Machine) :
    Decidable (request.Admits a before m after) := by
  cases request <;> unfold AccessRequest.Admits <;> infer_instance

instance (a : AuthManager) (commands : Commands) (request : AccessRequest) (before : Machine) (op : AccessOp)
    (chance : AccessChance) (m : Machine) : Decidable (request.Careful a commands before op chance m) := by
  unfold AccessRequest.Careful
  cases op <;> infer_instance

/-! ## The methods of the manager -/

section Methods

variable {a : AuthManager} {free : Prop}

/-- A step that fails may do so, and leaves what the loads see. -/
def Harmless (a : AuthManager) (free : Prop) (op : AuthOp) (chance : Chance) (s : AuthState) : Prop :=
  op.failed (perform a op chance s).1 = true → free ∧ (perform a op chance s).2.seen = s.seen

theorem load_secures (s : AuthState) : Action.Secures (perform a) (Harmless a free) AuthManager.load
    (fun r t => Sees s.seen s.file t ∧ (∀ e, r = .error e → free) ∧
      ∀ x, r = .ok x → s.seen = .ok x.record ∧ t.cells[x.pointer]? = some x.record) s := by
  intro chance harmless
  refine ⟨⟨s.seen_load chance, s.file_load chance⟩, ?_, ?_⟩
  · intro e result
    have failed : (perform a .load chance s).1 = .error e := result
    apply (harmless _).1
    simp [AuthOp.failed, failed, WebAuth.failed, Except.toOption]
  · intro x result
    have loaded : (s.load chance).1 = .ok x := result
    cases s.load_cases chance with
    | inr refused =>
      obtain ⟨e, refused, -⟩ := refused
      rw [refused] at loaded
      cases loaded
    | inl loads =>
      obtain ⟨record, sees, loads, after⟩ := loads
      obtain rfl : _ = x := Except.ok.inj (loads.symm.trans loaded)
      refine ⟨sees, ?_⟩
      show (s.load chance).2.cells[s.cells.length]? = some record
      obtain ⟨same, -⟩ | ⟨same, -⟩ := after <;> rw [same] <;> simp [AuthState.install, AuthState.alloc]

theorem assignAndSave_secures (f : StoredAuth → StoredAuth) (s : AuthState) :
    Action.Secures (perform a) (Harmless a free) (assignAndSave (fun _ => false) f)
      (fun r t => (∀ e, r = .error e → free ∧ Sees s.seen s.file t) ∧
        (r = .ok () → ∃ record, s.seen = .ok record ∧ Sees (.ok (f record)) (.stored (f record)) t)) s := by
  refine Action.Secures.bind (load_secures s) ?_ ?_
  · rintro x t ⟨sees, -, loaded⟩ chance harmless
    obtain ⟨record, there⟩ := loaded x rfl
    have assigned := cells_assign t there f
    simp only [perform]
    cases fault : chance.fault with
    | some cause =>
      have failing : perform a (.save x.pointer f) chance t =
          (.error (.wrap chance.context cause), t.assign x.pointer f) := saveLocked_of_fault _ fault _
      unfold Harmless at harmless
      rw [failing] at harmless
      obtain ⟨free, same⟩ := harmless rfl
      rw [saveLocked_of_fault _ fault]
      exact ⟨fun _ _ => ⟨free, same.trans sees.1, sees.2⟩, fun accepted => by cases accepted⟩
    | none =>
      obtain ⟨u, saves, file, seen, -⟩ := saveLocked_stores assigned fault
      rw [saves]
      exact ⟨(fun _ refused => by cases refused), fun _ => ⟨x.record, record, seen, file⟩⟩
  · rintro e t ⟨sees, failed, -⟩
    exact ⟨fun _ _ => ⟨failed e rfl, sees⟩, fun accepted => by cases accepted⟩

theorem sshEnabled_secures (s : AuthState) : Action.Secures (perform a) (Harmless a free) AuthManager.sshEnabled
    (fun r t => Sees s.seen s.file t ∧
      ∀ enabled, r = .ok enabled → ∃ record, s.seen = .ok record ∧ record.sshEnabled.getD false = enabled) s := by
  refine Action.Secures.bind (load_secures s) ?_ ?_
  · rintro x t ⟨sees, -, loaded⟩
    refine ⟨sees, ?_⟩
    rintro _ ⟨⟩
    exact ⟨x.record, (loaded x rfl).1, rfl⟩
  · rintro e t ⟨sees, -, -⟩
    exact ⟨sees, nofun⟩

theorem authenticate_secures (username password : String) (s : AuthState) :
    Action.Secures (perform a) (Harmless a free) (a.authenticate username password)
      (fun r t => Sees s.seen s.file t ∧
        (r = .ok () → a.enabled = true → ∃ record, s.seen = .ok record ∧
          a.bcrypt.compare record.passwordHash password = true)) s := by
  unfold AuthManager.authenticate
  split
  · next disabled => exact ⟨⟨rfl, rfl⟩, fun _ enabled => absurd enabled disabled⟩
  · refine Action.Secures.bind (load_secures s) ?_ ?_
    · rintro x t ⟨sees, -, loaded⟩
      split
      · exact ⟨sees, nofun⟩
      · split
        · exact ⟨sees, nofun⟩
        · next correct =>
          exact ⟨sees, fun _ _ => ⟨x.record, (loaded x rfl).1, by simpa using correct⟩⟩
    · rintro e t ⟨sees, -, -⟩
      exact ⟨sees, nofun⟩

theorem bootstrapped_secures (s : AuthState) :
    a.bootstrapped.Secures (perform a) (Harmless a free) (fun _ t => Sees s.seen s.file t) s := by
  unfold AuthManager.bootstrapped
  split
  · exact ⟨rfl, rfl⟩
  · have loads : Action.Secures (perform a) (Harmless a free) AuthManager.load _ s := load_secures s
    refine Program.secures_bind.mpr (Program.Secures.mono loads ?_)
    rintro r t ⟨sees, -⟩
    cases r <;> exact sees

theorem sessionUsername_secures (cookie : Option String) (s : AuthState) :
    Action.Secures (perform a) (Harmless a free) (a.sessionUsername cookie) (fun _ t => Sees s.seen s.file t) s := by
  unfold AuthManager.sessionUsername
  split
  · exact ⟨rfl, rfl⟩
  · cases cookie with
    | none => exact ⟨rfl, rfl⟩
    | some token =>
      refine Action.Secures.bind_always (R := fun _ t => Sees s.seen s.file t) ?_ ?_
      · intro chance _
        exact ⟨rfl, rfl⟩
      · intro session t sees
        cases session <;> exact sees

theorem saveNew_secures (record : StoredAuth) (s : AuthState) :
    Action.Secures (perform a) (Harmless a free) (AuthManager.saveNew record)
      (fun r t => (∀ e, r = .error e → free ∧ Sees s.seen s.file t) ∧
        (r = .ok () → Sees (.ok record) (.stored record) t)) s := by
  intro chance harmless
  have new : (s.alloc record).2.cells[s.cells.length]? = some record := by simp [AuthState.alloc]
  simp only [perform]
  cases fault : chance.fault with
  | some cause =>
    have failing : perform a (.saveNew record) chance s =
        (.error (.wrap chance.context cause), (s.alloc record).2) := saveLocked_of_fault _ fault _
    unfold Harmless at harmless
    rw [failing] at harmless
    obtain ⟨free, same⟩ := harmless rfl
    rw [saveLocked_of_fault _ fault]
    exact ⟨fun _ _ => ⟨free, same, rfl⟩, fun accepted => by cases accepted⟩
  | none =>
    obtain ⟨u, saves, file, seen, -⟩ := saveLocked_stores new fault
    rw [saves]
    exact ⟨(fun _ refused => by cases refused), fun _ => ⟨seen, file⟩⟩

theorem changePassword_secures (currentPassword newPassword : String) (s : AuthState) :
    Action.Secures (perform a) (Harmless a free) (a.changePassword currentPassword newPassword)
      (fun r t => (∀ e, r = .error e → (a.Admits currentPassword newPassword s → free) ∧ Sees s.seen s.file t) ∧
        (r = .ok () → ∃ record random hash, s.seen = .ok record ∧ a.bcrypt.generate newPassword random = .ok hash ∧
          Sees (.ok { record with passwordHash := hash }) (.stored { record with passwordHash := hash }) t)) s := by
  unfold AuthManager.changePassword
  split
  · next disabled => exact ⟨fun _ _ => ⟨fun admits => absurd admits.1 disabled, rfl, rfl⟩, nofun⟩
  · split
    · next short => exact ⟨fun _ _ => ⟨fun admits => absurd admits.2.1 (by omega), rfl, rfl⟩, nofun⟩
    · refine Action.Secures.bind (load_secures s) ?_ ?_
      · rintro x t ⟨sees, -, loaded⟩
        obtain ⟨record, -⟩ := loaded x rfl
        split
        · next wrong =>
          refine ⟨fun _ _ => ⟨fun admits => absurd (admits.2.2 x.record ?_) wrong, sees⟩, nofun⟩
          simp [record, Except.toOption]
        · refine Action.Secures.bind (R := fun r u => u = t ∧ (∀ e, r = .error e → free) ∧
            ∀ hash, r = .ok hash → ∃ random, a.bcrypt.generate newPassword random = .ok hash) ?_ ?_ ?_
          · refine Action.Secures.mapError (R := fun r u => u = t ∧ (∀ e, r = .error e → free) ∧
              ∀ hash, r = .ok hash → ∃ random, a.bcrypt.generate newPassword random = .ok hash) ?_ ?_
            · intro chance harmless
              refine ⟨rfl, ?_, fun hash hashed => ⟨chance.random, hashed⟩⟩
              intro e failing
              have failing : (perform a (.generateHash newPassword) chance t).1 = .error e := failing
              apply (harmless _).1
              simp [AuthOp.failed, failing, WebAuth.failed, Except.toOption]
            · rintro r u ⟨same, failed, hashed⟩
              cases r with
              | ok hash => exact ⟨same, nofun, hashed⟩
              | error e => exact ⟨same, fun _ _ => failed e rfl, nofun⟩
          · rintro hash u ⟨rfl, -, hashed⟩
            obtain ⟨random, generated⟩ := hashed hash rfl
            refine (saveNew_secures _ u).mono ?_
            rintro r t' ⟨undone, saved⟩
            refine ⟨?_, fun done => ⟨x.record, random, hash, record, generated, saved done⟩⟩
            intro e failing
            obtain ⟨free, same⟩ := undone e failing
            exact ⟨fun _ => free, same.1.trans sees.1, same.2.trans sees.2⟩
          · rintro e u ⟨rfl, failed, -⟩
            exact ⟨fun _ _ => ⟨fun _ => failed e rfl, sees⟩, nofun⟩
      · rintro e t ⟨sees, failed, -⟩
        exact ⟨fun _ _ => ⟨fun _ => failed e rfl, sees⟩, nofun⟩

end Methods

/-! ## The steps on the system -/

section System

variable {a : AuthManager} {commands : Commands} {request : AccessRequest} {before : Machine}

/-- The steps of a method of the manager. -/
theorem secures_liftAuth {α : Type} {p : AuthProgram α} {Q : α → AuthState → Prop} {linux : Linux} {s : AuthState}
    (secures : p.Secures (perform a) (Harmless a (linux.password = before.linux.password)) Q s) :
    (liftAuth p).Secures (performAccess a commands) (request.Careful a commands before)
      (fun r t => Q r t.auth ∧ t.linux = linux) { auth := s, linux } := by
  induction p generalizing s with
  | ret value => exact ⟨secures, rfl⟩
  | call op next ih =>
    intro chance careful
    exact ih _ (secures chance.auth careful.1)

theorem secures_ofAuth {α : Type} {x : AuthAction α} {Q : Except GoError α → AuthState → Prop} {m : Machine}
    (secures : Action.Secures (perform a) (Harmless a (m.linux.password = before.linux.password)) x Q m.auth) :
    Action.Secures (performAccess a commands) (request.Careful a commands before) (ofAuth x)
      (fun r t => Q r t.auth ∧ t.linux = m.linux) m :=
  secures_liftAuth secures

/-- The dashboard is left alone and the account keeps its password, which is the one of the
    beginning if the step fails. -/
structure Kept {α : Type} (before m : Machine) (r : Except GoError α) (t : Machine) : Prop where
  auth : t.auth = m.auth
  password : t.linux.password = m.linux.password
  failed : ∀ e, r = .error e → t.linux.password = before.linux.password

theorem Kept.after {α β : Type} {m u t : Machine} {r : Except GoError α} {r' : Except GoError β}
    (second : Kept before u r' t) (first : Kept before m r u) : Kept before m r' t :=
  ⟨second.auth.trans first.auth, second.password.trans first.password, second.failed⟩

theorem Kept.error {α β : Type} {m t : Machine} {e : GoError} {r : Except GoError β}
    (kept : Kept before m (.error e : Except GoError α) t) : Kept before m r t :=
  ⟨kept.auth, kept.password, fun _ _ => kept.failed e rfl⟩

theorem command_kept {effect : Linux → Linux} (chance : AccessChance) (m : Machine)
    (keeps : ∀ linux, (effect linux).password = linux.password) :
    (command chance effect m).2.auth = m.auth ∧ (command chance effect m).2.linux.password = m.linux.password := by
  unfold command
  cases chance.fault with
  | none => exact ⟨rfl, keeps _⟩
  | some e =>
    dsimp only
    split
    · exact ⟨rfl, keeps _⟩
    · exact ⟨rfl, rfl⟩

theorem effect_password (step : SystemStep) (linux : Linux) : (step.effect linux).password = linux.password := by
  cases step <;> rfl

theorem run_kept (context : String) (step : SystemStep) (m : Machine) :
    Action.Secures (performAccess a commands) (request.Careful a commands before) (SshAccess.run context step)
      (Kept before m) m := by
  refine Action.Secures.mapError (R := Kept before m) ?_ ?_
  · intro chance careful
    obtain ⟨auth, password⟩ := command_kept chance m (effect_password step)
    refine ⟨auth, password, ?_⟩
    intro e failing
    have failing : (command chance step.effect m).1 = .error e := failing
    apply (careful.1 _).1
    show failed (command chance step.effect m).1 = true
    rw [failing]
    rfl
  · intro r t kept
    cases r with
    | ok _ => exact kept
    | error e => exact kept.error

theorem ensureAdminAccount_kept (m : Machine) :
    Action.Secures (performAccess a commands) (request.Careful a commands before) SshAccess.ensureAdminAccount
      (Kept before m) m := by
  refine Action.Secures.bind_always (R := fun _ t => t.auth = m.auth ∧ t.linux.password = m.linux.password) ?_ ?_
  · intro chance _
    show (performAccess a commands .id chance m).2.auth = m.auth ∧
      (performAccess a commands .id chance m).2.linux.password = m.linux.password
    cases account : m.linux.account with
    | true =>
      simp only [performAccess, account, if_true]
      exact command_kept chance m fun _ => rfl
    | false => simp [performAccess, account]
  · rintro r t ⟨auth, password⟩
    cases r with
    | error e =>
      refine (run_kept _ _ t).mono fun r u kept => ?_
      exact ⟨kept.auth.trans auth, kept.password.trans password, kept.failed⟩
    | ok u =>
      refine (run_kept _ _ t).mono fun r u kept => ?_
      exact ⟨kept.auth.trans auth, kept.password.trans password, kept.failed⟩

/-- Two system steps in turn. -/
theorem twice_kept {x y : AccessAction Unit} (m : Machine)
    (first : ∀ m, Action.Secures (performAccess a commands) (request.Careful a commands before) x (Kept before m) m)
    (second : ∀ m, Action.Secures (performAccess a commands) (request.Careful a commands before) y (Kept before m) m) :
    Action.Secures (performAccess a commands) (request.Careful a commands before) (x >>= fun _ => y)
      (Kept before m) m := by
  refine Action.Secures.bind (first m) ?_ fun e t kept => kept
  intro _ t kept
  exact (second t).mono fun _ _ kept' => kept'.after kept

theorem writeConfig_kept (m : Machine) :
    Action.Secures (performAccess a commands) (request.Careful a commands before) SshAccess.writeConfig
      (Kept before m) m := twice_kept m (run_kept _ _) (run_kept _ _)

theorem validateAndRestart_kept (m : Machine) :
    Action.Secures (performAccess a commands) (request.Careful a commands before) SshAccess.validateAndRestart
      (Kept before m) m := twice_kept m (run_kept _ _) (run_kept _ _)

theorem passwordHash_kept (m : Machine) :
    Action.Secures (performAccess a commands) (request.Careful a commands before) SshAccess.passwordHash
      (Kept before m) m := by
  intro chance careful
  have cause := careful.1
  simp only [performAccess] at cause ⊢
  cases fault : chance.fault with
  | some e =>
    simp only [fault] at cause
    exact ⟨rfl, rfl, fun _ _ => (cause rfl).1⟩
  | none =>
    simp only [fault] at cause
    refine ⟨rfl, rfl, ?_⟩
    intro e (locked : SshAccess.shadowHash chance.output = .error e)
    apply (cause _).1
    simp [AccessOp.failed, Except.bind, locked, WebAuth.failed, Except.toOption]

/-- After `chpasswd` the account has the password, and the request admits it. -/
theorem syncPassword_secures (password : String) (m : Machine) :
    Action.Secures (performAccess a commands) (request.Careful a commands before) (SshAccess.syncPassword password)
      (fun r t => t.auth = m.auth ∧ (∀ e, r = .error e → t.linux.password = before.linux.password) ∧
        ∀ hash, r = .ok hash → t.linux.password = some (commands.chpasswd (SshAccess.passwordLine password)) ∧
          request.Admits a before m t) m := by
  let line := SshAccess.passwordLine password
  refine Action.Secures.bind (R := fun r t => t.auth = m.auth ∧
    (∀ e, r = .error e → t.linux.password = before.linux.password) ∧
    (r = .ok () → t.linux.password = some (commands.chpasswd line) ∧ request.Admits a before m t)) ?_ ?_ ?_
  · intro chance careful
    obtain ⟨cause, admits⟩ := careful
    simp only [performAccess, command] at cause admits ⊢
    cases fault : chance.fault with
    | some e =>
      simp only [fault] at cause
      refine ⟨?_, fun _ _ => (cause rfl).1, nofun⟩
      dsimp only
      split <;> rfl
    | none =>
      simp only [fault] at admits
      exact ⟨rfl, nofun, fun _ => ⟨rfl, admits⟩⟩
  · rintro _ t ⟨auth, -, set⟩
    obtain ⟨password, admits⟩ := set rfl
    refine (passwordHash_kept t).mono ?_
    intro r u kept
    refine ⟨kept.auth.trans auth, kept.failed, ?_⟩
    intro hash _
    refine ⟨kept.password.trans password, ?_⟩
    -- what a request admits depends on the password alone
    cases request with
    | sshSetting _ _ _ => exact admits
    | changePassword _ _ _ _ =>
      unfold AccessRequest.Admits at admits ⊢
      rw [kept.password]
      exact admits
  · rintro e t ⟨auth, failed, -⟩
    exact ⟨auth, fun _ _ => failed e rfl, nofun⟩

theorem enable_secures (password : String) (m : Machine) :
    Action.Secures (performAccess a commands) (request.Careful a commands before) (SshAccess.enable password)
      (fun r t => t.auth = m.auth ∧ (∀ e, r = .error e → t.linux.password = before.linux.password) ∧
        ∀ hash, r = .ok hash → t.linux.password = some (commands.chpasswd (SshAccess.passwordLine password)) ∧
          ∃ u v, request.Admits a before u v) m := by
  refine Action.Secures.bind (ensureAdminAccount_kept m) ?_ fun e t kept =>
    ⟨kept.auth, fun _ _ => kept.failed e rfl, nofun⟩
  intro _ t prepared
  refine Action.Secures.bind (syncPassword_secures password t) ?_ ?_
  · rintro hash u ⟨auth, -, set⟩
    obtain ⟨set, admits⟩ := set hash rfl
    have same : u.auth = m.auth := auth.trans prepared.auth
    refine Action.Secures.bind (writeConfig_kept u) ?_ fun e v kept =>
      ⟨kept.auth.trans same, fun _ _ => kept.failed e rfl, nofun⟩
    intro _ v written
    refine Action.Secures.bind (validateAndRestart_kept v) ?_ fun e w kept =>
      ⟨kept.auth.trans (written.auth.trans same), fun _ _ => kept.failed e rfl, nofun⟩
    intro _ w restarted
    exact ⟨restarted.auth.trans (written.auth.trans same), nofun,
      fun _ _ => ⟨restarted.password.trans (written.password.trans set), t, u, admits⟩⟩
  · rintro e u ⟨auth, failed, -⟩
    exact ⟨auth.trans prepared.auth, fun _ _ => failed e rfl, nofun⟩

theorem disable_secures (m : Machine) :
    Action.Secures (performAccess a commands) (request.Careful a commands before) SshAccess.disable
      (fun _ t => t.auth = m.auth ∧ t.linux.password = m.linux.password) m := by
  have lock : ∀ t : Machine, t.auth = m.auth ∧ t.linux.password = m.linux.password →
      Action.Secures (performAccess a commands) (request.Careful a commands before) SshAccess.disable.lock
        (fun _ t => t.auth = m.auth ∧ t.linux.password = m.linux.password) t := by
    intro t same
    refine (twice_kept t (run_kept _ _) validateAndRestart_kept).mono ?_
    intro r u kept
    exact ⟨kept.auth.trans same.1, kept.password.trans same.2⟩
  refine Action.Secures.bind_always (R := fun _ t => t.auth = m.auth ∧ t.linux.password = m.linux.password) ?_ ?_
  · intro chance _
    show (performAccess a commands .removeConfig chance m).2.auth = m.auth ∧
      (performAccess a commands .removeConfig chance m).2.linux.password = m.linux.password
    cases config : m.linux.config with
    | true =>
      simp only [performAccess, config, if_true]
      exact command_kept chance m fun _ => rfl
    | false => simp [performAccess, config]
  · intro r t same
    cases r with
    | ok _ => exact lock t same
    | error e =>
      dsimp only
      split
      · exact lock t same
      · exact same

end System

end Strom.WebAuth
