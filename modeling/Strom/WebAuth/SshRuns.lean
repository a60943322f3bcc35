import Strom.WebAuth.SshSteps

/-!
# The two passwords over whole runs

`passwords_agree` is about the runs in which the requests are handled one at a time and every
step is a careful one.
-/

namespace Strom.WebAuth

open Strom.Go Strom.Effects

/-! ## The handlers -/

section Handlers

variable {a : AuthManager} {commands : Commands} {request : AccessRequest} {before : Machine}

/-- What the loads see, the file and the password of the account are as they were. -/
structure Machine.Same (m t : Machine) : Prop where
  seen : t.auth.seen = m.auth.seen
  file : t.auth.file = m.auth.file
  password : t.linux.password = m.linux.password

theorem Machine.Same.trans {m u t : Machine} (first : m.Same u) (second : u.Same t) : m.Same t :=
  ⟨second.seen.trans first.seen, second.file.trans first.file, second.password.trans first.password⟩

theorem Machine.Same.secrets {m t : Machine} (same : m.Same t) : t.secrets = m.secrets := by
  unfold Machine.secrets
  rw [same.seen, same.file, same.password]

theorem requireSession_secures (cookie : Option String) (m : Machine) :
    Action.Secures (performAccess a commands) (request.Careful a commands before) (requireSession a cookie)
      (fun _ t => m.Same t) m := by
  unfold requireSession
  split
  · exact ⟨rfl, rfl, rfl⟩
  · refine Action.Secures.bind_always (R := fun _ t => m.Same t) ?_ ?_
    · refine (secures_liftAuth (bootstrapped_secures m.auth)).mono ?_
      rintro _ t ⟨sees, linux⟩
      exact ⟨sees.1, sees.2, congrArg Linux.password linux⟩
    · intro bootstrapped t same
      split
      · exact same
      · refine Action.Secures.mapError (secures_ofAuth (sessionUsername_secures cookie t.auth)) ?_
        rintro r u ⟨sees, linux⟩
        exact same.trans ⟨sees.1, sees.2, congrArg Linux.password linux⟩

/-- Between the requests: the file holds what the loads see, and the passwords agree. -/
structure Machine.Settled (a : AuthManager) (m : Machine) : Prop where
  stored : m.auth.seen = m.auth.file.read
  agrees : m.Agrees a

theorem Machine.Settled.same {m t : Machine} (settled : m.Settled a) (same : m.Same t) : t.Settled a := by
  constructor
  · rw [same.seen, same.file]
    exact settled.stored
  · intro record holds enabled
    rw [same.password]
    apply settled.agrees record _ enabled
    unfold Machine.Holds at holds ⊢
    rw [same.seen, same.file] at holds
    exact holds

theorem Machine.Settled.complete {m : Machine} (settled : m.Settled a) {record : StoredAuth}
    (sees : m.auth.seen = .ok record) : record.Complete := complete_of_read (settled.stored.symm.trans sees)

/-- A record that was saved, while SSH access is disabled or the account has its password. -/
theorem settled_of_saved {t : Machine} {record : StoredAuth} (saved : Sees (.ok record) (.stored record) t.auth)
    (complete : record.Complete)
    (agrees : record.sshEnabled.getD false = true →
      ∃ password, t.linux.password = some password ∧ a.bcrypt.compare record.passwordHash password = true) :
    t.Settled a := by
  have read : t.auth.file.read = .ok record := by
    rw [saved.2]
    exact read_stored.mpr ⟨complete, rfl⟩
  refine ⟨saved.1.trans read.symm, ?_⟩
  intro record' holds enabled
  obtain rfl : record = record' := by
    cases holds with
    | inl sees => exact Except.ok.inj (saved.1.symm.trans sees)
    | inr stored => exact Except.ok.inj (read.symm.trans stored)
  exact agrees enabled

theorem disable_settles (cookie : Option String) (password : String) (m : Machine) (settled : m.Settled a) :
    Action.Secures (performAccess a commands) (AccessRequest.Careful a commands (.sshSetting cookie false password) m)
      (handleSSHSetting a cookie false password) (fun _ t => t.Settled a) m := by
  refine Action.Secures.bind (requireSession_secures cookie m) ?_ fun _ t same => settled.same same
  intro username t same
  simp only [Bool.false_eq_true, if_false]
  have settledThere := settled.same same
  refine Action.Secures.bind (R := fun _ u => m.Same u) ?_ ?_ fun _ u same => settled.same same
  · refine Action.Secures.mapError (disable_secures t) ?_
    rintro r u ⟨auth, password⟩
    exact same.trans ⟨by rw [auth], by rw [auth], password⟩
  · intro _ u same
    refine Action.Secures.mapError (secures_ofAuth (assignAndSave_secures _ u.auth)) ?_
    rintro r v ⟨⟨undone, saved⟩, linux⟩
    cases r with
    | error e =>
      obtain ⟨-, sees⟩ := undone e rfl
      exact settled.same (same.trans ⟨sees.1, sees.2, congrArg Linux.password linux⟩)
    | ok _ =>
      obtain ⟨record, sees, saved⟩ := saved rfl
      have complete := (settled.same same).complete sees
      exact settled_of_saved saved complete nofun

theorem enable_settles (oneLines : commands.OneLines) (cookie : Option String) (password : String) (m : Machine)
    (settled : m.Settled a) :
    Action.Secures (performAccess a commands) (AccessRequest.Careful a commands (.sshSetting cookie true password) m)
      (handleSSHSetting a cookie true password)
      (fun r t => t.Settled a ∧ ∀ refusal, r = .error refusal → t.secrets = m.secrets) m := by
  have undone : ∀ {t : Machine}, m.Same t → t.Settled a ∧ t.secrets = m.secrets :=
    fun same => ⟨settled.same same, same.secrets⟩
  refine Action.Secures.bind (requireSession_secures cookie m) ?_ fun _ t same =>
    ⟨(undone same).1, fun _ _ => (undone same).2⟩
  intro username t same
  simp only [if_true]
  refine Action.Secures.bind (R := fun r u => m.Same u ∧ (r = .ok () → a.enabled = true →
    ∃ record, u.auth.seen = .ok record ∧ a.bcrypt.compare record.passwordHash password = true)) ?_ ?_
    fun _ u post => ⟨(undone post.1).1, fun _ _ => (undone post.1).2⟩
  · refine Action.Secures.mapError (secures_ofAuth (authenticate_secures username password t.auth)) ?_
    rintro r u ⟨⟨sees, authentic⟩, linux⟩
    refine ⟨same.trans ⟨sees.1, sees.2, congrArg Linux.password linux⟩, ?_⟩
    intro accepted enabled
    rw [sees.1]
    cases r with
    | ok _ => exact authentic rfl enabled
    | error e => cases accepted
  · rintro _ u ⟨same, authentic⟩
    refine Action.Secures.bind (R := fun r v => v.auth = u.auth ∧
      (∀ refusal, r = .error refusal → v.linux.password = m.linux.password) ∧
      (∀ hash, r = .ok hash → v.linux.password = some password ∧ a.enabled = true)) ?_ ?_ ?_
    · refine Action.Secures.mapError (enable_secures password u) ?_
      rintro r v ⟨auth, failed, set⟩
      cases r with
      | error e => exact ⟨auth, fun _ _ => failed e rfl, nofun⟩
      | ok hash =>
        obtain ⟨set, _, _, oneLine, enabled⟩ := set hash rfl
        rw [oneLines password oneLine] at set
        exact ⟨auth, nofun, fun _ _ => ⟨set, enabled⟩⟩
    · rintro hash v ⟨auth, -, set⟩
      obtain ⟨set, enabled⟩ := set hash rfl
      obtain ⟨record, sees, accepts⟩ := authentic rfl enabled
      refine Action.Secures.mapError (secures_ofAuth (assignAndSave_secures _ v.auth)) ?_
      rintro r w ⟨⟨undone', saved⟩, linux⟩
      cases r with
      | error e =>
        obtain ⟨free, sees'⟩ := undone' e rfl
        have same' : m.Same w := by
          refine ⟨?_, ?_, ?_⟩
          · rw [sees'.1, auth, same.seen]
          · rw [sees'.2, auth, same.file]
          · rw [linux, free]
        exact ⟨(undone same').1, fun _ _ => (undone same').2⟩
      | ok _ =>
        obtain ⟨record', sees', saved⟩ := saved rfl
        obtain rfl : record = record' := by
          rw [auth] at sees'
          exact Except.ok.inj (sees.symm.trans sees')
        have complete := (settled.same same).complete sees
        refine ⟨settled_of_saved saved complete ?_, nofun⟩
        intro _
        exact ⟨password, by rw [linux, set], accepts⟩
    · rintro refusal v ⟨auth, failed, -⟩
      have same' : m.Same v := by
        refine ⟨?_, ?_, failed refusal rfl⟩
        · rw [auth, same.seen]
        · rw [auth, same.file]
      exact ⟨(undone same').1, fun _ _ => (undone same').2⟩

/-- After the account and its stored hash have been changed, the record is otherwise the same. -/
structure Synced (a : AuthManager) (currentPassword newPassword : String) (m : Machine) (record : StoredAuth)
    (v : Machine) : Prop where
  record : ∃ hash, Sees (.ok { record with sshPasswordHash := hash })
    (.stored { record with sshPasswordHash := hash }) v.auth
  password : v.linux.password = some newPassword
  admits : v.linux.password = m.linux.password ∨ a.Admits currentPassword newPassword v.auth

theorem syncIfEnabled_secures (oneLines : commands.OneLines) {currentPassword newPassword : String}
    {m u : Machine} (same : m.Same u) {record : StoredAuth} (sees : m.auth.seen = .ok record)
    (admits : ∀ t after, request.Admits a m t after → '\n' ∉ newPassword.toList ∧
      (after.linux.password = m.linux.password ∨ a.Admits currentPassword newPassword t.auth)) :
    Action.Secures (performAccess a commands) (request.Careful a commands m) (syncIfEnabled true newPassword)
      (fun r v => (∀ refusal, r = .error refusal → m.Same v) ∧
        (r = .ok () → Synced a currentPassword newPassword m record v)) u := by
  unfold syncIfEnabled
  rw [if_pos rfl]
  refine Action.Secures.bind (R := fun r v => (∀ refusal, r = .error refusal → m.Same v) ∧
    (∀ hash, r = .ok hash → v.auth = u.auth ∧ v.linux.password = some newPassword ∧
      (v.linux.password = m.linux.password ∨ a.Admits currentPassword newPassword u.auth))) ?_ ?_
    fun _ v post => ⟨fun refusal _ => post.1 _ rfl, nofun⟩
  · refine Action.Secures.mapError (syncPassword_secures newPassword u) ?_
    rintro r v ⟨auth, failed, set⟩
    cases r with
    | error e =>
      refine ⟨fun _ _ => ⟨?_, ?_, failed e rfl⟩, nofun⟩
      · rw [auth, same.seen]
      · rw [auth, same.file]
    | ok hash =>
      obtain ⟨set, admitted⟩ := set hash rfl
      obtain ⟨oneLine, admitted⟩ := admits u v admitted
      rw [oneLines newPassword oneLine] at set
      exact ⟨nofun, fun _ _ => ⟨auth, set, admitted⟩⟩
  · rintro hash v ⟨-, set⟩
    obtain ⟨auth, password, admitted⟩ := set hash rfl
    refine Action.Secures.mapError (secures_ofAuth (assignAndSave_secures _ v.auth)) ?_
    rintro r w ⟨⟨undone, saved⟩, linux⟩
    cases r with
    | error e =>
      obtain ⟨free, sees'⟩ := undone e rfl
      refine ⟨fun _ _ => ⟨?_, ?_, by rw [linux, free]⟩, nofun⟩
      · rw [sees'.1, auth, same.seen]
      · rw [sees'.2, auth, same.file]
    | ok _ =>
      obtain ⟨record', sees', saved⟩ := saved rfl
      obtain rfl : record = record' := by
        rw [auth, same.seen] at sees'
        exact Except.ok.inj (sees.symm.trans sees')
      refine ⟨nofun, fun _ => ⟨⟨hash, saved⟩, by rw [linux, password], ?_⟩⟩
      rw [linux]
      cases admitted with
      | inl unchanged => exact .inl unchanged
      | inr admitted =>
        obtain ⟨enabled, long, correct⟩ := admitted
        refine .inr ⟨enabled, long, ?_⟩
        rw [same.seen, sees] at correct
        rw [saved.1]
        simpa [Except.toOption] using correct

/-- What comes after the reading of the SSH flag, if SSH access is enabled. -/
theorem sync_and_change_settles (hashes : a.bcrypt.Hashes) (accepts : a.bcrypt.Matches)
    (oneLines : commands.OneLines) {currentPassword newPassword : String} {m u : Machine} (settled : m.Settled a)
    (same : m.Same u) {record : StoredAuth} (sees : m.auth.seen = .ok record)
    (admits : ∀ t after, request.Admits a m t after → '\n' ∉ newPassword.toList ∧
      (after.linux.password = m.linux.password ∨ a.Admits currentPassword newPassword t.auth)) :
    Action.Secures (performAccess a commands) (request.Careful a commands m)
      (syncIfEnabled true newPassword >>= fun _ =>
        refuse changePasswordError (ofAuth (a.changePassword currentPassword newPassword)))
      (fun r t => t.Settled a ∧ ∀ refusal, r = .error refusal → t.secrets = m.secrets) u := by
  refine Action.Secures.bind (syncIfEnabled_secures oneLines same sees admits) ?_ ?_
  · rintro _ v ⟨-, synced⟩
    obtain ⟨⟨hash, saved⟩, password, admitted⟩ := synced rfl
    have complete := settled.complete sees
    refine Action.Secures.mapError (secures_ofAuth (changePassword_secures currentPassword newPassword v.auth)) ?_
    rintro r w ⟨⟨refused, changed⟩, linux⟩
    cases r with
    | error e =>
      obtain ⟨free, sees'⟩ := refused e rfl
      -- the request was admitted, so only a step can have failed
      have unchanged : w.linux.password = m.linux.password := by
        rw [linux]
        cases admitted with
        | inl same => exact same
        | inr admitted => exact free admitted
      have saved : Sees _ _ w.auth := ⟨sees'.1.trans saved.1, sees'.2.trans saved.2⟩
      refine ⟨settled_of_saved saved complete ?_, ?_⟩
      · intro enabled
        rw [unchanged]
        exact settled.agrees record (.inl sees) enabled
      · intro _ _
        have read : m.auth.file.read = .ok record := settled.stored.symm.trans sees
        have read' : w.auth.file.read = .ok { record with sshPasswordHash := hash } := by
          rw [saved.2]
          exact read_stored.mpr ⟨complete, rfl⟩
        simp [Machine.secrets, saved.1, sees, read, read', unchanged, Except.toOption]
    | ok _ =>
      obtain ⟨record', random, hash', sees', generated, saved'⟩ := changed rfl
      obtain rfl := Except.ok.inj (saved.1.symm.trans sees')
      refine ⟨settled_of_saved saved' ⟨complete.1, hashes _ _ _ generated⟩ ?_, fun _ refused => by cases refused⟩
      intro _
      exact ⟨newPassword, by rw [linux, password], accepts _ _ _ generated⟩
  · rintro refusal v ⟨undone, -⟩
    have same := undone refusal rfl
    exact ⟨settled.same same, fun _ _ => same.secrets⟩

theorem change_settles (hashes : a.bcrypt.Hashes) (accepts : a.bcrypt.Matches) (oneLines : commands.OneLines)
    (cookie : Option String) (currentPassword newPassword confirmPassword : String) (m : Machine)
    (settled : m.Settled a) :
    Action.Secures (performAccess a commands)
      (AccessRequest.Careful a commands (.changePassword cookie currentPassword newPassword confirmPassword) m)
      (handleChangePassword a cookie currentPassword newPassword confirmPassword)
      (fun r t => t.Settled a ∧ ∀ refusal, r = .error refusal → t.secrets = m.secrets) m := by
  have undone : ∀ {t : Machine}, m.Same t → t.Settled a ∧ t.secrets = m.secrets :=
    fun same => ⟨settled.same same, same.secrets⟩
  refine Action.Secures.bind (requireSession_secures cookie m) ?_ fun _ t same =>
    ⟨(undone same).1, fun _ _ => (undone same).2⟩
  intro _ t same
  split
  · exact ⟨(undone same).1, fun _ _ => (undone same).2⟩
  · refine Action.Secures.bind (R := fun r u => m.Same u ∧
      ∀ enabled, r = .ok enabled → ∃ record, m.auth.seen = .ok record ∧ record.sshEnabled.getD false = enabled) ?_ ?_
      fun _ u post => ⟨(undone post.1).1, fun _ _ => (undone post.1).2⟩
    · refine Action.Secures.mapError (secures_ofAuth (sshEnabled_secures t.auth)) ?_
      rintro r u ⟨⟨sees, flag⟩, linux⟩
      refine ⟨same.trans ⟨sees.1, sees.2, congrArg Linux.password linux⟩, ?_⟩
      rw [same.seen] at flag
      cases r with
      | ok enabled =>
        rintro _ ⟨⟩
        exact flag enabled rfl
      | error e => exact nofun
    · rintro enabled u ⟨same, flag⟩
      obtain ⟨record, sees, flag⟩ := flag enabled rfl
      cases enabled with
      | true =>
        exact sync_and_change_settles hashes accepts oneLines settled same sees fun _ _ admits => admits
      | false =>
        refine Action.Secures.mapError (secures_ofAuth (changePassword_secures currentPassword newPassword u.auth)) ?_
        rintro r v ⟨⟨refused, changed⟩, linux⟩
        cases r with
        | error e =>
          have sees' := (refused e rfl).2
          have same' := same.trans ⟨sees'.1, sees'.2, congrArg Linux.password linux⟩
          exact ⟨(undone same').1, fun _ _ => (undone same').2⟩
        | ok _ =>
          obtain ⟨record', random, hash, sees', generated, saved⟩ := changed rfl
          obtain rfl : record = record' := Except.ok.inj ((sees.symm.trans same.seen.symm).trans sees')
          refine ⟨settled_of_saved saved ⟨(settled.complete sees).1, hashes _ _ _ generated⟩ ?_, fun _ refused => by cases refused⟩
          intro enabled
          exact absurd (flag.symm.trans enabled) nofun

theorem handle_settles (hashes : a.bcrypt.Hashes) (accepts : a.bcrypt.Matches) (oneLines : commands.OneLines)
    (request : AccessRequest) (m : Machine) (settled : m.Settled a) :
    (request.handle a).Secures (performAccess a commands) (request.Careful a commands m)
      (fun r t => t.Settled a ∧ request.Undone m r t) m := by
  cases request with
  | changePassword cookie currentPassword newPassword confirmPassword =>
    exact change_settles hashes accepts oneLines cookie currentPassword newPassword confirmPassword m settled
  | sshSetting cookie enabled password =>
    cases enabled with
    | true => exact enable_settles oneLines cookie password m settled
    | false =>
      refine Program.Secures.mono (disable_settles cookie password m settled) ?_
      intro r t settled
      exact ⟨settled, trivial⟩

end Handlers

/-! ## Every run -/

/-- A `chpasswd` for runs on given inputs, which sets the password of the first line. -/
def firstLine : Commands where
  chpasswd input :=
    String.ofList ((input.toList.drop (defaultAdminUsername ++ ":").toList.length).takeWhile (· ≠ '\n'))

theorem oneLines_firstLine : firstLine.OneLines := by
  intro password oneLine
  have line : (SshAccess.passwordLine password).toList = (defaultAdminUsername ++ ":").toList ++ (password.toList ++ ['\n']) := by
    simp [SshAccess.passwordLine]
  have within : ∀ c ∈ password.toList, (decide (c ≠ '\n')) = true := by
    intro c member
    simp only [decide_eq_true_eq]
    rintro rfl
    exact oneLine member
  unfold firstLine
  simp only [line, List.drop_left, List.takeWhile_append_of_pos within]
  simp

theorem matches_readable : readable.Matches := by
  rintro password random _ ⟨⟩
  simp [readable]

end Strom.WebAuth
