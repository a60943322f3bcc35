import Strom.Api.Access

/-!
# Effects are permitted

Each handler begins with what only reads, passes a gate and then has effects that the gate's
credential permits.
-/

namespace Strom.Api

open Strom.Go Strom.Effects Strom.WebAuth Strom.Adoption Strom.Agent

variable {s : Service} {r : Request} {g₀ : ApiTrial} {α β : Type}

/-- From the time when the request came on, every effect is permitted. -/
abbrev Behind (s : Service) (r : Request) (g₀ : ApiTrial) (x : ApiAction α) : Prop :=
  Action.Issues (handler s) (Since g₀) (Covered s r g₀) x

abbrev Reading (x : ApiAction α) : Prop := Action.Only ApiOp.Reads x

/-! ## Reading -/

theorem Since.next {g : ApiTrial} (since : Since g₀ g) {t : AgentState}
    (kept : t.adoption = g.state.adoption ∧ t.auth.seen = g.state.auth.seen ∧
      ∀ session ∈ t.auth.sessions, session ∈ g.state.auth.sessions) : Since g₀ (g.next t) where
  choices := since.choices
  adoption := kept.1.trans since.adoption
  seen := kept.2.1.trans since.seen
  sessions := fun session member => since.sessions session (kept.2.2 session member)

theorem reads_keeps (op : ApiOp) (g : ApiTrial) (reads : op.Reads) (since : Since g₀ g) :
    Since g₀ (handler s op g).2 := by
  apply since.next
  cases op with
  | bootstrapped => exact method_since quiet_bootstrapped _ _
  | authenticate username password => exact method_since (quiet_authenticate username password) _ _
  | sessionUsername cookie => exact method_since (quiet_sessionUsername cookie) _ _
  | sessionCSRFToken cookie => exact method_since (quiet_sessionCSRFToken cookie) _ _
  | matchAPIKey token => exact method_since (quiet_matchAPIKey token) _ _
  | load => exact method_since quiet_load _ _
  | revealAPIKey scope password => exact method_since (quiet_revealAPIKey scope password) _ _
  | randomToken => exact method_since quiet_randomToken _ _
  | loadAdoption => exact ⟨rfl, rfl, fun _ member => member⟩
  | buildHealthResponse => exact ⟨rfl, rfl, fun _ member => member⟩
  | buildUPSDetailResponse name => exact ⟨rfl, rfl, fun _ member => member⟩
  | view view => exact ⟨rfl, rfl, fun _ member => member⟩
  | _ => exact False.elim reads

theorem Reading.behind {x : ApiAction α} (reading : Reading x) : Behind s r g₀ x :=
  (reading.weaken covered_of_reads).issues

theorem Reading.since {x : ApiAction α} (reading : Reading x) {g t : ApiTrial} {result : Except Response α}
    (since : Since g₀ g) (ran : Action.exec (handler s) x g = (result, t)) : Since g₀ t := by
  have kept := reading.exec (reads_keeps (s := s)) since
  rwa [ran] at kept

/-- What only reads may come first. -/
theorem Reading.then {x : ApiAction α} {f : α → ApiAction β} (reading : Reading x)
    (rest : ∀ a, Behind s r g₀ (f a)) : Behind s r g₀ (x >>= f) :=
  Action.Issues.bind reading.behind (fun _ since => reading.exec reads_keeps since) rest

theorem only_ask {P : ApiOp → Prop} {op : ApiOp} (allowed : P op) : Action.Only P (ask op) :=
  Action.Only.always (Program.only_perform allowed)

theorem only_orAnswer {P : ApiOp → Prop} {ε : Type} (answer : ε → Response) (result : Except ε α) :
    Action.Only P (orAnswer answer result) := by
  cases result with
  | ok value => exact Action.only_pure value
  | error e => exact Action.only_throw _

theorem only_answerIf {P : ApiOp → Prop} (condition : Prop) [Decidable condition] (answer : Response) :
    Action.Only P (answerIf condition answer) := by
  unfold answerIf
  split
  · exact Action.only_throw _
  · exact Action.only_pure ()

/-- A call and its error. -/
theorem only_asked {P : ApiOp → Prop} {op : ApiOp} (allowed : P op) {f : op.Reply → ApiAction α}
    (rest : ∀ reply, Action.Only P (f reply)) : Action.Only P (ask op >>= f) :=
  Action.Only.bind (only_ask allowed) rest

theorem reading_load : Reading load :=
  only_asked (show ApiOp.Reads .load from trivial) fun _ => only_orAnswer _ _

theorem reading_show (view : View) : Reading (show_ view) :=
  only_asked (show ApiOp.Reads (.view view) from trivial) fun _ => Action.only_pure _

theorem reading_showHealth : Reading showHealth := by
  apply only_asked (show ApiOp.Reads .buildHealthResponse from trivial)
  intro built
  exact Action.Only.bind (only_orAnswer _ _) fun _ => Action.only_pure _

theorem reading_renderPage (status : Nat) (message : String) : Reading (renderPage (α := α) status message) := by
  apply Action.Only.bind
  · exact only_asked (show ApiOp.Reads .randomToken from trivial) fun _ => only_orAnswer _ _
  · intro _
    exact Action.only_throw _

theorem reading_requireSession : Reading (requireSession s r) := by
  unfold requireSession
  split
  · exact Action.only_pure _
  · apply only_asked (show ApiOp.Reads .bootstrapped from trivial)
    intro bootstrapped
    split
    · split <;> exact Action.only_throw _
    · apply only_asked (show ApiOp.Reads (.sessionUsername r.sessionCookie) from trivial)
      intro username
      cases username with
      | ok username => exact Action.only_pure _
      | error e =>
        dsimp only
        split
        · exact only_asked (show ApiOp.Reads .load from trivial) fun _ => reading_renderPage 401 _
        · exact Action.only_throw _

theorem reading_controllerTokenMatches : Reading (controllerTokenMatches s r) := by
  unfold controllerTokenMatches
  split
  · exact Action.only_pure _
  · split
    · exact Action.only_pure _
    · apply only_asked (show ApiOp.Reads .loadAdoption from trivial)
      intro loaded
      cases loaded with
      | error e => exact Action.only_pure _
      | ok adoption => cases adoption <;> exact Action.only_pure _

theorem reading_localAPIKeyMatches : Reading (localAPIKeyMatches r) := by
  unfold localAPIKeyMatches
  split
  · exact Action.only_pure _
  · exact only_ask trivial

theorem reading_requireAccess (scopes : List String) : Reading (requireAccess s r scopes) := by
  have session : Reading (requireSession s r >>= fun _ => pure ()) :=
    Action.Only.bind reading_requireSession fun _ => Action.only_pure _
  unfold requireAccess
  split
  · exact Action.only_pure _
  · apply Action.Only.bind reading_controllerTokenMatches
    intro controller
    split
    · exact Action.only_pure _
    · apply Action.Only.bind reading_localAPIKeyMatches
      intro matched
      split
      · split
        · exact Action.only_pure _
        · exact session
      · exact session

theorem reading_requireControllerToken : Reading (requireControllerToken s r) := by
  unfold requireControllerToken
  split
  · exact Action.only_throw _
  · apply Action.Only.bind reading_controllerTokenMatches
    intro controller
    split
    · exact Action.only_pure _
    · exact Action.only_throw _

theorem reading_validateSessionCSRF : Reading (validateSessionCSRF r) := by
  unfold validateSessionCSRF
  split
  · exact Action.only_pure _
  · apply only_asked (show ApiOp.Reads (.sessionCSRFToken r.sessionCookie) from trivial)
    intro token
    cases token <;> exact Action.only_pure _

theorem reading_checkPageCSRF : Reading (checkPageCSRF r) := by
  unfold checkPageCSRF
  split
  · exact Action.Only.bind reading_validateSessionCSRF fun _ => only_orAnswer _ _
  · exact Action.only_pure _

theorem reading_buildSettingsViewModel : Reading (buildSettingsViewModel r) := by
  unfold buildSettingsViewModel
  refine Action.Only.bind reading_load fun _ => Action.Only.bind reading_load fun _ =>
    Action.Only.bind reading_load fun _ => ?_
  apply only_asked (show ApiOp.Reads (.sessionCSRFToken r.sessionCookie) from trivial)
  intro token
  refine Action.Only.bind (only_orAnswer _ _) fun _ => Action.Only.bind reading_load fun _ =>
    Action.Only.bind reading_load fun _ => Action.Only.bind reading_load fun _ => ?_
  exact only_ask trivial

theorem reading_respondSettingsError (answer : Response) : Reading (respondSettingsError (α := α) r answer) := by
  unfold respondSettingsError
  split
  · exact Action.only_throw _
  · exact Action.Only.bind reading_buildSettingsViewModel fun _ => Action.only_throw _

theorem reading_orSettingsError (answer : GoError → Response) (result : Except GoError α) :
    Reading (orSettingsError r answer result) := by
  cases result with
  | ok value => exact Action.only_pure _
  | error e => exact reading_respondSettingsError _

/-! ## What a gate secures -/

theorem sessionUsername_ok {a : AuthManager} (enabled : a.enabled = true) {cookie : Option String}
    {chances : Nat → WebAuth.Chance} {t : AgentState} {username : String}
    (found : (method a (Action.toProgram (a.sessionUsername cookie)) chances t).1 = .ok username) :
    ∃ token session, cookie = some token ∧ session ∈ t.auth.sessions ∧ session.token = token ∧
      ¬ session.expiresAt.ns < (chances 0).now.ns := by
  cases cookie with
  | none => simp [method, AuthManager.sessionUsername, enabled] at found
  | some token =>
    have looked : method a (Action.toProgram (a.sessionUsername (some token))) chances t =
        (match (t.auth.cleanup (chances 0).now).sessions.find? (·.token = token) with
          | some session => .ok session.username
          | none => .error errInvalidCredentials,
          { t with auth := t.auth.cleanup (chances 0).now }) := by
      unfold AuthManager.sessionUsername method
      simp only [enabled, not_true_eq_false, if_false]
      rw [← Action.exec, Action.exec_bind, Action.exec_always, Program.run_perform]
      dsimp only [guide, WebAuth.perform, Guided.choice, Guided.next]
      cases (t.auth.cleanup (chances 0).now).sessions.find? (·.token = token) <;> rfl
    rw [looked] at found
    cases searched : (t.auth.cleanup (chances 0).now).sessions.find? (·.token = token) with
    | none => simp [searched] at found
    | some session =>
      have here := List.mem_of_find?_eq_some searched
      have same := List.find?_some searched
      obtain ⟨inside, alive⟩ := List.mem_filter.mp here
      exact ⟨token, session, rfl, inside, by simpa using same, by simpa using alive⟩

theorem matchScopes_ok {record : StoredAuth} {value scope : String} {scopes : List String}
    (matched : AuthManager.matchScopes record value scopes = .ok (some scope)) :
    record.apiKey scope = .ok value := by
  induction scopes with
  | nil => cases matched
  | cons first rest ih =>
    unfold AuthManager.matchScopes at matched
    cases key : record.apiKey first with
    | error e => simp [key] at matched
    | ok key' =>
      rw [key] at matched
      dsimp only at matched
      split at matched
      · next same =>
        cases matched
        rw [key, same.2]
      · exact ih matched

theorem matchAPIKey_ok {a : AuthManager} {token scope : String} {chances : Nat → WebAuth.Chance} {t : AgentState}
    (matched : (method a (Action.toProgram (AuthManager.matchAPIKey token)) chances t).1 = .ok (some scope)) :
    ∃ record, t.auth.seen = .ok record ∧ token ≠ "" ∧ record.apiKey scope = .ok token := by
  unfold AuthManager.matchAPIKey method at matched
  by_cases empty : token = ""
  · simp [empty] at matched
  · rw [if_neg empty, ← Action.exec, Action.exec_bind, ← attempt, attempt_load] at matched
    cases t.auth.load_cases (chances 0) with
    | inr failed =>
      obtain ⟨e, result, -⟩ := failed
      dsimp only [Guided.choice] at matched
      rw [result] at matched
      cases matched
    | inl loaded =>
      obtain ⟨record, sees, result, -⟩ := loaded
      dsimp only [Guided.choice] at matched
      rw [result] at matched
      exact ⟨record, sees, empty, matchScopes_ok matched⟩

theorem Since.session {g : ApiTrial} (since : Since g₀ g)
    (found : ∃ token session, r.sessionCookie = some token ∧ session ∈ g.state.auth.sessions ∧
      session.token = token ∧ ¬ session.expiresAt.ns < (g.choice.auth 0).now.ns) : HasSession r g₀ := by
  obtain ⟨token, session, cookie, inside, same, alive⟩ := found
  refine ⟨token, session, cookie, since.sessions session inside, same, g.turn, 0, ?_⟩
  rw [← since.choices]
  exact alive

/-- A call is not refused itself. -/
theorem exec_asked {op : ApiOp} {f : op.Reply → ApiAction α} (g : ApiTrial) :
    Action.exec (handler s) (ask op >>= f) g = Action.exec (handler s) (f (handler s op g).1) (handler s op g).2 := by
  rw [Action.exec_bind]
  rfl

theorem requireSession_secures (enabled : s.auth.enabled = true) {g t : ApiTrial} {username : String}
    (since : Since g₀ g) (passed : Action.exec (handler s) (requireSession s r) g = (.ok username, t)) :
    HasSession r g₀ := by
  unfold requireSession at passed
  rw [if_neg (by simp [enabled]), exec_asked] at passed
  have after : Since g₀ (handler s .bootstrapped g).2 := reads_keeps .bootstrapped g trivial since
  generalize (handler s .bootstrapped g).2 = u at passed after
  split at passed
  · split at passed <;> cases passed
  · rw [exec_asked] at passed
    cases found : (handler s (.sessionUsername r.sessionCookie) u).1 with
    | ok username' => exact after.session (sessionUsername_ok enabled found)
    | error e =>
      rw [found] at passed
      dsimp only at passed
      split at passed
      · rw [exec_asked] at passed
        obtain ⟨token, x, -, passed⟩ := Action.exec_bind_ok _ passed
        cases passed
      · cases passed

theorem controllerTokenMatches_secures {g t : ApiTrial} (since : Since g₀ g)
    (matched : Action.exec (handler s) (controllerTokenMatches s r) g = (.ok (.ok true), t)) :
    HasControllerToken s r g₀ := by
  unfold controllerTokenMatches at matched
  split at matched
  · cases matched
  · split at matched
    · cases matched
    · next given =>
      rw [exec_asked] at matched
      have read : (handler s .loadAdoption g).1 = g.state.adoption.load g.choice.fault := rfl
      rw [read, since.adoption] at matched
      unfold AdoptionFile.load at matched
      cases fault : g.choice.fault with
      | some cause => simp [fault] at matched
      | none =>
        cases file : g₀.state.adoption with
        | absent => simp [fault, file] at matched
        | malformed => simp [fault, file] at matched
        | stored adoption =>
          simp only [fault, file] at matched
          simp only [Action.exec_pure, Prod.mk.injEq, Except.ok.injEq, Bool.and_eq_true, decide_eq_true_eq] at matched
          exact ⟨adoption, file, given, by simpa using matched.1.1, matched.1.2⟩

theorem localAPIKeyMatches_secures {g t : ApiTrial} {scope : String} (since : Since g₀ g)
    (matched : Action.exec (handler s) (localAPIKeyMatches r) g = (.ok (.ok (some scope)), t)) :
    HasAPIKey r g₀ scope := by
  unfold localAPIKeyMatches at matched
  split at matched
  · cases matched
  · have answered : (method s.auth (Action.toProgram (AuthManager.matchAPIKey r.bearerToken)) g.choice.auth
        g.state).1 = .ok (some scope) := by
      have both := congrArg Prod.fst matched
      exact Except.ok.inj both
    obtain ⟨record, sees, given, key⟩ := matchAPIKey_ok answered
    exact ⟨record, since.seen ▸ sees, given, key⟩

theorem requireAccess_secures (enabled : s.auth.enabled = true) {scopes : List String} {g t : ApiTrial} {u : Unit}
    (since : Since g₀ g) (passed : Action.exec (handler s) (requireAccess s r scopes) g = (.ok u, t)) :
    HasSession r g₀ ∨ HasControllerToken s r g₀ ∨ ∃ scope ∈ scopes, HasAPIKey r g₀ scope := by
  have session : ∀ {v w : ApiTrial}, Since g₀ v →
      Action.exec (handler s) (requireSession s r >>= fun _ => pure ()) v = (.ok u, w) → HasSession r g₀ := by
    intro v w since passed
    obtain ⟨username, x, passed, -⟩ := Action.exec_bind_ok _ passed
    exact requireSession_secures enabled since passed
  unfold requireAccess at passed
  rw [if_neg (by simp [enabled])] at passed
  obtain ⟨controller, v, first, passed⟩ := Action.exec_bind_ok _ passed
  have afterFirst : Since g₀ v := reading_controllerTokenMatches.since since first
  split at passed
  · next matched => exact .inr (.inl (controllerTokenMatches_secures since (matched ▸ first)))
  · obtain ⟨key, w, second, passed⟩ := Action.exec_bind_ok _ passed
    have afterSecond : Since g₀ w := reading_localAPIKeyMatches.since afterFirst second
    split at passed
    · next scope =>
      split at passed
      · next sufficient => exact .inr (.inr ⟨scope, sufficient, localAPIKeyMatches_secures afterFirst second⟩)
      · exact .inl (session afterSecond passed)
    · exact .inl (session afterSecond passed)

theorem requireControllerToken_secures (enabled : s.auth.enabled = true) {g t : ApiTrial} {u : Unit}
    (since : Since g₀ g) (passed : Action.exec (handler s) (requireControllerToken s r) g = (.ok u, t)) :
    HasControllerToken s r g₀ := by
  unfold requireControllerToken at passed
  rw [if_neg (by simp [enabled])] at passed
  obtain ⟨controller, v, first, passed⟩ := Action.exec_bind_ok _ passed
  split at passed
  · next matched => exact controllerTokenMatches_secures since (matched ▸ first)
  · cases passed

end Strom.Api
