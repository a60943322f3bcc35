import Mathlib.Logic.Relation
import Strom.Effects.Threads
import Strom.WebAuth.Sections

/-!
# Resets and new accounts

`Reset` removes the auth file, empties the copy in memory and drops the sessions in one critical
section, but calls that have read the old record go on with it.  `Revoked` says what a reset is
for: what is accepted comes from the one account that was made since the last reset.
-/

namespace Strom.WebAuth

open Strom.Go Strom.Effects

/-! ## The calls in progress -/

structure Serving where
  request : Request
  /-- How many resets had succeeded when the call last read a record. -/
  since : Nat := 0
  /-- The pointer that the call has loaded last. -/
  loaded : Option Loaded := none
  rest : SectionProgram Unit

/-- The manager, the calls in progress, and what has happened since the last successful reset. -/
structure Traffic where
  state : AuthState
  servings : List Serving
  resets : Nat := 0
  /-- The first records of the accounts that have been made since. -/
  founded : List StoredAuth := []
  /-- The tokens of the sessions that have been created since. -/
  tokens : List String := []

/-- Whether the section reads a record. -/
def SectionOp.reads : (op : SectionOp) → op.Reply → Bool
  | .peek, some _ => true
  | .readFile, .ok _ => true
  | _, _ => false

/-- The pointer that a load ends with. -/
def SectionOp.loads : (op : SectionOp) → op.Reply → Option Loaded
  | .peek, found => found
  | .fill _, loaded => some loaded
  | _, _ => none

namespace Traffic

/-- What a section adds to the history. -/
def observe (t : Traffic) (request : Request) : (op : SectionOp) → op.Reply → Traffic
  | .whole .reset, .ok () => { t with resets := t.resets + 1, founded := [], tokens := [] }
  | .whole (.saveNew record), .ok () => if request.Founds then { t with founded := record :: t.founded } else t
  | .whole (.addSession _ token _), _ => { t with tokens := token :: t.tokens }
  | _, _ => t

/-- The call after a section. -/
def proceed (t : Traffic) (c : Serving) (op : SectionOp) (next : op.Reply → SectionProgram Unit)
    (reply : op.Reply) : Serving :=
  { c with
    since := if op.reads reply then t.resets else c.since
    loaded := (op.loads reply).or c.loaded
    rest := next reply }

/-- One section of one call. -/
def step (a : AuthManager) (t : Traffic) (turn : Turn Chance) : Option Traffic :=
  match t.servings[turn.thread]? with
  | none => none
  | some c =>
    match c.rest with
    | .ret _ => none
    | .call op next =>
      let outcome := performSection a op turn.choice t.state
      some { t.observe c.request op outcome.1 with
        state := outcome.2
        servings := t.servings.set turn.thread (t.proceed c op next outcome.1) }

/-- What is stored was read since the last reset, and no account is made over another one. -/
def Timely (t : Traffic) (c : Serving) (chance : Chance) : SectionOp → Prop
  | .fill _ => c.since = t.resets
  | .whole (.save _ _) => chance.fault = none → c.since = t.resets
  | .whole (.saveNew _) => chance.fault = none →
    if c.request.Founds then t.state.file.read.toOption = none else c.since = t.resets
  | _ => True

instance (t : Traffic) (c : Serving) (chance : Chance) : (op : SectionOp) → Decidable (t.Timely c chance op)
  | .fill _ => inferInstanceAs (Decidable (c.since = t.resets))
  | .whole (.save _ _) => inferInstanceAs (Decidable (chance.fault = none → c.since = t.resets))
  | .whole (.saveNew _) => inferInstanceAs (Decidable (chance.fault = none →
      if c.request.Founds then t.state.file.read.toOption = none else c.since = t.resets))
  | .peek | .readFile | .whole .load | .whole .reset | .whole (.generateHash _) | .whole .randomToken | .whole .now
  | .whole (.addSession _ _ _) | .whole (.findSession _) | .whole (.clearSession _) => .isTrue trivial

/-- The section that is run next is timely. -/
def Undisturbed (t : Traffic) (turn : Turn Chance) : Prop :=
  ∀ c ∈ t.servings[turn.thread]?, match c.rest with
    | .ret _ => True
    | .call op _ => t.Timely c turn.choice op

instance (t : Traffic) (turn : Turn Chance) : Decidable (t.Undisturbed turn) := by
  unfold Undisturbed
  cases t.servings[turn.thread]? with
  | none => exact .isTrue (by simp)
  | some c =>
    obtain ⟨request, since, loaded, rest⟩ := c
    cases rest with
    | ret _ => exact .isTrue (by simp)
    | call op next =>
      exact decidable_of_iff (t.Timely { request, since, loaded, rest := .call op next } turn.choice op)
        (by simp)

/-- A process that has just started, with calls to come. -/
def start (a : AuthManager) (file : AuthFile) (requests : List Request) : Traffic where
  state := { file }
  servings := requests.map fun request => { request, rest := (request.run a).expand sections }
  founded := file.read.toOption.toList

end Traffic

/-! ## What is accepted -/

/-- What settings calls make of a record, one after the other. -/
def Descends (a : AuthManager) : StoredAuth → StoredAuth → Prop :=
  Relation.ReflTransGen fun record record' =>
    ∃ (call : SettingsCall) (random : String), call.update a random record = .ok record'

/-- What is accepted comes from the account that was made since the last reset, if one was. -/
structure Revoked (a : AuthManager) (t : Traffic) : Prop where
  once : t.founded.length ≤ 1
  passwords : a.enabled = true → ∀ username password choices g,
    Action.exec (guide (perform a)) (a.authenticate username password) { state := t.state, choices } = (.ok (), g) →
    ∃ first ∈ t.founded, ∃ record, Descends a first record ∧
      a.bcrypt.compare record.passwordHash password = true
  apiKeys : ∀ value scope choices g,
    Action.exec (guide (perform a)) (AuthManager.matchAPIKey value) { state := t.state, choices } =
      (.ok (some scope), g) →
    ∃ first ∈ t.founded, ∃ record, Descends a first record ∧ record.apiKey scope = .ok value
  sessions : a.enabled = true → ∀ token username choices g,
    Action.exec (guide (perform a)) (a.sessionUsername (some token)) { state := t.state, choices } =
      (.ok username, g) →
    token ∈ t.tokens

/-! ## What is accepted comes from the record -/

section Accepting

variable {a : AuthManager} {s : AuthState} {choices : Nat → Chance} {g : Trial}

theorem offered_of_load {x : Loaded} (ran : attempt a AuthManager.load { state := s, choices } = (.ok x, g)) :
    s.copy = some x.record ∨ s.file.read = .ok x.record := by
  have loads : (s.load (choices 0)).1 = .ok x := congrArg Prod.fst ran
  cases s.load_cases (choices 0) with
  | inl loaded =>
    obtain ⟨record, -, result, after⟩ := loaded
    obtain rfl : _ = x := Except.ok.inj (result.symm.trans loads)
    obtain ⟨-, here⟩ | ⟨-, -, read⟩ := after
    · exact .inl here
    · exact .inr (s.read_of_readFile read)
  | inr failed =>
    obtain ⟨e, result, -⟩ := failed
    rw [result] at loads
    cases loads

theorem offered_of_authenticate (enabled : a.enabled = true) {username password : String}
    (ran : attempt a (a.authenticate username password) { state := s, choices } = (.ok (), g)) :
    ∃ record, (s.copy = some record ∨ s.file.read = .ok record) ∧
      a.bcrypt.compare record.passwordHash password = true := by
  unfold AuthManager.authenticate at ran
  rw [if_neg (by simp [enabled])] at ran
  obtain ⟨x, g', loads, rest⟩ := Action.exec_bind_ok _ ran
  refine ⟨x.record, offered_of_load loads, ?_⟩
  by_contra wrong
  simp only [wrong] at rest
  split at rest
  · cases rest
  · cases rest

theorem key_of_matchScopes {record : StoredAuth} {value scope : String} {scopes : List String}
    (found : AuthManager.matchScopes record value scopes = .ok (some scope)) : record.apiKey scope = .ok value := by
  induction scopes with
  | nil => cases found
  | cons first scopes ih =>
    unfold AuthManager.matchScopes at found
    split at found
    · cases found
    · next key keyed =>
      split at found
      · next same =>
        cases found
        rw [keyed, same.2]
      · exact ih found

theorem offered_of_matchAPIKey {value scope : String}
    (ran : attempt a (AuthManager.matchAPIKey value) { state := s, choices } = (.ok (some scope), g)) :
    ∃ record, (s.copy = some record ∨ s.file.read = .ok record) ∧ record.apiKey scope = .ok value := by
  unfold AuthManager.matchAPIKey at ran
  split at ran
  · cases ran
  · obtain ⟨x, g', loads, rest⟩ := Action.exec_bind_ok _ ran
    exact ⟨x.record, offered_of_load loads, key_of_matchScopes (congrArg Prod.fst rest)⟩

theorem session_of_sessionUsername (enabled : a.enabled = true) {token username : String}
    (ran : attempt a (a.sessionUsername (some token)) { state := s, choices } = (.ok username, g)) :
    ∃ session ∈ s.sessions, session.token = token := by
  unfold AuthManager.sessionUsername at ran
  rw [if_neg (by simp [enabled])] at ran
  obtain ⟨found, g', finds, rest⟩ := Action.exec_bind_ok _ ran
  cases found with
  | none => cases rest
  | some session =>
    have here : (s.cleanup (choices 0).now).sessions.find? (·.token = token) = some session := by
      have first := congrArg Prod.fst finds
      exact Except.ok.inj first
    refine ⟨session, List.mem_of_mem_filter (List.mem_of_find?_eq_some here), ?_⟩
    simpa using List.find?_some here

end Accepting

end Strom.WebAuth
