import Mathlib.Data.List.Induction
import Strom.Aggregate.Protocol

/-!
# Backend operations need an accepted password

`credentials` lists the USERNAME and PASSWORD lines of a session that carry an
argument.  `Tracks` ties the session's two fields to that list, and each line
preserves it; `backend_needs_password` reads off that a line only reaches the
backend when the last of them is a password accepted for the last user name.
-/

namespace Strom.Aggregate

open Strom.Go Strom.Effects

/-- A line that names a user or gives a password, with its argument. -/
inductive Credential where
  | username (name : String)
  | password (m : Serving) (password : String)

def Incoming.credential? (incoming : Incoming) : Option Credential :=
  match fields (trimSpace incoming.line) with
  | first :: argument :: _ =>
    if toUpper first = "USERNAME" then some (.username argument)
    else if toUpper first = "PASSWORD" then some (.password incoming.manager argument)
    else none
  | _ => none

def credentials (lines : List Incoming) : List Credential := lines.filterMap Incoming.credential?

def Credential.username? : Credential → Option String
  | .username name => some name
  | .password _ _ => none

def lastUsername (given : List Credential) : Option String :=
  (given.filterMap Credential.username?).getLast?

/-- The last of the credentials is a password that the authenticator accepted
    together with the last user name. -/
def Authorised (given : List Credential) : Prop :=
  ∃ earlier m password name, given = earlier ++ [.password m password] ∧
    lastUsername given = some name ∧ m.authenticate name password = true

/-- The session's fields say what the credentials so far say. -/
structure Tracks (session : NutSession) (given : List Credential) : Prop where
  username : session.username = (lastUsername given).getD ""
  authed : session.authed = true → Authorised given

@[simp] theorem lastUsername_username (given : List Credential) (name : String) :
    lastUsername (given ++ [.username name]) = some name := by
  simp [lastUsername, Credential.username?]

@[simp] theorem lastUsername_password (given : List Credential) (m : Serving) (password : String) :
    lastUsername (given ++ [.password m password]) = lastUsername given := by
  simp [lastUsername, Credential.username?]

theorem tracks_start : Tracks {} [] := by
  constructor <;> simp [lastUsername]

namespace Tracks

variable {session : NutSession} {given : List Credential} {m : Serving}

theorem name (given : List Credential) (name : String) :
    Tracks { username := name, authed := false } (given ++ [.username name]) := by
  constructor
  · simp
  · simp

theorem reject (tracks : Tracks session given) (password : String) :
    Tracks { session with authed := false } (given ++ [.password m password]) := by
  constructor
  · simp [tracks.username]
  · simp

theorem accept (tracks : Tracks session given) {password : String}
    (named : session.username ≠ "") (ok : m.authenticate session.username password = true) :
    Tracks { session with authed := true } (given ++ [.password m password]) := by
  have known : lastUsername given = some session.username := by
    have spelled := tracks.username
    cases last : lastUsername given with
    | none => simp_all
    | some name => simp_all
  constructor
  · simp [known]
  · intro _
    exact ⟨given, m, password, session.username, rfl, by simp [known], ok⟩

theorem named (tracks : Tracks session given) (authed : session.authed = true) :
    Credential.username session.username ∈ given := by
  obtain ⟨earlier, m, password, name, -, last, -⟩ := tracks.authed authed
  have member : name ∈ given.filterMap Credential.username? := List.mem_of_getLast? last
  obtain ⟨credential, inside, names⟩ := List.mem_filterMap.mp member
  have spelled := tracks.username
  cases credential with
  | username other => simp_all [Credential.username?]
  | password => simp [Credential.username?] at names

end Tracks

/-! ## One line -/

variable {σ : Type} (h : Handler BackendOp BackendOp.Reply σ)

/-- The backend is reached in an authenticated session only. -/
theorem authed_of_mem_trace {m : Serving} {session : NutSession} {line : String} {s : σ}
    {op : BackendOp} (performed : op ∈ (handleCommand m session line).trace h s) :
    session.authed = true := by
  by_contra unauthed
  simp only [Bool.not_eq_true] at unauthed
  unfold handleCommand at performed
  cases split : fields line with
  | nil => simp [split] at performed
  | cons first args =>
    simp only [split, unauthed] at performed
    split_ifs at performed <;> cases args <;> simp at performed
    split_ifs at performed <;> simp at performed

/-- No line names a blank user. -/
theorem username_not_blank {lines : List Incoming} {name : String}
    (member : Credential.username name ∈ credentials lines) : trimSpace name ≠ "" := by
  obtain ⟨incoming, -, given⟩ := List.mem_filterMap.mp member
  unfold Incoming.credential? at given
  split at given
  · rename_i first argument rest split
    have inside : argument ∈ fields (trimSpace incoming.line) := by simp [split]
    have trimmed := trimSpace_of_mem_fields inside
    have nonempty := ne_empty_of_mem_fields inside
    split_ifs at given <;> simp_all
  · cases given

section Lines

variable {m : Serving} {session : NutSession} {line first argument : String} {rest : List String}

theorem handleCommand_username (split : fields line = first :: argument :: rest)
    (command : toUpper first = "USERNAME") : handleCommand m session line =
      .ret { session := { username := argument, authed := false }, response := ["OK"] } := by
  have trimmed : trimSpace argument = argument := trimSpace_of_mem_fields (s := line) (by simp [split])
  simp [handleCommand, split, command, trimmed]

theorem handleCommand_password (split : fields line = first :: argument :: rest)
    (command : toUpper first = "PASSWORD") : ∃ response, handleCommand m session line =
      .ret { session := if trimSpace session.username = "" then session
                else { session with authed := m.authenticate session.username argument }
             response } := by
  have trimmed : trimSpace argument = argument := trimSpace_of_mem_fields (s := line) (by simp [split])
  by_cases unnamed : trimSpace session.username = ""
  · exact ⟨_, by simp [handleCommand, split, command, unnamed]; rfl⟩
  · cases accepted : m.authenticate session.username argument <;>
      exact ⟨_, by simp [handleCommand, split, command, unnamed, trimmed, accepted]; rfl⟩

theorem handleCommand_other (s : σ)
    (other : ∀ first argument rest, fields line = first :: argument :: rest →
      toUpper first ≠ "USERNAME" ∧ toUpper first ≠ "PASSWORD") :
    ((handleCommand m session line).run h s).1.session = session := by
  unfold handleCommand
  cases split : fields line with
  | nil => rfl
  | cons first args =>
    dsimp only
    generalize backendCommand (toUpper first) args = answer
    cases args with
    | nil => split_ifs <;> simp
    | cons argument rest =>
      obtain ⟨noName, noPassword⟩ := other first argument rest split
      simp only [noName, noPassword, if_false]
      split_ifs <;> simp

end Lines

theorem credentials_append (before : List Incoming) (incoming : Incoming) :
    credentials (before ++ [incoming]) = credentials before ++ incoming.credential?.toList := by
  unfold credentials
  rw [List.filterMap_append]
  cases given : incoming.credential? <;> simp [given]

theorem tracks_handleCommand {session : NutSession} {before : List Incoming}
    (tracks : Tracks session (credentials before)) (incoming : Incoming) (s : σ) :
    Tracks ((handleCommand incoming.manager session (trimSpace incoming.line)).run h s).1.session
      (credentials (before ++ [incoming])) := by
  rw [credentials_append]
  cases given : incoming.credential? with
  | none =>
    rw [handleCommand_other]
    · simpa using tracks
    · intro first argument rest split
      simp [Incoming.credential?, split] at given
      grind
  | some credential =>
    unfold Incoming.credential? at given
    split at given
    · rename_i first argument rest split
      split_ifs at given with username password
      · cases given
        rw [handleCommand_username split username]
        exact Tracks.name _ _
      · cases given
        obtain ⟨response, same⟩ := handleCommand_password split password
        rw [same]
        by_cases unnamed : trimSpace session.username = ""
        · have unauthed : session.authed = false := by
            by_contra authed
            exact username_not_blank (tracks.named (by simpa using authed)) unnamed
          simpa [unnamed, ← unauthed] using tracks.reject argument
        · cases accepted : incoming.manager.authenticate session.username argument with
          | false => simpa [unnamed, accepted] using tracks.reject argument
          | true =>
            have nonempty : session.username ≠ "" := by
              intro empty
              apply unnamed
              rw [empty]
              decide
            simpa [unnamed, accepted] using tracks.accept nonempty accepted
    · cases given

/-! ## The session -/

theorem tracks_handleLine {session session' : NutSession} {before : List Incoming}
    (tracks : Tracks session (credentials before)) {incoming : Incoming} {s t : σ}
    (goesOn : (handleLine session incoming).run h s = (some session', t)) :
    Tracks session' (credentials (before ++ [incoming])) := by
  unfold handleLine at goesOn
  by_cases blank : trimSpace incoming.line = ""
  · have nothing : incoming.credential? = none := by simp [Incoming.credential?, blank, fields, splitBlanks]
    simp only [blank, if_true, Program.run_ret, Prod.mk.injEq, Option.some.injEq] at goesOn
    rw [credentials_append, nothing, ← goesOn.1]
    simpa using tracks
  · have kept := tracks_handleCommand h tracks incoming s
    simp only [blank, if_false, Program.run_bind] at goesOn
    -- the session goes on only where the handled line has left it open
    split_ifs at goesOn <;> simp_all

/-- Every line preserves what the session's fields say. -/
theorem tracks_handleConn {lines before : List Incoming} {session session' : NutSession}
    (tracks : Tracks session (credentials before)) {s t : σ}
    (goesOn : (handleConn session lines).run h s = (some session', t)) :
    Tracks session' (credentials (before ++ lines)) := by
  induction lines generalizing before session s with
  | nil =>
    simp only [handleConn, Program.run_ret, Prod.mk.injEq, Option.some.injEq] at goesOn
    simpa [← goesOn.1] using tracks
  | cons incoming rest ih =>
    simp only [handleConn, Program.run_bind] at goesOn
    cases handled : (handleLine session incoming).run h s with
    | mk outcome u =>
      cases outcome with
      | none => simp [handled] at goesOn
      | some next =>
        rw [handled] at goesOn
        simpa using ih (tracks_handleLine h tracks handled) goesOn

/-- The backend operations performed for `incoming` in a session that has read the
    lines `before` it. -/
def performedFor (s : σ) (before : List Incoming) (incoming : Incoming) : List BackendOp :=
  match (handleConn {} before).run h s with
  | (none, _) => []
  | (some session, t) => (handleLine session incoming).trace h t

theorem handleConn_append (session : NutSession) (before after : List Incoming) :
    handleConn session (before ++ after) = (handleConn session before).bind fun
      | none => .ret none
      | some session => handleConn session after := by
  induction before generalizing session with
  | nil => rfl
  | cons incoming rest ih =>
    simp only [List.cons_append, handleConn, Program.bind_assoc]
    congr 1
    funext outcome
    cases outcome with
    | none => rfl
    | some session => exact ih session

/-- Every backend operation of a session is performed for one of its lines. -/
theorem mem_performedFor {s : σ} {lines : List Incoming} {op : BackendOp}
    (performed : op ∈ (handleConn {} lines).trace h s) :
    ∃ before incoming after, lines = before ++ incoming :: after ∧
      op ∈ performedFor h s before incoming := by
  induction lines using List.reverseRec with
  | nil => simp [handleConn] at performed
  | append_singleton before incoming ih =>
    rw [handleConn_append, Program.trace_bind, List.mem_append] at performed
    rcases performed with earlier | last
    · obtain ⟨before', incoming', after, rfl, performed⟩ := ih earlier
      exact ⟨before', incoming', after ++ [incoming], by simp, performed⟩
    · refine ⟨before, incoming, [], rfl, ?_⟩
      unfold performedFor
      cases reached : (handleConn {} before).run h s with
      | mk outcome t =>
        cases outcome with
        | none => simp [reached] at last
        | some session =>
          simp only [reached, handleConn, Program.trace_bind, List.mem_append] at last
          rcases last with own | after
          · exact own
          · split at after <;> simp at after

/-- A backend operation is performed for a line only if the last line before it that
    names a user or gives a password is a password that the authenticator accepted
    together with the last user name. -/
theorem backend_needs_password (s : σ) (before : List Incoming) (incoming : Incoming)
    (op : BackendOp) (performed : op ∈ performedFor h s before incoming) :
    Authorised (credentials before) := by
  unfold performedFor at performed
  cases reached : (handleConn {} before).run h s with
  | mk outcome t =>
    cases outcome with
    | none => simp [reached] at performed
    | some session =>
      simp only [reached] at performed
      have tracks : Tracks session (credentials before) := by
        have after := @tracks_handleConn _ h before [] _ _ tracks_start _ _ reached
        simpa using after
      apply tracks.authed
      unfold handleLine at performed
      by_cases blank : trimSpace incoming.line = ""
      · simp [blank] at performed
      · simp only [blank, if_false, Program.trace_bind, List.mem_append] at performed
        rcases performed with own | after
        · exact authed_of_mem_trace h own
        · split_ifs at after <;> simp at after

/-- A backend that serves one UPS. -/
def sampleBackend : Handler BackendOp BackendOp.Reply Unit
  | .list, s => (.ok [{ name := "rack", description := "", vars := [] }], s)
  | .listCommands _, s => (.ok [], s)
  | .runCommand _ _, s => (.ok (), s)

def sampleServing : Serving where
  auth := some fun username password => username = "controller" && password = "secret"

def sampleLines : List Incoming :=
  [⟨"USERNAME controller\r\n", sampleServing, true⟩, ⟨"PASSWORD secret\r\n", sampleServing, true⟩]

theorem backend_needs_password_of_sample : Authorised (credentials sampleLines) :=
  backend_needs_password sampleBackend () sampleLines ⟨"LIST UPS\r\n", sampleServing, true⟩ .list
    (by decide)

end Strom.Aggregate
