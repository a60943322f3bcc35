import Mathlib.Data.List.Perm.Basic
import Strom.Effects.Threads
import Strom.WebAuth.Calls

/-!
# Concurrent changes of the account

Each operation loads the whole record and saves the whole record, and the two are separate
critical sections.  `settings_serializable` is about the runs in which every save finds the
record that its call has loaded: what they leave stored is what the calls leave one after the
other.
-/

namespace Strom.WebAuth

open Strom.Go Strom.Effects

/-! ## Interleavings -/

/-- What a step of a load returns. -/
def AuthOp.loads : (op : AuthOp) → op.Reply → Option Loaded
  | .load, .ok loaded => some loaded
  | _, _ => none

/-- Whether the step saves a record. -/
def AuthOp.Saves : AuthOp → Prop
  | .save _ _ => True
  | .saveNew _ => True
  | _ => False

instance (op : AuthOp) : Decidable op.Saves := by
  cases op <;> unfold AuthOp.Saves <;> infer_instance

/-- A call in progress: what it has loaded, and what it has still to do. -/
structure Caller where
  call : SettingsCall
  loaded : Option Loaded := none
  rest : AuthProgram (Except GoError Unit)

namespace Caller

def start (a : AuthManager) (call : SettingsCall) : Caller := { call, rest := (call.run a).toProgram }

/-- The next step of the call. -/
def advance (a : AuthManager) (chance : Chance) (c : Caller) (s : AuthState) : Option (Caller × AuthState) :=
  match c.rest with
  | .ret _ => none
  | .call op next =>
    let outcome := perform a op chance s
    some ({ c with
      loaded := (op.loads outcome.1).or c.loaded
      rest := next outcome.1 }, outcome.2)

/-- If the next step is a save, the record that was loaded is still the one that a load sees. -/
def Current (c : Caller) (s : AuthState) : Prop :=
  match c.rest with
  | .ret _ => True
  | .call op _ => op.Saves → ∀ loaded ∈ c.loaded, s.seen = .ok loaded.record

instance (c : Caller) (s : AuthState) : Decidable (c.Current s) := by
  unfold Current
  cases c.rest <;> infer_instance

/-- The result of a call that has returned. -/
def result (c : Caller) : Option (Except GoError Unit) :=
  match c.rest with
  | .ret r => some r
  | .call _ _ => none

end Caller

/-- One step of one call. -/
def advanceOne (a : AuthManager) (pool : Pool AuthState Caller) (turn : Turn Chance) :
    Option (Pool AuthState Caller) :=
  pool.step (Caller.advance a turn.choice) turn.thread

/-- The call that moves does not save over a change of another one. -/
def SavesCurrent (pool : Pool AuthState Caller) (turn : Turn Chance) : Prop :=
  ∀ c ∈ pool.threads[turn.thread]?, c.Current pool.state

instance (pool : Pool AuthState Caller) (turn : Turn Chance) : Decidable (SavesCurrent pool turn) := by
  unfold SavesCurrent
  infer_instance

/-- The calls, each about to begin. -/
def allCalls (a : AuthManager) (s : AuthState) (calls : List SettingsCall) : Pool AuthState Caller :=
  { state := s, threads := calls.map (Caller.start a) }

/-! ## What holds of every interleaving -/

/-- How far a call is, if it has not failed. -/
inductive Phase (a : AuthManager) (cells : List StoredAuth) : Caller → Prop where
  | opening {call : SettingsCall} {rest : AuthProgram (Except GoError Unit)} (opening : Opening a call rest) :
      Phase a cells { call, rest }
  | heading {call : SettingsCall} {loaded : Loaded} {rest : AuthProgram (Except GoError Unit)}
      (heading : Heading a call loaded rest) (there : cells[loaded.pointer]? = some loaded.record) :
      Phase a cells { call, loaded := some loaded, rest }
  | finished {call : SettingsCall} {loaded : Option Loaded} : Phase a cells { call, loaded, rest := .ret (.ok ()) }

/-- The calls that have succeeded. -/
def Caller.finished (c : Caller) : List SettingsCall := if c.result = some (.ok ()) then [c.call] else []

/-- The calls that have succeeded, one after the other, leave what is stored and what is seen. -/
structure Serial (a : AuthManager) (s : AuthState) (calls : List SettingsCall) (pool : Pool AuthState Caller) :
    Prop where
  calls : pool.threads.map Caller.call = calls
  phases : ∀ c ∈ pool.threads, Phase a pool.state.cells c
  pointers : Apart pool.state.cells.length (pool.threads.map Caller.loaded)
  order : ∃ order t, (∀ call, (order.map Prod.fst).count call = (pool.threads.flatMap Caller.finished).count call) ∧
    inTurn a order s = some t ∧ t.file = pool.state.file ∧ t.seen = pool.state.seen

/-- Either a call has failed or the calls are in order. -/
def SerialOrFailed (a : AuthManager) (s : AuthState) (calls : List SettingsCall) (pool : Pool AuthState Caller) :
    Prop :=
  (∃ c ∈ pool.threads, ∃ e, c.result = some (.error e)) ∨ Serial a s calls pool

/-- What one step must keep. -/
theorem Serial.set {a : AuthManager} {s : AuthState} {calls : List SettingsCall} {pool : Pool AuthState Caller}
    (serial : Serial a s calls pool) {i : Nat} {c c' : Caller} (found : pool.threads[i]? = some c) {t : AuthState}
    (call : c'.call = c.call) (phase : Phase a t.cells c')
    (longer : pool.state.cells.length ≤ t.cells.length)
    (kept : ∀ pointer < pool.state.cells.length, (∀ l ∈ c.loaded, l.pointer ≠ pointer) →
      t.cells[pointer]? = pool.state.cells[pointer]?)
    (fresh : ∀ l ∈ c'.loaded, l ∈ c.loaded ∨ l.pointer = pool.state.cells.length ∧ l.pointer < t.cells.length)
    (order : ∃ order u, (∀ call, (order.map Prod.fst).count call =
        ((pool.threads.set i c').flatMap Caller.finished).count call) ∧
      inTurn a order s = some u ∧ u.file = t.file ∧ u.seen = t.seen) :
    Serial a s calls { state := t, threads := pool.threads.set i c' } := by
  have inside : i < pool.threads.length := (List.getElem?_eq_some_iff.mp found).1
  have threads : ∀ (j : Nat) (d : Caller), (pool.threads.set i c')[j]? = some d →
      j = i ∧ d = c' ∨ j ≠ i ∧ pool.threads[j]? = some d := by
    intro j d here
    by_cases same : j = i
    · subst same
      simp only [List.getElem?_set_self inside, Option.some.injEq] at here
      exact .inl ⟨rfl, here.symm⟩
    · rw [List.getElem?_set_ne (Ne.symm same)] at here
      exact .inr ⟨same, here⟩
  have loads : ∀ (j : Nat) (d : Caller) (l : Loaded), pool.threads[j]? = some d → l ∈ d.loaded →
      (pool.threads.map Caller.loaded)[j]? = some (some l) := by
    intro j d l here loads
    rw [List.getElem?_map, here, Option.map_some, Option.mem_def.mp loads]
  constructor
  · rw [List.map_set, call]
    have same : (pool.threads.map Caller.call)[i]? = some c.call := by simp [found]
    obtain ⟨within, there⟩ := List.getElem?_eq_some_iff.mp same
    rw [← there, List.set_getElem_self within]
    exact serial.calls
  · intro d member
    obtain ⟨j, here⟩ := List.mem_iff_getElem?.mp member
    cases threads j d here with
    | inl new => exact new.2 ▸ phase
    | inr other =>
      have before := serial.phases d (List.mem_of_getElem? other.2)
      cases before with
      | opening opening => exact .opening opening
      | finished => exact .finished
      | @heading _ loaded _ heading there =>
        refine .heading heading ?_
        have loaded' := loads j _ loaded other.2 rfl
        have apart : ∀ l ∈ c.loaded, l.pointer ≠ loaded.pointer :=
          fun l here => serial.pointers.apart i j l loaded (loads i c l found here) loaded' (Ne.symm other.1)
        exact (kept _ (serial.pointers.inside j loaded loaded') apart).trans there
  · rw [List.map_set]
    apply serial.pointers.set longer (by simpa using inside)
    intro l here
    cases fresh l here with
    | inl before => exact .inl (loads i c l found before)
    | inr new => exact .inr (by omega)
  · exact order

section Steps

variable {a : AuthManager} {s : AuthState} {calls : List SettingsCall} {pool : Pool AuthState Caller}
  {i : Nat} {c : Caller}

theorem finished_of_call {call : SettingsCall} {loaded : Option Loaded} {op : AuthOp}
    {next : op.Reply → AuthProgram (Except GoError Unit)} :
    Caller.finished { call, loaded, rest := .call op next } = [] := rfl

theorem finished_of_heading {call : SettingsCall} {loaded : Loaded} {loads : Option Loaded}
    {rest : AuthProgram (Except GoError Unit)} (heading : Heading a call loaded rest) :
    Caller.finished { call, loaded := loads, rest } = [] := by
  cases heading <;> simp [Caller.finished, Caller.result]

/-- A step that finishes no call and changes neither the file nor what is seen. -/
theorem Serial.order_of_same (serial : Serial a s calls pool) (found : pool.threads[i]? = some c) {c' : Caller}
    (before : c.finished = []) (after : c'.finished = []) {t : AuthState} (file : t.file = pool.state.file)
    (seen : t.seen = pool.state.seen) :
    ∃ order u, (∀ call, (order.map Prod.fst).count call =
        ((pool.threads.set i c').flatMap Caller.finished).count call) ∧
      inTurn a order s = some u ∧ u.file = t.file ∧ u.seen = t.seen := by
  obtain ⟨order, u, counts, ran, sameFile, sameSeen⟩ := serial.order
  refine ⟨order, u, ?_, ran, sameFile.trans file.symm, sameSeen.trans seen.symm⟩
  intro call
  have counted := count_flatMap_set Caller.finished found c' call
  rw [before, after] at counted
  simp only [List.count_nil] at counted
  rw [counts]
  omega

/-- A step with which a call ends that has made `record'` of what is seen. -/
theorem Serial.order_of_update (serial : Serial a s calls pool) (found : pool.threads[i]? = some c) {c' : Caller}
    (before : c.finished = []) (after : c'.finished = [c.call]) {random : String} {record record' : StoredAuth}
    (sees : pool.state.seen = .ok record) (updates : c.call.update a random record = .ok record') {t : AuthState}
    (file : t.file = .stored record') (seen : t.seen = .ok record') :
    ∃ order u, (∀ call, (order.map Prod.fst).count call =
        ((pool.threads.set i c').flatMap Caller.finished).count call) ∧
      inTurn a order s = some u ∧ u.file = t.file ∧ u.seen = t.seen := by
  obtain ⟨order, u, counts, ran, -, sameSeen⟩ := serial.order
  obtain ⟨choices, g, execs, stored, seesAfter⟩ := exec_update (sameSeen.trans sees) updates
  refine ⟨order ++ [(c.call, choices)], g.state, ?_, ?_, stored.trans file.symm, seesAfter.trans seen.symm⟩
  · intro call
    have counted := count_flatMap_set Caller.finished found c' call
    rw [before, after] at counted
    simp only [List.count_nil, Nat.add_zero] at counted
    rw [List.map_append, List.count_append, counts, counted]
    rfl
  · rw [inTurn_append, ran]
    simp [inTurn, execs]

theorem failed_of_set (found : pool.threads[i]? = some c) {c' : Caller} {t : AuthState} {e : GoError}
    (failed : c'.result = some (.error e)) :
    SerialOrFailed a s calls { state := t, threads := pool.threads.set i c' } := by
  have inside : i < pool.threads.length := (List.getElem?_eq_some_iff.mp found).1
  exact .inl ⟨c', List.mem_set inside c', e, failed⟩

/-- The next step of a call that has not loaded. -/
theorem Serial.step_opening (serial : Serial a s calls pool) {call : SettingsCall}
    {next : Except GoError Loaded → AuthProgram (Except GoError Unit)}
    (found : pool.threads[i]? = some { call, rest := .call .load next })
    (failed : ∀ e, next (.error e) = .ret (.error e)) (later : ∀ loaded, Heading a call loaded (next (.ok loaded)))
    (chance : Chance) :
    SerialOrFailed a s calls {
      state := (pool.state.load chance).2
      threads := pool.threads.set i {
        call
        loaded := (AuthOp.loads .load (pool.state.load chance).1).or none
        rest := next (pool.state.load chance).1 } } := by
  cases pool.state.load_cases chance with
  | inr refused =>
    obtain ⟨e, result, -⟩ := refused
    apply failed_of_set found (e := e)
    simp only [result, failed]
    rfl
  | inl loads =>
    obtain ⟨record, -, result, after⟩ := loads
    have cells : (pool.state.load chance).2.cells = pool.state.cells ++ [record] := by
      obtain ⟨same, -⟩ | ⟨same, -⟩ := after <;> rw [same] <;> rfl
    have there : (pool.state.load chance).2.cells[pool.state.cells.length]? = some record := by simp [cells]
    right
    simp only [result, AuthOp.loads, Option.some_or]
    have heading := later ⟨pool.state.cells.length, record⟩
    refine serial.set found rfl (.heading heading there) ?_ ?_ ?_ ?_
    · simp [cells]
    · intro pointer before _
      rw [cells]
      exact List.getElem?_append_left before
    · intro l loads
      cases loads
      right
      simp [cells]
    · apply serial.order_of_same found finished_of_call (finished_of_heading heading)
      · simp
      · simp

/-- A step of a call between its load and its save. -/
theorem Serial.step_between (serial : Serial a s calls pool) {call : SettingsCall} {loaded : Loaded} {op : AuthOp}
    {next : op.Reply → AuthProgram (Except GoError Unit)}
    (found : pool.threads[i]? = some { call, loaded := some loaded, rest := .call op next })
    (there : pool.state.cells[loaded.pointer]? = some loaded.record) {reply : op.Reply}
    (heading : Heading a call loaded (next reply)) :
    Serial a s calls {
      state := pool.state
      threads := pool.threads.set i { call, loaded := some loaded, rest := next reply } } := by
  refine serial.set found rfl (.heading heading there) le_rfl ?_ ?_ ?_
  · intro _ _ _
    rfl
  · intro l loads
    exact .inl loads
  · exact serial.order_of_same found finished_of_call (finished_of_heading heading) rfl rfl

/-- The last step of a call, a save of what the call makes of the record that is seen. -/
theorem Serial.step_saving (serial : Serial a s calls pool) {call : SettingsCall} {loaded : Loaded} {op : AuthOp}
    {next : op.Reply → AuthProgram (Except GoError Unit)}
    (found : pool.threads[i]? = some { call, loaded := some loaded, rest := .call op next })
    (sees : pool.state.seen = .ok loaded.record) {random : String} {record : StoredAuth}
    (updates : call.update a random loaded.record = .ok record) {t : AuthState}
    (file : t.file = .stored record) (seen : t.seen = .ok record)
    (longer : pool.state.cells.length ≤ t.cells.length)
    (kept : ∀ pointer < pool.state.cells.length, loaded.pointer ≠ pointer →
      t.cells[pointer]? = pool.state.cells[pointer]?) :
    Serial a s calls {
      state := t
      threads := pool.threads.set i { call, loaded := some loaded, rest := .ret (.ok ()) } } := by
  refine serial.set found rfl .finished longer ?_ ?_ ?_
  · intro pointer before apart
    exact kept pointer before (apart loaded rfl)
  · intro l loads
    exact .inl loads
  · exact serial.order_of_update found finished_of_call rfl sees updates file seen

end Steps

/-- The next step of a call that has loaded. -/
theorem Serial.step_heading {a : AuthManager} {s : AuthState} {calls : List SettingsCall}
    {pool : Pool AuthState Caller} (serial : Serial a s calls pool) {i : Nat} {call : SettingsCall}
    {loaded : Loaded} {rest : AuthProgram (Except GoError Unit)}
    (found : pool.threads[i]? = some { call, loaded := some loaded, rest })
    (heading : Heading a call loaded rest) (there : pool.state.cells[loaded.pointer]? = some loaded.record)
    (current : Caller.Current { call, loaded := some loaded, rest } pool.state) {chance : Chance} {c' : Caller}
    {t : AuthState} (moved : Caller.advance a chance { call, loaded := some loaded, rest } pool.state = some (c', t)) :
    SerialOrFailed a s calls { state := t, threads := pool.threads.set i c' } := by
  cases heading with
  | failed e => cases moved
  | hashing later =>
    cases moved
    exact .inr (serial.step_between found there (later chance))
  | drawing refused later =>
    cases moved
    refine .inr (serial.step_between found there ?_)
    simp only [perform]
    cases chance.fault with
    | some cause => exact refused _
    | none => exact later chance.random
  | @saving f random updates =>
    have sees : pool.state.seen = .ok loaded.record := current trivial loaded rfl
    cases moved
    simp only [perform]
    cases fault : chance.fault with
    | some cause =>
      rw [saveLocked_of_fault _ fault]
      exact failed_of_set found rfl
    | none =>
      obtain ⟨u, saves, file, seen, cells⟩ := saveLocked_stores (cells_assign pool.state there f) fault
      rw [saves]
      refine .inr (serial.step_saving found sees updates file seen ?_ ?_)
      · simp [cells, AuthState.assign]
      · intro pointer before apart
        rw [cells, List.getElem?_append_left (by simpa [AuthState.assign] using before)]
        simp [AuthState.assign, apart]
  | @savingNew record random next updates returns =>
    have sees : pool.state.seen = .ok loaded.record := current trivial loaded rfl
    cases moved
    simp only [perform, returns]
    cases fault : chance.fault with
    | some cause =>
      rw [saveLocked_of_fault _ fault]
      exact failed_of_set found rfl
    | none =>
      have new : (pool.state.alloc record).2.cells[pool.state.cells.length]? = some record := by
        simp [AuthState.alloc]
      obtain ⟨u, saves, file, seen, cells⟩ := saveLocked_stores new fault
      rw [saves]
      refine .inr (serial.step_saving found sees updates file seen ?_ ?_)
      · simp [cells, AuthState.alloc]
      · intro pointer before _
        have within : pointer < (pool.state.cells ++ [record]).length := by
          simp only [List.length_append]
          omega
        rw [cells]
        show (pool.state.cells ++ [record] ++ [record])[pointer]? = _
        rw [List.getElem?_append_left within, List.getElem?_append_left before]

theorem serialOrFailed_step {a : AuthManager} {s : AuthState} {calls : List SettingsCall}
    (pool : Pool AuthState Caller) (turn : Turn Chance) (next : Pool AuthState Caller)
    (before : SerialOrFailed a s calls pool) (current : SavesCurrent pool turn)
    (taken : advanceOne a pool turn = some next) : SerialOrFailed a s calls next := by
  obtain ⟨c, c', t, found, moved, rfl⟩ := Pool.step_eq_some.mp taken
  cases before with
  | inl failed =>
    -- a call that has failed stays as it is
    obtain ⟨d, member, e, result⟩ := failed
    cases mem_set_or_getElem? member turn.thread c' with
    | inl stays => exact .inl ⟨d, stays, e, result⟩
    | inr same =>
      obtain rfl : d = c := Option.some.inj (same.symm.trans found)
      obtain ⟨call, loaded, rest⟩ := d
      cases rest with
      | ret _ => cases moved
      | call _ _ => cases result
  | inr serial =>
    have here : c.Current pool.state := current c found
    cases serial.phases c (List.mem_of_getElem? found) with
    | finished => cases moved
    | heading heading there => exact serial.step_heading found heading there here moved
    | opening opening =>
      cases opening with
      | refused e => cases moved
      | loading failed later =>
        cases moved
        exact serial.step_opening found failed later turn.choice

theorem serial_start (a : AuthManager) (s : AuthState) (calls : List SettingsCall) :
    Serial a s calls (allCalls a s calls) := by
  have started : ∀ c ∈ (allCalls a s calls).threads, ∃ call, c = Caller.start a call := by
    intro c member
    obtain ⟨call, -, rfl⟩ := List.mem_map.mp member
    exact ⟨call, rfl⟩
  constructor
  · simp [allCalls, Function.comp_def, Caller.start]
  · intro c member
    obtain ⟨call, rfl⟩ := started c member
    exact .opening (opening_run a call)
  · have none : ∀ (i : Nat) (l : Loaded), ((allCalls a s calls).threads.map Caller.loaded)[i]? ≠ some (some l) := by
      simp [allCalls, Caller.start]
    exact ⟨fun i l here => absurd here (none i l), fun i _ l _ here => absurd here (none i l)⟩
  · refine ⟨[], s, ?_, rfl, rfl, rfl⟩
    intro call
    have none : (allCalls a s calls).threads.flatMap Caller.finished = [] := by
      apply List.flatMap_eq_nil_iff.mpr
      intro c member
      obtain ⟨call, rfl⟩ := started c member
      have opening := opening_run a call
      unfold Caller.start
      generalize (call.run a).toProgram = rest at opening
      cases opening <;> simp [Caller.finished, Caller.result]
    simp [none]

/-- If all calls succeed, and every save finds the record that its call has loaded, then the file
    is as the calls leave it one after the other in some order. -/
theorem settings_serializable (a : AuthManager) (s : AuthState) (calls : List SettingsCall)
    (turns : List (Turn Chance)) (final : Pool AuthState Caller)
    (current : Guarded (advanceOne a) SavesCurrent (allCalls a s calls) turns)
    (run : replay (advanceOne a) (allCalls a s calls) turns = some final)
    (succeed : ∀ c ∈ final.threads, c.result = some (.ok ())) :
    ∃ order t, (order.map Prod.fst).Perm calls ∧ inTurn a order s = some t ∧ t.file = final.state.file := by
  have invariant : SerialOrFailed a s calls final :=
    replay_invariant serialOrFailed_step (.inr (serial_start a s calls)) current run
  cases invariant with
  | inl failed =>
    obtain ⟨c, member, e, result⟩ := failed
    rw [succeed c member] at result
    cases result
  | inr serial =>
    obtain ⟨order, t, counts, ran, file, -⟩ := serial.order
    refine ⟨order, t, ?_, ran, file⟩
    have all : final.threads.flatMap Caller.finished = calls := by
      rw [← serial.calls]
      have one : ∀ c ∈ final.threads, c.finished = [c.call] := by
        intro c member
        simp [Caller.finished, succeed c member]
      rw [List.flatMap_congr one]
      exact List.map_eq_flatMap.symm
    apply List.perm_iff_count.mpr
    intro call
    rw [counts, all]

/-- A `bcrypt` package for runs on given inputs, whose hashes are the passwords. -/
def transparent : Bcrypt where
  generate password _ := .ok password
  compare hash password := hash = password

/-- A password change and, after it, a change of the UI. -/
theorem settings_serializable_of_two :
    let account : StoredAuth := { username := "admin", passwordHash := "old-password", createdAt := ⟨0⟩ }
    let a : AuthManager := { enabled := true, bcrypt := transparent }
    let calls : List SettingsCall := [.changePassword "old-password" "new-password", .setUIEnabled false]
    let turns : List (Turn Chance) := [⟨0, {}⟩, ⟨0, {}⟩, ⟨0, {}⟩, ⟨1, {}⟩, ⟨1, {}⟩]
    ∃ final, replay (advanceOne a) (allCalls a { file := .stored account } calls) turns = some final ∧
      ∃ order t, (order.map Prod.fst).Perm calls ∧ inTurn a order { file := .stored account } = some t ∧
        t.file = final.state.file := by
  intro account a calls turns
  refine ⟨_, rfl, settings_serializable a { file := .stored account } calls turns _ ?_ rfl ?_⟩
  · decide +kernel
  · decide +kernel

/-- Between the load and the save of a change of the UI the password is changed. -/
theorem password_change_lost :
    let account : StoredAuth := { username := "admin", passwordHash := "old-password", createdAt := ⟨0⟩ }
    let a : AuthManager := { enabled := true, bcrypt := transparent }
    let calls : List SettingsCall := [.changePassword "old-password" "new-password", .setUIEnabled false]
    let turns : List (Turn Chance) := [⟨0, {}⟩, ⟨1, {}⟩, ⟨0, {}⟩, ⟨0, {}⟩, ⟨1, {}⟩]
    ∃ final, replay (advanceOne a) (allCalls a { file := .stored account } calls) turns = some final ∧
      (∀ c ∈ final.threads, c.result = some (.ok ())) ∧
      ¬ ∃ order t, (order.map Prod.fst).Perm calls ∧ inTurn a order { file := .stored account } = some t ∧
        t.file = final.state.file := by
  intro account a calls turns
  have changes : ∀ (random : String) (uiEnabled : Option Bool),
      SettingsCall.update a random (.changePassword "old-password" "new-password") { account with uiEnabled } =
        .ok { account with uiEnabled, passwordHash := "new-password" } := by
    have long : ¬ (utf8 "new-password").length < 8 := by decide +kernel
    intro random uiEnabled
    simp [SettingsCall.update, rejectIf, a, account, transparent, long]
    rfl
  refine ⟨_, rfl, by decide +kernel, ?_⟩
  rintro ⟨order, t, perm, ran, file⟩
  obtain ⟨⟨first, choices⟩, ⟨second, choices'⟩, rfl⟩ : ∃ x y, order = [x, y] :=
    List.length_eq_two.mp ((List.length_map _).symm.trans perm.length_eq)
  obtain ⟨_, _, before, between, after, sees, updates, updates', stored⟩ := update_of_inTurn ran
  cases sees
  -- in either order the new password is stored
  have hash : after.passwordHash = "new-password" := by
    have member : first ∈ calls := perm.mem_iff.mp List.mem_cons_self
    obtain rfl | rfl : first = .changePassword "old-password" "new-password" ∨ first = .setUIEnabled false := by
      simpa [calls] using member
    · obtain rfl : second = .setUIEnabled false := List.singleton_perm_singleton.mp perm.cons_inv
      rw [changes] at updates
      cases updates
      cases updates'
      rfl
    · have swapped := perm.trans (List.Perm.swap _ _ _)
      obtain rfl : second = .changePassword "old-password" "new-password" :=
        List.singleton_perm_singleton.mp swapped.cons_inv
      cases updates
      rw [changes] at updates'
      cases updates'
      rfl
  rw [stored] at file
  cases AuthFile.stored.inj file
  exact absurd hash (by decide)

end Strom.WebAuth
