import Strom.WebAuth.Resets

/-!
# What a reset revokes

The invariant of the runs in which no record that was read before the last reset is stored
again: the file, the copy in memory and what the calls are about to store belong to the one
account that was made since.
-/

namespace Strom.WebAuth

open Strom.Go Strom.Effects

/-! ## The invariant -/

/-- The record belongs to an account that was made since the last reset. -/
def Recent (a : AuthManager) (founded : List StoredAuth) (record : StoredAuth) : Prop :=
  record.Complete ∧ ∃ first ∈ founded, Descends a first record

theorem Recent.update {a : AuthManager} (hashes : a.bcrypt.Hashes) {founded : List StoredAuth} {random : String}
    {call : SettingsCall} {record record' : StoredAuth} (recent : Recent a founded record)
    (updates : call.update a random record = .ok record') : Recent a founded record' := by
  obtain ⟨complete, first, member, descends⟩ := recent
  exact ⟨complete_of_update hashes complete updates, first, member, descends.tail ⟨call, random, updates⟩⟩

/-- Where a call stands: what it is about to store was read, and is recent if no reset came since. -/
inductive Stage (a : AuthManager) (resets : Nat) (founded cells : List StoredAuth) : Serving → Prop where
  | between {request : Request} {since : Nat} {loaded l : Option Loaded} {p : AuthProgram Unit}
      (fits : Fits a request l p) (held : ∀ x ∈ l, loaded = some x ∧ cells[x.pointer]? = some x.record)
      (recent : ∀ x ∈ l, since = resets → Recent a founded x.record) :
      Stage a resets founded cells { request, since, loaded, rest := p.expand sections }
  | reading {request : Request} {since : Nat} {loaded : Option Loaded}
      {next : Except GoError Loaded → AuthProgram Unit} (failed : ∀ e, Fits a request none (next (.error e)))
      (later : ∀ x, Fits a request (some x) (next (.ok x))) :
      Stage a resets founded cells
        { request, since, loaded, rest := .call .readFile (afterRead fun r => (next r).expand sections) }
  | filling {request : Request} {since : Nat} {loaded : Option Loaded} {record : StoredAuth}
      {next : Except GoError Loaded → AuthProgram Unit} (later : ∀ x, Fits a request (some x) (next (.ok x)))
      (recent : since = resets → Recent a founded record) :
      Stage a resets founded cells
        { request, since, loaded, rest := .call (.fill record) fun x => (next (.ok x)).expand sections }

/-- What is stored and held in memory is recent. -/
structure Account (a : AuthManager) (t : Traffic) : Prop where
  once : t.founded.length ≤ 1
  stored : t.founded ≠ [] → ∃ record, t.state.file.read = .ok record
  file : ∀ record, t.state.file.read = .ok record → Recent a t.founded record
  copy : ∀ record, t.state.copy = some record → Recent a t.founded record
  tokens : ∀ session ∈ t.state.sessions, session.token ∈ t.tokens

structure Sound (a : AuthManager) (t : Traffic) : Prop where
  account : Account a t
  stages : ∀ c ∈ t.servings, Stage a t.resets t.founded t.state.cells c
  past : ∀ c ∈ t.servings, c.since ≤ t.resets
  pointers : Apart t.state.cells.length (t.servings.map Serving.loaded)
  /-- A call that shares the copy in memory has read it since the last reset. -/
  shared : ∀ c ∈ t.servings, ∀ x ∈ c.loaded, t.state.cached = some x.pointer → c.since = t.resets

/-- What a step of one call leaves the other calls. -/
structure Leaves (a : AuthManager) (t t' : Traffic) (c : Serving) : Prop where
  resets : t.resets < t'.resets ∨
    t'.resets = t.resets ∧ ∀ record, Recent a t.founded record → Recent a t'.founded record
  longer : t.state.cells.length ≤ t'.state.cells.length
  cells : ∀ pointer < t.state.cells.length, (∀ x ∈ c.loaded, x.pointer ≠ pointer) →
    t'.state.cells[pointer]? = t.state.cells[pointer]?
  cached : ∀ pointer < t.state.cells.length, t'.state.cached = some pointer →
    t.state.cached = some pointer ∧ t'.resets = t.resets

theorem Stage.left {a : AuthManager} {t t' : Traffic} {c d : Serving} (leaves : Leaves a t t' c)
    (stage : Stage a t.resets t.founded t.state.cells d) (past : d.since ≤ t.resets)
    (kept : ∀ x ∈ d.loaded, t'.state.cells[x.pointer]? = t.state.cells[x.pointer]?) :
    Stage a t'.resets t'.founded t'.state.cells d := by
  -- after a reset nothing that was read before is recent
  have still : ∀ {record}, (d.since = t.resets → Recent a t.founded record) →
      d.since = t'.resets → Recent a t'.founded record := by
    intro record recent same
    cases leaves.resets with
    | inl more => omega
    | inr unchanged => exact unchanged.2 record (recent (same.trans unchanged.1))
  cases stage with
  | between fits held recent =>
    refine .between fits ?_ fun x here => still (recent x here)
    intro x here
    obtain ⟨same, there⟩ := held x here
    exact ⟨same, (kept x same).trans there⟩
  | reading failed later => exact .reading failed later
  | filling later recent => exact .filling later (still recent)

/-- What one step must keep. -/
theorem Sound.set {a : AuthManager} {t t' : Traffic} (sound : Sound a t) {i : Nat} {c c' : Serving}
    (found : t.servings[i]? = some c) (servings : t'.servings = t.servings.set i c') (leaves : Leaves a t t' c)
    (account : Account a t') (stage : Stage a t'.resets t'.founded t'.state.cells c')
    (past : c'.since ≤ t'.resets)
    (fresh : ∀ x ∈ c'.loaded, c.loaded = some x ∨
      x.pointer = t.state.cells.length ∧ t.state.cells.length < t'.state.cells.length)
    (shared : ∀ x ∈ c'.loaded, t'.state.cached = some x.pointer → c'.since = t'.resets) : Sound a t' := by
  have inside : i < t.servings.length := (List.getElem?_eq_some_iff.mp found).1
  have others : ∀ d ∈ t'.servings, d = c' ∨ ∃ j, j ≠ i ∧ t.servings[j]? = some d := by
    intro d member
    rw [servings] at member
    obtain ⟨j, here⟩ := List.mem_iff_getElem?.mp member
    by_cases same : j = i
    · subst same
      simp only [List.getElem?_set_self inside, Option.some.injEq] at here
      exact .inl here.symm
    · rw [List.getElem?_set_ne (Ne.symm same)] at here
      exact .inr ⟨j, same, here⟩
  have loads : ∀ {j : Nat} {d : Serving} {x : Loaded}, t.servings[j]? = some d → x ∈ d.loaded →
      (t.servings.map Serving.loaded)[j]? = some (some x) := by
    intro j d x here loads
    rw [List.getElem?_map, here, Option.map_some, Option.mem_def.mp loads]
  refine ⟨account, ?_, ?_, ?_, ?_⟩
  · intro d member
    obtain rfl | ⟨j, other, here⟩ := others d member
    · exact stage
    · apply (sound.stages d (List.mem_of_getElem? here)).left leaves (sound.past d (List.mem_of_getElem? here))
      intro x loaded
      apply leaves.cells _ (sound.pointers.inside j x (loads here loaded))
      intro y mine
      exact sound.pointers.apart i j y x (loads found mine) (loads here loaded) (Ne.symm other)
  · intro d member
    obtain rfl | ⟨j, -, here⟩ := others d member
    · exact past
    · have before := sound.past d (List.mem_of_getElem? here)
      cases leaves.resets with
      | inl more => omega
      | inr same => omega
  · rw [servings, List.map_set]
    apply sound.pointers.set leaves.longer (by simpa using inside)
    intro x here
    cases fresh x here with
    | inl before => exact .inl (loads found before)
    | inr new => exact .inr new
  · intro d member x loaded cached
    obtain rfl | ⟨j, -, here⟩ := others d member
    · exact shared x loaded cached
    · obtain ⟨before, same⟩ := leaves.cached _ (sound.pointers.inside j x (loads here loaded)) cached
      rw [same]
      exact sound.shared d (List.mem_of_getElem? here) x loaded before

/-! ## The steps -/

/-- The cells of the old state are as they were, but for the one that is the call's own. -/
structure Extends (s s' : AuthState) (own : Option Loaded) : Prop where
  longer : s.cells.length ≤ s'.cells.length
  cells : ∀ pointer < s.cells.length, (∀ x ∈ own, x.pointer ≠ pointer) → s'.cells[pointer]? = s.cells[pointer]?
  cached : ∀ pointer < s.cells.length, s'.cached = some pointer → s.cached = some pointer

theorem Extends.trans {s s' s'' : AuthState} {own : Option Loaded} (first : Extends s s' own)
    (second : Extends s' s'' own) : Extends s s'' own := by
  refine ⟨first.longer.trans second.longer, ?_, ?_⟩
  · intro pointer before apart
    exact (second.cells pointer (before.trans_le first.longer) apart).trans (first.cells pointer before apart)
  · intro pointer before cached
    exact first.cached pointer before (second.cached pointer (before.trans_le first.longer) cached)

theorem extends_of_same {s s' : AuthState} {own : Option Loaded} (cells : s'.cells = s.cells)
    (cached : s'.cached = s.cached ∨ s'.cached = none) : Extends s s' own := by
  refine ⟨by rw [cells], fun _ _ _ => by rw [cells], ?_⟩
  intro pointer _ here
  obtain same | none := cached
  · rw [← same]
    exact here
  · rw [none] at here
    cases here

theorem extends_alloc (s : AuthState) (record : StoredAuth) (own : Option Loaded) :
    Extends s (s.alloc record).2 own := by
  refine ⟨by simp [AuthState.alloc], ?_, fun _ _ here => here⟩
  intro pointer before _
  exact List.getElem?_append_left before

theorem extends_install (s : AuthState) (record : StoredAuth) (own : Option Loaded) :
    Extends s (s.install record) own := by
  refine ⟨by simp [AuthState.install, AuthState.alloc], ?_, ?_⟩
  · intro pointer before _
    exact List.getElem?_append_left before
  · intro pointer before here
    have new : s.cells.length = pointer := Option.some.inj here
    omega

theorem extends_saved (s : AuthState) (record : StoredAuth) (own : Option Loaded) :
    Extends s { s.install record with file := .stored record } own :=
  have installed := extends_install s record own
  ⟨installed.longer, installed.cells, installed.cached⟩

theorem extends_assign (s : AuthState) (x : Loaded) (f : StoredAuth → StoredAuth) :
    Extends s (s.assign x.pointer f) (some x) := by
  refine ⟨by simp [AuthState.assign], ?_, fun _ _ here => here⟩
  intro pointer _ apart
  have other : x.pointer ≠ pointer := apart x rfl
  simp [AuthState.assign, other]

theorem copy_assign {s : AuthState} {pointer : Nat} {record record' : StoredAuth} {f : StoredAuth → StoredAuth}
    (there : s.cells[pointer]? = some record) (here : (s.assign pointer f).copy = some record') :
    s.cached = some pointer ∧ f record = record' ∨ s.copy = some record' := by
  unfold AuthState.copy at here ⊢
  replace here : (s.cached.bind fun other => (s.cells.modify pointer f)[other]?) = some record' := here
  cases cached : s.cached with
  | none => simp [cached] at here
  | some other =>
    rw [cached, Option.bind_some] at here
    by_cases same : pointer = other
    · subst same
      left
      simpa [there] using here
    · right
      simpa [same] using here

theorem leaves_of_extends {a : AuthManager} {t t' : Traffic} {c : Serving}
    (kept : Extends t.state t'.state c.loaded) (resets : t'.resets = t.resets)
    (recent : ∀ record, Recent a t.founded record → Recent a t'.founded record) : Leaves a t t' c :=
  ⟨.inr ⟨resets, recent⟩, kept.longer, kept.cells,
    fun pointer before cached => ⟨kept.cached pointer before cached, resets⟩⟩

section Steps

variable {a : AuthManager} {t : Traffic} {turn : Turn Chance} {c : Serving}

theorem step_of_call {op : SectionOp} {next : op.Reply → SectionProgram Unit}
    (found : t.servings[turn.thread]? = some c) (call : c.rest = .call op next) :
    t.step a turn = some { t.observe c.request op (performSection a op turn.choice t.state).1 with
      state := (performSection a op turn.choice t.state).2
      servings := t.servings.set turn.thread
        (t.proceed c op next (performSection a op turn.choice t.state).1) } := by
  unfold Traffic.step
  rw [found]
  simp only [call]

/-- The account after a step that changes neither the file nor the history. -/
theorem Account.keep {t' : Traffic} (account : Account a t) (founded : t'.founded = t.founded)
    (tokens : t'.tokens = t.tokens) (file : t'.state.file = t.state.file)
    (copy : ∀ record, t'.state.copy = some record → Recent a t.founded record)
    (sessions : ∀ session ∈ t'.state.sessions, session ∈ t.state.sessions) : Account a t' := by
  constructor
  · rw [founded]
    exact account.once
  · rw [founded, file]
    exact account.stored
  · rw [founded, file]
    exact account.file
  · rw [founded]
    exact copy
  · intro session member
    rw [tokens]
    exact account.tokens session (sessions session member)

/-- The first section of a load. -/
theorem Sound.step_peek (sound : Sound a t) {request : Request} {since : Nat} {loaded : Option Loaded}
    {next : Except GoError Loaded → AuthProgram Unit}
    (failed : ∀ e, Fits a request none (next (.error e))) (later : ∀ x, Fits a request (some x) (next (.ok x)))
    (found : t.servings[turn.thread]? = some
      { request, since, loaded, rest := (Program.call AuthOp.load next).expand sections })
    {t' : Traffic} (taken : t.step a turn = some t') : Sound a t' := by
  rw [step_of_call found (expand_load next)] at taken
  have past := sound.past _ (List.mem_of_getElem? found)
  have shared := sound.shared _ (List.mem_of_getElem? found)
  simp only [performSection, AuthState.peek] at taken
  cases here : t.state.copy with
  | some record =>
    simp only [here] at taken
    cases taken
    have recent := sound.account.copy record here
    refine sound.set found rfl (leaves_of_extends (extends_alloc _ _ _) rfl fun _ same => same) ?_ ?_ le_rfl ?_ ?_
    · exact sound.account.keep rfl rfl rfl (by simpa using sound.account.copy) fun _ member => member
    · refine .between (later ⟨t.state.cells.length, record⟩) ?_ ?_
      · rintro _ ⟨⟩
        exact ⟨rfl, by simp [AuthState.alloc]⟩
      · rintro _ ⟨⟩ _
        exact recent
    · rintro _ ⟨⟩
      exact .inr ⟨rfl, by simp [AuthState.alloc]⟩
    · intro _ _ _
      rfl
  | none =>
    simp only [here] at taken
    cases taken
    refine sound.set found rfl (leaves_of_extends (extends_of_same rfl (.inl rfl)) rfl fun _ same => same)
      ?_ (.reading failed later) past (fun x before => .inl before) ?_
    · exact sound.account.keep rfl rfl rfl sound.account.copy fun _ member => member
    · exact shared

/-- The section of a load that reads the file. -/
theorem Sound.step_reading (sound : Sound a t) {request : Request} {since : Nat} {loaded : Option Loaded}
    {next : Except GoError Loaded → AuthProgram Unit}
    (failed : ∀ e, Fits a request none (next (.error e))) (later : ∀ x, Fits a request (some x) (next (.ok x)))
    (found : t.servings[turn.thread]? = some
      { request, since, loaded, rest := .call .readFile (afterRead fun r => (next r).expand sections) })
    {t' : Traffic} (taken : t.step a turn = some t') : Sound a t' := by
  rw [step_of_call found rfl] at taken
  have past := sound.past _ (List.mem_of_getElem? found)
  have shared := sound.shared _ (List.mem_of_getElem? found)
  simp only [performSection] at taken
  cases read : t.state.readFile turn.choice with
  | error e =>
    simp only [read] at taken
    cases taken
    refine sound.set found rfl (leaves_of_extends (extends_of_same rfl (.inl rfl)) rfl fun _ same => same)
      ?_ (.between (failed e) ?_ ?_) past (fun x before => .inl before) shared
    · exact sound.account.keep rfl rfl rfl sound.account.copy fun _ member => member
    · rintro _ ⟨⟩
    · rintro _ ⟨⟩
  | ok record =>
    simp only [read] at taken
    cases taken
    have recent := sound.account.file record (t.state.read_of_readFile read)
    refine sound.set found rfl (leaves_of_extends (extends_of_same rfl (.inl rfl)) rfl fun _ same => same)
      ?_ (.filling later fun _ => recent) le_rfl (fun x before => .inl before) fun _ _ _ => rfl
    exact sound.account.keep rfl rfl rfl sound.account.copy fun _ member => member

/-- The section of a load that fills the copy in memory. -/
theorem Sound.step_filling (sound : Sound a t) {request : Request} {since : Nat} {loaded : Option Loaded}
    {record : StoredAuth} {next : Except GoError Loaded → AuthProgram Unit}
    (later : ∀ x, Fits a request (some x) (next (.ok x))) (recent : since = t.resets → Recent a t.founded record)
    (found : t.servings[turn.thread]? = some
      { request, since, loaded, rest := .call (.fill record) fun x => (next (.ok x)).expand sections })
    (timely : since = t.resets) {t' : Traffic} (taken : t.step a turn = some t') : Sound a t' := by
  rw [step_of_call found rfl] at taken
  cases taken
  refine sound.set found rfl (leaves_of_extends (extends_install _ _ _) rfl fun _ same => same)
    ?_ (.between (later ⟨t.state.cells.length, record⟩) ?_ ?_) timely.le ?_ fun _ _ _ => timely
  · refine sound.account.keep rfl rfl rfl ?_ fun _ member => member
    intro record' here
    have same : (t.state.install record).copy = some record' := here
    rw [AuthState.copy_install] at same
    cases same
    exact recent timely
  · rintro _ ⟨⟩
    exact ⟨rfl, by simp [AuthState.fill, AuthState.install, AuthState.alloc, performSection]⟩
  · rintro _ ⟨⟩ _
    exact recent timely
  · rintro _ ⟨⟩
    exact .inr ⟨rfl, by simp [AuthState.fill, AuthState.install, AuthState.alloc, performSection]⟩

/-- The account after a recent record was saved. -/
theorem Account.save {t' : Traffic} (account : Account a t) {record : StoredAuth} (once : t'.founded.length ≤ 1)
    (recent : Recent a t'.founded record) (tokens : t'.tokens = t.tokens) (file : t'.state.file = .stored record)
    (copy : t'.state.copy = some record) (sessions : t'.state.sessions = t.state.sessions) : Account a t' := by
  refine ⟨once, ?_, ?_, ?_, ?_⟩
  · intro _
    rw [file]
    exact ⟨record, read_stored.mpr ⟨recent.1, rfl⟩⟩
  · intro record' read
    rw [file] at read
    obtain ⟨-, rfl⟩ := read_stored.mp read
    exact recent
  · intro record' here
    obtain rfl : record = record' := Option.some.inj (copy.symm.trans here)
    exact recent
  · rw [sessions, tokens]
    exact account.tokens

/-- A save through the pointer of a load. -/
theorem Sound.step_save (hashes : a.bcrypt.Hashes) (sound : Sound a t) {request : Request} {since : Nat}
    {loaded : Option Loaded} {x : Loaded} {call : SettingsCall} {random : String} {f : StoredAuth → StoredAuth}
    {next : Except GoError Unit → AuthProgram Unit} (updates : call.update a random x.record = .ok (f x.record))
    (later : ∀ r, Fits a request none (next r)) (held : loaded = some x)
    (there : t.state.cells[x.pointer]? = some x.record)
    (recent : since = t.resets → Recent a t.founded x.record)
    (found : t.servings[turn.thread]? = some
      { request, since, loaded, rest := (Program.call (AuthOp.save x.pointer f) next).expand sections })
    (timely : turn.choice.fault = none → since = t.resets) {t' : Traffic} (taken : t.step a turn = some t') :
    Sound a t' := by
  subst held
  rw [step_of_call found (expand_whole (.save x.pointer f) next nofun)] at taken
  have past := sound.past _ (List.mem_of_getElem? found)
  have shared := sound.shared _ (List.mem_of_getElem? found)
  have assigned := cells_assign t.state there f
  simp only [performSection, perform] at taken
  cases fault : turn.choice.fault with
  | some cause =>
    rw [saveLocked_of_fault _ fault] at taken
    cases taken
    refine sound.set found rfl (leaves_of_extends (extends_assign _ x f) rfl fun _ same => same) ?_
      (.between (later _) ?_ ?_) past (fun x before => .inl before) shared
    · refine sound.account.keep rfl rfl rfl ?_ fun _ member => member
      intro record here
      cases copy_assign there here with
      | inl own =>
        obtain ⟨cached, rfl⟩ := own
        exact (recent (shared x rfl cached)).update hashes updates
      | inr before => exact sound.account.copy record before
    · rintro _ ⟨⟩
    · rintro _ ⟨⟩
  | none =>
    rw [saveLocked_of_none _ fault assigned] at taken
    cases taken
    have after : Recent a t.founded (f x.record) := (recent (timely fault)).update hashes updates
    refine sound.set found rfl (leaves_of_extends
      ((extends_assign _ x f).trans (extends_saved _ (f x.record) _)) rfl fun _ same => same) ?_
      (.between (later _) ?_ ?_) past (fun x before => .inl before) fun _ _ _ => timely fault
    · exact sound.account.save sound.account.once after rfl rfl (AuthState.copy_install _ _) rfl
    · rintro _ ⟨⟩
    · rintro _ ⟨⟩

/-- A save of a new record that a settings call has made. -/
theorem Sound.step_saveNew (hashes : a.bcrypt.Hashes) (sound : Sound a t) {request : Request} {since : Nat}
    {loaded : Option Loaded} {x : Loaded} {call : SettingsCall} {random : String} {record : StoredAuth}
    {next : Except GoError Unit → AuthProgram Unit} (changes : ¬ request.Founds)
    (updates : call.update a random x.record = .ok record)
    (later : ∀ r, Fits a request none (next r)) (recent : since = t.resets → Recent a t.founded x.record)
    (found : t.servings[turn.thread]? = some
      { request, since, loaded, rest := (Program.call (AuthOp.saveNew record) next).expand sections })
    (timely : turn.choice.fault = none → since = t.resets) {t' : Traffic} (taken : t.step a turn = some t') :
    Sound a t' := by
  rw [step_of_call found (expand_whole (.saveNew record) next nofun)] at taken
  have past := sound.past _ (List.mem_of_getElem? found)
  have shared := sound.shared _ (List.mem_of_getElem? found)
  have new : (t.state.alloc record).2.cells[t.state.cells.length]? = some record := by simp [AuthState.alloc]
  simp only [performSection, perform] at taken
  cases fault : turn.choice.fault with
  | some cause =>
    rw [saveLocked_of_fault _ fault] at taken
    cases taken
    refine sound.set found rfl (leaves_of_extends (extends_alloc _ _ _) rfl fun _ same => same) ?_
      (.between (later _) ?_ ?_) past (fun x before => .inl before) shared
    · exact sound.account.keep rfl rfl rfl (by simpa using sound.account.copy) fun _ member => member
    · rintro _ ⟨⟩
    · rintro _ ⟨⟩
  | none =>
    rw [saveLocked_of_none _ fault new] at taken
    simp only [Traffic.observe, changes, if_false] at taken
    cases taken
    have after : Recent a t.founded record := (recent (timely fault)).update hashes updates
    refine sound.set found rfl (leaves_of_extends
      ((extends_alloc _ record _).trans (extends_saved _ record _)) rfl fun _ same => same) ?_
      (.between (later _) ?_ ?_) past (fun x before => .inl before) fun _ _ _ => timely fault
    · exact sound.account.save sound.account.once after rfl rfl (AuthState.copy_install _ _) rfl
    · rintro _ ⟨⟩
    · rintro _ ⟨⟩

/-- The save of the first record of an account. -/
theorem Sound.step_found (sound : Sound a t) {request : Request} {since : Nat} {loaded : Option Loaded}
    {record : StoredAuth} {next : Except GoError Unit → AuthProgram Unit} (founds : request.Founds)
    (complete : record.Complete) (later : ∀ r, Fits a request none (next r))
    (found : t.servings[turn.thread]? = some
      { request, since, loaded, rest := (Program.call (AuthOp.saveNew record) next).expand sections })
    (timely : turn.choice.fault = none → t.state.file.read.toOption = none) {t' : Traffic}
    (taken : t.step a turn = some t') : Sound a t' := by
  rw [step_of_call found (expand_whole (.saveNew record) next nofun)] at taken
  have past := sound.past _ (List.mem_of_getElem? found)
  have shared := sound.shared _ (List.mem_of_getElem? found)
  have new : (t.state.alloc record).2.cells[t.state.cells.length]? = some record := by simp [AuthState.alloc]
  simp only [performSection, perform] at taken
  cases fault : turn.choice.fault with
  | some cause =>
    rw [saveLocked_of_fault _ fault] at taken
    cases taken
    refine sound.set found rfl (leaves_of_extends (extends_alloc _ _ _) rfl fun _ same => same) ?_
      (.between (later _) ?_ ?_) past (fun x before => .inl before) shared
    · exact sound.account.keep rfl rfl rfl (by simpa using sound.account.copy) fun _ member => member
    · rintro _ ⟨⟩
    · rintro _ ⟨⟩
  | none =>
    rw [saveLocked_of_none _ fault new] at taken
    simp only [Traffic.observe, founds, if_true] at taken
    cases taken
    -- no account has been made since the last reset
    have empty : t.founded = [] := by
      by_contra some
      obtain ⟨record', read⟩ := sound.account.stored some
      have unreadable := timely fault
      rw [read] at unreadable
      cases unreadable
    have first : Recent a (record :: t.founded) record :=
      ⟨complete, record, List.mem_cons_self, Relation.ReflTransGen.refl⟩
    refine sound.set found rfl (leaves_of_extends
      ((extends_alloc _ record _).trans (extends_saved _ record _)) rfl ?_) ?_
      (.between (later _) ?_ ?_) past (fun x before => .inl before) ?_
    · intro record' recent
      obtain ⟨complete', first, member, descends⟩ := recent
      exact ⟨complete', first, List.mem_cons_of_mem _ member, descends⟩
    · refine sound.account.save ?_ first rfl rfl (AuthState.copy_install _ _) rfl
      simp [empty]
    · rintro _ ⟨⟩
    · rintro _ ⟨⟩
    · intro x here cached
      have own : loaded = some x := here
      have old := sound.pointers.inside turn.thread x (by simp [found, own])
      have fresh : (t.state.alloc record).2.cells.length = x.pointer := Option.some.inj cached
      simp only [AuthState.alloc, List.length_append] at fresh
      omega

/-- A step that leaves the records alone, or empties the copy in memory. -/
theorem Sound.stay (sound : Sound a t) {request : Request} {since : Nat} {loaded l : Option Loaded}
    {rest : SectionProgram Unit} {p : AuthProgram Unit} (fits : Fits a request l p)
    (held : ∀ x ∈ l, loaded = some x ∧ t.state.cells[x.pointer]? = some x.record)
    (recent : ∀ x ∈ l, since = t.resets → Recent a t.founded x.record)
    (found : t.servings[turn.thread]? = some { request, since, loaded, rest }) {t' : Traffic}
    (servings : t'.servings = t.servings.set turn.thread { request, since, loaded, rest := p.expand sections })
    (cells : t'.state.cells = t.state.cells) (cached : t'.state.cached = t.state.cached ∨ t'.state.cached = none)
    (resets : t'.resets = t.resets) (founded : t'.founded = t.founded) (account : Account a t') : Sound a t' := by
  have past := sound.past _ (List.mem_of_getElem? found)
  have shared := sound.shared _ (List.mem_of_getElem? found)
  refine sound.set found servings (leaves_of_extends (extends_of_same cells cached) resets ?_) account
    (.between fits ?_ ?_) ?_ (fun x before => .inl before) ?_
  · rw [founded]
    exact fun _ same => same
  · rw [cells]
    exact held
  · rw [resets, founded]
    exact recent
  · rw [resets]
    exact past
  · intro x here same
    rw [resets]
    obtain kept | none := cached
    · exact shared x here (kept.symm.trans same)
    · rw [none] at same
      cases same

theorem Sound.step_hash (sound : Sound a t) {request : Request} {since : Nat} {loaded l : Option Loaded}
    {password : String} {next : Except GoError String → AuthProgram Unit}
    (later : ∀ chance : Chance, Fits a request l (next (a.bcrypt.generate password chance.random)))
    (held : ∀ x ∈ l, loaded = some x ∧ t.state.cells[x.pointer]? = some x.record)
    (recent : ∀ x ∈ l, since = t.resets → Recent a t.founded x.record)
    (found : t.servings[turn.thread]? = some
      { request, since, loaded, rest := (Program.call (AuthOp.generateHash password) next).expand sections })
    {t' : Traffic} (taken : t.step a turn = some t') : Sound a t' := by
  rw [step_of_call found (expand_whole (.generateHash password) next nofun)] at taken
  cases taken
  refine sound.stay (later turn.choice) held recent found rfl rfl (.inl rfl) rfl rfl ?_
  exact sound.account.keep rfl rfl rfl sound.account.copy fun _ member => member

/-- The steps that neither load nor save. -/
theorem Sound.step_plain (sound : Sound a t) {request : Request} {since : Nat} {loaded l : Option Loaded}
    {op : AuthOp} {next : op.Reply → AuthProgram Unit} (plain : op.Plain)
    (later : ∀ reply, Fits a request l (next reply))
    (held : ∀ x ∈ l, loaded = some x ∧ t.state.cells[x.pointer]? = some x.record)
    (recent : ∀ x ∈ l, since = t.resets → Recent a t.founded x.record)
    (found : t.servings[turn.thread]? = some
      { request, since, loaded, rest := (Program.call op next).expand sections })
    {t' : Traffic} (taken : t.step a turn = some t') : Sound a t' := by
  rw [step_of_call found (expand_whole op next (by rintro rfl; exact plain))] at taken
  cases op with
  | load => exact plain.elim
  | save _ _ => exact plain.elim
  | saveNew _ => exact plain.elim
  | generateHash _ => exact plain.elim
  | randomToken =>
    cases taken
    refine sound.stay (later _) held recent found rfl rfl (.inl rfl) rfl rfl ?_
    exact sound.account.keep rfl rfl rfl sound.account.copy fun _ member => member
  | now =>
    cases taken
    refine sound.stay (later _) held recent found rfl rfl (.inl rfl) rfl rfl ?_
    exact sound.account.keep rfl rfl rfl sound.account.copy fun _ member => member
  | findSession token =>
    cases taken
    refine sound.stay (later _) held recent found rfl rfl (.inl rfl) rfl rfl ?_
    exact sound.account.keep rfl rfl rfl sound.account.copy fun _ member => List.mem_of_mem_filter member
  | clearSession token =>
    cases taken
    refine sound.stay (later _) held recent found rfl rfl (.inl rfl) rfl rfl ?_
    exact sound.account.keep rfl rfl rfl sound.account.copy fun _ member => List.mem_of_mem_filter member
  | addSession username token csrfToken =>
    cases taken
    refine sound.stay (later _) held recent found rfl rfl (.inl rfl) rfl rfl ?_
    refine ⟨sound.account.once, sound.account.stored, sound.account.file, sound.account.copy, ?_⟩
    intro session member
    cases member with
    | head => exact List.mem_cons_self
    | tail _ old =>
      have before := List.mem_of_mem_filter (List.mem_of_mem_filter old)
      exact List.mem_cons_of_mem _ (sound.account.tokens session before)
  | reset =>
    simp only [performSection, perform, AuthState.reset] at taken
    cases fault : turn.choice.fault with
    | some cause =>
      simp only [fault] at taken
      cases taken
      refine sound.stay (later _) held recent found rfl rfl (.inr rfl) rfl rfl ?_
      exact sound.account.keep rfl rfl rfl (fun _ absurd_ => by cases absurd_) (fun _ absurd_ => by cases absurd_)
    | none =>
      simp only [fault] at taken
      cases taken
      have past : since ≤ t.resets := sound.past _ (List.mem_of_getElem? found)
      refine sound.set found rfl ⟨.inl (Nat.lt_succ_self _), le_rfl, fun _ _ _ => rfl, by simp⟩ ?_
        (.between (later _) held ?_) (past.trans (Nat.le_succ _)) (fun x before => .inl before) (by simp)
      · refine ⟨Nat.zero_le 1, absurd rfl, ?_, ?_, ?_⟩ <;> intro _ absurd_ <;> cases absurd_
      · intro x _ same
        have : since = t.resets + 1 := same
        omega

theorem sound_step (hashes : a.bcrypt.Hashes) (t : Traffic) (turn : Turn Chance) (t' : Traffic)
    (sound : Sound a t) (undisturbed : t.Undisturbed turn) (taken : t.step a turn = some t') : Sound a t' := by
  cases found : t.servings[turn.thread]? with
  | none =>
    unfold Traffic.step at taken
    rw [found] at taken
    cases taken
  | some c =>
    have timely := undisturbed c found
    cases sound.stages c (List.mem_of_getElem? found) with
    | reading failed later => exact sound.step_reading failed later found taken
    | filling later recent => exact sound.step_filling later recent found timely taken
    | between fits held recent =>
      cases fits with
      | ret =>
        unfold Traffic.step at taken
        rw [found] at taken
        cases taken
      | load failed later => exact sound.step_peek failed later found taken
      | save updates later =>
        obtain ⟨own, there⟩ := held _ rfl
        exact sound.step_save hashes updates later own there (recent _ rfl) found timely taken
      | saveNew changes updates later =>
        have timely : _ → if _ then _ else _ := timely
        simp only [changes, if_false] at timely
        exact sound.step_saveNew hashes changes updates later (recent _ rfl) found timely taken
      | found founds complete later =>
        have timely : _ → if _ then _ else _ := timely
        simp only [founds, if_true] at timely
        exact sound.step_found founds complete later found timely taken
      | hash later => exact sound.step_hash later held recent found taken
      | plain plain later => exact sound.step_plain plain later held recent found taken

theorem sound_start (hashes : a.bcrypt.Hashes) (file : AuthFile) (requests : List Request) :
    Sound a (Traffic.start a file requests) := by
  have started : ∀ c ∈ (Traffic.start a file requests).servings, ∃ request,
      c = { request, rest := (request.run a).expand sections } := by
    intro c member
    obtain ⟨request, -, rfl⟩ := List.mem_map.mp member
    exact ⟨request, rfl⟩
  refine ⟨⟨?_, ?_, ?_, nofun, nofun⟩, ?_, ?_, ?_, ?_⟩
  · show (file.read.toOption.toList).length ≤ 1
    cases file.read <;> simp [Except.toOption]
  · intro some
    cases read : file.read with
    | ok record => exact ⟨record, read⟩
    | error e => simp [Traffic.start, read, Except.toOption] at some
  · intro record read
    have read : file.read = .ok record := read
    refine ⟨complete_of_read read, record, ?_, Relation.ReflTransGen.refl⟩
    simp [Traffic.start, read, Except.toOption]
  · intro c member
    obtain ⟨request, rfl⟩ := started c member
    exact .between (fits_run hashes request) nofun nofun
  · intro c member
    obtain ⟨request, rfl⟩ := started c member
    exact le_rfl
  · have none : ∀ (i : Nat) (x : Loaded),
        ((Traffic.start a file requests).servings.map Serving.loaded)[i]? ≠ some (some x) := by
      simp [Traffic.start]
    exact ⟨fun i x here => absurd here (none i x), fun i _ x _ here => absurd here (none i x)⟩
  · intro c member x here
    obtain ⟨request, rfl⟩ := started c member
    cases here

end Steps

/-! ## Every run -/

/-- The sound states accept nothing from before the last reset. -/
theorem Sound.revoked {a : AuthManager} {t : Traffic} (sound : Sound a t) : Revoked a t := by
  have recent : ∀ record, t.state.copy = some record ∨ t.state.file.read = .ok record →
      ∃ first ∈ t.founded, Descends a first record := by
    intro record offered
    cases offered with
    | inl here => exact (sound.account.copy record here).2
    | inr read => exact (sound.account.file record read).2
  refine ⟨sound.account.once, ?_, ?_, ?_⟩
  · intro enabled username password choices g ran
    obtain ⟨record, offered, correct⟩ := offered_of_authenticate enabled ran
    obtain ⟨first, member, descends⟩ := recent record offered
    exact ⟨first, member, record, descends, correct⟩
  · intro value scope choices g ran
    obtain ⟨record, offered, key⟩ := offered_of_matchAPIKey ran
    obtain ⟨first, member, descends⟩ := recent record offered
    exact ⟨first, member, record, descends, key⟩
  · intro enabled token username choices g ran
    obtain ⟨session, member, rfl⟩ := session_of_sessionUsername enabled ran
    exact sound.account.tokens session member

-- Two calls that both find no account both make one.
example :
    let a : AuthManager := { enabled := true, bcrypt := readable }
    let requests : List Request := [.bootstrap "password-1" "password-1", .bootstrap "password-2" "password-2"]
    let turns : List (Turn Chance) := [0, 0, 1, 1, 0, 0, 0, 1, 1, 1].map fun thread => ⟨thread, {}⟩
    (replay (Traffic.step a) (Traffic.start a .absent requests) turns).map (·.founded.length) = some 2 := by
  decide +kernel

end Strom.WebAuth
