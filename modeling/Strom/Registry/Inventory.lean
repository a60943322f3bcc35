import Strom.Effects.Run
import Strom.Registry.Samples

/-!
# What `RecordUPSSnapshots` leaves of the tables (`registry.go`)

A call runs its statements in one transaction (`record_outcome`): either all of them have
taken effect on the tables, or none.  `Law` says what they may change: the inventory of
the node, and nothing of any other node.  The statements find a UPS by the text
`node:name`, which two nodes can share, and the law holds of exactly those calls that
name no UPS whose text is another node's (`law_iff`).
-/

namespace Strom.Registry

open Strom.Go Strom.Effects

/-! ## The transaction -/

def snapshotStatements (nodeID capturedAt : String) (snapshot : UPSSnapshot) : List Statement :=
  .upsertUPS (snapshot.row nodeID) :: (snapshot.samples nodeID capturedAt).map .insertSample

def recordStatements (nodeID capturedAt : String) (snapshots : List UPSSnapshot) : List Statement :=
  (named snapshots).flatMap (snapshotStatements nodeID capturedAt)

theorem runStatements_append {first rest : List Statement} {t : Tables} :
    runStatements (first ++ rest) t = (runStatements first t >>= fun t => runStatements rest t) := by
  simp [runStatements, List.foldlM_append]

/-- Where the action ends without an error, the open transaction has run the statements. -/
def Performs (x : RegistryAction Unit) (statements : List Statement) : Prop :=
  ∀ c t, Action.Triple performRegistry (fun db => db = { committed := c, working := some t }) x
    fun result db => match result with
      | .ok _ => ∃ t', runStatements statements t = .ok t' ∧ db = { committed := c, working := some t' }
      | .error _ => db.committed = c

theorem performs_pure : Performs (pure ()) [] := by
  intro c t
  apply Action.triple_pure
  intro db same
  exact ⟨t, rfl, same⟩

theorem performs_tryTo (context : String) (statement : Statement) :
    Performs (tryTo context (.exec statement) rfl) [statement] := by
  intro c t
  constructor
  intro g same
  have ran : (Action.toProgram (tryTo context (.exec statement) rfl)).run (guide performRegistry) g =
      ((performRegistry (.exec statement) g.choice g.state).1.mapError (.wrap context),
        g.next (performRegistry (.exec statement) g.choice g.state).2) := rfl
  rw [ran, same]
  cases g.choice with
  | some cause => rfl
  | none =>
    cases outcome : statement.run t with
    | error cause => simp [performRegistry, outcome, Except.mapError]
    | ok t' =>
      simp only [performRegistry, Option.getD_some, outcome, Except.mapError, Guided.state_next]
      exact ⟨t', by simp [runStatements, outcome], rfl⟩

theorem Performs.bind {x y : RegistryAction Unit} {first rest : List Statement} (one : Performs x first)
    (two : Performs y rest) : Performs (x >>= fun _ => y) (first ++ rest) := by
  intro c t
  apply Action.Triple.bind (one c t)
  · intro _
    apply Program.triple_exists
    intro t₁
    apply Program.Triple.assuming
    intro ran
    apply Action.Triple.mono (two c t₁) (fun _ same => same)
    intro result db post
    cases result with
    | error cause => exact post
    | ok _ =>
      obtain ⟨t₂, later, same⟩ := post
      refine ⟨t₂, ?_, same⟩
      rw [runStatements_append, ran]
      exact later
  · intro cause db kept
    exact kept

theorem performs_insertSamples (rows : List SampleRow) :
    Performs (insertSamples rows) (rows.map .insertSample) := by
  induction rows with
  | nil => exact performs_pure
  | cons row rest ih => exact (performs_tryTo _ (.insertSample row)).bind ih

theorem performs_recordSnapshots (nodeID capturedAt : String) (snapshots : List UPSSnapshot) :
    Performs (recordSnapshots nodeID capturedAt snapshots) (recordStatements nodeID capturedAt snapshots) := by
  induction snapshots with
  | nil => exact performs_pure
  | cons snapshot rest ih =>
    unfold recordSnapshots
    by_cases blank : trimSpace snapshot.name = ""
    · rw [if_pos blank]
      simpa [recordStatements, named, blank] using ih
    · rw [if_neg blank]
      have statements : recordStatements nodeID capturedAt (snapshot :: rest) =
          [.upsertUPS (snapshot.row nodeID)] ++ ((snapshot.samples nodeID capturedAt).map .insertSample ++
            recordStatements nodeID capturedAt rest) := by
        simp [recordStatements, named, blank, snapshotStatements]
      rw [statements]
      exact (performs_tryTo _ _).bind ((performs_insertSamples _).bind ih)

/-- The statements of a call, in their order. -/
def callStatements (nodeID : String) (capturedAt : Time) (snapshots : List UPSSnapshot) : List Statement :=
  recordStatements nodeID (formatRFC3339 capturedAt) snapshots ++
    [(pruneStatement nodeID (activeIDs nodeID snapshots)).2]

/-- The statements and the commit. -/
theorem triple_committing {x : RegistryAction Unit} {statements : List Statement}
    (performs : Performs x statements) (context : String) (t : Tables) :
    Action.Triple performRegistry (fun db => db = { committed := t, working := some t })
      (x >>= fun _ => tryTo context .commit rfl) fun result db => match result with
        | .ok _ => ∃ t', runStatements statements t = .ok t' ∧ db = { committed := t' }
        | .error _ => db.committed = t := by
  apply Action.Triple.bind (performs t t)
  · intro _
    apply Program.triple_exists
    intro t'
    apply Program.Triple.assuming
    intro ran
    constructor
    intro g same
    have commits : (Action.toProgram (tryTo context .commit rfl)).run (guide performRegistry) g =
        ((performRegistry .commit g.choice g.state).1.mapError (.wrap context),
          g.next (performRegistry .commit g.choice g.state).2) := rfl
    rw [commits, same]
    cases g.choice with
    | some cause => rfl
    | none => exact ⟨t', ran, rfl⟩
  · intro cause db kept
    exact kept

/-- The deferred function leaves nothing of a transaction that failed. -/
theorem triple_rollingBack {P : Database → Prop} {x : RegistryAction Unit} {Q : Database → Prop} {t : Tables}
    (triple : Action.Triple performRegistry P x fun result db => match result with
      | .ok _ => Q db
      | .error _ => db.committed = t) :
    Action.Triple performRegistry P (rollingBack x) fun result db => match result with
      | .ok _ => Q db
      | .error _ => db = { committed := t } := by
  apply Program.Triple.bind triple
  intro result
  cases result with
  | ok _ => exact Program.triple_ret fun db post => post
  | error cause =>
    have rolls : Program.Triple performRegistry (fun db => db.committed = t) rollback
        fun _ db => db = { committed := t } := by
      apply Program.triple_perform
      intro choice db same
      rw [← same]
      rfl
    exact rolls.bind fun _ => Program.triple_ret fun db post => post

/-- A call that begins with no transaction open: where it ends without an error, its
    statements have taken effect; where it ends with one, nothing has changed. -/
theorem record_outcome (nodeID : String) (capturedAt : Time) (snapshots : List UPSSnapshot) (t : Tables) :
    Action.Triple performRegistry (fun db => db = { committed := t })
      (recordUPSSnapshots nodeID capturedAt snapshots) fun result db => match result with
        | .ok _ => ∃ t', runStatements (callStatements nodeID capturedAt snapshots) t = .ok t' ∧
            db = { committed := t' }
        | .error _ => db = { committed := t } := by
  unfold recordUPSSnapshots
  cases rejectIf (trimSpace nodeID = "") (.text "node id is required") with
  | error cause => exact Action.triple_throw fun db same => same
  | ok _ =>
    have begins : Action.Triple performRegistry (fun db => db = { committed := t })
        (tryTo "begin UPS sample transaction" .begin rfl) fun result db => match result with
          | .ok _ => db = { committed := t, working := some t }
          | .error _ => db = { committed := t } := by
      constructor
      intro g same
      have ran : (Action.toProgram (tryTo "begin UPS sample transaction" .begin rfl)).run
          (guide performRegistry) g =
        ((performRegistry .begin g.choice g.state).1.mapError (.wrap "begin UPS sample transaction"),
          g.next (performRegistry .begin g.choice g.state).2) := rfl
      rw [ran, same]
      cases g.choice <;> rfl
    apply Action.Triple.bind begins
    · intro _
      apply triple_rollingBack
      have performs : Performs _ (callStatements nodeID capturedAt snapshots) :=
        (performs_recordSnapshots nodeID (formatRFC3339 capturedAt) snapshots).bind
          (performs_tryTo (pruneStatement nodeID (activeIDs nodeID snapshots)).1
            (pruneStatement nodeID (activeIDs nodeID snapshots)).2)
      have commits := triple_committing performs "commit UPS sample transaction" t
      rw [Action.bind_assoc] at commits
      exact commits
    · intro cause db same
      exact same

/-! ## The rows after the statements -/

/-- What holds of the tables in every state of a registry. -/
structure Tables.Valid (t : Tables) : Prop where
  distinct : (t.ups.map (·.id)).Nodup
  composed : ∀ row ∈ t.ups, row.id = upsID row.nodeID row.name

theorem upsID_inj {nodeID name other : String} (same : upsID nodeID name = upsID nodeID other) :
    name = other := by
  simpa [upsID] using same

variable {nodeID capturedAt : String} {t u v : Tables}

@[simp] theorem UPSRow.replaced_id (old row : UPSRow) : (old.replaced row).id = old.id := rfl

theorem ids_upsertRow (rows : List UPSRow) (row : UPSRow) :
    (upsertRow rows row).map (·.id) =
      if row.id ∈ rows.map (·.id) then rows.map (·.id) else rows.map (·.id) ++ [row.id] := by
  unfold upsertRow
  split
  · rw [List.map_map]
    apply List.map_congr_left
    intro old _
    simp only [Function.comp_apply]
    split <;> rfl
  · simp

theorem mem_upsertRow_of_ne {rows : List UPSRow} {row other : UPSRow} (apart : other.id ≠ row.id) :
    other ∈ upsertRow rows row ↔ other ∈ rows := by
  unfold upsertRow
  split
  · rw [List.mem_map]
    constructor
    · intro found
      obtain ⟨old, member, changed⟩ := found
      split at changed
      · next same =>
        subst changed
        exact absurd same apart
      · exact changed ▸ member
    · intro member
      exact ⟨other, member, by simp [apart]⟩
  · have different : other ≠ row := fun same => apart (congrArg UPSRow.id same)
    simp [different]

/-- The row with the id of an upsert. -/
theorem mem_upsertRow_of_eq {rows : List UPSRow} {row other : UPSRow} (same : other.id = row.id) :
    other ∈ upsertRow rows row ↔
      (∃ old ∈ rows, old.id = row.id ∧ other = old.replaced row) ∨
        (row.id ∉ rows.map (·.id)) ∧ other = row := by
  unfold upsertRow
  split
  · next present =>
    simp only [List.mem_map, present, not_true_eq_false, false_and, or_false]
    constructor
    · intro found
      obtain ⟨old, member, changed⟩ := found
      split at changed
      · next own => exact ⟨old, member, own, changed.symm⟩
      · next apart =>
        subst changed
        exact absurd same apart
    · intro found
      obtain ⟨old, member, own, rfl⟩ := found
      exact ⟨old, member, by simp [own]⟩
  · next missing =>
    rw [List.mem_append, List.mem_singleton]
    constructor
    · intro found
      cases found with
      | inl member => exact absurd (same ▸ List.mem_map_of_mem member) missing
      | inr own => exact .inr ⟨missing, own⟩
    · intro found
      cases found with
      | inl old =>
        obtain ⟨old, member, own, -⟩ := old
        exact absurd (own ▸ List.mem_map_of_mem member) missing
      | inr own => exact .inr own.2

theorem id_mem_upsertRow {rows : List UPSRow} {row : UPSRow} : row.id ∈ (upsertRow rows row).map (·.id) := by
  rw [ids_upsertRow]
  split <;> simp [*]

/-- No upsert touches the metadata of a row that was there. -/
theorem upsertRow_keeps {rows : List UPSRow} {old row : UPSRow} (member : old ∈ rows) :
    ∃ row' ∈ upsertRow rows row, row'.id = old.id ∧ row'.displayName = old.displayName ∧
      row'.tagsJSON = old.tagsJSON := by
  by_cases same : old.id = row.id
  · have id : (old.replaced row).id = row.id := same
    have found : old.replaced row ∈ upsertRow rows row :=
      (mem_upsertRow_of_eq id).mpr (.inl ⟨old, member, same, rfl⟩)
    exact ⟨_, found, rfl, rfl, rfl⟩
  · exact ⟨old, (mem_upsertRow_of_ne same).mpr member, rfl, rfl, rfl⟩

/-- What the statements of some snapshots have made of the tables. -/
structure Recorded (nodeID capturedAt : String) (snapshots : List UPSSnapshot) (t u : Tables) : Prop where
  nodes : u.nodes = t.nodes
  samples : u.samples = t.samples ++ (named snapshots).flatMap (·.samples nodeID capturedAt)
  distinct : (t.ups.map (·.id)).Nodup → (u.ups.map (·.id)).Nodup
  others : ∀ row, row.id ∉ activeIDs nodeID snapshots → (row ∈ u.ups ↔ row ∈ t.ups)
  own : ∀ row ∈ u.ups, row.id ∈ activeIDs nodeID snapshots →
    row.nodeID = nodeID ∧ row.id = upsID nodeID row.name
  present : ∀ id ∈ activeIDs nodeID snapshots, ∃ row ∈ u.ups, row.id = id
  kept : ∀ row ∈ t.ups, ∃ row' ∈ u.ups, row'.id = row.id ∧ row'.displayName = row.displayName ∧
    row'.tagsJSON = row.tagsJSON

theorem recorded_nil : Recorded nodeID capturedAt [] t t where
  nodes := rfl
  samples := by simp [named]
  distinct := id
  others := by simp
  own := by simp [activeIDs, named]
  present := by simp [activeIDs, named]
  kept := fun row member => ⟨row, member, rfl, rfl, rfl⟩

theorem activeIDs_append (first rest : List UPSSnapshot) :
    activeIDs nodeID (first ++ rest) = activeIDs nodeID first ++ activeIDs nodeID rest := by
  simp [activeIDs, named]

theorem Recorded.append {first rest : List UPSSnapshot} (one : Recorded nodeID capturedAt first t u)
    (two : Recorded nodeID capturedAt rest u v) : Recorded nodeID capturedAt (first ++ rest) t v where
  nodes := two.nodes.trans one.nodes
  samples := by
    rw [two.samples, one.samples]
    simp [named]
  distinct := fun distinct => two.distinct (one.distinct distinct)
  others := by
    intro row other
    rw [activeIDs_append, List.mem_append, not_or] at other
    rw [two.others row other.2, one.others row other.1]
  own := by
    intro row member active
    by_cases later : row.id ∈ activeIDs nodeID rest
    · exact two.own row member later
    · rw [activeIDs_append, List.mem_append] at active
      exact one.own row ((two.others row later).mp member) (active.resolve_right later)
  present := by
    intro id active
    rw [activeIDs_append, List.mem_append] at active
    cases active with
    | inr later => exact two.present id later
    | inl earlier =>
      obtain ⟨row, member, rfl⟩ := one.present id earlier
      obtain ⟨row', member', same, -⟩ := two.kept row member
      exact ⟨row', member', same⟩
  kept := by
    intro row member
    obtain ⟨row₁, member₁, id₁, name₁, tags₁⟩ := one.kept row member
    obtain ⟨row₂, member₂, id₂, name₂, tags₂⟩ := two.kept row₁ member₁
    exact ⟨row₂, member₂, id₂.trans id₁, name₂.trans name₁, tags₂.trans tags₁⟩

theorem runStatements_insertSamples {rows : List SampleRow} (ran : runStatements (rows.map .insertSample) t = .ok u) :
    u = { t with samples := t.samples ++ rows } := by
  induction rows generalizing t with
  | nil =>
    cases ran
    simp
  | cons row rest ih =>
    simp only [List.map_cons, runStatements, List.foldlM_cons, except_bind_eq_ok, Statement.run] at ran
    obtain ⟨t₁, one, later⟩ := ran
    split at one
    · cases one
      have := ih later
      simpa using this
    · cases one

theorem recorded_snapshot {snapshot : UPSSnapshot} (nonblank : trimSpace snapshot.name ≠ "")
    (ran : runStatements (snapshotStatements nodeID capturedAt snapshot) t = .ok u) :
    Recorded nodeID capturedAt [snapshot] t u := by
  simp only [snapshotStatements, runStatements, List.foldlM_cons, except_bind_eq_ok, Statement.run] at ran
  obtain ⟨t₁, one, later⟩ := ran
  split at one
  · cases one
    obtain rfl := runStatements_insertSamples later
    have active : activeIDs nodeID [snapshot] = [(snapshot.row nodeID).id] := by
      simp [activeIDs, named, nonblank]
    constructor
    · rfl
    · simp [named, nonblank]
    · intro distinct
      show ((upsertRow t.ups (snapshot.row nodeID)).map (·.id)).Nodup
      rw [ids_upsertRow]
      split
      · exact distinct
      · next missing => exact List.nodup_append.mpr ⟨distinct, by simp, by simpa using missing⟩
    · intro row other
      rw [active, List.mem_singleton] at other
      exact mem_upsertRow_of_ne other
    · intro row member own
      rw [active, List.mem_singleton] at own
      obtain ⟨old, -, id, rfl⟩ | ⟨-, rfl⟩ := (mem_upsertRow_of_eq own).mp member
      · exact ⟨rfl, id⟩
      · exact ⟨rfl, rfl⟩
    · intro id own
      rw [active, List.mem_singleton] at own
      subst own
      exact List.mem_map.mp id_mem_upsertRow
    · intro row member
      exact upsertRow_keeps member
  · cases one

theorem recorded_recordStatements {snapshots : List UPSSnapshot}
    (ran : runStatements (recordStatements nodeID capturedAt snapshots) t = .ok u) :
    Recorded nodeID capturedAt snapshots t u := by
  induction snapshots generalizing t with
  | nil =>
    cases ran
    exact recorded_nil
  | cons snapshot rest ih =>
    by_cases blank : trimSpace snapshot.name = ""
    · -- a snapshot without a name has no statements
      have skipped : named (snapshot :: rest) = named rest := by simp [named, blank]
      have recorded := ih (t := t) (by simpa [recordStatements, skipped] using ran)
      constructor
      · exact recorded.nodes
      · rw [skipped]
        exact recorded.samples
      · exact recorded.distinct
      · simpa [activeIDs, skipped] using recorded.others
      · simpa [activeIDs, skipped] using recorded.own
      · simpa [activeIDs, skipped] using recorded.present
      · exact recorded.kept
    · have statements : recordStatements nodeID capturedAt (snapshot :: rest) =
          snapshotStatements nodeID capturedAt snapshot ++ recordStatements nodeID capturedAt rest := by
        simp [recordStatements, named, blank]
      rw [statements, runStatements_append, except_bind_eq_ok] at ran
      obtain ⟨t₁, one, later⟩ := ran
      exact (recorded_snapshot blank one).append (ih later)

/-- The UPSes of the node that a call does not name. -/
def stale (nodeID : String) (snapshots : List UPSSnapshot) (row : UPSRow) : Bool :=
  row.nodeID = nodeID && row.id ∉ activeIDs nodeID snapshots

theorem run_pruneStatement (snapshots : List UPSSnapshot) :
    (pruneStatement nodeID (activeIDs nodeID snapshots)).2.run t = .ok (t.deleteUPS (stale nodeID snapshots)) := by
  unfold pruneStatement
  split
  · next none =>
    have all : stale nodeID snapshots = fun row => decide (row.nodeID = nodeID) := by
      funext row
      simp [stale, none]
    rw [all]
    rfl
  · rfl

/-- The tables after a call: the upserts and the samples, without the stale UPSes. -/
theorem recorded_of_run {capturedAt : Time} {snapshots : List UPSSnapshot}
    (ran : runStatements (callStatements nodeID capturedAt snapshots) t = .ok v) :
    ∃ u, Recorded nodeID (formatRFC3339 capturedAt) snapshots t u ∧ v = u.deleteUPS (stale nodeID snapshots) := by
  rw [callStatements, runStatements_append, except_bind_eq_ok] at ran
  obtain ⟨u, one, later⟩ := ran
  refine ⟨u, recorded_recordStatements one, ?_⟩
  simp only [runStatements, List.foldlM_cons, List.foldlM_nil, run_pruneStatement, except_bind_eq_ok] at later
  obtain ⟨v', same, last⟩ := later
  cases same
  cases last
  rfl

/-! ## The law of a call -/

def samplesOf (t : Tables) (id : String) : List SampleRow := t.samples.filter fun sample => sample.upsID = id

/-- What a call may change. -/
structure Law (nodeID : String) (capturedAt : Time) (snapshots : List UPSSnapshot) (t t' : Tables) : Prop where
  nodes : t'.nodes = t.nodes
  /-- The inventory of the node is the names of the snapshots. -/
  inventory : ∀ name, (∃ row ∈ t'.ups, row.nodeID = nodeID ∧ row.name = name) ↔
    name ≠ "" ∧ ∃ snapshot ∈ snapshots, trimSpace snapshot.name = name
  metadata : ∀ row ∈ t.ups, row.nodeID = nodeID → (∃ row' ∈ t'.ups, row'.nodeID = nodeID ∧ row'.name = row.name) →
    ∃ row' ∈ t'.ups, row'.nodeID = nodeID ∧ row'.name = row.name ∧ row'.displayName = row.displayName ∧
      row'.tagsJSON = row.tagsJSON
  /-- The samples of its UPSes are the past ones and then the new ones. -/
  samples : ∀ row ∈ t'.ups, row.nodeID = nodeID → samplesOf t' row.id = samplesOf t row.id ++
    ((named snapshots).flatMap (·.samples nodeID (formatRFC3339 capturedAt))).filter fun sample =>
      sample.upsID = row.id
  otherUPSes : ∀ row, row.nodeID ≠ nodeID → (row ∈ t'.ups ↔ row ∈ t.ups)
  otherSamples : ∀ row ∈ t.ups, row.nodeID ≠ nodeID → samplesOf t' row.id = samplesOf t row.id

/-- A UPS of another node has the id of one that the call names. -/
def Clash (nodeID : String) (snapshots : List UPSSnapshot) (t : Tables) : Prop :=
  ∃ row ∈ t.ups, row.nodeID ≠ nodeID ∧ row.id ∈ activeIDs nodeID snapshots

theorem mem_activeIDs {snapshots : List UPSSnapshot} {id : String} : id ∈ activeIDs nodeID snapshots ↔
    ∃ name, (name ≠ "" ∧ ∃ snapshot ∈ snapshots, trimSpace snapshot.name = name) ∧ id = upsID nodeID name := by
  simp only [activeIDs, named, List.mem_map, List.mem_filter, decide_eq_true_eq, UPSSnapshot.row]
  constructor
  · intro found
    obtain ⟨snapshot, ⟨member, nonblank⟩, rfl⟩ := found
    exact ⟨_, ⟨nonblank, snapshot, member, rfl⟩, rfl⟩
  · intro found
    obtain ⟨name, ⟨nonblank, snapshot, member, rfl⟩, rfl⟩ := found
    exact ⟨snapshot, ⟨member, nonblank⟩, rfl⟩

theorem mem_deleteUPS {p : UPSRow → Bool} {row : UPSRow} :
    row ∈ (t.deleteUPS p).ups ↔ row ∈ t.ups ∧ p row = false := by
  simp [Tables.deleteUPS]

/-- Deleting other UPSes leaves the samples of a UPS alone. -/
theorem samplesOf_deleteUPS {p : UPSRow → Bool} {id : String} (other : ∀ row ∈ t.ups, p row = true → row.id ≠ id) :
    samplesOf (t.deleteUPS p) id = samplesOf t id := by
  simp only [samplesOf, Tables.deleteUPS, List.filter_filter]
  apply List.filter_congr
  intro sample _
  by_cases own : sample.upsID = id
  · subst own
    simpa using other
  · simp [own]

section Law

variable {capturedAt : Time} {snapshots : List UPSSnapshot}

/-- The rows of the node after a call are those that it names. -/
theorem own_of_recorded (recorded : Recorded nodeID (formatRFC3339 capturedAt) snapshots t u) {row : UPSRow} :
    row ∈ (u.deleteUPS (stale nodeID snapshots)).ups ∧ row.nodeID = nodeID ↔
      row ∈ u.ups ∧ row.id ∈ activeIDs nodeID snapshots := by
  rw [mem_deleteUPS]
  constructor
  · intro ⟨⟨member, fresh⟩, own⟩
    simp only [stale, own, decide_true, Bool.true_and, decide_eq_false_iff_not, not_not] at fresh
    exact ⟨member, fresh⟩
  · intro ⟨member, active⟩
    have own := (recorded.own row member active).1
    exact ⟨⟨member, by simp [stale, active]⟩, own⟩

theorem filter_newSamples (id : String) (other : id ∉ activeIDs nodeID snapshots) :
    (((named snapshots).flatMap (·.samples nodeID (formatRFC3339 capturedAt))).filter fun sample =>
      sample.upsID = id) = [] := by
  rw [List.filter_eq_nil_iff]
  intro sample member
  obtain ⟨snapshot, named, entry⟩ := List.mem_flatMap.mp member
  obtain ⟨_, -, rfl⟩ := List.mem_map.mp entry
  have active : (snapshot.row nodeID).id ∈ activeIDs nodeID snapshots := List.mem_map_of_mem named
  simp only [decide_eq_true_eq]
  intro same
  exact other (same ▸ active)

/-- The samples of a UPS that is not deleted. -/
theorem samplesOf_recorded (recorded : Recorded nodeID (formatRFC3339 capturedAt) snapshots t u)
    (valid : t.Valid) {row : UPSRow} (member : row ∈ u.ups) (fresh : stale nodeID snapshots row = false) :
    samplesOf (u.deleteUPS (stale nodeID snapshots)) row.id = samplesOf t row.id ++
      ((named snapshots).flatMap (·.samples nodeID (formatRFC3339 capturedAt))).filter fun sample =>
        sample.upsID = row.id := by
  have kept : samplesOf (u.deleteUPS (stale nodeID snapshots)) row.id = samplesOf u row.id := by
    apply samplesOf_deleteUPS
    intro other member' deleted same
    -- two rows with one id are one row
    obtain rfl := List.inj_on_of_nodup_map (recorded.distinct valid.distinct) member' member same
    simp [fresh] at deleted
  rw [kept]
  simp [samplesOf, recorded.samples]

theorem law_of_recorded (recorded : Recorded nodeID (formatRFC3339 capturedAt) snapshots t u) (valid : t.Valid)
    (clear : ¬ Clash nodeID snapshots t) :
    Law nodeID capturedAt snapshots t (u.deleteUPS (stale nodeID snapshots)) where
  nodes := recorded.nodes
  inventory := by
    intro name
    constructor
    · intro found
      obtain ⟨row, member, own, rfl⟩ := found
      obtain ⟨member, active⟩ := (own_of_recorded recorded).mp ⟨member, own⟩
      obtain ⟨name, listed, id⟩ := mem_activeIDs.mp active
      have same := (recorded.own row member active).2
      rw [upsID_inj (same.symm.trans id)]
      exact listed
    · intro listed
      obtain ⟨row, member, id⟩ := recorded.present _ (mem_activeIDs.mpr ⟨name, listed, rfl⟩)
      have active : row.id ∈ activeIDs nodeID snapshots := mem_activeIDs.mpr ⟨name, listed, id⟩
      obtain ⟨kept, own⟩ := (own_of_recorded recorded).mpr ⟨member, active⟩
      have same := (recorded.own row member active).2
      exact ⟨row, kept, own, upsID_inj (same.symm.trans id)⟩
  metadata := by
    intro row member own retained
    obtain ⟨other, member', own', name⟩ := retained
    obtain ⟨member', active'⟩ := (own_of_recorded recorded).mp ⟨member', own'⟩
    have id : row.id = other.id := by
      rw [valid.composed row member, (recorded.own other member' active').2, own, name]
    obtain ⟨row', found, same, displayName, tags⟩ := recorded.kept row member
    have active : row'.id ∈ activeIDs nodeID snapshots := by
      rw [same, id]
      exact active'
    obtain ⟨kept, own''⟩ := (own_of_recorded recorded).mpr ⟨found, active⟩
    refine ⟨row', kept, own'', ?_, displayName, tags⟩
    have composed := (recorded.own row' found active).2
    rw [same, valid.composed row member, own] at composed
    exact (upsID_inj composed).symm
  samples := by
    intro row member own
    obtain ⟨member', fresh⟩ := mem_deleteUPS.mp member
    exact samplesOf_recorded recorded valid member' fresh
  otherUPSes := by
    intro row other
    have fresh : stale nodeID snapshots row = false := by simp [stale, other]
    rw [mem_deleteUPS]
    constructor
    · intro found
      by_cases active : row.id ∈ activeIDs nodeID snapshots
      · exact absurd (recorded.own row found.1 active).1 other
      · exact (recorded.others row active).mp found.1
    · intro member
      have inactive : row.id ∉ activeIDs nodeID snapshots := fun active => clear ⟨row, member, other, active⟩
      exact ⟨(recorded.others row inactive).mpr member, fresh⟩
  otherSamples := by
    intro row member other
    have inactive : row.id ∉ activeIDs nodeID snapshots := fun active => clear ⟨row, member, other, active⟩
    have fresh : stale nodeID snapshots row = false := by simp [stale, other]
    rw [samplesOf_recorded recorded valid ((recorded.others row inactive).mpr member) fresh,
      filter_newSamples row.id inactive, List.append_nil]

/-- A call obeys the law if and only if it names no UPS that has the id of another node's. -/
theorem law_iff (recorded : Recorded nodeID (formatRFC3339 capturedAt) snapshots t u) (valid : t.Valid) :
    Law nodeID capturedAt snapshots t (u.deleteUPS (stale nodeID snapshots)) ↔ ¬ Clash nodeID snapshots t := by
  constructor
  · intro law clash
    -- the row that the law keeps has become one of the node
    obtain ⟨row, member, other, active⟩ := clash
    have kept := (law.otherUPSes row other).mpr member
    exact other (recorded.own row (mem_deleteUPS.mp kept).1 active).1
  · exact law_of_recorded recorded valid

end Law

/-! ## Runs of a registry -/

/-- A call with the choices of its operations: its result and the tables after it. -/
def recordCall (nodeID : String) (capturedAt : Time) (snapshots : List UPSSnapshot)
    (choices : Nat → Option GoError) (t : Tables) : Except GoError Unit × Tables :=
  let ended := (recordUPSSnapshots nodeID capturedAt snapshots).exec (guide performRegistry)
    { state := { committed := t }, choices }
  (ended.1, ended.2.state.committed)

inductive RegistryEvent where
  | discovered (node : DiscoveredNode)
  | adopted (id : String) (adopted : Bool) (now : String)
  | trusted (id : String) (trust : Trust)
  | deleted (id : String)
  | described (nodeID upsName : String) (metadata : UPSMetadata)
  | pruned (cutoff : Time)
  | recorded (nodeID : String) (capturedAt : Time) (snapshots : List UPSSnapshot)
    (choices : Nat → Option GoError)

def registryStep (t : Tables) : RegistryEvent → Option Tables
  | .discovered node => some { t with nodes := (upsertDiscoveredNode node t.nodes).2 }
  | .adopted id adopted now => some { t with nodes := (setNodeAdopted id adopted now t.nodes).2 }
  | .trusted id trust => some { t with nodes := (saveNodeTrust id trust t.nodes).2 }
  | .deleted id => some (t.deleteNode id)
  | .described nodeID upsName metadata => some (updateUPSMetadata nodeID upsName metadata t)
  | .pruned cutoff => some (pruneSamplesBefore cutoff t)
  | .recorded nodeID capturedAt snapshots choices => some (recordCall nodeID capturedAt snapshots choices t).2

/-- A call has run its statements, or changed nothing. -/
theorem recordCall_runs (nodeID : String) (capturedAt : Time) (snapshots : List UPSSnapshot)
    (choices : Nat → Option GoError) (t : Tables) :
    (∃ cause, recordCall nodeID capturedAt snapshots choices t = (.error cause, t)) ∨
      ∃ v, runStatements (callStatements nodeID capturedAt snapshots) t = .ok v ∧
        recordCall nodeID capturedAt snapshots choices t = (.ok (), v) := by
  have outcome := (record_outcome nodeID capturedAt snapshots t).run { state := { committed := t }, choices } rfl
  unfold recordCall Action.exec
  generalize (Action.toProgram (recordUPSSnapshots nodeID capturedAt snapshots)).run (guide performRegistry)
    { state := { committed := t }, choices } = ended at outcome ⊢
  obtain ⟨result, after⟩ := ended
  cases result with
  | error cause =>
    replace outcome : after.state = { committed := t } := outcome
    exact .inl ⟨cause, by simp [outcome]⟩
  | ok _ =>
    obtain ⟨v, ran, same⟩ := outcome
    replace same : after.state = { committed := v } := same
    exact .inr ⟨v, ran, by simp [same]⟩

theorem recordCall_cases (nodeID : String) (capturedAt : Time) (snapshots : List UPSSnapshot)
    (choices : Nat → Option GoError) (t : Tables) :
    (∃ cause, recordCall nodeID capturedAt snapshots choices t = (.error cause, t)) ∨
      ∃ u, Recorded nodeID (formatRFC3339 capturedAt) snapshots t u ∧
        recordCall nodeID capturedAt snapshots choices t = (.ok (), u.deleteUPS (stale nodeID snapshots)) := by
  obtain failed | ⟨v, ran, same⟩ := recordCall_runs nodeID capturedAt snapshots choices t
  · exact .inl failed
  · obtain ⟨u, recorded, rfl⟩ := recorded_of_run ran
    exact .inr ⟨u, recorded, same⟩

theorem Tables.Valid.deleteUPS (valid : t.Valid) (p : UPSRow → Bool) : (t.deleteUPS p).Valid where
  distinct := valid.distinct.sublist (List.filter_sublist.map _)
  composed := fun row member => valid.composed row (mem_deleteUPS.mp member).1

/-- A metadata update touches no column that the ids are made of. -/
theorem Tables.Valid.updateUPSMetadata (valid : t.Valid) (nodeID upsName : String) (metadata : UPSMetadata) :
    (updateUPSMetadata nodeID upsName metadata t).Valid where
  distinct := by
    have ids : (Registry.updateUPSMetadata nodeID upsName metadata t).ups.map (·.id) = t.ups.map (·.id) := by
      simp only [Registry.updateUPSMetadata, List.map_map]
      apply List.map_congr_left
      intro row _
      simp only [Function.comp_apply]
      split <;> rfl
    rw [ids]
    exact valid.distinct
  composed := by
    intro row member
    obtain ⟨old, found, rfl⟩ := List.mem_map.mp member
    have composed := valid.composed old found
    split <;> exact composed

theorem Recorded.valid (recorded : Recorded nodeID capturedAt snapshots t u) (valid : t.Valid) : u.Valid where
  distinct := recorded.distinct valid.distinct
  composed := by
    intro row member
    by_cases active : row.id ∈ activeIDs nodeID snapshots
    · obtain ⟨own, id⟩ := recorded.own row member active
      rw [id, own]
    · exact valid.composed row ((recorded.others row active).mp member)

theorem valid_step (event : RegistryEvent) (valid : t.Valid) (taken : registryStep t event = some u) : u.Valid := by
  cases event with
  | discovered node =>
    cases taken
    exact ⟨valid.distinct, valid.composed⟩
  | adopted id adopted now =>
    cases taken
    exact ⟨valid.distinct, valid.composed⟩
  | trusted id trust =>
    cases taken
    exact ⟨valid.distinct, valid.composed⟩
  | pruned cutoff =>
    rw [← Option.some.inj taken]
    exact ⟨valid.distinct, valid.composed⟩
  | deleted id =>
    cases taken
    have kept := valid.deleteUPS fun row => row.nodeID = id
    exact ⟨kept.distinct, kept.composed⟩
  | described nodeID upsName metadata =>
    cases taken
    exact valid.updateUPSMetadata nodeID upsName metadata
  | recorded nodeID capturedAt snapshots choices =>
    rw [← Option.some.inj taken]
    obtain ⟨cause, same⟩ | ⟨u, recorded, same⟩ := recordCall_cases nodeID capturedAt snapshots choices t
    · rw [same]
      exact valid
    · rw [same]
      exact (recorded.valid valid).deleteUPS _

/-- After every run of a registry: a call that ends with an error has changed nothing, and
    one that ends without an error obeys the law if and only if no UPS of another node has
    the id of one that it names. -/
theorem record_obeys_law_iff {events : List RegistryEvent} (run : replay registryStep {} events = some t)
    (nodeID : String) (capturedAt : Time) (snapshots : List UPSSnapshot) (choices : Nat → Option GoError) :
    match recordCall nodeID capturedAt snapshots choices t with
    | (.error _, t') => t' = t
    | (.ok _, t') => Law nodeID capturedAt snapshots t t' ↔ ¬ Clash nodeID snapshots t := by
  have valid : t.Valid := by
    have empty : Tables.Valid {} := ⟨by simp, by simp⟩
    exact replay_preserves (fun _ event _ valid => valid_step event valid) empty run
  obtain ⟨cause, same⟩ | ⟨u, recorded, same⟩ := recordCall_cases nodeID capturedAt snapshots choices t
  · rw [same]
  · rw [same]
    exact law_iff recorded valid

def discoveredAs (id : String) : DiscoveredNode :=
  { id, instance_ := id, hostname := "", address := "", port := 0, version := "", upsCount := 1
    lastSeen := "2026-06-25T09:00:00Z" }

def sampleTime : Time := ⟨1782378000 * second⟩

/-- A registry with two nodes, and a UPS of the second one. -/
def labEvents : List RegistryEvent := [.discovered (discoveredAs "a"), .discovered (discoveredAs "a:b"),
  .recorded "a:b" sampleTime [{ name := "c" }] fun _ => none]

def labTables : Tables := (replay registryStep {} labEvents).getD {}

theorem record_obeys_law_iff_in_lab :
    match recordCall "a" sampleTime [{ name := "ups", vars := { entries := [("ups.status", "OL")] } }]
      (fun _ => none) labTables with
    | (.error _, t') => t' = labTables
    | (.ok _, t') => Law "a" sampleTime [{ name := "ups", vars := { entries := [("ups.status", "OL")] } }] labTables t' ↔
        ¬ Clash "a" [{ name := "ups", vars := { entries := [("ups.status", "OL")] } }] labTables := by
  have run : replay registryStep {} labEvents = some labTables := rfl
  exact record_obeys_law_iff run "a" sampleTime _ fun _ => none

/-- A call for the node `a` takes the UPS `c` of the node `a:b`. -/
theorem record_takes_ups_of_other_node :
    labTables.ups = [{ id := "a:b:c", nodeID := "a:b", name := "c", driver := "" }] ∧
      recordCall "a" sampleTime [{ name := "b:c" }] (fun _ => none) labTables =
        (.ok (), { labTables with ups := [{ id := "a:b:c", nodeID := "a", name := "b:c", driver := "" }] }) := by
  decide +kernel

end Strom.Registry
