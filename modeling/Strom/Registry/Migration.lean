import Strom.Registry.EventTables

/-!
# What the migration of alert events keeps

`migration_law_iff`: over a table of arbitrary contents the migration keeps every row with all
its columns and settles the table, so that later deletions of rules and nodes remove no event,
exactly if the query of the definition does not fail.  Where it does fail, no error is returned
and the table keeps its `ON DELETE CASCADE`.
-/

namespace Strom.Registry

open Strom.Go

variable {F : Type}

/-! ## The text of a definition -/

theorem contains_ofList (l part : List Char) :
    contains (String.ofList l) (String.ofList part) = decide (part <:+: l) := by
  simp [contains]

theorem legacy_cascades : contains (legacyDefinition (F := F)).sql "ON DELETE CASCADE" = true := by
  unfold legacyDefinition
  rw [contains_ofList]
  decide +kernel

theorem migrated_cascades_not :
    contains (alertEventsDefinition (F := F)).sql "ON DELETE CASCADE" = false := by
  unfold alertEventsDefinition
  rw [contains_ofList]
  decide +kernel

/-! ## Rows -/

/-- The statement of the migration copies every column. -/
theorem insert_all (definition : Definition F) (row : EventRow F) :
    definition.insert EventColumn.all (EventColumn.all.map row) = row := by
  funext column
  cases column <;> rfl

namespace EventRow

theorem forget_congr (row : EventRow F) {gone gone' : List Int} (same : ∀ id, id ∈ gone ↔ id ∈ gone') :
    row.forget gone = row.forget gone' := by
  have refers : row.RefersTo gone ↔ row.RefersTo gone' := by simp [RefersTo, same]
  simp [forget, refers]

theorem forget_nil (row : EventRow F) : row.forget [] = row := by
  simp [forget, RefersTo]

theorem forget_forget (row : EventRow F) (gone later : List Int) :
    (row.forget gone).forget later = row.forget (gone ++ later) := by
  by_cases refers : row.RefersTo gone
  · have all : row.RefersTo (gone ++ later) := by
      obtain ⟨id, member, is⟩ := refers
      exact ⟨id, List.mem_append_left later member, is⟩
    -- A second deletion finds `rule_id` at `NULL`.
    simp [forget, refers, all]
  · have rest : row.RefersTo (gone ++ later) ↔ row.RefersTo later := by
      unfold RefersTo at refers ⊢
      constructor
      · rintro ⟨id, member, is⟩
        cases List.mem_append.mp member with
        | inl first => exact absurd ⟨id, first, is⟩ refers
        | inr second => exact ⟨id, second, is⟩
      · rintro ⟨id, member, is⟩
        exact ⟨id, List.mem_append_right gone member, is⟩
    simp [forget, refers, rest]

end EventRow

/-! ## The statements of a migration -/

/-- A database from before the migration, with events of arbitrary contents. -/
structure LegacyEvents (F : Type) where
  inventory : Tables := {}
  rules : AlertRules F := {}
  rows : List (EventRow F) := []
  indexes : List (String × String) := []
  /-- Every column is `NOT NULL`, the primary key too. -/
  notNull : ∀ row ∈ rows, ∀ column, (row column).isSome = true
  distinct : (rows.map EventRow.eventID).Nodup

namespace LegacyEvents

variable (legacy : LegacyEvents F)

def database : EventsDatabase F where
  inventory := legacy.inventory
  rules := legacy.rules
  events := [("alert_events", { definition := legacyDefinition, rows := legacy.rows })]
  indexes := legacy.indexes

/-- Every event refers to a rule, as the foreign key demands. -/
def Resolves : Prop := ∀ row ∈ legacy.rows, row.Resolves legacy.rules.ids

instance : Decidable legacy.Resolves :=
  inferInstanceAs (Decidable (∀ row ∈ legacy.rows, row.Resolves legacy.rules.ids))

end LegacyEvents

/-- The table is the one that the migration makes, with the given rows. -/
def EventsDatabase.Settled (db : EventsDatabase F) (rows : List (EventRow F)) : Prop :=
  db.events = [("alert_events", { definition := alertEventsDefinition, rows })]

theorem EventsDatabase.Settled.eventRows {db : EventsDatabase F} {rows : List (EventRow F)}
    (settled : db.Settled rows) : db.eventRows = rows := by
  unfold EventsDatabase.eventRows
  rw [settled]
  rfl

/-- A run of statements in which none fails from outside. -/
theorem execAll_ok {faults : Nat → Option GoError} {turn : Nat} {statements : List (MigrationStatement F)}
    {db changed : EventsDatabase F} (ok : execAll faults turn statements db = .ok changed) :
    execAll (fun _ => none) turn statements db = .ok changed := by
  induction statements generalizing turn db with
  | nil => exact ok
  | cons statement statements ih =>
    simp only [execAll] at ok ⊢
    cases fault : faults turn with
    | some cause => simp [fault] at ok
    | none =>
      cases ran : statement.run db with
      | error cause => simp [fault, ran] at ok
      | ok next =>
        simp only [fault, ran] at ok
        exact ih ok

section Runs

variable {statement : MigrationStatement F} {statements : List (MigrationStatement F)}
  {db next : EventsDatabase F}

theorem execAll_cons (turn : Nat) (ran : statement.run db = .ok next) :
    execAll (fun _ => none) turn (statement :: statements) db =
      execAll (fun _ => none) (turn + 1) statements next := by
  simp [execAll, ran]

theorem execAll_cons_error (turn : Nat) {cause : GoError} (ran : statement.run db = .error cause) :
    execAll (fun _ => none) turn (statement :: statements) db = .error cause := by
  simp [execAll, ran]

end Runs

/-- The database in the middle of the migration: `rows` are those of the new table. -/
def LegacyEvents.halfway (legacy : LegacyEvents F) (indexes : List (String × String))
    (rows : List (EventRow F)) : EventsDatabase F where
  inventory := legacy.inventory
  rules := legacy.rules
  events := [("alert_events_old", { definition := legacyDefinition, rows := legacy.rows }),
    ("alert_events", { definition := alertEventsDefinition, rows })]
  indexes := indexes

/-- The database after the migration. -/
def LegacyEvents.migrated (legacy : LegacyEvents F) (indexes : List (String × String)) :
    EventsDatabase F where
  inventory := legacy.inventory
  rules := legacy.rules
  events := [("alert_events", { definition := alertEventsDefinition, rows := legacy.rows })]
  indexes := indexes

/-- The two statements that rename the old table and make the new one. -/
theorem run_rename_create (legacy : LegacyEvents F) :
    ∃ indexes, execAll (fun _ => none) 0 migrationStatements legacy.database =
      execAll (fun _ => none) 2
        (.insertSelect "alert_events" EventColumn.all EventColumn.all "alert_events_old" ::
          migrationStatements.drop 3) (legacy.halfway indexes []) := by
  refine ⟨legacy.indexes.map fun index =>
    if index.2 = "alert_events" then (index.1, "alert_events_old") else index, ?_⟩
  rfl

/-- The statement that fills the new table. -/
theorem run_fill (legacy : LegacyEvents F) (indexes : List (String × String)) :
    (MigrationStatement.insertSelect "alert_events" EventColumn.all EventColumn.all "alert_events_old").run
        (legacy.halfway indexes []) =
      if legacy.Resolves then .ok (legacy.halfway indexes legacy.rows) else .error constraintError := by
  have copied : legacy.rows.map (fun row => (alertEventsDefinition (F := F)).insert EventColumn.all
      (EventColumn.all.map row)) = legacy.rows := by
    simp [insert_all]
  have constraints : EventTable.Holds { definition := alertEventsDefinition, rows := legacy.rows }
      legacy.rules.ids ↔ legacy.Resolves := by
    constructor
    · intro holds
      exact holds.resolves
    · intro resolves
      exact ⟨fun row member column _ => legacy.notNull row member column, legacy.distinct, resolves⟩
  simp [MigrationStatement.run, LegacyEvents.halfway, EventsDatabase.setTable, List.lookup_cons, copied,
    constraints]

/-- The two statements that drop the old table and make its index anew. -/
theorem run_drop_index (legacy : LegacyEvents F) (indexes : List (String × String)) :
    ∃ later, execAll (fun _ => none) 3 (migrationStatements.drop 3) (legacy.halfway indexes legacy.rows) =
      .ok (legacy.migrated later) := by
  have dropped : (MigrationStatement.drop "alert_events_old").run (legacy.halfway indexes legacy.rows) =
      .ok (legacy.migrated (indexes.filter fun index => index.2 ≠ "alert_events_old")) := rfl
  have indexed (kept : List (String × String)) : ∃ later, (MigrationStatement.createIndex
      "idx_alert_events_rule_subject_time" "alert_events").run (legacy.migrated kept) =
        .ok (legacy.migrated later) := by
    -- An index of that name may be there already, on whatever table.
    cases there : kept.lookup "idx_alert_events_rule_subject_time" with
    | none =>
      refine ⟨kept ++ [("idx_alert_events_rule_subject_time", "alert_events")], ?_⟩
      simp [MigrationStatement.run, LegacyEvents.migrated, there]
    | some table =>
      refine ⟨kept, ?_⟩
      simp [MigrationStatement.run, LegacyEvents.migrated, there]
  obtain ⟨later, ran⟩ := indexed (indexes.filter fun index => index.2 ≠ "alert_events_old")
  exact ⟨later, (execAll_cons 3 dropped).trans (execAll_cons 4 ran)⟩

/-- Without failures from outside the statements succeed exactly where every event has its rule. -/
theorem execAll_migration (legacy : LegacyEvents F) :
    ∃ indexes, execAll (fun _ => none) 0 migrationStatements legacy.database =
      if legacy.Resolves then .ok (legacy.migrated indexes) else .error constraintError := by
  obtain ⟨indexes, started⟩ := run_rename_create legacy
  obtain ⟨later, finished⟩ := run_drop_index legacy indexes
  have filled := run_fill legacy indexes
  refine ⟨later, ?_⟩
  rw [started]
  by_cases resolves : legacy.Resolves
  · rw [if_pos resolves] at filled ⊢
    exact (execAll_cons 2 filled).trans finished
  · rw [if_neg resolves] at filled ⊢
    exact execAll_cons_error 2 filled

/-! ## A settled table -/

namespace EventsDatabase

variable {db : EventsDatabase F} {rows : List (EventRow F)}

/-- The migration leaves a settled table alone, whatever fails. -/
theorem Settled.migrate (settled : db.Settled rows) (faults : MigrationFaults) :
    migrateAlertEventsDropCascade faults db = (none, db) := by
  unfold migrateAlertEventsDropCascade queryDefinition
  rw [settled]
  cases faults.query with
  | some cause => simp
  | none => simp [List.lookup_cons, migrated_cascades_not]

theorem deleteAlertRule_ids (faults : Faults) (id : Int) (rules : AlertRules F) :
    (deleteAlertRule faults id rules).2.ids ⊆ rules.ids := by
  have remaining : AlertRules.ids { rules with rows := rules.rows.filter (·.id ≠ id) } ⊆ rules.ids := by
    intro left member
    obtain ⟨row, kept, rfl⟩ := List.mem_map.mp member
    exact List.mem_map.mpr ⟨row, List.mem_of_mem_filter kept, rfl⟩
  unfold deleteAlertRule
  cases faults.exec with
  | some cause => exact fun left member => member
  | none =>
    cases faults.outcome with
    | some cause => exact remaining
    | none =>
      dsimp only
      split <;> exact remaining

/-- The rules that are gone after the deletions. -/
def gone (db : EventsDatabase F) (deletions : List Deletion) : List Int :=
  db.rules.ids.filter (· ∉ (db.deleteAll deletions).rules.ids)

theorem ids_deleteAll (db : EventsDatabase F) (deletions : List Deletion) :
    (db.deleteAll deletions).rules.ids ⊆ db.rules.ids := by
  induction deletions generalizing db with
  | nil => exact fun id member => member
  | cons deletion deletions ih =>
    intro id member
    have next : id ∈ (db.delete deletion).rules.ids := ih (db.delete deletion) member
    cases deletion with
    | rule faults rule => exact deleteAlertRule_ids faults rule db.rules next
    | node node => exact next

theorem Settled.leaveRules (settled : db.Settled rows) (rules : AlertRules F) :
    (db.leaveRules rules).Settled
      (rows.map fun row => row.forget (db.rules.ids.filter (· ∉ rules.ids))) := by
  unfold Settled EventsDatabase.leaveRules
  rw [settled]
  rfl

/-- Deletions turn the `rule_id` of the events of deleted rules into `NULL` and change no event else. -/
theorem Settled.deleteAll (settled : db.Settled rows) (deletions : List Deletion) :
    (db.deleteAll deletions).Settled (rows.map fun row => row.forget (db.gone deletions)) := by
  induction deletions generalizing db rows with
  | nil =>
    have none_gone : db.gone [] = [] := by
      unfold gone
      rw [List.filter_eq_nil_iff]
      intro id member
      rw [decide_eq_true_eq]
      exact fun left => left member
    have unchanged : rows.map (fun row => row.forget (db.gone [])) = rows := by
      simp [none_gone, EventRow.forget_nil]
    rw [unchanged]
    exact settled
  | cons deletion deletions ih =>
    have run : db.deleteAll (deletion :: deletions) = (db.delete deletion).deleteAll deletions := rfl
    cases deletion with
    | node node =>
      have next : (db.delete (.node node)).Settled rows := settled
      exact ih next
    | rule faults rule =>
      have left := deleteAlertRule_ids faults rule db.rules
      have later := ids_deleteAll (db.delete (.rule faults rule)) deletions
      have rest := ih (settled.leaveRules (deleteAlertRule faults rule db.rules).2)
      have merged (row : EventRow F) :
          (row.forget (db.rules.ids.filter (· ∉ (deleteAlertRule faults rule db.rules).2.ids))).forget
              ((db.delete (.rule faults rule)).gone deletions) =
            row.forget (db.gone (.rule faults rule :: deletions)) := by
        rw [EventRow.forget_forget]
        apply EventRow.forget_congr
        intro id
        simp only [gone, run, List.mem_append, List.mem_filter, decide_eq_true_eq]
        have here : id ∈ (db.delete (.rule faults rule)).rules.ids ↔
            id ∈ (deleteAlertRule faults rule db.rules).2.ids := Iff.rfl
        have first := @left id
        have second := @later id
        tauto
      rw [List.map_map] at rest
      rw [← funext merged, run]
      exact rest

end EventsDatabase

/-! ## What the migration keeps -/

/-- What one migration of a legacy database must do, whatever fails on the way. -/
structure MigrationLaw (faults : MigrationFaults) (legacy : LegacyEvents F) : Prop where
  /-- The rows stay, with all their columns. -/
  kept : (migrateAlertEventsDropCascade faults legacy.database).2.eventRows = legacy.rows
  /-- An attempt that fails changes nothing. -/
  failed : (migrateAlertEventsDropCascade faults legacy.database).1 ≠ none →
    (migrateAlertEventsDropCascade faults legacy.database).2 = legacy.database
  /-- A later run changes nothing, whatever was deleted in between. -/
  again : (migrateAlertEventsDropCascade faults legacy.database).1 = none →
    ∀ deletions later,
      let db := (migrateAlertEventsDropCascade faults legacy.database).2.deleteAll deletions
      migrateAlertEventsDropCascade later db = (none, db)
  /-- Deletions turn the `rule_id` of the events of deleted rules into `NULL`, and that is all. -/
  retained : (migrateAlertEventsDropCascade faults legacy.database).1 = none →
    ∀ deletions,
      let migrated := (migrateAlertEventsDropCascade faults legacy.database).2
      (migrated.deleteAll deletions).eventRows =
        legacy.rows.map fun row => row.forget (migrated.gone deletions)
  /-- Nothing fails where the calls succeed and every event has its rule. -/
  succeeds : faults.query = none → faults.start = none → (∀ turn, faults.exec turn = none) →
    faults.commit = none → legacy.Resolves →
      (migrateAlertEventsDropCascade faults legacy.database).1 = none

theorem LegacyEvents.eventRows_database (legacy : LegacyEvents F) :
    legacy.database.eventRows = legacy.rows := rfl

theorem LegacyEvents.migrated_settled (legacy : LegacyEvents F) (indexes : List (String × String)) :
    (legacy.migrated indexes).Settled legacy.rows := rfl

/-- A migration whose query succeeds fails and changes nothing, or leaves the table settled. -/
theorem migrate_outcome (faults : MigrationFaults) (legacy : LegacyEvents F) (read : faults.query = none) :
    (∃ cause, migrateAlertEventsDropCascade faults legacy.database = (some cause, legacy.database)) ∨
      ∃ indexes, migrateAlertEventsDropCascade faults legacy.database = (none, legacy.migrated indexes) := by
  have query : queryDefinition faults legacy.database =
      (none, some (legacyDefinition (F := F)).sql) := by
    simp [queryDefinition, read, LegacyEvents.database]
  unfold migrateAlertEventsDropCascade
  rw [query]
  simp only [reduceCtorEq, or_self, if_false, Option.getD_some, legacy_cascades, not_true_eq_false]
  cases faults.start with
  | some cause => exact .inl ⟨_, rfl⟩
  | none =>
    cases ran : execAll faults.exec 0 migrationStatements legacy.database with
    | error cause => exact .inl ⟨_, rfl⟩
    | ok changed =>
      cases faults.commit with
      | some cause => exact .inl ⟨_, rfl⟩
      | none =>
        obtain ⟨indexes, run⟩ := execAll_migration legacy
        rw [execAll_ok ran] at run
        split at run
        · cases run
          exact .inr ⟨indexes, rfl⟩
        · cases run

/-- A failing query is taken for a table that needs no migration. -/
theorem migrate_unread {faults : MigrationFaults} {cause : GoError} (unread : faults.query = some cause)
    (db : EventsDatabase F) : migrateAlertEventsDropCascade faults db = (none, db) := by
  simp [migrateAlertEventsDropCascade, queryDefinition, unread]

/-- Where nothing fails and every event has its rule, the migration returns no error. -/
theorem migrate_succeeds (faults : MigrationFaults) (legacy : LegacyEvents F) (read : faults.query = none)
    (started : faults.start = none) (ran : ∀ turn, faults.exec turn = none) (committed : faults.commit = none)
    (resolves : legacy.Resolves) : (migrateAlertEventsDropCascade faults legacy.database).1 = none := by
  have query : queryDefinition faults legacy.database =
      (none, some (legacyDefinition (F := F)).sql) := by
    simp [queryDefinition, read, LegacyEvents.database]
  have exec : faults.exec = fun _ => none := funext ran
  obtain ⟨indexes, run⟩ := execAll_migration legacy
  rw [if_pos resolves] at run
  simp [migrateAlertEventsDropCascade, query, legacy_cascades, started, exec, run, committed]

/-- The migration obeys its law exactly if the query of the definition does not fail. -/
theorem migration_law_iff (faults : MigrationFaults) (legacy : LegacyEvents F) :
    MigrationLaw faults legacy ↔ faults.query = none := by
  constructor
  · intro law
    cases unread : faults.query with
    | none => rfl
    | some cause =>
      -- The cascade is still there, so that a later run does migrate, or fails.
      have skipped := migrate_unread unread legacy.database
      have again := law.again (congrArg Prod.fst skipped) [] {}
      rw [skipped] at again
      have settled : migrateAlertEventsDropCascade {} legacy.database = (none, legacy.database) := again
      obtain ⟨cause, failed⟩ | ⟨indexes, migrated⟩ := migrate_outcome {} legacy rfl
      · cases failed.symm.trans settled
      · have same : legacy.migrated indexes = legacy.database :=
          congrArg Prod.snd (migrated.symm.trans settled)
        have events := congrArg EventsDatabase.events same
        simp [LegacyEvents.migrated, LegacyEvents.database, alertEventsDefinition, legacyDefinition]
          at events
  · intro read
    have succeeds := migrate_succeeds faults legacy read
    obtain ⟨cause, failed⟩ | ⟨indexes, migrated⟩ := migrate_outcome faults legacy read
    · constructor
      · rw [failed]
        rfl
      · intro _
        rw [failed]
      · intro succeeded
        rw [failed] at succeeded
        cases succeeded
      · intro succeeded
        rw [failed] at succeeded
        cases succeeded
      · intro _
        exact succeeds
    · have settled := legacy.migrated_settled indexes
      constructor
      · rw [migrated]
        exact settled.eventRows
      · intro unsuccessful
        rw [migrated] at unsuccessful
        exact absurd rfl unsuccessful
      · intro _ deletions later
        rw [migrated]
        exact (settled.deleteAll deletions).migrate later
      · intro _ deletions
        rw [migrated]
        exact (settled.deleteAll deletions).eventRows
      · intro _
        exact succeeds

/-- One rule and one event of it. -/
def lowBatteryLegacy : LegacyEvents Unit where
  rules := {
    rows := [{
      id := 1, kind := "low_battery", upsVar := "", threshold := none, webhookURL := "http://hook"
      debounceSeconds := 300, enabled := true, createdAt := "2026-01-01T00:00:00Z" }]
    lastID := 1 }
  rows := [fun
    | .id => some (.integer 1)
    | .ruleID => some (.integer 1)
    | .nodeID => some (.text "node-a")
    | .upsID => some (.text "")
    | .subjectKey => some (.text "node-a:ups-a")
    | .kind => some (.text "low_battery")
    | .message => some (.text "battery low")
    | .createdAt => some (.text "2026-01-01T00:01:00Z")
    | .delivered => some (.integer 0)
    | .deliveryError => some (.text "")]
  notNull := by
    intro row member column
    obtain rfl := List.mem_singleton.mp member
    cases column <;> rfl
  distinct := List.nodup_singleton _

/-- A query that fails hides the cascade: the migration reports success, and the deletion of the
    rule removes its event. -/
theorem unread_definition_loses_event :
    let faults : MigrationFaults := { query := some (.text "database is locked") }
    let opened := migrateAlertEventsDropCascade faults lowBatteryLegacy.database
    opened.1 = none ∧ opened.2.eventRows.length = 1 ∧
      (opened.2.deleteAll [.rule {} 1]).eventRows.length = 0 ∧
      ¬ MigrationLaw faults lowBatteryLegacy := by
  refine ⟨rfl, rfl, by decide, ?_⟩
  intro law
  have retained := congrArg List.length (law.retained rfl [.rule {} 1])
  rw [List.length_map] at retained
  exact absurd retained (by decide)

end Strom.Registry
