import Strom.Registry.AlertRules
import Strom.Registry.Samples

/-!
# The tables of alert events and their migration (`registry.go`, `schema.sql`)

`migrateAlertEventsDropCascade` over tables of arbitrary contents.  A table has the text of its
definition, which the migration looks into, and what the text says of the columns and of
`rule_id`: what the deletion of a rule does to the rows that refer to it.
-/

namespace Strom.Registry

open Strom.Go

/-! ## Tables -/

/-- A value that is not `NULL`; `F` is the type of a `REAL`. -/
inductive SQLValue (F : Type) where
  | integer (n : Int)
  | real (x : F)
  | text (s : String)
  | blob (bytes : List UInt8)
deriving DecidableEq, Repr

def SQLValue.integer? {F : Type} : SQLValue F → Option Int
  | .integer n => some n
  | _ => none

inductive EventColumn where
  | id
  | ruleID
  | nodeID
  | upsID
  | subjectKey
  | kind
  | message
  | createdAt
  | delivered
  | deliveryError
deriving DecidableEq, Repr

/-- The columns in the order in which the statements of the migration name them. -/
def EventColumn.all : List EventColumn :=
  [.id, .ruleID, .nodeID, .upsID, .subjectKey, .kind, .message, .createdAt, .delivered, .deliveryError]

/-- A row by its columns, `none` where the column is `NULL`. -/
abbrev EventRow (F : Type) := EventColumn → Option (SQLValue F)

/-- The `ON DELETE` clause of the foreign key `rule_id`. -/
inductive OnDelete where
  | cascade
  | setNull
deriving DecidableEq, Repr

structure Definition (F : Type) where
  /-- The text in `sqlite_master`. -/
  sql : String
  notNull : List EventColumn
  default : EventColumn → Option (SQLValue F)
  onDelete : OnDelete

structure EventTable (F : Type) where
  definition : Definition F
  rows : List (EventRow F)

/-- The tables of the controller. -/
structure EventsDatabase (F : Type) where
  inventory : Tables := {}
  rules : AlertRules F := {}
  /-- The tables with the columns of alert events, by name. -/
  events : List (String × EventTable F) := []
  /-- The indexes by name, with the table of each. -/
  indexes : List (String × String) := []

variable {F : Type}

namespace EventRow

def eventID (row : EventRow F) : Option Int := (row .id).bind SQLValue.integer?

def rule (row : EventRow F) : Option Int := (row .ruleID).bind SQLValue.integer?

/-- The row refers to one of the rules. -/
def RefersTo (row : EventRow F) (rules : List Int) : Prop := ∃ id ∈ rules, row.rule = some id

instance (row : EventRow F) (rules : List Int) : Decidable (row.RefersTo rules) :=
  inferInstanceAs (Decidable (∃ id ∈ rules, row.rule = some id))

/-- `rule_id` is `NULL` or the id of a rule. -/
def Resolves (row : EventRow F) (rules : List Int) : Prop := row .ruleID = none ∨ row.RefersTo rules

instance (row : EventRow F) (rules : List Int) : Decidable (row.Resolves rules) :=
  decidable_of_iff ((row .ruleID).isNone = true ∨ row.RefersTo rules) (by simp [Resolves])

/-- The row with `rule_id` at `NULL` where it refers to one of the rules. -/
def forget (row : EventRow F) (rules : List Int) : EventRow F :=
  if row.RefersTo rules then Function.update row .ruleID none else row

end EventRow

def AlertRules.ids (rules : AlertRules F) : List Int := rules.rows.map (·.id)

/-! ## The definitions of `alert_events` -/

def eventDefault : EventColumn → Option (SQLValue F)
  | .upsID => some (.text "")
  | .delivered => some (.integer 0)
  | .deliveryError => some (.text "")
  | _ => none

/-- The definition before `ON DELETE SET NULL`. -/
def legacyDefinition : Definition F where
  sql := "CREATE TABLE alert_events (
  id INTEGER PRIMARY KEY AUTOINCREMENT,
  rule_id INTEGER NOT NULL,
  node_id TEXT NOT NULL,
  ups_id TEXT NOT NULL DEFAULT '',
  subject_key TEXT NOT NULL,
  kind TEXT NOT NULL,
  message TEXT NOT NULL,
  created_at TEXT NOT NULL,
  delivered INTEGER NOT NULL DEFAULT 0,
  delivery_error TEXT NOT NULL DEFAULT '',
  FOREIGN KEY(rule_id) REFERENCES alert_rules(id) ON DELETE CASCADE
)"
  notNull := EventColumn.all
  default := eventDefault
  onDelete := .cascade

/-- The definition that the migration creates the table with.  A primary key is never `NULL`. -/
def alertEventsDefinition : Definition F where
  sql := "CREATE TABLE alert_events (
			id INTEGER PRIMARY KEY AUTOINCREMENT,
			rule_id INTEGER,
			node_id TEXT NOT NULL,
			ups_id TEXT NOT NULL DEFAULT '',
			subject_key TEXT NOT NULL,
			kind TEXT NOT NULL,
			message TEXT NOT NULL,
			created_at TEXT NOT NULL,
			delivered INTEGER NOT NULL DEFAULT 0,
			delivery_error TEXT NOT NULL DEFAULT '',
			FOREIGN KEY(rule_id) REFERENCES alert_rules(id) ON DELETE SET NULL
		)"
  notNull := EventColumn.all.filter (· ≠ .ruleID)
  default := eventDefault
  onDelete := .setNull

/-! ## Statements -/

inductive MigrationStatement (F : Type) where
  /-- `ALTER TABLE .. RENAME TO ..`. -/
  | rename (table name : String)
  | create (table : String) (definition : Definition F)
  /-- `INSERT INTO table (columns) SELECT selected FROM source`. -/
  | insertSelect (table : String) (columns selected : List EventColumn) (source : String)
  | drop (table : String)
  /-- `CREATE INDEX IF NOT EXISTS`. -/
  | createIndex (name table : String)

/-- The row that an `INSERT` of the columns stores. -/
def Definition.insert (definition : Definition F) (columns : List EventColumn)
    (values : List (Option (SQLValue F))) : EventRow F :=
  fun column => ((columns.zip values).lookup column).getD (definition.default column)

/-- The constraints of a table on its rows. -/
structure EventTable.Holds (table : EventTable F) (rules : List Int) : Prop where
  notNull : ∀ row ∈ table.rows, ∀ column ∈ table.definition.notNull, (row column).isSome = true
  distinct : (table.rows.map EventRow.eventID).Nodup
  resolves : ∀ row ∈ table.rows, row.Resolves rules

instance (table : EventTable F) (rules : List Int) : Decidable (table.Holds rules) :=
  decidable_of_iff
    ((∀ row ∈ table.rows, ∀ column ∈ table.definition.notNull, (row column).isSome = true) ∧
      (table.rows.map EventRow.eventID).Nodup ∧ ∀ row ∈ table.rows, row.Resolves rules)
    ⟨fun ⟨notNull, distinct, resolves⟩ => ⟨notNull, distinct, resolves⟩,
      fun ⟨notNull, distinct, resolves⟩ => ⟨notNull, distinct, resolves⟩⟩

def constraintError : GoError := .text "constraint failed"

def noSuchTable (table : String) : GoError := .text ("no such table: " ++ table)

def tableExists (table : String) : GoError := .text ("table " ++ table ++ " already exists")

namespace EventsDatabase

def setTable (db : EventsDatabase F) (name : String) (table : EventTable F) : EventsDatabase F :=
  { db with events := db.events.map fun entry => if entry.1 = name then (name, table) else entry }

end EventsDatabase

namespace MigrationStatement

/-- A statement changes the whole database or, where it fails, nothing. -/
def run : MigrationStatement F → EventsDatabase F → Except GoError (EventsDatabase F)
  | .rename table name, db =>
    match db.events.lookup table, db.events.lookup name with
    | none, _ => .error (noSuchTable table)
    | some _, some _ => .error (tableExists name)
    | some _, none => .ok { db with
        events := db.events.map fun entry => if entry.1 = table then (name, entry.2) else entry
        indexes := db.indexes.map fun index => if index.2 = table then (index.1, name) else index }
  | .create table definition, db =>
    match db.events.lookup table with
    | some _ => .error (tableExists table)
    | none => .ok { db with events := db.events ++ [(table, { definition, rows := [] })] }
  | .insertSelect table columns selected source, db =>
    match db.events.lookup table, db.events.lookup source with
    | none, _ => .error (noSuchTable table)
    | some _, none => .error (noSuchTable source)
    | some target, some old =>
      let added := old.rows.map fun row => target.definition.insert columns (selected.map row)
      let filled : EventTable F := { target with rows := target.rows ++ added }
      if filled.Holds db.rules.ids then .ok (db.setTable table filled) else .error constraintError
  | .drop table, db =>
    -- No other table refers to one of these, so their rows go without further ado.
    match db.events.lookup table with
    | none => .error (noSuchTable table)
    | some _ => .ok { db with
        events := db.events.filter fun entry => entry.1 ≠ table
        indexes := db.indexes.filter fun index => index.2 ≠ table }
  | .createIndex name table, db =>
    match db.indexes.lookup name, db.events.lookup table with
    | some _, _ => .ok db
    | none, none => .error (noSuchTable table)
    | none, some _ => .ok { db with indexes := db.indexes ++ [(name, table)] }

end MigrationStatement

/-! ## The migration -/

/-- What the database makes of the calls of one migration. -/
structure MigrationFaults where
  /-- The query of `sqlite_master`. -/
  query : Option GoError := none
  start : Option GoError := none
  /-- The statements, in their order. -/
  exec : Nat → Option GoError := fun _ => none
  commit : Option GoError := none

def errNoRows : GoError := .text "sql: no rows in result set"

/-- `SELECT sql FROM sqlite_master`, scanned into a string that may be null. -/
def queryDefinition (faults : MigrationFaults) (db : EventsDatabase F) : Option GoError × Option String :=
  match faults.query, db.events.lookup "alert_events" with
  | some cause, _ => (some cause, none)
  | none, none => (some errNoRows, none)
  | none, some table => (none, some table.definition.sql)

def migrationStatements : List (MigrationStatement F) := [
  .rename "alert_events" "alert_events_old",
  .create "alert_events" alertEventsDefinition,
  .insertSelect "alert_events"
    [.id, .ruleID, .nodeID, .upsID, .subjectKey, .kind, .message, .createdAt, .delivered, .deliveryError]
    [.id, .ruleID, .nodeID, .upsID, .subjectKey, .kind, .message, .createdAt, .delivered, .deliveryError]
    "alert_events_old",
  .drop "alert_events_old",
  .createIndex "idx_alert_events_rule_subject_time" "alert_events"]

/-- The statements in turn up to the first that fails; `turn` counts them. -/
def execAll (faults : Nat → Option GoError) :
    Nat → List (MigrationStatement F) → EventsDatabase F → Except GoError (EventsDatabase F)
  | _, [], db => .ok db
  | turn, statement :: statements, db =>
    match faults turn, statement.run db with
    | some cause, _ => .error cause
    | none, .error cause => .error cause
    | none, .ok next => execAll faults (turn + 1) statements next

/-- `migrateAlertEventsDropCascade`: the error it returns, and the database it leaves.  What a
    transaction did is undone where it is not committed. -/
def migrateAlertEventsDropCascade (faults : MigrationFaults) (db : EventsDatabase F) :
    Option GoError × EventsDatabase F :=
  let (err, tableSQL) := queryDefinition faults db
  if err = some errNoRows ∨ tableSQL = none then (none, db)
  else
    match err with
    | some cause => (some (.wrap "read alert_events table definition" cause), db)
    | none =>
      if ¬ contains (tableSQL.getD "") "ON DELETE CASCADE" then (none, db)
      else
        match faults.start with
        | some cause => (some (.wrap "begin alert_events migration" cause), db)
        | none =>
          match execAll faults.exec 0 migrationStatements db with
          | .error cause => (some (.wrap "migrate alert_events" cause), db)
          | .ok changed =>
            match faults.commit with
            | some cause => (some cause, db)
            | none => (none, changed)

/-! ## Deletions -/

inductive Deletion where
  /-- `DeleteAlertRule`. -/
  | rule (faults : Faults) (id : Int)
  /-- `DeleteNode`. -/
  | node (id : String)
deriving DecidableEq, Repr

/-- What the deletion of the rules does to the rows of a table. -/
def EventTable.withoutRules (table : EventTable F) (gone : List Int) : EventTable F :=
  match table.definition.onDelete with
  | .cascade => { table with rows := table.rows.filter fun row => ¬ row.RefersTo gone }
  | .setNull => { table with rows := table.rows.map fun row => row.forget gone }

namespace EventsDatabase

/-- The database with the rules left, the others deleted. -/
def leaveRules (db : EventsDatabase F) (rules : AlertRules F) : EventsDatabase F :=
  { db with
    rules
    events := db.events.map fun entry =>
      (entry.1, entry.2.withoutRules (db.rules.ids.filter (· ∉ rules.ids))) }

/-- The database after a deletion, whatever the call returns. -/
def delete (db : EventsDatabase F) : Deletion → EventsDatabase F
  | .rule faults id => db.leaveRules (deleteAlertRule faults id db.rules).2
  | .node id => { db with inventory := db.inventory.deleteNode id }

def deleteAll (db : EventsDatabase F) (deletions : List Deletion) : EventsDatabase F :=
  deletions.foldl delete db

/-- The rows of `alert_events`. -/
def eventRows (db : EventsDatabase F) : List (EventRow F) :=
  ((db.events.lookup "alert_events").map (·.rows)).getD []

end EventsDatabase

end Strom.Registry
