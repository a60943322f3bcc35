import Strom.Go.Errors
import Strom.Go.Time

/-!
# The tables of alert rules and alert events (`registry.go`)

The rows of `alert_events` and the statements on them.  A time is stored as its RFC 3339
text, and `LastAlertEvent` takes the row whose text is the greatest.
-/

namespace Strom.Registry

open Strom.Go

/-- A rule; `F` is the type of a Go `float64`. -/
structure AlertRule (F : Type) where
  id : Int
  kind : String
  upsVar : String := ""
  threshold : Option F := none
  webhookURL : String
  debounceSeconds : Int
  enabled : Bool
  createdAt : Time
deriving DecidableEq, Repr

structure AlertEvent where
  id : Int := 0
  ruleID : Int
  nodeID : String
  upsID : String := ""
  subjectKey : String
  kind : String
  message : String
  createdAt : Time
  delivered : Bool := false
  deliveryError : String := ""
deriving DecidableEq, Repr

structure AlertEventRow where
  id : Int
  /-- Null once the rule is deleted. -/
  ruleID : Option Int
  nodeID : String
  upsID : String
  subjectKey : String
  kind : String
  message : String
  createdAt : String
  delivered : Bool
  deliveryError : String
deriving DecidableEq, Repr

/-- The table with the last id that `AUTOINCREMENT` gave out. -/
structure AlertEvents where
  rows : List AlertEventRow := []
  lastID : Int := 0
deriving DecidableEq, Repr

/-- The row that `InsertAlertEvent` stores at the clock reading `now`, which it takes for an
    event without a time. -/
def AlertEvent.row (event : AlertEvent) (now : Time) (id : Int) : AlertEventRow where
  id := id
  ruleID := some event.ruleID
  nodeID := trimSpace event.nodeID
  upsID := trimSpace event.upsID
  subjectKey := trimSpace event.subjectKey
  kind := trimSpace event.kind
  message := trimSpace event.message
  createdAt := formatRFC3339 (if event.createdAt.isZero then now else event.createdAt)
  delivered := event.delivered
  deliveryError := trimSpace event.deliveryError

/-- `InsertAlertEvent`. -/
def insertAlertEvent (event : AlertEvent) (now : Time) (table : AlertEvents) : AlertEvents where
  rows := table.rows ++ [event.row now (table.lastID + 1)]
  lastID := table.lastID + 1

/-- `scanAlertEvent`. -/
def scanAlertEvent (row : AlertEventRow) : Except GoError AlertEvent :=
  match parseRFC3339 row.createdAt with
  | some createdAt => .ok {
      id := row.id
      ruleID := row.ruleID.getD 0
      nodeID := row.nodeID
      upsID := row.upsID
      subjectKey := row.subjectKey
      kind := row.kind
      message := row.message
      createdAt
      delivered := row.delivered
      deliveryError := row.deliveryError }
  | none => .error (.wrap "parse alert event created_at" (.text row.createdAt))

/-- The order of `ORDER BY created_at, id`. -/
def AlertEventRow.Older (row other : AlertEventRow) : Prop :=
  row.createdAt < other.createdAt ∨ row.createdAt = other.createdAt ∧ row.id < other.id

instance (row other : AlertEventRow) : Decidable (row.Older other) :=
  inferInstanceAs (Decidable (_ ∨ _))

/-- `ORDER BY created_at DESC, id DESC LIMIT 1`. -/
def newest : List AlertEventRow → Option AlertEventRow
  | [] => none
  | row :: rows =>
    match newest rows with
    | none => some row
    | some best => some (if row.Older best then best else row)

/-- Whether a row is one of those that the lookup of a rule and a subject selects. -/
def AlertEventRow.IsFor (row : AlertEventRow) (ruleID : Int) (subjectKey : String) : Prop :=
  row.ruleID = some ruleID ∧ row.subjectKey = subjectKey

instance (row : AlertEventRow) (ruleID : Int) (subjectKey : String) :
    Decidable (row.IsFor ruleID subjectKey) := inferInstanceAs (Decidable (_ ∧ _))

/-- `LastAlertEvent`. -/
def lastAlertEvent (ruleID : Int) (subjectKey : String) (table : AlertEvents) :
    Except GoError (Option AlertEvent) :=
  match newest (table.rows.filter fun row => row.IsFor ruleID (trimSpace subjectKey)) with
  | none => .ok none
  | some row => (scanAlertEvent row).map some

/-- `DeleteAlertRule` as far as the events go: `ON DELETE SET NULL`. -/
def forgetRule (ruleID : Int) (table : AlertEvents) : AlertEvents :=
  { table with rows := table.rows.map fun row =>
      if row.ruleID = some ruleID then { row with ruleID := none } else row }

/-! ## The newest row -/

theorem newest_eq_none {rows : List AlertEventRow} : newest rows = none ↔ rows = [] := by
  cases rows with
  | nil => simp [newest]
  | cons row rows =>
    simp only [newest]
    split <;> simp

theorem newest_mem {rows : List AlertEventRow} {best : AlertEventRow} (found : newest rows = some best) :
    best ∈ rows := by
  induction rows generalizing best with
  | nil => simp [newest] at found
  | cons row rows ih =>
    simp only [newest] at found
    split at found
    · simp_all
    · next later here =>
      have member := ih here
      split at found <;> simp_all

/-- No row has a later text than the newest one. -/
theorem createdAt_le_newest {rows : List AlertEventRow} {best : AlertEventRow}
    (found : newest rows = some best) : ∀ row ∈ rows, row.createdAt ≤ best.createdAt := by
  induction rows generalizing best with
  | nil => simp
  | cons first rows ih =>
    simp only [newest] at found
    intro row member
    cases rest : newest rows with
    | none =>
      obtain rfl := newest_eq_none.mp rest
      obtain rfl : row = first := by simpa using member
      obtain rfl : row = best := by simpa [newest] using found
      exact String.le_refl _
    | some later =>
      simp only [rest, Option.some.injEq] at found
      have latest := ih rest
      by_cases older : first.Older later
      · obtain rfl : later = best := by simpa [older] using found
        cases member with
        | head =>
          apply String.not_lt.mp
          intro after
          cases older with
          | inl before => exact String.lt_asymm before after
          | inr tied => exact String.lt_irrefl _ (tied.1 ▸ after)
        | tail _ member => exact latest row member
      · obtain rfl : first = best := by simpa [older] using found
        -- the newest of the rest is not after `first`, and so no row of the rest is
        have order : later.createdAt ≤ first.createdAt := by
          apply String.not_lt.mp
          intro before
          exact older (.inl before)
        cases member with
        | head => exact String.le_refl _
        | tail _ member => exact String.le_trans (latest row member) order

theorem createdAt_of_scanned {row : AlertEventRow} {event : AlertEvent}
    (scanned : scanAlertEvent row = .ok event) : parseRFC3339 row.createdAt = some event.createdAt := by
  unfold scanAlertEvent at scanned
  split at scanned
  · next createdAt parsed =>
    cases scanned
    exact parsed
  · cases scanned

/-- The lookup answers with a row that no row of the rule and the subject is newer than. -/
theorem latest_of_lookup {ruleID : Int} {subjectKey : String} {table : AlertEvents}
    {last : Option AlertEvent} (found : lastAlertEvent ruleID subjectKey table = .ok last)
    {row : AlertEventRow} (member : row ∈ table.rows) (isFor : row.IsFor ruleID (trimSpace subjectKey)) :
    ∃ best ∈ table.rows, ∃ event, last = some event ∧ row.createdAt ≤ best.createdAt ∧
      parseRFC3339 best.createdAt = some event.createdAt := by
  have selected : row ∈ table.rows.filter fun row => row.IsFor ruleID (trimSpace subjectKey) := by
    simpa using ⟨member, isFor⟩
  unfold lastAlertEvent at found
  split at found
  · next none =>
    rw [newest_eq_none.mp none] at selected
    cases selected
  · next best here =>
    cases scanned : scanAlertEvent best with
    | error cause =>
      rw [scanned] at found
      cases found
    | ok event =>
      rw [scanned] at found
      cases found
      exact ⟨best, List.mem_of_mem_filter (newest_mem here), event, rfl,
        createdAt_le_newest here row selected, createdAt_of_scanned scanned⟩

end Strom.Registry
