import Strom.Effects.Run
import Strom.Registry.Alerts

/-!
# The table of alert rules and its requests (`registry.go`, `main.go`)

`CreateAlertRule` checks what it stores and `UpdateAlertRule` writes a patch into the stored
row as it comes.  `rules_sound_iff` says for which sequences of requests every rule stored on
the way has a kind, a webhook URL and a positive debounce.
-/

namespace Strom.Registry

open Strom.Go Strom.Effects

variable {F : Type}

/-- A row of `alert_rules`. -/
structure AlertRuleRow (F : Type) where
  id : Int
  kind : String
  upsVar : String
  threshold : Option F
  webhookURL : String
  debounceSeconds : Int
  enabled : Bool
  createdAt : String
deriving DecidableEq, Repr

/-- The table with the last id that `AUTOINCREMENT` gave out. -/
structure AlertRules (F : Type) where
  rows : List (AlertRuleRow F) := []
  lastID : Int := 0
deriving DecidableEq, Repr

structure AlertRulePatch (F : Type) where
  kind : Option String := none
  upsVar : Option String := none
  threshold : Option F := none
  thresholdSet : Bool := false
  webhookURL : Option String := none
  debounceSeconds : Option Int := none
  enabled : Option Bool := none
deriving DecidableEq, Repr

/-- What the database makes of the statements of one request. -/
structure Faults where
  /-- `ExecContext`: a statement that fails changes nothing. -/
  exec : Option GoError := none
  /-- `LastInsertId` and `RowsAffected`. -/
  outcome : Option GoError := none
  /-- The row that is read back. -/
  read : Option GoError := none
deriving DecidableEq, Repr

def errAlertRuleNotFound : GoError := .text "alert rule not found"

/-- `scanAlertRule`. -/
def scanAlertRule (row : AlertRuleRow F) : Except GoError (AlertRule F) :=
  match parseRFC3339 row.createdAt with
  | some createdAt => .ok {
      id := row.id
      kind := row.kind
      upsVar := row.upsVar
      threshold := row.threshold
      webhookURL := row.webhookURL
      debounceSeconds := row.debounceSeconds
      enabled := row.enabled
      createdAt }
  | none => .error (.wrap "parse alert rule created_at" (.text row.createdAt))

/-- `GetAlertRule`. -/
def getAlertRule (faults : Faults) (id : Int) (table : AlertRules F) : Except GoError (AlertRule F) :=
  match faults.read, table.rows.find? (·.id = id) with
  | some cause, _ => .error cause
  | none, none => .error errAlertRuleNotFound
  | none, some row => scanAlertRule row

/-- The row that `CreateAlertRule` inserts at the clock reading `now`, which it takes for a rule
    without a time. -/
def AlertRule.row (rule : AlertRule F) (now : Time) (id : Int) : AlertRuleRow F where
  id := id
  kind := trimSpace rule.kind
  upsVar := trimSpace rule.upsVar
  threshold := rule.threshold
  webhookURL := trimSpace rule.webhookURL
  debounceSeconds := if rule.debounceSeconds ≤ 0 then 300 else rule.debounceSeconds
  enabled := rule.enabled
  createdAt := formatRFC3339 (if rule.createdAt.isZero then now else rule.createdAt)

/-- `CreateAlertRule`. -/
def createAlertRule (faults : Faults) (now : Time) (rule : AlertRule F) (table : AlertRules F) :
    Except GoError (AlertRule F) × AlertRules F :=
  if trimSpace rule.kind = "" then (.error (.text "alert rule kind is required"), table)
  else if trimSpace rule.webhookURL = "" then
    (.error (.text "alert rule webhook_url is required"), table)
  else
    match faults.exec with
    | some cause => (.error (.wrap "create alert rule" cause), table)
    | none =>
      let ruleID := table.lastID + 1
      let stored : AlertRules F := { rows := table.rows ++ [rule.row now ruleID], lastID := ruleID }
      match faults.outcome with
      | some cause => (.error (.wrap "read alert rule id" cause), stored)
      | none => (getAlertRule faults ruleID stored, stored)

/-- The assignments of `UpdateAlertRule`, carried out on a row. -/
def AlertRulePatch.write (patch : AlertRulePatch F) (row : AlertRuleRow F) : AlertRuleRow F where
  id := row.id
  kind := (patch.kind.map trimSpace).getD row.kind
  upsVar := (patch.upsVar.map trimSpace).getD row.upsVar
  threshold := if patch.thresholdSet then patch.threshold else row.threshold
  webhookURL := (patch.webhookURL.map trimSpace).getD row.webhookURL
  debounceSeconds := patch.debounceSeconds.getD row.debounceSeconds
  enabled := patch.enabled.getD row.enabled
  createdAt := row.createdAt

/-- Whether the patch assigns no column. -/
def AlertRulePatch.IsEmpty (patch : AlertRulePatch F) : Prop :=
  patch.kind = none ∧ patch.upsVar = none ∧ patch.thresholdSet = false ∧
    patch.webhookURL = none ∧ patch.debounceSeconds = none ∧ patch.enabled = none

instance (patch : AlertRulePatch F) : Decidable patch.IsEmpty := inferInstanceAs (Decidable (_ ∧ _))

/-- `UPDATE alert_rules SET … WHERE id = ?`. -/
def AlertRules.rewrite (table : AlertRules F) (id : Int) (patch : AlertRulePatch F) : AlertRules F :=
  { table with rows := table.rows.map fun row => if row.id = id then patch.write row else row }

/-- `UpdateAlertRule`. -/
def updateAlertRule (faults : Faults) (id : Int) (patch : AlertRulePatch F) (table : AlertRules F) :
    Except GoError (AlertRule F) × AlertRules F :=
  if patch.IsEmpty then (.error (.text "alert rule patch is empty"), table)
  else
    match faults.exec with
    | some cause => (.error (.wrap s!"update alert rule {id}" cause), table)
    | none =>
      let written := table.rewrite id patch
      match faults.outcome with
      | some cause => (.error (.wrap "read alert rule update count" cause), written)
      | none =>
        if table.rows.all (·.id ≠ id) then (.error errAlertRuleNotFound, written)
        else (getAlertRule faults id written, written)

/-- `DeleteAlertRule`, as far as the rules go. -/
def deleteAlertRule (faults : Faults) (id : Int) (table : AlertRules F) :
    Except GoError Unit × AlertRules F :=
  match faults.exec with
  | some cause => (.error (.wrap s!"delete alert rule {id}" cause), table)
  | none =>
    let remaining := { table with rows := table.rows.filter (·.id ≠ id) }
    match faults.outcome with
    | some cause => (.error (.wrap "read alert rule delete count" cause), remaining)
    | none =>
      if table.rows.all (·.id ≠ id) then (.error errAlertRuleNotFound, remaining)
      else (.ok (), remaining)

/-! ## The requests (`handleAlertRules`) -/

structure CreateAlertRuleRequest (F : Type) where
  kind : String := ""
  upsVar : String := ""
  threshold : Option F := none
  webhookURL : String := ""
  debounceSeconds : Int := 0
  enabled : Option Bool := none
deriving DecidableEq, Repr

structure UpdateAlertRuleRequest (F : Type) where
  kind : Option String := none
  upsVar : Option String := none
  threshold : Option F := none
  webhookURL : Option String := none
  debounceSeconds : Option Int := none
  enabled : Option Bool := none
deriving DecidableEq, Repr

/-- A request with a body that could be decoded, at an id where the path has one. -/
inductive AlertRuleRequest (F : Type) where
  | create (request : CreateAlertRuleRequest F)
  | update (id : Int) (request : UpdateAlertRuleRequest F)
  | delete (id : Int)
deriving DecidableEq, Repr

def CreateAlertRuleRequest.rule (request : CreateAlertRuleRequest F) : AlertRule F where
  id := 0
  kind := request.kind
  upsVar := request.upsVar
  threshold := request.threshold
  webhookURL := request.webhookURL
  debounceSeconds := request.debounceSeconds
  enabled := request.enabled.getD true
  createdAt := Time.zero

def UpdateAlertRuleRequest.patch (request : UpdateAlertRuleRequest F) : AlertRulePatch F where
  kind := request.kind
  upsVar := request.upsVar
  threshold := request.threshold
  thresholdSet := request.threshold.isSome
  webhookURL := request.webhookURL
  debounceSeconds := request.debounceSeconds
  enabled := request.enabled

/-- The status of an answer and its body: a message, a rule, or nothing. -/
structure AlertRuleAnswer (F : Type) where
  status : Nat
  body : Except String (Option (AlertRule F))

/-- The status for an error, where the other errors of the method have `status`. -/
def alertRuleStatus (status : Nat) (cause : GoError) : Nat :=
  if cause = errAlertRuleNotFound then 404 else status

def invalidAlertRuleID : AlertRuleAnswer F := ⟨400, .error "invalid alert rule id"⟩

/-- `handleAlertRules`, for the methods that change the table. -/
def handleAlertRules (faults : Faults) (now : Time) (request : AlertRuleRequest F) (table : AlertRules F) :
    AlertRuleAnswer F × AlertRules F :=
  match request with
  | .create request =>
    match createAlertRule faults now request.rule table with
    | (.ok rule, stored) => (⟨201, .ok (some rule)⟩, stored)
    | (.error cause, stored) => (⟨400, .error cause.message⟩, stored)
  | .update id request =>
    if id ≤ 0 then (invalidAlertRuleID, table)
    else
      match updateAlertRule faults id request.patch table with
      | (.ok rule, stored) => (⟨200, .ok (some rule)⟩, stored)
      | (.error cause, stored) => (⟨alertRuleStatus 400 cause, .error cause.message⟩, stored)
  | .delete id =>
    if id ≤ 0 then (invalidAlertRuleID, table)
    else
      match deleteAlertRule faults id table with
      | (.ok (), stored) => (⟨204, .ok none⟩, stored)
      | (.error cause, stored) => (⟨alertRuleStatus 500 cause, .error cause.message⟩, stored)

/-! ## The rules that are stored -/

/-- What `CreateAlertRule` asks of a rule. -/
structure AlertRuleRow.Sound (row : AlertRuleRow F) : Prop where
  kind : row.kind ≠ ""
  webhookURL : row.webhookURL ≠ ""
  debounce : 0 < row.debounceSeconds

def AlertRules.Sound (table : AlertRules F) : Prop := ∀ row ∈ table.rows, row.Sound

theorem sound_create {rule : AlertRule F} (kind : trimSpace rule.kind ≠ "")
    (webhookURL : trimSpace rule.webhookURL ≠ "") (now : Time) (id : Int) : (rule.row now id).Sound := by
  refine ⟨kind, webhookURL, ?_⟩
  show 0 < if rule.debounceSeconds ≤ 0 then 300 else rule.debounceSeconds
  split <;> omega

theorem sound_createAlertRule (faults : Faults) (now : Time) (rule : AlertRule F) {table : AlertRules F}
    (sound : table.Sound) : (createAlertRule faults now rule table).2.Sound := by
  unfold createAlertRule
  split
  · exact sound
  · next kind =>
    split
    · exact sound
    · next webhookURL =>
      have stored : ∀ row ∈ table.rows ++ [rule.row now (table.lastID + 1)], row.Sound := by
        intro row member
        cases List.mem_append.mp member with
        | inl old => exact sound row old
        | inr new =>
          obtain rfl := List.mem_singleton.mp new
          exact sound_create kind webhookURL now _
      cases faults.exec with
      | some cause => exact sound
      | none => cases faults.outcome <;> exact stored

theorem sound_deleteAlertRule (faults : Faults) (id : Int) {table : AlertRules F} (sound : table.Sound) :
    (deleteAlertRule faults id table).2.Sound := by
  have remaining : ∀ row ∈ table.rows.filter (·.id ≠ id), row.Sound :=
    fun row member => sound row (List.mem_of_mem_filter member)
  unfold deleteAlertRule
  cases faults.exec with
  | some cause => exact sound
  | none =>
    cases faults.outcome with
    | some cause => exact remaining
    | none =>
      dsimp only
      split <;> exact remaining

/-- The values that a patch writes are such as `CreateAlertRule` stores. -/
structure AlertRulePatch.Proper (patch : AlertRulePatch F) : Prop where
  kind : ∀ kind ∈ patch.kind, trimSpace kind ≠ ""
  webhookURL : ∀ webhookURL ∈ patch.webhookURL, trimSpace webhookURL ≠ ""
  debounce : ∀ debounceSeconds ∈ patch.debounceSeconds, 0 < debounceSeconds

theorem sound_write_iff {patch : AlertRulePatch F} {row : AlertRuleRow F} (sound : row.Sound) :
    (patch.write row).Sound ↔ patch.Proper := by
  obtain ⟨kind, webhookURL, debounce⟩ := sound
  constructor
  · rintro ⟨kind', webhookURL', debounce'⟩
    refine ⟨?_, ?_, ?_⟩
    · intro value given
      simpa [AlertRulePatch.write, Option.mem_def.mp given] using kind'
    · intro value given
      simpa [AlertRulePatch.write, Option.mem_def.mp given] using webhookURL'
    · intro value given
      simpa [AlertRulePatch.write, Option.mem_def.mp given] using debounce'
  · rintro ⟨kind', webhookURL', debounce'⟩
    refine ⟨?_, ?_, ?_⟩
    · cases given : patch.kind with
      | none => simpa [AlertRulePatch.write, given] using kind
      | some value => simpa [AlertRulePatch.write, given] using kind' value given
    · cases given : patch.webhookURL with
      | none => simpa [AlertRulePatch.write, given] using webhookURL
      | some value => simpa [AlertRulePatch.write, given] using webhookURL' value given
    · cases given : patch.debounceSeconds with
      | none => simpa [AlertRulePatch.write, given] using debounce
      | some value => simpa [AlertRulePatch.write, given] using debounce' value given

theorem proper_of_isEmpty {patch : AlertRulePatch F} (empty : patch.IsEmpty) : patch.Proper := by
  obtain ⟨kind, -, -, webhookURL, debounce, -⟩ := empty
  constructor <;> simp [kind, webhookURL, debounce]

/-- After the statement of a patch every rule is sound exactly if the patch is proper or no row
    has the id. -/
theorem sound_rewrite_iff {table : AlertRules F} (sound : table.Sound) (id : Int) (patch : AlertRulePatch F) :
    (table.rewrite id patch).Sound ↔ ((∃ row ∈ table.rows, row.id = id) → patch.Proper) := by
  constructor
  · rintro all ⟨row, member, rfl⟩
    apply (sound_write_iff (sound row member)).mp
    apply all
    exact List.mem_map.mpr ⟨row, member, if_pos rfl⟩
  · intro proper row' member'
    obtain ⟨row, member, rfl⟩ := List.mem_map.mp member'
    split
    · next same => exact (sound_write_iff (sound row member)).mpr (proper ⟨row, member, same⟩)
    · exact sound row member

theorem sound_updateAlertRule_iff (faults : Faults) (id : Int) (patch : AlertRulePatch F) {table : AlertRules F}
    (sound : table.Sound) : (updateAlertRule faults id patch table).2.Sound ↔
      (faults.exec = none → (∃ row ∈ table.rows, row.id = id) → patch.Proper) := by
  unfold updateAlertRule
  split
  · next empty => exact ⟨fun _ _ _ => proper_of_isEmpty empty, fun _ => sound⟩
  · cases faults.exec with
    | some cause => simpa using sound
    | none =>
      have written := sound_rewrite_iff sound id patch
      cases faults.outcome with
      | some cause => simpa using written
      | none =>
        dsimp only
        split <;> simpa using written

/-! ## Runs of requests -/

/-- A request, the time it comes at, and what the database makes of its statements. -/
structure AlertRuleCall (F : Type) where
  request : AlertRuleRequest F
  now : Time
  faults : Faults := {}
deriving DecidableEq, Repr

/-- The table after a request. -/
def AlertRules.after (table : AlertRules F) (call : AlertRuleCall F) : Option (AlertRules F) :=
  some (handleAlertRules call.faults call.now call.request table).2

/-- An update that reaches a stored rule gives it no blank kind, no blank webhook URL and no
    debounce of zero or less. -/
def AlertRules.Meets (table : AlertRules F) (call : AlertRuleCall F) : Prop :=
  match call.request with
  | .update id request =>
    0 < id → call.faults.exec = none → (∃ row ∈ table.rows, row.id = id) → request.patch.Proper
  | _ => True

theorem sound_after_iff {table : AlertRules F} (sound : table.Sound) (call : AlertRuleCall F) :
    ∃ stored, table.after call = some stored ∧ (stored.Sound ↔ table.Meets call) := by
  refine ⟨_, rfl, ?_⟩
  obtain ⟨request, now, faults⟩ := call
  cases request with
  | create request =>
    have stored := sound_createAlertRule faults now request.rule sound
    simp only [handleAlertRules, AlertRules.Meets]
    split <;> simp_all
  | update id request =>
    have written := sound_updateAlertRule_iff faults id request.patch sound
    simp only [handleAlertRules, AlertRules.Meets]
    split
    · next invalid =>
      constructor
      · intro _ positive
        omega
      · intro _
        exact sound
    · next valid =>
      have positive : 0 < id := by omega
      split <;> simp_all
  | delete id =>
    have remaining := sound_deleteAlertRule faults id sound
    simp only [handleAlertRules, AlertRules.Meets]
    split
    · simpa using sound
    · split <;> simp_all

/-- From an empty table every rule stored on the way is sound exactly if every update of a
    stored rule is proper. -/
theorem rules_sound_iff (calls : List (AlertRuleCall F)) :
    (∀ earlier, earlier <+: calls → ∀ table ∈ replay AlertRules.after {} earlier,
      ∀ row ∈ table.rows, row.kind ≠ "" ∧ row.webhookURL ≠ "" ∧ 0 < row.debounceSeconds) ↔
      Guarded AlertRules.after AlertRules.Meets ({} : AlertRules F) calls := by
  have empty : ({} : AlertRules F).Sound := by simp [AlertRules.Sound]
  rw [← forall_reached_iff (fun table call sound => sound_after_iff sound call) empty calls]
  have same : ∀ row : AlertRuleRow F, row.Sound ↔
      row.kind ≠ "" ∧ row.webhookURL ≠ "" ∧ 0 < row.debounceSeconds :=
    fun row => ⟨fun sound => ⟨sound.kind, sound.webhookURL, sound.debounce⟩,
      fun ⟨kind, webhookURL, debounce⟩ => ⟨kind, webhookURL, debounce⟩⟩
  simp only [AlertRules.Sound, same]

/-- A rule for low batteries is stored, and a patch then blanks its webhook URL and sets its
    debounce to zero. -/
theorem patch_stores_blank_webhook :
    ∃ table ∈ replay AlertRules.after ({} : AlertRules Int) [
        ⟨.create { kind := "low_battery", webhookURL := "http://hooks/1" }, ⟨0⟩, {}⟩,
        ⟨.update 1 { webhookURL := some "  ", debounceSeconds := some 0 }, ⟨1⟩, {}⟩],
      ∃ row ∈ table.rows, row.webhookURL = "" ∧ row.debounceSeconds = 0 :=
  ⟨_, rfl, _, List.mem_singleton.mpr rfl, by decide +kernel, by decide +kernel⟩

end Strom.Registry
