import Strom.Collections.Groups
import Strom.Go.JsonStrings
import Strom.Handlers.BatteryRuntime

/-!
# The latest values of a UPS (`GetUPSDetail`, `ListNodeUPSSummaries`)

Both queries pick the samples of a UPS that have the latest time of their variable.  The detail
has all of them by their names, the summary four of them as numbers.  Two samples of a variable
in one second are both picked, and the one that comes out last counts.
-/

namespace Strom.Registry

open Strom.Go Strom.Collections Strom.Handlers

/-- `strconv.ParseFloat` without the values that are no numbers. -/
def parseOptionalFloat (raw : String) : Option Float64 :=
  match parseFloat (trimSpace raw) with
  | some (.finite value) => some (.finite value)
  | _ => none

structure UPSLatestSample where
  name : String
  driver : String
  metadata : UPSMetadata := {}
  status : String := ""
  batteryChargePercent : Option Float64 := none
  loadPercent : Option Float64 := none
  runtimeSeconds : Option Int := none
  capturedAt : Time := Time.zero
deriving DecidableEq, Repr

def UPSLatestSample.applyLatestVariable (summary : UPSLatestSample) (variable_ raw : String) : UPSLatestSample :=
  if trimSpace variable_ = "ups.status" then { summary with status := trimSpace raw }
  else if trimSpace variable_ = "battery.charge" then { summary with batteryChargePercent := parseOptionalFloat raw }
  else if trimSpace variable_ = "ups.load" then { summary with loadPercent := parseOptionalFloat raw }
  else if trimSpace variable_ = "battery.runtime" then { summary with runtimeSeconds := parseOptionalInt64 raw }
  else summary

def decodeUPSTags (encoded : String) : Except GoError (List String) :=
  if trimSpace encoded = "" then .ok []
  else
    match Json.decodeStrings encoded with
    | some tags => .ok tags
    | none => .error (.text encoded)

/-- The time that is kept of two. -/
def latestTime (kept parsed : Time) : Time := if kept.isZero ∨ kept.ns < parsed.ns then parsed else kept

/-- The samples of a UPS with the `MAX(captured_at)` of their variable. -/
def newestSamples (upsID : String) (t : Tables) : List SampleRow :=
  let own := samplesOf t upsID
  own.filter fun sample => own.all fun other =>
    other.variable_ ≠ sample.variable_ || other.capturedAt ≤ sample.capturedAt

/-! ## `GetUPSDetail` -/

abbrev Variables := String → Option String

structure UPSDetail where
  name : String
  driver : String
  metadata : UPSMetadata := {}
  vars : Variables := fun _ => none
  capturedAt : Time := Time.zero

/-- `ORDER BY variable ASC`. -/
def ByVariable (sample later : SampleRow) : Prop := sample.variable_ ≤ later.variable_

def UPSDetail.addSample (detail : UPSDetail) (sample : SampleRow) : Except GoError UPSDetail :=
  match parseRFC3339 sample.capturedAt with
  | none => .error (.wrap "parse UPS detail captured_at" (.text sample.capturedAt))
  | some parsed => .ok { detail with
      vars := Function.update detail.vars sample.variable_ (some sample.value)
      capturedAt := latestTime detail.capturedAt parsed }

/-- `GetUPSDetail`, with queries that succeed. -/
def getUPSDetail (byVariable : RowOrder ByVariable) (nodeID upsName : String) (t : Tables) : Except GoError UPSDetail :=
  match t.ups.find? fun row => row.nodeID = nodeID && row.name = upsName with
  | none => .error errUPSNotFound
  | some row => do
    let tags ← (decodeUPSTags row.tagsJSON).mapError (.wrap "decode UPS detail tags")
    let detail : UPSDetail := { name := row.name, driver := row.driver
                                metadata := { displayName := row.displayName, tags } }
    (byVariable.order (newestSamples row.id t)).foldlM UPSDetail.addSample detail

/-! ## `ListNodeUPSSummaries` -/

/-- A row of the join: a UPS, and one of its newest samples if it has any. -/
structure SummaryRow where
  ups : UPSRow
  latest : Option SampleRow
deriving DecidableEq, Repr

/-- The rows of a `LEFT JOIN` with the newest samples. -/
def summaryRows (nodeID : String) (t : Tables) : List SummaryRow :=
  (t.ups.filter fun row => row.nodeID = nodeID).flatMap fun row =>
    match newestSamples row.id t with
    | [] => [⟨row, none⟩]
    | newest => newest.map fun sample => ⟨row, some sample⟩

/-- `NULL` comes before every text. -/
def NullsFirst : Option String → Option String → Prop
  | none, _ => True
  | some _, none => False
  | some s, some t => s ≤ t

/-- `ORDER BY name ASC, variable ASC`. -/
def ByNameAndVariable (row later : SummaryRow) : Prop :=
  row.ups.name < later.ups.name ∨ row.ups.name = later.ups.name ∧
    NullsFirst (row.latest.map (·.variable_)) (later.latest.map (·.variable_))

/-- What the loop reads of a row. -/
structure ScannedRow where
  upsID : String
  summary : UPSLatestSample
  latest : Option (SampleRow × Time)

def scanSummaryRow (row : SummaryRow) : Except GoError ScannedRow := do
  let tags ← (decodeUPSTags row.ups.tagsJSON).mapError (.wrap "decode UPS summary tags")
  let summary : UPSLatestSample := { name := row.ups.name, driver := row.ups.driver
                                     metadata := { displayName := row.ups.displayName, tags } }
  match row.latest with
  | none => return { upsID := row.ups.id, summary, latest := none }
  | some sample =>
    match parseRFC3339 sample.capturedAt with
    | none => .error (.wrap "parse UPS sample captured_at" (.text sample.capturedAt))
    | some parsed => return { upsID := row.ups.id, summary, latest := some (sample, parsed) }

/-- What the loop does with the summary of a UPS. -/
def UPSLatestSample.addRow (summary : UPSLatestSample) (row : ScannedRow) : UPSLatestSample :=
  match row.latest with
  | none => summary
  | some (sample, parsed) =>
    let applied := summary.applyLatestVariable sample.variable_ sample.value
    { applied with capturedAt := latestTime applied.capturedAt parsed }

/-- The summaries by the ids of their UPSes. -/
def aggregate (rows : List ScannedRow) : List (String × UPSLatestSample) :=
  gather (·.upsID) (fun summary row => (summary.getD row.summary).addRow row) rows

/-- `ListNodeUPSSummaries`, with a query that succeeds. -/
def listNodeUPSSummaries (byNameAndVariable : RowOrder ByNameAndVariable) (nodeID : String) (t : Tables) :
    Except GoError (List UPSLatestSample) := do
  let rows ← (byNameAndVariable.order (summaryRows nodeID t)).mapM scanSummaryRow
  return (aggregate rows).map (·.2)

/-! ## Orders of the rows -/

instance : DecidableRel ByVariable := fun _ _ => inferInstanceAs (Decidable (_ ≤ _))

instance : Std.Total ByVariable where
  total sample later := String.le_total sample.variable_ later.variable_

instance : IsTrans SampleRow ByVariable where
  trans _ _ _ := String.le_trans

instance : DecidableRel NullsFirst
  | none, _ => .isTrue trivial
  | some _, none => .isFalse id
  | some s, some t => inferInstanceAs (Decidable (s ≤ t))

theorem NullsFirst.total : ∀ s t : Option String, NullsFirst s t ∨ NullsFirst t s
  | none, _ => .inl trivial
  | some _, none => .inr trivial
  | some s, some t => String.le_total s t

theorem NullsFirst.trans : ∀ {s t u : Option String}, NullsFirst s t → NullsFirst t u → NullsFirst s u
  | none, _, _, _, _ => trivial
  | some _, none, _, one, _ => one.elim
  | some _, some _, none, _, two => two.elim
  | some _, some _, some _, one, two => String.le_trans one two

instance : DecidableRel ByNameAndVariable := fun _ _ => inferInstanceAs (Decidable (_ ∨ _))

instance : Std.Total ByNameAndVariable where
  total row later := by
    by_cases earlier : row.ups.name < later.ups.name
    · exact .inl (.inl earlier)
    by_cases after : later.ups.name < row.ups.name
    · exact .inr (.inl after)
    have same := String.le_antisymm (String.not_lt.mp after) (String.not_lt.mp earlier)
    obtain one | two := NullsFirst.total (row.latest.map (·.variable_)) (later.latest.map (·.variable_))
    · exact .inl (.inr ⟨same, one⟩)
    · exact .inr (.inr ⟨same.symm, two⟩)

instance : IsTrans SummaryRow ByNameAndVariable where
  trans first second third := by
    intro one two
    obtain earlier | ⟨same, nulls⟩ := one
    · obtain earlier' | ⟨same', -⟩ := two
      · exact .inl (String.lt_trans earlier earlier')
      · exact .inl (same' ▸ earlier)
    · obtain earlier' | ⟨same', nulls'⟩ := two
      · exact .inl (same ▸ earlier')
      · exact .inr ⟨same.trans same', nulls.trans nulls'⟩

/-- An order in which ties come out as they were inserted. -/
def tiesInserted {α : Type} (before : α → α → Prop) [DecidableRel before] [Std.Total before] [IsTrans α before] :
    RowOrder before where
  order := List.insertionSort before
  perm := List.perm_insertionSort before
  sorted := List.pairwise_insertionSort before

/-- An order in which ties come out in the reverse order of their insertion. -/
def tiesReversed {α : Type} (before : α → α → Prop) [DecidableRel before] [Std.Total before] [IsTrans α before] :
    RowOrder before where
  order rows := rows.reverse.insertionSort before
  perm rows := (List.perm_insertionSort before _).trans (List.reverse_perm rows)
  sorted _ := List.pairwise_insertionSort before _

/-! ## Numbers of a summary -/

theorem of_mem_mapM {α β ε : Type} {f : α → Except ε β} {rows : List α} {made : List β} (all : rows.mapM f = .ok made) :
    ∀ b ∈ made, ∃ a ∈ rows, f a = .ok b := by
  induction rows generalizing made with
  | nil =>
    cases all
    simp
  | cons row rest ih =>
    simp only [List.mapM_cons, except_bind_eq_ok] at all
    obtain ⟨first, one, others, later, listed⟩ := all
    obtain rfl : first :: others = made := Except.ok.inj listed
    intro b inside
    obtain rfl | inside := List.mem_cons.mp inside
    · exact ⟨row, List.mem_cons_self, one⟩
    · obtain ⟨a, member, own⟩ := ih later b inside
      exact ⟨a, List.mem_cons_of_mem _ member, own⟩

theorem mem_of_mapM {α β ε : Type} {f : α → Except ε β} {rows : List α} {made : List β} (all : rows.mapM f = .ok made) :
    ∀ a ∈ rows, ∃ b ∈ made, f a = .ok b := by
  induction rows generalizing made with
  | nil => simp
  | cons row rest ih =>
    simp only [List.mapM_cons, except_bind_eq_ok] at all
    obtain ⟨first, one, others, later, listed⟩ := all
    obtain rfl : first :: others = made := Except.ok.inj listed
    intro a inside
    obtain rfl | inside := List.mem_cons.mp inside
    · exact ⟨first, List.mem_cons_self, one⟩
    · obtain ⟨b, member, own⟩ := ih later a inside
      exact ⟨b, List.mem_cons_of_mem _ member, own⟩

/-- Neither an infinity nor not a number. -/
def AllFinite (value : Option Float64) : Prop := ∀ x ∈ value, ∃ q, x = .finite q

/-- The registry keeps no number that is none. -/
theorem allFinite_parseOptionalFloat (raw : String) : AllFinite (parseOptionalFloat raw) := by
  intro x inside
  unfold parseOptionalFloat at inside
  split at inside
  · next value _ => exact ⟨value, (Option.some.inj inside).symm⟩
  · cases inside

def UPSLatestSample.Numeric (summary : UPSLatestSample) : Prop :=
  AllFinite summary.batteryChargePercent ∧ AllFinite summary.loadPercent

theorem UPSLatestSample.Numeric.applied {summary : UPSLatestSample} (numeric : summary.Numeric) (variable_ raw : String) :
    (summary.applyLatestVariable variable_ raw).Numeric := by
  have parsed := allFinite_parseOptionalFloat raw
  obtain ⟨charge, load⟩ := numeric
  unfold applyLatestVariable
  generalize parseOptionalFloat raw = number at parsed ⊢
  split
  · exact ⟨charge, load⟩
  · split
    · exact ⟨parsed, load⟩
    · split
      · exact ⟨charge, parsed⟩
      · split <;> exact ⟨charge, load⟩

theorem UPSLatestSample.Numeric.addRow {summary : UPSLatestSample} (numeric : summary.Numeric) (row : ScannedRow) :
    (summary.addRow row).Numeric := by
  unfold UPSLatestSample.addRow
  cases row.latest with
  | none => exact numeric
  | some found =>
    have applied := numeric.applied found.1.variable_ found.1.value
    simp only
    generalize summary.applyLatestVariable found.1.variable_ found.1.value = value at applied ⊢
    exact applied

theorem numeric_of_scanSummaryRow {row : SummaryRow} {scanned : ScannedRow} (made : scanSummaryRow row = .ok scanned) :
    scanned.summary.Numeric := by
  have none : AllFinite none := by simp [AllFinite]
  simp only [scanSummaryRow, except_bind_eq_ok] at made
  obtain ⟨tags, -, built⟩ := made
  split at built
  · rw [← Except.ok.inj built]
    exact ⟨none, none⟩
  · next sample _ =>
    cases parsed : parseRFC3339 sample.capturedAt with
    | none => simp [parsed] at built
    | some time =>
      simp only [parsed] at built
      rw [← Except.ok.inj built]
      exact ⟨none, none⟩

theorem numeric_of_mem_summaries {byNameAndVariable : RowOrder ByNameAndVariable} {nodeID : String} {t : Tables}
    {summaries : List UPSLatestSample} (listed : listNodeUPSSummaries byNameAndVariable nodeID t = .ok summaries) :
    ∀ summary ∈ summaries, summary.Numeric := by
  simp only [listNodeUPSSummaries, except_bind_eq_ok] at listed
  obtain ⟨rows, scanned, built⟩ := listed
  obtain rfl : (aggregate rows).map (·.2) = summaries := Except.ok.inj built
  intro summary inside
  obtain ⟨⟨id, value⟩, entry, rfl⟩ := List.mem_map.mp inside
  apply collect_induction _ _ (mem_gather.mp entry)
  · intro row member
    obtain ⟨source, -, made⟩ := of_mem_mapM scanned row (List.mem_of_mem_filter member)
    exact (numeric_of_scanSummaryRow made).addRow row
  · intro value row _ numeric
    exact numeric.addRow row

end Strom.Registry
