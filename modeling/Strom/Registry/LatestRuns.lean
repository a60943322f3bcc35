import Strom.Registry.Latest

/-!
# The last recorded values (`RecordUPSSnapshots`, `GetUPSDetail`, `ListNodeUPSSummaries`)

What the two views have to report of a variable is the value of the last recorded snapshot that
contains it.  The times of the samples have no fractions of seconds, so within one second the
order of the recordings is lost.  Without a tie between different values the views report the last
values in every run (`reports_latest`).
-/

namespace Strom.Registry

open Strom.Go Strom.Collections Strom.Handlers Strom.Effects

/-! ## Rows that stand for values -/

/-- Every row has the value of its variable, and every variable with a value has a row. -/
structure Represents (rows : List SampleRow) (values : Variables) : Prop where
  agrees : ∀ sample ∈ rows, values sample.variable_ = some sample.value
  covers : ∀ v, values v ≠ none → ∃ sample ∈ rows, sample.variable_ = v

/-- A map that is filled from rows. -/
def varsOf (rows : List SampleRow) : Variables :=
  rows.foldl (fun vars sample => Function.update vars sample.variable_ (some sample.value)) fun _ => none

theorem varsOf_concat (rows : List SampleRow) (sample : SampleRow) :
    varsOf (rows ++ [sample]) = Function.update (varsOf rows) sample.variable_ (some sample.value) := by
  simp [varsOf]

theorem varsOf_apply {rows : List SampleRow} {values : Variables}
    (agrees : ∀ sample ∈ rows, values sample.variable_ = some sample.value) (v : String) :
    varsOf rows v = if v ∈ rows.map (·.variable_) then values v else none := by
  induction rows using List.reverseRecOn with
  | nil => rfl
  | append_singleton rows sample ih =>
    have own := agrees sample (by simp)
    have before := ih fun other inside => agrees other (List.mem_append_left _ inside)
    rw [varsOf_concat]
    by_cases same : v = sample.variable_
    · subst same
      simp [own]
    · simp [before, same]

theorem varsOf_eq {rows : List SampleRow} {values : Variables} (represents : Represents rows values) :
    varsOf rows = values := by
  funext v
  rw [varsOf_apply represents.agrees]
  split
  · rfl
  · next absent =>
    by_contra given
    obtain ⟨sample, inside, rfl⟩ := represents.covers v fun none => given none.symm
    exact absent (List.mem_map_of_mem inside)

theorem Represents.of_mem_iff {rows others : List SampleRow} {values : Variables} (represents : Represents rows values)
    (same : ∀ sample, sample ∈ others ↔ sample ∈ rows) : Represents others values where
  agrees := fun sample inside => represents.agrees sample ((same sample).mp inside)
  covers := by
    intro v given
    obtain ⟨sample, inside, own⟩ := represents.covers v given
    exact ⟨sample, (same sample).mpr inside, own⟩

/-! ## The newest samples -/

/-- The last value of each variable in a list of samples. -/
def lastOf (rows : List SampleRow) : Variables := fun v =>
  (rows.reverse.find? fun sample => sample.variable_ = v).map (·.value)

variable {t : Tables} {id : String}

theorem mem_newestSamples {sample : SampleRow} : sample ∈ newestSamples id t ↔ sample ∈ samplesOf t id ∧
    ∀ other ∈ samplesOf t id, other.variable_ = sample.variable_ → other.capturedAt ≤ sample.capturedAt := by
  simp only [newestSamples, List.mem_filter, List.all_eq_true, Bool.or_eq_true, decide_eq_true_eq, ne_eq,
    ← imp_iff_not_or]

/-- The times do not decrease, and no variable has two values at one time. -/
structure Untied (rows : List SampleRow) : Prop where
  ordered : rows.Pairwise fun sample later => sample.capturedAt ≤ later.capturedAt
  agree : ∀ sample ∈ rows, ∀ other ∈ rows, sample.variable_ = other.variable_ →
    sample.capturedAt = other.capturedAt → sample.value = other.value

/-- The last sample of a variable is one of the newest. -/
theorem Untied.newest_last {rows : List SampleRow} (untied : Untied rows) {v : String} {last : SampleRow}
    (found : rows.reverse.find? (fun sample => sample.variable_ = v) = some last) :
    last ∈ rows ∧ last.variable_ = v ∧ ∀ other ∈ rows, other.variable_ = v → other.capturedAt ≤ last.capturedAt := by
  obtain ⟨own, before, after, shape, none⟩ := List.find?_eq_some_iff_append.mp found
  have whole : rows = after.reverse ++ last :: before.reverse := by
    rw [← List.reverse_inj, shape]
    simp
  refine ⟨by simp [whole], by simpa using own, ?_⟩
  intro other inside named
  have ordered := untied.ordered
  rw [whole, List.pairwise_append] at ordered
  rw [whole, List.mem_append, List.mem_cons] at inside
  obtain earlier | rfl | later := inside
  · exact ordered.2.2 other earlier last List.mem_cons_self
  · exact String.le_refl _
  · have passed := none other (List.mem_reverse.mp later)
    simp [named] at passed

theorem represents_newest (untied : Untied (samplesOf t id)) :
    Represents (newestSamples id t) (lastOf (samplesOf t id)) where
  agrees := by
    intro sample inside
    obtain ⟨stored, newest⟩ := mem_newestSamples.mp inside
    unfold lastOf
    cases found : (samplesOf t id).reverse.find? fun other => other.variable_ = sample.variable_ with
    | none =>
      have absent := List.find?_eq_none.mp found sample (List.mem_reverse.mpr stored)
      simp at absent
    | some last =>
      obtain ⟨stored', named, latest⟩ := untied.newest_last found
      have same : last.capturedAt = sample.capturedAt :=
        String.le_antisymm (newest last stored' named) (latest sample stored rfl)
      rw [Option.map_some, untied.agree last stored' sample stored named same]
  covers := by
    intro v given
    unfold lastOf at given
    cases found : (samplesOf t id).reverse.find? fun other => other.variable_ = v with
    | none => simp [found] at given
    | some last =>
      obtain ⟨stored, named, latest⟩ := untied.newest_last found
      refine ⟨last, mem_newestSamples.mpr ⟨stored, ?_⟩, named⟩
      rw [named]
      exact latest

/-! ## The detail -/

/-- A sample whose time reads back. -/
def ReadableTime (sample : SampleRow) : Prop := ∃ time, parseRFC3339 sample.capturedAt = some time

theorem addSample_ok {sample : SampleRow} (readable : ReadableTime sample) (detail : UPSDetail) :
    ∃ result, detail.addSample sample = .ok result ∧
      result.vars = Function.update detail.vars sample.variable_ (some sample.value) := by
  obtain ⟨time, parsed⟩ := readable
  unfold UPSDetail.addSample
  rw [parsed]
  exact ⟨_, rfl, rfl⟩

theorem foldlM_addSample {rows : List SampleRow} (readable : ∀ sample ∈ rows, ReadableTime sample) (detail : UPSDetail) :
    ∃ result, rows.foldlM UPSDetail.addSample detail = .ok result ∧ result.vars =
      rows.foldl (fun (vars : Variables) sample => Function.update vars sample.variable_ (some sample.value))
        detail.vars := by
  induction rows generalizing detail with
  | nil => exact ⟨detail, rfl, rfl⟩
  | cons sample rest ih =>
    obtain ⟨added, one, vars⟩ := addSample_ok (readable sample List.mem_cons_self) detail
    obtain ⟨result, ran, last⟩ := ih (fun other inside => readable other (List.mem_cons_of_mem sample inside)) added
    refine ⟨result, ?_, ?_⟩
    · rw [List.foldlM_cons, one]
      exact ran
    · rw [last, vars, List.foldl_cons]

variable {row : UPSRow}

theorem detail_reports (byVariable : RowOrder ByVariable) (valid : t.Valid) (member : row ∈ t.ups)
    (tags : ∃ list, decodeUPSTags row.tagsJSON = .ok list) (untied : Untied (samplesOf t row.id))
    (readable : ∀ sample ∈ samplesOf t row.id, ReadableTime sample) :
    ∃ detail, getUPSDetail byVariable row.nodeID row.name t = .ok detail ∧
      detail.vars = lastOf (samplesOf t row.id) := by
  obtain ⟨found, search, id⟩ := find_ups valid member
  obtain rfl : found = row := List.inj_on_of_nodup_map valid.distinct (List.mem_of_find?_eq_some search) member id
  obtain ⟨list, decoded⟩ := tags
  have newest : ∀ sample, sample ∈ byVariable.order (newestSamples found.id t) ↔ sample ∈ newestSamples found.id t :=
    fun sample => (byVariable.perm _).mem_iff
  have readable' : ∀ sample ∈ byVariable.order (newestSamples found.id t), ReadableTime sample :=
    fun sample inside => readable sample (mem_newestSamples.mp ((newest sample).mp inside)).1
  obtain ⟨detail, ran, vars⟩ := foldlM_addSample readable'
    { name := found.name, driver := found.driver, metadata := { displayName := found.displayName, tags := list } }
  refine ⟨detail, ?_, ?_⟩
  · simp only [getUPSDetail, search, decoded, Except.mapError]
    exact ran
  · rw [vars]
    exact varsOf_eq ((represents_newest untied).of_mem_iff newest)

/-! ## The summaries -/

/-- The variables that a summary shows. -/
def summaryVariables : List String := ["ups.status", "battery.charge", "ups.load", "battery.runtime"]

/-- The summary shows the values. -/
structure Summarizes (summary : UPSLatestSample) (values : Variables) : Prop where
  status : summary.status = ((values "ups.status").map trimSpace).getD ""
  charge : summary.batteryChargePercent = (values "battery.charge").bind parseOptionalFloat
  load : summary.loadPercent = (values "ups.load").bind parseOptionalFloat
  runtime : summary.runtimeSeconds = (values "battery.runtime").bind parseOptionalInt64

/-- The variable is none that a summary shows under another spelling. -/
def Plain (v : String) : Prop := trimSpace v ∈ summaryVariables → trimSpace v = v

theorem Summarizes.apply {summary : UPSLatestSample} {values : Variables} (summarizes : Summarizes summary values)
    {v : String} (plain : Plain v) (raw : String) :
    Summarizes (summary.applyLatestVariable v raw) (Function.update values v (some raw)) := by
  obtain ⟨status, charge, load, runtime⟩ := summarizes
  unfold UPSLatestSample.applyLatestVariable
  by_cases shown : trimSpace v ∈ summaryVariables
  · have own := plain shown
    rw [own] at shown ⊢
    simp only [summaryVariables, List.mem_cons, List.not_mem_nil, or_false] at shown
    obtain rfl | rfl | rfl | rfl := shown
    · constructor <;> simp [*]
    · constructor <;> simp [*]
    · constructor <;> simp [*]
    · constructor <;> simp [*]
  · have apart : ∀ name ∈ summaryVariables, trimSpace v ≠ name ∧ name ≠ v := by
      intro name listed
      refine ⟨fun same => shown (same ▸ listed), ?_⟩
      rintro rfl
      have own : ∀ name ∈ summaryVariables, trimSpace name = name := by decide +kernel
      rw [own name listed] at shown
      exact shown listed
    simp only [summaryVariables, List.forall_mem_cons, List.not_mem_nil, false_imp_iff, implies_true, and_true] at apart
    obtain ⟨⟨notStatus, ne₁⟩, ⟨notCharge, ne₂⟩, ⟨notLoad, ne₃⟩, notRuntime, ne₄⟩ := apart
    rw [if_neg notStatus, if_neg notCharge, if_neg notLoad, if_neg notRuntime]
    constructor <;> simp [Function.update_of_ne, *]

/-- The samples that rows of the join show. -/
def samplesIn (rows : List ScannedRow) : List SampleRow := rows.filterMap fun row => row.latest.map (·.1)

theorem summarizes_foldl {rows : List ScannedRow} (plain : ∀ sample ∈ samplesIn rows, Plain sample.variable_)
    {summary : UPSLatestSample} {values : Variables} (summarizes : Summarizes summary values) :
    Summarizes (rows.foldl UPSLatestSample.addRow summary) ((samplesIn rows).foldl
      (fun (vars : Variables) sample => Function.update vars sample.variable_ (some sample.value)) values) := by
  induction rows generalizing summary values with
  | nil => exact summarizes
  | cons row rest ih =>
    cases shown : row.latest with
    | none =>
      have same : summary.addRow row = summary := by simp only [UPSLatestSample.addRow, shown]
      have samples : samplesIn (row :: rest) = samplesIn rest := by simp [samplesIn, shown]
      rw [samples] at plain ⊢
      rw [List.foldl_cons, same]
      exact ih plain summarizes
    | some found =>
      have samples : samplesIn (row :: rest) = found.1 :: samplesIn rest := by simp [samplesIn, shown]
      rw [samples] at plain ⊢
      obtain ⟨own, others⟩ := List.forall_mem_cons.mp plain
      have applied := summarizes.apply own found.1.value
      have added : Summarizes (summary.addRow row)
          (Function.update values found.1.variable_ (some found.1.value)) := by
        simp only [UPSLatestSample.addRow, shown]
        exact ⟨applied.status, applied.charge, applied.load, applied.runtime⟩
      rw [List.foldl_cons, List.foldl_cons]
      exact ih others added

theorem applyLatestVariable_name (summary : UPSLatestSample) (v raw : String) :
    (summary.applyLatestVariable v raw).name = summary.name := by
  unfold UPSLatestSample.applyLatestVariable
  repeat' split
  all_goals rfl

theorem foldl_addRow_name (rows : List ScannedRow) (summary : UPSLatestSample) :
    (rows.foldl UPSLatestSample.addRow summary).name = summary.name := by
  induction rows generalizing summary with
  | nil => rfl
  | cons row rest ih =>
    rw [List.foldl_cons, ih]
    cases shown : row.latest with
    | none => simp only [UPSLatestSample.addRow, shown]
    | some found =>
      simp only [UPSLatestSample.addRow, shown]
      exact applyLatestVariable_name summary found.1.variable_ found.1.value

/-- What the loop has read of a row. -/
structure ScanOf (row : SummaryRow) (scanned : ScannedRow) : Prop where
  upsID : scanned.upsID = row.ups.id
  name : scanned.summary.name = row.ups.name
  latest : scanned.latest.map (·.1) = row.latest
  empty : Summarizes scanned.summary fun _ => none

theorem scan_ok {row : SummaryRow} (tags : ∃ list, decodeUPSTags row.ups.tagsJSON = .ok list)
    (readable : ∀ sample ∈ row.latest, ReadableTime sample) :
    ∃ scanned, scanSummaryRow row = .ok scanned ∧ ScanOf row scanned := by
  obtain ⟨list, decoded⟩ := tags
  unfold scanSummaryRow
  simp only [decoded, Except.mapError]
  cases latest : row.latest with
  | none => exact ⟨_, rfl, rfl, rfl, latest.symm, rfl, rfl, rfl, rfl⟩
  | some sample =>
    obtain ⟨time, parsed⟩ := readable sample latest
    refine ⟨{ upsID := row.ups.id, latest := some (sample, time)
              summary := { name := row.ups.name, driver := row.ups.driver
                           metadata := { displayName := row.ups.displayName, tags := list } } }, ?_, rfl, rfl,
      latest.symm, rfl, rfl, rfl, rfl⟩
    simp only [bind, Except.bind, parsed]
    rfl

theorem mapM_ok {α β ε : Type} {f : α → Except ε β} {P : α → β → Prop} {rows : List α}
    (each : ∀ a ∈ rows, ∃ b, f a = .ok b ∧ P a b) : ∃ made, rows.mapM f = .ok made ∧ List.Forall₂ P rows made := by
  induction rows with
  | nil => exact ⟨[], rfl, .nil⟩
  | cons row rest ih =>
    obtain ⟨first, one, own⟩ := each row List.mem_cons_self
    obtain ⟨others, later, all⟩ := ih fun a inside => each a (List.mem_cons_of_mem row inside)
    refine ⟨first :: others, ?_, .cons own all⟩
    simp only [List.mapM_cons, one, later]
    rfl

theorem mem_summaryRows {nodeID : String} {r : SummaryRow} : r ∈ summaryRows nodeID t ↔
    (r.ups ∈ t.ups ∧ r.ups.nodeID = nodeID) ∧
      if newestSamples r.ups.id t = [] then r.latest = none else ∃ sample ∈ newestSamples r.ups.id t, r.latest = some sample := by
  simp only [summaryRows, List.mem_flatMap, List.mem_filter, decide_eq_true_eq]
  constructor
  · intro found
    obtain ⟨row, own, inside⟩ := found
    cases newest : newestSamples row.id t with
    | nil =>
      simp only [newest, List.mem_singleton] at inside
      rw [inside]
      exact ⟨own, by simp [newest]⟩
    | cons sample rest =>
      simp only [newest] at inside
      obtain ⟨shown, listed, rfl⟩ := List.mem_map.mp inside
      rw [newest, if_neg (List.cons_ne_nil _ _)]
      exact ⟨own, shown, listed, rfl⟩
  · intro found
    obtain ⟨own, latest⟩ := found
    refine ⟨r.ups, own, ?_⟩
    cases newest : newestSamples r.ups.id t with
    | nil =>
      rw [if_pos newest] at latest
      obtain ⟨ups, shown⟩ := r
      replace latest : shown = none := latest
      simp [latest]
    | cons sample rest =>
      rw [newest, if_neg (List.cons_ne_nil _ _)] at latest
      obtain ⟨shown, listed, same⟩ := latest
      obtain ⟨ups, latest⟩ := r
      replace same : latest = some shown := same
      exact List.mem_map.mpr ⟨shown, listed, by rw [same]⟩

/-- What the views need of the tables. -/
structure Tables.Clear (t : Tables) : Prop where
  valid : t.Valid
  tags : ∀ row ∈ t.ups, ∃ list, decodeUPSTags row.tagsJSON = .ok list
  untied : ∀ row ∈ t.ups, Untied (samplesOf t row.id)
  readable : ∀ sample ∈ t.samples, ReadableTime sample
  plain : ∀ sample ∈ t.samples, Plain sample.variable_

theorem mem_of_mem_samplesOf {sample : SampleRow} (inside : sample ∈ samplesOf t id) : sample ∈ t.samples :=
  List.mem_of_mem_filter inside

/-- The rows of a UPS in the join show its newest samples. -/
theorem samplesIn_rows {nodeID : String} {rows : List SummaryRow} {scanned : List ScannedRow} (valid : t.Valid)
    (listed : ∀ r, r ∈ rows ↔ r ∈ summaryRows nodeID t) (all : List.Forall₂ ScanOf rows scanned)
    (member : row ∈ t.ups) (own : row.nodeID = nodeID) (sample : SampleRow) :
    sample ∈ samplesIn (scanned.filter fun found => found.upsID = row.id) ↔ sample ∈ newestSamples row.id t := by
  simp only [samplesIn, List.mem_filterMap, List.mem_filter, decide_eq_true_eq]
  constructor
  · intro found
    obtain ⟨scan, ⟨inside, ofRow⟩, shown⟩ := found
    obtain ⟨n, bound, rfl⟩ := List.mem_iff_getElem.mp inside
    have bound' : n < rows.length := by rwa [all.length_eq]
    have scanOf := all.get bound' bound
    obtain ⟨⟨stored, -⟩, latest⟩ := mem_summaryRows.mp ((listed _).mp (List.getElem_mem bound'))
    have id : rows[n].ups.id = row.id := scanOf.upsID.symm.trans ofRow
    obtain same := List.inj_on_of_nodup_map valid.distinct stored member id
    have latest' : rows[n].latest = some sample := scanOf.latest.symm.trans shown
    rw [same, latest'] at latest
    split at latest
    · cases latest
    · obtain ⟨other, newest, same⟩ := latest
      rw [Option.some.inj same]
      exact newest
  · intro newest
    have given : newestSamples row.id t ≠ [] := List.ne_nil_of_mem newest
    have inside : (⟨row, some sample⟩ : SummaryRow) ∈ rows := by
      rw [listed, mem_summaryRows, if_neg given]
      exact ⟨⟨member, own⟩, sample, newest, rfl⟩
    obtain ⟨n, bound, same⟩ := List.mem_iff_getElem.mp inside
    have bound' : n < scanned.length := by rwa [← all.length_eq]
    have scanOf := all.get bound bound'
    rw [List.get_eq_getElem, same] at scanOf
    exact ⟨_, ⟨List.getElem_mem bound', scanOf.upsID⟩, scanOf.latest⟩

/-- The rows that the loop has read, as it has read them. -/
theorem scanned_ok (clear : t.Clear) (byNameAndVariable : RowOrder ByNameAndVariable) (nodeID : String) :
    ∃ scanned, (byNameAndVariable.order (summaryRows nodeID t)).mapM scanSummaryRow = .ok scanned ∧
      List.Forall₂ ScanOf (byNameAndVariable.order (summaryRows nodeID t)) scanned := by
  apply mapM_ok
  intro r inside
  obtain ⟨⟨stored, -⟩, latest⟩ := mem_summaryRows.mp ((byNameAndVariable.perm _).mem_iff.mp inside)
  apply scan_ok (clear.tags r.ups stored)
  intro sample shown
  rw [Option.mem_def.mp shown] at latest
  split at latest
  · cases latest
  · obtain ⟨other, newest, same⟩ := latest
    rw [Option.some.inj same]
    exact clear.readable other (mem_of_mem_samplesOf (mem_newestSamples.mp newest).1)

/-- The summaries are those of the UPSes of the node, each with its last values. -/
theorem summaries_report (clear : t.Clear) (byNameAndVariable : RowOrder ByNameAndVariable) (nodeID : String) :
    ∃ summaries, listNodeUPSSummaries byNameAndVariable nodeID t = .ok summaries ∧
      (∀ row ∈ t.ups, row.nodeID = nodeID → ∃ summary ∈ summaries, summary.name = row.name) ∧
      ∀ summary ∈ summaries, ∃ row ∈ t.ups, row.nodeID = nodeID ∧ summary.name = row.name ∧
        Summarizes summary (lastOf (samplesOf t row.id)) := by
  obtain ⟨scanned, ran, all⟩ := scanned_ok clear byNameAndVariable nodeID
  have listed : ∀ r, r ∈ byNameAndVariable.order (summaryRows nodeID t) ↔ r ∈ summaryRows nodeID t :=
    fun r => (byNameAndVariable.perm _).mem_iff
  -- what has been made of the rows of a UPS
  have entries : ∀ {first : ScannedRow} {rest : List ScannedRow} {row : UPSRow}, row ∈ t.ups → row.nodeID = nodeID →
      (scanned.filter fun found => found.upsID = row.id) = first :: rest → first.summary.name = row.name →
      Summarizes first.summary (fun _ => none) →
      ∃ summary, (row.id, summary) ∈ aggregate scanned ∧ summary.name = row.name ∧
        Summarizes summary (lastOf (samplesOf t row.id)) := by
    intro first rest row member own shape name empty
    have members := samplesIn_rows clear.valid listed all member own
    rw [shape] at members
    have plain : ∀ sample ∈ samplesIn (first :: rest), Plain sample.variable_ := by
      intro sample inside
      exact clear.plain sample (mem_of_mem_samplesOf (mem_newestSamples.mp ((members sample).mp inside)).1)
    have summarizes := summarizes_foldl plain empty
    have values : varsOf (samplesIn (first :: rest)) = lastOf (samplesOf t row.id) :=
      varsOf_eq ((represents_newest (clear.untied row member)).of_mem_iff members)
    unfold varsOf at values
    rw [values] at summarizes
    refine ⟨_, ?_, (foldl_addRow_name (first :: rest) first.summary).trans name, summarizes⟩
    exact mem_gather.mpr (by rw [shape]; exact collect_cons _ _ first rest)
  -- the rows of a UPS are those of one row of the table
  have scans : ∀ found ∈ scanned, ∃ row ∈ t.ups, row.nodeID = nodeID ∧ found.upsID = row.id ∧
      found.summary.name = row.name ∧ Summarizes found.summary fun _ => none := by
    intro found inside
    obtain ⟨n, bound, rfl⟩ := List.mem_iff_getElem.mp inside
    have bound' : n < (byNameAndVariable.order (summaryRows nodeID t)).length := by rwa [all.length_eq]
    have scanOf := all.get bound' bound
    obtain ⟨⟨stored, own⟩, -⟩ := mem_summaryRows.mp ((listed _).mp (List.getElem_mem bound'))
    exact ⟨_, stored, own, scanOf.upsID, scanOf.name, scanOf.empty⟩
  refine ⟨(aggregate scanned).map (·.2), ?_, ?_, ?_⟩
  · simp only [listNodeUPSSummaries, ran]
    rfl
  · intro row member own
    -- the join has a row for every UPS
    obtain ⟨r, inside, ups⟩ : ∃ r ∈ summaryRows nodeID t, r.ups = row := by
      cases newest : newestSamples row.id t with
      | nil => exact ⟨⟨row, none⟩, mem_summaryRows.mpr ⟨⟨member, own⟩, by simp [newest]⟩, rfl⟩
      | cons sample rest => exact ⟨⟨row, some sample⟩, mem_summaryRows.mpr ⟨⟨member, own⟩, by simp [newest]⟩, rfl⟩
    obtain ⟨n, bound, same⟩ := List.mem_iff_getElem.mp ((listed r).mpr inside)
    have bound' : n < scanned.length := by rwa [← all.length_eq]
    have scanOf := all.get bound bound'
    rw [List.get_eq_getElem, same] at scanOf
    have kept : scanned[n] ∈ scanned.filter fun found => found.upsID = row.id := by
      rw [List.mem_filter]
      exact ⟨List.getElem_mem bound', by simpa [← ups] using scanOf.upsID⟩
    obtain ⟨first, rest, shape⟩ := List.exists_cons_of_ne_nil (List.ne_nil_of_mem kept)
    have inside : first ∈ scanned.filter fun found => found.upsID = row.id := by simp [shape]
    obtain ⟨member', id⟩ := List.mem_filter.mp inside
    obtain ⟨other, stored, -, ofOther, name, empty⟩ := scans first member'
    obtain rfl : other = row :=
      List.inj_on_of_nodup_map clear.valid.distinct stored member (ofOther.symm.trans (of_decide_eq_true id))
    obtain ⟨summary, entry, named, -⟩ := entries member own shape name empty
    exact ⟨summary, List.mem_map.mpr ⟨_, entry, rfl⟩, named⟩
  · intro summary inside
    obtain ⟨⟨id, value⟩, entry, rfl⟩ := List.mem_map.mp inside
    have made := mem_gather.mp entry
    cases shape : scanned.filter fun found => found.upsID = id with
    | nil =>
      rw [shape] at made
      cases made
    | cons first rest =>
      have kept : first ∈ scanned.filter fun found => found.upsID = id := by simp [shape]
      obtain ⟨member', ofId⟩ := List.mem_filter.mp kept
      obtain ⟨row, member, own, ofRow, name, empty⟩ := scans first member'
      obtain rfl : row.id = id := ofRow.symm.trans (of_decide_eq_true ofId)
      obtain ⟨summary, entry', named, summarizes⟩ := entries member own shape name empty
      have same := (mem_gather.mp entry').symm.trans made
      rw [← Option.some.inj same]
      exact ⟨row, member, own, named, summarizes⟩

/-! ## The last recorded values -/

/-- A call that has taken effect. -/
structure Recording where
  nodeID : String
  capturedAt : Time
  snapshots : List UPSSnapshot

/-- The value of a variable in the last of the snapshots that contain it. -/
def Recording.valueOf (recording : Recording) (nodeID upsName v : String) : Option String :=
  if recording.nodeID = nodeID then
    (named recording.snapshots).reverse.findSome? fun snapshot =>
      if trimSpace snapshot.name = upsName then snapshot.vars.get v else none
  else none

/-- The value of a variable in the last recording that contains it. -/
def lastValue (recordings : List Recording) (nodeID upsName : String) : Variables := fun v =>
  recordings.reverse.findSome? fun recording => recording.valueOf nodeID upsName v

/-- The samples that a call has inserted. -/
def Recording.rows (recording : Recording) : List SampleRow :=
  (named recording.snapshots).flatMap (·.samples recording.nodeID (formatRFC3339 recording.capturedAt))

def Recording.samplesFor (recording : Recording) (row : UPSRow) : List SampleRow :=
  if recording.nodeID = row.nodeID then recording.rows.filter fun sample => sample.upsID = row.id else []

theorem find?_entries (map : StringMap) {entries : List (String × String)} (perm : entries.Perm map.entries) (v : String) :
    (entries.find? fun entry => entry.1 = v).map (·.2) = map.get v := by
  unfold StringMap.get
  cases found : entries.find? fun entry => entry.1 = v with
  | none =>
    cases value : map.entries.lookup v with
    | none => rfl
    | some other =>
      have inside := (lookup_eq_some_iff_mem map.distinct).mp value
      have absent := List.find?_eq_none.mp found _ (perm.mem_iff.mpr inside)
      simp at absent
  | some entry =>
    have inside := perm.mem_iff.mp (List.mem_of_find?_eq_some found)
    have key := List.find?_some found
    simp only [decide_eq_true_eq] at key
    subst key
    exact ((lookup_eq_some_iff_mem map.distinct).mpr inside).symm

theorem find?_samples (snapshot : UPSSnapshot) (nodeID capturedAt name v : String) :
    (((snapshot.samples nodeID capturedAt).reverse.find? fun sample =>
        decide (sample.upsID = upsID nodeID name) && decide (sample.variable_ = v)).map (·.value)) =
      if trimSpace snapshot.name = name then snapshot.vars.get v else none := by
  unfold UPSSnapshot.samples
  rw [← List.map_reverse, List.find?_map, Option.map_map]
  split
  · next same =>
    subst same
    have perm : (Aggregate.byName (·.1) snapshot.vars.entries).reverse.Perm snapshot.vars.entries :=
      (List.reverse_perm _).trans (List.mergeSort_perm _ _)
    rw [← find?_entries snapshot.vars perm v]
    simp only [Function.comp_def, decide_true, Bool.true_and]
  · next other =>
    have apart : upsID nodeID (trimSpace snapshot.name) ≠ upsID nodeID name := fun same => other (upsID_inj same)
    simp [Function.comp_def, apart]

/-- The samples of a UPS end with its last recorded values. -/
theorem lastOf_samplesFor (recordings : List Recording) (composed : row.id = upsID row.nodeID row.name) :
    lastOf (recordings.flatMap (·.samplesFor row)) = lastValue recordings row.nodeID row.name := by
  funext v
  unfold lastOf lastValue
  rw [List.reverse_flatMap, List.find?_flatMap, List.map_findSome?]
  congr 1
  funext recording
  simp only [Function.comp_apply, Recording.samplesFor, Recording.valueOf]
  split
  · next own =>
    rw [← List.filter_reverse, List.find?_filter, Recording.rows, List.reverse_flatMap, List.find?_flatMap,
      List.map_findSome?]
    congr 1
    funext snapshot
    rw [Function.comp_apply, composed, ← own, ← find?_samples snapshot recording.nodeID
      (formatRFC3339 recording.capturedAt) row.name v]
    simp only [Function.comp_apply, decide_eq_true_eq, Bool.decide_and]
  · rfl

/-! ## Runs -/

/-- What a recording gives a UPS as the value of a variable. -/
def Recording.Gives (recording : Recording) (nodeID upsName v value : String) : Prop :=
  recording.nodeID = nodeID ∧ ∃ snapshot ∈ named recording.snapshots, trimSpace snapshot.name = upsName ∧
    (v, value) ∈ snapshot.vars.entries

def Recording.Names (recording : Recording) (nodeID upsName : String) : Prop :=
  recording.nodeID = nodeID ∧ ∃ snapshot ∈ named recording.snapshots, trimSpace snapshot.name = upsName

/-- The tables, and the calls that have taken effect on them. -/
structure Log where
  tables : Tables
  recordings : List Recording := []

structure RecordCall where
  recording : Recording
  choices : Nat → Option GoError := fun _ => none

def logStep (log : Log) (call : RecordCall) : Option Log :=
  let recording := call.recording
  match recordCall recording.nodeID recording.capturedAt recording.snapshots call.choices log.tables with
  | (.ok _, tables) => some { tables, recordings := log.recordings ++ [recording] }
  | (.error _, tables) => some { log with tables }

/-- The times do not decrease, and lie in the years 0 to 9999 of UTC. -/
structure Timed (log : Log) (call : RecordCall) : Prop where
  years : call.recording.capturedAt.FourDigitYear
  later : ∀ earlier ∈ log.recordings, earlier.capturedAt.ns ≤ call.recording.capturedAt.ns

/-- A call that the views can tell apart from the earlier ones. -/
structure Distinguishable (log : Log) (call : RecordCall) : Prop where
  /-- No UPS of another node has the id of one that the call names. -/
  clear : ¬ Clash call.recording.nodeID call.recording.snapshots log.tables
  /-- No UPS comes back that has left the inventory. -/
  returns : ∀ upsName, call.recording.Names call.recording.nodeID upsName →
    (∃ row ∈ log.tables.ups, row.nodeID = call.recording.nodeID ∧ row.name = upsName) ∨
      ∀ earlier ∈ log.recordings, ¬ earlier.Names call.recording.nodeID upsName
  /-- No variable gets two values in one second. -/
  agree : ∀ other ∈ log.recordings ++ [call.recording], other.capturedAt.unix = call.recording.capturedAt.unix →
    ∀ nodeID upsName v value value', other.Gives nodeID upsName v value → call.recording.Gives nodeID upsName v value' →
      value = value'
  /-- No variable that a summary shows has another spelling. -/
  plain : ∀ nodeID upsName v value, call.recording.Gives nodeID upsName v value → Plain v

/-- What the samples of every reachable log come to. -/
structure Log.Sound (log : Log) : Prop where
  valid : log.tables.Valid
  tags : ∀ row ∈ log.tables.ups, ∃ list, decodeUPSTags row.tagsJSON = .ok list
  owned : ∀ sample ∈ log.tables.samples, ∃ row ∈ log.tables.ups, row.id = sample.upsID
  samples : ∀ row ∈ log.tables.ups, samplesOf log.tables row.id = log.recordings.flatMap (·.samplesFor row)
  years : ∀ recording ∈ log.recordings, recording.capturedAt.FourDigitYear
  ordered : log.recordings.Pairwise fun recording later => recording.capturedAt.ns ≤ later.capturedAt.ns
  agree : ∀ one ∈ log.recordings, ∀ other ∈ log.recordings, one.capturedAt.unix = other.capturedAt.unix →
    ∀ nodeID upsName v value value', one.Gives nodeID upsName v value → other.Gives nodeID upsName v value' →
      value = value'
  plain : ∀ recording ∈ log.recordings, ∀ nodeID upsName v value, recording.Gives nodeID upsName v value → Plain v

theorem mem_samplesFor {recording : Recording} {sample : SampleRow} (composed : row.id = upsID row.nodeID row.name)
    (inside : sample ∈ recording.samplesFor row) :
    recording.Gives row.nodeID row.name sample.variable_ sample.value ∧
      sample.capturedAt = formatRFC3339 recording.capturedAt := by
  unfold Recording.samplesFor at inside
  split at inside
  · next own =>
    obtain ⟨stored, ofRow⟩ := List.mem_filter.mp inside
    obtain ⟨snapshot, named, entry⟩ := List.mem_flatMap.mp stored
    obtain ⟨⟨v, value⟩, listed, rfl⟩ := List.mem_map.mp entry
    have listed' := (List.mergeSort_perm _ _).mem_iff.mp listed
    simp only [decide_eq_true_eq, composed, own] at ofRow
    exact ⟨⟨own, snapshot, named, upsID_inj ofRow, listed'⟩, rfl⟩
  · cases inside

theorem formatRFC3339_le {t u : Time} (years : t.FourDigitYear) (years' : u.FourDigitYear) (before : t.ns ≤ u.ns) :
    formatRFC3339 t ≤ formatRFC3339 u := by
  rw [← String.not_lt, formatRFC3339_lt_iff years' years, not_lt]
  exact Int.ediv_le_ediv (by decide) before

/-- The samples of a UPS are in the order of their times, without a tie. -/
theorem Log.Sound.untied {log : Log} (sound : log.Sound) (member : row ∈ log.tables.ups) :
    Untied (samplesOf log.tables row.id) := by
  have composed := sound.valid.composed row member
  rw [sound.samples row member]
  constructor
  · rw [List.pairwise_flatMap]
    refine ⟨?_, ?_⟩
    · intro recording inside
      have all : ∀ sample ∈ recording.samplesFor row, sample.capturedAt = formatRFC3339 recording.capturedAt :=
        fun sample own => (mem_samplesFor composed own).2
      apply List.pairwise_of_forall_mem_list
      intro sample own later own'
      have same : sample.capturedAt = later.capturedAt := (all sample own).trans (all later own').symm
      exact same ▸ String.le_refl sample.capturedAt
    · apply sound.ordered.imp_of_mem
      intro one other inside inside' before sample own later own'
      rw [(mem_samplesFor composed own).2, (mem_samplesFor composed own').2]
      exact formatRFC3339_le (sound.years one inside) (sound.years other inside') before
  · intro sample inside other inside' same time
    obtain ⟨recording, listed, own⟩ := List.mem_flatMap.mp inside
    obtain ⟨recording', listed', own'⟩ := List.mem_flatMap.mp inside'
    obtain ⟨gives, text⟩ := mem_samplesFor composed own
    obtain ⟨gives', text'⟩ := mem_samplesFor composed own'
    rw [text, text', formatRFC3339_eq_iff (sound.years recording listed) (sound.years recording' listed')] at time
    rw [← same] at gives'
    exact sound.agree recording listed recording' listed' time _ _ _ _ _ gives gives'

theorem Log.Sound.of_stored {log : Log} (sound : log.Sound) {sample : SampleRow} (stored : sample ∈ log.tables.samples) :
    ∃ recording ∈ log.recordings, ∃ nodeID upsName, recording.Gives nodeID upsName sample.variable_ sample.value ∧
      sample.capturedAt = formatRFC3339 recording.capturedAt := by
  obtain ⟨row, member, id⟩ := sound.owned sample stored
  have inside : sample ∈ samplesOf log.tables row.id := List.mem_filter.mpr ⟨stored, by simp [id]⟩
  rw [sound.samples row member] at inside
  obtain ⟨recording, listed, own⟩ := List.mem_flatMap.mp inside
  obtain ⟨gives, text⟩ := mem_samplesFor (sound.valid.composed row member) own
  exact ⟨recording, listed, _, _, gives, text⟩

theorem Log.Sound.clear {log : Log} (sound : log.Sound) : log.tables.Clear where
  valid := sound.valid
  tags := sound.tags
  untied := fun _ member => sound.untied member
  readable := by
    intro sample stored
    obtain ⟨recording, listed, -, -, -, text⟩ := sound.of_stored stored
    exact ⟨_, text ▸ parseRFC3339_format (sound.years recording listed)⟩
  plain := by
    intro sample stored
    obtain ⟨recording, listed, nodeID, upsName, gives, -⟩ := sound.of_stored stored
    exact sound.plain recording listed nodeID upsName _ _ gives

/-! ## One call -/

theorem runStatements_induction {P : Tables → Prop} {statements : List Statement} {t u : Tables}
    (step : ∀ statement ∈ statements, ∀ t u, P t → statement.run t = .ok u → P u)
    (ran : runStatements statements t = .ok u) (start : P t) : P u := by
  induction statements generalizing t with
  | nil =>
    cases ran
    exact start
  | cons statement rest ih =>
    simp only [runStatements, List.foldlM_cons, except_bind_eq_ok] at ran
    obtain ⟨next, one, later⟩ := ran
    exact ih (fun other inside => step other (List.mem_cons_of_mem _ inside)) later
      (step statement List.mem_cons_self t next start one)

/-- The rows have tags that read back, and the samples rows that they belong to. -/
structure Tables.Kept (t : Tables) : Prop where
  distinct : (t.ups.map (·.id)).Nodup
  tags : ∀ row ∈ t.ups, ∃ list, decodeUPSTags row.tagsJSON = .ok list
  owned : ∀ sample ∈ t.samples, ∃ row ∈ t.ups, row.id = sample.upsID

theorem decodeUPSTags_encode (tags : List String) : ∃ list, decodeUPSTags (encodeUPSTags tags) = .ok list := by
  unfold encodeUPSTags decodeUPSTags
  split
  · exact ⟨[], rfl⟩
  · split
    · exact ⟨[], rfl⟩
    · rw [Json.decodeStrings_marshal]
      exact ⟨tags, rfl⟩

theorem Tables.Kept.deleteUPS (kept : t.Kept) (stale : UPSRow → Bool) : (t.deleteUPS stale).Kept where
  distinct := kept.distinct.sublist (List.filter_sublist.map _)
  tags := fun row member => kept.tags row (mem_deleteUPS.mp member).1
  owned := by
    intro sample inside
    obtain ⟨stored, spared⟩ := List.mem_filter.mp inside
    obtain ⟨row, member, id⟩ := kept.owned sample stored
    have fresh : stale row = false := by
      simp only [Bool.not_eq_true', List.any_eq_false] at spared
      simpa [id] using spared row member
    exact ⟨row, mem_deleteUPS.mpr ⟨member, fresh⟩, id⟩

theorem Tables.Kept.upsert (kept : t.Kept) {new : UPSRow} (tags : ∃ list, decodeUPSTags new.tagsJSON = .ok list) :
    ({ t with ups := upsertRow t.ups new } : Tables).Kept where
  distinct := by
    rw [ids_upsertRow]
    split
    · exact kept.distinct
    · next missing => exact List.nodup_append.mpr ⟨kept.distinct, by simp, by simpa using missing⟩
  tags := by
    intro row member
    by_cases same : row.id = new.id
    · obtain ⟨old, member', -, rfl⟩ | ⟨-, rfl⟩ := (mem_upsertRow_of_eq same).mp member
      · exact kept.tags old member'
      · exact tags
    · exact kept.tags row ((mem_upsertRow_of_ne same).mp member)
  owned := by
    intro sample inside
    obtain ⟨row, member, id⟩ := kept.owned sample inside
    obtain ⟨row', member', id', -⟩ : ∃ row' ∈ upsertRow t.ups new, row'.id = row.id ∧ _ := upsertRow_keeps member
    exact ⟨row', member', id'.trans id⟩

theorem kept_of_run {nodeID : String} {capturedAt : Time} {snapshots : List UPSSnapshot} {u : Tables} (kept : t.Kept)
    (ran : runStatements (callStatements nodeID capturedAt snapshots) t = .ok u) : u.Kept := by
  apply runStatements_induction _ ran kept
  intro statement inside t u kept one
  cases statement with
  | upsertUPS new =>
    simp only [Statement.run] at one
    split at one
    · obtain rfl := Except.ok.inj one
      apply kept.upsert
      -- the statement is that of a snapshot
      obtain inside | inside := List.mem_append.mp inside
      · obtain ⟨snapshot, -, listed⟩ := List.mem_flatMap.mp inside
        obtain same | inserted := List.mem_cons.mp listed
        · cases same
          exact decodeUPSTags_encode snapshot.metadata.tags
        · obtain ⟨sample, -, same⟩ := List.mem_map.mp inserted
          cases same
      · rw [List.mem_singleton] at inside
        unfold pruneStatement at inside
        split at inside <;> cases inside
    · cases one
  | insertSample sample =>
    simp only [Statement.run] at one
    split at one
    · next present =>
      obtain rfl := Except.ok.inj one
      refine ⟨kept.distinct, kept.tags, ?_⟩
      intro other inside
      obtain old | new := List.mem_append.mp inside
      · exact kept.owned other old
      · rw [List.mem_singleton.mp new]
        exact List.mem_map.mp present
    · cases one
  | clearInventory nodeID =>
    obtain rfl := Except.ok.inj one
    exact kept.deleteUPS _
  | pruneInventory nodeID activeIDs =>
    obtain rfl := Except.ok.inj one
    exact kept.deleteUPS _

section Step

variable {log : Log} {call : RecordCall}

theorem Log.Sound.kept (sound : log.Sound) : log.tables.Kept := ⟨sound.valid.distinct, sound.tags, sound.owned⟩

theorem law_samples_eq (recording : Recording) (own : recording.nodeID = row.nodeID) :
    (((named recording.snapshots).flatMap (·.samples recording.nodeID (formatRFC3339 recording.capturedAt))).filter
      fun sample => sample.upsID = row.id) = recording.samplesFor row := by
  rw [Recording.samplesFor, if_pos own, Recording.rows]

/-- A UPS that comes into the inventory has no samples from before, and no recording. -/
theorem Log.Sound.new_samples (sound : log.Sound) (distinguishable : Distinguishable log call)
    (own : row.nodeID = call.recording.nodeID) (composed : row.id = upsID row.nodeID row.name)
    (names : call.recording.Names row.nodeID row.name)
    (absent : ¬ ∃ old ∈ log.tables.ups, old.nodeID = row.nodeID ∧ old.name = row.name) :
    samplesOf log.tables row.id = [] ∧ log.recordings.flatMap (·.samplesFor row) = [] := by
  constructor
  · rw [samplesOf, List.filter_eq_nil_iff]
    intro sample stored
    simp only [decide_eq_true_eq]
    intro ofRow
    obtain ⟨old, member, id⟩ := sound.owned sample stored
    obtain ⟨-, snapshot, listed, name⟩ := names
    have active : old.id ∈ activeIDs call.recording.nodeID call.recording.snapshots := by
      rw [id, ofRow, composed, ← name, own]
      exact List.mem_map_of_mem (f := fun snapshot => (UPSSnapshot.row snapshot call.recording.nodeID).id) listed
    by_cases other : old.nodeID = call.recording.nodeID
    · apply absent
      refine ⟨old, member, other.trans own.symm, ?_⟩
      have same := sound.valid.composed old member
      rw [id, ofRow, composed, own, other] at same
      exact (upsID_inj same).symm
    · exact distinguishable.clear ⟨old, member, other, active⟩
  · rw [own] at names absent
    obtain present | never := distinguishable.returns row.name names
    · exact absurd present absent
    · rw [List.flatMap_eq_nil_iff]
      intro earlier listed
      rw [List.eq_nil_iff_forall_not_mem]
      intro sample inside
      obtain ⟨⟨node, snapshot, named, name, -⟩, -⟩ := mem_samplesFor composed inside
      exact never earlier listed ⟨node.trans own, snapshot, named, name⟩

theorem Log.Sound.samples_step (sound : log.Sound) (distinguishable : Distinguishable log call) {v : Tables}
    (valid : v.Valid)
    (law : Law call.recording.nodeID call.recording.capturedAt call.recording.snapshots log.tables v) :
    ∀ row ∈ v.ups, samplesOf v row.id = (log.recordings ++ [call.recording]).flatMap (·.samplesFor row) := by
  intro row member
  rw [List.flatMap_append, List.flatMap_cons, List.flatMap_nil, List.append_nil]
  by_cases own : row.nodeID = call.recording.nodeID
  · rw [law.samples row member own, law_samples_eq call.recording own.symm]
    congr 1
    by_cases present : ∃ old ∈ log.tables.ups, old.nodeID = row.nodeID ∧ old.name = row.name
    · obtain ⟨old, stored, node, name⟩ := present
      have id : row.id = old.id := by
        rw [valid.composed row member, sound.valid.composed old stored, node, name]
      have same : (fun recording : Recording => recording.samplesFor row) =
          fun recording : Recording => recording.samplesFor old := by
        funext recording
        simp only [Recording.samplesFor, id, node]
      rw [id, sound.samples old stored, same]
    · have names : call.recording.Names row.nodeID row.name := by
        obtain ⟨nonblank, snapshot, listed, name⟩ := (law.inventory row.name).mp ⟨row, member, own, rfl⟩
        refine ⟨own.symm, snapshot, ?_, name⟩
        exact List.mem_filter.mpr ⟨listed, by simpa [name] using nonblank⟩
      obtain ⟨stored, recorded⟩ := sound.new_samples distinguishable own (valid.composed row member) names present
      rw [stored, recorded]
  · have old := (law.otherUPSes row own).mp member
    have none : call.recording.samplesFor row = [] := if_neg (Ne.symm own)
    rw [law.otherSamples row old own, sound.samples row old, none, List.append_nil]

/-- A call that the views can tell apart from the earlier ones keeps the samples in order. -/
theorem sound_step (log : Log) (call : RecordCall) (after : Log) (sound : log.Sound)
    (guard : Timed log call ∧ Distinguishable log call) (taken : logStep log call = some after) : after.Sound := by
  obtain ⟨timed, distinguishable⟩ := guard
  unfold logStep at taken
  simp only at taken
  obtain ⟨cause, same⟩ | ⟨v, ran, same⟩ := recordCall_runs call.recording.nodeID call.recording.capturedAt
      call.recording.snapshots call.choices log.tables
  · rw [same] at taken
    rw [← Option.some.inj taken]
    exact sound
  · rw [same] at taken
    rw [← Option.some.inj taken]
    have kept := kept_of_run sound.kept ran
    obtain ⟨u, recorded, shape⟩ := recorded_of_run ran
    have valid : v.Valid := by
      rw [shape]
      exact (recorded.valid sound.valid).deleteUPS _
    have law : Law call.recording.nodeID call.recording.capturedAt call.recording.snapshots log.tables v := by
      rw [shape]
      exact law_of_recorded recorded sound.valid distinguishable.clear
    have parts {recording : Recording} (inside : recording ∈ log.recordings ++ [call.recording]) :
        recording ∈ log.recordings ∨ recording = call.recording := by
      simpa using inside
    constructor
    · exact valid
    · exact kept.tags
    · exact kept.owned
    · exact sound.samples_step distinguishable valid law
    · intro recording inside
      obtain old | rfl := parts inside
      · exact sound.years recording old
      · exact timed.years
    · rw [List.pairwise_append]
      refine ⟨sound.ordered, by simp, ?_⟩
      intro earlier listed later new
      rw [List.mem_singleton.mp new]
      exact timed.later earlier listed
    · intro one inside other inside' time nodeID upsName v value value' gives gives'
      obtain old | rfl := parts inside'
      · obtain old' | rfl := parts inside
        · exact sound.agree one old' other old time nodeID upsName v value value' gives gives'
        · exact (distinguishable.agree other inside' time.symm nodeID upsName v value' value gives' gives).symm
      · exact distinguishable.agree one inside time nodeID upsName v value value' gives gives'
    · intro recording inside nodeID upsName v value gives
      obtain old | rfl := parts inside
      · exact sound.plain recording old nodeID upsName v value gives
      · exact distinguishable.plain nodeID upsName v value gives

end Step

/-! ## Every run -/

/-- The two views report the last recorded value of every variable of every UPS. -/
structure ReportsLatest (byVariable : RowOrder ByVariable) (byNameAndVariable : RowOrder ByNameAndVariable)
    (log : Log) : Prop where
  detail : ∀ row ∈ log.tables.ups, ∃ detail, getUPSDetail byVariable row.nodeID row.name log.tables = .ok detail ∧
    detail.vars = lastValue log.recordings row.nodeID row.name
  summaries : ∀ nodeID, ∃ summaries, listNodeUPSSummaries byNameAndVariable nodeID log.tables = .ok summaries ∧
    (∀ row ∈ log.tables.ups, row.nodeID = nodeID → ∃ summary ∈ summaries, summary.name = row.name) ∧
    ∀ summary ∈ summaries, Summarizes summary (lastValue log.recordings nodeID summary.name)

theorem Log.Sound.reports {log : Log} (sound : log.Sound) (byVariable : RowOrder ByVariable)
    (byNameAndVariable : RowOrder ByNameAndVariable) : ReportsLatest byVariable byNameAndVariable log where
  detail := by
    intro row member
    have readable : ∀ sample ∈ samplesOf log.tables row.id, ReadableTime sample :=
      fun sample inside => sound.clear.readable sample (mem_of_mem_samplesOf inside)
    obtain ⟨detail, ran, vars⟩ :=
      detail_reports byVariable sound.valid member (sound.tags row member) (sound.untied member) readable
    refine ⟨detail, ran, ?_⟩
    rw [vars, sound.samples row member, lastOf_samplesFor _ (sound.valid.composed row member)]
  summaries := by
    intro nodeID
    obtain ⟨summaries, ran, every, each⟩ := summaries_report sound.clear byNameAndVariable nodeID
    refine ⟨summaries, ran, every, ?_⟩
    intro summary inside
    obtain ⟨row, member, own, name, summarizes⟩ := each summary inside
    rw [sound.samples row member, lastOf_samplesFor _ (sound.valid.composed row member), own] at summarizes
    rwa [name]

/-- In every run of calls at times that do not decrease, none of which ties with another one: both
    views report the last recorded values, whatever the order of the rows that tie. -/
theorem reports_latest {nodes : Rows} {calls : List RecordCall} {log : Log}
    (guarded : Guarded logStep (fun log call => Timed log call ∧ Distinguishable log call) { tables := { nodes } } calls)
    (run : replay logStep { tables := { nodes } } calls = some log) (byVariable : RowOrder ByVariable)
    (byNameAndVariable : RowOrder ByNameAndVariable) : ReportsLatest byVariable byNameAndVariable log := by
  have empty : Log.Sound { tables := { nodes } } := by
    constructor
    · exact ⟨by simp, by simp⟩
    all_goals simp
  exact (replay_invariant sound_step empty guarded run).reports byVariable byNameAndVariable

/-- The rows of one node. -/
def oneNode : Rows := (upsertDiscoveredNode (discoveredAs "a") []).2

/-- A call for its UPS, with this status. -/
def statusCall (status : String) : RecordCall where
  recording := { nodeID := "a", capturedAt := sampleTime
                 snapshots := [{ name := "ups", vars := { entries := [("ups.status", status)], distinct := by simp } }] }

theorem reports_latest_of_call : ∃ log, replay logStep { tables := { nodes := oneNode } } [statusCall "OL"] = some log ∧
    ReportsLatest (tiesInserted ByVariable) (tiesReversed ByNameAndVariable) log := by
  obtain ⟨log, run⟩ : ∃ log, replay logStep { tables := { nodes := oneNode } } [statusCall "OL"] = some log :=
    Option.isSome_iff_exists.mp (by decide +kernel)
  have gives : ∀ {nodeID upsName v value : String}, (statusCall "OL").recording.Gives nodeID upsName v value →
      v = "ups.status" ∧ value = "OL" := by
    intro nodeID upsName v value given
    obtain ⟨-, snapshot, listed, -, entry⟩ := given
    obtain rfl := List.mem_singleton.mp (List.mem_of_mem_filter listed)
    have same := List.mem_singleton.mp entry
    exact ⟨congrArg Prod.fst same, congrArg Prod.snd same⟩
  have timed : Timed { tables := { nodes := oneNode } } (statusCall "OL") :=
    ⟨(by decide +kernel : sampleTime.FourDigitYear), by simp⟩
  have distinguishable : Distinguishable { tables := { nodes := oneNode } } (statusCall "OL") := by
    constructor
    · intro clash
      obtain ⟨row, member, -⟩ := clash
      cases member
    · intro upsName names
      exact .inr (by simp)
    · intro other inside _ nodeID upsName v value value' given given'
      obtain rfl := List.mem_singleton.mp inside
      rw [(gives given).2, (gives given').2]
    · intro nodeID upsName v value given
      rw [(gives given).1]
      unfold Plain
      decide +kernel
  have guarded : Guarded logStep (fun log call => Timed log call ∧ Distinguishable log call)
      { tables := { nodes := oneNode } } [statusCall "OL"] := by
    refine ⟨⟨timed, distinguishable⟩, ?_⟩
    intro after taken
    trivial
  exact ⟨log, run, reports_latest guarded run _ _⟩

/-- What is left of a run: the last recorded status, that of the detail, and those of the summaries. -/
def statusesAfter (calls : List RecordCall) : Option (Option String × Option String × Option (List String)) :=
  (replay logStep { tables := { nodes := oneNode } } calls).map fun log =>
    (lastValue log.recordings "a" "ups" "ups.status",
      (getUPSDetail (tiesInserted ByVariable) "a" "ups" log.tables).toOption.bind (·.vars "ups.status"),
      (listNodeUPSSummaries (tiesReversed ByNameAndVariable) "a" log.tables).toOption.map fun summaries =>
        summaries.map (·.status))

/-- Two statuses in one second: the detail has the last one, the summary the one before. -/
theorem tie_splits_views :
    statusesAfter [statusCall "OL", statusCall "OB"] = some (some "OB", some "OB", some ["OL"]) := by
  decide +kernel

end Strom.Registry
