import Mathlib.Data.List.Sort
import Strom.Registry.Inventory

/-!
# Old samples and the history of a UPS

`PruneSamplesBefore` and `ListUPSHistoryFiltered` compare the texts of times.  A text has the
time in UTC, so what counts is the year in UTC: over the years 0 to 9999 the texts are ordered
as the seconds they stand for, and both functions are exact (`history_in_time_order`).  Where a
zone puts a time of the year 9999 into the year 10000 of UTC, its text comes before every other.
-/

namespace Strom.Registry

open Strom.Go Strom.Effects

/-! ## Times with a zone -/

/-- A time with the offset of its zone, in seconds east of UTC. -/
structure ZonedTime where
  instant : Time
  offset : Int := 0
deriving DecidableEq, Repr

/-- `t.UTC()`. -/
def ZonedTime.utc (t : ZonedTime) : Time := t.instant

/-- The year that the calendar of the zone shows. -/
def ZonedTime.year (t : ZonedTime) : Int := (t.instant.add (t.offset * second)).date.year

/-! ## The query -/

/-- The order in which rows come out of an `ORDER BY`: all of them, with ties in any order. -/
structure RowOrder {α : Type} (before : α → α → Prop) where
  order : List α → List α
  perm (rows : List α) : (order rows).Perm rows
  sorted (rows : List α) : (order rows).Pairwise before

structure UPSHistorySample where
  variable_ : String
  value : String
  capturedAt : Time
deriving DecidableEq, Repr

def errUPSNotFound : GoError := .text "ups not found"

/-- `ORDER BY captured_at DESC, variable ASC`. -/
def NewestFirst (sample later : SampleRow) : Prop :=
  later.capturedAt < sample.capturedAt ∨
    sample.capturedAt = later.capturedAt ∧ sample.variable_ ≤ later.variable_

instance (sample later : SampleRow) : Decidable (NewestFirst sample later) :=
  inferInstanceAs (Decidable (_ ∨ _))

/-- The conditions of the query on a row. -/
def selected (upsID variable_ : String) (since : Time) (sample : SampleRow) : Bool :=
  sample.upsID = upsID && (trimSpace variable_ = "" || sample.variable_ = trimSpace variable_) &&
    (since.isZero || formatRFC3339 since ≤ sample.capturedAt)

def historyLimit (limit : Int) : Nat := if limit ≤ 0 then 200 else limit.toNat

def scanHistorySample (sample : SampleRow) : Except GoError UPSHistorySample :=
  match parseRFC3339 sample.capturedAt with
  | some capturedAt => .ok { variable_ := sample.variable_, value := sample.value, capturedAt }
  | none => .error (.wrap "parse UPS history captured_at" (.text sample.capturedAt))

/-- `ListUPSHistoryFiltered`, with queries that succeed. -/
def listUPSHistoryFiltered (newestFirst : RowOrder NewestFirst) (nodeID upsName variable_ : String) (since : Time)
    (limit : Int) (t : Tables) : Except GoError (List UPSHistorySample) :=
  match t.ups.find? fun row => row.nodeID = nodeID && row.name = upsName with
  | none => .error errUPSNotFound
  | some row =>
    ((newestFirst.order (t.samples.filter (selected row.id variable_ since))).take
      (historyLimit limit)).mapM scanHistorySample

/-! ## Rows in the order of their texts -/

instance : Std.Total NewestFirst where
  total sample later := by
    simp only [NewestFirst]
    have names := String.le_total sample.variable_ later.variable_
    by_cases earlier : sample.capturedAt < later.capturedAt
    · exact .inr (.inl earlier)
    by_cases newer : later.capturedAt < sample.capturedAt
    · exact .inl (.inl newer)
    · have same := String.le_antisymm (String.not_lt.mp newer) (String.not_lt.mp earlier)
      tauto

instance : IsTrans SampleRow NewestFirst where
  trans first second third := by
    intro one two
    simp only [NewestFirst] at *
    obtain newer | ⟨same, names⟩ := one
    · obtain newer' | ⟨same', -⟩ := two
      · exact .inl (String.lt_trans newer' newer)
      · exact .inl (same' ▸ newer)
    · obtain newer' | ⟨same', names'⟩ := two
      · exact .inl (same ▸ newer')
      · exact .inr ⟨same.trans same', String.le_trans names names'⟩

/-- An order that keeps ties as they are stored. -/
def inserted : RowOrder NewestFirst where
  order := List.insertionSort NewestFirst
  perm := List.perm_insertionSort NewestFirst
  sorted := List.pairwise_insertionSort NewestFirst

/-! ## Samples with times -/

/-- The time that the text of a sample stands for. -/
def SampleRow.takenAt (sample : SampleRow) : Time := (parseRFC3339 sample.capturedAt).getD Time.zero

def SampleRow.history (sample : SampleRow) : UPSHistorySample where
  variable_ := sample.variable_
  value := sample.value
  capturedAt := sample.takenAt

@[simp] theorem SampleRow.history_capturedAt (sample : SampleRow) :
    sample.history.capturedAt = sample.takenAt := by
  simp only [SampleRow.history]

/-- A sample of a time that falls into the years 0 to 9999 of UTC. -/
def SampleRow.Dated (sample : SampleRow) : Prop :=
  ∃ t : ZonedTime, t.utc.FourDigitYear ∧ sample.capturedAt = formatRFC3339 t.utc

def Tables.Dated (t : Tables) : Prop := ∀ sample ∈ t.samples, sample.Dated

/-- A sample of a UPS that matches the filter and the bound; no filter and the zero time
    match every sample. -/
def SampleRow.Matches (upsID variable_ : String) (since : Time) (sample : SampleRow) : Prop :=
  sample.upsID = upsID ∧ (trimSpace variable_ = "" ∨ sample.variable_ = trimSpace variable_) ∧
    (since.isZero ∨ since.unix ≤ sample.takenAt.unix)

instance (upsID variable_ : String) (since : Time) (sample : SampleRow) :
    Decidable (sample.Matches upsID variable_ since) := inferInstanceAs (Decidable (_ ∧ _))

/-- At the second of another sample or later, the samples of one second by their names. -/
def SampleRow.NotBefore (sample later : SampleRow) : Prop :=
  later.takenAt.unix < sample.takenAt.unix ∨
    sample.takenAt.unix = later.takenAt.unix ∧ sample.variable_ ≤ later.variable_

/-- The text of a dated sample reads back. -/
theorem SampleRow.Dated.spec {sample : SampleRow} (dated : sample.Dated) :
    ∃ t : Time, t.FourDigitYear ∧ sample.capturedAt = formatRFC3339 t ∧ sample.takenAt = t.truncated ∧
      scanHistorySample sample = .ok sample.history := by
  obtain ⟨t, years, text⟩ := dated
  have parsed : parseRFC3339 sample.capturedAt = some t.utc.truncated := by
    rw [text, parseRFC3339_format years]
  have taken : sample.takenAt = t.utc.truncated := by rw [takenAt, parsed, Option.getD_some]
  have scanned : scanHistorySample sample = .ok sample.history := by
    unfold scanHistorySample SampleRow.history
    rw [parsed, taken]
  exact ⟨t.utc, years, text, taken, scanned⟩

theorem formatRFC3339_eq_iff {t u : Time} (years : t.FourDigitYear) (years' : u.FourDigitYear) :
    formatRFC3339 t = formatRFC3339 u ↔ t.unix = u.unix := by
  have before := formatRFC3339_lt_iff years years'
  have after := formatRFC3339_lt_iff years' years
  constructor
  · intro same
    rw [same] at before after
    have irreflexive := String.lt_irrefl (formatRFC3339 u)
    have notBefore := mt before.mpr irreflexive
    have notAfter := mt after.mpr irreflexive
    omega
  · exact formatRFC3339_of_unix

theorem SampleRow.Dated.lt_iff {sample : SampleRow} (dated : sample.Dated) {bound : Time}
    (years : bound.FourDigitYear) : sample.capturedAt < formatRFC3339 bound ↔ sample.takenAt.unix < bound.unix := by
  obtain ⟨t, years', text, taken, -⟩ := dated.spec
  rw [text, taken, Time.unix_truncated]
  exact formatRFC3339_lt_iff years' years

theorem newestFirst_iff {sample later : SampleRow} (dated : sample.Dated) (dated' : later.Dated) :
    NewestFirst sample later ↔ sample.NotBefore later := by
  obtain ⟨t, years, text, taken, -⟩ := dated.spec
  obtain ⟨u, years', text', taken', -⟩ := dated'.spec
  simp only [NewestFirst, SampleRow.NotBefore, text, text', taken, taken', Time.unix_truncated]
  rw [formatRFC3339_lt_iff years' years, formatRFC3339_eq_iff years years']

theorem selected_iff {sample : SampleRow} (dated : sample.Dated) {since : Time} (years : since.FourDigitYear)
    (upsID variable_ : String) :
    selected upsID variable_ since sample = true ↔ sample.Matches upsID variable_ since := by
  have bound : formatRFC3339 since ≤ sample.capturedAt ↔ since.unix ≤ sample.takenAt.unix := by
    have before := dated.lt_iff years
    rw [← String.not_lt, before, not_lt]
  simp only [selected, SampleRow.Matches, Bool.and_eq_true, Bool.or_eq_true, decide_eq_true_eq, bound, and_assoc]

theorem mapM_scanHistorySample {rows : List SampleRow} (dated : ∀ sample ∈ rows, sample.Dated) :
    rows.mapM scanHistorySample = .ok (rows.map (·.history)) := by
  induction rows with
  | nil => rfl
  | cons sample rest ih =>
    obtain ⟨-, -, -, -, scanned⟩ := (dated sample List.mem_cons_self).spec
    have later := ih fun other inside => dated other (List.mem_cons_of_mem sample inside)
    simp only [List.mapM_cons, scanned, later]
    rfl

/-! ## Runs -/

/-- The calls that record samples do so at times in the years 0 to 9999 of UTC. -/
def DatedEvent (_ : Tables) : RegistryEvent → Prop
  | .recorded _ capturedAt _ _ => capturedAt.FourDigitYear
  | _ => True

theorem Tables.Dated.filter {t u : Tables} (dated : t.Dated) (kept : ∀ sample ∈ u.samples, sample ∈ t.samples) :
    u.Dated := fun sample inside => dated sample (kept sample inside)

theorem dated_step (t : Tables) (event : RegistryEvent) (u : Tables) (dated : t.Dated) (timed : DatedEvent t event)
    (taken : registryStep t event = some u) : u.Dated := by
  cases event with
  | discovered | adopted | trusted | described =>
    cases taken
    exact dated
  | deleted =>
    cases taken
    exact dated.filter fun sample inside => List.mem_of_mem_filter inside
  | pruned cutoff =>
    rw [← Option.some.inj taken, pruneSamplesBefore]
    exact dated.filter fun sample inside => List.mem_of_mem_filter inside
  | recorded nodeID capturedAt snapshots choices =>
    rw [← Option.some.inj taken]
    obtain ⟨cause, same⟩ | ⟨v, recorded, same⟩ := recordCall_cases nodeID capturedAt snapshots choices t
    · rw [same]
      exact dated
    · rw [same]
      have all : v.Dated := by
        intro sample inside
        rw [recorded.samples, List.mem_append] at inside
        obtain old | new := inside
        · exact dated sample old
        · obtain ⟨snapshot, -, written⟩ := List.mem_flatMap.mp new
          obtain ⟨entry, -, rfl⟩ := List.mem_map.mp written
          exact ⟨{ instant := capturedAt }, timed, rfl⟩
      exact all.filter fun sample inside => List.mem_of_mem_filter inside

/-- The samples of a registry are dated after every run whose recording times are. -/
theorem dated_of_replay {events : List RegistryEvent} {t : Tables}
    (timed : Guarded registryStep DatedEvent {} events) (run : replay registryStep {} events = some t) :
    t.Valid ∧ t.Dated := by
  have empty : Tables.Valid {} := ⟨by simp, by simp⟩
  have none : Tables.Dated {} := by simp [Tables.Dated]
  exact ⟨replay_preserves (fun _ event _ valid => valid_step event valid) empty run,
    replay_invariant dated_step none timed run⟩

/-! ## The two functions -/

variable {t : Tables}

/-- No sample from the second of the cutoff on is deleted, and every earlier one is. -/
theorem pruneSamplesBefore_eq (dated : t.Dated) {cutoff : Time} (years : cutoff.FourDigitYear) :
    pruneSamplesBefore cutoff t =
      { t with samples := t.samples.filter fun sample => cutoff.unix ≤ sample.takenAt.unix } := by
  have same : (t.samples.filter fun sample => ¬ sample.capturedAt < formatRFC3339 cutoff) =
      t.samples.filter fun sample => cutoff.unix ≤ sample.takenAt.unix := by
    apply List.filter_congr
    intro sample inside
    have before := (dated sample inside).lt_iff years
    simp only [before, not_lt]
  rw [pruneSamplesBefore, same]

theorem find_ups (valid : t.Valid) {row : UPSRow} (member : row ∈ t.ups) :
    ∃ found, (t.ups.find? fun other => other.nodeID = row.nodeID && other.name = row.name) = some found ∧
      found.id = row.id := by
  cases search : t.ups.find? fun other => other.nodeID = row.nodeID && other.name = row.name with
  | none =>
    have absent := List.find?_eq_none.mp search row member
    simp at absent
  | some found =>
    have inside := List.mem_of_find?_eq_some search
    have keys := List.find?_some search
    simp only [Bool.and_eq_true, decide_eq_true_eq] at keys
    refine ⟨found, rfl, ?_⟩
    rw [valid.composed found inside, valid.composed row member, keys.1, keys.2]

/-- The matching samples of a UPS as the query orders them. -/
def matchingRows (newestFirst : RowOrder NewestFirst) (upsID variable_ : String) (since : Time) (t : Tables) :
    List SampleRow :=
  newestFirst.order (t.samples.filter fun sample => sample.Matches upsID variable_ since)

theorem mem_matchingRows {newestFirst : RowOrder NewestFirst} {upsID variable_ : String} {since : Time}
    {sample : SampleRow} : sample ∈ matchingRows newestFirst upsID variable_ since t ↔
      sample ∈ t.samples ∧ sample.Matches upsID variable_ since := by
  rw [matchingRows, (newestFirst.perm _).mem_iff, List.mem_filter, decide_eq_true_eq]

theorem sorted_matchingRows (newestFirst : RowOrder NewestFirst) (dated : t.Dated) (upsID variable_ : String)
    (since : Time) : (matchingRows newestFirst upsID variable_ since t).Pairwise SampleRow.NotBefore := by
  apply (newestFirst.sorted _).imp_of_mem
  intro sample later inside inside' before
  have stored := dated sample (mem_matchingRows.mp inside).1
  have stored' := dated later (mem_matchingRows.mp inside').1
  exact (newestFirst_iff stored stored').mp before

theorem listUPSHistoryFiltered_eq (newestFirst : RowOrder NewestFirst) (valid : t.Valid) (dated : t.Dated)
    {row : UPSRow} (member : row ∈ t.ups) (variable_ : String) {since : Time} (years : since.FourDigitYear)
    (limit : Int) :
    listUPSHistoryFiltered newestFirst row.nodeID row.name variable_ since limit t =
      .ok (((matchingRows newestFirst row.id variable_ since t).take (historyLimit limit)).map (·.history)) := by
  obtain ⟨found, search, id⟩ := find_ups valid member
  have same : t.samples.filter (selected found.id variable_ since) =
      t.samples.filter fun sample => sample.Matches row.id variable_ since := by
    apply List.filter_congr
    intro sample inside
    have iff := selected_iff (dated sample inside) years row.id variable_
    rw [id, Bool.eq_iff_iff, iff, decide_eq_true_eq]
  simp only [listUPSHistoryFiltered, search, same]
  apply mapM_scanHistorySample
  intro sample inside
  exact dated sample (mem_matchingRows.mp (List.mem_of_mem_take inside)).1

/-- Over the years 0 to 9999 of UTC, at the granularity of seconds: the order of the texts is
    that of the times, the prune deletes exactly the samples older than its cutoff, and the
    history of a UPS is that of its matching samples, newest first, cut to the limit. -/
theorem history_in_time_order (newestFirst : RowOrder NewestFirst) (valid : t.Valid) (dated : t.Dated) :
    (∀ u v : ZonedTime, u.utc.FourDigitYear → v.utc.FourDigitYear →
      (formatRFC3339 u.utc < formatRFC3339 v.utc ↔ u.utc.unix < v.utc.unix)) ∧
    (∀ cutoff : ZonedTime, cutoff.utc.FourDigitYear → pruneSamplesBefore cutoff.utc t =
      { t with samples := t.samples.filter fun sample => cutoff.utc.unix ≤ sample.takenAt.unix }) ∧
    ∀ row ∈ t.ups, ∀ (variable_ : String) (since : ZonedTime) (limit : Int), since.utc.FourDigitYear →
      ∃ rows : List SampleRow,
        rows.Perm (t.samples.filter fun sample => sample.Matches row.id variable_ since.utc) ∧
        rows.Pairwise SampleRow.NotBefore ∧
        listUPSHistoryFiltered newestFirst row.nodeID row.name variable_ since.utc limit t =
          .ok ((rows.take (historyLimit limit)).map (·.history)) := by
  refine ⟨?_, ?_, ?_⟩
  · intro u v years years'
    exact formatRFC3339_lt_iff years years'
  · intro cutoff years
    exact pruneSamplesBefore_eq dated years
  · intro row member variable_ since limit years
    exact ⟨matchingRows newestFirst row.id variable_ since.utc t, newestFirst.perm _,
      sorted_matchingRows newestFirst dated row.id variable_ since.utc,
      listUPSHistoryFiltered_eq newestFirst valid dated member variable_ years limit⟩

/-- A UPS with a sample of the second 2026-06-25T09:00:00Z. -/
def sampledTables : Tables where
  ups := [{ id := "a:ups", nodeID := "a", name := "ups", driver := "" }]
  samples := [{ upsID := "a:ups", variable_ := "ups.status", value := "OL", capturedAt := formatRFC3339 sampleTime }]

theorem history_in_time_order_of_sample :
    pruneSamplesBefore sampleTime sampledTables = { sampledTables with
      samples := sampledTables.samples.filter fun sample => sampleTime.unix ≤ sample.takenAt.unix } := by
  have valid : sampledTables.Valid := ⟨by decide, by decide⟩
  have dated : sampledTables.Dated := by
    intro sample inside
    have only := List.mem_singleton.mp inside
    exact ⟨{ instant := sampleTime }, by decide +kernel, congrArg SampleRow.capturedAt only⟩
  exact (history_in_time_order inserted valid dated).2.1 { instant := sampleTime } (by decide +kernel)

/-- Half an hour before the end of the year 9999, an hour west of Greenwich. -/
def lastEvening : ZonedTime where
  instant := Time.ofUnix 253402302600
  offset := -3600

/-- The text of a time of the year 9999 in its own zone comes before that of an earlier time. -/
theorem text_order_fails_in_zone :
    ¬ ∀ u v : ZonedTime, 0 ≤ u.year ∧ u.year ≤ 9999 → 0 ≤ v.year ∧ v.year ≤ 9999 →
      (formatRFC3339 u.utc < formatRFC3339 v.utc ↔ u.utc.unix < v.utc.unix) := by
  intro ordered
  have iff := ordered lastEvening { instant := sampleTime } (by decide +kernel) (by decide +kernel)
  have before : formatRFC3339 lastEvening.utc < formatRFC3339 sampleTime := by decide +kernel
  have later : ¬ lastEvening.utc.unix < sampleTime.unix := by decide +kernel
  exact later (iff.mp before)

end Strom.Registry
