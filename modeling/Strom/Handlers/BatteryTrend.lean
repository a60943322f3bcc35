import Strom.Collections.Groups
import Strom.Registry.History

/-!
# The battery trend of a UPS (`buildBatteryRuntimeTrend`)

The trend asks for the samples of 45 days, at most 5000 of them, newest first, and puts them
together to snapshots by their seconds.  A snapshot counts as a point where its charge is at
least 85, it has a runtime, and its status is neither on battery nor discharging.

The limit counts samples, not snapshots: what lies past it is lost, and the snapshot at the
cut keeps its first variables only, among them not the status, whose name sorts last.  The
points are those of the whole window exactly where the samples past the limit make no
difference (`trend_over_window_iff`).
-/

namespace Strom.Handlers

open Strom.Go Strom.Registry Strom.Collections

/-- What the trend does with a `float64`; nothing here depends on how it is rounded. -/
structure Floats (F : Type) where
  /-- `strconv.ParseFloat`. -/
  parse : String → Option F
  /-- The constant `mantissa / 10 ^ places`. -/
  constant (mantissa : Int) (places : Nat) : F
  ofInt : Int → F
  toInt : F → Int
  add : F → F → F
  sub : F → F → F
  mul : F → F → F
  div : F → F → F
  le : F → F → Bool
  lt : F → F → Bool
  isZero : F → Bool
  /-- `d.Hours()`. -/
  hours : Int → F

/-- `strconv.ParseInt(s, 10, 64)`. -/
def parseInt (s : String) : Option Int :=
  let parts : Int × List Char :=
    match s.toList with
    | '-' :: digits => (-1, digits)
    | '+' :: digits => (1, digits)
    | digits => (1, digits)
  let value := parts.1 * digitsValue parts.2
  if parts.2 = [] || !parts.2.all Char.isDigit then none
  else if -2 ^ 63 ≤ value ∧ value < 2 ^ 63 then some value
  else none

structure BatteryTrendSnapshot (F : Type) where
  capturedAt : Time
  runtimeSeconds : Option Int := none
  chargePercent : Option F := none
  status : String := ""

structure BatteryTrendPoint where
  capturedAt : Time
  runtimeSeconds : Int
deriving DecidableEq, Repr

structure BatteryTrendResponse (F : Type) where
  baselineRuntimeSeconds : Int
  latestRuntimeSeconds : Int
  replacementThresholdSec : Int
  trendSecondsPer30Days : F
  samplesUsed : Nat
  latestSampledAt : Time
  estimatedReplaceBy : Time := Time.zero

section Trend

variable {F : Type} (f : Floats F)

/-- The switch of the loop over the history. -/
def BatteryTrendSnapshot.add (snapshot : BatteryTrendSnapshot F) (sample : UPSHistorySample) :
    BatteryTrendSnapshot F :=
  if trimSpace sample.variable_ = "battery.runtime" then
    match parseInt (trimSpace sample.value) with
    | some parsed => if 0 < parsed then { snapshot with runtimeSeconds := some parsed } else snapshot
    | none => snapshot
  else if trimSpace sample.variable_ = "battery.charge" then
    match f.parse (trimSpace sample.value) with
    | some parsed =>
      if f.le (f.ofInt 0) parsed && f.le parsed (f.ofInt 100) then { snapshot with chargePercent := some parsed }
      else snapshot
    | none => snapshot
  else if trimSpace sample.variable_ = "ups.status" then
    { snapshot with status := toUpper (trimSpace sample.value) }
  else snapshot

/-- `snapshotsByUnix`. -/
def snapshotsByUnix (history : List UPSHistorySample) : List (Int × BatteryTrendSnapshot F) :=
  gather (fun sample : UPSHistorySample => sample.capturedAt.unix)
    (fun snapshot sample => (snapshot.getD { capturedAt := sample.capturedAt }).add f sample) history

/-- The point of a snapshot that counts. -/
def BatteryTrendSnapshot.point (snapshot : BatteryTrendSnapshot F) : Option BatteryTrendPoint :=
  match snapshot.runtimeSeconds, snapshot.chargePercent with
  | some runtime, some charge =>
    if f.lt charge (f.ofInt 85) then none
    else if contains snapshot.status "OB" || contains snapshot.status "DISCHRG" then none
    else some { capturedAt := snapshot.capturedAt, runtimeSeconds := runtime }
  | _, _ => none

/-- The points in the order of their times, which makes the order of the map irrelevant. -/
def trendPoints (history : List UPSHistorySample) : List BatteryTrendPoint :=
  ((snapshotsByUnix f history).filterMap fun entry => entry.2.point f).insertionSort
    fun point later => point.capturedAt.ns ≤ later.capturedAt.ns

/-- The slope of the line through the points, in seconds a day; none for a zero denominator. -/
def slopeSecondsPerDay (first : BatteryTrendPoint) (points : List BatteryTrendPoint) : Option F :=
  let x (point : BatteryTrendPoint) := f.div (f.hours (point.capturedAt.sub first.capturedAt)) (f.ofInt 24)
  let y (point : BatteryTrendPoint) := f.ofInt point.runtimeSeconds
  let total (term : BatteryTrendPoint → F) := points.foldl (fun sum point => f.add sum (term point)) (f.ofInt 0)
  let sumX := total x
  let sumY := total y
  let sumXY := total fun point => f.mul (x point) (y point)
  let sumXX := total fun point => f.mul (x point) (x point)
  let n := f.ofInt points.length
  let denominator := f.sub (f.mul n sumXX) (f.mul sumX sumX)
  if f.isZero denominator then none
  else some (f.div (f.sub (f.mul n sumXY) (f.mul sumX sumY)) denominator)

def baselineOf (first : BatteryTrendPoint) (points : List BatteryTrendPoint) : Int :=
  points.foldl (fun baseline point => if baseline < point.runtimeSeconds then point.runtimeSeconds else baseline)
    first.runtimeSeconds

/-- When the line reaches the threshold, the zero time for never. -/
def estimatedReplaceBy (latest : BatteryTrendPoint) (threshold : Int) (slope : F) : Time :=
  if latest.runtimeSeconds ≤ threshold then latest.capturedAt
  else if f.le (f.constant (-1) 2) slope then Time.zero
  else
    let days := f.div (f.sub (f.ofInt threshold) (f.ofInt latest.runtimeSeconds)) slope
    if f.le days (f.ofInt 0) || f.lt (f.ofInt 3650) days then Time.zero
    else latest.capturedAt.add (f.toInt (f.mul (f.mul days (f.ofInt 24)) (f.ofInt (3600 * second))))

/-- What `buildBatteryRuntimeTrend` makes of the points. -/
def trendOf (points : List BatteryTrendPoint) : Option (BatteryTrendResponse F) :=
  match points.head?, points.getLast? with
  | some first, some latest =>
    if points.length < 3 then none
    else
      match slopeSecondsPerDay f first points with
      | none => none
      | some slope =>
        let baseline := baselineOf first points
        let threshold := f.toInt (f.mul (f.ofInt baseline) (f.constant 70 2))
        some {
          baselineRuntimeSeconds := baseline
          latestRuntimeSeconds := latest.runtimeSeconds
          replacementThresholdSec := threshold
          trendSecondsPer30Days := f.mul slope (f.ofInt 30)
          samplesUsed := points.length
          latestSampledAt := latest.capturedAt
          estimatedReplaceBy := estimatedReplaceBy f latest threshold slope }
  | _, _ => none

/-- 45 days before the call. -/
def trendSince (now : Time) : Time := now.add (-(45 * 24 * 3600 * second))

def trendLimit : Int := 5000

def buildBatteryRuntimeTrend (newestFirst : RowOrder NewestFirst) (nodeID upsName : String) (now : Time) (t : Tables) :
    Except GoError (Option (BatteryTrendResponse F)) := do
  let history ← listUPSHistoryFiltered newestFirst nodeID upsName "" (trendSince now) trendLimit t
  if history = [] then return none
  return trendOf f (trendPoints f history)

/-! ## What a snapshot says -/

def readRuntime (sample : UPSHistorySample) : Option Int :=
  if trimSpace sample.variable_ = "battery.runtime" then
    (parseInt (trimSpace sample.value)).filter fun parsed => 0 < parsed
  else none

def readCharge (sample : UPSHistorySample) : Option F :=
  if trimSpace sample.variable_ = "battery.charge" then
    (f.parse (trimSpace sample.value)).filter fun parsed => f.le (f.ofInt 0) parsed && f.le parsed (f.ofInt 100)
  else none

def readStatus (sample : UPSHistorySample) : Option String :=
  if trimSpace sample.variable_ = "ups.status" then some (toUpper (trimSpace sample.value)) else none

/-- What the last of the samples with something to say says. -/
def said {Part : Type} (read : UPSHistorySample → Option Part) (samples : List UPSHistorySample) : Option Part :=
  (samples.filterMap read).getLast?

/-- The samples of one recording time. -/
def recordedAt (samples : List UPSHistorySample) (time : Time) : List UPSHistorySample :=
  samples.filter fun sample => sample.capturedAt = time

/-- The snapshot of all samples of a recording time counts: it has a runtime and a charge of
    at least 85, and a status, if any, that is neither on battery nor discharging. -/
structure Counts (samples : List UPSHistorySample) (point : BatteryTrendPoint) : Prop where
  runtime : said readRuntime (recordedAt samples point.capturedAt) = some point.runtimeSeconds
  charge : ∃ charge ∈ said (readCharge f) (recordedAt samples point.capturedAt), f.lt charge (f.ofInt 85) = false
  status : ∀ status ∈ said readStatus (recordedAt samples point.capturedAt),
    contains status "OB" = false ∧ contains status "DISCHRG" = false

/-- A sample changes the part of a snapshot that it is about. -/
theorem add_eq (snapshot : BatteryTrendSnapshot F) (sample : UPSHistorySample) :
    snapshot.add f sample =
      { capturedAt := snapshot.capturedAt
        runtimeSeconds := (readRuntime sample).or snapshot.runtimeSeconds
        chargePercent := (readCharge f sample).or snapshot.chargePercent
        status := (readStatus sample).getD snapshot.status } := by
  unfold BatteryTrendSnapshot.add readRuntime readCharge readStatus
  by_cases runtime : trimSpace sample.variable_ = "battery.runtime"
  · simp only [runtime, if_true]
    cases parseInt (trimSpace sample.value) with
    | none => simp
    | some parsed => by_cases positive : 0 < parsed <;> simp [positive, Option.filter_some]
  by_cases charge : trimSpace sample.variable_ = "battery.charge"
  · simp only [charge, if_true]
    cases f.parse (trimSpace sample.value) with
    | none => simp
    | some parsed =>
      by_cases percent : (f.le (f.ofInt 0) parsed && f.le parsed (f.ofInt 100)) = true <;>
        simp [percent, Option.filter_some]
  by_cases status : trimSpace sample.variable_ = "ups.status"
  · simp [status]
  · simp [runtime, charge, status]

theorem said_concat {Part : Type} (read : UPSHistorySample → Option Part) (samples : List UPSHistorySample)
    (sample : UPSHistorySample) : said read (samples ++ [sample]) = (read sample).or (said read samples) := by
  unfold said
  rw [List.filterMap_append]
  cases part : read sample <;> simp [part]

/-- What the loop has gathered from the samples of a snapshot. -/
theorem foldl_add (samples : List UPSHistorySample) (time : Time) :
    samples.foldl (BatteryTrendSnapshot.add f) { capturedAt := time } =
      { capturedAt := time
        runtimeSeconds := said readRuntime samples
        chargePercent := said (readCharge f) samples
        status := (said readStatus samples).getD "" } := by
  induction samples using List.reverseRecOn with
  | nil => rfl
  | append_singleton samples sample ih =>
    rw [List.foldl_append, ih, List.foldl_cons, List.foldl_nil, add_eq]
    simp only [said_concat]
    cases readStatus sample <;> rfl

theorem point_eq_some {snapshot : BatteryTrendSnapshot F} {point : BatteryTrendPoint} :
    snapshot.point f = some point ↔
      snapshot.capturedAt = point.capturedAt ∧ snapshot.runtimeSeconds = some point.runtimeSeconds ∧
        (∃ charge ∈ snapshot.chargePercent, f.lt charge (f.ofInt 85) = false) ∧
          contains snapshot.status "OB" = false ∧ contains snapshot.status "DISCHRG" = false := by
  unfold BatteryTrendSnapshot.point
  obtain ⟨capturedAt, runtime, charge, status⟩ := snapshot
  obtain ⟨time, seconds⟩ := point
  cases runtime with
  | none => simp
  | some runtime =>
    cases charge with
    | none => simp
    | some charge =>
      cases low : f.lt charge (f.ofInt 85) with
      | true => simp [low]
      | false =>
        cases contains status "OB" <;> cases contains status "DISCHRG" <;> simp [low]

/-! ## The points of a history -/

/-- The samples have times of whole seconds, as those of the registry have. -/
def WholeSeconds (samples : List UPSHistorySample) : Prop :=
  ∀ sample ∈ samples, sample.capturedAt = Time.ofUnix sample.capturedAt.unix

/-- The snapshot of a second is that of its samples. -/
theorem mem_snapshotsByUnix {history : List UPSHistorySample} {second_ : Int} {snapshot : BatteryTrendSnapshot F} :
    (second_, snapshot) ∈ snapshotsByUnix f history ↔
      ∃ first rest, history.filter (·.capturedAt.unix = second_) = first :: rest ∧
        snapshot = (first :: rest).foldl (BatteryTrendSnapshot.add f) { capturedAt := first.capturedAt } := by
  unfold snapshotsByUnix
  rw [mem_gather]
  cases own : history.filter (·.capturedAt.unix = second_) with
  | nil => simp [collect]
  | cons first rest =>
    have collected := collect_cons (fun sample : UPSHistorySample => { capturedAt := sample.capturedAt })
      (BatteryTrendSnapshot.add f) first rest
    rw [collected]
    simp [eq_comm]

theorem recordedAt_eq {history : List UPSHistorySample} (whole : WholeSeconds history) {sample : UPSHistorySample}
    (inside : sample ∈ history) : recordedAt history sample.capturedAt =
      history.filter fun other => other.capturedAt.unix = sample.capturedAt.unix := by
  apply List.filter_congr
  intro other inside'
  simp only [decide_eq_decide]
  constructor
  · intro same
    rw [same]
  · intro same
    rw [whole other inside', whole sample inside, same]

/-- Every point is a snapshot that counts, and every such snapshot is a point. -/
theorem mem_trendPoints {history : List UPSHistorySample} (whole : WholeSeconds history)
    {point : BatteryTrendPoint} : point ∈ trendPoints f history ↔ Counts f history point := by
  unfold trendPoints
  rw [List.mem_insertionSort, List.mem_filterMap]
  constructor
  · intro found
    obtain ⟨⟨second_, snapshot⟩, entry, counts⟩ := found
    obtain ⟨first, rest, own, made⟩ := (mem_snapshotsByUnix f).mp entry
    rw [foldl_add] at made
    subst made
    simp only [point_eq_some] at counts
    obtain ⟨time, runtime, charge, status⟩ := counts
    have first_ : first ∈ history.filter fun sample => sample.capturedAt.unix = second_ := by simp [own]
    obtain ⟨inside, atSecond⟩ := List.mem_filter.mp first_
    have recorded : recordedAt history point.capturedAt = first :: rest := by
      rw [← time, recordedAt_eq whole inside, of_decide_eq_true atSecond, own]
    rw [← recorded] at runtime charge status
    refine ⟨runtime, charge, ?_⟩
    intro text last
    rw [Option.mem_def.mp last] at status
    exact status
  · intro counts
    cases own : recordedAt history point.capturedAt with
    | nil =>
      have none := counts.runtime
      simp [own, said] at none
    | cons first rest =>
      have first_ : first ∈ recordedAt history point.capturedAt := by simp [own]
      obtain ⟨inside, time⟩ := List.mem_filter.mp first_
      replace time := of_decide_eq_true time
      have gathered : history.filter (·.capturedAt.unix = first.capturedAt.unix) = first :: rest := by
        rw [← recordedAt_eq whole inside, time, own]
      have entry := (mem_snapshotsByUnix f).mpr ⟨first, rest, gathered, rfl⟩
      have point_ : ((first :: rest).foldl (BatteryTrendSnapshot.add f) { capturedAt := first.capturedAt }).point f =
          some point := by
        obtain ⟨runtime, charge, status⟩ := counts
        rw [own] at runtime charge status
        simp only [foldl_add, point_eq_some]
        refine ⟨time, runtime, charge, ?_⟩
        cases last : said readStatus (first :: rest) with
        | none =>
          have empty : contains "" "OB" = false ∧ contains "" "DISCHRG" = false := by decide
          exact empty
        | some text => exact status text last
      generalize (first :: rest).foldl (BatteryTrendSnapshot.add f) { capturedAt := first.capturedAt } = snapshot
        at entry point_
      exact ⟨_, entry, point_⟩

theorem sorted_trendPoints (history : List UPSHistorySample) :
    (trendPoints f history).Pairwise fun point later => point.capturedAt.ns ≤ later.capturedAt.ns := by
  have total : Std.Total fun point later : BatteryTrendPoint => point.capturedAt.ns ≤ later.capturedAt.ns :=
    ⟨fun _ _ => by omega⟩
  have trans : IsTrans BatteryTrendPoint fun point later => point.capturedAt.ns ≤ later.capturedAt.ns :=
    ⟨fun _ _ _ => by omega⟩
  exact List.pairwise_insertionSort _ _

/-- No two points have one time. -/
theorem nodup_trendPoints (history : List UPSHistorySample) :
    ((trendPoints f history).map (·.capturedAt)).Nodup := by
  have perm := List.perm_insertionSort (fun point later : BatteryTrendPoint => point.capturedAt.ns ≤ later.capturedAt.ns)
    ((snapshotsByUnix f history).filterMap fun entry => entry.2.point f)
  apply (perm.map _).nodup_iff.mpr
  have keys : ((snapshotsByUnix f history).map (·.1)).Nodup := nodup_gather history
  rw [List.Nodup, List.pairwise_map] at keys ⊢
  rw [List.pairwise_filterMap]
  apply keys.imp_of_mem
  intro entry later inside inside' apart point counts point' counts' same
  -- the time of a point falls into the second that is its key
  have keyed {entry : Int × BatteryTrendSnapshot F} {point : BatteryTrendPoint}
      (inside : entry ∈ snapshotsByUnix f history) (counts : entry.2.point f = some point) :
      point.capturedAt.unix = entry.1 := by
    obtain ⟨first, rest, own, made⟩ := (mem_snapshotsByUnix f).mp inside
    have first_ : first ∈ history.filter fun sample => sample.capturedAt.unix = entry.1 := by simp [own]
    have time := ((point_eq_some f).mp counts).1
    rw [made, foldl_add] at time
    rw [← time]
    exact of_decide_eq_true (List.mem_filter.mp first_).2
  apply apart
  rw [← keyed inside counts, ← keyed inside' counts', same]

/-! ## The trend of some points -/

/-- A trend is about some points: its baseline is the longest runtime, its latest values are
    those of the last point, and it counts every point. -/
structure BatteryTrendResponse.IsOf (response : BatteryTrendResponse F) (points : List BatteryTrendPoint) : Prop where
  baseline : ∀ point ∈ points, point.runtimeSeconds ≤ response.baselineRuntimeSeconds
  reached : ∃ point ∈ points, point.runtimeSeconds = response.baselineRuntimeSeconds
  latest : { capturedAt := response.latestSampledAt, runtimeSeconds := response.latestRuntimeSeconds } ∈ points
  last : ∀ point ∈ points, point.capturedAt.ns ≤ response.latestSampledAt.ns
  used : response.samplesUsed = points.length

theorem baselineOf_spec (first : BatteryTrendPoint) (points : List BatteryTrendPoint) :
    first.runtimeSeconds ≤ baselineOf first points ∧
      (∀ point ∈ points, point.runtimeSeconds ≤ baselineOf first points) ∧
        (baselineOf first points = first.runtimeSeconds ∨
          ∃ point ∈ points, point.runtimeSeconds = baselineOf first points) := by
  unfold baselineOf
  induction points using List.reverseRecOn with
  | nil => simp
  | append_singleton points point ih =>
    obtain ⟨lower, upper, reached⟩ := ih
    rw [List.foldl_append, List.foldl_cons, List.foldl_nil]
    split
    · next longer =>
      refine ⟨by omega, ?_, .inr ⟨point, by simp, rfl⟩⟩
      intro other inside
      obtain old | new := List.mem_append.mp inside
      · have bound := upper other old
        omega
      · rw [List.mem_singleton.mp new]
    · next shorter =>
      refine ⟨lower, ?_, ?_⟩
      · intro other inside
        obtain old | new := List.mem_append.mp inside
        · exact upper other old
        · rw [List.mem_singleton.mp new]
          omega
      · obtain start | ⟨other, inside, same⟩ := reached
        · exact .inl start
        · exact .inr ⟨other, List.mem_append_left _ inside, same⟩

theorem isOf_of_trendOf {points : List BatteryTrendPoint} {response : BatteryTrendResponse F}
    (sorted : points.Pairwise fun point later => point.capturedAt.ns ≤ later.capturedAt.ns)
    (trend : trendOf f points = some response) : response.IsOf points := by
  unfold trendOf at trend
  split at trend
  · next first latest head end_ =>
    split_ifs at trend
    split at trend
    · cases trend
    · cases trend
      obtain ⟨lower, upper, reached⟩ := baselineOf_spec first points
      have first_ := List.mem_of_mem_head? head
      constructor
      · exact upper
      · obtain start | found := reached
        · exact ⟨first, first_, start.symm⟩
        · exact found
      · exact List.mem_of_getLast? end_
      · intro point inside
        obtain ⟨front, rfl⟩ := List.getLast?_eq_some_iff.mp end_
        obtain earlier | last := List.mem_append.mp inside
        · exact (List.pairwise_append.mp sorted).2.2 point earlier latest (by simp)
        · rw [List.mem_singleton.mp last]
      · rfl
  · cases trend

/-! ## The window and its cut -/

/-- The samples of a UPS in the 45 days, in the order of the query. -/
def trendWindow (newestFirst : RowOrder NewestFirst) (upsID : String) (now : Time) (t : Tables) :
    List UPSHistorySample :=
  (matchingRows newestFirst upsID "" (trendSince now) t).map (·.history)

/-- The samples that the query returns. -/
def keptSamples (window : List UPSHistorySample) : List UPSHistorySample := window.take (historyLimit trendLimit)

/-- The samples past the limit. -/
def lostSamples (window : List UPSHistorySample) : List UPSHistorySample := window.drop (historyLimit trendLimit)

/-- What the samples past the limit were, they make no difference. -/
structure Undisturbed (window : List UPSHistorySample) : Prop where
  /-- A snapshot that is lost as a whole does not count. -/
  whole : ∀ sample ∈ lostSamples window, sample.capturedAt ∉ (keptSamples window).map (·.capturedAt) →
    ∀ runtime, ¬ Counts f window { capturedAt := sample.capturedAt, runtimeSeconds := runtime }
  /-- A snapshot at the cut counts by its first samples exactly as it counts by all. -/
  torn : ∀ sample ∈ lostSamples window, sample.capturedAt ∈ (keptSamples window).map (·.capturedAt) →
    ∀ runtime, Counts f (keptSamples window) { capturedAt := sample.capturedAt, runtimeSeconds := runtime } ↔
      Counts f window { capturedAt := sample.capturedAt, runtimeSeconds := runtime }

theorem recordedAt_append (kept lost : List UPSHistorySample) (time : Time) :
    recordedAt (kept ++ lost) time = recordedAt kept time ++ recordedAt lost time := List.filter_append _ _

theorem recordedAt_eq_nil {samples : List UPSHistorySample} {time : Time} :
    recordedAt samples time = [] ↔ time ∉ samples.map (·.capturedAt) := by
  simp only [recordedAt, List.filter_eq_nil_iff, decide_eq_true_eq, List.mem_map, not_exists, not_and]

theorem kept_append_lost (window : List UPSHistorySample) : keptSamples window ++ lostSamples window = window :=
  List.take_append_drop _ _

/-- A snapshot counts by its own samples. -/
theorem counts_congr {samples others : List UPSHistorySample} {point : BatteryTrendPoint}
    (same : recordedAt samples point.capturedAt = recordedAt others point.capturedAt) :
    Counts f samples point ↔ Counts f others point := by
  constructor
  · intro counts
    obtain ⟨runtime, charge, status⟩ := counts
    rw [same] at runtime charge status
    exact ⟨runtime, charge, status⟩
  · intro counts
    obtain ⟨runtime, charge, status⟩ := counts
    rw [← same] at runtime charge status
    exact ⟨runtime, charge, status⟩

theorem not_counts_of_absent {samples : List UPSHistorySample} {point : BatteryTrendPoint}
    (absent : point.capturedAt ∉ samples.map (·.capturedAt)) : ¬ Counts f samples point := by
  intro counts
  have runtime := counts.runtime
  rw [recordedAt_eq_nil.mpr absent] at runtime
  simp [said] at runtime

theorem counts_kept_iff (window : List UPSHistorySample) :
    (∀ point, Counts f (keptSamples window) point ↔ Counts f window point) ↔ Undisturbed f window := by
  constructor
  · intro same
    constructor
    · intro sample _ absent runtime counts
      exact not_counts_of_absent f absent ((same _).mpr counts)
    · intro sample _ _ runtime
      exact same _
  · intro undisturbed point
    by_cases lost : point.capturedAt ∈ (lostSamples window).map (·.capturedAt)
    · obtain ⟨sample, inside, time⟩ := List.mem_map.mp lost
      by_cases kept : sample.capturedAt ∈ (keptSamples window).map (·.capturedAt)
      · have iff := undisturbed.torn sample inside kept point.runtimeSeconds
        rw [time] at iff
        exact iff
      · have none := undisturbed.whole sample inside kept point.runtimeSeconds
        rw [time] at none kept
        have out := not_counts_of_absent f kept
        tauto
    · -- every sample of the recording time is kept
      apply counts_congr
      conv_rhs => rw [← kept_append_lost window]
      rw [recordedAt_append, recordedAt_eq_nil.mpr lost, List.append_nil]

theorem undisturbed_of_few {window : List UPSHistorySample} (few : window.length ≤ 5000) : Undisturbed f window := by
  have limit : historyLimit trendLimit = 5000 := rfl
  have none : lostSamples window = [] := by
    rw [lostSamples, limit, List.drop_eq_nil_iff]
    exact few
  constructor
  · intro sample inside
    simp [none] at inside
  · intro sample inside
    simp [none] at inside

variable {t : Tables}

theorem wholeSeconds_window {newestFirst : RowOrder NewestFirst} (dated : t.Dated) (upsID : String) (now : Time) :
    WholeSeconds (trendWindow newestFirst upsID now t) := by
  intro sample inside
  obtain ⟨row, member, rfl⟩ := List.mem_map.mp inside
  obtain ⟨time, -, -, taken, -⟩ := (dated row (mem_matchingRows.mp member).1).spec
  rw [SampleRow.history_capturedAt, taken, Time.unix_truncated, Time.truncated]

theorem buildBatteryRuntimeTrend_eq (newestFirst : RowOrder NewestFirst) (valid : t.Valid) (dated : t.Dated)
    {row : UPSRow} (member : row ∈ t.ups) {now : Time} (years : (trendSince now).FourDigitYear) :
    buildBatteryRuntimeTrend f newestFirst row.nodeID row.name now t =
      .ok (trendOf f (trendPoints f (keptSamples (trendWindow newestFirst row.id now t)))) := by
  have history := listUPSHistoryFiltered_eq newestFirst valid dated member "" years trendLimit
  rw [List.map_take] at history
  unfold buildBatteryRuntimeTrend
  rw [history]
  change (if keptSamples (trendWindow newestFirst row.id now t) = [] then _ else _) = _
  split
  · next empty =>
    rw [empty]
    rfl
  · rfl

/-- The trend of a UPS is that of some points, no two of one time, and these are exactly the
    snapshots of the 45 days that count if and only if the samples past the limit make no
    difference. -/
theorem trend_over_window_iff (newestFirst : RowOrder NewestFirst) (valid : t.Valid) (dated : t.Dated)
    {row : UPSRow} (member : row ∈ t.ups) {now : Time} (years : (trendSince now).FourDigitYear) :
    let window := trendWindow newestFirst row.id now t
    let points := trendPoints f (keptSamples window)
    buildBatteryRuntimeTrend f newestFirst row.nodeID row.name now t = .ok (trendOf f points) ∧
      (points.map (·.capturedAt)).Nodup ∧ (∀ response ∈ trendOf f points, response.IsOf points) ∧
      ((∀ point, point ∈ points ↔ Counts f window point) ↔ Undisturbed f window) := by
  intro window points
  have whole : WholeSeconds window := wholeSeconds_window dated row.id now
  have kept : WholeSeconds (keptSamples window) := fun sample inside => whole sample (List.mem_of_mem_take inside)
  refine ⟨buildBatteryRuntimeTrend_eq f newestFirst valid dated member years, nodup_trendPoints f _, ?_, ?_⟩
  · intro response trend
    exact isOf_of_trendOf f (sorted_trendPoints f _) trend
  · rw [← counts_kept_iff]
    simp only [points, mem_trendPoints f kept]

end Trend

/-! ## A snapshot at the cut -/

/-- Numbers without rounding, and the texts of integers. -/
def exactFloats : Floats Rat where
  parse s := (parseInt s).map fun n => (n : Rat)
  constant mantissa places := mantissa / 10 ^ places
  ofInt n := n
  toInt x := x.num.tdiv x.den
  add x y := x + y
  sub x y := x - y
  mul x y := x * y
  div x y := x / y
  le x y := x ≤ y
  lt x y := x < y
  isZero x := x = 0
  hours d := d / (3600 * second)

/-- So many hours after the first sample. -/
def hourOf (n : Int) : Time := sampleTime.add (n * 3600 * second)

theorem trend_over_window_iff_of_sample :
    (∀ point, point ∈ trendPoints exactFloats (keptSamples (trendWindow inserted "a:ups" (hourOf 1) sampledTables)) ↔
        Counts exactFloats (trendWindow inserted "a:ups" (hourOf 1) sampledTables) point) ↔
      Undisturbed exactFloats (trendWindow inserted "a:ups" (hourOf 1) sampledTables) := by
  have valid : sampledTables.Valid := ⟨by decide, by decide⟩
  have dated : sampledTables.Dated := by
    intro sample inside
    have only := List.mem_singleton.mp inside
    exact ⟨{ instant := sampleTime }, by decide +kernel, congrArg SampleRow.capturedAt only⟩
  have member : { id := "a:ups", nodeID := "a", name := "ups", driver := "" } ∈ sampledTables.ups :=
    List.mem_singleton_self _
  have years : (trendSince (hourOf 1)).FourDigitYear := by decide +kernel
  exact (trend_over_window_iff exactFloats inserted valid dated member years).2.2.2

def sampleAt (hour : Int) (variable_ value : String) : SampleRow :=
  { upsID := "a:ups", variable_, value, capturedAt := formatRFC3339 (hourOf hour) }

/-- Two snapshots that count, and before them one on battery. -/
def trendRows : List SampleRow := [
  sampleAt 2 "battery.charge" "100", sampleAt 2 "battery.runtime" "1100",
  sampleAt 1 "battery.charge" "100", sampleAt 1 "battery.runtime" "1200",
  sampleAt 0 "battery.charge" "90", sampleAt 0 "battery.runtime" "9000", sampleAt 0 "ups.status" "OB DISCHRG"]

/-- Those snapshots behind some samples of another variable. -/
def loadedTables (loads : Nat) : Tables where
  ups := [{ id := "a:ups", nodeID := "a", name := "ups", driver := "" }]
  samples := List.replicate loads (sampleAt 3 "ups.load" "20") ++ trendRows

/-- 5001 samples: the last of them is the status of the oldest snapshot. -/
def tornTables : Tables := loadedTables 4994

/-- A history that begins with the same sample over and over. -/
theorem trendPoints_replicate {F : Type} (f : Floats F) (n : Nat) {sample : UPSHistorySample}
    (idle : ∀ snapshot : BatteryTrendSnapshot F, snapshot.add f sample = snapshot) (rest : List UPSHistorySample) :
    trendPoints f (List.replicate (n + 1) sample ++ rest) = trendPoints f (sample :: rest) := by
  have gathered : snapshotsByUnix f (List.replicate (n + 1) sample ++ rest) = snapshotsByUnix f (sample :: rest) := by
    simp only [snapshotsByUnix, gather, List.foldl_append, List.foldl_cons]
    congr 1
    induction n with
    | zero => rfl
    | succ n ih =>
      rw [List.replicate_succ', List.foldl_append, ih]
      simp [modifyKey, idle]
  rw [trendPoints, gathered, trendPoints]

theorem idle_load (snapshot : BatteryTrendSnapshot Rat) :
    snapshot.add exactFloats (sampleAt 3 "ups.load" "20").history = snapshot := by
  have name : trimSpace (sampleAt 3 "ups.load" "20").history.variable_ = "ups.load" := by decide +kernel
  simp [BatteryTrendSnapshot.add, name]

theorem window_loadedTables (loads : Nat) : trendWindow inserted "a:ups" (hourOf 4) (loadedTables loads) =
    List.replicate loads (sampleAt 3 "ups.load" "20").history ++ trendRows.map (·.history) := by
  have rows : (loadedTables loads).samples = List.replicate loads (sampleAt 3 "ups.load" "20") ++ trendRows := rfl
  have all : ((loadedTables loads).samples.filter fun sample => sample.Matches "a:ups" "" (trendSince (hourOf 4))) =
      (loadedTables loads).samples := by
    have first : (sampleAt 3 "ups.load" "20").Matches "a:ups" "" (trendSince (hourOf 4)) := by decide +kernel
    have others : ∀ sample ∈ trendRows, sample.Matches "a:ups" "" (trendSince (hourOf 4)) := by decide +kernel
    rw [List.filter_eq_self]
    intro sample inside
    rw [rows, List.mem_append, List.mem_replicate] at inside
    obtain ⟨-, rfl⟩ | other := inside
    · exact decide_eq_true first
    · exact decide_eq_true (others sample other)
  have sorted : (loadedTables loads).samples.Pairwise NewestFirst := by
    have same : NewestFirst (sampleAt 3 "ups.load" "20") (sampleAt 3 "ups.load" "20") := by decide +kernel
    have others : ∀ sample ∈ trendRows, NewestFirst (sampleAt 3 "ups.load" "20") sample := by decide +kernel
    have chain : trendRows.IsChain NewestFirst := by decide +kernel
    rw [rows, List.pairwise_append]
    refine ⟨List.pairwise_replicate.mpr (.inr same), List.isChain_iff_pairwise.mp chain, ?_⟩
    intro first inside sample inside'
    rw [List.eq_of_mem_replicate inside]
    exact others sample inside'
  have ordered : inserted.order (loadedTables loads).samples = (loadedTables loads).samples := sorted.insertionSort_eq
  rw [trendWindow, matchingRows, all, ordered, rows]
  simp only [List.map_append, List.map_replicate]

/-- Loads that leave room for six more samples. -/
theorem keptSamples_loadedTables {loads : Nat} (room : loads + 6 = 5000) :
    keptSamples (trendWindow inserted "a:ups" (hourOf 4) (loadedTables loads)) =
      List.replicate loads (sampleAt 3 "ups.load" "20").history ++ (trendRows.take 6).map (·.history) := by
  have limit : historyLimit trendLimit = loads + 6 := by
    rw [room]
    rfl
  rw [keptSamples, window_loadedTables, limit, List.take_append, List.length_replicate, Nat.add_sub_cancel_left,
    List.take_of_length_le (by simp), List.map_take]

theorem dated_loadedTables (loads : Nat) : (loadedTables loads).Dated := by
  have dated (hour : Int) (variable_ value : String) (years : (hourOf hour).FourDigitYear) :
      (sampleAt hour variable_ value).Dated := ⟨{ instant := hourOf hour }, years, rfl⟩
  have first : (sampleAt 3 "ups.load" "20").Dated := dated 3 _ _ (by decide +kernel)
  have hours : (hourOf 2).FourDigitYear ∧ (hourOf 1).FourDigitYear ∧ (hourOf 0).FourDigitYear := by decide +kernel
  intro sample inside
  obtain load | other := List.mem_append.mp inside
  · rw [List.eq_of_mem_replicate load]
    exact first
  · simp only [trendRows, List.mem_cons, List.not_mem_nil, or_false] at other
    obtain rfl | rfl | rfl | rfl | rfl | rfl | rfl := other
    · exact dated 2 _ _ hours.1
    · exact dated 2 _ _ hours.1
    · exact dated 1 _ _ hours.2.1
    · exact dated 1 _ _ hours.2.1
    · exact dated 0 _ _ hours.2.2
    · exact dated 0 _ _ hours.2.2
    · exact dated 0 _ _ hours.2.2

/-- The trend counts the snapshot that was taken on battery, and its runtime is the baseline. -/
theorem trend_counts_snapshot_on_battery :
    (∃ response, buildBatteryRuntimeTrend exactFloats inserted "a" "ups" (hourOf 4) tornTables = .ok (some response) ∧
        response.samplesUsed = 3 ∧ response.baselineRuntimeSeconds = 9000) ∧
      { capturedAt := hourOf 0, runtimeSeconds := 9000 } ∈
        trendPoints exactFloats (keptSamples (trendWindow inserted "a:ups" (hourOf 4) tornTables)) ∧
      ¬ Counts exactFloats (trendWindow inserted "a:ups" (hourOf 4) tornTables)
        { capturedAt := hourOf 0, runtimeSeconds := 9000 } := by
  have points : trendPoints exactFloats (keptSamples (trendWindow inserted "a:ups" (hourOf 4) tornTables)) =
      [{ capturedAt := hourOf 0, runtimeSeconds := 9000 }, { capturedAt := hourOf 1, runtimeSeconds := 1200 },
        { capturedAt := hourOf 2, runtimeSeconds := 1100 }] := by
    rw [tornTables, keptSamples_loadedTables rfl, trendPoints_replicate exactFloats 4993 idle_load]
    decide +kernel
  refine ⟨?_, ?_, ?_⟩
  · have valid : tornTables.Valid := ⟨by decide, by decide⟩
    have member : { id := "a:ups", nodeID := "a", name := "ups", driver := "" } ∈ tornTables.ups :=
      List.mem_singleton_self _
    have years : (trendSince (hourOf 4)).FourDigitYear := by decide +kernel
    have built := buildBatteryRuntimeTrend_eq exactFloats inserted valid (dated_loadedTables 4994) member years
    rw [points] at built
    have trend : (trendOf exactFloats [{ capturedAt := hourOf 0, runtimeSeconds := 9000 },
        { capturedAt := hourOf 1, runtimeSeconds := 1200 }, { capturedAt := hourOf 2, runtimeSeconds := 1100 }]).map
          (fun response => (response.samplesUsed, response.baselineRuntimeSeconds)) = some (3, 9000) := by
      decide +kernel
    obtain ⟨response, is, values⟩ := Option.map_eq_some_iff.mp trend
    rw [is] at built
    simp only [Prod.mk.injEq] at values
    exact ⟨response, built, values⟩
  · rw [points]
    exact List.mem_cons_self
  · intro counts
    have status : said readStatus (recordedAt (trendRows.map (·.history)) (hourOf 0)) = some "OB DISCHRG" := by
      decide +kernel
    have later : ¬ (sampleAt 3 "ups.load" "20").history.capturedAt = hourOf 0 := by decide +kernel
    have loads : recordedAt (List.replicate 4994 (sampleAt 3 "ups.load" "20").history) (hourOf 0) = [] := by
      rw [recordedAt, List.filter_eq_nil_iff]
      intro sample inside
      rw [List.eq_of_mem_replicate inside, decide_eq_true_eq]
      exact later
    have read := counts.status "OB DISCHRG"
    rw [tornTables, window_loadedTables, recordedAt_append, loads, List.nil_append] at read
    have onBattery : contains "OB DISCHRG" "OB" = true := by decide
    simp [read status] at onBattery

end Strom.Handlers
