import Strom.Agent.Advertiser
import Strom.Effects.Run

/-!
# Factory resets at a start (`main.go`)

A start that finds a marker file removes the node's state and then the marker.  `reset_once`: where
every start that applies a reset gets its marker removed and finds no other marker, no later start
removes anything unless a marker was created in between.
-/

namespace Strom.Agent

open Strom.Go Strom.Effects

/-- `factoryResetMarkerPath` and `factoryResetLegacyPath`. -/
inductive MarkerPath where
  | firmware
  | legacy
deriving DecidableEq, Repr

def MarkerPath.text : MarkerPath → String
  | firmware => "/boot/firmware/strom-factory-reset"
  | legacy => "/boot/strom-factory-reset"

def markerPaths : List MarkerPath := [.firmware, .legacy]

inductive MarkerFile where
  | absent
  | regular
  /-- A directory, for instance. -/
  | other
deriving DecidableEq, Repr

structure BootDisk where
  markers : MarkerPath → MarkerFile := fun _ => .absent
  node : Node := {}

/-- What the system calls of a start give. -/
structure Outcomes where
  /-- An error of `os.Stat` other than that the file does not exist. -/
  stat : MarkerPath → Option GoError := fun _ => none
  /-- Removing a file of the state. -/
  state : StatePath → Option Fault := fun _ => none
  /-- Removing the marker. -/
  marker : Option Fault := none

def firstExistingRegularFile (outcomes : Outcomes) (markers : MarkerPath → MarkerFile) :
    List MarkerPath → Except GoError (Option MarkerPath)
  | [] => .ok none
  | path :: rest =>
    match outcomes.stat path with
    | some e => .error (.wrap ("stat " ++ path.text) e)
    | none =>
      if markers path = .regular then .ok (some path)
      else firstExistingRegularFile outcomes markers rest

/-- The marker is removed, unless removing it fails; the failure is only logged. -/
def BootDisk.removeMarker (disk : BootDisk) (outcomes : Outcomes) (marker : MarkerPath) : BootDisk :=
  let removed : BootDisk := { disk with markers := Function.update disk.markers marker .absent }
  match outcomes.marker with
  | none => removed
  | some fault => if fault.applied then removed else disk

/-- `applyFactoryResetIfRequested`: whether a reset was applied, or `none` for an error. -/
def applyFactoryResetIfRequested (outcomes : Outcomes) (disk : BootDisk) : Option Bool × BootDisk :=
  match firstExistingRegularFile outcomes disk.markers markerPaths with
  | .error _ => (none, disk)
  | .ok none => (some false, disk)
  | .ok (some marker) =>
    match resetNodeState outcomes.state factoryResetStatePaths disk.node with
    | (node, false) => (none, { disk with node })
    | (node, true) => (some true, { disk with node }.removeMarker outcomes marker)

/-! ## Starts and what happens between them -/

inductive BootEvent where
  | start (outcomes : Outcomes)
  /-- A marker file is created. -/
  | request (marker : MarkerPath)
  /-- A marker file is taken away. -/
  | withdraw (marker : MarkerPath)
  /-- The node's state becomes another, by an adoption for instance. -/
  | setUp (node : Node)

def bootStep (disk : BootDisk) : BootEvent → Option BootDisk
  | .start outcomes => some (applyFactoryResetIfRequested outcomes disk).2
  | .request marker => some { disk with markers := Function.update disk.markers marker .regular }
  | .withdraw marker => some { disk with markers := Function.update disk.markers marker .absent }
  | .setUp node => some { disk with node }

/-- A start that applies a reset gets its marker removed, and there is no other marker. -/
def Consumes (disk : BootDisk) : BootEvent → Prop
  | .start outcomes => (applyFactoryResetIfRequested outcomes disk).1 = some true →
      (∀ fault ∈ outcomes.marker, fault.applied = true) ∧
        ¬ (disk.markers .firmware = .regular ∧ disk.markers .legacy = .regular)
  | _ => True

/-- There is no marker. -/
def BootDisk.Unrequested (disk : BootDisk) : Prop := ∀ marker, disk.markers marker ≠ .regular

section Starts

variable {disk : BootDisk} {outcomes : Outcomes}

theorem found_marker {markers : MarkerPath → MarkerFile} {paths : List MarkerPath} {marker : MarkerPath}
    (found : firstExistingRegularFile outcomes markers paths = .ok (some marker)) : markers marker = .regular := by
  induction paths with
  | nil => cases found
  | cons path rest ih =>
    unfold firstExistingRegularFile at found
    split at found
    · cases found
    · split at found
      · rename_i regular
        cases found
        exact regular
      · exact ih found

/-- Without a marker a start leaves everything as it is. -/
theorem start_unrequested (unrequested : disk.Unrequested) (outcomes : Outcomes) :
    (applyFactoryResetIfRequested outcomes disk).1 ≠ some true ∧
      (applyFactoryResetIfRequested outcomes disk).2 = disk := by
  unfold applyFactoryResetIfRequested
  cases found : firstExistingRegularFile outcomes disk.markers markerPaths with
  | error e => simp
  | ok marker =>
    cases marker with
    | none => simp
    | some marker => exact absurd (found_marker found) (unrequested marker)

/-- What a start that applies a reset has done. -/
theorem start_applied (applied : (applyFactoryResetIfRequested outcomes disk).1 = some true) :
    ∃ marker node, disk.markers marker = .regular ∧
      (applyFactoryResetIfRequested outcomes disk).2 = { disk with node }.removeMarker outcomes marker := by
  unfold applyFactoryResetIfRequested at applied ⊢
  cases found : firstExistingRegularFile outcomes disk.markers markerPaths with
  | error e => simp [found] at applied
  | ok marker =>
    cases marker with
    | none => simp [found] at applied
    | some marker =>
      cases cleared : resetNodeState outcomes.state factoryResetStatePaths disk.node with
      | mk node all =>
        cases all with
        | false => simp [found, cleared] at applied
        | true => exact ⟨marker, node, found_marker found, rfl⟩

theorem unrequested_of_applied (applied : (applyFactoryResetIfRequested outcomes disk).1 = some true)
    (consumes : Consumes disk (.start outcomes)) :
    (applyFactoryResetIfRequested outcomes disk).2.Unrequested := by
  obtain ⟨removed, single⟩ := consumes applied
  obtain ⟨marker, node, regular, after⟩ := start_applied applied
  rw [after]
  have markers : (BootDisk.removeMarker { disk with node } outcomes marker).markers =
      Function.update disk.markers marker .absent := by
    unfold BootDisk.removeMarker
    cases failed : outcomes.marker with
    | none => rfl
    | some fault => simp [removed fault failed]
  intro other
  rw [markers]
  by_cases same : other = marker
  · simp [same]
  · rw [Function.update_of_ne same]
    -- the other location has no marker
    intro regular'
    cases marker <;> cases other <;> first | exact same rfl | exact single ⟨regular, regular'⟩ |
      exact single ⟨regular', regular⟩

/-- Only a request makes a marker. -/
theorem unrequested_step {next : BootDisk} {event : BootEvent} (unrequested : disk.Unrequested)
    (uncreated : ∀ marker, event ≠ .request marker) (step : bootStep disk event = some next) :
    next.Unrequested := by
  cases event with
  | start outcomes =>
    cases step
    rw [(start_unrequested unrequested outcomes).2]
    exact unrequested
  | request marker => exact absurd rfl (uncreated marker)
  | withdraw marker =>
    cases step
    intro other
    by_cases same : other = marker
    · simp [same]
    · simpa [Function.update_of_ne same] using unrequested other
  | setUp node =>
    cases step
    exact unrequested

theorem unrequested_run {events : List BootEvent} {last : BootDisk} (unrequested : disk.Unrequested)
    (uncreated : ∀ marker, .request marker ∉ events) (run : replay bootStep disk events = some last) :
    last.Unrequested := by
  induction events generalizing disk with
  | nil =>
    cases run
    exact unrequested
  | cons event events ih =>
    obtain ⟨next, step, run⟩ := replay_cons.mp run
    simp only [List.mem_cons, not_or] at uncreated
    apply ih (unrequested_step unrequested _ step) _ run
    · exact fun marker same => (uncreated marker).1 same.symm
    · exact fun marker => (uncreated marker).2

end Starts

/-- In a run in which every reset that is applied consumes its marker, a start that comes after it
    without a new request applies no reset and leaves the node as it is. -/
theorem reset_once {disk s t : BootDisk} {before between : List BootEvent} {first second : Outcomes}
    (consumes : Guarded bootStep Consumes disk (before ++ .start first :: between))
    (reached : replay bootStep disk before = some s)
    (applied : (applyFactoryResetIfRequested first s).1 = some true)
    (later : replay bootStep s (.start first :: between) = some t)
    (uncreated : ∀ marker, .request marker ∉ between) :
    (applyFactoryResetIfRequested second t).1 ≠ some true ∧ (applyFactoryResetIfRequested second t).2 = t := by
  obtain ⟨next, step, run⟩ := replay_cons.mp later
  cases step
  have guard : Guarded bootStep Consumes s (.start first :: between) := (consumes.append reached).2
  exact start_unrequested (unrequested_run (unrequested_of_applied applied guard.1) uncreated run) second

/-- A node with a certificate. -/
def certified : Node where
  files := fun file => if file = .certificate then some (.certificate 0) else none

/-- A request, a start that applies it, and a node that is set up again. -/
theorem reset_once_of_request : ∃ disk,
    replay bootStep {} [.request .firmware, .start {}, .setUp certified] = some disk ∧
      (applyFactoryResetIfRequested {} disk).1 ≠ some true ∧
      (applyFactoryResetIfRequested {} disk).2.node.files .certificate = some (.certificate 0) := by
  obtain ⟨disk, later⟩ : ∃ disk, replay bootStep { markers := Function.update (fun _ => .absent) .firmware .regular }
      [.start {}, .setUp certified] = some disk := ⟨_, rfl⟩
  have requested : replay bootStep {} [.request .firmware] =
      some { markers := Function.update (fun _ => .absent) .firmware .regular } := rfl
  have applied : (applyFactoryResetIfRequested {}
      { markers := Function.update (fun _ => .absent) .firmware .regular }).1 = some true := by decide
  have consumes : Guarded bootStep Consumes {} ([.request .firmware] ++ .start {} :: [.setUp certified]) := by
    refine ⟨trivial, ?_⟩
    rintro _ ⟨⟩
    refine ⟨fun _ => ⟨nofun, ?_⟩, ?_⟩
    · simp
    · rintro _ ⟨⟩
      exact ⟨trivial, fun _ _ => trivial⟩
  have once : (applyFactoryResetIfRequested {} disk).1 ≠ some true ∧
      (applyFactoryResetIfRequested {} disk).2 = disk :=
    reset_once consumes requested applied later (by simp)
  have run := replay_append.mpr ⟨_, requested, later⟩
  refine ⟨disk, run, once.1, ?_⟩
  rw [once.2]
  cases later
  rfl

/-- With markers at both locations the second start wipes what was set up after the first. -/
theorem reset_twice :
    let requested : BootDisk := { markers := fun _ => .regular }
    (applyFactoryResetIfRequested {} requested).1 = some true ∧
    ∃ disk, replay bootStep requested [.start {}, .setUp certified] = some disk ∧
      disk.node.files .certificate = some (.certificate 0) ∧
      (applyFactoryResetIfRequested {} disk).1 = some true ∧
      (applyFactoryResetIfRequested {} disk).2.node.files .certificate = none := by
  intro requested
  exact ⟨by decide, _, rfl, rfl, by decide, by decide⟩

end Strom.Agent
