import Mathlib.Data.List.Dedup
import Mathlib.Data.List.Sort
import Strom.Nutconf.Render
import Strom.Nutconf.Scans

/-!
# One scan after another (`render.go`)

What a pass of `AssignStableNames` leaves is determined by the names it gives, in the
order of the devices (`namesOf`).  The names are not empty and differ pairwise, and
the next pass gives them again exactly if no two devices share a stable key.
-/

namespace Strom.Nutconf

open Strom.Go

/-! ## The search as the source's loop -/

/-- The loop of `nextAvailableUPSName` in at most so many rounds. -/
def searchRounds (base : Bytes) (used : List Bytes) : Nat → Nat → Bytes → Option Bytes
  | 0, _, _ => none
  | rounds + 1, suffix, name =>
    if name ∈ used then
      let suffixText := utf8 "-" ++ utf8 (toString suffix)
      searchRounds base used rounds (suffix + 1) (trimNameBase base suffixText.length ++ suffixText)
    else some name

theorem searchRounds_candidate (base : Bytes) (used : List Bytes) (rounds i : Nat) :
    searchRounds base used (rounds + 1) (i + 2) (candidate base i) =
      if candidate base i ∈ used then
        searchRounds base used rounds (i + 1 + 2) (candidate base (i + 1))
      else some (candidate base i) := rfl

/-- The loop passes the used candidates and ends with the first other one. -/
theorem searchRounds_eq {base : Bytes} {used : List Bytes} {i : Nat} (more : Nat)
    (free : candidate base i ∉ used) (taken : ∀ j < i, candidate base j ∈ used) (start : Nat)
    (early : start ≤ i) :
    searchRounds base used (i - start + 1 + more) (start + 2) (candidate base start) =
      some (candidate base i) := by
  induction gap : i - start generalizing start with
  | zero =>
    have same : start = i := by omega
    subst same
    rw [Nat.add_right_comm, searchRounds_candidate, if_neg free]
  | succ gap ih =>
    have next := ih (start + 1) (by omega) (by omega)
    rw [Nat.add_right_comm, searchRounds_candidate, if_pos (taken start (by omega))]
    exact next

/-- The candidates that the search passes are different used names. -/
theorem rounds_le {source : String} {used : List Bytes} {i : Nat}
    (taken : ∀ j < i, candidate (normalizeUPSName source) j ∈ used) : i ≤ used.dedup.length := by
  have nodup : ((List.range i).map (candidate (normalizeUPSName source))).Nodup :=
    List.Nodup.map (candidate_injective source) List.nodup_range
  have subset : (List.range i).map (candidate (normalizeUPSName source)) ⊆ used.dedup := by
    intro name member
    obtain ⟨j, inside, rfl⟩ := List.mem_map.mp member
    exact List.mem_dedup.mpr (taken j (by simpa using inside))
  simpa using (List.subperm_of_subset nodup subset).length_le

theorem search_ends (source : String) (used : List Bytes) :
    searchRounds (normalizeUPSName source) used (used.dedup.length + 1) 2 (normalizeUPSName source) =
      some (nextAvailableUPSName source used) := by
  obtain ⟨i, -, found, free, taken⟩ := nextAvailableUPSName_eq source used
  have few := rounds_le taken
  have ends := searchRounds_eq (used.dedup.length - i) free taken 0 (by omega)
  have rounds : i - 0 + 1 + (used.dedup.length - i) = used.dedup.length + 1 := by omega
  rw [rounds] at ends
  rw [found]
  exact ends

/-! ## The names of a pass -/

/-- The names that a pass gives to these devices, the names in `used` being taken. -/
def namesOf (persisted : NameMap) : List Bytes → List DetectedUPS → List Bytes
  | _, [] => []
  | used, device :: devices =>
    let name := assignName persisted used device
    name :: namesOf persisted (name :: used) devices

def withName (device : DetectedUPS) (name : Bytes) : DetectedUPS := { device with name }

/-- The map with the entry of one device. -/
def NameMap.hold (m : NameMap) (entry : DetectedUPS × Bytes) : NameMap :=
  m.insert entry.1.stableKey entry.2

@[simp] theorem length_namesOf (persisted : NameMap) (used : List Bytes) (devices : List DetectedUPS) :
    (namesOf persisted used devices).length = devices.length := by
  induction devices generalizing used with
  | nil => rfl
  | cons device devices ih => simp [namesOf, ih]

theorem foldl_assign (persisted : NameMap) (pass : Pass) (devices : List DetectedUPS) :
    let names := namesOf persisted pass.usedNames devices
    let final := devices.foldl (Pass.assign persisted) pass
    final.assigned = pass.assigned ++ List.zipWith withName devices names ∧
      final.nextMap = (devices.zip names).foldl NameMap.hold pass.nextMap := by
  induction devices generalizing pass with
  | nil => simp [namesOf]
  | cons device devices ih =>
    obtain ⟨assigned, next⟩ := ih (pass.assign persisted device)
    simp only [List.foldl_cons, namesOf]
    constructor
    · rw [assigned]
      simp [Pass.assign, withName]
    · rw [next]
      simp [Pass.assign, NameMap.hold]

theorem assignStableNames_eq (devices : List DetectedUPS) (persisted : NameMap) :
    assignStableNames devices persisted =
      (List.zipWith withName devices (namesOf persisted [] devices),
        (devices.zip (namesOf persisted [] devices)).foldl NameMap.hold .empty) := by
  obtain ⟨assigned, next⟩ := foldl_assign persisted {} devices
  simp only [List.nil_append] at assigned
  exact Prod.ext assigned next

theorem map_name_zipWith {devices : List DetectedUPS} {names : List Bytes}
    (lengths : names.length = devices.length) :
    (List.zipWith withName devices names).map (·.name) = names := by
  induction devices generalizing names with
  | nil => simp [List.length_eq_zero_iff.mp lengths]
  | cons device devices ih =>
    cases names with
    | nil => simp at lengths
    | cons name names =>
      simp only [List.length_cons, Nat.add_right_cancel_iff] at lengths
      simp [withName, ih lengths]

theorem names_assignStableNames (devices : List DetectedUPS) (persisted : NameMap) :
    (assignStableNames devices persisted).1.map (·.name) = namesOf persisted [] devices := by
  rw [assignStableNames_eq]
  exact map_name_zipWith (length_namesOf _ _ _)

theorem candidate_ne_nil (source : String) (i : Nat) : candidate (normalizeUPSName source) i ≠ [] := by
  cases i with
  | zero =>
    obtain ⟨rest, shape, -⟩ := normalizeUPSName_shape source
    simp [candidate, shape]
  | succ i =>
    obtain ⟨n, -, made⟩ := candidate_succ (normalizeUPSName source) i
    simp [made]

/-- Whatever branch of the loop gives the name, it is not empty and not taken. -/
theorem assignName_spec (persisted : NameMap) (used : List Bytes) (device : DetectedUPS) :
    assignName persisted used device ≠ [] ∧ assignName persisted used device ∉ used := by
  obtain ⟨i, -, found, free, -⟩ := nextAvailableUPSName_eq (stableNameSource device) used
  have generated : nextAvailableUPSName (stableNameSource device) used ≠ [] ∧
      nextAvailableUPSName (stableNameSource device) used ∉ used := by
    rw [found]
    exact ⟨candidate_ne_nil _ _, free⟩
  unfold assignName
  dsimp only
  split_ifs with missing taken
  · exact generated
  · exact generated
  · exact ⟨missing, taken⟩

theorem namesOf_spec (persisted : NameMap) (used : List Bytes) (devices : List DetectedUPS) :
    (∀ name ∈ namesOf persisted used devices, name ≠ [] ∧ name ∉ used) ∧
      (namesOf persisted used devices).Nodup := by
  induction devices generalizing used with
  | nil => simp [namesOf]
  | cons device devices ih =>
    have first := assignName_spec persisted used device
    obtain ⟨later, nodup⟩ := ih (assignName persisted used device :: used)
    simp only [List.mem_cons, not_or] at later
    simp only [namesOf, List.forall_mem_cons, List.nodup_cons]
    refine ⟨⟨first, fun name member => ⟨(later name member).1, (later name member).2.2⟩⟩, ?_, nodup⟩
    intro member
    exact (later _ member).2.1 rfl

/-- What the map says of a device after a pass is the name of the last device with its key. -/
theorem get_hold (pairs : List (DetectedUPS × Bytes)) (m : NameMap) {key : String}
    (scanned : ∃ pair ∈ pairs, pair.1.stableKey = key) :
    ∃ pair ∈ pairs, pair.1.stableKey = key ∧ (pairs.foldl NameMap.hold m).get key = pair.2 := by
  induction pairs generalizing m with
  | nil => simp at scanned
  | cons first rest ih =>
    by_cases later : ∃ pair ∈ rest, pair.1.stableKey = key
    · obtain ⟨pair, member, same, held⟩ := ih (m.hold first) later
      exact ⟨pair, List.mem_cons_of_mem _ member, same, held⟩
    · have here : first.1.stableKey = key := by
        obtain ⟨pair, member, same⟩ := scanned
        rcases List.mem_cons.mp member with rfl | member
        · exact same
        · exact absurd ⟨pair, member, same⟩ later
      refine ⟨first, List.mem_cons_self, here, ?_⟩
      -- no other device of the pass writes this key
      have untouched : ∀ m : NameMap, (rest.foldl NameMap.hold m).get key = m.get key := by
        intro m
        clear ih scanned
        induction rest generalizing m with
        | nil => rfl
        | cons entry rest ih =>
          have other : key ≠ entry.1.stableKey := by
            intro same
            exact later ⟨entry, List.mem_cons_self, same.symm⟩
          rw [List.foldl_cons, ih fun ⟨pair, member, same⟩ =>
            later ⟨pair, List.mem_cons_of_mem _ member, same⟩]
          simp [NameMap.hold, NameMap.get_insert, other]
      rw [List.foldl_cons, untouched]
      simp [NameMap.hold, NameMap.get_insert, here]

theorem assignName_of_get {m : NameMap} {used : List Bytes} {device : DetectedUPS} {name : Bytes}
    (held : m.get device.stableKey = name) (free : name ≠ [] ∧ name ∉ used) :
    assignName m used device = name := by
  simp [assignName, held, free.1, free.2]

/-- Devices whose names the map holds, different from each other, keep them. -/
theorem namesOf_eq_of_get {m : NameMap} {used names : List Bytes} {devices : List DetectedUPS}
    (lengths : names.length = devices.length)
    (held : ∀ pair ∈ devices.zip names, m.get pair.1.stableKey = pair.2)
    (free : ∀ name ∈ names, name ≠ [] ∧ name ∉ used) (nodup : names.Nodup) :
    namesOf m used devices = names := by
  induction devices generalizing used names with
  | nil => simp [namesOf, List.length_eq_zero_iff.mp lengths]
  | cons device devices ih =>
    cases names with
    | nil => simp at lengths
    | cons name names =>
      simp only [List.length_cons, Nat.add_right_cancel_iff] at lengths
      simp only [List.zip_cons_cons, List.forall_mem_cons] at held
      simp only [List.forall_mem_cons] at free
      obtain ⟨fresh, nodup⟩ := List.nodup_cons.mp nodup
      have first : assignName m used device = name := assignName_of_get held.1 free.1
      simp only [namesOf, first, List.cons.injEq, true_and]
      apply ih lengths held.2 _ nodup
      intro other member
      refine ⟨(free.2 other member).1, ?_⟩
      simp only [List.mem_cons, not_or]
      exact ⟨fun same => fresh (same ▸ member), (free.2 other member).2⟩

/-- A second pass that gives the same names found each of them in the map. -/
theorem get_of_namesOf_eq {persisted m : NameMap} {used : List Bytes} {devices : List DetectedUPS}
    (again : namesOf ((devices.zip (namesOf persisted used devices)).foldl NameMap.hold m) used devices =
      namesOf persisted used devices) :
    ∀ pair ∈ devices.zip (namesOf persisted used devices),
      ((devices.zip (namesOf persisted used devices)).foldl NameMap.hold m).get pair.1.stableKey =
        pair.2 := by
  induction devices generalizing used m with
  | nil => simp
  | cons device devices ih =>
    have fresh := (namesOf_spec persisted used (device :: devices)).1
    have scanned : ∃ pair ∈ (device :: devices).zip (namesOf persisted used (device :: devices)),
        pair.1.stableKey = device.stableKey := ⟨(device, _), List.mem_cons_self, rfl⟩
    have last := get_hold _ m scanned
    simp only [namesOf, List.zip_cons_cons, List.foldl_cons, List.cons.injEq] at again last fresh ⊢
    rw [List.forall_mem_cons]
    refine ⟨?_, ?_⟩
    · -- the map's name is one that this pass has still to give, and so not taken
      obtain ⟨pair, member, -, held⟩ := last
      have given : pair.2 ≠ [] ∧ pair.2 ∉ used := by
        apply fresh
        rcases List.mem_cons.mp member with rfl | member
        · exact List.mem_cons_self
        · exact List.mem_cons_of_mem _ (List.of_mem_zip member).2
      rw [held, ← assignName_of_get held given]
      exact again.1
    · rw [again.1] at again
      exact ih again.2

/-- Names that differ pairwise and are determined by the keys belong to different keys. -/
theorem nodup_keys {m : NameMap} {devices : List DetectedUPS} {names : List Bytes}
    (lengths : names.length = devices.length)
    (held : ∀ pair ∈ devices.zip names, m.get pair.1.stableKey = pair.2) (nodup : names.Nodup) :
    (devices.map (·.stableKey)).Nodup := by
  have same : names = (devices.map (·.stableKey)).map m.get := by
    induction devices generalizing names with
    | nil => simp [List.length_eq_zero_iff.mp lengths]
    | cons device devices ih =>
      cases names with
      | nil => simp at lengths
      | cons name names =>
        simp only [List.length_cons, Nat.add_right_cancel_iff] at lengths
        simp only [List.zip_cons_cons, List.forall_mem_cons] at held
        simp only [List.map_cons, held.1, List.cons.injEq, true_and]
        exact ih lengths held.2 nodup.of_cons
  rw [same] at nodup
  exact nodup.of_map

/-- Devices with pairwise different keys are held by the map as they were named. -/
theorem get_hold_of_nodup {pairs : List (DetectedUPS × Bytes)} (m : NameMap)
    (keys : (pairs.map (·.1.stableKey)).Nodup) {pair : DetectedUPS × Bytes} (member : pair ∈ pairs) :
    (pairs.foldl NameMap.hold m).get pair.1.stableKey = pair.2 := by
  obtain ⟨other, inside, same, held⟩ := get_hold pairs m ⟨pair, member, rfl⟩
  rw [held, List.inj_on_of_nodup_map keys inside member same]

theorem map_fst_zip_names (persisted : NameMap) (used : List Bytes) (devices : List DetectedUPS) :
    (devices.zip (namesOf persisted used devices)).map (·.1.stableKey) = devices.map (·.stableKey) := by
  have firsts : (devices.zip (namesOf persisted used devices)).map Prod.fst = devices :=
    List.map_fst_zip (by simp)
  conv => rhs; rw [← firsts]
  simp

/-- Scanning the same devices again, with the map of the first scan, gives the same
    names and the same map exactly if no two of them share a stable key. -/
theorem rescan_iff (devices : List DetectedUPS) (persisted : NameMap) :
    assignStableNames devices (assignStableNames devices persisted).2 =
        assignStableNames devices persisted ↔
      (devices.map (·.stableKey)).Nodup := by
  obtain ⟨free, nodup⟩ := namesOf_spec persisted [] devices
  have lengths := length_namesOf persisted [] devices
  constructor
  · intro again
    have names := congrArg (fun result => result.1.map (·.name)) again
    simp only [names_assignStableNames] at names
    rw [assignStableNames_eq devices persisted] at names
    exact nodup_keys lengths (get_of_namesOf_eq names) nodup
  · intro keys
    have names : namesOf (assignStableNames devices persisted).2 [] devices =
        namesOf persisted [] devices := by
      apply namesOf_eq_of_get lengths _ free nodup
      intro pair member
      rw [assignStableNames_eq]
      apply get_hold_of_nodup _ _ member
      rwa [map_fst_zip_names]
    rw [assignStableNames_eq devices (assignStableNames devices persisted).2, names,
      ← assignStableNames_eq]

/-- Two devices with one serial number swap their names at every scan. -/
theorem rescan_swaps :
    ¬ ∀ (devices : List DetectedUPS) (persisted : NameMap),
      assignStableNames devices (assignStableNames devices persisted).2 =
        assignStableNames devices persisted := by
  intro claim
  have again := claim [serialDevice "0001", serialDevice "0001"] .empty
  have names := congrArg (fun result => result.1.map (·.name)) again
  revert names
  decide +kernel

/-! ## The same devices in another order -/

theorem perm_insertEntry {key : String} (name : Bytes) {entries : List (String × Bytes)}
    (fresh : key ∉ entries.map Prod.fst) :
    (insertEntry key name entries).Perm ((key, name) :: entries) := by
  induction entries with
  | nil => exact .refl _
  | cons first rest ih =>
    simp only [List.map_cons, List.mem_cons, not_or] at fresh
    simp only [insertEntry, fresh.1, if_false]
    split_ifs
    · exact .refl _
    · exact ((ih fresh.2).cons _).trans (.swap _ _ _)

/-- The entries of a map over devices with pairwise different keys. -/
theorem perm_hold {pairs : List (DetectedUPS × Bytes)} {m : NameMap}
    (keys : (pairs.map (·.1.stableKey) ++ m.entries.map Prod.fst).Nodup) :
    (pairs.foldl NameMap.hold m).entries.Perm
      (pairs.map (fun pair => (pair.1.stableKey, pair.2)) ++ m.entries) := by
  induction pairs generalizing m with
  | nil => exact .refl _
  | cons pair pairs ih =>
    simp only [List.map_cons, List.cons_append, List.nodup_cons, List.mem_append, not_or] at keys
    have inserted : (m.hold pair).entries.Perm ((pair.1.stableKey, pair.2) :: m.entries) :=
      perm_insertEntry pair.2 keys.1.2
    have moved : (pairs.map (·.1.stableKey) ++ (m.hold pair).entries.map Prod.fst).Perm
        (pair.1.stableKey :: (pairs.map (·.1.stableKey) ++ m.entries.map Prod.fst)) :=
      ((inserted.map Prod.fst).append_left _).trans List.perm_middle
    have rest := ih (m := m.hold pair)
      (moved.nodup_iff.mpr (List.nodup_cons.mpr ⟨by simp [keys.1], keys.2⟩))
    rw [List.foldl_cons]
    exact rest.trans ((inserted.append_left _).trans List.perm_middle)

/-- A sorted map is determined by its entries in any order. -/
theorem NameMap.eq_of_perm {m m' : NameMap} (perm : m.entries.Perm m'.entries) : m = m' := by
  apply NameMap.ext_entries
  apply perm.eq_of_pairwise _ m.sorted m'.sorted
  intro a b _ _ less greater
  exact absurd less (not_lt_of_gt greater)

theorem section_le {a b : DetectedUPS} :
    (!decide (sectionOrder b < sectionOrder a)) = true ↔ sectionOrder a ≤ sectionOrder b := by
  rw [Bool.not_eq_true', decide_eq_false_iff_not, List.not_lt]

/-- The sections stand in the order of their names. -/
theorem sorted_sections (devices : List DetectedUPS) :
    (devices.mergeSort fun a b => !decide (sectionOrder b < sectionOrder a)).Pairwise
      fun a b => sectionOrder a ≤ sectionOrder b := by
  refine (List.pairwise_mergeSort ?_ ?_ devices).imp section_le.mp
  · intro a b c first second
    rw [section_le] at first second ⊢
    exact List.le_trans first second
  · intro a b
    rw [Bool.or_eq_true, section_le, section_le]
    exact List.le_total _ _

/-- There is one order for devices whose names differ pairwise. -/
theorem renderUPSConf_perm {devices devices' : List DetectedUPS} (perm : devices'.Perm devices)
    (orders : (devices.map sectionOrder).Nodup) :
    renderUPSConf devices' = renderUPSConf devices := by
  have sorted := List.mergeSort_perm devices fun a b => !decide (sectionOrder b < sectionOrder a)
  have sorted' := List.mergeSort_perm devices' fun a b => !decide (sectionOrder b < sectionOrder a)
  have same := List.Perm.eq_of_pairwise ?_ (sorted_sections devices') (sorted_sections devices)
    ((sorted'.trans perm).trans sorted.symm)
  · unfold renderUPSConf
    rw [same]
  · intro a b left right less greater
    have left := perm.mem_iff.mp (sorted'.mem_iff.mp left)
    have right := sorted.mem_iff.mp right
    exact List.inj_on_of_nodup_map orders left right (List.le_antisymm less greater)

/-- The device under the name that the persisted map holds for it. -/
def named (persisted : NameMap) (device : DetectedUPS) : DetectedUPS :=
  withName device (persisted.get device.stableKey)

section Order

variable {persisted : NameMap} {devices : List DetectedUPS}

theorem zip_held (devices : List DetectedUPS) :
    devices.zip (devices.map fun device => persisted.get device.stableKey) =
      devices.map fun device => (device, persisted.get device.stableKey) := by
  have pairs := List.zip_map' (f := id) (g := fun device => persisted.get device.stableKey) (l := devices)
  rwa [List.map_id] at pairs

theorem namesOf_persisted (held : ∀ device ∈ devices, persisted.get device.stableKey ≠ [])
    (names : (devices.map fun device => persisted.get device.stableKey).Nodup) :
    namesOf persisted [] devices = devices.map fun device => persisted.get device.stableKey := by
  apply namesOf_eq_of_get (by simp) _ _ names
  · intro pair member
    rw [zip_held, List.mem_map] at member
    obtain ⟨device, -, rfl⟩ := member
    rfl
  · intro name member
    obtain ⟨device, inside, rfl⟩ := List.mem_map.mp member
    exact ⟨held device inside, by simp⟩

theorem assignStableNames_persisted (held : ∀ device ∈ devices, persisted.get device.stableKey ≠ [])
    (names : (devices.map fun device => persisted.get device.stableKey).Nodup) :
    assignStableNames devices persisted = (devices.map (named persisted),
      (devices.map fun device => (device, persisted.get device.stableKey)).foldl NameMap.hold .empty) := by
  rw [assignStableNames_eq, namesOf_persisted held names, zip_held, List.zipWith_map_right,
    List.zipWith_self]
  rfl

/-- Devices with pairwise different keys that all have names, pairwise different, keep
    them in every order of the scan, with the same map and the same text. -/
theorem order_irrelevant {devices' : List DetectedUPS} (perm : devices'.Perm devices)
    (keys : (devices.map (·.stableKey)).Nodup)
    (held : ∀ device ∈ devices, persisted.get device.stableKey ≠ [])
    (names : (devices.map fun device => persisted.get device.stableKey).Nodup) :
    (assignStableNames devices persisted).1 = devices.map (named persisted) ∧
      (assignStableNames devices' persisted).1 = devices'.map (named persisted) ∧
      (assignStableNames devices' persisted).2 = (assignStableNames devices persisted).2 ∧
      renderUPSConf (assignStableNames devices' persisted).1 =
        renderUPSConf (assignStableNames devices persisted).1 := by
  have held' : ∀ device ∈ devices', persisted.get device.stableKey ≠ [] :=
    fun device member => held device (perm.mem_iff.mp member)
  have names' := (perm.map fun device => persisted.get device.stableKey).nodup_iff.mpr names
  have keys' := (perm.map (·.stableKey)).nodup_iff.mpr keys
  rw [assignStableNames_persisted held names, assignStableNames_persisted held' names']
  refine ⟨rfl, rfl, ?_, ?_⟩
  · apply NameMap.eq_of_perm
    have entries : ∀ l : List DetectedUPS, (l.map (·.stableKey)).Nodup →
        ((l.map fun d => (d, persisted.get d.stableKey)).foldl NameMap.hold .empty).entries.Perm
          ((l.map fun d => (d, persisted.get d.stableKey)).map (fun pair => (pair.1.stableKey, pair.2)) ++
            NameMap.empty.entries) :=
      fun l nodup => perm_hold (by simpa [NameMap.empty, Function.comp_def] using nodup)
    exact (entries devices' keys').trans ((((perm.map _).map _).append_right _).trans (entries devices keys).symm)
  · apply renderUPSConf_perm (perm.map _)
    have orders : (devices.map (named persisted)).map sectionOrder =
        devices.map fun device => persisted.get device.stableKey := by
      rw [List.map_map]
      apply List.map_congr_left
      intro device member
      simp [sectionOrder, named, withName, held device member]
    rwa [orders]

end Order

/-- Two devices that the scanner reports in the other order. -/
theorem order_irrelevant_of_two :
    renderUPSConf (assignStableNames [serialDevice "B7", serialDevice "A1"]
        ((NameMap.empty.insert "serial:a1" (utf8 "ups-a1")).insert "serial:b7" (utf8 "rack"))).1 =
      renderUPSConf (assignStableNames [serialDevice "A1", serialDevice "B7"]
        ((NameMap.empty.insert "serial:a1" (utf8 "ups-a1")).insert "serial:b7" (utf8 "rack"))).1 :=
  (order_irrelevant (.swap _ _ _) (by decide +kernel) (by decide +kernel) (by decide +kernel)).2.2.2

end Strom.Nutconf
