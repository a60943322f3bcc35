import Strom.Nutconf.Names

/-!
# Names over many scans

The name map that a scan leaves behind holds the devices of that scan only, so a
device that was unplugged for a scan has to find its name again.  `Finds` is the
condition for that, on one device of one pass; `names_stable_iff` says that a
sequence of scans keeps all names exactly if every device that the map does not hold
meets it.
-/

namespace Strom.Nutconf

open Strom.Go

/-- The names given so far, with the stable keys of the devices they were given to. -/
abbrev History := List (String × Bytes)

def given (assigned : List DetectedUPS) : History := assigned.map fun d => (d.stableKey, d.name)

/-- The names that a persisted map remembers. -/
def NameMap.given (m : NameMap) : History := m.entries.filter fun entry => entry.2 ≠ []

/-- The names given after the scans, each one fed with the map of the one before. -/
def historyOf (history : History) (persisted : NameMap) : List (List DetectedUPS) → History
  | [] => history
  | devices :: scans =>
    let result := assignStableNames devices persisted
    historyOf (history ++ given result.1) result.2 scans

/-- A device gets the same name every time, and a name goes to the same device. -/
def Stable (history : History) : Prop :=
  ∀ p ∈ history, ∀ q ∈ history, p.1 = q.1 ↔ p.2 = q.2

/-! ## The condition -/

/-- No other device was given the name, and the device was given no other name. -/
def Owns (history : History) (key : String) (name : Bytes) : Prop :=
  ∀ p ∈ history, p.1 = key ↔ p.2 = name

instance (history : History) (key : String) (name : Bytes) : Decidable (Owns history key name) := by
  unfold Owns
  infer_instance

/-- Behind those of its candidates that the pass has used, the device has one of its own. -/
def Finds (history : History) (used : List Bytes) (device : DetectedUPS) : Prop :=
  ∃ i ∈ List.range (used.length + 1),
    (∀ j ∈ List.range i, candidate (normalizeUPSName (stableNameSource device)) j ∈ used) ∧
      Owns history device.stableKey (candidate (normalizeUPSName (stableNameSource device)) i)

theorem lawful_bytes : LawfulBEq Bytes := inferInstance

instance (history : History) (used : List Bytes) (device : DetectedUPS) :
    Decidable (Finds history used device) := by
  have := lawful_bytes
  unfold Finds
  infer_instance

/-- Every device of the pass is held by the map or finds a name of its own. -/
def PassKeeps (persisted : NameMap) : History → Pass → List DetectedUPS → Prop
  | _, _, [] => True
  | history, pass, device :: devices =>
    (persisted.get device.stableKey = [] → Finds history pass.usedNames device) ∧
      PassKeeps persisted
        (history ++ [(device.stableKey, assignName persisted pass.usedNames device)])
        (pass.assign persisted device) devices

def ScansKeep : History → NameMap → List (List DetectedUPS) → Prop
  | _, _, [] => True
  | history, persisted, devices :: scans =>
    PassKeeps persisted history {} devices ∧
      ScansKeep (history ++ given (assignStableNames devices persisted).1)
        (assignStableNames devices persisted).2 scans

instance PassKeeps.decidable (persisted : NameMap) :
    (history : History) → (pass : Pass) → (devices : List DetectedUPS) →
      Decidable (PassKeeps persisted history pass devices)
  | _, _, [] => .isTrue trivial
  | history, pass, device :: devices =>
    have := PassKeeps.decidable persisted
      (history ++ [(device.stableKey, assignName persisted pass.usedNames device)])
      (pass.assign persisted device) devices
    inferInstanceAs (Decidable (_ ∧ _))

instance ScansKeep.decidable :
    (history : History) → (persisted : NameMap) → (scans : List (List DetectedUPS)) →
      Decidable (ScansKeep history persisted scans)
  | _, _, [] => .isTrue trivial
  | history, persisted, devices :: scans =>
    have := ScansKeep.decidable (history ++ given (assignStableNames devices persisted).1)
      (assignStableNames devices persisted).2 scans
    inferInstanceAs (Decidable (_ ∧ _))

/-! ## One device -/

theorem Stable.of_append {history more : History} (stable : Stable (history ++ more)) :
    Stable history := by
  intro p inside q inside'
  exact stable p (List.mem_append_left _ inside) q (List.mem_append_left _ inside')

theorem stable_append_iff {history : History} (stable : Stable history) (key : String) (name : Bytes) :
    Stable (history ++ [(key, name)]) ↔ Owns history key name := by
  constructor
  · intro extended p inside
    exact extended p (List.mem_append_left _ inside) (key, name) (by simp)
  · intro owns p member q member'
    simp only [List.mem_append, List.mem_singleton] at member member'
    rcases member with inside | rfl <;> rcases member' with inside' | rfl
    · exact stable p inside q inside'
    · exact owns p inside
    · have := owns q inside'
      constructor <;> intro same <;> simp_all
    · simp

/-- What holds in the middle of a pass, `rest` being the devices to come. -/
structure MidPass (persisted : NameMap) (history : History) (pass : Pass) (rest : List DetectedUPS) :
    Prop where
  stable : Stable history
  known : ∀ key, persisted.get key ≠ [] → (key, persisted.get key) ∈ history
  next : ∀ key, pass.nextMap.get key ≠ [] → (key, pass.nextMap.get key) ∈ history
  used : ∀ name ∈ pass.usedNames, ∃ key, (key, name) ∈ history ∧ key ∉ rest.map (·.stableKey)
  distinct : (rest.map (·.stableKey)).Nodup

section Device

variable {persisted : NameMap} {history : History} {pass : Pass} {device : DetectedUPS}
  {rest : List DetectedUPS}

/-- The device's own name is not used by another device of the pass. -/
theorem MidPass.unused (mid : MidPass persisted history pass (device :: rest)) {name : Bytes}
    (owns : Owns history device.stableKey name) : name ∉ pass.usedNames := by
  intro taken
  obtain ⟨key, inside, other⟩ := mid.used name taken
  have same : key = device.stableKey := (owns _ inside).mpr rfl
  exact other (by simp [same])

theorem MidPass.owns_preferred (mid : MidPass persisted history pass (device :: rest))
    (held : persisted.get device.stableKey ≠ []) :
    Owns history device.stableKey (persisted.get device.stableKey) := by
  intro p inside
  exact mid.stable p inside _ (mid.known _ held)

/-- The pass gives the device a name of its own exactly if the map holds the device or
    the device finds one. -/
theorem MidPass.owns_iff (mid : MidPass persisted history pass (device :: rest)) :
    Owns history device.stableKey (assignName persisted pass.usedNames device) ↔
      (persisted.get device.stableKey = [] → Finds history pass.usedNames device) := by
  by_cases held : persisted.get device.stableKey = []
  · have missing : assignName persisted pass.usedNames device =
        nextAvailableUPSName (stableNameSource device) pass.usedNames := by
      simp [assignName, held]
    obtain ⟨i, bound, found, free, before⟩ :=
      nextAvailableUPSName_eq (stableNameSource device) pass.usedNames
    rw [missing, found]
    constructor
    · intro owns _
      exact ⟨i, by simp; omega, fun j early => before j (by simpa using early), owns⟩
    · intro finds
      obtain ⟨j, -, earlier, owns⟩ := finds held
      -- both are the first candidate that the pass has not used
      have unused := mid.unused owns
      have same : j = i := by
        rcases Nat.lt_trichotomy j i with less | same | greater
        · exact absurd (before j less) unused
        · exact same
        · exact absurd (earlier i (by simpa using greater)) free
      exact same ▸ owns
  · have owns := mid.owns_preferred held
    have free := mid.unused owns
    have keeps : assignName persisted pass.usedNames device = persisted.get device.stableKey := by
      simp [assignName, held, free]
    rw [keeps]
    exact ⟨fun _ missing => absurd missing held, fun _ => owns⟩

/-- After a device that owns its name the pass goes on. -/
theorem MidPass.assign (mid : MidPass persisted history pass (device :: rest))
    (owns : Owns history device.stableKey (assignName persisted pass.usedNames device)) :
    MidPass persisted
      (history ++ [(device.stableKey, assignName persisted pass.usedNames device)])
      (pass.assign persisted device) rest := by
  obtain ⟨fresh, distinct⟩ := List.nodup_cons.mp mid.distinct
  constructor
  · exact (stable_append_iff mid.stable _ _).mpr owns
  · intro key held
    exact List.mem_append_left _ (mid.known key held)
  · intro key held
    simp only [Pass.assign, NameMap.get_insert] at held ⊢
    split_ifs at held ⊢ with same
    · simp [same]
    · exact List.mem_append_left _ (mid.next key held)
  · intro name taken
    rcases List.mem_cons.mp taken with rfl | taken
    · exact ⟨device.stableKey, by simp, fresh⟩
    · obtain ⟨key, inside, other⟩ := mid.used name taken
      exact ⟨key, List.mem_append_left _ inside, fun below => other (List.mem_cons_of_mem _ below)⟩
  · exact distinct

end Device

/-! ## One pass -/

theorem given_foldl (persisted : NameMap) (pass : Pass) (devices : List DetectedUPS) :
    given pass.assigned <+: given (devices.foldl (Pass.assign persisted) pass).assigned := by
  induction devices generalizing pass with
  | nil => exact List.prefix_rfl
  | cons device devices ih =>
    refine List.IsPrefix.trans ?_ (ih _)
    simp [given, Pass.assign]

theorem given_assign (persisted : NameMap) (pass : Pass) (device : DetectedUPS) :
    given (pass.assign persisted device).assigned =
      given pass.assigned ++ [(device.stableKey, assignName persisted pass.usedNames device)] := by
  simp [given, Pass.assign, DetectedUPS.stableKey]

/-- A pass keeps all names exactly if every device keeps or finds its own; it then
    leaves a map of names from the history. -/
theorem pass_stable_iff {persisted : NameMap} {history : History} {pass : Pass}
    {devices : List DetectedUPS}
    (mid : MidPass persisted (history ++ given pass.assigned) pass devices) :
    let final := devices.foldl (Pass.assign persisted) pass
    (Stable (history ++ given final.assigned) ↔
        PassKeeps persisted (history ++ given pass.assigned) pass devices) ∧
      (Stable (history ++ given final.assigned) →
        MidPass persisted (history ++ given final.assigned) final []) := by
  induction devices generalizing pass with
  | nil => exact ⟨⟨fun _ => trivial, fun _ => mid.stable⟩, fun _ => mid⟩
  | cons device devices ih =>
    simp only [List.foldl_cons, PassKeeps]
    have extended : history ++ given (pass.assign persisted device).assigned =
        history ++ given pass.assigned ++
          [(device.stableKey, assignName persisted pass.usedNames device)] := by
      rw [given_assign, List.append_assoc]
    have first : Stable (history ++ given
        (devices.foldl (Pass.assign persisted) (pass.assign persisted device)).assigned) →
        Owns (history ++ given pass.assigned) device.stableKey
          (assignName persisted pass.usedNames device) := by
      intro stable
      obtain ⟨more, same⟩ := given_foldl persisted (pass.assign persisted device) devices
      rw [← same, ← List.append_assoc, extended] at stable
      exact (stable_append_iff mid.stable _ _).mp stable.of_append
    by_cases owns : Owns (history ++ given pass.assigned) device.stableKey
        (assignName persisted pass.usedNames device)
    · have later := mid.assign owns
      rw [← extended] at later ⊢
      obtain ⟨iff, after⟩ := ih later
      rw [iff]
      exact ⟨⟨fun keeps => ⟨mid.owns_iff.mp owns, keeps⟩, fun keeps => keeps.2⟩,
        fun keeps => after (iff.mpr keeps)⟩
    · have not_stable := mt first owns
      refine ⟨⟨fun stable => absurd stable not_stable, fun keeps => ?_⟩,
        fun stable => absurd stable not_stable⟩
      exact absurd (mid.owns_iff.mpr keeps.1) owns

/-! ## Many scans -/

/-- The history only grows. -/
theorem prefix_historyOf (history : History) (persisted : NameMap) (scans : List (List DetectedUPS)) :
    history <+: historyOf history persisted scans := by
  induction scans generalizing history persisted with
  | nil => exact List.prefix_rfl
  | cons devices scans ih => exact (List.prefix_append _ _).trans (ih _ _)

theorem scans_stable_iff {history : History} {persisted : NameMap} {scans : List (List DetectedUPS)}
    (stable : Stable history)
    (known : ∀ key, persisted.get key ≠ [] → (key, persisted.get key) ∈ history)
    (distinct : ∀ devices ∈ scans, (devices.map (·.stableKey)).Nodup) :
    Stable (historyOf history persisted scans) ↔ ScansKeep history persisted scans := by
  induction scans generalizing history persisted with
  | nil => exact ⟨fun _ => trivial, fun _ => stable⟩
  | cons devices scans ih =>
    have start : MidPass persisted (history ++ given ({} : Pass).assigned) {} devices := by
      constructor
      · simpa [given] using stable
      · simpa [given] using known
      · simp
      · simp
      · exact distinct devices (by simp)
    obtain ⟨iff, after⟩ := pass_stable_iff start
    change Stable (historyOf (history ++ given (assignStableNames devices persisted).1)
      (assignStableNames devices persisted).2 scans) ↔ _
    by_cases kept : Stable (history ++ given (assignStableNames devices persisted).1)
    · have later := ih kept (after kept).next fun devices member =>
        distinct devices (List.mem_cons_of_mem _ member)
      have keeps := iff.mp kept
      simp only [given, List.map_nil, List.append_nil] at keeps
      exact later.trans ⟨fun rest => ⟨keeps, rest⟩, fun both => both.2⟩
    · constructor
      · intro stable'
        obtain ⟨more, same⟩ := prefix_historyOf
          (history ++ given (assignStableNames devices persisted).1)
          (assignStableNames devices persisted).2 scans
        rw [← same] at stable'
        exact absurd stable'.of_append kept
      · intro keeps
        have passes := keeps.1
        exact absurd (iff.mpr (by simpa [given] using passes)) kept

/-! ## From a persisted map -/

theorem mem_of_lookup {entries : List (String × Bytes)} {key : String} {name : Bytes}
    (found : entries.lookup key = some name) : (key, name) ∈ entries := by
  induction entries with
  | nil => simp at found
  | cons entry rest ih =>
    obtain ⟨k, n⟩ := entry
    rw [NameMap.lookup_cons_eq] at found
    split_ifs at found with same
    · subst same
      cases found
      exact List.mem_cons_self
    · exact List.mem_cons_of_mem _ (ih found)

theorem NameMap.mem_entries {m : NameMap} {key : String} (held : m.get key ≠ []) :
    (key, m.get key) ∈ m.entries := by
  unfold NameMap.get at held ⊢
  cases found : m.entries.lookup key with
  | none => simp [found] at held
  | some name => exact mem_of_lookup found

theorem NameMap.mem_given {m : NameMap} {key : String} (held : m.get key ≠ []) :
    (key, m.get key) ∈ m.given :=
  List.mem_filter.mpr ⟨NameMap.mem_entries held, by simpa using held⟩

/-- Pairwise different names make a persisted map a stable history. -/
theorem NameMap.stable_given {m : NameMap} (distinct : (m.entries.map Prod.snd).Nodup) :
    Stable m.given := by
  have keys : (m.entries.map Prod.fst).Nodup := by
    rw [List.nodup_iff_pairwise_ne, List.pairwise_map]
    exact m.sorted.imp fun less => ne_of_lt less
  intro p inside q inside'
  have inside := (List.mem_filter.mp inside).1
  have inside' := (List.mem_filter.mp inside').1
  constructor
  · intro same
    rw [List.inj_on_of_nodup_map keys inside inside' same]
  · intro same
    rw [List.inj_on_of_nodup_map distinct inside inside' same]

/-- A device with this serial number. -/
def serialDevice (serial : String) : DetectedUPS := { driver := "usbhid-ups", port := "auto", serial }

end Strom.Nutconf
