import Strom.Go.Ascii
import Strom.Nutconf.Rescans

/-!
# Names in `names.json` (`render.go`)

A generated name is cut after twenty bytes, and `unicode.IsDigit` keeps the digits of
every script.  So a name is ASCII text exactly if the first sixteen runes that
`normalizeUPSName` keeps are ASCII; any other name may end inside a rune, and then the
JSON text of the name map holds a different one.
-/

namespace Strom.Nutconf

open Strom.Go

/-- A lower-case ASCII letter, a digit or a hyphen. -/
def isNameByte (b : UInt8) : Bool :=
  (97 ≤ b.toNat && b.toNat ≤ 122) || (48 ≤ b.toNat && b.toNat ≤ 57) || b = dash

/-- What a generated name is to look like. -/
structure WellNamed (name : Bytes) : Prop where
  short : name.length ≤ maxUPSNameLength
  valid : ∃ text : String, utf8 text = name
  front : utf8 "ups-" <+: name
  bytes : ∀ b ∈ name, isNameByte b = true

/-- The runes of an identity that its name is made of. -/
def keptRunes (source : String) : List Char := (toLower source).toList.filter isNameRune

/-- No digit of another script is among the runes that fit into the name. -/
def PlainIdentity (device : DetectedUPS) : Prop :=
  ∀ r ∈ (keptRunes (stableNameSource device)).take 16, r.toNat < 0x80

instance (device : DetectedUPS) : Decidable (PlainIdentity device) :=
  decidable_of_iff (((keptRunes (stableNameSource device)).take 16).all fun r => r.toNat < 0x80)
    (by simp [PlainIdentity])

/-- The longest slice of `DetectedUPS` values, nine strings of 16 bytes each, that
    `make` can allocate in the address space of a 64-bit machine. -/
def maxDevices : Nat := 2 ^ 48 / 144

/-- The map in `names.json` after these scans, as `LoadNameMap` reads it. -/
def mapAfter (scans : List (List DetectedUPS)) : NameMap :=
  scans.foldl (fun m devices => (assignStableNames devices m).2.encoded) .empty

/-! ## One name -/

theorem ascii_of_isNameByte {b : UInt8} (named : isNameByte b = true) : IsAscii b := by
  simp only [isNameByte, Bool.or_eq_true, Bool.and_eq_true, decide_eq_true_eq] at named
  unfold IsAscii
  rcases named with (range | range) | rfl
  · omega
  · omega
  · decide

theorem isNameByte_of_isNameRune {b : UInt8} (ascii : IsAscii b)
    (kept : isNameRune (Char.ofNat b.toNat) = true) : isNameByte b = true := by
  have value := toNat_rune ascii
  unfold IsAscii at ascii
  simp only [isNameRune, isDigitRune, value, ascii, if_true, Char.isDigit, Bool.or_eq_true, Bool.and_eq_true,
    decide_eq_true_eq] at kept
  simp only [isNameByte, Bool.or_eq_true, Bool.and_eq_true, decide_eq_true_eq]
  rcases kept with ⟨low, high⟩ | ⟨low, high⟩
  · have low : 48 ≤ (Char.ofNat b.toNat).toNat := low
    have high : (Char.ofNat b.toNat).toNat ≤ 57 := high
    omega
  · have low : 97 ≤ (Char.ofNat b.toNat).toNat := low
    have high : (Char.ofNat b.toNat).toNat ≤ 122 := high
    omega

theorem wellNamed_of_bytes {name : Bytes} (short : name.length ≤ maxUPSNameLength)
    (front : utf8 "ups-" <+: name) (bytes : ∀ b ∈ name, isNameByte b = true) : WellNamed name :=
  ⟨short, ⟨textOf name, utf8_textOf_of_ascii fun b member => ascii_of_isNameByte (bytes b member)⟩,
    front, bytes⟩

theorem normalizeUPSName_of_kept {source : String} (some_ : keptRunes source ≠ []) :
    normalizeUPSName source =
      utf8 "ups-" ++ ((keptRunes source).flatMap String.utf8EncodeChar).take 16 := by
  have front : utf8 "ups-" = [117, 112, 115, dash] := by decide
  have nonempty : (toLower source).toList.filter isNameRune ≠ [] := some_
  simp only [normalizeUPSName, nonempty, if_false, front, maxUPSNameLength, keptRunes]
  simp

theorem length_normalizeUPSName (source : String) :
    (normalizeUPSName source).length ≤ maxUPSNameLength := by
  simp only [normalizeUPSName, List.length_take]
  omega

/-- A base name is what it is to be exactly if the runes that fit into it are ASCII. -/
theorem normalizeUPSName_wellNamed_iff (source : String) :
    WellNamed (normalizeUPSName source) ↔ ∀ r ∈ (keptRunes source).take 16, r.toNat < 0x80 := by
  by_cases nothing : keptRunes source = []
  · have base : normalizeUPSName source = utf8 "ups-device" := by
      have empty : (toLower source).toList.filter isNameRune = [] := nothing
      simp only [normalizeUPSName, empty, if_true]
      decide
    rw [nothing, base]
    refine ⟨fun _ => by simp, fun _ => wellNamed_of_bytes (by decide) (by decide) ?_⟩
    exact List.all_eq_true.mp (by decide)
  · rw [normalizeUPSName_of_kept nothing, ← take_ascii_iff]
    constructor
    · intro well b member
      exact ascii_of_isNameByte (well.bytes b (List.mem_append_right _ member))
    · intro ascii
      apply wellNamed_of_bytes
      · rw [← normalizeUPSName_of_kept nothing]
        exact length_normalizeUPSName source
      · exact List.prefix_append _ _
      · intro b member
        have letters : ∀ b ∈ utf8 "ups-", isNameByte b = true := List.all_eq_true.mp (by decide)
        rcases List.mem_append.mp member with front | rest
        · exact letters b front
        · have small := ascii b rest
          have kept := (mem_encoded_iff small).mp (List.mem_of_mem_take rest)
          exact isNameByte_of_isNameRune small (List.mem_filter.mp kept).2

theorem suffixDigits_eq (i : Nat) :
    suffixDigits i = (Nat.toDigits 10 (i + 2)).map fun c => UInt8.ofNat c.toNat := by
  have digits : ∀ c ∈ Nat.toDigits 10 (i + 2), c.toNat < 0x80 := by
    intro c member
    have digit : c.isDigit := Nat.isDigit_of_mem_toDigits (by omega) (by omega) member
    simp only [Char.isDigit, Bool.and_eq_true, decide_eq_true_eq] at digit
    have high : c.toNat ≤ 57 := digit.2
    omega
  have text : (toString (i + 2)).toList = Nat.toDigits 10 (i + 2) := by
    simp [Nat.toString_eq_repr, Nat.toList_repr]
  unfold suffixDigits utf8
  rw [text]
  exact encoded_of_ascii digits

theorem isNameByte_of_mem_suffixDigits {i : Nat} {b : UInt8} (member : b ∈ suffixDigits i) :
    isNameByte b = true := by
  rw [suffixDigits_eq, List.mem_map] at member
  obtain ⟨c, inside, rfl⟩ := member
  have digit : c.isDigit := Nat.isDigit_of_mem_toDigits (by omega) (by omega) inside
  simp only [Char.isDigit, Bool.and_eq_true, decide_eq_true_eq] at digit
  have low : 48 ≤ c.toNat := digit.1
  have high : c.toNat ≤ 57 := digit.2
  have value : (UInt8.ofNat c.toNat).toNat = c.toNat := toNat_ofNat_of_lt (by omega)
  simp [isNameByte, value, low, high]

/-- The numbered variants of a good base are good, as far as numbers of fifteen digits go. -/
theorem candidate_wellNamed {base : Bytes} {i : Nat} (well : WellNamed base) (few : i + 2 < 10 ^ 15) :
    WellNamed (candidate base i) := by
  cases i with
  | zero => exact well
  | succ i =>
    have digits : (suffixDigits i).length ≤ 15 := by
      rw [suffixDigits_eq, List.length_map]
      exact (Nat.length_toDigits_le_iff (by omega) (by omega)).mpr (by omega)
    have suffix : utf8 "-" ++ utf8 (toString (i + 2)) = dash :: suffixDigits i := rfl
    have length : (utf8 "-" ++ utf8 (toString (i + 2))).length = (suffixDigits i).length + 1 := by
      rw [suffix, List.length_cons]
    simp only [candidate, trimNameBase, length]
    rw [suffix]
    obtain ⟨rest, shape⟩ := well.front
    apply wellNamed_of_bytes
    · simp only [List.length_append, List.length_take, List.length_cons, maxUPSNameLength]
      omega
    · -- at least the four bytes of the prefix are kept
      have front : (utf8 "ups-").length = 4 := by decide
      have room : 4 ≤ max 4 (maxUPSNameLength - ((suffixDigits i).length + 1)) := Nat.le_max_left _ _
      rw [← shape, List.take_append, List.take_of_length_le (by omega), List.append_assoc]
      exact List.prefix_append _ _
    · intro b member
      simp only [List.mem_append, List.mem_cons] at member
      rcases member with kept | rfl | digit
      · exact well.bytes b (List.mem_of_mem_take kept)
      · decide
      · exact isNameByte_of_mem_suffixDigits digit

/-! ## The identity behind a key -/

/-- The runes of a device's name, read from its stable key. -/
def keyRunes (key : String) : List Char :=
  if key.toList.head? = some 's' then (key.toList.drop 7).filter isNameRune
  else (key.toList.drop 9).filter isNameRune

theorem toLower_append (s t : String) : (toLower (s ++ t)).toList = (toLower s).toList ++ (toLower t).toList := by
  simp [toLower]

/-- The blanks between the parts of a fallback key are no part of a name. -/
theorem keptRunes_eq (device : DetectedUPS) :
    keptRunes (stableNameSource device) = keyRunes device.stableKey := by
  have colon : isNameRune ':' = false := by decide
  by_cases serial : device.serial = ""
  · have key : device.stableKey.toList = "fallback:".toList ++ ((toLower device.bus).toList ++ ':' ::
        ((toLower device.vendorID).toList ++ ':' :: (toLower device.productID).toList)) := by
      simp [DetectedUPS.stableKey, serial, String.toList_append]
    have source : stableNameSource device = device.bus ++ device.vendorID ++ device.productID := by
      simp [stableNameSource, serial]
    have start : ("fallback:".toList ++ ((toLower device.bus).toList ++ ':' ::
        ((toLower device.vendorID).toList ++ ':' :: (toLower device.productID).toList))).head? ≠ some 's' := by
      simp
    rw [keyRunes, key, if_neg start, List.drop_left' (by decide), keptRunes, source, toLower_append,
      toLower_append]
    simp [List.filter_append, colon]
  · have key : device.stableKey.toList = "serial:".toList ++ (toLower device.serial).toList := by
      simp [DetectedUPS.stableKey, serial, String.toList_append]
    have start : ("serial:".toList ++ (toLower device.serial).toList).head? = some 's' := by simp
    rw [keyRunes, key, if_pos start, List.drop_left' (by decide), keptRunes, stableNameSource,
      if_pos serial]

/-- What a map of generated names says: its names are good, and so are the identities
    of their devices. -/
def HoldsPlain (m : NameMap) : Prop :=
  ∀ key, m.get key ≠ [] → WellNamed (m.get key) ∧ ∀ r ∈ (keyRunes key).take 16, r.toNat < 0x80

/-! ## One pass -/

section Pass

variable {m : NameMap} (holds : HoldsPlain m)

include holds

theorem assignName_wellNamed_iff {used : List Bytes} (good : ∀ name ∈ used, WellNamed name)
    (few : used.length ≤ maxDevices) (device : DetectedUPS) :
    WellNamed (assignName m used device) ↔ PlainIdentity device := by
  obtain ⟨i, bound, found, -, taken⟩ := nextAvailableUPSName_eq (stableNameSource device) used
  have base := normalizeUPSName_wellNamed_iff (stableNameSource device)
  have number : i + 2 < 10 ^ 15 := by
    have : maxDevices + 2 < 10 ^ 15 := by decide
    omega
  have generated : PlainIdentity device →
      WellNamed (nextAvailableUPSName (stableNameSource device) used) := by
    intro plain
    rw [found]
    exact candidate_wellNamed (base.mpr plain) number
  by_cases held : m.get device.stableKey = []
  · have searched : assignName m used device = nextAvailableUPSName (stableNameSource device) used := by
      simp [assignName, held]
    rw [searched]
    refine ⟨fun well => base.mp ?_, generated⟩
    -- the base name is taken by a good name, or it is the name
    cases i with
    | zero => rwa [found] at well
    | succ i => exact good _ (taken 0 (by omega))
  · obtain ⟨well, plain⟩ := holds _ held
    rw [← keptRunes_eq] at plain
    refine ⟨fun _ => plain, fun _ => ?_⟩
    unfold assignName
    dsimp only
    split_ifs with taken
    · exact generated plain
    · exact well

theorem namesOf_wellNamed_iff {used : List Bytes} (good : ∀ name ∈ used, WellNamed name)
    {devices : List DetectedUPS} (few : used.length + devices.length ≤ maxDevices) :
    (∀ name ∈ namesOf m used devices, WellNamed name) ↔ ∀ device ∈ devices, PlainIdentity device := by
  induction devices generalizing used with
  | nil => simp [namesOf]
  | cons device devices ih =>
    rw [List.length_cons] at few
    have first := assignName_wellNamed_iff holds good (by omega) device
    rw [namesOf, List.forall_mem_cons, List.forall_mem_cons, first]
    apply and_congr_right
    intro plain
    apply ih
    · rw [List.forall_mem_cons]
      exact ⟨first.mpr plain, good⟩
    · rw [List.length_cons]
      omega

end Pass

theorem none_used : ∀ name ∈ ([] : List Bytes), WellNamed name := by simp

theorem mem_hold {pairs : List (DetectedUPS × Bytes)} {m : NameMap} {entry : String × Bytes}
    (member : entry ∈ (pairs.foldl NameMap.hold m).entries) :
    entry ∈ m.entries ∨ ∃ pair ∈ pairs, entry = (pair.1.stableKey, pair.2) := by
  induction pairs generalizing m with
  | nil => exact .inl member
  | cons pair pairs ih =>
    rcases ih member with before | ⟨later, inside, same⟩
    · rcases NameMap.mem_insertEntry before with here | before
      · exact .inr ⟨pair, List.mem_cons_self, here⟩
      · exact .inl before
    · exact .inr ⟨later, List.mem_cons_of_mem _ inside, same⟩

/-- The entries that a pass leaves are those of its devices. -/
theorem mem_nextMap {devices : List DetectedUPS} {m : NameMap} {entry : String × Bytes}
    (member : entry ∈ (assignStableNames devices m).2.entries) :
    ∃ device ∈ devices, entry.1 = device.stableKey ∧ entry.2 ∈ namesOf m [] devices := by
  rw [assignStableNames_eq] at member
  rcases mem_hold member with before | ⟨pair, inside, rfl⟩
  · simp [NameMap.empty] at before
  · obtain ⟨device, name⟩ := List.of_mem_zip inside
    exact ⟨pair.1, device, rfl, name⟩

theorem encoded_eq_self {m : NameMap} (valid : ∀ entry ∈ m.entries, WellNamed entry.2) : m.encoded = m := by
  apply NameMap.ext_entries
  unfold NameMap.encoded
  dsimp only
  conv => rhs; rw [← List.map_id m.entries]
  apply List.map_congr_left
  intro entry member
  have ascii : ∀ b ∈ entry.2, IsAscii b :=
    fun b inside => ascii_of_isNameByte ((valid entry member).bytes b inside)
  exact Prod.ext rfl (utf8_textOf_of_ascii ascii)

/-- After a pass over plain identities the map is saved as it is, and holds plain ones only. -/
theorem nextMap_of_plain {m : NameMap} (holds : HoldsPlain m) {devices : List DetectedUPS}
    (few : devices.length ≤ maxDevices) (plain : ∀ device ∈ devices, PlainIdentity device) :
    (assignStableNames devices m).2.encoded = (assignStableNames devices m).2 ∧
      HoldsPlain (assignStableNames devices m).2 := by
  have names := (namesOf_wellNamed_iff holds none_used (by simpa using few)).mpr plain
  constructor
  · apply encoded_eq_self
    intro entry member
    obtain ⟨-, -, -, given⟩ := mem_nextMap member
    exact names _ given
  · intro key held
    obtain ⟨device, inside, same, given⟩ := mem_nextMap (NameMap.mem_entries held)
    have same : key = device.stableKey := same
    refine ⟨names _ given, ?_⟩
    rw [same, ← keptRunes_eq]
    exact plain device inside

/-! ## All scans -/

theorem mapAfter_append (scans : List (List DetectedUPS)) (devices : List DetectedUPS) :
    mapAfter (scans ++ [devices]) = (assignStableNames devices (mapAfter scans)).2.encoded := by
  simp [mapAfter]

theorem holdsPlain_mapAfter {scans : List (List DetectedUPS)}
    (slices : ∀ devices ∈ scans, devices.length ≤ maxDevices)
    (plain : ∀ devices ∈ scans, ∀ device ∈ devices, PlainIdentity device) : HoldsPlain (mapAfter scans) := by
  induction scans using List.reverseRecOn with
  | nil =>
    intro key held
    exact absurd (NameMap.get_empty key) held
  | append_singleton scans devices ih =>
    simp only [List.forall_mem_append, List.forall_mem_singleton] at slices plain
    have after := nextMap_of_plain (ih slices.1 plain.1) slices.2 plain.2
    rw [mapAfter_append, after.1]
    exact after.2

/-- Over all scans from the first one on, every name is short, valid UTF-8 and made of
    `ups-`, lower-case letters, digits and hyphens, and every map is read from
    `names.json` as it was saved, exactly if no scanned device has a digit outside ASCII
    among the first sixteen letters and digits of its identity. -/
theorem names_wellNamed_iff {scans : List (List DetectedUPS)}
    (slices : ∀ devices ∈ scans, devices.length ≤ maxDevices) :
    (∀ (before : List (List DetectedUPS)) (devices : List DetectedUPS), before ++ [devices] <+: scans →
        (∀ device ∈ (assignStableNames devices (mapAfter before)).1, WellNamed device.name) ∧
          (assignStableNames devices (mapAfter before)).2.encoded =
            (assignStableNames devices (mapAfter before)).2) ↔
      ∀ devices ∈ scans, ∀ device ∈ devices, PlainIdentity device := by
  -- the names of the last scan, when all before it were good
  have last : ∀ (scans : List (List DetectedUPS)) (devices : List DetectedUPS),
      (∀ devices ∈ scans, devices.length ≤ maxDevices) → devices.length ≤ maxDevices →
      (∀ devices ∈ scans, ∀ device ∈ devices, PlainIdentity device) →
      ((∀ device ∈ (assignStableNames devices (mapAfter scans)).1, WellNamed device.name) ↔
        ∀ device ∈ devices, PlainIdentity device) := by
    intro scans devices slices few plain
    rw [← namesOf_wellNamed_iff (holdsPlain_mapAfter slices plain) none_used (by simpa using few),
      ← names_assignStableNames]
    simp
  induction scans using List.reverseRecOn with
  | nil => simp
  | append_singleton scans devices ih =>
    simp only [List.forall_mem_append, List.forall_mem_singleton] at slices
    have earlier := ih slices.1
    simp only [List.forall_mem_append, List.forall_mem_singleton]
    constructor
    · intro all
      have plain := earlier.mp fun before devices inside => all before devices
        (inside.trans (List.prefix_append _ _))
      exact ⟨plain, (last scans devices slices.1 slices.2 plain).mp (all scans devices List.prefix_rfl).1⟩
    · intro ⟨plain, plain'⟩ before devices' inside
      rcases List.prefix_concat_iff.mp inside with same | inside
      · obtain ⟨rfl, last_⟩ := List.append_inj' same rfl
        have here : devices' = devices := List.singleton_inj.mp last_
        subst here
        have saved := nextMap_of_plain (holdsPlain_mapAfter slices.1 plain) slices.2 plain'
        exact ⟨(last _ _ slices.1 slices.2 plain).mpr plain', saved.1⟩
      · exact earlier.mpr plain before devices' inside

/-- Two scans of devices whose serial numbers are ASCII. -/
theorem names_wellNamed_iff_of_two :
    (∀ device ∈ (assignStableNames [serialDevice "SN-2", serialDevice "SN2"]
        (mapAfter [[serialDevice "SN2"]])).1, WellNamed device.name) ∧
      (assignStableNames [serialDevice "SN-2", serialDevice "SN2"] (mapAfter [[serialDevice "SN2"]])).2.encoded =
        (assignStableNames [serialDevice "SN-2", serialDevice "SN2"] (mapAfter [[serialDevice "SN2"]])).2 :=
  (names_wellNamed_iff (show ∀ devices ∈ [[serialDevice "SN2"], [serialDevice "SN-2", serialDevice "SN2"]],
    devices.length ≤ maxDevices by decide)).mpr (by decide +kernel) _ _ List.prefix_rfl

/-- A serial number whose sixteenth digit is an Arabic one: the name ends inside it. -/
theorem name_cut_inside_rune :
    ¬ ∀ (scans : List (List DetectedUPS)), (∀ devices ∈ scans, devices.length ≤ maxDevices) →
      ∀ (before : List (List DetectedUPS)) (devices : List DetectedUPS), before ++ [devices] <+: scans →
        (∀ device ∈ (assignStableNames devices (mapAfter before)).1, WellNamed device.name) ∧
          (assignStableNames devices (mapAfter before)).2.encoded =
            (assignStableNames devices (mapAfter before)).2 := by
  intro claim
  have saved := (claim [[serialDevice "123456789012345٣"]] (by decide) [] _ List.prefix_rfl).2
  revert saved
  decide +kernel

end Strom.Nutconf
