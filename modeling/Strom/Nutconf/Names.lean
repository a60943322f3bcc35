import Mathlib.Data.List.Nodup
import Mathlib.Data.List.Perm.Subperm
import Mathlib.Data.String.Basic
import Strom.Go.Strings

/-!
# UPS names (`render.go`, `scanner.go`)

`AssignStableNames` gives every scanned device the name that the name map holds for
it, or else the first free name made from its serial number.  Names are byte strings,
as the length limit may cut a rune in two.

`nextAvailableUPSName_eq` says which name the search ends with: the candidates are
pairwise different, so that one of them is free.
-/

namespace Strom.Nutconf

open Strom.Go

/-! ## The first unused element of a sequence -/

section FirstUnused

variable {α : Type} [DecidableEq α]

/-- The first of `f i, f (i + 1), ..` that is not in the list, in so many tries. -/
def firstUnused (f : Nat → α) (used : List α) : Nat → Nat → α
  | 0, i => f i
  | tries + 1, i => if f i ∈ used then firstUnused f used tries (i + 1) else f i

theorem firstUnused_eq (f : Nat → α) (used : List α) (tries i : Nat) :
    ∃ j, i ≤ j ∧ j ≤ i + tries ∧ firstUnused f used tries i = f j ∧
      (∀ k, i ≤ k → k < j → f k ∈ used) ∧ (j < i + tries → f j ∉ used) := by
  induction tries generalizing i with
  | zero => exact ⟨i, by omega, by omega, rfl, by omega, by omega⟩
  | succ tries ih =>
    by_cases taken : f i ∈ used
    · obtain ⟨j, above, below, found, before, free⟩ := ih (i + 1)
      refine ⟨j, by omega, by omega, by simp [firstUnused, taken, found], ?_, ?_⟩
      · intro k low high
        by_cases same : k = i
        · exact same ▸ taken
        · exact before k (by omega) high
      · intro early
        exact free (by omega)
    · exact ⟨i, by omega, by omega, by simp [firstUnused, taken], by omega, fun _ => taken⟩

/-- With as many tries as there are elements to avoid, an injective sequence gives
    its first unused element. -/
theorem firstUnused_spec {f : Nat → α} (injective : Function.Injective f) (used : List α) :
    ∃ i ≤ used.length, firstUnused f used used.length 0 = f i ∧ f i ∉ used ∧
      ∀ j < i, f j ∈ used := by
  obtain ⟨i, -, below, found, before, free⟩ := firstUnused_eq f used used.length 0
  have earlier : ∀ j < i, f j ∈ used := fun j low => before j (by omega) low
  refine ⟨i, by omega, found, ?_, earlier⟩
  intro taken
  -- all of `f 0, .., f i` are used, one more than there are used elements
  have last : ¬ i < used.length := fun early => free (by omega) taken
  have nodup : ((List.range (i + 1)).map f).Nodup := List.Nodup.map injective List.nodup_range
  have subset : (List.range (i + 1)).map f ⊆ used := by
    intro a member
    obtain ⟨j, inside, rfl⟩ := List.mem_map.mp member
    rw [List.mem_range] at inside
    by_cases same : j = i
    · exact same ▸ taken
    · exact earlier j (by omega)
  have few := (List.subperm_of_subset nodup subset).length_le
  simp only [List.length_map, List.length_range] at few
  omega

end FirstUnused

/-! ## Devices and their names -/

structure DetectedUPS where
  name : Bytes := []
  driver : String := ""
  port : String := ""
  vendorID : String := ""
  productID : String := ""
  product : String := ""
  serial : String := ""
  vendor : String := ""
  bus : String := ""
deriving DecidableEq, Repr

def DetectedUPS.stableKey (d : DetectedUPS) : String :=
  if d.serial ≠ "" then "serial:" ++ toLower d.serial
  else "fallback:" ++ toLower d.bus ++ ":" ++ toLower d.vendorID ++ ":" ++ toLower d.productID

def stableNameSource (device : DetectedUPS) : String :=
  if device.serial ≠ "" then device.serial else device.bus ++ device.vendorID ++ device.productID

def maxUPSNameLength : Nat := 20

/-- The runes that `normalizeUPSName` keeps. -/
def isNameRune (r : Char) : Bool := isDigitRune r || ('a' ≤ r && r ≤ 'z')

def normalizeUPSName (source : String) : Bytes :=
  let kept := (toLower source).toList.filter isNameRune
  let name := if kept = [] then utf8 "ups-device" else utf8 "ups-" ++ kept.flatMap String.utf8EncodeChar
  name.take maxUPSNameLength

def trimNameBase (base : Bytes) (suffixLength : Nat) : Bytes :=
  base.take (max 4 (maxUPSNameLength - suffixLength))

/-- The name that `nextAvailableUPSName` tries in its round `i`. -/
def candidate (base : Bytes) : Nat → Bytes
  | 0 => base
  | i + 1 =>
    let suffixText := utf8 "-" ++ utf8 (toString (i + 2))
    trimNameBase base suffixText.length ++ suffixText

def nextAvailableUPSName (source : String) (used : List Bytes) : Bytes :=
  firstUnused (candidate (normalizeUPSName source)) used used.length 0

example : nextAvailableUPSName "A-1" [utf8 "ups-a1"] = utf8 "ups-a1-2" := by decide +kernel

/-! ## Name maps -/

/-- The entries of a map with one more, in the order of the keys. -/
def insertEntry (key : String) (name : Bytes) : List (String × Bytes) → List (String × Bytes)
  | [] => [(key, name)]
  | entry :: rest =>
    if key < entry.1 then (key, name) :: entry :: rest
    else if key = entry.1 then (key, name) :: rest
    else entry :: insertEntry key name rest

/-- A `map[string]string` from stable keys to names, as its JSON text lists it. -/
structure NameMap where
  entries : List (String × Bytes)
  sorted : entries.Pairwise fun a b => a.1 < b.1

namespace NameMap

theorem mem_insertEntry {key : String} {name : Bytes} {entries : List (String × Bytes)}
    {entry : String × Bytes} (member : entry ∈ insertEntry key name entries) :
    entry = (key, name) ∨ entry ∈ entries := by
  induction entries with
  | nil => simpa [insertEntry] using member
  | cons first rest ih =>
    simp only [insertEntry] at member
    split_ifs at member <;> simp only [List.mem_cons] at member ⊢
    · tauto
    · tauto
    · rcases member with here | below
      · exact .inr (.inl here)
      · rcases ih below with here | below
        · exact .inl here
        · exact .inr (.inr below)

theorem sorted_insertEntry (key : String) (name : Bytes) {entries : List (String × Bytes)}
    (sorted : entries.Pairwise fun a b => a.1 < b.1) :
    (insertEntry key name entries).Pairwise fun a b => a.1 < b.1 := by
  induction entries with
  | nil => simp [insertEntry]
  | cons first rest ih =>
    simp only [insertEntry]
    obtain ⟨below, sorted⟩ := List.pairwise_cons.mp sorted
    split_ifs with less same
    · refine List.pairwise_cons.mpr ⟨?_, List.pairwise_cons.mpr ⟨below, sorted⟩⟩
      intro entry member
      rcases List.mem_cons.mp member with rfl | member
      · exact less
      · exact less.trans (below entry member)
    · subst same
      exact List.pairwise_cons.mpr ⟨below, sorted⟩
    · refine List.pairwise_cons.mpr ⟨?_, ih sorted⟩
      intro entry member
      rcases mem_insertEntry member with rfl | member
      · exact lt_of_le_of_ne (not_lt.mp less) (Ne.symm same)
      · exact below entry member

def empty : NameMap := { entries := [], sorted := .nil }

def insert (m : NameMap) (key : String) (name : Bytes) : NameMap where
  entries := insertEntry key name m.entries
  sorted := sorted_insertEntry key name m.sorted

/-- `m[key]`, empty where the map has no such key. -/
def get (m : NameMap) (key : String) : Bytes := (m.entries.lookup key).getD []

theorem lookup_cons_eq (key k : String) (n : Bytes) (rest : List (String × Bytes)) :
    ((k, n) :: rest).lookup key = if key = k then some n else rest.lookup key := by
  by_cases same : key = k
  · simp [same]
  · have off : (key == k) = false := beq_false_of_ne same
    simp [List.lookup_cons, off, same]

theorem lookup_insertEntry (key key' : String) (name : Bytes) (entries : List (String × Bytes)) :
    (insertEntry key name entries).lookup key' =
      if key' = key then some name else entries.lookup key' := by
  induction entries with
  | nil => simp only [insertEntry, lookup_cons_eq]
  | cons first rest ih =>
    obtain ⟨k, n⟩ := first
    simp only [insertEntry]
    by_cases less : key < k
    · simp only [less, if_true, lookup_cons_eq]
    · by_cases same : key = k
      · subst same
        simp only [less, if_true, if_false, lookup_cons_eq]
        split_ifs <;> rfl
      · simp only [less, same, if_false, lookup_cons_eq, ih]
        split_ifs with here there
        · exact absurd (there.symm.trans here) same
        · rfl
        · rfl
        · rfl

@[simp] theorem get_empty (key : String) : empty.get key = [] := rfl

theorem get_insert (m : NameMap) (key key' : String) (name : Bytes) :
    (m.insert key name).get key' = if key' = key then name else m.get key' := by
  unfold get insert
  dsimp only
  rw [lookup_insertEntry]
  split_ifs <;> rfl

end NameMap

/-- The state of the loop of `AssignStableNames`. -/
structure Pass where
  assigned : List DetectedUPS := []
  nextMap : NameMap := .empty
  usedNames : List Bytes := []

/-- The name of one device. -/
def assignName (persisted : NameMap) (used : List Bytes) (device : DetectedUPS) : Bytes :=
  let preferred := persisted.get device.stableKey
  if preferred = [] then nextAvailableUPSName (stableNameSource device) used
  else if preferred ∈ used then nextAvailableUPSName (stableNameSource device) used
  else preferred

/-- One round of the loop. -/
def Pass.assign (persisted : NameMap) (pass : Pass) (device : DetectedUPS) : Pass :=
  let name := assignName persisted pass.usedNames device
  { assigned := pass.assigned ++ [{ device with name }]
    nextMap := pass.nextMap.insert device.stableKey name
    usedNames := name :: pass.usedNames }

def assignStableNames (devices : List DetectedUPS) (persisted : NameMap) :
    List DetectedUPS × NameMap :=
  let pass := devices.foldl (Pass.assign persisted) {}
  (pass.assigned, pass.nextMap)

/-! ## The candidates differ -/

/-- The byte of `-`. -/
def dash : UInt8 := 45

theorem dash_notMem_utf8EncodeChar {c : Char} (other : c ≠ '-') : dash ∉ String.utf8EncodeChar c := by
  have differs : c.val.toNat ≠ 45 := by
    intro same
    exact other (Char.ext (UInt32.toNat_inj.mp same))
  have small : c.val.toNat < 2 ^ 32 := c.val.toNat_lt
  intro member
  -- a byte of a longer encoding is at least 0x80
  have byte : ∀ n : Nat, dash = UInt8.ofNat n → n % 256 = 45 := by
    intro n same
    have := congrArg UInt8.toNat same
    simp [dash] at this
    omega
  unfold String.utf8EncodeChar at member
  dsimp only at member
  split_ifs at member with one two three <;>
    simp only [List.mem_cons, List.not_mem_nil, or_false] at member
  · have := byte _ member
    omega
  · rcases member with here | here <;> have := byte _ here <;> omega
  · rcases member with here | here | here <;> have := byte _ here <;> omega
  · rcases member with here | here | here | here <;> have := byte _ here <;> omega

theorem dash_notMem_flatMap {l : List Char} (clean : ∀ c ∈ l, c ≠ '-') :
    dash ∉ l.flatMap String.utf8EncodeChar := by
  intro member
  obtain ⟨c, inside, here⟩ := List.mem_flatMap.mp member
  exact dash_notMem_utf8EncodeChar (clean c inside) here

theorem flatMap_utf8EncodeChar_injective {l m : List Char}
    (same : l.flatMap String.utf8EncodeChar = m.flatMap String.utf8EncodeChar) : l = m := by
  have encoded : l.utf8Encode = m.utf8Encode := by
    simp only [List.utf8Encode, same]
  have texts : String.ofList l = String.ofList m := by
    apply String.toByteArray_inj.mp
    simp only [String.toByteArray_ofList, encoded]
  simpa using congrArg String.toList texts

/-- The text of a suffix after its dash. -/
def suffixDigits (i : Nat) : Bytes := utf8 (toString (i + 2))

theorem dash_notMem_suffixDigits (i : Nat) : dash ∉ suffixDigits i := by
  apply dash_notMem_flatMap
  intro c member
  have digit : c.isDigit := by
    apply Nat.isDigit_of_mem_toDigits (b := 10) (n := i + 2) (by omega) (by omega)
    simpa [Nat.toString_eq_repr, Nat.toList_repr] using member
  rintro rfl
  cases digit

theorem suffixDigits_injective : Function.Injective suffixDigits := by
  intro i j same
  have texts := flatMap_utf8EncodeChar_injective same
  have digits : Nat.toDigits 10 (i + 2) = Nat.toDigits 10 (j + 2) := by
    simpa only [Nat.toString_eq_repr, Nat.toList_repr] using texts
  have values := congrArg (fun digits => Nat.ofDigitChars 10 digits 0) digits
  simpa using values

theorem candidate_succ (base : Bytes) (i : Nat) :
    ∃ n ≥ 4, candidate base (i + 1) = base.take n ++ dash :: suffixDigits i :=
  ⟨_, Nat.le_max_left _ _, rfl⟩

/-- What stands before and after the last dash. -/
theorem append_dash_inj {t t' ds ds' : Bytes} (same : t ++ dash :: ds = t' ++ dash :: ds')
    (clean : dash ∉ ds) (clean' : dash ∉ ds') : t = t' ∧ ds = ds' := by
  rcases List.append_eq_append_iff.mp same with ⟨mid, front, back⟩ | ⟨mid, front, back⟩
  · cases mid with
    | nil =>
      simp only [List.nil_append, List.cons.injEq, true_and] at back
      exact ⟨by simp [front], back⟩
    | cons b mid =>
      simp only [List.cons_append, List.cons.injEq] at back
      exact absurd (by simp [back.2]) clean
  · cases mid with
    | nil =>
      simp only [List.nil_append, List.cons.injEq, true_and] at back
      exact ⟨by simp [front], back.symm⟩
    | cons b mid =>
      simp only [List.cons_append, List.cons.injEq] at back
      exact absurd (by simp [back.2]) clean'

theorem isNameRune_ne_dash {r : Char} (kept : isNameRune r = true) : r ≠ '-' := by
  rintro rfl
  revert kept
  decide

/-- A base name has one dash, at its fourth place. -/
theorem normalizeUPSName_shape (source : String) :
    ∃ rest, normalizeUPSName source = [117, 112, 115, dash] ++ rest ∧ dash ∉ rest := by
  have front : utf8 "ups-" = [117, 112, 115, dash] := by decide
  simp only [normalizeUPSName]
  split_ifs with nothing
  · exact ⟨utf8 "device", by decide, by decide⟩
  · refine ⟨(((toLower source).toList.filter isNameRune).flatMap String.utf8EncodeChar).take 16, ?_, ?_⟩
    · rw [front]
      simp [maxUPSNameLength]
    · intro member
      refine dash_notMem_flatMap ?_ (List.mem_of_mem_take member)
      intro c inside
      exact isNameRune_ne_dash (List.mem_filter.mp inside).2

theorem candidate_injective (source : String) :
    Function.Injective (candidate (normalizeUPSName source)) := by
  obtain ⟨rest, shape, clean⟩ := normalizeUPSName_shape source
  -- the base name itself has its last dash earlier than any other candidate
  have base_ne : ∀ i, candidate (normalizeUPSName source) 0 ≠
      candidate (normalizeUPSName source) (i + 1) := by
    intro i same
    obtain ⟨n, long, made⟩ := candidate_succ (normalizeUPSName source) i
    rw [made] at same
    change normalizeUPSName source = _ at same
    have split : [117, 112, 115] ++ dash :: rest =
        (normalizeUPSName source).take n ++ dash :: suffixDigits i := by
      rw [← same, shape]
      rfl
    have lengths := congrArg List.length (append_dash_inj split clean (dash_notMem_suffixDigits i)).1
    rw [List.length_take, shape] at lengths
    simp only [List.length_append, List.length_cons, List.length_nil] at lengths
    omega
  intro i j same
  cases i with
  | zero =>
    cases j with
    | zero => rfl
    | succ j => exact absurd same (base_ne j)
  | succ i =>
    cases j with
    | zero => exact absurd same.symm (base_ne i)
    | succ j =>
      obtain ⟨n, -, left⟩ := candidate_succ (normalizeUPSName source) i
      obtain ⟨m, -, right⟩ := candidate_succ (normalizeUPSName source) j
      rw [left, right] at same
      have digits := (append_dash_inj same (dash_notMem_suffixDigits i) (dash_notMem_suffixDigits j)).2
      exact congrArg Nat.succ (suffixDigits_injective digits)

/-- The search ends with the first candidate that is not in use. -/
theorem nextAvailableUPSName_eq (source : String) (used : List Bytes) :
    ∃ i ≤ used.length, nextAvailableUPSName source used = candidate (normalizeUPSName source) i ∧
      candidate (normalizeUPSName source) i ∉ used ∧
      ∀ j < i, candidate (normalizeUPSName source) j ∈ used :=
  firstUnused_spec (candidate_injective source) used

end Strom.Nutconf
