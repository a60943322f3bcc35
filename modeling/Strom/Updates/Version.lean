import Mathlib.Data.Prod.Lex
import Strom.Go.Errors
import Strom.Go.Strings

/-!
# Stable release versions (`version.go`)

`stableVersionPattern` is `^v(\d+)\.(\d+)\.(\d+)$`, `parseStableVersion` adds the
conversion of the three components to `int`.  A component above the largest
`int` matches the pattern and does not parse.

`StableVersion.key` places versions in the lexicographic order of their
components; `compare_pos_iff` shows that `compare` computes that order, so
`Newer` inherits transitivity and irreflexivity from it.
-/

namespace Strom.Updates

open Strom.Go

/-- `stableVersionPattern.FindStringSubmatch`: the digits of the three components. -/
def stableVersionPattern (version : String) : Option (List Char × List Char × List Char) :=
  match version.toList with
  | 'v' :: rest =>
    match rest.span Char.isDigit with
    | (major, '.' :: rest) =>
      match rest.span Char.isDigit with
      | (minor, '.' :: rest) =>
        match rest.span Char.isDigit with
        | (patch, []) =>
          if major ≠ [] ∧ minor ≠ [] ∧ patch ≠ [] then some (major, minor, patch) else none
        | _ => none
      | _ => none
    | _ => none
  | _ => none

/-- `strconv.Atoi` on a run of digits, with a 64-bit `int`. -/
def atoi (digits : List Char) : Except GoError Nat :=
  if digitsValue digits ≤ maxInt then .ok (digitsValue digits)
  else .error (.text
    ("strconv.Atoi: parsing " ++ quote (String.ofList digits) ++ ": value out of range"))

structure StableVersion where
  major : Nat
  minor : Nat
  patch : Nat
deriving DecidableEq, Repr

def parseStableVersion (version : String) : Except GoError StableVersion :=
  match stableVersionPattern version with
  | none => .error (.text (quote version ++ " is not a stable vMAJOR.MINOR.PATCH version"))
  | some (major, minor, patch) => do
    let major ← wrapError "parse major version" (atoi major)
    let minor ← wrapError "parse minor version" (atoi minor)
    let patch ← wrapError "parse patch version" (atoi patch)
    return { major, minor, patch }

/-- `stableVersionPattern.MatchString`. -/
def isStableVersion (version : String) : Bool := (stableVersionPattern version).isSome

def compareInt (a b : Nat) : Int := if a < b then -1 else if a > b then 1 else 0

def StableVersion.compare (v other : StableVersion) : Int :=
  if v.major ≠ other.major then compareInt v.major other.major
  else if v.minor ≠ other.minor then compareInt v.minor other.minor
  else compareInt v.patch other.patch

def isNewerStableVersion (candidate installed : String) : Except GoError Bool := do
  let candidateVersion ← wrapError "candidate version" (parseStableVersion candidate)
  let installedVersion ← wrapError "installed version" (parseStableVersion installed)
  return candidateVersion.compare installedVersion > 0

/-! ## The version order -/

/-- The position of a version in the lexicographic order of its components. -/
def StableVersion.key (v : StableVersion) : ℕ ×ₗ ℕ ×ₗ ℕ :=
  toLex (v.major, toLex (v.minor, v.patch))

theorem StableVersion.key_lt_iff (v w : StableVersion) :
    v.key < w.key ↔ v.major < w.major ∨
      v.major = w.major ∧ (v.minor < w.minor ∨ v.minor = w.minor ∧ v.patch < w.patch) := by
  simp only [key, Prod.Lex.toLex_lt_toLex]

theorem compareInt_pos_iff (a b : Nat) : 0 < compareInt a b ↔ b < a := by
  unfold compareInt
  split
  · omega
  · split <;> omega

/-- `compare` decides the lexicographic order. -/
theorem StableVersion.compare_pos_iff (v w : StableVersion) : 0 < v.compare w ↔ w.key < v.key := by
  rw [key_lt_iff]
  unfold compare
  split
  · rw [compareInt_pos_iff]; omega
  · split
    · rw [compareInt_pos_iff]; omega
    · rw [compareInt_pos_iff]; omega

/-- The order position of a version text, if it parses. -/
def versionKey (version : String) : Option (ℕ ×ₗ ℕ ×ₗ ℕ) :=
  (parseStableVersion version).toOption.map StableVersion.key

/-- A text that parses as a stable version. -/
def Stable (version : String) : Prop := ∃ parsed, parseStableVersion version = .ok parsed

/-- `candidate` is a stable version strictly newer than the stable version `installed`. -/
def Newer (candidate installed : String) : Prop :=
  isNewerStableVersion candidate installed = .ok true

instance (version : String) : Decidable (Stable version) :=
  match parsed : parseStableVersion version with
  | .ok v => .isTrue ⟨v, parsed⟩
  | .error _ => .isFalse (by rintro ⟨_, ok⟩; rw [parsed] at ok; cases ok)

instance (candidate installed : String) : Decidable (Newer candidate installed) :=
  inferInstanceAs (Decidable (_ = _))

theorem stable_iff_versionKey (version : String) :
    Stable version ↔ ∃ key, versionKey version = some key := by
  unfold Stable versionKey
  cases parseStableVersion version <;> simp [Except.toOption]

/-- Two stable versions are always comparable, and the answer is the order of their keys. -/
theorem isNewerStableVersion_ok {candidate installed : String} {c i : StableVersion}
    (candidateOk : parseStableVersion candidate = .ok c)
    (installedOk : parseStableVersion installed = .ok i) :
    isNewerStableVersion candidate installed = .ok (decide (i.key < c.key)) := by
  have positive : (c.compare i > 0) = (i.key < c.key) :=
    propext (StableVersion.compare_pos_iff c i)
  simp only [isNewerStableVersion, candidateOk, installedOk, wrapError_ok, bind, Except.bind, pure,
    Except.pure, positive]

theorem newer_iff (candidate installed : String) :
    Newer candidate installed ↔ ∃ c i, versionKey candidate = some c ∧
      versionKey installed = some i ∧ i < c := by
  unfold Newer versionKey
  cases candidateOk : parseStableVersion candidate with
  | error e =>
    simp [isNewerStableVersion, candidateOk, Except.toOption, bind, Except.bind]
  | ok c =>
    cases installedOk : parseStableVersion installed with
    | error e =>
      simp [isNewerStableVersion, candidateOk, installedOk, Except.toOption, bind, Except.bind]
    | ok i =>
      rw [isNewerStableVersion_ok candidateOk installedOk]
      simp [Except.toOption]

theorem Newer.stable_left {a b : String} (newer : Newer a b) : Stable a := by
  obtain ⟨c, _, key, _⟩ := (newer_iff a b).mp newer
  exact (stable_iff_versionKey a).mpr ⟨c, key⟩

theorem Newer.stable_right {a b : String} (newer : Newer a b) : Stable b := by
  obtain ⟨_, i, _, key, _⟩ := (newer_iff a b).mp newer
  exact (stable_iff_versionKey b).mpr ⟨i, key⟩

theorem Newer.trans {a b c : String} (first : Newer a b) (second : Newer b c) : Newer a c := by
  obtain ⟨x, y, hx, hy, below⟩ := (newer_iff a b).mp first
  obtain ⟨y', z, hy', hz, below'⟩ := (newer_iff b c).mp second
  rw [hy] at hy'
  cases hy'
  exact (newer_iff a c).mpr ⟨x, z, hx, hz, below'.trans below⟩

theorem Newer.irrefl (a : String) : ¬ Newer a a := by
  intro newer
  obtain ⟨x, y, hx, hy, below⟩ := (newer_iff a a).mp newer
  rw [hx] at hy
  cases hy
  exact lt_irrefl x below

theorem Newer.ne {a b : String} (newer : Newer a b) : a ≠ b := by
  rintro rfl
  exact Newer.irrefl a newer

theorem Newer.asymm {a b : String} (newer : Newer a b) : ¬ Newer b a :=
  fun back => Newer.irrefl a (newer.trans back)

/-- A stable version is not empty: it starts with `v`. -/
theorem Stable.toList_head {version : String} (stable : Stable version) :
    ∃ rest, version.toList = 'v' :: rest := by
  obtain ⟨parsed, ok⟩ := stable
  unfold parseStableVersion at ok
  cases found : stableVersionPattern version with
  | none => rw [found] at ok; cases ok
  | some components =>
    unfold stableVersionPattern at found
    split at found
    · rename_i rest shape
      exact ⟨rest, shape⟩
    · cases found

theorem Stable.ne_empty {version : String} (stable : Stable version) : version ≠ "" := by
  rintro rfl
  obtain ⟨rest, shape⟩ := stable.toList_head
  cases shape

/-- Parsing implies matching the pattern; the converse fails for components
    beyond the largest `int`. -/
theorem Stable.isStableVersion {version : String} (stable : Stable version) :
    isStableVersion version = true := by
  obtain ⟨parsed, ok⟩ := stable
  unfold parseStableVersion at ok
  unfold Updates.isStableVersion
  cases found : stableVersionPattern version with
  | none => rw [found] at ok; cases ok
  | some components => rfl

theorem span_parts {p : Char → Bool} {l a b : List Char} (split : l.span p = (a, b)) :
    l = a ++ b ∧ ∀ c ∈ a, p c = true := by
  rw [List.span_eq_takeWhile_dropWhile, Prod.mk.injEq] at split
  obtain ⟨rfl, rfl⟩ := split
  exact ⟨(List.takeWhile_append_dropWhile).symm, fun c member => by simpa using List.all_eq_true.mp List.all_takeWhile c member⟩

/-- A version that matches the pattern starts with `v` and ends with a digit. -/
theorem stable_shape {version : String} (stable : isStableVersion version = true) :
    ∃ rest last, version.toList = 'v' :: (rest ++ [last]) ∧ last.isDigit = true := by
  unfold isStableVersion stableVersionPattern at stable
  split at stable
  · next rest shape =>
    split at stable
    · next major rest' split₁ =>
      split at stable
      · next minor rest'' split₂ =>
        split at stable
        · next patch split₃ =>
          split at stable
          · next nonempty =>
            obtain ⟨h₁, -⟩ := span_parts split₁
            obtain ⟨h₂, -⟩ := span_parts split₂
            obtain ⟨h₃, digits⟩ := span_parts split₃
            obtain ⟨init, last, rfl⟩ := (List.eq_nil_or_concat patch).resolve_left nonempty.2.2
            refine ⟨major ++ '.' :: (minor ++ '.' :: init), last, ?_, digits last (by simp)⟩
            rw [shape, h₁, h₂, h₃]
            simp
          · cases stable
        · cases stable
      · cases stable
    · cases stable
  · cases stable

theorem trimSpace_of_isStableVersion {version : String} (stable : isStableVersion version = true) :
    trimSpace version = version := by
  obtain ⟨rest, last, shape, digit⟩ := stable_shape stable
  apply trimSpace_eq_self
  · rw [shape]
    intro c first
    cases first
    decide
  · rw [shape]
    intro c final
    rw [← List.cons_append, List.getLast?_concat] at final
    cases final
    exact isSpaceRune_of_isDigit digit

end Strom.Updates
