import Strom.Go.Floats
import Strom.Handlers.BatteryTrend

/-!
# The readings of `battery.runtime`

The agent reads the value with `ParseFloat` and drops the fraction (`parseUPSInt`), the registry
and the trend of the controller read it with `ParseInt` (`parseOptionalInt64`).  They agree on what
is no number at all, and on whole numbers that a `float64` can hold; every other spelling of a
number has a runtime on the agent's side only (`runtimes_agree_iff`).
-/

namespace Strom.Handlers

open Strom.Go Strom.Registry

section Conversion

variable (outOfRange : Float64 → Int)

/-- `int64(value)`.  Go leaves open what comes out where the value does not fit. -/
def toInt64 (value : Float64) : Int :=
  match value with
  | .finite q =>
    let whole := if q < 0 then -⌊-q⌋ else ⌊q⌋
    if -2 ^ 63 ≤ whole ∧ whole < 2 ^ 63 then whole else outOfRange value
  | _ => outOfRange value

def parseUPSInt (values : String → String) (key : String) : Option Int :=
  let value := trimSpace (values key)
  if value = "" then none
  else (parseFloat value).map (toInt64 outOfRange)

end Conversion

def parseOptionalInt64 (raw : String) : Option Int := parseInt (trimSpace raw)

/-! ## Whole numbers -/

/-- What digits behind a sign or not stand for. -/
def signedValue (s : String) : Int :=
  if (splitSign s.toList).1 then -(digitsValue (splitSign s.toList).2 : Int) else digitsValue (splitSign s.toList).2

/-- A text of digits, behind a sign or not. -/
structure IsNumeral (s : String) : Prop where
  given : (splitSign s.toList).2 ≠ []
  digits : ∀ c ∈ (splitSign s.toList).2, c.isDigit = true

/-- The numbers of an `int64`. -/
def FitsInt64 (n : Int) : Prop := -2 ^ 63 ≤ n ∧ n < 2 ^ 63

/-- The number comes back from a `float64`. -/
def Survives (outOfRange : Float64 → Int) (n : Int) : Prop :=
  (roundFloat64 n).map (fun q => toInt64 outOfRange (.finite q)) = some n

theorem parseInt_eq (s : String) : parseInt s =
    if (splitSign s.toList).2 = [] || !(splitSign s.toList).2.all Char.isDigit then none
    else if -2 ^ 63 ≤ signedValue s ∧ signedValue s < 2 ^ 63 then some (signedValue s) else none := by
  unfold parseInt signedValue
  generalize s.toList = cs
  split
  · simp [splitSign]
  · simp [splitSign]
  · next hyphen plus =>
    have bare : splitSign cs = (false, cs) := by
      unfold splitSign
      split <;> simp_all
    simp [bare]

theorem parseInt_eq_some_iff {s : String} {n : Int} :
    parseInt s = some n ↔ IsNumeral s ∧ FitsInt64 (signedValue s) ∧ signedValue s = n := by
  rw [parseInt_eq]
  constructor
  · intro taken
    split at taken
    · cases taken
    · next plain =>
      split at taken
      · next fits =>
        simp only [Bool.or_eq_true, decide_eq_true_eq, Bool.not_eq_true', Bool.not_eq_false, not_or,
          List.all_eq_true] at plain
        exact ⟨⟨plain.1, plain.2⟩, fits, Option.some.inj taken⟩
      · cases taken
  · rintro ⟨⟨given, digits⟩, fits, rfl⟩
    have all : (splitSign s.toList).2.all Char.isDigit = true := List.all_eq_true.mpr digits
    rw [decide_eq_false given, all, if_neg (by decide)]
    exact if_pos fits

/-- `ParseFloat` reads a whole number as its nearest `float64`. -/
theorem parseFloat_of_isNumeral {s : String} (numeral : IsNumeral s) :
    parseFloat s = (roundFloat64 (signedValue s)).map .finite := by
  have whole : s.toList.head?.map Char.toLower ≠ some 'n' := by
    intro named
    obtain ⟨c, inside, lower⟩ := Option.map_eq_some_iff.mp named
    have digits := numeral.digits
    unfold splitSign at digits
    split at digits
    · next shape =>
      rw [shape] at inside
      cases inside
      cases lower
    · next shape =>
      rw [shape] at inside
      cases inside
      cases lower
    · have digit := digits c (List.mem_of_mem_head? inside)
      rw [toLower_of_isDigit digit] at lower
      rw [lower] at digit
      cases digit
  exact parseFloat_digits rfl numeral.digits numeral.given whole

theorem roundEven_le (q : Rat) : (roundEven q : Rat) ≤ q + 1 := by
  have below : ((⌊q⌋ : Int) : Rat) ≤ q := Int.floor_le q
  have parity : ⌊q⌋ % 2 ≤ 1 := by omega
  have parity' : ((⌊q⌋ % 2 : Int) : Rat) ≤ 1 := by exact_mod_cast parity
  unfold roundEven
  simp only
  split
  · linarith
  · split
    · push_cast
      linarith
    · rw [Int.cast_add]
      linarith

theorem log_le_of_le {q : Rat} (range : q ≤ 2 ^ 63) : Int.log 2 q ≤ 63 := by
  obtain zero | positive := le_or_gt q 0
  · rw [Int.log_of_right_le_zero _ zero]
    decide
  · have power : Int.log 2 ((2 : Rat) ^ (63 : Int)) = 63 := by
      exact_mod_cast Int.log_zpow (R := Rat) (b := 2) (by decide) 63
    calc Int.log 2 q ≤ Int.log 2 ((2 : Rat) ^ (63 : Int)) := Int.log_mono_right positive (by exact_mod_cast range)
      _ = 63 := power

/-- The numbers of an `int64` are far from the largest `float64`. -/
theorem roundFloat64_of_fits {n : Int} (fits : FitsInt64 n) : ∃ q, roundFloat64 n = some q := by
  have range : |(n : Rat)| ≤ 2 ^ 63 := by
    rw [← Int.cast_abs]
    have bound : |n| ≤ 2 ^ 63 := abs_le.mpr ⟨fits.1, fits.2.le⟩
    exact_mod_cast bound
  have ulp : float64Ulp |(n : Rat)| ≤ 2 ^ 11 := by
    have log := log_le_of_le range
    have exponent : max (Int.log 2 |(n : Rat)|) (-1022) - 52 ≤ (11 : Nat) := by omega
    calc float64Ulp |(n : Rat)| ≤ (2 : Rat) ^ ((11 : Nat) : Int) := zpow_le_zpow_right₀ (by norm_num) exponent
      _ = 2 ^ 11 := zpow_natCast 2 11
  have positive := float64Ulp_pos |(n : Rat)|
  have rounded : (roundEven (|(n : Rat)| / float64Ulp |(n : Rat)|) : Rat) * float64Ulp |(n : Rat)| < 2 ^ 1024 :=
    calc (roundEven (|(n : Rat)| / float64Ulp |(n : Rat)|) : Rat) * float64Ulp |(n : Rat)|
        ≤ (|(n : Rat)| / float64Ulp |(n : Rat)| + 1) * float64Ulp |(n : Rat)| :=
          mul_le_mul_of_nonneg_right (roundEven_le _) positive.le
      _ = |(n : Rat)| + float64Ulp |(n : Rat)| := by
          rw [add_mul, one_mul, div_mul_cancel₀ _ positive.ne']
      _ ≤ 2 ^ 63 + 2 ^ 11 := add_le_add range ulp
      _ < 2 ^ 1024 :=
          lt_trans (b := (2 : Rat) ^ 64) (by norm_num) (pow_lt_pow_right₀ (by norm_num) (by norm_num))
  unfold roundFloat64
  simp only [if_neg (not_le.mpr rounded)]
  exact ⟨_, rfl⟩

/-! ## Agreement -/

section Agreement

variable {F : Type} (f : Floats F) (outOfRange : Float64 → Int)

/-- The agent, the registry and the trend take one number of seconds from what the driver reports,
    or none. -/
structure RuntimesAgree (values : String → String) : Prop where
  parsers : parseUPSInt outOfRange values "battery.runtime" = parseOptionalInt64 (values "battery.runtime")
  trend : ∀ (snapshot : BatteryTrendSnapshot F) (sample : UPSHistorySample) (n : Int),
    trimSpace sample.variable_ = "battery.runtime" → sample.value = values "battery.runtime" →
    parseUPSInt outOfRange values "battery.runtime" = some n → 0 < n →
    (snapshot.add f sample).runtimeSeconds = some n

theorem add_runtime {snapshot : BatteryTrendSnapshot F} {sample : UPSHistorySample} {n : Int}
    (named : trimSpace sample.variable_ = "battery.runtime") (read : parseOptionalInt64 sample.value = some n)
    (positive : 0 < n) : (snapshot.add f sample).runtimeSeconds = some n := by
  unfold parseOptionalInt64 at read
  unfold BatteryTrendSnapshot.add
  rw [if_pos named, read]
  simp only [if_pos positive]

/-- An empty text is no number. -/
theorem parseFloat_empty : parseFloat "" = none := by decide +kernel

theorem parseUPSInt_eq (values : String → String) (key : String) :
    parseUPSInt outOfRange values key = (parseFloat (trimSpace (values key))).map (toInt64 outOfRange) := by
  unfold parseUPSInt
  simp only
  split
  · next empty => rw [empty, parseFloat_empty, Option.map_none]
  · rfl

theorem parsers_agree_iff (s : String) : (parseFloat s).map (toInt64 outOfRange) = parseInt s ↔
    parseFloat s = none ∨ IsNumeral s ∧ FitsInt64 (signedValue s) ∧ Survives outOfRange (signedValue s) := by
  constructor
  · intro same
    cases read : parseInt s with
    | none =>
      rw [read, Option.map_eq_none_iff] at same
      exact .inl same
    | some n =>
      obtain ⟨numeral, fits, rfl⟩ := parseInt_eq_some_iff.mp read
      rw [read, parseFloat_of_isNumeral numeral, Option.map_map] at same
      exact .inr ⟨numeral, fits, same⟩
  · intro either
    obtain unread | ⟨numeral, fits, survives⟩ := either
    · -- what `ParseInt` takes, `ParseFloat` takes too
      have unread' : parseInt s = none := by
        cases read : parseInt s with
        | none => rfl
        | some n =>
          obtain ⟨numeral, fits, rfl⟩ := parseInt_eq_some_iff.mp read
          obtain ⟨q, rounded⟩ := roundFloat64_of_fits fits
          rw [parseFloat_of_isNumeral numeral, rounded] at unread
          cases unread
      rw [unread, unread', Option.map_none]
    · rw [parseFloat_of_isNumeral numeral, Option.map_map, parseInt_eq_some_iff.mpr ⟨numeral, fits, rfl⟩]
      exact survives

/-- The three readings agree exactly on what is no number for `ParseFloat`, and on whole numbers
    that fit an `int64` and come back from a `float64`. -/
theorem runtimes_agree_iff (values : String → String) : RuntimesAgree f outOfRange values ↔
    let reported := trimSpace (values "battery.runtime")
    parseFloat reported = none ∨
      IsNumeral reported ∧ FitsInt64 (signedValue reported) ∧ Survives outOfRange (signedValue reported) := by
  have readings := parsers_agree_iff outOfRange (trimSpace (values "battery.runtime"))
  constructor
  · intro agree
    have parsers := agree.parsers
    rw [parseUPSInt_eq] at parsers
    exact readings.mp parsers
  · intro condition
    have parsers : parseUPSInt outOfRange values "battery.runtime" = parseOptionalInt64 (values "battery.runtime") := by
      rw [parseUPSInt_eq]
      exact readings.mpr condition
    refine ⟨parsers, ?_⟩
    intro snapshot sample n named same read positive
    rw [parsers, ← same] at read
    exact add_runtime f named read positive

/-- All numbers of at most 2^53 come back. -/
theorem survives_of_small {n : Int} (small : |n| ≤ 2 ^ 53) : Survives outOfRange n := by
  have range : -2 ^ 63 ≤ n ∧ n < 2 ^ 63 := by
    have bounds := abs_le.mp small
    omega
  unfold Survives toInt64
  rw [roundFloat64_int small]
  have whole : (if (n : Rat) < 0 then -⌊-(n : Rat)⌋ else ⌊(n : Rat)⌋) = n := by
    have negated : ⌊-(n : Rat)⌋ = -n := by exact_mod_cast Int.floor_intCast (R := Rat) (-n)
    rw [negated, Int.floor_intCast, neg_neg, ite_self]
  simp only [Option.map_some, whole, if_pos range]

/-- A runtime with a fraction counts for the agent only. -/
theorem fraction_read_by_agent_only :
    parseUPSInt (fun _ => 0) (fun _ => "1800.0") "battery.runtime" = some 1800 ∧ parseOptionalInt64 "1800.0" = none := by
  decide +kernel

end Agreement

end Strom.Handlers
