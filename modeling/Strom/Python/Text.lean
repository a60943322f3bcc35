import Strom.Go.Strings

/-!
# Python text and numbers

`str.strip`, the decimal digits of `\d`, and the conversions between `int` and `str`.  A digit
of another script is a decimal digit for `\d` and for `int()` alike; `Decimals` leaves open which
characters beyond ASCII are digits.  Both conversions refuse more than 4300 digits.
-/

namespace Strom.Python

open Strom.Go

/-- The message of a `ValueError`. -/
abbrev ValueError := String

/-- `str.isspace`. -/
def isSpace (c : Char) : Bool :=
  let n := c.toNat
  (9 ≤ n && n ≤ 13) || (28 ≤ n && n ≤ 32) || n == 0x85 || n == 0xA0 || n == 0x1680 ||
    (0x2000 ≤ n && n ≤ 0x200A) || n == 0x2028 || n == 0x2029 || n == 0x202F || n == 0x205F || n == 0x3000

/-- `s.strip()`. -/
def strip (s : String) : List Char := trimmed isSpace s.toList

/-- The decimal digits of Unicode, each with its value. -/
structure Decimals where
  value : Char → Option Nat
  ascii : ∀ c, c.toNat < 128 → value c = if c.isDigit then some (c.toNat - '0'.toNat) else none

/-- Only the digits of ASCII. -/
def asciiDecimals : Decimals where
  value c := if c.isDigit then some (c.toNat - '0'.toNat) else none
  ascii := fun _ _ => rfl

/-- `str.isdecimal`, the characters of `\d`. -/
def Decimals.isDecimal (u : Decimals) (c : Char) : Bool := (u.value c).isSome

/-- The value of a run of decimal digits. -/
def Decimals.number (u : Decimals) (digits : List Char) : Nat :=
  digits.foldl (fun n c => 10 * n + (u.value c).getD 0) 0

/-- `sys.get_int_max_str_digits()`. -/
def maxStrDigits : Nat := 4300

/-- `int(digits)` of a run of decimal digits. -/
def Decimals.int (u : Decimals) (digits : List Char) : Except ValueError Nat :=
  if digits.length ≤ maxStrDigits then .ok (u.number digits)
  else .error ("Exceeds the limit (4300 digits) for integer string conversion: value has " ++
    toString digits.length ++ " digits; use sys.set_int_max_str_digits() to increase the limit")

/-- `str(n)`, the text of a formatted `int`. -/
def str (n : Nat) : Except ValueError (List Char) :=
  if (Nat.toDigits 10 n).length ≤ maxStrDigits then .ok (Nat.toDigits 10 n)
  else .error ("Exceeds the limit (4300 digits) for integer string conversion; " ++
    "use sys.set_int_max_str_digits() to increase the limit")

/-! ## Scans -/

/-- A scan stops at the first character outside its kind. -/
theorem span_stop {p : Char → Bool} {run rest : List Char} (all : ∀ c ∈ run, p c = true)
    (stop : ∀ c ∈ rest.head?, p c = false) : (run ++ rest).span p = (run, rest) := by
  have none_taken : rest.takeWhile p = [] := by
    cases rest with
    | nil => rfl
    | cons c rest => exact List.takeWhile_cons_of_neg (by simp [stop c rfl])
  rw [List.span_eq_takeWhile_dropWhile, List.takeWhile_append_of_pos all, List.dropWhile_append_of_pos all,
    none_taken, dropWhile_eq_self stop, List.append_nil]

theorem span_all {p : Char → Bool} {run : List Char} (all : ∀ c ∈ run, p c = true) :
    run.span p = (run, []) := by
  have nothing : ∀ c ∈ ([] : List Char).head?, p c = false := by simp
  simpa using span_stop all nothing

/-! ## ASCII digits -/

theorem toNat_of_isDigit {c : Char} (digit : c.isDigit = true) : 48 ≤ c.toNat ∧ c.toNat ≤ 57 := by
  simp only [Char.isDigit, ge_iff_le, Bool.and_eq_true, decide_eq_true_eq, UInt32.le_iff_toNat_le] at digit
  exact digit

theorem isSpace_of_isDigit {c : Char} (digit : c.isDigit = true) : isSpace c = false := by
  obtain ⟨lower, upper⟩ := toNat_of_isDigit digit
  simp only [isSpace, Bool.or_eq_false_iff, Bool.and_eq_false_iff, decide_eq_false_iff_not, beq_eq_false_iff_ne]
  omega

namespace Decimals

variable (u : Decimals)

theorem value_of_isDigit {c : Char} (digit : c.isDigit = true) : u.value c = some (c.toNat - '0'.toNat) := by
  have bound := toNat_of_isDigit digit
  rw [u.ascii c (by omega), if_pos digit]

theorem isDecimal_of_isDigit {c : Char} (digit : c.isDigit = true) : u.isDecimal c = true := by
  rw [isDecimal, u.value_of_isDigit digit]
  rfl

theorem isDecimal_dot : u.isDecimal '.' = false := by
  rw [isDecimal, u.ascii '.' (by decide)]
  rfl

theorem isDecimal_hyphen : u.isDecimal '-' = false := by
  rw [isDecimal, u.ascii '-' (by decide)]
  rfl

/-- On the digits of ASCII, `int()` and the agent's reader see the same number. -/
theorem number_of_isDigit {digits : List Char} (all : ∀ c ∈ digits, c.isDigit = true) :
    u.number digits = digitsValue digits := by
  unfold number digitsValue
  apply List.foldl_ext
  intro n c inside
  rw [u.value_of_isDigit (all c inside)]
  rfl

end Decimals

/-! ## The text of a number -/

theorem isDigit_of_mem_str {n : Nat} {c : Char} (inside : c ∈ Nat.toDigits 10 n) : c.isDigit = true :=
  Nat.isDigit_of_mem_toDigits (by decide) (by decide) inside

theorem Decimals.number_toDigits (u : Decimals) (n : Nat) : u.number (Nat.toDigits 10 n) = n := by
  rw [u.number_of_isDigit fun _ inside => isDigit_of_mem_str inside]
  exact Nat.ofDigitChars_ten_toDigits

/-- An `int` of the agent is far from the limit. -/
theorem length_toDigits_of_le_maxInt {n : Nat} (fits : n ≤ maxInt) :
    (Nat.toDigits 10 n).length ≤ maxStrDigits := by
  have short : (Nat.toDigits 10 n).length ≤ 19 := by
    rw [Nat.length_toDigits_le_iff (by decide) (by decide)]
    exact lt_of_le_of_lt fits (by decide)
  exact short.trans (by decide)

theorem str_of_le_maxInt {n : Nat} (fits : n ≤ maxInt) : str n = .ok (Nat.toDigits 10 n) :=
  if_pos (length_toDigits_of_le_maxInt fits)

theorem Decimals.int_toDigits (u : Decimals) {n : Nat} (fits : n ≤ maxInt) :
    u.int (Nat.toDigits 10 n) = .ok n := by
  rw [Decimals.int, if_pos (length_toDigits_of_le_maxInt fits), u.number_toDigits]

end Strom.Python
