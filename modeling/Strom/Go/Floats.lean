import Mathlib.Data.Int.Log
import Mathlib.Data.List.TakeWhile
import Mathlib.Data.Rat.Floor
import Strom.Go.Strings

/-!
# Texts of floating-point numbers (`strconv.ParseFloat`)

A text is a decimal or a hexadecimal numeral, an infinity or not a number.  A numeral stands for a
rational, and `roundFloat64` takes the nearest `float64`, with ties to the even one.  The integers
of at most 2^53 are all among them (`roundFloat64_int`), so that the numerals of small integers
are read exactly (`parseFloat_digits`).
-/

namespace Strom.Go

/-- A `float64`, without the sign of zero. -/
inductive Float64 where
  | finite (value : Rat)
  | inf (negative : Bool)
  | nan
deriving DecidableEq, Repr

/-! ## Rounding -/

/-- The nearest integer, and of two the even one. -/
def roundEven (q : Rat) : Int :=
  let below := ⌊q⌋
  if q - below < 1 / 2 then below
  else if 1 / 2 < q - below then below + 1
  else below + below % 2

/-- The distance of the `float64`s next to a positive rational. -/
def float64Ulp (q : Rat) : Rat := (2 : Rat) ^ (max (Int.log 2 q) (-1022) - 52)

/-- The nearest `float64`, if there is one below 2^1024. -/
def roundFloat64 (q : Rat) : Option Rat :=
  let rounded := roundEven (|q| / float64Ulp |q|) * float64Ulp |q|
  if 2 ^ 1024 ≤ rounded then none else some (if q < 0 then -rounded else rounded)

/-! ## Numerals -/

/-- The sign of a text, and what follows it. -/
def splitSign : List Char → Bool × List Char
  | '-' :: rest => (true, rest)
  | '+' :: rest => (false, rest)
  | cs => (false, cs)

def isHexDigit (c : Char) : Bool := (hexDigitValue c).isSome

def isBaseDigit (hex : Bool) (c : Char) : Bool := if hex then isHexDigit c else c.isDigit

/-- The characters of a mantissa, with at most one point, and what follows them. -/
def scanMantissa (hex : Bool) : Bool → List Char → List Char × List Char
  | _, [] => ([], [])
  | sawdot, c :: rest =>
    if c = '.' then
      if sawdot then ([], c :: rest)
      else
        let scanned := scanMantissa hex true rest
        (c :: scanned.1, scanned.2)
    else if c = '_' || isBaseDigit hex c then
      let scanned := scanMantissa hex sawdot rest
      (c :: scanned.1, scanned.2)
    else ([], c :: rest)

def baseDigits (hex : Bool) (cs : List Char) : List Char := cs.filter (isBaseDigit hex)

/-- The value of digits in a base. -/
def baseValue (hex : Bool) (digits : List Char) : Nat :=
  digits.foldl (fun value c => value * (if hex then 16 else 10) + (hexDigitValue c).getD 0) 0

/-- The digits behind the point. -/
def fractionDigits (hex : Bool) (mantissa : List Char) : Nat :=
  (baseDigits hex (mantissa.dropWhile (· ≠ '.'))).length

/-- The exponent that is written out; it stops to grow at five digits. -/
def exponentValue (cs : List Char) : Nat :=
  (cs.filter Char.isDigit).foldl (fun e c => if e < 10000 then e * 10 + (c.toNat - '0'.toNat) else e) 0

/-- The exponent of a numeral, behind its mantissa. -/
def readExponent (hex : Bool) : List Char → Option Int
  | [] => if hex then none else some 0
  | c :: rest =>
    let (negative, digits) := splitSign rest
    if c.toLower ≠ (if hex then 'p' else 'e') then none
    else if !(digits.head?.any Char.isDigit) || !(digits.all fun c => c.isDigit || c = '_') then none
    else some (if negative then -exponentValue digits else exponentValue digits)

/-- The last thing that `underscoreOK` has seen. -/
inductive Seen where
  | start
  | digit
  | underscore
  | other
deriving DecidableEq

def underscoresFrom (hex : Bool) : Seen → List Char → Bool
  | seen, [] => seen ≠ .underscore
  | seen, c :: rest =>
    if isBaseDigit hex c then underscoresFrom hex .digit rest
    else if c = '_' then seen = .digit && underscoresFrom hex .underscore rest
    else seen ≠ .underscore && underscoresFrom hex .other rest

/-- `underscoreOK`, behind the sign. -/
def underscoreOK (cs : List Char) : Bool :=
  match cs with
  | '0' :: prefix_ :: rest =>
    if prefix_.toLower = 'x' then underscoresFrom true .digit rest
    else if prefix_.toLower = 'b' || prefix_.toLower = 'o' then underscoresFrom false .digit rest
    else underscoresFrom false .start cs
  | _ => underscoresFrom false .start cs

/-- The value of a numeral without its sign. -/
def numeralValue (hex : Bool) (cs : List Char) : Option Rat :=
  let (mantissa, rest) := scanMantissa hex false cs
  if baseDigits hex mantissa = [] then none
  else
    (readExponent hex rest).map fun exponent =>
      (baseValue hex (baseDigits hex mantissa) : Rat) / (if hex then 16 else 10) ^ fractionDigits hex mantissa *
        (if hex then 2 else 10) ^ exponent

/-- A numeral with its base, behind the sign. -/
def readNumeral (cs : List Char) : Option Rat :=
  if cs.contains '_' && !underscoreOK cs then none
  else
    match cs with
    | '0' :: x :: c :: rest =>
      if x.toLower = 'x' then numeralValue true (c :: rest) else numeralValue false cs
    | _ => numeralValue false cs

/-- The names of the values that are no numbers. -/
def special (s : String) : Option Float64 :=
  let (negative, name) := splitSign s.toList
  if name.map Char.toLower = "inf".toList ∨ name.map Char.toLower = "infinity".toList then some (.inf negative)
  else if s.toList.map Char.toLower = "nan".toList then some .nan
  else none

/-- `strconv.ParseFloat(s, 64)`, without the error's text. -/
def parseFloat (s : String) : Option Float64 :=
  (special s).or (do
    let (negative, cs) := splitSign s.toList
    let value ← readNumeral cs
    let rounded ← roundFloat64 (if negative then -value else value)
    return .finite rounded)

/-! ## Exact values -/

@[simp] theorem roundEven_int (n : Int) : roundEven (n : Rat) = n := by
  simp [roundEven]

theorem float64Ulp_pos (q : Rat) : 0 < float64Ulp q := zpow_pos (by norm_num) _

/-- A multiple of the distance is its own neighbour. -/
theorem roundFloat64_of_multiple {q : Rat} {m : Int} (multiple : |q| = m * float64Ulp |q|) (small : |q| < 2 ^ 1024) :
    roundFloat64 q = some q := by
  have ulp := (float64Ulp_pos |q|).ne'
  have whole : |q| / float64Ulp |q| = m := (div_eq_iff ulp).mpr multiple
  unfold roundFloat64
  rw [whole, roundEven_int, ← multiple, if_neg (not_le.mpr small)]
  split
  · next negative => rw [abs_of_neg negative, neg_neg]
  · next positive => rw [abs_of_nonneg (not_lt.mp positive)]

/-- The integers of at most 2^53 are multiples of their distance. -/
theorem exists_multiple_of_nat {n : Nat} (small : n ≤ 2 ^ 53) : ∃ m : Int, (n : Rat) = m * float64Ulp n := by
  obtain rfl | positive := Nat.eq_zero_or_pos n
  · exact ⟨0, by simp⟩
  have low : (0 : Int) ≤ Int.log 2 (n : Rat) := by
    rw [Int.log_natCast]
    exact Int.natCast_nonneg _
  have log : Int.log 2 (n : Rat) = Nat.log 2 n := Int.log_natCast 2 n
  have exponent : max (Int.log 2 (n : Rat)) (-1022) = Nat.log 2 n := by
    rw [log]
    omega
  unfold float64Ulp
  rw [exponent]
  obtain below | above := Nat.lt_or_ge (Nat.log 2 n) 53
  · -- the distance is 1 divided by a power of two
    refine ⟨n * 2 ^ (52 - Nat.log 2 n), ?_⟩
    have power : (2 : Rat) ^ ((Nat.log 2 n : Int) - 52) = ((2 : Rat) ^ (52 - Nat.log 2 n))⁻¹ := by
      rw [← zpow_natCast, ← zpow_neg]
      congr 1
      omega
    rw [power]
    push_cast
    field_simp
  · have top : 2 ^ 53 ≤ n := Nat.pow_le_of_le_log positive.ne' above
    obtain rfl : n = 2 ^ 53 := Nat.le_antisymm small top
    refine ⟨2 ^ 52, ?_⟩
    have power : Nat.log 2 (2 ^ 53) = 53 := Nat.log_pow (by decide) 53
    rw [power]
    norm_num

/-- Small integers are `float64`s. -/
theorem roundFloat64_int {n : Int} (small : |n| ≤ 2 ^ 53) : roundFloat64 (n : Rat) = some (n : Rat) := by
  have magnitude : |(n : Rat)| = (n.natAbs : Rat) := by
    rw [← Int.cast_abs, Int.abs_eq_natAbs, Int.cast_natCast]
  have bound : n.natAbs ≤ 2 ^ 53 := by
    rw [Int.abs_eq_natAbs] at small
    exact_mod_cast small
  obtain ⟨m, multiple⟩ := exists_multiple_of_nat bound
  rw [← magnitude] at multiple
  apply roundFloat64_of_multiple multiple
  rw [magnitude]
  calc (n.natAbs : Rat) ≤ 2 ^ 53 := by exact_mod_cast bound
    _ < 2 ^ 1024 := pow_lt_pow_right₀ (by norm_num) (by norm_num)

/-! ## Decimal numerals -/

section Digits

variable {digits : List Char}

theorem hexDigitValue_of_isDigit {c : Char} (digit : c.isDigit = true) :
    hexDigitValue c = some (c.toNat - '0'.toNat) := by
  have range : '0' ≤ c ∧ c ≤ '9' := by
    simp only [Char.isDigit, Bool.and_eq_true, decide_eq_true_eq] at digit
    exact digit
  rw [hexDigitValue, if_pos range]

theorem toLower_of_isDigit {c : Char} (digit : c.isDigit = true) : c.toLower = c := by
  have range : 48 ≤ c.toNat ∧ c.toNat ≤ 57 := by
    simp only [Char.isDigit, Bool.and_eq_true, decide_eq_true_eq] at digit
    exact digit
  unfold Char.toLower
  rw [dif_neg]
  intro upper
  have above : 65 ≤ c.toNat := upper.1
  omega

theorem baseValue_digits (all : ∀ c ∈ digits, c.isDigit = true) : baseValue false digits = digitsValue digits := by
  unfold baseValue digitsValue
  apply List.foldl_ext
  intro value c inside
  rw [hexDigitValue_of_isDigit (all c inside)]
  simp [Nat.mul_comm]

theorem scanMantissa_digits (all : ∀ c ∈ digits, c.isDigit = true) (rest : List Char)
    (stops : ∀ c ∈ rest.head?, c ≠ '.' ∧ c ≠ '_' ∧ c.isDigit = false) :
    scanMantissa false false (digits ++ rest) = (digits, rest) := by
  induction digits with
  | nil =>
    cases rest with
    | nil => rfl
    | cons c rest =>
      obtain ⟨point, underscore, digit⟩ := stops c rfl
      simp [scanMantissa, isBaseDigit, point, underscore, digit]
  | cons c digits ih =>
    have digit := all c List.mem_cons_self
    have point : c ≠ '.' := fun same => by simp [same] at digit
    have later := ih fun c inside => all c (List.mem_cons_of_mem _ inside)
    simp [scanMantissa, isBaseDigit, point, digit, later]

theorem numeralValue_digits (all : ∀ c ∈ digits, c.isDigit = true) (given : digits ≠ []) :
    numeralValue false digits = some (digitsValue digits : Rat) := by
  have scanned := scanMantissa_digits all [] (by simp)
  rw [List.append_nil] at scanned
  have own : baseDigits false digits = digits := by
    rw [baseDigits, List.filter_eq_self]
    exact all
  have noPoint : digits.dropWhile (· ≠ '.') = [] := by
    rw [List.dropWhile_eq_nil_iff]
    intro c inside
    have digit := all c inside
    exact decide_eq_true fun same => by simp [same] at digit
  have fraction : fractionDigits false digits = 0 := by
    rw [fractionDigits, noPoint]
    rfl
  simp only [numeralValue, scanned, own, given, if_false, fraction, baseValue_digits all, readExponent,
    Option.map_some, pow_zero, div_one, zpow_zero, mul_one, Bool.false_eq_true]

theorem readNumeral_digits (all : ∀ c ∈ digits, c.isDigit = true) (given : digits ≠ []) :
    readNumeral digits = some (digitsValue digits : Rat) := by
  have plain : digits.contains '_' = false := by
    rw [← Bool.not_eq_true, List.contains_iff_mem]
    intro inside
    have digit := all '_' inside
    simp at digit
  unfold readNumeral
  rw [plain, Bool.false_and, if_neg Bool.false_ne_true]
  split
  · next x c rest =>
    have decimal : x.toLower ≠ 'x' := by
      rw [toLower_of_isDigit (all x (by simp))]
      exact fun same => absurd (all x (by simp)) (by simp [same])
    rw [if_neg decimal, numeralValue_digits all given]
  · exact numeralValue_digits all given

theorem special_digits {s : String} {negative : Bool} (split : splitSign s.toList = (negative, digits))
    (own : ∀ c ∈ digits.head?, c.toLower ≠ 'i') (whole : s.toList.head?.map Char.toLower ≠ some 'n') :
    special s = none := by
  unfold special
  rw [split]
  have notInfinity {name : String} (first : name.toList.head? = some 'i') :
      digits.map Char.toLower ≠ name.toList := by
    intro same
    rw [← same, List.head?_map, Option.map_eq_some_iff] at first
    obtain ⟨c, inside, lower⟩ := first
    exact own c inside lower
  have notNan : s.toList.map Char.toLower ≠ "nan".toList := by
    intro same
    apply whole
    rw [← List.head?_map, same]
    rfl
  have noSpecial : ¬ (digits.map Char.toLower = "inf".toList ∨ digits.map Char.toLower = "infinity".toList) := by
    intro either
    obtain short | long := either
    · exact notInfinity rfl short
    · exact notInfinity rfl long
  simp only [noSpecial, notNan, if_false]

/-- A numeral of digits is read as its value, rounded. -/
theorem parseFloat_digits {s : String} {negative : Bool} (split : splitSign s.toList = (negative, digits))
    (all : ∀ c ∈ digits, c.isDigit = true) (given : digits ≠ []) (whole : s.toList.head?.map Char.toLower ≠ some 'n') :
    parseFloat s = (roundFloat64 ((if negative then -(digitsValue digits : Int) else digitsValue digits : Int) : Rat)).map
      .finite := by
  have first : ∀ c ∈ digits.head?, c.toLower ≠ 'i' := by
    intro c inside
    have digit := all c (List.mem_of_mem_head? inside)
    rw [toLower_of_isDigit digit]
    exact fun same => by simp [same] at digit
  have none := special_digits split first whole
  have sign : ((if negative then -(digitsValue digits : Int) else digitsValue digits : Int) : Rat) =
      if negative then -(digitsValue digits : Rat) else digitsValue digits := by
    cases negative <;> simp
  unfold parseFloat
  rw [none, split, sign]
  simp only [readNumeral_digits all given, Option.none_or, Option.bind_eq_bind, Option.bind_some, Option.pure_def]
  cases roundFloat64 (if negative then -(digitsValue digits : Rat) else digitsValue digits) <;> rfl

/-- A text that is no numeral behind its sign is not read. -/
theorem parseFloat_eq_none {s : String} {negative : Bool} {cs : List Char} (split : splitSign s.toList = (negative, cs))
    (first : ∀ c ∈ cs.head?, c.toLower ≠ 'i') (whole : s.toList.head?.map Char.toLower ≠ some 'n')
    (none : readNumeral cs = none) : parseFloat s = Option.none := by
  unfold parseFloat
  rw [special_digits split first whole, split]
  simp [none]

/-- No numeral begins with a hyphen behind its sign. -/
theorem readNumeral_hyphen (rest : List Char) : readNumeral ('-' :: rest) = none := by
  have scanned : scanMantissa false false ('-' :: rest) = ([], '-' :: rest) := by
    simp [scanMantissa, isBaseDigit]
  have numeral : numeralValue false ('-' :: rest) = none := by simp [numeralValue, scanned, baseDigits]
  unfold readNumeral
  split
  · rfl
  · exact numeral

theorem readNumeral_nil : readNumeral [] = none := by decide

/-- No numeral has a hyphen behind its digits. -/
theorem readNumeral_digits_hyphen (all : ∀ c ∈ digits, c.isDigit = true) (rest : List Char) :
    readNumeral (digits ++ '-' :: rest) = none := by
  have scanned := scanMantissa_digits all ('-' :: rest) (by simp)
  have numeral : numeralValue false (digits ++ '-' :: rest) = none := by
    have exponent : readExponent false ('-' :: rest) = none := by simp [readExponent]
    simp [numeralValue, scanned, exponent]
  unfold readNumeral
  split
  · rfl
  · split
    · next x c tail shape =>
      have decimal : x.toLower ≠ 'x' := by
        match digits, all, shape with
        | [], _, shape => simp at shape
        | [_], _, shape =>
          simp only [List.cons_append, List.nil_append, List.cons.injEq] at shape
          rw [← shape.2.1]
          decide
        | _ :: d :: _, all, shape =>
          simp only [List.cons_append, List.cons.injEq] at shape
          have digit := all d (by simp)
          rw [shape.2.1] at digit
          rw [toLower_of_isDigit digit]
          exact fun same => by simp [same] at digit
      rw [if_neg decimal, numeral]
    · exact numeral

end Digits

end Strom.Go
