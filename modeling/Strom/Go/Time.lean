import Mathlib.Data.List.Basic
import Mathlib.Tactic.IntervalCases
import Mathlib.Tactic.Tauto
import Mathlib.Tactic.Zify
import Strom.Go.Strings

/-!
# Times, durations and their RFC 3339 texts

A `Time` counts nanoseconds from the Unix epoch; the code stores times in UTC and reads
them back without a monotonic reading.  `formatRFC3339` cuts a time to whole seconds, and
over the years 0 to 9999 the texts are ordered as the times they stand for
(`formatRFC3339_lt_iff`) and read back as them (`parseRFC3339_format`).

The calendar is computed from years that begin in March, so that the leap day is the last
day of a year.
-/

namespace Strom.Go

structure Time where
  /-- Nanoseconds from the Unix epoch. -/
  ns : Int
deriving DecidableEq, Repr

/-- `time.Second`; a duration is a number of nanoseconds that an `int64` can hold. -/
def second : Int := 1000000000

/-- The longest duration, about 292 years. -/
def maxDuration : Int := 2 ^ 63 - 1

def minDuration : Int := -2 ^ 63

namespace Time

/-- The zero value of a Go time, the start of the year 1. -/
def zero : Time := ⟨-62135596800 * second⟩

def isZero (t : Time) : Bool := t = zero

/-- `t.Sub(u)`, which saturates. -/
def sub (t u : Time) : Int := max minDuration (min maxDuration (t.ns - u.ns))

def add (t : Time) (d : Int) : Time := ⟨t.ns + d⟩

/-- `t.Unix()`, rounded down. -/
def unix (t : Time) : Int := t.ns / second

def ofUnix (seconds : Int) : Time := ⟨seconds * second⟩

/-- The time that the text of `t` stands for. -/
def truncated (t : Time) : Time := ofUnix t.unix

@[simp] theorem unix_ofUnix (seconds : Int) : (ofUnix seconds).unix = seconds := by
  simp only [unix, ofUnix, second]
  omega

@[simp] theorem unix_truncated (t : Time) : t.truncated.unix = t.unix := unix_ofUnix t.unix

theorem truncated_le (t : Time) : t.truncated.ns ≤ t.ns := by
  simp only [truncated, unix, ofUnix, second]
  omega

theorem lt_truncated_add (t : Time) : t.ns < t.truncated.ns + second := by
  simp only [truncated, unix, ofUnix, second]
  omega

/-- A difference that has reached a duration has reached it exactly, saturated or not. -/
theorem le_sub_iff {d : Int} (t u : Time) (lower : minDuration < d) (upper : d ≤ maxDuration) :
    d ≤ t.sub u ↔ u.ns + d ≤ t.ns := by
  simp only [sub, minDuration, maxDuration] at *
  omega

end Time

/-! ## The calendar -/

/-- The days from 1 March of the year 0 to 1 March of the year `y`. -/
def marchYearStart (y : Int) : Int := 365 * y + y / 4 - y / 100 + y / 400

/-- The year, counted from 1 March, of a day. -/
def marchYear (day : Int) : Int :=
  let guess := 400 * day / 146097
  if day < marchYearStart guess then guess - 1
  else if marchYearStart (guess + 1) ≤ day then guess + 1
  else guess

/-- The days from 1 March to the first of the month that is `m` months later. -/
def marchMonthStart (m : Int) : Int := (153 * m + 2) / 5

/-- The month of a day of the year, 0 for March. -/
def marchMonth (dayOfYear : Int) : Int := (5 * dayOfYear + 2) / 153

structure Date where
  year : Int
  month : Int
  day : Int
deriving DecidableEq, Repr

/-- The date of the day that is so many days after 1 March of the year 0. -/
def Date.ofDay (day : Int) : Date :=
  let year := marchYear day
  let dayOfYear := day - marchYearStart year
  let month := marchMonth dayOfYear
  { year := if month < 10 then year else year + 1
    month := if month < 10 then month + 3 else month - 9
    day := dayOfYear - marchMonthStart month + 1 }

def Date.toDay (date : Date) : Int :=
  let year := if date.month < 3 then date.year - 1 else date.year
  let month := if date.month < 3 then date.month + 9 else date.month - 3
  marchYearStart year + marchMonthStart month + (date.day - 1)

theorem marchYear_spec (day : Int) :
    marchYearStart (marchYear day) ≤ day ∧ day < marchYearStart (marchYear day + 1) := by
  -- the guess is a year off at most, whatever the leap days before it
  simp only [marchYear]
  split
  · simp only [marchYearStart] at *
    omega
  split
  · simp only [marchYearStart] at *
    omega
  · constructor <;> omega

theorem marchYearStart_add_le (y : Int) :
    marchYearStart y + 365 ≤ marchYearStart (y + 1) ∧
      marchYearStart (y + 1) ≤ marchYearStart y + 366 := by
  simp only [marchYearStart]
  omega

theorem marchYearStart_le {y z : Int} (before : y ≤ z) : marchYearStart y ≤ marchYearStart z := by
  simp only [marchYearStart]
  omega

theorem marchYear_mono {day later : Int} (before : day ≤ later) : marchYear day ≤ marchYear later := by
  by_contra after
  have started := (marchYear_spec day).1
  have ended := (marchYear_spec later).2
  have order : marchYearStart (marchYear later + 1) ≤ marchYearStart (marchYear day) :=
    marchYearStart_le (by omega)
  omega

theorem marchMonth_spec {dayOfYear : Int} (lower : 0 ≤ dayOfYear) (upper : dayOfYear ≤ 365) :
    0 ≤ marchMonth dayOfYear ∧ marchMonth dayOfYear ≤ 11 ∧
      marchMonthStart (marchMonth dayOfYear) ≤ dayOfYear ∧
        dayOfYear < marchMonthStart (marchMonth dayOfYear) + 31 := by
  simp only [marchMonth, marchMonthStart]
  omega

/-- The day of the year lies within it. -/
theorem dayOfYear_bounds (day : Int) :
    0 ≤ day - marchYearStart (marchYear day) ∧ day - marchYearStart (marchYear day) ≤ 365 := by
  have spec := marchYear_spec day
  have length := marchYearStart_add_le (marchYear day)
  omega

theorem Date.toDay_ofDay (day : Int) : (Date.ofDay day).toDay = day := by
  have bounds := dayOfYear_bounds day
  have months := marchMonth_spec bounds.1 bounds.2
  simp only [Date.ofDay, Date.toDay]
  by_cases early : marchMonth (day - marchYearStart (marchYear day)) < 10
  · have later : ¬ marchMonth (day - marchYearStart (marchYear day)) + 3 < 3 := by omega
    simp only [early, if_true, later, if_false, Int.add_sub_cancel]
    omega
  · have winter : marchMonth (day - marchYearStart (marchYear day)) - 9 < 3 := by omega
    simp only [early, if_false, winter, if_true, Int.add_sub_cancel, Int.sub_add_cancel]
    omega

theorem Date.ofDay_bounds (day : Int) :
    1 ≤ (Date.ofDay day).month ∧ (Date.ofDay day).month ≤ 12 ∧
      1 ≤ (Date.ofDay day).day ∧ (Date.ofDay day).day ≤ 31 := by
  have bounds := dayOfYear_bounds day
  have months := marchMonth_spec bounds.1 bounds.2
  simp only [Date.ofDay]
  split <;> omega

/-- Dates compare by year, month and day. -/
def Date.Before (date later : Date) : Prop :=
  date.year < later.year ∨ date.year = later.year ∧
    (date.month < later.month ∨ date.month = later.month ∧ date.day < later.day)

theorem Date.before_of_lt {day later : Int} (before : day < later) :
    (Date.ofDay day).Before (Date.ofDay later) := by
  have years := marchYear_mono (Int.le_of_lt before)
  have bounds := dayOfYear_bounds day
  have bounds' := dayOfYear_bounds later
  have months := marchMonth_spec bounds.1 bounds.2
  have months' := marchMonth_spec bounds'.1 bounds'.2
  by_cases same : marchYear day = marchYear later
  · -- within a year the months follow the days
    have ordered : marchMonth (day - marchYearStart (marchYear day)) ≤
        marchMonth (later - marchYearStart (marchYear later)) := by
      rw [same]
      simp only [marchMonth]
      omega
    simp only [Date.Before, Date.ofDay, marchMonthStart] at *
    rw [same] at *
    split <;> split <;> omega
  · -- January and February count as the next year already
    simp only [Date.Before, Date.ofDay]
    split <;> split <;> omega

theorem Date.before_iff (day later : Int) :
    (Date.ofDay day).Before (Date.ofDay later) ↔ day < later := by
  constructor
  · intro before
    by_contra after
    rcases Int.lt_or_eq_of_le (not_lt.mp after) with earlier | same
    · have other := Date.before_of_lt earlier
      unfold Date.Before at *
      omega
    · subst same
      unfold Date.Before at before
      omega
  · exact Date.before_of_lt

theorem Date.ofDay_injective {day later : Int} (same : Date.ofDay day = Date.ofDay later) :
    day = later := by
  rw [← Date.toDay_ofDay day, same, Date.toDay_ofDay]

/-! ## Texts of numbers -/

/-- A number in so many decimal digits. -/
def pad : Nat → Nat → List Char
  | 0, _ => []
  | width + 1, n => pad width (n / 10) ++ [hexDigit (n % 10)]

/-- `appendInt`: a number in at least so many decimal digits. -/
def appendInt (x : Int) (width : Nat) : List Char :=
  (if x < 0 then ['-'] else []) ++
    if x.natAbs < 10 ^ width then pad width x.natAbs else Nat.toDigits 10 x.natAbs

@[simp] theorem length_pad (width n : Nat) : (pad width n).length = width := by
  induction width generalizing n with
  | zero => rfl
  | succ width ih => simp [pad, ih]

theorem digit_lt_iff {m n : Nat} (small : m < 10) (small' : n < 10) :
    hexDigit m < hexDigit n ↔ m < n := by
  interval_cases m <;> interval_cases n <;> decide

theorem digit_value {n : Nat} (small : n < 10) : (hexDigit n).toNat - '0'.toNat = n := by
  interval_cases n <;> decide

theorem digitsValue_append (digits : List Char) (c : Char) :
    digitsValue (digits ++ [c]) = 10 * digitsValue digits + (c.toNat - '0'.toNat) := by
  simp [digitsValue]

theorem digitsValue_pad {width n : Nat} (fits : n < 10 ^ width) : digitsValue (pad width n) = n := by
  induction width generalizing n with
  | zero => simp_all [pad, digitsValue]
  | succ width ih =>
    have short : n / 10 < 10 ^ width := by omega
    rw [pad, digitsValue_append, ih short, digit_value (by omega)]
    omega

/-- Texts with heads of one length compare by these first. -/
theorem append_lt_iff {a b c d : List Char} (same : a.length = b.length) :
    a ++ c < b ++ d ↔ a < b ∨ a = b ∧ c < d := by
  induction a generalizing b with
  | nil =>
    obtain rfl := List.length_eq_zero_iff.mp same.symm
    simp
  | cons x a ih =>
    cases b with
    | nil => simp at same
    | cons y b =>
      simp only [List.length_cons, Nat.add_right_cancel_iff] at same
      simp only [List.cons_append, List.cons_lt_cons_iff, ih same, List.cons.injEq]
      tauto

theorem pad_lt_iff {width m n : Nat} (fits : m < 10 ^ width) (fits' : n < 10 ^ width) :
    pad width m < pad width n ↔ m < n := by
  induction width generalizing m n with
  | zero => simp_all [pad]
  | succ width ih =>
    have short : m / 10 < 10 ^ width := by omega
    have short' : n / 10 < 10 ^ width := by omega
    have same : pad width (m / 10) = pad width (n / 10) ↔ m / 10 = n / 10 := by
      constructor
      · intro equal
        rw [← digitsValue_pad short, equal, digitsValue_pad short']
      · intro equal
        rw [equal]
    have last : [hexDigit (m % 10)] < [hexDigit (n % 10)] ↔ m % 10 < n % 10 := by
      rw [List.cons_lt_cons_iff, digit_lt_iff (by omega) (by omega)]
      simp
    simp only [pad]
    rw [append_lt_iff (by simp), ih short short', same, last]
    omega

/-! ## RFC 3339 -/

namespace Time

/-- Days from 1 March of the year 0 to the Unix epoch. -/
def epochDay : Int := 719468

/-- The day of a time, counted from 1 March of the year 0. -/
def dayNumber (t : Time) : Int := t.unix / 86400 + epochDay

def secondOfDay (t : Time) : Int := t.unix % 86400

def date (t : Time) : Date := Date.ofDay t.dayNumber

/-- The years whose texts have four digits. -/
def FourDigitYear (t : Time) : Prop := 0 ≤ t.date.year ∧ t.date.year ≤ 9999

instance (t : Time) : Decidable t.FourDigitYear :=
  inferInstanceAs (Decidable (0 ≤ t.date.year ∧ t.date.year ≤ 9999))

end Time

/-- `t.UTC().Format(time.RFC3339)`. -/
def formatRFC3339 (t : Time) : String :=
  let clock := t.secondOfDay
  String.ofList (appendInt t.date.year 4 ++ '-' :: (appendInt t.date.month 2 ++ '-' ::
    (appendInt t.date.day 2 ++ 'T' :: (appendInt (clock / 3600) 2 ++ ':' ::
      (appendInt (clock / 60 % 60) 2 ++ ':' :: (appendInt (clock % 60) 2 ++ ['Z']))))))

/-- `time.Parse(time.RFC3339, s)` of a text in UTC without a fraction: the time with that
    text, if there is one. -/
def parseRFC3339 (s : String) : Option Time :=
  let field (start width : Nat) : Int := digitsValue ((s.toList.drop start).take width)
  let day := Date.toDay { year := field 0 4, month := field 5 2, day := field 8 2 }
  let clock := field 11 2 * 3600 + field 14 2 * 60 + field 17 2
  let t := Time.ofUnix ((day - Time.epochDay) * 86400 + clock)
  if formatRFC3339 t = s then some t else none

example : formatRFC3339 ⟨1709210096 * second + 5⟩ = "2024-02-29T12:34:56Z" := by decide +kernel

example : parseRFC3339 "2023-02-29T12:34:56Z" = none := by decide +kernel

theorem appendInt_of_nonneg {x : Int} {width : Nat} (lower : 0 ≤ x) (upper : x < 10 ^ width) :
    appendInt x width = pad width x.toNat := by
  have positive : ¬ x < 0 := by omega
  have size : x.natAbs = x.toNat := by omega
  have fits : x.toNat < 10 ^ width := by
    zify
    rwa [Int.toNat_of_nonneg lower]
  simp [appendInt, positive, size, fits]

theorem secondOfDay_bounds (t : Time) : 0 ≤ t.secondOfDay ∧ t.secondOfDay < 86400 := by
  simp only [Time.secondOfDay]
  omega

/-- What the six numbers of a text are, and that each has its width. -/
theorem formatRFC3339_toList {t : Time} (years : t.FourDigitYear) :
    (formatRFC3339 t).toList = pad 4 t.date.year.toNat ++ '-' :: (pad 2 t.date.month.toNat ++
      '-' :: (pad 2 t.date.day.toNat ++ 'T' :: (pad 2 (t.secondOfDay / 3600).toNat ++
        ':' :: (pad 2 (t.secondOfDay / 60 % 60).toNat ++
          ':' :: (pad 2 (t.secondOfDay % 60).toNat ++ ['Z']))))) := by
  obtain ⟨lower, upper⟩ := years
  have fields := Date.ofDay_bounds t.dayNumber
  have clock := secondOfDay_bounds t
  have month : t.date.month = (Date.ofDay t.dayNumber).month := rfl
  have day : t.date.day = (Date.ofDay t.dayNumber).day := rfl
  simp only [formatRFC3339, String.toList_ofList]
  rw [appendInt_of_nonneg lower (by omega), appendInt_of_nonneg (by omega) (by omega),
    appendInt_of_nonneg (by omega) (by omega), appendInt_of_nonneg (by omega) (by omega),
    appendInt_of_nonneg (by omega) (by omega), appendInt_of_nonneg (by omega) (by omega)]

theorem formatRFC3339_of_unix {t u : Time} (same : t.unix = u.unix) :
    formatRFC3339 t = formatRFC3339 u := by
  simp only [formatRFC3339, Time.date, Time.dayNumber, Time.secondOfDay, same]

theorem take_pad (width n : Nat) (rest : List Char) : (pad width n ++ rest).take width = pad width n := by
  simp

theorem drop_pad (width n k : Nat) (c : Char) (rest : List Char) :
    (pad width n ++ c :: rest).drop (width + 1 + k) = rest.drop k := by
  rw [List.drop_append, List.drop_eq_nil_of_le (by simp; omega), length_pad,
    show width + 1 + k - width = k + 1 by omega]
  rfl

theorem digitsValue_toNat {width : Nat} {x : Int} (lower : 0 ≤ x) (upper : x < 10 ^ width) :
    (digitsValue (pad width x.toNat) : Int) = x := by
  have fits : x.toNat < 10 ^ width := by
    zify
    rwa [Int.toNat_of_nonneg lower]
  rw [digitsValue_pad fits, Int.toNat_of_nonneg lower]

/-- A text reads back as the time that it was cut to. -/
theorem parseRFC3339_format {t : Time} (years : t.FourDigitYear) :
    parseRFC3339 (formatRFC3339 t) = some t.truncated := by
  have shape := formatRFC3339_toList years
  obtain ⟨lower, upper⟩ := years
  have fields := Date.ofDay_bounds t.dayNumber
  have clock := secondOfDay_bounds t
  have year : (digitsValue (((formatRFC3339 t).toList.drop 0).take 4) : Int) = t.date.year := by
    rw [shape, List.drop_zero, take_pad, digitsValue_toNat lower (by omega)]
  have month : (digitsValue (((formatRFC3339 t).toList.drop 5).take 2) : Int) = t.date.month := by
    rw [shape, drop_pad 4 _ 0, List.drop_zero, take_pad, digitsValue_toNat] <;>
      simp only [Time.date] <;> omega
  have day : (digitsValue (((formatRFC3339 t).toList.drop 8).take 2) : Int) = t.date.day := by
    rw [shape, drop_pad 4 _ 3, drop_pad 2 _ 0, List.drop_zero, take_pad, digitsValue_toNat] <;>
      simp only [Time.date] <;> omega
  have hour : (digitsValue (((formatRFC3339 t).toList.drop 11).take 2) : Int) =
      t.secondOfDay / 3600 := by
    rw [shape, drop_pad 4 _ 6, drop_pad 2 _ 3, drop_pad 2 _ 0, List.drop_zero, take_pad,
      digitsValue_toNat] <;> omega
  have minute : (digitsValue (((formatRFC3339 t).toList.drop 14).take 2) : Int) =
      t.secondOfDay / 60 % 60 := by
    rw [shape, drop_pad 4 _ 9, drop_pad 2 _ 6, drop_pad 2 _ 3, drop_pad 2 _ 0, List.drop_zero,
      take_pad, digitsValue_toNat] <;> omega
  have seconds : (digitsValue (((formatRFC3339 t).toList.drop 17).take 2) : Int) =
      t.secondOfDay % 60 := by
    rw [shape, drop_pad 4 _ 12, drop_pad 2 _ 9, drop_pad 2 _ 6, drop_pad 2 _ 3, drop_pad 2 _ 0,
      List.drop_zero, take_pad, digitsValue_toNat] <;> omega
  -- the fields are those of the second that `t` was cut to
  have back : (t.date.toDay - Time.epochDay) * 86400 + (t.secondOfDay / 3600 * 3600 +
      t.secondOfDay / 60 % 60 * 60 + t.secondOfDay % 60) = t.unix := by
    rw [show t.date.toDay = t.dayNumber from Date.toDay_ofDay _]
    simp only [Time.dayNumber, Time.secondOfDay]
    omega
  unfold parseRFC3339
  simp only [year, month, day, hour, minute, seconds]
  rw [show ({ year := t.date.year, month := t.date.month, day := t.date.day } : Date) = t.date from rfl,
    back]
  exact if_pos (formatRFC3339_of_unix (Time.unix_ofUnix _))

/-! ## The order of the texts -/

/-- Texts that begin with two numbers of one width compare by these first. -/
theorem field_lt_iff {width : Nat} {x y : Int} {c : Char} {rest rest' : List Char}
    (lower : 0 ≤ x) (upper : x < 10 ^ width) (lower' : 0 ≤ y) (upper' : y < 10 ^ width) :
    pad width x.toNat ++ c :: rest < pad width y.toNat ++ c :: rest' ↔ x < y ∨ x = y ∧ rest < rest' := by
  have same : pad width x.toNat = pad width y.toNat ↔ x = y := by
    constructor
    · intro equal
      rw [← digitsValue_toNat lower upper, equal, digitsValue_toNat lower' upper']
    · intro equal
      rw [equal]
  have fits : x.toNat < 10 ^ width := by
    zify
    rwa [Int.toNat_of_nonneg lower]
  have fits' : y.toNat < 10 ^ width := by
    zify
    rwa [Int.toNat_of_nonneg lower']
  have order : x.toNat < y.toNat ↔ x < y := by omega
  rw [append_lt_iff (by simp), pad_lt_iff fits fits', same, order, List.cons_lt_cons_iff]
  simp

/-- The three numbers of a clock compare as the seconds do. -/
theorem clock_lt_iff {s s' : Int} : s / 3600 < s' / 3600 ∨ s / 3600 = s' / 3600 ∧
    (s / 60 % 60 < s' / 60 % 60 ∨ s / 60 % 60 = s' / 60 % 60 ∧ s % 60 < s' % 60) ↔ s < s' := by
  omega

theorem unix_lt_iff (t u : Time) : t.unix < u.unix ↔
    t.dayNumber < u.dayNumber ∨ t.dayNumber = u.dayNumber ∧ t.secondOfDay < u.secondOfDay := by
  simp only [Time.dayNumber, Time.secondOfDay]
  omega

/-- Texts of times in the years 0 to 9999 are ordered as the seconds that they stand for. -/
theorem formatRFC3339_lt_iff {t u : Time} (years : t.FourDigitYear) (years' : u.FourDigitYear) :
    formatRFC3339 t < formatRFC3339 u ↔ t.unix < u.unix := by
  rw [String.lt_iff, formatRFC3339_toList years, formatRFC3339_toList years', unix_lt_iff]
  obtain ⟨lower, upper⟩ := years
  obtain ⟨lower', upper'⟩ := years'
  obtain ⟨month, month12, day, day31⟩ := Date.ofDay_bounds t.dayNumber
  obtain ⟨month', month12', day', day31'⟩ := Date.ofDay_bounds u.dayNumber
  have clock := secondOfDay_bounds t
  have clock' := secondOfDay_bounds u
  simp only [Time.date] at *
  rw [field_lt_iff lower (by omega) lower' (by omega),
    field_lt_iff (by omega) (by omega) (by omega) (by omega),
    field_lt_iff (by omega) (by omega) (by omega) (by omega)]
  clear lower upper lower' upper' month month12 day day31 month' month12' day' day31'
  rw [field_lt_iff (by omega) (by omega) (by omega) (by omega),
    field_lt_iff (by omega) (by omega) (by omega) (by omega),
    field_lt_iff (by omega) (by omega) (by omega) (by omega)]
  simp only [List.lt_irrefl, and_false, or_false, clock_lt_iff]
  clear clock clock'
  rcases lt_trichotomy t.dayNumber u.dayNumber with earlier | same | later
  · have before := (Date.before_iff _ _).mpr earlier
    simp only [Date.Before] at before
    omega
  · -- on one day only the clock tells them apart
    simp [same]
  · have after := (Date.before_iff _ _).mpr later
    simp only [Date.Before] at after
    omega

end Strom.Go
