import Strom.Api.Handlers
import Strom.Go.JsonStrings

/-!
# Bytes as text

What `encoding/base64` and `encoding/hex` encode is decoded again, also after the text has been trimmed or, for
hexadecimal digits, lowered.
-/

namespace Strom.Api

open Strom.Go

/-- The character of `base64.StdEncoding` for a value. -/
def base64Digit (n : Nat) : Char :=
  "ABCDEFGHIJKLMNOPQRSTUVWXYZabcdefghijklmnopqrstuvwxyz0123456789+/".toList.getD n 'A'

def base64Chars : Bytes → List Char
  | [] => []
  | [a] => [base64Digit (a.toNat / 4), base64Digit (a.toNat % 4 * 16), '=', '=']
  | [a, b] =>
    [base64Digit (a.toNat / 4), base64Digit (a.toNat % 4 * 16 + b.toNat / 16), base64Digit (b.toNat % 16 * 4), '=']
  | a :: b :: c :: rest =>
    base64Digit (a.toNat / 4) :: base64Digit (a.toNat % 4 * 16 + b.toNat / 16) ::
      base64Digit (b.toNat % 16 * 4 + c.toNat / 64) :: base64Digit (c.toNat % 64) :: base64Chars rest

/-- `base64.StdEncoding.EncodeToString`. -/
def base64Encode (bytes : Bytes) : String := String.ofList (base64Chars bytes)

/-! ## Characters -/

/-- A character that no step of a reader takes for anything else. -/
structure IsDigit64 (c : Char) : Prop where
  notPad : c ≠ '='
  notBreak : c ≠ '\n' ∧ c ≠ '\r'
  notSpace : isSpaceRune c = false

theorem base64Digit_facts : ∀ n < 64, base64Value (base64Digit n) = some n ∧ base64Digit n ≠ '=' ∧
    base64Digit n ≠ '\n' ∧ base64Digit n ≠ '\r' ∧ isSpaceRune (base64Digit n) = false := by
  decide +kernel

theorem base64Value_digit {n : Nat} (small : n < 64) : base64Value (base64Digit n) = some n :=
  (base64Digit_facts n small).1

theorem isDigit64_digit {n : Nat} (small : n < 64) : IsDigit64 (base64Digit n) where
  notPad := (base64Digit_facts n small).2.1
  notBreak := ⟨(base64Digit_facts n small).2.2.1, (base64Digit_facts n small).2.2.2.1⟩
  notSpace := (base64Digit_facts n small).2.2.2.2

/-- The characters of an encoding are digits and the padding. -/
theorem base64Chars_mem (bytes : Bytes) : ∀ c ∈ base64Chars bytes, IsDigit64 c ∨ c = '=' := by
  have digit : ∀ n, n < 64 → IsDigit64 (base64Digit n) ∨ base64Digit n = '=' := fun n small =>
    .inl (isDigit64_digit small)
  have byte : ∀ b : UInt8, b.toNat < 256 := fun b => b.toNat_lt
  induction bytes using base64Chars.induct with
  | case1 => simp [base64Chars]
  | case2 a =>
    have := byte a
    simp only [base64Chars, List.forall_mem_cons, List.not_mem_nil, false_imp_iff, implies_true, and_true, or_true]
    exact ⟨digit _ (by omega), digit _ (by omega)⟩
  | case3 a b =>
    have := byte a
    have := byte b
    simp only [base64Chars, List.forall_mem_cons, List.not_mem_nil, false_imp_iff, implies_true, and_true, or_true]
    exact ⟨digit _ (by omega), digit _ (by omega), digit _ (by omega)⟩
  | case4 a b c rest ih =>
    have := byte a
    have := byte b
    have := byte c
    simp only [base64Chars, List.forall_mem_cons]
    exact ⟨digit _ (by omega), digit _ (by omega), digit _ (by omega), digit _ (by omega), ih⟩

theorem base64Chars_plain (bytes : Bytes) :
    ∀ c ∈ base64Chars bytes, (c ≠ '\n' ∧ c ≠ '\r') ∧ isSpaceRune c = false := by
  intro c member
  cases base64Chars_mem bytes c member with
  | inl digit => exact ⟨digit.notBreak, digit.notSpace⟩
  | inr pad =>
    subst pad
    exact ⟨⟨by decide, by decide⟩, by decide⟩

/-! ## Groups of characters -/

/-- A group of three bytes, as the reader takes it. -/
theorem base64Quanta_group {i j k l : Nat} (small : i < 64 ∧ j < 64 ∧ k < 64 ∧ l < 64) (rest : List Char) :
    base64Quanta (base64Digit i :: base64Digit j :: base64Digit k :: base64Digit l :: rest) =
      (base64Quanta rest).map fun bytes => UInt8.ofNat (i * 4 + j / 16) :: UInt8.ofNat (j % 16 * 16 + k / 4) ::
        UInt8.ofNat (k % 4 * 64 + l) :: bytes := by
  obtain ⟨hi, hj, hk, hl⟩ := small
  have last := (isDigit64_digit hl).notPad
  -- the padded groups end in `=`, which no digit is
  rw [base64Quanta]
  · simp only [base64Value_digit, hi, hj, hk, hl]
    cases base64Quanta rest <;> rfl
  · intro _ pad
    exact absurd pad last
  · intro pad
    exact absurd pad last

theorem base64Quanta_pair {i j k : Nat} (small : i < 64 ∧ j < 64 ∧ k < 64) :
    base64Quanta [base64Digit i, base64Digit j, base64Digit k, '='] =
      some [UInt8.ofNat (i * 4 + j / 16), UInt8.ofNat (j % 16 * 16 + k / 4)] := by
  obtain ⟨hi, hj, hk⟩ := small
  rw [base64Quanta]
  · simp [base64Value_digit, hi, hj, hk]
  · intro pad
    exact absurd pad (isDigit64_digit hk).notPad

theorem base64Quanta_single {i j : Nat} (small : i < 64 ∧ j < 64) :
    base64Quanta [base64Digit i, base64Digit j, '=', '='] = some [UInt8.ofNat (i * 4 + j / 16)] := by
  rw [base64Quanta]
  simp [base64Value_digit, small]

theorem ofNat_eq {n : Nat} {b : UInt8} (same : n = b.toNat) : UInt8.ofNat n = b := by
  rw [same, UInt8.ofNat_toNat]

theorem base64Quanta_chars (bytes : Bytes) : base64Quanta (base64Chars bytes) = some bytes := by
  induction bytes using base64Chars.induct with
  | case1 => rfl
  | case2 a =>
    have := a.toNat_lt
    rw [base64Chars, base64Quanta_single (by omega), ofNat_eq (b := a) (by omega)]
  | case3 a b =>
    have := a.toNat_lt
    have := b.toNat_lt
    rw [base64Chars, base64Quanta_pair (by omega), ofNat_eq (b := a) (by omega), ofNat_eq (b := b) (by omega)]
  | case4 a b c rest ih =>
    have := a.toNat_lt
    have := b.toNat_lt
    have := c.toNat_lt
    rw [base64Chars, base64Quanta_group (by omega), ih, ofNat_eq (b := a) (by omega),
      ofNat_eq (b := b) (by omega), ofNat_eq (b := c) (by omega)]
    rfl

/-! ## Texts -/

theorem trimSpace_ofList {chars : List Char} (plain : ∀ c ∈ chars, isSpaceRune c = false) :
    trimSpace (String.ofList chars) = String.ofList chars := by
  apply trimSpace_eq_self
  · intro c first
    rw [String.toList_ofList] at first
    exact plain c (List.mem_of_mem_head? first)
  · intro c last
    rw [String.toList_ofList] at last
    exact plain c (List.mem_of_mem_getLast? last)

theorem base64Decode_encode (bytes : Bytes) : base64Decode (base64Encode bytes) = .ok bytes := by
  have kept : (base64Chars bytes).filter (fun c => c ≠ '\n' && c ≠ '\r') = base64Chars bytes := by
    rw [List.filter_eq_self]
    intro c member
    simpa using (base64Chars_plain bytes c member).1
  unfold base64Decode base64Encode
  rw [String.toList_ofList, kept, base64Quanta_chars]

theorem trimSpace_base64Encode (bytes : Bytes) : trimSpace (base64Encode bytes) = base64Encode bytes :=
  trimSpace_ofList fun c member => (base64Chars_plain bytes c member).2

/-! ## Hexadecimal digits -/

theorem hexDigit_facts : ∀ n < 16, toLowerRune (hexDigit n) = hexDigit n ∧ isSpaceRune (hexDigit n) = false := by
  decide +kernel

theorem hexDecode_encode (bytes : Bytes) : hexDecode (hexEncode bytes).toList = some bytes := by
  unfold hexEncode
  rw [String.toList_ofList]
  induction bytes with
  | nil => rfl
  | cons b rest ih =>
    have := b.toNat_lt
    have high := Json.hexDigitValue_hexDigit (b.toNat / 16) (by omega)
    have low := Json.hexDigitValue_hexDigit (b.toNat % 16) (by omega)
    rw [List.flatMap_cons, List.cons_append, List.cons_append, List.nil_append, hexDecode, high, low, ih]
    show some (UInt8.ofNat (16 * (b.toNat / 16) + b.toNat % 16) :: rest) = _
    rw [ofNat_eq (b := b) (by omega)]

/-- Each character of an encoding is a digit. -/
theorem hexEncode_mem {bytes : Bytes} : ∀ c ∈ (hexEncode bytes).toList, ∃ n < 16, c = hexDigit n := by
  intro c member
  rw [hexEncode, String.toList_ofList, List.mem_flatMap] at member
  obtain ⟨b, -, member⟩ := member
  have := b.toNat_lt
  rcases List.mem_cons.mp member with rfl | member
  · exact ⟨_, by omega, rfl⟩
  · obtain rfl := List.mem_singleton.mp member
    exact ⟨_, by omega, rfl⟩

/-- The reader of a digest trims and lowers it first. -/
theorem toLower_trimSpace_hexEncode (bytes : Bytes) : toLower (trimSpace (hexEncode bytes)) = hexEncode bytes := by
  have trimmed : trimSpace (hexEncode bytes) = hexEncode bytes := by
    rw [← String.ofList_toList (s := hexEncode bytes)]
    apply trimSpace_ofList
    intro c member
    obtain ⟨n, small, rfl⟩ := hexEncode_mem c member
    exact (hexDigit_facts n small).2
  rw [trimmed, toLower]
  have lowered : (hexEncode bytes).toList.map toLowerRune = (hexEncode bytes).toList := by
    conv_rhs => rw [← List.map_id (hexEncode bytes).toList]
    apply List.map_congr_left
    intro c member
    obtain ⟨n, small, rfl⟩ := hexEncode_mem c member
    exact (hexDigit_facts n small).1
  rw [lowered, String.ofList_toList]

end Strom.Api
