import Strom.Go.Strings

/-!
# ASCII bytes of texts

The encoding of a rune is that rune as a byte, or bytes from 0x80 on; so the ASCII
bytes of a text are its ASCII runes, and cutting or decoding a byte string keeps them.
-/

namespace Strom.Go

/-- A byte below 0x80. -/
def IsAscii (b : UInt8) : Prop := b.toNat < 0x80

instance (b : UInt8) : Decidable (IsAscii b) := inferInstanceAs (Decidable (_ < _))

theorem toNat_ofNat_of_lt {n : Nat} (small : n < 256) : (UInt8.ofNat n).toNat = n := by
  simp only [UInt8.toNat_ofNat']
  omega

theorem utf8EncodeChar_of_ascii {c : Char} (small : c.toNat < 0x80) :
    String.utf8EncodeChar c = [UInt8.ofNat c.toNat] := by
  have low : c.val.toNat ≤ 0x7F := Nat.le_of_lt_succ small
  unfold String.utf8EncodeChar
  dsimp only
  rw [if_pos low]
  rfl

/-- The rune of an ASCII byte. -/
theorem toNat_rune {b : UInt8} (ascii : IsAscii b) : (Char.ofNat b.toNat).toNat = b.toNat := by
  have valid : b.toNat.isValidChar := .inl (by unfold IsAscii at ascii; omega)
  unfold Char.ofNat
  rw [dif_pos valid]
  rfl

theorem utf8EncodeChar_rune {b : UInt8} (ascii : IsAscii b) :
    String.utf8EncodeChar (Char.ofNat b.toNat) = [b] := by
  have value := toNat_rune ascii
  rw [utf8EncodeChar_of_ascii (by rw [value]; exact ascii), value, UInt8.ofNat_toNat]

theorem utf8_append (s t : String) : utf8 (s ++ t) = utf8 s ++ utf8 t := by
  simp [utf8, String.toList_append]

theorem encoded_of_ascii {runes : List Char} (ascii : ∀ c ∈ runes, c.toNat < 0x80) :
    runes.flatMap String.utf8EncodeChar = runes.map fun c => UInt8.ofNat c.toNat := by
  induction runes with
  | nil => rfl
  | cons c runes ih =>
    simp only [List.forall_mem_cons] at ascii
    rw [List.flatMap_cons, utf8EncodeChar_of_ascii ascii.1, ih ascii.2]
    rfl

/-- The bytes of any other rune are from 0x80 on. -/
theorem not_ascii_of_mem {c : Char} (large : 0x80 ≤ c.toNat) {b : UInt8}
    (member : b ∈ String.utf8EncodeChar c) : ¬ IsAscii b := by
  have value : c.val.toNat = c.toNat := rfl
  have valid : c.toNat < 0x110000 := by
    have := c.valid
    unfold UInt32.isValidChar Nat.isValidChar at this
    omega
  unfold String.utf8EncodeChar at member
  simp only [value] at member
  unfold IsAscii
  split_ifs at member with one two three <;>
    simp only [List.mem_cons, List.not_mem_nil, or_false] at member
  · omega
  · rcases member with rfl | rfl <;> rw [toNat_ofNat_of_lt (by omega)] <;> omega
  · rcases member with rfl | rfl | rfl <;> rw [toNat_ofNat_of_lt (by omega)] <;> omega
  · rcases member with rfl | rfl | rfl | rfl <;> rw [toNat_ofNat_of_lt (by omega)] <;> omega

/-- A text's ASCII bytes are its ASCII runes. -/
theorem mem_encoded_iff {runes : List Char} {b : UInt8} (ascii : IsAscii b) :
    b ∈ runes.flatMap String.utf8EncodeChar ↔ Char.ofNat b.toNat ∈ runes := by
  constructor
  · intro member
    obtain ⟨c, inside, here⟩ := List.mem_flatMap.mp member
    by_cases small : c.toNat < 0x80
    · rw [utf8EncodeChar_of_ascii small, List.mem_singleton] at here
      have same : b.toNat = c.toNat := by rw [here, toNat_ofNat_of_lt (by omega)]
      rw [same, Char.ofNat_toNat]
      exact inside
    · exact absurd ascii (not_ascii_of_mem (by omega) here)
  · intro inside
    refine List.mem_flatMap.mpr ⟨_, inside, ?_⟩
    rw [utf8EncodeChar_rune ascii]
    exact List.mem_singleton_self b

/-- The first bytes of a text are ASCII exactly if as many of its first runes are. -/
theorem take_ascii_iff (runes : List Char) (n : Nat) :
    (∀ b ∈ (runes.flatMap String.utf8EncodeChar).take n, IsAscii b) ↔
      ∀ c ∈ runes.take n, c.toNat < 0x80 := by
  induction runes generalizing n with
  | nil => simp
  | cons c runes ih =>
    cases n with
    | zero => simp
    | succ n =>
      by_cases small : c.toNat < 0x80
      · have first : IsAscii (UInt8.ofNat c.toNat) := by
          unfold IsAscii
          rwa [toNat_ofNat_of_lt (by omega)]
        rw [List.flatMap_cons, utf8EncodeChar_of_ascii small, List.singleton_append, List.take_succ_cons,
          List.take_succ_cons, List.forall_mem_cons, List.forall_mem_cons, ih]
        simp [first, small]
      · -- the first byte of the rune is among those taken
        constructor
        · intro all
          have some_ := String.utf8EncodeChar_ne_nil (c := c)
          cases bytes : String.utf8EncodeChar c with
          | nil => exact absurd bytes some_
          | cons b rest =>
            have ascii := all b (by simp [bytes])
            exact absurd ascii (not_ascii_of_mem (not_lt.mp small) (by simp [bytes]))
        · intro all
          exact absurd (all c (by simp)) small

/-! ## Decoding -/

theorem decodeRune_cases (bytes : Bytes) :
    (∃ n, String.utf8EncodeChar (decodeRune bytes).1 = bytes.take n ∧ (decodeRune bytes).2 = bytes.drop n) ∨
      (decodeRune bytes).1 = '\uFFFD' ∧ (decodeRune bytes).2 = bytes.drop 1 := by
  unfold decodeRune
  dsimp only
  cases found : [1, 2, 3, 4].findSome? fun n =>
      if String.utf8EncodeChar (Char.ofNat (codePoint (bytes.take n))) = bytes.take n then
        some (Char.ofNat (codePoint (bytes.take n)), bytes.drop n)
      else none with
  | none => exact .inr ⟨rfl, rfl⟩
  | some result =>
    obtain ⟨n, -, here⟩ := List.exists_of_findSome?_eq_some found
    split_ifs at here with encoded
    cases here
    exact .inl ⟨n, encoded, rfl⟩

theorem decodeRune_ascii {b : UInt8} (ascii : IsAscii b) (rest : Bytes) :
    decodeRune (b :: rest) = (Char.ofNat b.toNat, rest) := by
  simp [decodeRune, codePoint, utf8EncodeChar_rune ascii]

theorem utf8_textOf (bytes : Bytes) :
    utf8 (textOf bytes) = (decodeRunes bytes.length bytes).flatMap String.utf8EncodeChar := by
  simp [utf8, textOf]

/-- ASCII texts are read as they are. -/
theorem utf8_textOf_of_ascii {bytes : Bytes} (ascii : ∀ b ∈ bytes, IsAscii b) :
    utf8 (textOf bytes) = bytes := by
  rw [utf8_textOf]
  induction bytes with
  | nil => rfl
  | cons b rest ih =>
    simp only [List.forall_mem_cons] at ascii
    simp only [List.length_cons, decodeRunes, decodeRune_ascii ascii.1, List.flatMap_cons,
      utf8EncodeChar_rune ascii.1, ih ascii.2, List.singleton_append]

/-- Reading a byte string as a text brings in no ASCII byte. -/
theorem mem_of_mem_decodeRunes {fuel : Nat} {bytes : Bytes} {b : UInt8} (ascii : IsAscii b)
    (member : b ∈ (decodeRunes fuel bytes).flatMap String.utf8EncodeChar) : b ∈ bytes := by
  induction fuel generalizing bytes with
  | zero => simp [decodeRunes] at member
  | succ fuel ih =>
    cases bytes with
    | nil => simp [decodeRunes] at member
    | cons first rest =>
      simp only [decodeRunes, List.flatMap_cons, List.mem_append] at member
      rcases decodeRune_cases (first :: rest) with ⟨n, encoded, left⟩ | ⟨replaced, left⟩
      · rcases member with here | later
        · rw [encoded] at here
          exact List.mem_of_mem_take here
        · rw [left] at later
          exact List.mem_of_mem_drop (ih later)
      · rcases member with here | later
        · rw [replaced] at here
          exact absurd ascii (not_ascii_of_mem (by decide) here)
        · rw [left] at later
          exact List.mem_of_mem_drop (ih later)

theorem mem_of_mem_textOf {bytes : Bytes} {b : UInt8} (ascii : IsAscii b)
    (member : b ∈ utf8 (textOf bytes)) : b ∈ bytes := by
  rw [utf8_textOf] at member
  exact mem_of_mem_decodeRunes ascii member

end Strom.Go
