import Mathlib.Algebra.Group.Nat.Defs
import Mathlib.Data.List.Infix
import Mathlib.Data.List.TakeDrop
import Strom.Go.Unicode

/-!
# Go strings

Texts are Lean strings; where the code counts or cuts bytes a text is its UTF-8
encoding, a `Bytes`.
-/

namespace Strom.Go

abbrev Bytes := List UInt8

/-- The bytes of a Go string: its UTF-8 encoding. -/
def utf8 (s : String) : Bytes := s.toList.flatMap String.utf8EncodeChar

/-- The code point that so many bytes of a UTF-8 text would stand for. -/
def codePoint : Bytes → Nat
  | [a] => a.toNat
  | [a, b] => a.toNat % 32 * 64 + b.toNat % 64
  | [a, b, c] => a.toNat % 16 * 4096 + b.toNat % 64 * 64 + c.toNat % 64
  | [a, b, c, d] => a.toNat % 8 * 262144 + b.toNat % 64 * 4096 + c.toNat % 64 * 64 + d.toNat % 64
  | _ => 0

/-- `utf8.DecodeRune`: the first rune, or U+FFFD for a byte that begins none. -/
def decodeRune (bytes : Bytes) : Char × Bytes :=
  let runeOf (n : Nat) : Option (Char × Bytes) :=
    let c := Char.ofNat (codePoint (bytes.take n))
    if String.utf8EncodeChar c = bytes.take n then some (c, bytes.drop n) else none
  ([1, 2, 3, 4].findSome? runeOf).getD ('\uFFFD', bytes.drop 1)

/-- The runes of a byte string, at most as many as the fuel. -/
def decodeRunes : Nat → Bytes → List Char
  | 0, _ => []
  | _, [] => []
  | fuel + 1, bytes => (decodeRune bytes).1 :: decodeRunes fuel (decodeRune bytes).2

/-- A byte string as a text, as a range over it reads it. -/
def textOf (bytes : Bytes) : String := String.ofList (decodeRunes bytes.length bytes)

example : textOf [0x75, 0xD9, 0xA1, 0xD9] = "u١\uFFFD" := by decide +kernel

/-- `strings.TrimSpace`. -/
def trimSpace (s : String) : String :=
  String.ofList (((s.toList.dropWhile isSpaceRune).reverse.dropWhile isSpaceRune).reverse)

/-- `strings.ToLower`. -/
def toLower (s : String) : String := String.ofList (s.toList.map toLowerRune)

/-- `strings.ToUpper`. -/
def toUpper (s : String) : String := String.ofList (s.toList.map toUpperRune)

/-- The runs of characters between blanks, empty ones included. -/
def splitBlanks : List Char → List (List Char)
  | [] => [[]]
  | c :: rest =>
    if isSpaceRune c then [] :: splitBlanks rest
    else
      match splitBlanks rest with
      | [] => [[c]]
      | field :: fields => (c :: field) :: fields

/-- `strings.Fields`. -/
def fields (s : String) : List String :=
  ((splitBlanks s.toList).filter (· ≠ [])).map String.ofList

def hexDigit (n : Nat) : Char := "0123456789abcdef".toList.getD n '0'

/-- `strings.Contains`. -/
def contains (s part : String) : Bool := decide (part.toList <:+: s.toList)

/-- `strings.HasPrefix`. -/
def hasPrefix (s part : String) : Bool := part.toList.isPrefixOf s.toList

/-- `strings.HasSuffix`. -/
def hasSuffix (s part : String) : Bool := part.toList.isSuffixOf s.toList

/-- `hex.EncodeToString`. -/
def hexEncode (bytes : Bytes) : String :=
  String.ofList (bytes.flatMap fun b => [hexDigit (b.toNat / 16), hexDigit (b.toNat % 16)])

def hexDigitValue (c : Char) : Option Nat :=
  if '0' ≤ c ∧ c ≤ '9' then some (c.toNat - '0'.toNat)
  else if 'a' ≤ c ∧ c ≤ 'f' then some (c.toNat - 'a'.toNat + 10)
  else if 'A' ≤ c ∧ c ≤ 'F' then some (c.toNat - 'A'.toNat + 10)
  else none

/-- `hex.DecodeString`, without the error's text. -/
def hexDecode : List Char → Option Bytes
  | [] => some []
  | [_] => none
  | high :: low :: rest => do
    let high ← hexDigitValue high
    let low ← hexDigitValue low
    let rest ← hexDecode rest
    return UInt8.ofNat (16 * high + low) :: rest

/-- One character of a quoted text; a character beyond ASCII counts as printable. -/
def quoteRune (c : Char) : List Char :=
  if c = '"' ∨ c = '\\' then ['\\', c]
  else if c = '\n' then ['\\', 'n']
  else if c = '\r' then ['\\', 'r']
  else if c = '\t' then ['\\', 't']
  else if c.toNat = 7 then ['\\', 'a']
  else if c.toNat = 8 then ['\\', 'b']
  else if c.toNat = 11 then ['\\', 'v']
  else if c.toNat = 12 then ['\\', 'f']
  else if c.toNat < 0x20 ∨ c.toNat = 0x7F then
    ['\\', 'x', hexDigit (c.toNat / 16), hexDigit (c.toNat % 16)]
  else [c]

/-- `strconv.Quote`, the `%q` of a format. -/
def quote (s : String) : String := String.ofList ('"' :: s.toList.flatMap quoteRune ++ ['"'])

/-- The value of a run of ASCII digits. -/
def digitsValue (digits : List Char) : Nat :=
  digits.foldl (fun n c => 10 * n + (c.toNat - '0'.toNat)) 0

/-- The largest `int` of a 64-bit platform. -/
def maxInt : Nat := 2 ^ 63 - 1

/-! ## Trimming -/

section Trimming

variable {α : Type} (p : α → Bool)

/-- What is left between the elements of a kind at both ends. -/
def trimmed (l : List α) : List α := ((l.dropWhile p).reverse.dropWhile p).reverse

theorem trimSpace_toList (s : String) : (trimSpace s).toList = trimmed isSpaceRune s.toList := by
  simp [trimSpace, trimmed]

/-- What is left is the beginning of the list without the elements before it. -/
theorem prefix_of_trimmed (l : List α) : trimmed p l <+: l.dropWhile p := by
  have suffix := List.dropWhile_suffix (l := (l.dropWhile p).reverse) p
  rw [← List.reverse_prefix] at suffix
  simpa [trimmed] using suffix

variable {p}

theorem mem_of_mem_trimmed {c : α} {l : List α} (member : c ∈ trimmed p l) : c ∈ l := by
  have inside := (prefix_of_trimmed p l).subset member
  exact (List.dropWhile_suffix _).subset inside

theorem head?_dropWhile (l : List α) : ∀ c ∈ (l.dropWhile p).head?, p c = false := by
  induction l with
  | nil => simp
  | cons c rest ih =>
    by_cases dropped : p c = true
    · simpa [dropped] using ih
    · simp [dropped]

theorem getLast?_trimmed (l : List α) : ∀ c ∈ (trimmed p l).getLast?, p c = false := by
  rw [trimmed, List.getLast?_reverse]
  exact head?_dropWhile _

theorem head?_trimmed (l : List α) : ∀ c ∈ (trimmed p l).head?, p c = false := by
  obtain ⟨rest, whole⟩ := prefix_of_trimmed p l
  have start := head?_dropWhile (p := p) l
  rw [← whole] at start
  cases left : trimmed p l with
  | nil => simp
  | cons c others =>
    rw [left] at start
    simpa using start

theorem dropWhile_eq_self {l : List α} (first : ∀ c ∈ l.head?, p c = false) : l.dropWhile p = l := by
  cases l with
  | nil => rfl
  | cons c rest => simp [first c (by simp)]

theorem trimmed_eq_self {l : List α} (first : ∀ c ∈ l.head?, p c = false)
    (last : ∀ c ∈ l.getLast?, p c = false) : trimmed p l = l := by
  rw [trimmed, dropWhile_eq_self first, dropWhile_eq_self (by simpa [List.head?_reverse] using last)]
  simp

end Trimming

/-- Trimming a text that starts and ends with no blank changes nothing. -/
theorem trimSpace_eq_self {s : String} (first : ∀ c ∈ s.toList.head?, isSpaceRune c = false)
    (last : ∀ c ∈ s.toList.getLast?, isSpaceRune c = false) : trimSpace s = s := by
  rw [← String.toList_inj, trimSpace_toList, trimmed_eq_self first last]

@[simp] theorem trimSpace_trimSpace (s : String) : trimSpace (trimSpace s) = trimSpace s := by
  apply trimSpace_eq_self
  · rw [trimSpace_toList]
    exact head?_trimmed _
  · rw [trimSpace_toList]
    exact getLast?_trimmed _

theorem splitBlanks_no_blank {l field : List Char} (member : field ∈ splitBlanks l) :
    ∀ c ∈ field, isSpaceRune c = false := by
  induction l generalizing field with
  | nil => simp_all [splitBlanks]
  | cons c rest ih =>
    unfold splitBlanks at member
    by_cases blank : isSpaceRune c = true
    · simp only [blank, if_true, List.mem_cons] at member
      rcases member with rfl | member
      · simp
      · exact ih member
    · simp only [blank] at member
      cases split : splitBlanks rest with
      | nil => simp_all
      | cons first others =>
        simp only [split, List.mem_cons, Bool.false_eq_true, if_false] at member
        rcases member with rfl | member
        · have own := @ih first (by simp [split])
          simp_all
        · exact ih (by simp [split, member])

theorem splitBlanks_ne_nil (l : List Char) : splitBlanks l ≠ [] := by
  cases l with
  | nil => simp [splitBlanks]
  | cons c rest =>
    unfold splitBlanks
    split
    · simp
    · split <;> simp

/-- A blank ends a field. -/
theorem splitBlanks_append {blank : Char} (space : isSpaceRune blank = true) (l rest : List Char) :
    splitBlanks (l ++ blank :: rest) = splitBlanks l ++ splitBlanks rest := by
  induction l with
  | nil => simp [splitBlanks, space]
  | cons c l ih =>
    rw [List.cons_append, splitBlanks, splitBlanks, ih]
    split
    · rfl
    · cases split : splitBlanks l with
      | nil => exact absurd split (splitBlanks_ne_nil l)
      | cons field others => rfl

theorem fields_append (s t : String) : fields (s ++ " " ++ t) = fields s ++ fields t := by
  have toList : (s ++ " " ++ t).toList = s.toList ++ ' ' :: t.toList := by simp
  rw [fields, toList, splitBlanks_append rfl, List.filter_append, List.map_append]
  rfl

theorem splitBlanks_of_plain {l : List Char} (plain : ∀ c ∈ l, isSpaceRune c = false) : splitBlanks l = [l] := by
  induction l with
  | nil => rfl
  | cons c rest ih =>
    obtain ⟨own, others⟩ := List.forall_mem_cons.mp plain
    simp [splitBlanks, own, ih others]

/-- A text without a blank is one field. -/
theorem fields_eq_singleton {s : String} (plain : ∀ c ∈ s.toList, isSpaceRune c = false) (nonempty : s ≠ "") :
    fields s = [s] := by
  have listed : s.toList ≠ [] := by simpa using nonempty
  simp [fields, splitBlanks_of_plain plain, listed]

/-- Blanks before a text make no field. -/
theorem fields_blanks_append {blanks : List Char} (blank : ∀ c ∈ blanks, isSpaceRune c = true) (rest : List Char) :
    fields (String.ofList (blanks ++ rest)) = fields (String.ofList rest) := by
  induction blanks with
  | nil => rfl
  | cons c blanks ih =>
    obtain ⟨own, others⟩ := List.forall_mem_cons.mp blank
    simpa [fields, splitBlanks, own] using ih others

/-- A word that blanks end is a field of its own. -/
theorem fields_word_append {word blanks : List Char} (plain : ∀ c ∈ word, isSpaceRune c = false) (given : word ≠ [])
    (blank : ∀ c ∈ blanks, isSpaceRune c = true) (some : blanks ≠ []) (rest : List Char) :
    fields (String.ofList (word ++ blanks ++ rest)) = String.ofList word :: fields (String.ofList rest) := by
  obtain ⟨c, blanks, rfl⟩ := List.exists_cons_of_ne_nil some
  obtain ⟨own, others⟩ := List.forall_mem_cons.mp blank
  have toList : word ++ c :: blanks ++ rest = word ++ c :: (blanks ++ rest) := by simp
  rw [toList, fields, String.toList_ofList, splitBlanks_append own, splitBlanks_of_plain plain]
  simpa [fields, given] using fields_blanks_append others rest

theorem not_blank_of_mem_fields {s field : String} (member : field ∈ fields s) :
    ∀ c ∈ field.toList, isSpaceRune c = false := by
  simp only [fields, List.mem_map, List.mem_filter] at member
  obtain ⟨chars, ⟨split, -⟩, rfl⟩ := member
  simpa using splitBlanks_no_blank split

/-- A field has no blank in it, so trimming leaves it alone. -/
theorem trimSpace_of_mem_fields {s field : String} (member : field ∈ fields s) :
    trimSpace field = field := by
  have clean := not_blank_of_mem_fields member
  apply trimSpace_eq_self
  · intro c first
    exact clean c (List.mem_of_mem_head? first)
  · intro c last
    exact clean c (List.mem_of_getLast? last)

theorem ne_empty_of_mem_fields {s field : String} (member : field ∈ fields s) : field ≠ "" := by
  simp only [fields, List.mem_map, List.mem_filter, decide_eq_true_eq] at member
  obtain ⟨chars, ⟨-, nonempty⟩, rfl⟩ := member
  intro empty
  apply nonempty
  simpa using congrArg String.toList empty

example : fields " LIST  UPS	" = ["LIST", "UPS"] := by decide

end Strom.Go
