import Strom.Go.Json

/-!
# Lists of strings in JSON texts (`json.Unmarshal`)

What `json.Unmarshal` makes of a text where a `[]string` is asked for.  A string is first cut
into pieces, characters and `\u` escapes, of which two can make one character.  What
`json.Marshal` writes reads back (`decodeStrings_marshal`).
-/

namespace Strom.Go

namespace Json

/-- A character as it stands, or the code unit of a `\u` escape. -/
inductive Piece where
  | char (c : Char)
  | unit (n : Nat)
deriving DecidableEq, Repr

def codeUnit (a b c d : Char) : Option Nat := do
  let a ← hexDigitValue a
  let b ← hexDigitValue b
  let c ← hexDigitValue c
  let d ← hexDigitValue d
  return ((a * 16 + b) * 16 + c) * 16 + d

/-- What a backslash and a character stand for, `u` apart. -/
def escaped (c : Char) : Option Char :=
  if c = '"' ∨ c = '\\' ∨ c = '/' then some c
  else if c = 'n' then some '\n'
  else if c = 'r' then some '\r'
  else if c = 't' then some '\t'
  else if c = 'b' then some (Char.ofNat 8)
  else if c = 'f' then some (Char.ofNat 12)
  else none

/-- The pieces up to the closing quote, and what follows it. -/
def stringPieces : List Char → Option (List Piece × List Char)
  | [] => none
  | c :: rest =>
    if c = '"' then some ([], rest)
    else if c = '\\' then
      match rest with
      | [] => none
      | e :: tail =>
        if e = 'u' then
          match tail with
          | p :: q :: r :: s :: after => do
            let n ← codeUnit p q r s
            (stringPieces after).map fun found => (.unit n :: found.1, found.2)
          | _ => none
        else do
          let c ← escaped e
          (stringPieces tail).map fun found => (.char c :: found.1, found.2)
    else if c.toNat < 0x20 then none
    else (stringPieces rest).map fun found => (.char c :: found.1, found.2)

def isHighSurrogate (n : Nat) : Bool := 0xD800 ≤ n && n < 0xDC00

def isLowSurrogate (n : Nat) : Bool := 0xDC00 ≤ n && n < 0xE000

/-- The character of a single code unit. -/
def unitChar (n : Nat) : Char := if isHighSurrogate n || isLowSurrogate n then Char.ofNat 0xFFFD else Char.ofNat n

/-- The characters of the pieces; two surrogates make one, and a lone one is replaced. -/
def joinPieces : List Piece → List Char
  | [] => []
  | .unit high :: .unit low :: rest =>
    if isHighSurrogate high && isLowSurrogate low then
      Char.ofNat (0x10000 + (high - 0xD800) * 0x400 + (low - 0xDC00)) :: joinPieces rest
    else unitChar high :: joinPieces (.unit low :: rest)
  | .unit n :: rest => unitChar n :: joinPieces rest
  | .char c :: rest => c :: joinPieces rest

def isBlank (c : Char) : Bool := c = ' ' || c = '\t' || c = '\r' || c = '\n'

def skipBlanks (cs : List Char) : List Char := cs.dropWhile isBlank

/-- A string, or `null`, which leaves the element empty. -/
def stringItem : List Char → Option (String × List Char)
  | '"' :: rest => (stringPieces rest).map fun found => (String.ofList (joinPieces found.1), found.2)
  | 'n' :: 'u' :: 'l' :: 'l' :: rest => some ("", rest)
  | _ => none

/-- The elements up to the closing bracket, at most `fuel` of them. -/
def stringItems : Nat → List Char → Option (List String × List Char)
  | 0, _ => none
  | fuel + 1, cs =>
    match stringItem (skipBlanks cs) with
    | none => none
    | some (item, rest) =>
      match skipBlanks rest with
      | ',' :: rest => (stringItems fuel rest).map fun found => (item :: found.1, found.2)
      | ']' :: rest => some ([item], rest)
      | _ => none

/-- A text of which only blanks are left. -/
def ended (found : List String × List Char) : Option (List String) :=
  if skipBlanks found.2 = [] then some found.1 else none

/-- `json.Unmarshal` into a `[]string`. -/
def decodeStrings (text : String) : Option (List String) :=
  match skipBlanks text.toList with
  | '[' :: rest =>
    match skipBlanks rest with
    | ']' :: rest => ended ([], rest)
    | rest => (stringItems rest.length rest).bind ended
  | 'n' :: 'u' :: 'l' :: 'l' :: rest => ended ([], rest)
  | _ => none

/-! ## What `json.Marshal` writes -/

/-- The piece that a character is written as. -/
def pieceOf (c : Char) : Piece :=
  if jsonRune c = unicodeEscape c.toNat then .unit c.toNat else .char c

theorem hexDigitValue_hexDigit : ∀ n : Nat, n < 16 → hexDigitValue (hexDigit n) = some n := by decide

theorem codeUnit_digits {n : Nat} (small : n < 0x10000) :
    codeUnit (hexDigit (n / 4096 % 16)) (hexDigit (n / 256 % 16)) (hexDigit (n / 16 % 16)) (hexDigit (n % 16)) =
      some n := by
  have value (k : Nat) : hexDigitValue (hexDigit (k % 16)) = some (k % 16) :=
    hexDigitValue_hexDigit (k % 16) (Nat.mod_lt k (by decide))
  simp only [codeUnit, value, Option.bind_eq_bind, Option.bind_some, Option.pure_def, Option.some.injEq]
  omega

theorem stringPieces_unicodeEscape {n : Nat} (small : n < 0x10000) (rest : List Char) :
    stringPieces (unicodeEscape n ++ rest) =
      (stringPieces rest).map fun found => (.unit n :: found.1, found.2) := by
  have unit := codeUnit_digits small
  simp [unicodeEscape, stringPieces, unit]

/-- The characters that stand for themselves. -/
theorem stringPieces_plain {c : Char} (quote : c ≠ '"') (backslash : c ≠ '\\') (printable : ¬ c.toNat < 0x20)
    (rest : List Char) :
    stringPieces (c :: rest) = (stringPieces rest).map fun found => (.char c :: found.1, found.2) := by
  rw [stringPieces.eq_def]
  simp only [quote, backslash, printable, if_false]

theorem stringPieces_escape {c e : Char} (found : escaped e = some c) (short : e ≠ 'u') (rest : List Char) :
    stringPieces ('\\' :: e :: rest) = (stringPieces rest).map fun found => (.char c :: found.1, found.2) := by
  have quote : '\\' ≠ '"' := by decide
  rw [stringPieces.eq_def]
  simp only [quote, short, found, if_false, if_true, Option.bind_eq_bind, Option.bind_some]

/-- A character is written as it stands, behind a backslash, or by its code point. -/
theorem jsonRune_cases (c : Char) :
    (∃ e, jsonRune c = ['\\', e] ∧ escaped e = some c ∧ e ≠ 'u') ∨
      (jsonRune c = unicodeEscape c.toNat ∧ c.toNat < 0x10000) ∨
      (jsonRune c = [c] ∧ c ≠ '"' ∧ c ≠ '\\' ∧ ¬ c.toNat < 0x20) := by
  unfold jsonRune
  by_cases quoted : c = '"' ∨ c = '\\'
  · rw [if_pos quoted]
    obtain rfl | rfl := quoted <;> exact .inl ⟨_, rfl, by decide, by decide⟩
  rw [if_neg quoted]
  by_cases newline : c = '\n'
  · exact .inl ⟨'n', if_pos newline, newline ▸ by decide, by decide⟩
  rw [if_neg newline]
  by_cases carriage : c = '\r'
  · exact .inl ⟨'r', if_pos carriage, carriage ▸ by decide, by decide⟩
  rw [if_neg carriage]
  by_cases tab : c = '\t'
  · exact .inl ⟨'t', if_pos tab, tab ▸ by decide, by decide⟩
  rw [if_neg tab]
  by_cases backspace : c.toNat = 8
  · have same : Char.ofNat 8 = c := backspace ▸ Char.ofNat_toNat c
    exact .inl ⟨'b', if_pos backspace, same ▸ by decide, by decide⟩
  rw [if_neg backspace]
  by_cases feed : c.toNat = 12
  · have same : Char.ofNat 12 = c := feed ▸ Char.ofNat_toNat c
    exact .inl ⟨'f', if_pos feed, same ▸ by decide, by decide⟩
  rw [if_neg feed]
  split
  · next html =>
    have small : c.toNat < 0x10000 := by
      obtain control | rfl | rfl | rfl | line | paragraph := html
      · omega
      · decide
      · decide
      · decide
      · omega
      · omega
    exact .inr (.inl ⟨rfl, small⟩)
  · next plain => exact .inr (.inr ⟨rfl, by tauto, by tauto, by tauto⟩)

theorem stringPieces_jsonRune (c : Char) (rest : List Char) :
    ∃ piece, (piece = .char c ∨ piece = .unit c.toNat) ∧ stringPieces (jsonRune c ++ rest) =
      (stringPieces rest).map fun found => (piece :: found.1, found.2) := by
  obtain ⟨e, written, found, short⟩ | ⟨written, small⟩ | ⟨written, quote, backslash, printable⟩ := jsonRune_cases c
  · rw [written]
    exact ⟨.char c, .inl rfl, stringPieces_escape found short rest⟩
  · rw [written]
    exact ⟨.unit c.toNat, .inr rfl, stringPieces_unicodeEscape small rest⟩
  · rw [written]
    exact ⟨.char c, .inl rfl, stringPieces_plain quote backslash printable rest⟩

/-- No character has the number of a surrogate. -/
theorem not_surrogate (c : Char) : isHighSurrogate c.toNat = false ∧ isLowSurrogate c.toNat = false := by
  have valid : c.toNat < 0xD800 ∨ 0xDFFF < c.toNat ∧ c.toNat < 0x110000 := c.valid
  simp only [isHighSurrogate, isLowSurrogate, Bool.and_eq_false_iff, decide_eq_false_iff_not]
  omega

theorem unitChar_toNat (c : Char) : unitChar c.toNat = c := by
  obtain ⟨high, low⟩ := not_surrogate c
  simp [unitChar, high, low]

/-- A piece that is a character of its own makes no pair with what follows it. -/
theorem joinPieces_cons {c : Char} {piece : Piece} (own : piece = .char c ∨ piece = .unit c.toNat)
    (rest : List Piece) : joinPieces (piece :: rest) = c :: joinPieces rest := by
  obtain rfl | rfl := own
  · rw [joinPieces]
  · obtain ⟨high, -⟩ := not_surrogate c
    cases rest with
    | nil => simp [joinPieces, unitChar_toNat]
    | cons next rest => cases next <;> simp [joinPieces, unitChar_toNat, high]

/-- The body of a string reads back. -/
theorem stringPieces_body (cs rest : List Char) :
    ∃ pieces, joinPieces pieces = cs ∧ stringPieces (cs.flatMap jsonRune ++ '"' :: rest) = some (pieces, rest) := by
  induction cs with
  | nil =>
    have closed : stringPieces ('"' :: rest) = some ([], rest) := by rw [stringPieces.eq_def]; rfl
    exact ⟨[], rfl, closed⟩
  | cons c cs ih =>
    obtain ⟨pieces, joined, read⟩ := ih
    obtain ⟨piece, own, first⟩ := stringPieces_jsonRune c (cs.flatMap jsonRune ++ '"' :: rest)
    refine ⟨piece :: pieces, ?_, ?_⟩
    · rw [joinPieces_cons own, joined]
    · rw [List.flatMap_cons, List.append_assoc, first, read]
      rfl

theorem stringItem_jsonString (s : String) (rest : List Char) :
    stringItem (skipBlanks (jsonString s ++ rest)) = some (s, rest) := by
  obtain ⟨pieces, joined, read⟩ := stringPieces_body s.toList rest
  have first : skipBlanks (jsonString s ++ rest) = '"' :: (s.toList.flatMap jsonRune ++ '"' :: rest) := by
    simp [skipBlanks, jsonString, isBlank]
  rw [first, stringItem, read]
  simp [joined]

theorem itemsChars_strings (tag : String) (tags : List String) :
    itemsChars ((tag :: tags).map .string) =
      jsonString tag ++ tags.flatMap fun other => ',' :: jsonString other := by
  induction tags generalizing tag with
  | nil => simp [itemsChars, chars]
  | cons next tags ih =>
    have later := ih next
    simp only [List.map_cons] at later
    simp [itemsChars, chars, later]

theorem stringItems_strings (tags : List String) (fuel : Nat) (enough : tags.length < fuel) (tag : String)
    (rest : List Char) :
    stringItems fuel (jsonString tag ++ (tags.flatMap fun other => ',' :: jsonString other) ++ ']' :: rest) =
      some (tag :: tags, rest) := by
  induction tags generalizing tag fuel with
  | nil =>
    cases fuel with
    | zero => simp at enough
    | succ fuel =>
      have item := stringItem_jsonString tag (']' :: rest)
      simp only [List.flatMap_nil, List.append_nil, stringItems, item]
      rfl
  | cons next tags ih =>
    cases fuel with
    | zero => simp at enough
    | succ fuel =>
      have later := ih fuel (Nat.lt_of_succ_lt_succ enough) next
      have item := stringItem_jsonString tag
        (',' :: (jsonString next ++ (tags.flatMap fun other => ',' :: jsonString other) ++ ']' :: rest))
      have shape : jsonString tag ++ ((next :: tags).flatMap fun other => ',' :: jsonString other) ++ ']' :: rest =
          jsonString tag ++ ',' :: (jsonString next ++ (tags.flatMap fun other => ',' :: jsonString other) ++
            ']' :: rest) := by
        simp
      have comma (cs : List Char) : skipBlanks (',' :: cs) = ',' :: cs := rfl
      rw [shape]
      simp only [stringItems, item, comma, later, Option.map_some]

theorem length_le_separated (tags : List String) :
    tags.length ≤ (tags.flatMap fun other => ',' :: jsonString other).length := by
  induction tags with
  | nil => simp
  | cons next tags ih =>
    simp only [List.flatMap_cons, List.length_append, List.length_cons]
    omega

/-- What `json.Marshal` writes reads back. -/
theorem decodeStrings_marshal (tags : List String) :
    decodeStrings (Json.array (tags.map .string)).marshal = some tags := by
  cases tags with
  | nil => decide
  | cons tag tags =>
    have written : (Json.array ((tag :: tags).map .string)).marshal.toList =
        '[' :: (jsonString tag ++ (tags.flatMap fun other => ',' :: jsonString other) ++ [']']) := by
      rw [marshal, String.toList_ofList, chars, itemsChars_strings]
      simp
    have each := length_le_separated tags
    have enough : tags.length <
        (jsonString tag ++ (tags.flatMap fun other => ',' :: jsonString other) ++ [']']).length := by
      simp only [List.length_append, List.length_singleton]
      omega
    have items := stringItems_strings tags _ enough tag []
    have opened : skipBlanks ('[' :: (jsonString tag ++ (tags.flatMap fun other => ',' :: jsonString other) ++ [']'])) =
        '[' :: (jsonString tag ++ (tags.flatMap fun other => ',' :: jsonString other) ++ [']']) := rfl
    have quoted : skipBlanks (jsonString tag ++ (tags.flatMap fun other => ',' :: jsonString other) ++ [']']) =
        jsonString tag ++ (tags.flatMap fun other => ',' :: jsonString other) ++ [']'] := by
      simp [skipBlanks, jsonString, isBlank]
    unfold decodeStrings
    rw [written, opened]
    simp only [quoted]
    split
    · next bracket => simp [jsonString] at bracket
    · rw [items]
      rfl

end Json

end Strom.Go
