import Strom.Go.Ascii

/-!
# Quoted texts of Go, byte by byte

`strings.TrimSpace` and `strings.SplitN` for byte strings that need not be UTF-8, and
`strconv.Unquote`.  `unquote_quoted`: a text between double quotes whose quotes and backslashes are
escaped is read as its runes.  `Paired` is what such escaping leaves: no backslash begins another
escape.
-/

namespace Strom.Go

abbrev lineFeed : UInt8 := 0x0A
abbrev blank : UInt8 := 0x20
abbrev doubleQuote : UInt8 := 0x22
abbrev singleQuote : UInt8 := 0x27
abbrev backslashByte : UInt8 := 0x5C
abbrev backQuote : UInt8 := 0x60

/-! ## Blanks -/

/-- `utf8.DecodeLastRune`: the last rune and what is before it. -/
def decodeLastRune (bytes : Bytes) : Char × Bytes :=
  let runeOf (n : Nat) : Option (Char × Bytes) :=
    let last := bytes.drop (bytes.length - n)
    let c := Char.ofNat (codePoint last)
    if String.utf8EncodeChar c = last then some (c, bytes.take (bytes.length - n)) else none
  ([1, 2, 3, 4].findSome? runeOf).getD ('\uFFFD', bytes.dropLast)

/-- `strings.TrimLeftFunc` with `unicode.IsSpace`, for at most so many runes. -/
def trimLeft : Nat → Bytes → Bytes
  | 0, bytes => bytes
  | _, [] => []
  | fuel + 1, bytes =>
    if isSpaceRune (decodeRune bytes).1 then trimLeft fuel (decodeRune bytes).2 else bytes

/-- `strings.TrimRightFunc` with `unicode.IsSpace`, for at most so many runes. -/
def trimRight : Nat → Bytes → Bytes
  | 0, bytes => bytes
  | _, [] => []
  | fuel + 1, bytes =>
    if isSpaceRune (decodeLastRune bytes).1 then trimRight fuel (decodeLastRune bytes).2 else bytes

/-- `strings.TrimSpace`. -/
def trimSpaceBytes (bytes : Bytes) : Bytes :=
  let left := trimLeft bytes.length bytes
  trimRight left.length left

example : trimSpaceBytes [0x20, 0xC2, 0x85, 0x61, 0x20, 0x62, 0xC2, 0xE2, 0x80, 0xA8, 0x0A] =
    [0x61, 0x20, 0x62, 0xC2] := by decide +kernel

/-- `strings.SplitN` at blanks. -/
def splitN : Nat → Bytes → List Bytes
  | 0, _ => []
  | 1, bytes => [bytes]
  | n + 2, bytes =>
    match bytes.dropWhile (· ≠ blank) with
    | [] => [bytes]
    | _ :: rest => bytes.takeWhile (· ≠ blank) :: splitN (n + 1) rest

/-- `strings.Trim` with a double quote. -/
def trimQuotes (bytes : Bytes) : Bytes :=
  ((bytes.dropWhile (· = doubleQuote)).reverse.dropWhile (· = doubleQuote)).reverse

/-! ## `strconv.Unquote` -/

/-- The value of so many hexadecimal digits, and what follows them. -/
def hexValue : Nat → Nat → Bytes → Option (Nat × Bytes)
  | 0, value, bytes => some (value, bytes)
  | _ + 1, _, [] => none
  | n + 1, value, b :: rest =>
    match hexDigitValue (Char.ofNat b.toNat) with
    | none => none
    | some digit => hexValue n (value * 16 + digit) rest

/-- The value of so many octal digits, and what follows them. -/
def octalValue : Nat → Nat → Bytes → Option (Nat × Bytes)
  | 0, value, bytes => some (value, bytes)
  | _ + 1, _, [] => none
  | n + 1, value, b :: rest =>
    if 0x30 ≤ b ∧ b ≤ 0x37 then octalValue n (value * 8 + (b.toNat - 0x30)) rest else none

/-- A code point that is named by its number. -/
def namedRune (value : Nat) : Option Bytes :=
  if value.isValidChar then some (String.utf8EncodeChar (Char.ofNat value)) else none

/-- What `UnquoteChar` makes of the byte after a backslash. -/
def unescapeChar (quote c : UInt8) (rest : Bytes) : Option (Bytes × Bytes) :=
  if c = 0x61 then some ([0x07], rest)
  else if c = 0x62 then some ([0x08], rest)
  else if c = 0x66 then some ([0x0C], rest)
  else if c = 0x6E then some ([0x0A], rest)
  else if c = 0x72 then some ([0x0D], rest)
  else if c = 0x74 then some ([0x09], rest)
  else if c = 0x76 then some ([0x0B], rest)
  else if c = 0x78 then
    -- a single byte, which need not be UTF-8
    (hexValue 2 0 rest).map fun (value, tail) => ([UInt8.ofNat value], tail)
  else if c = 0x75 then (hexValue 4 0 rest).bind fun (value, tail) => (namedRune value).map (·, tail)
  else if c = 0x55 then (hexValue 8 0 rest).bind fun (value, tail) => (namedRune value).map (·, tail)
  else if 0x30 ≤ c ∧ c ≤ 0x37 then
    (octalValue 2 (c.toNat - 0x30) rest).bind fun (value, tail) =>
      if 255 < value then none else some ([UInt8.ofNat value], tail)
  else if c = backslashByte then some ([backslashByte], rest)
  else if c = singleQuote ∨ c = doubleQuote then if c = quote then some ([c], rest) else none
  else none

/-- `strconv.UnquoteChar`: the bytes of the first character, and what follows it. -/
def unquoteChar (quote : UInt8) : Bytes → Option (Bytes × Bytes)
  | [] => none
  | c :: rest =>
    if c = quote ∧ (quote = singleQuote ∨ quote = doubleQuote) then none
    else if ¬ IsAscii c then
      some (String.utf8EncodeChar (decodeRune (c :: rest)).1, (decodeRune (c :: rest)).2)
    else if c ≠ backslashByte then some ([c], rest)
    else
      match rest with
      | [] => none
      | e :: rest => unescapeChar quote e rest

/-- The characters up to the closing quote, which has to be the last byte; at most so many. -/
def unquoteBody (quote : UInt8) : Nat → Bytes → Option Bytes
  | 0, _ => none
  | _ + 1, [] => none
  | fuel + 1, c :: rest =>
    if c = quote then if rest = [] then some [] else none
    else if c = lineFeed then none
    else
      match unquoteChar quote (c :: rest) with
      | none => none
      | some (bytes, tail) =>
        -- single quotes hold one character
        if quote = singleQuote then if tail = [quote] then some bytes else none
        else (unquoteBody quote fuel tail).map (bytes ++ ·)

/-- `strconv.Unquote`; its shortcut for texts without escapes gives the same. -/
def unquote : Bytes → Option Bytes
  | [] => none
  | [_] => none
  | quote :: rest =>
    if quote = backQuote then
      -- the first one closes, and carriage returns are left out
      if rest.dropWhile (· ≠ backQuote) = [backQuote] then
        some ((rest.takeWhile (· ≠ backQuote)).filter (· ≠ 0x0D))
      else none
    else if quote = doubleQuote ∨ quote = singleQuote then unquoteBody quote (rest.length + 1) rest
    else none

example : unquote (utf8 "\"a\\\\b\\u00e9\\xff\\101\"") =
    some [0x61, 0x5C, 0x62, 0xC3, 0xA9, 0xFF, 0x41] := by decide +kernel

/-! ## Reading back what was quoted -/

/-- Quotes and backslashes are escaped. -/
def escapeQuoted (b : UInt8) : Bytes :=
  if b = backslashByte ∨ b = doubleQuote then [backslashByte, b] else [b]

def escaped (bytes : Bytes) : Bytes := bytes.flatMap escapeQuoted

@[simp] theorem escaped_nil : escaped [] = [] := rfl

@[simp] theorem escaped_cons (b : UInt8) (rest : Bytes) : escaped (b :: rest) = escapeQuoted b ++ escaped rest :=
  rfl

@[simp] theorem escaped_append (a b : Bytes) : escaped (a ++ b) = escaped a ++ escaped b := by
  simp [escaped]

theorem lineFeed_mem_escaped {bytes : Bytes} : lineFeed ∈ escaped bytes ↔ lineFeed ∈ bytes := by
  induction bytes with
  | nil => rfl
  | cons b rest ih =>
    rw [escaped_cons, escapeQuoted, List.mem_append, ih, List.mem_cons]
    split
    · simp [backslashByte, lineFeed]
    · simp

theorem escaped_of_high {bytes : Bytes} (high : ∀ b ∈ bytes, ¬ IsAscii b) : escaped bytes = bytes := by
  induction bytes with
  | nil => rfl
  | cons b rest ih =>
    simp only [List.forall_mem_cons] at high
    have plain : escapeQuoted b = [b] := by
      apply if_neg
      rintro (rfl | rfl)
      · exact high.1 (by decide)
      · exact high.1 (by decide)
    rw [escaped_cons, plain, ih high.2, List.singleton_append]

/-- No rune has an ASCII byte and another one. -/
theorem encoding_ne_of_mixed (bytes : Bytes) {a b : UInt8} (first : a ∈ bytes) (high : ¬ IsAscii a)
    (second : b ∈ bytes) (ascii : IsAscii b) (c : Char) : String.utf8EncodeChar c ≠ bytes := by
  rintro rfl
  by_cases small : c.toNat < 0x80
  · rw [utf8EncodeChar_of_ascii small, List.mem_singleton] at first second
    exact high (first.trans second.symm ▸ ascii)
  · exact not_ascii_of_mem (not_lt.mp small) second ascii

/-- An ASCII byte ends a run of bytes from 0x80 on, which are decoded by themselves. -/
theorem decodeRune_append {p x : Bytes} (nonempty : p ≠ []) (high : ∀ b ∈ p, ¬ IsAscii b)
    (ends : ∀ b ∈ x.head?, IsAscii b) :
    decodeRune (p ++ x) = ((decodeRune p).1, (decodeRune p).2 ++ x) := by
  cases x with
  | nil => simp
  | cons y x =>
    have ascii : IsAscii y := ends y rfl
    match p with
    | [] => exact absurd rfl nonempty
    | [a] =>
      have mixed (l : Bytes) (c : Char) := encoding_ne_of_mixed (a :: y :: l) (a := a) (b := y)
        (by simp) (high a (by simp)) (by simp) ascii c
      by_cases one : String.utf8EncodeChar (Char.ofNat (codePoint [a])) = [a] <;>
        simp [decodeRune, mixed, one]
    | [a, b] =>
      have mixed (l : Bytes) (c : Char) := encoding_ne_of_mixed (a :: b :: y :: l) (a := a) (b := y)
        (by simp) (high a (by simp)) (by simp) ascii c
      by_cases one : String.utf8EncodeChar (Char.ofNat (codePoint [a])) = [a] <;>
        by_cases two : String.utf8EncodeChar (Char.ofNat (codePoint [a, b])) = [a, b] <;>
        simp [decodeRune, mixed, one, two]
    | [a, b, c] =>
      have mixed (l : Bytes) (d : Char) := encoding_ne_of_mixed (a :: b :: c :: y :: l) (a := a) (b := y)
        (by simp) (high a (by simp)) (by simp) ascii d
      by_cases one : String.utf8EncodeChar (Char.ofNat (codePoint [a])) = [a] <;>
        by_cases two : String.utf8EncodeChar (Char.ofNat (codePoint [a, b])) = [a, b] <;>
        by_cases three : String.utf8EncodeChar (Char.ofNat (codePoint [a, b, c])) = [a, b, c] <;>
        simp [decodeRune, mixed, one, two, three]
    | a :: b :: c :: d :: rest =>
      by_cases one : String.utf8EncodeChar (Char.ofNat (codePoint [a])) = [a] <;>
        by_cases two : String.utf8EncodeChar (Char.ofNat (codePoint [a, b])) = [a, b] <;>
        by_cases three : String.utf8EncodeChar (Char.ofNat (codePoint [a, b, c])) = [a, b, c] <;>
        by_cases four : String.utf8EncodeChar (Char.ofNat (codePoint [a, b, c, d])) = [a, b, c, d] <;>
        simp [decodeRune, one, two, three, four]

theorem length_decodeRune (b : UInt8) (rest : Bytes) : (decodeRune (b :: rest)).2.length ≤ rest.length := by
  obtain ⟨n, encoded, left⟩ | ⟨-, left⟩ := decodeRune_cases (b :: rest)
  · cases n with
    | zero => exact absurd encoded String.utf8EncodeChar_ne_nil
    | succ n => simp [left]
  · simp [left]

theorem suffix_decodeRune (bytes : Bytes) : (decodeRune bytes).2 <:+ bytes := by
  obtain ⟨n, -, left⟩ | ⟨-, left⟩ := decodeRune_cases bytes
  · exact left ▸ List.drop_suffix _ _
  · exact left ▸ List.drop_suffix _ _

/-- The bytes from 0x80 on with which a text begins, and the rest. -/
theorem exists_high_run (bytes : Bytes) :
    ∃ p x, bytes = p ++ x ∧ (∀ b ∈ p, ¬ IsAscii b) ∧ ∀ b ∈ x.head?, IsAscii b := by
  induction bytes with
  | nil => exact ⟨[], [], by simp⟩
  | cons b rest ih =>
    by_cases ascii : IsAscii b
    · exact ⟨[], b :: rest, rfl, by simp, by simpa using ascii⟩
    · obtain ⟨p, x, rfl, high, ends⟩ := ih
      exact ⟨b :: p, x, rfl, by simpa using ⟨ascii, high⟩, ends⟩

/-- Escaping keeps the runes beyond ASCII. -/
theorem decodeRune_escaped {b : UInt8} (high : ¬ IsAscii b) (rest : Bytes) :
    decodeRune (escaped (b :: rest) ++ [doubleQuote]) =
      ((decodeRune (b :: rest)).1, escaped (decodeRune (b :: rest)).2 ++ [doubleQuote]) := by
  obtain ⟨p, x, split, all, ends⟩ := exists_high_run (b :: rest)
  have nonempty : p ≠ [] := by
    rintro rfl
    rw [List.nil_append] at split
    exact high (ends b (by simp [← split]))
  -- what is escaped begins with an ASCII byte as well
  have ends' : ∀ c ∈ (escaped x ++ [doubleQuote]).head?, IsAscii c := by
    cases x with
    | nil =>
      intro c first
      rw [← Option.some.inj first]
      decide
    | cons y x =>
      have ascii : IsAscii y := ends y rfl
      intro c first
      by_cases escapes : y = backslashByte ∨ y = doubleQuote
      · simp only [escaped_cons, escapeQuoted, if_pos escapes, List.cons_append, List.head?_cons, Option.mem_def,
          Option.some.injEq] at first
        rw [← first]
        decide
      · simp only [escaped_cons, escapeQuoted, if_neg escapes, List.cons_append, List.head?_cons, Option.mem_def,
          Option.some.injEq] at first
        rwa [← first]
  have left : ∀ c ∈ (decodeRune p).2, ¬ IsAscii c := fun c member => all c ((suffix_decodeRune p).mem member)
  rw [split, escaped_append, escaped_of_high all, List.append_assoc, decodeRune_append nonempty all ends',
    decodeRune_append nonempty all ends, escaped_append, escaped_of_high left, List.append_assoc]

/-- One character of a quoted text. -/
theorem unquoteChar_escaped (b : UInt8) (rest : Bytes) :
    unquoteChar doubleQuote (escaped (b :: rest) ++ [doubleQuote]) =
      some (String.utf8EncodeChar (decodeRune (b :: rest)).1,
        escaped (decodeRune (b :: rest)).2 ++ [doubleQuote]) := by
  by_cases ascii : IsAscii b
  · rw [decodeRune_ascii ascii, utf8EncodeChar_rune ascii]
    by_cases escapes : b = backslashByte ∨ b = doubleQuote
    · rw [escaped_cons, escapeQuoted, if_pos escapes]
      obtain rfl | rfl := escapes <;> rfl
    · have plain := escapes
      rw [not_or] at escapes
      rw [escaped_cons, escapeQuoted, if_neg plain]
      simp [unquoteChar, ascii, escapes]
  · have plain : escapeQuoted b = [b] := by
      apply if_neg
      rintro (rfl | rfl) <;> exact ascii (by decide)
    have other : b ≠ doubleQuote := by
      rintro rfl
      exact ascii (by decide)
    have decoded := decodeRune_escaped ascii rest
    rw [escaped_cons, plain, List.singleton_append, List.cons_append] at decoded ⊢
    simp [unquoteChar, ascii, other, decoded]

theorem escaped_head (b : UInt8) (rest : Bytes) : ∃ first after,
    escaped (b :: rest) ++ [doubleQuote] = first :: after ∧ first ≠ doubleQuote ∧
      (b ≠ lineFeed → first ≠ lineFeed) := by
  rw [escaped_cons, escapeQuoted]
  split
  · exact ⟨backslashByte, _, rfl, by decide, fun _ => by decide⟩
  · next plain => exact ⟨b, _, rfl, fun same => plain (.inr same), id⟩

/-- The rest of a quoted text. -/
theorem unquoteBody_escaped {n fuel : Nat} {bytes : Bytes} (enough : bytes.length ≤ n)
    (fuelled : bytes.length < fuel) (oneLine : lineFeed ∉ bytes) :
    unquoteBody doubleQuote fuel (escaped bytes ++ [doubleQuote]) =
      some ((decodeRunes n bytes).flatMap String.utf8EncodeChar) := by
  induction n generalizing bytes fuel with
  | zero =>
    obtain ⟨fuel, rfl⟩ := Nat.exists_eq_add_one_of_ne_zero (Nat.ne_of_gt (Nat.zero_lt_of_lt fuelled))
    obtain rfl := List.eq_nil_of_length_eq_zero (Nat.le_zero.mp enough)
    rfl
  | succ n ih =>
    obtain ⟨fuel, rfl⟩ := Nat.exists_eq_add_one_of_ne_zero (Nat.ne_of_gt (Nat.zero_lt_of_lt fuelled))
    cases bytes with
    | nil => rfl
    | cons b rest =>
      simp only [List.length_cons] at enough fuelled
      have shorter := length_decodeRune b rest
      have left : lineFeed ∉ (decodeRune (b :: rest)).2 :=
        fun member => oneLine ((suffix_decodeRune (b :: rest)).mem member)
      have body : unquoteBody doubleQuote fuel (escaped (decodeRune (b :: rest)).2 ++ [doubleQuote]) = _ :=
        ih (by omega) (by omega) left
      have read := unquoteChar_escaped b rest
      obtain ⟨first, after, shape, notQuote, notBreak⟩ := escaped_head b rest
      have sameLine : first ≠ lineFeed := by
        apply notBreak
        rintro rfl
        exact oneLine List.mem_cons_self
      rw [shape] at read ⊢
      rw [unquoteBody, if_neg notQuote, if_neg sameLine, read]
      simp [decodeRunes, body, singleQuote, doubleQuote]

theorem length_le_escaped (bytes : Bytes) : bytes.length ≤ (escaped bytes).length := by
  induction bytes with
  | nil => simp
  | cons b rest ih =>
    rw [escaped_cons, escapeQuoted]
    split <;> simp <;> omega

/-- A quoted text is read as its runes. -/
theorem unquote_quoted {bytes : Bytes} (oneLine : lineFeed ∉ bytes) :
    unquote (doubleQuote :: escaped bytes ++ [doubleQuote]) = some (utf8 (textOf bytes)) := by
  have longer := length_le_escaped bytes
  have fuelled : bytes.length < (escaped bytes ++ [doubleQuote]).length + 1 := by
    simp only [List.length_append, List.length_singleton]
    omega
  have body := unquoteBody_escaped (le_refl _) fuelled oneLine
  rw [← utf8_textOf] at body
  rw [← body]
  cases shape : escaped bytes ++ [doubleQuote] with
  | nil => simp at shape
  | cons first after =>
    rw [List.cons_append, shape]
    rfl

/-! ## Escapes of quotes and backslashes only -/

/-- A backslash stands before another one or before a double quote only; the flag tells whether
    the byte before is such a backslash. -/
def Paired : Bool → Bytes → Prop
  | false, [] => True
  | true, [] => False
  | false, b :: rest => Paired (b = backslashByte) rest
  | true, b :: rest => (b = backslashByte ∨ b = doubleQuote) ∧ Paired false rest

theorem paired_escaped {bytes after : Bytes} (paired : Paired false after) :
    Paired false (escaped bytes ++ after) := by
  induction bytes with
  | nil => exact paired
  | cons b rest ih =>
    rw [escaped_cons, escapeQuoted, List.append_assoc]
    split
    · next escapes => simpa [Paired] using ⟨escapes, ih⟩
    · next plain =>
      rw [not_or] at plain
      simpa [Paired, plain.1] using ih

/-- A byte that is not escaped divides the text. -/
theorem Paired.divide {open_ : Bool} {front rest : Bytes} {b : UInt8} (paired : Paired open_ (front ++ b :: rest))
    (plain : b ≠ backslashByte) (plain' : b ≠ doubleQuote) : Paired open_ front ∧ Paired false rest := by
  induction front generalizing open_ with
  | nil => cases open_ <;> simp_all [Paired]
  | cons c front ih =>
    cases open_ with
    | false => exact ih paired
    | true => exact ⟨⟨paired.1, (ih paired.2).1⟩, (ih paired.2).2⟩

theorem Paired.drop_plain {front rest : Bytes} (paired : Paired false (front ++ rest))
    (plain : ∀ b ∈ front, b ≠ backslashByte) : Paired false rest := by
  induction front with
  | nil => exact paired
  | cons c front ih =>
    simp only [List.forall_mem_cons] at plain
    simp only [List.cons_append, Paired, plain.1, decide_false] at paired
    exact ih paired plain.2

/-- The bytes of a rune beyond ASCII. -/
theorem plain_of_decodeRune {b : UInt8} {rest : Bytes} (high : ¬ IsAscii b) :
    ∀ c ∈ String.utf8EncodeChar (decodeRune (b :: rest)).1, ¬ IsAscii c := by
  obtain ⟨n, encoded, -⟩ | ⟨replaced, -⟩ := decodeRune_cases (b :: rest)
  · have first : b ∈ String.utf8EncodeChar (decodeRune (b :: rest)).1 := by
      cases n with
      | zero => exact absurd encoded String.utf8EncodeChar_ne_nil
      | succ n => simp [encoded]
    intro c member ascii
    exact encoding_ne_of_mixed _ first high member ascii _ rfl
  · rw [replaced]
    decide +kernel

/-- What is decoded stands in front of the rest. -/
theorem exists_decoded (b : UInt8) (rest : Bytes) (high : ¬ IsAscii b) :
    ∃ front, b :: rest = front ++ (decodeRune (b :: rest)).2 ∧ ∀ c ∈ front, ¬ IsAscii c := by
  obtain ⟨n, encoded, left⟩ | ⟨-, left⟩ := decodeRune_cases (b :: rest)
  · refine ⟨(b :: rest).take n, by rw [left, List.take_append_drop], ?_⟩
    rw [← encoded]
    exact plain_of_decodeRune high
  · exact ⟨[b], by rw [left]; rfl, by simpa using high⟩

theorem unquoteChar_paired {quote : UInt8} {bytes character tail : Bytes}
    (read : unquoteChar quote bytes = some (character, tail)) (paired : Paired false bytes)
    (oneLine : lineFeed ∉ bytes) : lineFeed ∉ character ∧ Paired false tail ∧ lineFeed ∉ tail := by
  cases bytes with
  | nil => cases read
  | cons c rest =>
    unfold unquoteChar at read
    dsimp only at read
    by_cases closing : c = quote ∧ (quote = singleQuote ∨ quote = doubleQuote)
    · rw [if_pos closing] at read
      cases read
    · rw [if_neg closing] at read
      by_cases high : ¬ IsAscii c
      · rw [if_pos high] at read
        cases read
        obtain ⟨front, split, all⟩ := exists_decoded c rest high
        refine ⟨fun member => plain_of_decodeRune high _ member (by decide), ?_, ?_⟩
        · rw [split] at paired
          apply paired.drop_plain
          rintro b member rfl
          exact all _ member (by decide)
        · exact fun member => oneLine ((suffix_decodeRune (c :: rest)).mem member)
      · rw [if_neg high] at read
        simp only [List.mem_cons, not_or] at oneLine
        by_cases plain : c ≠ backslashByte
        · rw [if_pos plain] at read
          cases read
          simp only [Paired, plain, decide_false] at paired
          exact ⟨by simpa using oneLine.1, paired, oneLine.2⟩
        · -- an escape, of a backslash or of a quote
          rw [if_neg plain] at read
          obtain rfl := not_not.mp plain
          cases rest with
          | nil => cases read
          | cons e rest =>
            simp only [Paired, decide_true] at paired
            simp only [List.mem_cons, not_or] at oneLine
            obtain ⟨rfl | rfl, rest_⟩ := paired
            · cases read
              exact ⟨by decide, rest_, oneLine.2.2⟩
            · by_cases quoted : doubleQuote = quote
              · subst quoted
                cases read
                exact ⟨by decide, rest_, oneLine.2.2⟩
              · have none_ : unescapeChar quote doubleQuote rest = none := by
                  simp [unescapeChar, quoted, backslashByte, doubleQuote, singleQuote]
                dsimp only at read
                rw [none_] at read
                cases read

theorem unquoteBody_paired {quote : UInt8} {fuel : Nat} {bytes value : Bytes}
    (read : unquoteBody quote fuel bytes = some value) (paired : Paired false bytes)
    (oneLine : lineFeed ∉ bytes) : lineFeed ∉ value := by
  induction fuel generalizing bytes value with
  | zero => cases read
  | succ fuel ih =>
    cases bytes with
    | nil => cases read
    | cons c rest =>
      rw [unquoteBody] at read
      by_cases closing : c = quote
      · rw [if_pos closing] at read
        split at read <;> cases read
        simp
      · have sameLine : c ≠ lineFeed := by
          rintro rfl
          exact oneLine List.mem_cons_self
        rw [if_neg closing, if_neg sameLine] at read
        cases first : unquoteChar quote (c :: rest) with
        | none =>
          rw [first] at read
          cases read
        | some result =>
          obtain ⟨character, tail⟩ := result
          obtain ⟨free, paired', oneLine'⟩ := unquoteChar_paired first paired oneLine
          rw [first] at read
          dsimp only at read
          split at read
          · split at read <;> cases read
            exact free
          · obtain ⟨value', later, rfl⟩ := Option.map_eq_some_iff.mp read
            have free' := ih later paired' oneLine'
            simpa using ⟨free, free'⟩

/-- Where only backslashes and quotes are escaped, no line feed is brought in. -/
theorem unquote_paired {bytes value : Bytes} (read : unquote bytes = some value)
    (paired : Paired false bytes) (oneLine : lineFeed ∉ bytes) : lineFeed ∉ value := by
  match bytes with
  | [] => cases read
  | [_] => cases read
  | quote :: c :: rest =>
    unfold unquote at read
    dsimp only at read
    simp only [List.mem_cons, not_or] at oneLine
    split at read
    · split at read <;> cases read
      intro member
      have inside := List.mem_of_mem_filter member
      have inside' := (List.takeWhile_prefix _).mem inside
      simp [oneLine] at inside'
    · split at read
      · next quoting =>
        have plain : quote ≠ backslashByte := by
          rintro rfl
          obtain impossible | impossible := quoting <;> cases impossible
        rw [Paired, decide_eq_false plain] at paired
        exact unquoteBody_paired read paired (by simpa using oneLine.2)
      · cases read

/-! ## Trimming and splitting lines -/

/-- The bytes of runs of blanks. -/
def Plain (bytes : Bytes) : Prop := ∀ b ∈ bytes, b ≠ backslashByte ∧ b ≠ doubleQuote

theorem plain_of_space {c : Char} (space : isSpaceRune c = true) : Plain (String.utf8EncodeChar c) := by
  have other : ∀ b : UInt8, IsAscii b → isSpaceRune (Char.ofNat b.toNat) = false →
      b ∉ String.utf8EncodeChar c := by
    intro b ascii unspaced member
    have same : Char.ofNat b.toNat ∈ [c] :=
      (mem_encoded_iff ascii).mp (List.mem_flatMap.mpr ⟨c, List.mem_singleton_self c, member⟩)
    rw [List.mem_singleton.mp same] at unspaced
    rw [space] at unspaced
    cases unspaced
  intro b member
  constructor
  · rintro rfl
    exact other _ (by decide) (by decide) member
  · rintro rfl
    exact other _ (by decide) (by decide) member

theorem decodeLastRune_cases (bytes : Bytes) :
    (∃ n, String.utf8EncodeChar (decodeLastRune bytes).1 = bytes.drop n ∧ (decodeLastRune bytes).2 = bytes.take n) ∨
      (decodeLastRune bytes).1 = '\uFFFD' := by
  unfold decodeLastRune
  dsimp only
  cases found : [1, 2, 3, 4].findSome? fun n =>
      if String.utf8EncodeChar (Char.ofNat (codePoint (bytes.drop (bytes.length - n)))) =
          bytes.drop (bytes.length - n) then
        some (Char.ofNat (codePoint (bytes.drop (bytes.length - n))), bytes.take (bytes.length - n))
      else none with
  | none => exact .inr rfl
  | some result =>
    obtain ⟨n, -, here⟩ := List.exists_of_findSome?_eq_some found
    split_ifs at here with encoded
    cases here
    exact .inl ⟨_, encoded, rfl⟩

theorem decodeLastRune_ascii {b : UInt8} (ascii : IsAscii b) (front : Bytes) :
    decodeLastRune (front ++ [b]) = (Char.ofNat b.toNat, front) := by
  simp [decodeLastRune, codePoint, utf8EncodeChar_rune ascii]

theorem trimLeft_cons (fuel : Nat) (b : UInt8) (rest : Bytes) : trimLeft (fuel + 1) (b :: rest) =
    if isSpaceRune (decodeRune (b :: rest)).1 then trimLeft fuel (decodeRune (b :: rest)).2 else b :: rest := rfl

theorem trimRight_cons (fuel : Nat) (b : UInt8) (rest : Bytes) : trimRight (fuel + 1) (b :: rest) =
    if isSpaceRune (decodeLastRune (b :: rest)).1 then trimRight fuel (decodeLastRune (b :: rest)).2
    else b :: rest := rfl

theorem trimRight_concat {b : UInt8} (ascii : IsAscii b) (fuel : Nat) (front : Bytes) :
    trimRight (fuel + 1) (front ++ [b]) =
      if isSpaceRune (Char.ofNat b.toNat) then trimRight fuel front else front ++ [b] := by
  cases shape : front ++ [b] with
  | nil => simp at shape
  | cons c rest => rw [trimRight_cons, ← shape, decodeLastRune_ascii ascii]

theorem trimLeft_eq (fuel : Nat) (bytes : Bytes) :
    ∃ front, bytes = front ++ trimLeft fuel bytes ∧ Plain front := by
  induction fuel generalizing bytes with
  | zero => exact ⟨[], by simp [trimLeft], by simp [Plain]⟩
  | succ fuel ih =>
    cases bytes with
    | nil => exact ⟨[], rfl, by simp [Plain]⟩
    | cons b rest =>
      rw [trimLeft_cons]
      split
      · next space =>
        obtain ⟨n, encoded, left⟩ | ⟨replaced, -⟩ := decodeRune_cases (b :: rest)
        · obtain ⟨front, same, plain⟩ := ih (decodeRune (b :: rest)).2
          refine ⟨(b :: rest).take n ++ front, ?_, ?_⟩
          · rw [List.append_assoc, ← same, left, List.take_append_drop]
          · intro c member
            obtain first | later := List.mem_append.mp member
            · exact plain_of_space space c (encoded ▸ first)
            · exact plain c later
        · rw [replaced] at space
          cases space
      · exact ⟨[], rfl, by simp [Plain]⟩

theorem trimRight_eq (fuel : Nat) (bytes : Bytes) :
    ∃ last, bytes = trimRight fuel bytes ++ last ∧ Plain last := by
  induction fuel generalizing bytes with
  | zero => exact ⟨[], by simp [trimRight], by simp [Plain]⟩
  | succ fuel ih =>
    cases bytes with
    | nil => exact ⟨[], rfl, by simp [Plain]⟩
    | cons b rest =>
      rw [trimRight_cons]
      split
      · next space =>
        obtain ⟨n, encoded, left⟩ | replaced := decodeLastRune_cases (b :: rest)
        · obtain ⟨last, same, plain⟩ := ih (decodeLastRune (b :: rest)).2
          refine ⟨last ++ (b :: rest).drop n, ?_, ?_⟩
          · rw [← List.append_assoc, ← same, left, List.take_append_drop]
          · intro c member
            obtain first | later := List.mem_append.mp member
            · exact plain c first
            · exact plain_of_space space c (encoded ▸ later)
        · rw [replaced] at space
          cases space
      · exact ⟨[], by simp, by simp [Plain]⟩

/-- What is trimmed away are blanks on both sides. -/
theorem trimSpaceBytes_eq (bytes : Bytes) :
    ∃ front last, bytes = front ++ trimSpaceBytes bytes ++ last ∧ Plain front ∧ Plain last := by
  obtain ⟨front, same, plain⟩ := trimLeft_eq bytes.length bytes
  obtain ⟨last, same', plain'⟩ := trimRight_eq (trimLeft bytes.length bytes).length (trimLeft bytes.length bytes)
  refine ⟨front, last, ?_, plain, plain'⟩
  rw [List.append_assoc]
  change bytes = front ++ (trimRight _ _ ++ last)
  rw [← same', ← same]

theorem mem_of_mem_trimSpaceBytes {b : UInt8} {bytes : Bytes} (member : b ∈ trimSpaceBytes bytes) : b ∈ bytes := by
  obtain ⟨front, last, same, -, -⟩ := trimSpaceBytes_eq bytes
  rw [same]
  simp [member]

/-- The line feed at the end of a line is trimmed away. -/
theorem trimSpaceBytes_oneLine {line : Bytes} (oneLine : lineFeed ∉ line) :
    lineFeed ∉ trimSpaceBytes (line ++ [lineFeed]) := by
  obtain ⟨front, same, -⟩ := trimLeft_eq (line ++ [lineFeed]).length (line ++ [lineFeed])
  unfold trimSpaceBytes
  dsimp only
  obtain none_ | ⟨rest, b, ends⟩ :=
    List.eq_nil_or_concat (trimLeft (line ++ [lineFeed]).length (line ++ [lineFeed]))
  · rw [none_]
    exact List.not_mem_nil
  · rw [List.concat_eq_append] at ends
    rw [ends, ← List.append_assoc] at same
    obtain rfl : lineFeed = b := List.singleton_inj.mp (List.append_inj_right' same rfl)
    have whole := List.append_inj_left' same rfl
    rw [ends, List.length_append, List.length_singleton, trimRight_concat (by decide), if_pos (by decide)]
    intro member
    obtain ⟨last, same', -⟩ := trimRight_eq rest.length rest
    apply oneLine
    rw [whole, same']
    simp [member]

/-- An encoding begins with the only one of its bytes that can begin one. -/
theorem encoding_eq_of_suffix {c d : Char} (suffix : String.utf8EncodeChar d <:+ String.utf8EncodeChar c) :
    d = c := by
  obtain ⟨front, same⟩ := suffix
  have nonempty : 0 < (String.utf8EncodeChar d).length := List.length_pos_iff.mpr String.utf8EncodeChar_ne_nil
  have inside : front.length < (String.utf8EncodeChar c).length := by
    rw [← same, List.length_append]
    omega
  have first : (String.utf8EncodeChar c)[front.length] = (String.utf8EncodeChar d)[0] := by
    simp [← same]
  have begins : (String.utf8EncodeChar c)[front.length].IsUTF8FirstByte := by
    rw [first]
    exact UInt8.isUTF8FirstByte_getElem_utf8EncodeChar.mpr rfl
  obtain rfl := List.eq_nil_of_length_eq_zero (UInt8.isUTF8FirstByte_getElem_utf8EncodeChar.mp begins)
  have decoded := ByteArray.utf8DecodeChar?_utf8EncodeChar_append (b := ByteArray.empty) (c := d)
  rw [List.nil_append] at same
  rw [same, ByteArray.utf8DecodeChar?_utf8EncodeChar_append] at decoded
  exact (Option.some.inj decoded).symm

/-- The last rune of a text is what is decoded there. -/
theorem decodeLastRune_visible {c : Char} (visible : isSpaceRune c = false) (front : Bytes) :
    isSpaceRune (decodeLastRune (front ++ String.utf8EncodeChar c)).1 = false := by
  obtain ⟨n, encoded, -⟩ | replaced := decodeLastRune_cases (front ++ String.utf8EncodeChar c)
  · have suffix : String.utf8EncodeChar (decodeLastRune (front ++ String.utf8EncodeChar c)).1 <:+
        front ++ String.utf8EncodeChar c := encoded ▸ List.drop_suffix _ _
    obtain shorter | longer := List.suffix_or_suffix_of_suffix suffix (List.suffix_append front _)
    · rwa [encoding_eq_of_suffix shorter]
    · rwa [← encoding_eq_of_suffix longer]
  · rw [replaced]
    rfl

/-- A line that begins and ends with something visible. -/
theorem trimSpaceBytes_line {line middle front : Bytes} {b : UInt8} {c : Char} (first : line = b :: middle)
    (last : line = front ++ String.utf8EncodeChar c) (ascii : IsAscii b)
    (visible : isSpaceRune (Char.ofNat b.toNat) = false) (visible' : isSpaceRune c = false) :
    trimSpaceBytes (line ++ [lineFeed]) = line := by
  have left : trimLeft (line ++ [lineFeed]).length (line ++ [lineFeed]) = line ++ [lineFeed] := by
    rw [first, List.cons_append, List.length_cons, trimLeft_cons, decodeRune_ascii ascii, visible]
    rfl
  have right : trimRight (middle.length + 1) line = line := by
    have shown : isSpaceRune (decodeLastRune line).1 = false := last ▸ decodeLastRune_visible visible' front
    rw [first] at shown ⊢
    rw [trimRight_cons, shown]
    rfl
  have fuel : (line ++ [lineFeed]).length = middle.length + 1 + 1 := by simp [first]
  unfold trimSpaceBytes
  dsimp only
  rw [left, fuel, trimRight_concat (by decide), if_pos (by decide), right]

/-- Where something visible comes first, only the end is trimmed. -/
theorem trimSpaceBytes_front {bytes rest : Bytes} {b : UInt8} (first : bytes = b :: rest) (ascii : IsAscii b)
    (visible : isSpaceRune (Char.ofNat b.toNat) = false) :
    ∃ last, bytes = trimSpaceBytes bytes ++ last ∧ Plain last := by
  have left : trimLeft bytes.length bytes = bytes := by
    rw [first, List.length_cons, trimLeft_cons, decodeRune_ascii ascii, visible]
    rfl
  unfold trimSpaceBytes
  dsimp only
  rw [left]
  exact trimRight_eq bytes.length bytes

/-- A quote is not trimmed away. -/
theorem trimSpaceBytes_quote {bytes rest front after : Bytes} {b : UInt8} (first : bytes = b :: rest)
    (ascii : IsAscii b) (visible : isSpaceRune (Char.ofNat b.toNat) = false)
    (quote : bytes = front ++ doubleQuote :: after) :
    ∃ kept last, after = kept ++ last ∧ Plain last ∧ trimSpaceBytes bytes = front ++ doubleQuote :: kept := by
  obtain ⟨last, same, plain⟩ := trimSpaceBytes_front first ascii visible
  obtain ⟨kept, trimmed, ends⟩ | ⟨between, -, ends⟩ := List.append_eq_append_iff.mp (quote.symm.trans same)
  · cases kept with
    | nil =>
      rw [List.nil_append] at ends
      exact absurd rfl (plain doubleQuote (ends ▸ List.mem_cons_self)).2
    | cons c kept =>
      obtain ⟨rfl, after_⟩ := List.cons.inj ends
      exact ⟨kept, last, after_, plain, trimmed⟩
  · exact absurd rfl (plain doubleQuote (by simp [ends])).2

theorem Paired.front {open_ : Bool} {front last : Bytes} (paired : Paired open_ (front ++ last))
    (plain : Plain last) : Paired open_ front := by
  cases last with
  | nil => rwa [List.append_nil] at paired
  | cons b last =>
    have first := plain b List.mem_cons_self
    exact (paired.divide first.1 first.2).1

theorem Paired.trimSpaceBytes {bytes : Bytes} (paired : Paired false bytes) :
    Paired false (trimSpaceBytes bytes) := by
  obtain ⟨front, last, same, plain, plain'⟩ := trimSpaceBytes_eq bytes
  rw [same, List.append_assoc] at paired
  exact (paired.drop_plain fun b member => (plain b member).1).front plain'

theorem splitN_cons (n : Nat) {part : Bytes} (rest : Bytes) (unbroken : blank ∉ part) :
    splitN (n + 2) (part ++ blank :: rest) = part :: splitN (n + 1) rest := by
  have whole : ∀ b ∈ part, decide (b ≠ blank) = true := by
    intro b member
    apply decide_eq_true
    rintro rfl
    exact unbroken member
  rw [splitN, List.dropWhile_append_of_pos whole, List.takeWhile_append_of_pos whole]
  simp

/-- A split with a second part is one at the first blank. -/
theorem exists_of_splitN {n : Nat} {bytes part part' : Bytes} {parts : List Bytes}
    (split_ : splitN (n + 2) bytes = part :: part' :: parts) :
    ∃ rest, bytes = part ++ blank :: rest ∧ blank ∉ part ∧ splitN (n + 1) rest = part' :: parts := by
  rw [splitN] at split_
  cases dropped : bytes.dropWhile (· ≠ blank) with
  | nil =>
    rw [dropped] at split_
    cases split_
  | cons b rest =>
    rw [dropped] at split_
    obtain ⟨rfl, later⟩ := List.cons.inj split_
    have breaks := head?_dropWhile bytes b (by rw [dropped]; rfl)
    obtain rfl : b = blank := by simpa using breaks
    refine ⟨rest, ?_, ?_, later⟩
    · rw [← dropped, List.takeWhile_append_dropWhile]
    · intro member
      have whole := List.all_eq_true.mp List.all_takeWhile blank member
      simp at whole

end Strom.Go
