import Strom.Go.Strings

/-!
# TOML strings

The basic strings of TOML, on one line and on several, with their escapes.  A string denotes the
text between its quotes as it stands exactly when the text has no quote, no backslash and no
control character (`basic_plain`, `string_self`): an escape is shorter than what it stands for,
and a quote ends the string.
-/

namespace Strom.Toml

open Strom.Go

/-- A control character other than a tab: no comment and no string holds one as itself. -/
def isControl (c : Char) : Bool := (c.toNat < 0x20 && c != '\t') || c.toNat == 0x7F

/-- The character with a code point in hexadecimal, where it is one. -/
def codePoint (digits : List Char) : Option Char := do
  let values ← digits.mapM fun c => hexDigitValue c
  let n := values.foldl (fun n value => 16 * n + value) 0
  if n.isValidChar then some (Char.ofNat n) else none

/-- What follows a backslash: the character it stands for, and the rest. -/
def escape : List Char → Option (Char × List Char)
  | 'b' :: rest => some (Char.ofNat 8, rest)
  | 't' :: rest => some ('\t', rest)
  | 'n' :: rest => some ('\n', rest)
  | 'f' :: rest => some (Char.ofNat 12, rest)
  | 'r' :: rest => some ('\r', rest)
  | '"' :: rest => some ('"', rest)
  | '\\' :: rest => some ('\\', rest)
  | 'u' :: rest => if rest.length < 4 then none else (codePoint (rest.take 4)).map (·, rest.drop 4)
  | 'U' :: rest => if rest.length < 8 then none else (codePoint (rest.take 8)).map (·, rest.drop 8)
  | _ => none

/-- The rest of a string on one line: its characters, and what follows its closing quote. -/
def basic : Nat → List Char → Option (List Char × List Char)
  | 0, _ => none
  | fuel + 1, text =>
    match text with
    | [] => none
    | '"' :: rest => some ([], rest)
    | '\\' :: rest => do
      let (c, rest) ← escape rest
      let (value, rest) ← basic fuel rest
      return (c :: value, rest)
    | c :: rest =>
      if isControl c then none
      else do
        let (value, rest) ← basic fuel rest
        return (c :: value, rest)

/-- What a backslash at the end of a line leaves: the blanks up to the next character are gone. -/
def lineEnding (text : List Char) : Option (List Char) :=
  match text.dropWhile (fun c => c == ' ' || c == '\t') with
  | '\n' :: rest => some (rest.dropWhile fun c => c == ' ' || c == '\t' || c == '\n')
  | _ => none

/-- Up to two quotes in front of the closing three belong to the string. -/
def moreQuotes : List Char → List Char × List Char
  | '"' :: '"' :: rest => (['"', '"'], rest)
  | '"' :: rest => (['"'], rest)
  | rest => ([], rest)

/-- The rest of a string on several lines. -/
def multiline : Nat → List Char → Option (List Char × List Char)
  | 0, _ => none
  | fuel + 1, text =>
    match text with
    | [] => none
    | '"' :: '"' :: '"' :: rest => some (moreQuotes rest)
    | '\\' :: rest =>
      match lineEnding rest with
      | some rest => multiline fuel rest
      | none => do
        let (c, rest) ← escape rest
        let (value, rest) ← multiline fuel rest
        return (c :: value, rest)
    | c :: rest =>
      if isControl c ∧ c ≠ '\n' then none
      else do
        let (value, rest) ← multiline fuel rest
        return (c :: value, rest)

/-- A string in double quotes, and what follows it. -/
def string : List Char → Option (List Char × List Char)
  | '"' :: '"' :: '"' :: '\n' :: rest => multiline (rest.length + 1) rest
  | '"' :: '"' :: '"' :: rest => multiline (rest.length + 1) rest
  | '"' :: rest => basic (rest.length + 1) rest
  | _ => none

/-- Text that stands for itself between quotes. -/
def Plain (s : List Char) : Prop := ∀ c ∈ s, c ≠ '"' ∧ c ≠ '\\' ∧ isControl c = false

/-- The translation of line endings when a file is read as text. -/
def universalNewlines : List Char → List Char
  | '\r' :: '\n' :: rest => '\n' :: universalNewlines rest
  | '\r' :: rest => '\n' :: universalNewlines rest
  | c :: rest => c :: universalNewlines rest
  | [] => []

/-! ## How much a string reads -/

/-- An escape takes at least one character. -/
theorem escape_read {text rest : List Char} {c : Char} (escaped : escape text = some (c, rest)) :
    ∃ first read, text = first :: (read ++ rest) := by
  unfold escape at escaped
  split at escaped
  case h_8 tail | h_9 tail =>
    split at escaped
    · cases escaped
    · rw [Option.map_eq_some_iff] at escaped
      obtain ⟨_, -, same⟩ := escaped
      rw [← (Prod.mk.inj same).2]
      exact ⟨_, _, congrArg _ (List.take_append_drop _ tail).symm⟩
  case h_10 => cases escaped
  all_goals
    cases escaped
    exact ⟨_, [], rfl⟩

/-- A string on one line has at most as many characters as stand in front of its closing quote. -/
theorem basic_read {fuel : Nat} {text value rest : List Char} (read : basic fuel text = some (value, rest)) :
    ∃ inner, text = inner ++ '"' :: rest ∧ value.length ≤ inner.length := by
  induction fuel generalizing text value with
  | zero => cases read
  | succ fuel ih =>
    unfold basic at read
    split at read
    · cases read
    · cases read
      exact ⟨[], rfl, le_refl _⟩
    · next after =>
      simp only [Option.bind_eq_bind, Option.bind_eq_some_iff, Option.pure_def, Option.some.injEq,
        Prod.mk.injEq, Prod.exists] at read
      obtain ⟨c, tail, escaped, value', rest', later, same, sameRest⟩ := read
      obtain ⟨first, taken, shape⟩ := escape_read escaped
      rw [sameRest] at later
      obtain ⟨inner, shape', short⟩ := ih later
      refine ⟨'\\' :: first :: (taken ++ inner), ?_, ?_⟩
      · rw [shape, shape']
        simp
      · rw [← same]
        simp only [List.length_cons, List.length_append]
        omega
    · next c after _ _ =>
      split at read
      · cases read
      · simp only [Option.bind_eq_bind, Option.bind_eq_some_iff, Option.pure_def, Option.some.injEq,
          Prod.mk.injEq, Prod.exists] at read
        obtain ⟨value', rest', later, same, sameRest⟩ := read
        rw [sameRest] at later
        obtain ⟨inner, shape, short⟩ := ih later
        refine ⟨c :: inner, ?_, ?_⟩
        · rw [shape]
          rfl
        · rw [← same]
          simpa using short

theorem length_lineEnding {text rest : List Char} (ending : lineEnding text = some rest) :
    rest.length < text.length := by
  unfold lineEnding at ending
  split at ending
  · next after shape =>
    cases ending
    have blanks := (List.dropWhile_suffix (l := after) fun c => c == ' ' || c == '\t' || c == '\n').length_le
    have front := (List.dropWhile_suffix (l := text) fun c => c == ' ' || c == '\t').length_le
    rw [shape, List.length_cons] at front
    exact lt_of_le_of_lt blanks front
  · cases ending

theorem length_moreQuotes (text : List Char) :
    (moreQuotes text).1.length + (moreQuotes text).2.length = text.length := by
  unfold moreQuotes
  split <;> simp <;> omega

/-- A string on several lines is at least three characters shorter than what it is read from. -/
theorem multiline_length {fuel : Nat} {text value rest : List Char}
    (read : multiline fuel text = some (value, rest)) : value.length + rest.length + 3 ≤ text.length := by
  induction fuel generalizing text value with
  | zero => cases read
  | succ fuel ih =>
    unfold multiline at read
    split at read
    · cases read
    · next after =>
      have quotes := length_moreQuotes after
      rw [Option.some.injEq] at read
      simp only [read] at quotes
      simp only [List.length_cons]
      omega
    · next after =>
      split at read
      · next tail ending =>
        have shorter := length_lineEnding ending
        have left := ih read
        simp only [List.length_cons]
        omega
      · simp only [Option.bind_eq_bind, Option.bind_eq_some_iff, Option.pure_def, Option.some.injEq,
          Prod.mk.injEq, Prod.exists] at read
        obtain ⟨c, tail, escaped, value', rest', later, same, sameRest⟩ := read
        obtain ⟨first, taken, shape⟩ := escape_read escaped
        rw [sameRest] at later
        have left := ih later
        rw [shape, ← same]
        simp only [List.length_cons, List.length_append]
        omega
    · next c after _ _ =>
      split at read
      · cases read
      · simp only [Option.bind_eq_bind, Option.bind_eq_some_iff, Option.pure_def, Option.some.injEq,
          Prod.mk.injEq, Prod.exists] at read
        obtain ⟨value', rest', later, same, sameRest⟩ := read
        rw [sameRest] at later
        have left := ih later
        rw [← same]
        simp only [List.length_cons]
        omega

/-! ## Plain text -/

theorem basic_plain {fuel : Nat} {s : List Char} (plain : Plain s) (rest : List Char) (enough : s.length < fuel) :
    basic fuel (s ++ '"' :: rest) = some (s, rest) := by
  induction s generalizing fuel with
  | nil =>
    cases fuel with
    | zero => cases enough
    | succ fuel => rfl
  | cons c s ih =>
    cases fuel with
    | zero => cases enough
    | succ fuel =>
      obtain ⟨noQuote, noBackslash, noControl⟩ := plain c List.mem_cons_self
      have later := ih (fun d inside => plain d (List.mem_cons_of_mem _ inside)) (Nat.lt_of_succ_lt_succ enough)
      rw [List.cons_append, basic.eq_5 _ _ _ noQuote noBackslash, noControl, later]
      rfl

theorem not_three_quotes {s rest : List Char} (plain : Plain s) (apart : rest.head? ≠ some '"')
    (tail : List Char) : s ++ '"' :: rest ≠ '"' :: '"' :: tail := by
  intro same
  cases s with
  | nil =>
    rw [(List.cons.inj same).2] at apart
    exact apart rfl
  | cons c s => exact (plain c List.mem_cons_self).1 (List.cons.inj same).1

/-- Plain text is what its quoted form denotes. -/
theorem string_plain {s : List Char} (plain : Plain s) (rest : List Char) (apart : rest.head? ≠ some '"') :
    string ('"' :: (s ++ '"' :: rest)) = some (s, rest) := by
  have read : basic ((s ++ '"' :: rest).length + 1) (s ++ '"' :: rest) = some (s, rest) := by
    apply basic_plain plain
    rw [List.length_append]
    omega
  unfold string
  split
  · next tail shape => exact absurd (List.cons.inj shape).2 (not_three_quotes plain apart _)
  · next tail _ shape => exact absurd (List.cons.inj shape).2 (not_three_quotes plain apart _)
  · next tail _ _ shape =>
    cases shape
    exact read
  · next other => exact absurd rfl (other _)

theorem length_universalNewlines (text : List Char) : (universalNewlines text).length ≤ text.length := by
  fun_induction universalNewlines text <;> simp only [List.length_cons, List.length_nil] <;> omega

/-- Line endings do not matter in front of a character other than a carriage return. -/
theorem universalNewlines_cons {c : Char} (other : c ≠ '\r') (rest : List Char) :
    universalNewlines (c :: rest) = c :: universalNewlines rest := by
  apply universalNewlines.eq_3
  · intro _ same
    exact absurd same other
  · exact other

theorem universalNewlines_append {front : List Char} (none_returned : ∀ c ∈ front, c ≠ '\r') (rest : List Char) :
    universalNewlines (front ++ rest) = front ++ universalNewlines rest := by
  induction front with
  | nil => rfl
  | cons c front ih =>
    rw [List.cons_append, universalNewlines_cons (none_returned c List.mem_cons_self),
      ih fun d inside => none_returned d (List.mem_cons_of_mem _ inside)]
    rfl

/-- Plain text has no carriage return. -/
theorem universalNewlines_plain {s : List Char} (plain : Plain s) :
    universalNewlines (s ++ ['"', '\n']) = s ++ ['"', '\n'] := by
  apply universalNewlines_append
  rintro c inside rfl
  cases (plain _ inside).2.2

theorem universalNewlines_return (rest : List Char) :
    ∃ after, universalNewlines ('\r' :: rest) = '\n' :: after := by
  cases rest with
  | nil => exact ⟨[], rfl⟩
  | cons c rest =>
    by_cases feed : c = '\n'
    · subst feed
      exact ⟨_, rfl⟩
    · refine ⟨universalNewlines (c :: rest), universalNewlines.eq_2 (c :: rest) ?_⟩
      intro _ same
      exact feed (List.cons.inj same).1

/-- A line feed at the end of the file stays there. -/
theorem getLast?_universalNewlines {text : List Char} (last : text.getLast? = some '\n') :
    (universalNewlines text).getLast? = some '\n' := by
  fun_induction universalNewlines text with
  | case1 rest ih =>
    rw [List.getLast?_cons, Option.some.injEq]
    cases final : rest.getLast? with
    | none =>
      rw [List.getLast?_eq_none_iff] at final
      subst final
      rfl
    | some c =>
      rw [List.getLast?_cons, List.getLast?_cons, final] at last
      rw [ih (final.trans last)]
      rfl
  | case2 rest other ih =>
    rw [List.getLast?_cons, Option.some.injEq]
    cases final : rest.getLast? with
    | none =>
      rw [List.getLast?_cons, final] at last
      cases last
    | some c =>
      rw [List.getLast?_cons, final] at last
      rw [ih (final.trans last)]
      rfl
  | case3 c rest _ _ ih =>
    rw [List.getLast?_cons] at last ⊢
    cases final : rest.getLast? with
    | none =>
      rw [final] at last
      rw [List.getLast?_eq_none_iff] at final
      subst final
      exact last
    | some d =>
      rw [final] at last
      rw [ih (final.trans last)]
      rfl
  | case4 => cases last

/-- A string that reads as what stands between its quotes is plain text. -/
theorem basic_self {fuel : Nat} {s rest : List Char}
    (read : basic fuel (universalNewlines (s ++ ['"', '\n'])) = some (s, rest)) : Plain s := by
  induction s generalizing fuel with
  | nil => simp [Plain]
  | cons c s ih =>
    cases fuel with
    | zero => cases read
    | succ fuel =>
      rw [List.cons_append] at read
      by_cases returned : c = '\r'
      · subst returned
        obtain ⟨after, shape⟩ := universalNewlines_return (s ++ ['"', '\n'])
        rw [shape] at read
        cases read
      · rw [universalNewlines_cons returned] at read
        have bound := length_universalNewlines (s ++ ['"', '\n'])
        have final := getLast?_universalNewlines (show (s ++ ['"', '\n']).getLast? = some '\n' by simp)
        unfold basic at read
        split at read
        · cases read
        · cases read
        · next after shape =>
          -- an escape takes two characters for one, and the quote is not the last character
          simp only [Option.bind_eq_bind, Option.bind_eq_some_iff, Option.pure_def, Option.some.injEq,
            Prod.mk.injEq, Prod.exists, List.cons.injEq] at read
          obtain ⟨_, tail, escaped, _, _, later, ⟨-, same⟩, sameRest⟩ := read
          rw [same, sameRest] at later
          obtain ⟨first, taken, shape'⟩ := escape_read escaped
          obtain ⟨inner, shape'', short⟩ := basic_read later
          rw [← (List.cons.inj shape).2] at shape'
          have given : rest ≠ [] := by
            intro nothing
            rw [shape', shape'', nothing, ← List.append_assoc, ← List.cons_append, List.getLast?_concat] at final
            cases final
          have left := List.length_pos_of_ne_nil given
          rw [shape', shape''] at bound
          simp only [List.length_cons, List.length_append, List.length_nil] at bound
          omega
        · next d after noQuote noBackslash shape =>
          obtain ⟨sameHead, sameTail⟩ := List.cons.inj shape
          rw [← sameHead] at noQuote noBackslash read
          split at read
          · cases read
          · next clean =>
            simp only [Option.bind_eq_bind, Option.bind_eq_some_iff, Option.pure_def, Option.some.injEq,
              Prod.mk.injEq, Prod.exists, List.cons.injEq, true_and] at read
            obtain ⟨_, _, later, same, sameRest⟩ := read
            rw [same, sameRest, ← sameTail] at later
            have plain := ih later
            intro e inside
            rcases List.mem_cons.mp inside with here | inside
            · rw [here]
              exact ⟨fun quote => noQuote quote, fun backslash => noBackslash backslash, by simpa using clean⟩
            · exact plain e inside

/-- The same of the whole token, which three quotes may open. -/
theorem string_self {s rest : List Char}
    (read : string ('"' :: universalNewlines (s ++ ['"', '\n'])) = some (s, rest)) : Plain s := by
  have bound := length_universalNewlines (s ++ ['"', '\n'])
  unfold string at read
  split at read
  · next tail shape =>
    have short := multiline_length read
    rw [(List.cons.inj shape).2] at bound
    simp only [List.length_cons, List.length_append, List.length_nil] at bound
    omega
  · next tail _ shape =>
    have short := multiline_length read
    rw [(List.cons.inj shape).2] at bound
    simp only [List.length_cons, List.length_append, List.length_nil] at bound
    omega
  · next tail _ _ shape =>
    rw [← (List.cons.inj shape).2] at read
    exact basic_self read
  · cases read

end Strom.Toml
