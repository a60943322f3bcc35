import Strom.Agent.WritableVars
import Strom.Go.Floats

/-!
# The bounds of a range (`parseNumericRange`)

`parseNumericRange` makes a hyphen of every separator, cuts the text at blanks, and only a single
piece at the hyphen.  So blanks around the separator leave it standing as a piece of its own, or as
the sign of the upper bound, and a negative lower bound has a hyphen too many.  The bounds come out
for numbers without a sign and a separator without blanks, and besides for an upper bound of zero
behind a separator with blanks on its left (`numericRange_iff`).
-/

namespace Strom.Agent

open Strom.Go

/-- `strconv.FormatInt(n, 10)`. -/
def intText (n : Int) : List Char :=
  if n < 0 then '-' :: Nat.toDigits 10 n.natAbs else Nat.toDigits 10 n.natAbs

/-- The separators that the replacer knows. -/
def rangeSeparators : List (List Char) := ["..".toList, "to".toList, ['-'], ['–'], ['—']]

/-- Two bounds with a separator between blanks. -/
def rangeText (lower upper : Int) (separator left right : List Char) : String :=
  String.ofList (intText lower ++ left ++ separator ++ right ++ intText upper)

def Blank (cs : List Char) : Prop := ∀ c ∈ cs, isSpaceRune c = true

theorem blank_nil : Blank [] := by simp [Blank]

/-! ## Characters that the replacer leaves alone -/

/-- A character that has no capital form and begins no separator. -/
structure Kept (c : Char) : Prop where
  lower : toLowerRune c = c
  plain : c ∉ ['t', '.', '—', '–', ',']

theorem kept_of_isDigit {c : Char} (digit : c.isDigit = true) : Kept c where
  lower := by
    have small : c.toNat < 0x80 := by
      have range : c.toNat ≤ 57 := by
        simp only [Char.isDigit, Bool.and_eq_true, decide_eq_true_eq] at digit
        exact digit.2
      omega
    rw [toLowerRune, if_pos small, toLower_of_isDigit digit]
  plain := by
    intro inside
    have none : ∀ c ∈ ['t', '.', '—', '–', ','], c.isDigit = false := by
      intro c inside
      simp only [List.mem_cons, List.not_mem_nil, or_false] at inside
      obtain rfl | rfl | rfl | rfl | rfl := inside <;> rfl
    rw [none c inside] at digit
    cases digit

/-- The numbers of the blanks. -/
def blankNumbers : List Nat := [9, 10, 11, 12, 13, 32, 0x85, 0xA0, 0x1680, 0x2000, 0x2001, 0x2002, 0x2003, 0x2004,
  0x2005, 0x2006, 0x2007, 0x2008, 0x2009, 0x200A, 0x2028, 0x2029, 0x202F, 0x205F, 0x3000]

theorem mem_blankNumbers {c : Char} (blank : isSpaceRune c = true) : c.toNat ∈ blankNumbers := by
  have number {d : Char} (same : c = d) : c.toNat = d.toNat := congrArg Char.toNat same
  simp only [blankNumbers, List.mem_cons, List.not_mem_nil, or_false]
  unfold isSpaceRune at blank
  split at blank
  · simp only [Bool.or_eq_true, decide_eq_true_eq] at blank
    obtain ((((((same | same) | same) | same) | same) | same) | same) | same := blank
    · have := number same; simp_all
    · have := number same; simp_all
    · simp_all
    · simp_all
    · have := number same; simp_all
    · have := number same; simp_all
    · simp_all
    · simp_all
  · simp only [Bool.or_eq_true, Bool.and_eq_true, decide_eq_true_eq] at blank
    omega

theorem kept_of_isSpaceRune {c : Char} (blank : isSpaceRune c = true) : Kept c := by
  have all : ∀ n ∈ blankNumbers, toLowerRune (Char.ofNat n) = Char.ofNat n ∧
      (['t', '.', '—', '–', ','].all fun d => Char.ofNat n ≠ d) = true := by decide +kernel
  obtain ⟨lower, plain⟩ := all c.toNat (mem_blankNumbers blank)
  rw [Char.ofNat_toNat] at lower plain
  refine ⟨lower, ?_⟩
  intro inside
  have apart := List.all_eq_true.mp plain c inside
  simp at apart

theorem kept_hyphen : Kept '-' := ⟨by decide +kernel, by decide⟩

theorem kept_intText {n : Int} : ∀ c ∈ intText n, Kept c := by
  have digits : ∀ c ∈ Nat.toDigits 10 n.natAbs, Kept c := fun c inside =>
    kept_of_isDigit (Nat.isDigit_of_mem_toDigits (by decide) (by decide) inside)
  intro c inside
  unfold intText at inside
  split at inside
  · obtain rfl | later := List.mem_cons.mp inside
    · exact kept_hyphen
    · exact digits c later
  · exact digits c inside

/-! ## The text after the replacer -/

theorem replaceRange_cons {c : Char} (kept : Kept c) (rest : List Char) :
    replaceRange (c :: rest) = c :: replaceRange rest := by
  have plain := kept.plain
  simp only [List.mem_cons, List.not_mem_nil, or_false, not_or] at plain
  obtain ⟨t, dot, em, en, comma⟩ := plain
  rw [replaceRange.eq_def]
  split
  · next shape => cases shape
  · next shape => exact absurd (List.cons.inj shape).1 t
  · next shape => exact absurd (List.cons.inj shape).1 dot
  · next shape =>
    obtain ⟨rfl, rfl⟩ := List.cons.inj shape
    simp [em, en, comma]

theorem replaceRange_append {cs : List Char} (kept : ∀ c ∈ cs, Kept c) (rest : List Char) :
    replaceRange (cs ++ rest) = cs ++ replaceRange rest := by
  induction cs with
  | nil => rfl
  | cons c cs ih =>
    rw [List.cons_append, replaceRange_cons (kept c List.mem_cons_self),
      ih fun c inside => kept c (List.mem_cons_of_mem _ inside), List.cons_append]

theorem replaceRange_separator {separator : List Char} (known : separator ∈ rangeSeparators) (rest : List Char) :
    replaceRange (separator ++ rest) = '-' :: replaceRange rest ∧ separator.map toLowerRune = separator := by
  simp only [rangeSeparators, List.mem_cons, List.not_mem_nil, or_false] at known
  obtain rfl | rfl | rfl | rfl | rfl := known
  · exact ⟨by simp [replaceRange], by decide +kernel⟩
  · exact ⟨by simp [replaceRange], by decide +kernel⟩
  · exact ⟨replaceRange_cons kept_hyphen rest, by decide +kernel⟩
  · exact ⟨by simp [replaceRange], by decide +kernel⟩
  · exact ⟨by simp [replaceRange], by decide +kernel⟩

theorem map_toLowerRune {cs : List Char} (kept : ∀ c ∈ cs, Kept c) : cs.map toLowerRune = cs := by
  have same : cs.map toLowerRune = cs.map id := List.map_congr_left fun c inside => (kept c inside).lower
  rw [same, List.map_id]

variable {lower upper : Int} {separator left right : List Char}

theorem replaceRange_rangeText (lower upper : Int) {left right : List Char} (known : separator ∈ rangeSeparators) (blank : Blank left) (blank' : Blank right) :
    replaceRange (toLower (rangeText lower upper separator left right)).toList =
      intText lower ++ left ++ '-' :: (right ++ intText upper) := by
  have keptLeft : ∀ c ∈ left, Kept c := fun c inside => kept_of_isSpaceRune (blank c inside)
  have keptRight : ∀ c ∈ right, Kept c := fun c inside => kept_of_isSpaceRune (blank' c inside)
  have keptUpper : replaceRange (intText upper) = intText upper := by
    have all := replaceRange_append (kept_intText (n := upper)) []
    rwa [List.append_nil, show replaceRange [] = [] from rfl, List.append_nil] at all
  have lowered : (toLower (rangeText lower upper separator left right)).toList =
      intText lower ++ (left ++ (separator ++ (right ++ intText upper))) := by
    simp only [toLower, rangeText, String.toList_ofList, List.map_append, map_toLowerRune kept_intText,
      map_toLowerRune keptLeft, map_toLowerRune keptRight, (replaceRange_separator known []).2, List.append_assoc]
  rw [lowered, replaceRange_append kept_intText, replaceRange_append keptLeft, (replaceRange_separator known _).1,
    replaceRange_append keptRight, keptUpper, List.append_assoc]

/-! ## Reading the pieces -/

theorem digitsValue_toDigits (n : Nat) : digitsValue (Nat.toDigits 10 n) = n := Nat.ofDigitChars_ten_toDigits

theorem isDigit_of_mem_toDigits {n : Nat} {c : Char} (inside : c ∈ Nat.toDigits 10 n) : c.isDigit = true :=
  Nat.isDigit_of_mem_toDigits (by decide) (by decide) inside

theorem splitSign_digits {digits : List Char} (all : ∀ c ∈ digits, c.isDigit = true) (rest : List Char)
    (given : digits ≠ []) : splitSign (digits ++ rest) = (false, digits ++ rest) := by
  cases digits with
  | nil => exact absurd rfl given
  | cons c digits =>
    have digit := all c List.mem_cons_self
    unfold splitSign
    split
    · next shape =>
      rw [(List.cons.inj shape).1] at digit
      cases digit
    · next shape =>
      rw [(List.cons.inj shape).1] at digit
      cases digit
    · rfl

theorem head_ne_n (cs : List Char) (first : ∀ c ∈ cs.head?, c = '-' ∨ c.isDigit = true) :
    (String.ofList cs).toList.head?.map Char.toLower ≠ some 'n' := by
  rw [String.toList_ofList]
  intro named
  obtain ⟨c, inside, lower⟩ := Option.map_eq_some_iff.mp named
  obtain rfl | digit := first c inside
  · cases lower
  · rw [toLower_of_isDigit digit] at lower
    rw [lower] at digit
    cases digit

theorem head_intText (n : Int) (rest : List Char) : ∀ c ∈ (intText n ++ rest).head?, c = '-' ∨ c.isDigit = true := by
  intro c inside
  unfold intText at inside
  split at inside
  · cases inside
    exact .inl rfl
  · rw [List.head?_append_of_ne_nil _ Nat.toDigits_ne_nil] at inside
    exact .inr (isDigit_of_mem_toDigits (List.mem_of_mem_head? inside))

theorem splitSign_intText (n : Int) (rest : List Char) :
    splitSign (intText n ++ rest) = (decide (n < 0), Nat.toDigits 10 n.natAbs ++ rest) := by
  unfold intText
  split
  · next negative => simp [splitSign, negative]
  · next positive =>
    rw [splitSign_digits (fun _ => isDigit_of_mem_toDigits) rest Nat.toDigits_ne_nil]
    simp [positive]

theorem splitSign_ofList (cs : List Char) : splitSign (String.ofList cs).toList = splitSign cs := by
  rw [String.toList_ofList]

theorem parseFloat_intText {n : Int} (small : |n| ≤ 2 ^ 53) :
    parseFloat (String.ofList (intText n)) = some (.finite n) := by
  have split := splitSign_intText n []
  rw [List.append_nil, List.append_nil, ← splitSign_ofList] at split
  have first := head_intText n []
  rw [List.append_nil] at first
  have value : (if decide (n < 0) = true then -((n.natAbs : Nat) : Int) else (n.natAbs : Nat)) = n := by
    simp only [decide_eq_true_eq]
    omega
  rw [parseFloat_digits split (fun _ => isDigit_of_mem_toDigits) Nat.toDigits_ne_nil (head_ne_n _ first),
    digitsValue_toDigits, value, roundFloat64_int small]
  rfl

/-- A number with a hyphen before it. -/
theorem parseFloat_hyphen_intText {n : Int} (small : |n| ≤ 2 ^ 53) :
    parseFloat (String.ofList ('-' :: intText n)) = if n < 0 then none else some (.finite (-n)) := by
  have split : splitSign (String.ofList ('-' :: intText n)).toList = (true, intText n) := splitSign_ofList _
  have first := head_ne_n ('-' :: intText n) (by simp)
  by_cases negative : n < 0
  · -- two hyphens in a row
    have shape : intText n = '-' :: Nat.toDigits 10 n.natAbs := if_pos negative
    rw [shape] at split first ⊢
    rw [if_pos negative, parseFloat_eq_none split (by simp) first (readNumeral_hyphen _)]
  · have shape : intText n = Nat.toDigits 10 n.natAbs := if_neg negative
    rw [shape] at split first ⊢
    have value : (if true = true then -((n.natAbs : Nat) : Int) else (n.natAbs : Nat)) = -n := by
      simp only [if_true]
      omega
    have small' : |-n| ≤ 2 ^ 53 := by rwa [abs_neg]
    rw [if_neg negative, parseFloat_digits split (fun _ => isDigit_of_mem_toDigits) Nat.toDigits_ne_nil first,
      digitsValue_toDigits, value, roundFloat64_int small']
    simp

/-- A number with a hyphen behind it. -/
theorem parseFloat_intText_hyphen (n : Int) : parseFloat (String.ofList (intText n ++ ['-'])) = none := by
  have split := splitSign_intText n ['-']
  rw [← splitSign_ofList] at split
  refine parseFloat_eq_none split ?_ (head_ne_n _ (head_intText n _)) (readNumeral_digits_hyphen (fun _ => isDigit_of_mem_toDigits) [])
  intro c inside
  rw [List.head?_append_of_ne_nil _ Nat.toDigits_ne_nil] at inside
  have digit := isDigit_of_mem_toDigits (List.mem_of_mem_head? inside)
  rw [toLower_of_isDigit digit]
  exact fun same => by simp [same] at digit

theorem parseFloat_hyphen : parseFloat (String.ofList ['-']) = none :=
  parseFloat_eq_none (splitSign_ofList _) (by simp) (head_ne_n _ (by simp)) readNumeral_nil

/-! ## The pieces of a range -/

theorem plain_of_isDigit {c : Char} (digit : c.isDigit = true) : isSpaceRune c = false := by
  rw [← Bool.not_eq_true]
  intro blank
  have listed := mem_blankNumbers blank
  have range : 48 ≤ c.toNat ∧ c.toNat ≤ 57 := by
    simp only [Char.isDigit, Bool.and_eq_true, decide_eq_true_eq] at digit
    exact digit
  simp only [blankNumbers, List.mem_cons, List.not_mem_nil, or_false] at listed
  omega

theorem intText_plain (n : Int) : ∀ c ∈ intText n, isSpaceRune c = false := by
  intro c inside
  unfold intText at inside
  split at inside
  · obtain rfl | later := List.mem_cons.mp inside
    · rfl
    · exact plain_of_isDigit (isDigit_of_mem_toDigits later)
  · exact plain_of_isDigit (isDigit_of_mem_toDigits inside)

theorem intText_ne_nil (n : Int) : intText n ≠ [] := by
  unfold intText
  split
  · exact List.cons_ne_nil _ _
  · exact Nat.toDigits_ne_nil

/-- Both bounds, or none. -/
def bothBounds : Option F → Option F → Option F × Option F
  | some min, some max => (some min, some max)
  | _, _ => (none, none)

section Words

variable {parseFloat : String → Option F} {value : String} {words : List String}

theorem parseNumericRange_words {first second : String} {others : List String}
    (cut : fields (String.ofList (replaceRange (toLower value).toList)) = first :: second :: others) :
    parseNumericRange parseFloat value = bothBounds (parseFloat first) (parseFloat second) := by
  have own {field : String} (inside : field ∈ first :: second :: others) : trimSpace field = field := by
    rw [← cut] at inside
    exact trimSpace_of_mem_fields inside
  unfold parseNumericRange
  rw [cut]
  simp only [own List.mem_cons_self, own (List.mem_cons_of_mem _ List.mem_cons_self)]
  rfl

theorem parseNumericRange_pieces {part first second : List Char}
    (cut : fields (String.ofList (replaceRange (toLower value).toList)) = [String.ofList part])
    (pieces : part.splitOn '-' = [first, second]) :
    parseNumericRange parseFloat value =
      bothBounds (parseFloat (trimSpace (String.ofList first))) (parseFloat (trimSpace (String.ofList second))) := by
  unfold parseNumericRange
  simp only [cut, String.toList_ofList, pieces, List.map_cons, List.map_nil, List.length_cons, List.length_nil,
    if_true]
  rfl

theorem parseNumericRange_other {part : List Char}
    (cut : fields (String.ofList (replaceRange (toLower value).toList)) = [String.ofList part])
    (many : 2 < (part.splitOn '-').length) : parseNumericRange parseFloat value = (none, none) := by
  have other : ((part.splitOn '-').map String.ofList).length ≠ 2 := by
    rw [List.length_map]
    exact many.ne'
  unfold parseNumericRange
  simp only [cut, String.toList_ofList, if_neg other]

end Words

theorem hyphen_not_mem_toDigits (n : Nat) : '-' ∉ Nat.toDigits 10 n := by
  intro inside
  have digit := isDigit_of_mem_toDigits inside
  cases digit

theorem trimSpace_toDigits (n : Nat) :
    trimSpace (String.ofList (Nat.toDigits 10 n)) = String.ofList (Nat.toDigits 10 n) := by
  have plain : ∀ c ∈ (String.ofList (Nat.toDigits 10 n)).toList, isSpaceRune c = false := by
    rw [String.toList_ofList]
    exact fun c inside => plain_of_isDigit (isDigit_of_mem_toDigits inside)
  exact trimSpace_eq_self (fun c first => plain c (List.mem_of_mem_head? first))
    (fun c last => plain c (List.mem_of_getLast? last))

theorem fields_intText (n : Int) : fields (String.ofList (intText n)) = [String.ofList (intText n)] := by
  apply fields_eq_singleton
  · rw [String.toList_ofList]
    exact intText_plain n
  · simpa using intText_ne_nil n

/-! ## The four kinds of blanks -/

theorem parseNumericRange_joined (known : separator ∈ rangeSeparators) (ordered : lower ≤ upper)
    (small : |lower| ≤ 2 ^ 53) (small' : |upper| ≤ 2 ^ 53) :
    parseNumericRange parseFloat (rangeText lower upper separator [] []) =
      if lower < 0 then (none, none) else (some (.finite lower), some (.finite upper)) := by
  have replaced := replaceRange_rangeText lower upper known blank_nil blank_nil
  rw [List.append_nil, List.nil_append] at replaced
  have cut : fields (String.ofList (replaceRange (toLower (rangeText lower upper separator [] [])).toList)) =
      [String.ofList (intText lower ++ '-' :: intText upper)] := by
    rw [replaced]
    apply fields_eq_singleton
    · rw [String.toList_ofList]
      intro c inside
      simp only [List.mem_append, List.mem_cons] at inside
      obtain inside | rfl | inside := inside
      · exact intText_plain lower c inside
      · rfl
      · exact intText_plain upper c inside
    · simp
  by_cases negative : lower < 0
  · -- the hyphen of the lower bound makes a third piece
    have shape : intText lower = '-' :: Nat.toDigits 10 lower.natAbs := if_pos negative
    have pieces : (intText lower ++ '-' :: intText upper).splitOn '-' =
        [] :: Nat.toDigits 10 lower.natAbs :: (intText upper).splitOn '-' := by
      rw [shape, List.cons_append, ← List.nil_append ('-' :: _),
        List.splitOn_append_cons_self_of_not_mem List.not_mem_nil,
        List.splitOn_append_cons_self_of_not_mem (hyphen_not_mem_toDigits _)]
    have many : 0 < ((intText upper).splitOn '-').length :=
      List.length_pos_of_ne_nil (List.splitOn_ne_nil _ _)
    rw [if_pos negative, parseNumericRange_other cut]
    rw [pieces, List.length_cons, List.length_cons]
    omega
  · have shape : intText lower = Nat.toDigits 10 lower.natAbs := if_neg negative
    have shape' : intText upper = Nat.toDigits 10 upper.natAbs := if_neg (by omega)
    have pieces : (intText lower ++ '-' :: intText upper).splitOn '-' = [intText lower, intText upper] := by
      rw [shape, shape', List.splitOn_append_cons_self_of_not_mem (hyphen_not_mem_toDigits _),
        List.splitOn_eq_singleton (hyphen_not_mem_toDigits _)]
    have trim : trimSpace (String.ofList (intText lower)) = String.ofList (intText lower) := by
      rw [shape, trimSpace_toDigits]
    have trim' : trimSpace (String.ofList (intText upper)) = String.ofList (intText upper) := by
      rw [shape', trimSpace_toDigits]
    rw [if_neg negative, parseNumericRange_pieces cut pieces, trim, trim', parseFloat_intText small,
      parseFloat_intText small']
    rfl

/-- With blanks on the right only, the separator stays at the lower bound. -/
theorem parseNumericRange_right (known : separator ∈ rangeSeparators) (blank : Blank right) (given : right ≠ []) :
    parseNumericRange parseFloat (rangeText lower upper separator [] right) = (none, none) := by
  have replaced := replaceRange_rangeText lower upper known blank_nil blank
  have cut : fields (String.ofList (replaceRange (toLower (rangeText lower upper separator [] right)).toList)) =
      [String.ofList (intText lower ++ ['-']), String.ofList (intText upper)] := by
    have plain : ∀ c ∈ intText lower ++ ['-'], isSpaceRune c = false := by
      intro c inside
      obtain inside | inside := List.mem_append.mp inside
      · exact intText_plain lower c inside
      · obtain rfl := List.mem_singleton.mp inside
        rfl
    have shape : intText lower ++ [] ++ '-' :: (right ++ intText upper) =
        (intText lower ++ ['-']) ++ right ++ intText upper := by simp
    rw [replaced, shape, fields_word_append plain (by simp) blank given, fields_intText]
  rw [parseNumericRange_words cut, parseFloat_intText_hyphen]
  rfl

/-- With blanks on the left only, the separator is taken for the sign of the upper bound. -/
theorem parseNumericRange_left (known : separator ∈ rangeSeparators) (blank : Blank left) (given : left ≠ [])
    (small : |lower| ≤ 2 ^ 53) (small' : |upper| ≤ 2 ^ 53) :
    parseNumericRange parseFloat (rangeText lower upper separator left []) =
      if upper < 0 then (none, none) else (some (.finite lower), some (.finite (-upper))) := by
  have replaced := replaceRange_rangeText lower upper known blank blank_nil
  have cut : fields (String.ofList (replaceRange (toLower (rangeText lower upper separator left [])).toList)) =
      [String.ofList (intText lower), String.ofList ('-' :: intText upper)] := by
    have second : fields (String.ofList ('-' :: intText upper)) = [String.ofList ('-' :: intText upper)] := by
      apply fields_eq_singleton
      · rw [String.toList_ofList]
        intro c inside
        obtain rfl | inside := List.mem_cons.mp inside
        · rfl
        · exact intText_plain upper c inside
      · simp
    rw [replaced, List.nil_append, fields_word_append (intText_plain lower) (intText_ne_nil lower) blank given, second]
  rw [parseNumericRange_words cut, parseFloat_intText small, parseFloat_hyphen_intText small']
  split <;> rfl

/-- With blanks on both sides, the separator is a piece of its own. -/
theorem parseNumericRange_apart (known : separator ∈ rangeSeparators) (blank : Blank left) (blank' : Blank right)
    (given : left ≠ []) (given' : right ≠ []) :
    parseNumericRange parseFloat (rangeText lower upper separator left right) = (none, none) := by
  have cut : fields (String.ofList (replaceRange (toLower (rangeText lower upper separator left right)).toList)) =
      String.ofList (intText lower) :: String.ofList ['-'] :: fields (String.ofList (intText upper)) := by
    have shape : '-' :: (right ++ intText upper) = ['-'] ++ right ++ intText upper := by simp
    have hyphen : ∀ c ∈ ['-'], isSpaceRune c = false := by
      intro c inside
      rw [List.mem_singleton.mp inside]
      rfl
    rw [replaceRange_rangeText lower upper known blank blank',
      fields_word_append (intText_plain lower) (intText_ne_nil lower) blank given, shape,
      fields_word_append hyphen (List.cons_ne_nil _ _) blank' given']
  rw [parseNumericRange_words cut, parseFloat_hyphen]
  cases parseFloat (String.ofList (intText lower)) <;> rfl

/-- The bounds come out for numbers without a sign and a separator without blanks, and for an upper
    bound of zero behind a separator with blanks on its left only. -/
theorem numericRange_iff (known : separator ∈ rangeSeparators) (blank : Blank left) (blank' : Blank right)
    (ordered : lower ≤ upper) (small : |lower| ≤ 2 ^ 53) (small' : |upper| ≤ 2 ^ 53) :
    parseNumericRange parseFloat (rangeText lower upper separator left right) =
        (some (.finite lower), some (.finite upper)) ↔
      right = [] ∧ (if left = [] then 0 ≤ lower else upper = 0) := by
  by_cases none : left = []
  · subst none
    rw [if_pos rfl]
    by_cases none' : right = []
    · subst none'
      rw [parseNumericRange_joined known ordered small small']
      split
      · next negative => simp [negative]
      · next positive => simp [not_lt.mp positive]
    · rw [parseNumericRange_right known blank' none']
      simp [none']
  · rw [if_neg none]
    by_cases none' : right = []
    · subst none'
      rw [parseNumericRange_left known blank none small small']
      split
      · next negative => simp [negative.ne]
      · have zero : -(upper : Rat) = upper ↔ upper = 0 := by
          rw [neg_eq_self, Int.cast_eq_zero]
        simp [zero]
    · rw [parseNumericRange_apart known blank blank' none none']
      simp [none']

theorem numericRange_iff_of_percent :
    parseNumericRange parseFloat (rangeText 0 100 "..".toList [] []) = (some (.finite (0 : Int)), some (.finite (100 : Int))) ↔
      ([] : List Char) = [] ∧ (if ([] : List Char) = [] then (0 : Int) ≤ 0 else (100 : Int) = 0) :=
  numericRange_iff (by decide) blank_nil blank_nil (by decide) (by decide) (by decide)

/-- A range that is written with words has no bounds. -/
theorem blanks_lose_bounds :
    rangeText 0 100 "to".toList [' '] [' '] = "0 to 100" ∧
      parseNumericRange parseFloat "0 to 100" = (none, none) := by
  decide +kernel

end Strom.Agent
