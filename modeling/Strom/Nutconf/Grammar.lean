import Strom.Go.Strings

/-!
# The grammar of NUT's configuration files

A reader of words: blanks separate them, `#` starts a comment, quotes at the beginning
of a word group it and may span lines, a backslash takes the next byte as it is, and
`=` is a word of its own.  A line whose first word is `[name]` opens a section, any
other line sets the key that is its first word, to the word behind `=`.

The lemmas are about one word: `read_plain` reads it back, and `read_wrong` says that
any text but a plain word or `=` is not what is read from it.
-/

namespace Strom.Nutconf.Grammar

open Strom.Go

/-! ## Words -/

def newline : UInt8 := 10

def hash : UInt8 := 35

def equals : UInt8 := 61

def backslash : UInt8 := 92

def quotes : UInt8 := 34

/-- `isspace`. -/
def isBlank (b : UInt8) : Bool := b = 32 || (9 ≤ b.toNat && b.toNat ≤ 13)

/-- What the reader is in the middle of, with the part of a word that it has. -/
inductive Mode where
  | between
  | comment
  | word (part : Bytes)
  | literal (part : Bytes)
  | quoted (part : Bytes)
  | quotedLiteral (part : Bytes)

/-- The words of a line when the text ends in this mode. -/
def Mode.close : Mode → List Bytes → List Bytes
  | between, words => words
  | comment, words => words
  | word part, words => words ++ [part]
  | literal part, words => words ++ [part]
  | quoted part, words => words ++ [part]
  | quotedLiteral part, words => words ++ [part]

/-- The lines of a text, each with its words. -/
def readFrom (mode : Mode) (words : List Bytes) : Bytes → List (List Bytes)
  | [] => [mode.close words]
  | b :: rest =>
    match mode with
    | .between =>
      if b = newline then words :: readFrom .between [] rest
      else if b = hash then readFrom .comment words rest
      else if isBlank b then readFrom .between words rest
      else if b = backslash then readFrom (.literal []) words rest
      else if b = quotes then readFrom (.quoted []) words rest
      else if b = equals then readFrom .between (words ++ [[equals]]) rest
      else readFrom (.word [b]) words rest
    | .comment =>
      if b = newline then words :: readFrom .between [] rest else readFrom .comment words rest
    | .word part =>
      if b = newline then (words ++ [part]) :: readFrom .between [] rest
      else if b = hash then readFrom .comment (words ++ [part]) rest
      else if isBlank b then readFrom .between (words ++ [part]) rest
      else if b = equals then readFrom .between (words ++ [part, [equals]]) rest
      else if b = backslash then readFrom (.literal part) words rest
      else readFrom (.word (part ++ [b])) words rest
    | .literal part => readFrom (.word (part ++ [b])) words rest
    | .quoted part =>
      if b = quotes then readFrom .between (words ++ [part]) rest
      else if b = backslash then readFrom (.quotedLiteral part) words rest
      else readFrom (.quoted (part ++ [b])) words rest
    | .quotedLiteral part => readFrom (.quoted (part ++ [b])) words rest

/-! ## Sections -/

/-- A key with the word behind `=`, if there is one. -/
abbrev Setting := Bytes × Option Bytes

structure Section where
  name : Bytes
  settings : List Setting
deriving DecidableEq

inductive Line where
  | blank
  | header (name : Bytes)
  | setting (setting : Setting)

def valueOf : List Bytes → Option Bytes
  | _ :: sign :: value :: _ => if sign = [equals] then some value else none
  | _ => none

def lineOf : List Bytes → Line
  | [] => .blank
  | first :: rest =>
    if first.head? = some 91 && first.getLast? = some 93 then .header (first.drop 1).dropLast
    else .setting (first, valueOf (first :: rest))

/-- The settings before the first section, and the sections. -/
def sectionsOf : List (List Bytes) → List Setting × List Section
  | [] => ([], [])
  | words :: lines =>
    let rest := sectionsOf lines
    match lineOf words with
    | .blank => rest
    | .header name => ([], { name, settings := rest.1 } :: rest.2)
    | .setting setting => (setting :: rest.1, rest.2)

def readConf (text : Bytes) : List Setting × List Section := sectionsOf (readFrom .between [] text)

example : readConf (utf8 "[a]\n  driver = \"x y\" # z\n  port=p q\n") =
    ([], [{ name := utf8 "a", settings := [(utf8 "driver", some (utf8 "x y")), (utf8 "port", some (utf8 "p"))] }]) := by
  decide

/-! ## Plain words -/

/-- A byte that is part of a word wherever it stands in it. -/
def isOrdinary (b : UInt8) : Bool := !isBlank b && b ≠ hash && b ≠ equals && b ≠ backslash

/-- A text that is read as the word that it is. -/
def PlainWord (v : Bytes) : Prop :=
  v = [equals] ∨ v ≠ [] ∧ v.head? ≠ some quotes ∧ ∀ b ∈ v, isOrdinary b = true

instance (v : Bytes) : Decidable (PlainWord v) :=
  decidable_of_iff (v = [equals] ∨ v ≠ [] ∧ v.head? ≠ some quotes ∧ v.all isOrdinary = true)
    (by simp [PlainWord])

theorem isOrdinary_iff (b : UInt8) :
    isOrdinary b = true ↔ isBlank b = false ∧ b ≠ hash ∧ b ≠ equals ∧ b ≠ backslash := by
  simp [isOrdinary, and_assoc]

theorem ne_newline_of_not_blank {b : UInt8} (visible : isBlank b = false) : b ≠ newline := by
  rintro rfl
  revert visible
  decide

/-- Ordinary bytes extend the word that is being read. -/
theorem read_ordinary {v : Bytes} (ordinary : ∀ b ∈ v, isOrdinary b = true) (part : Bytes)
    (words : List Bytes) (rest : Bytes) :
    readFrom (.word part) words (v ++ rest) = readFrom (.word (part ++ v)) words rest := by
  induction v generalizing part with
  | nil => simp
  | cons b v ih =>
    rw [List.forall_mem_cons, isOrdinary_iff] at ordinary
    obtain ⟨⟨visible, noHash, noEquals, noBackslash⟩, later⟩ := ordinary
    have noNewline := ne_newline_of_not_blank visible
    rw [List.cons_append, readFrom]
    simp only [noNewline, noHash, visible, noEquals, noBackslash, if_false, Bool.false_eq_true]
    rw [ih later, List.append_assoc, List.singleton_append]

/-- The word at the end of a line. -/
theorem read_last (part : Bytes) (words : List Bytes) (rest : Bytes) :
    readFrom (.word part) words (newline :: rest) = (words ++ [part]) :: readFrom .between [] rest := by
  simp [readFrom]

theorem read_start {b : UInt8} (ordinary : isOrdinary b = true) (unquoted : b ≠ quotes)
    (words : List Bytes) (rest : Bytes) :
    readFrom .between words (b :: rest) = readFrom (.word [b]) words rest := by
  obtain ⟨visible, noHash, noEquals, noBackslash⟩ := (isOrdinary_iff b).mp ordinary
  have noNewline := ne_newline_of_not_blank visible
  simp [readFrom, noNewline, noHash, visible, noEquals, noBackslash, unquoted]

/-- A plain word at the end of a line is read as it is. -/
theorem read_plain {v : Bytes} (plain : PlainWord v) (words : List Bytes) (rest : Bytes) :
    readFrom .between words (v ++ newline :: rest) = (words ++ [v]) :: readFrom .between [] rest := by
  rcases plain with rfl | ⟨nonempty, unquoted, ordinary⟩
  · have sign : isBlank equals = false ∧ equals ≠ newline ∧ equals ≠ hash ∧ equals ≠ backslash ∧
        equals ≠ quotes := by decide
    obtain ⟨visible, noNewline, noHash, noBackslash, noQuotes⟩ := sign
    simp [readFrom, visible, noNewline, noHash, noBackslash, noQuotes]
  · cases v with
    | nil => exact absurd rfl nonempty
    | cons b v =>
      rw [List.forall_mem_cons] at ordinary
      rw [List.cons_append, read_start ordinary.1 (by simpa using unquoted), read_ordinary ordinary.2, read_last,
        List.singleton_append]

/-! ## Other words -/

/-- The part of a word that the reader has. -/
def Mode.part? : Mode → Option Bytes
  | between => none
  | comment => none
  | word part => some part
  | literal part => some part
  | quoted part => some part
  | quotedLiteral part => some part

/-- The line that is being read begins with its words so far, the unfinished one completed. -/
theorem read_extends (text : Bytes) (mode : Mode) (words : List Bytes) :
    ∃ more lines, readFrom mode words text = (words ++ more) :: lines ∧
      ∀ part ∈ mode.part?, ∃ word ∈ more.head?, part <+: word := by
  induction text generalizing mode words with
  | nil => cases mode <;> simp [readFrom, Mode.close, Mode.part?]
  | cons b rest ih =>
    -- a word that ends here is the first of the words to come
    have ended : ∀ (mode : Mode) (part : Bytes) (others : List Bytes),
        ∃ more lines, readFrom mode (words ++ part :: others) rest = (words ++ more) :: lines ∧
          ∃ word ∈ more.head?, part <+: word := by
      intro mode part others
      obtain ⟨more, lines, same, -⟩ := ih mode (words ++ part :: others)
      exact ⟨part :: others ++ more, lines, by simp [same], part, rfl, List.prefix_rfl⟩
    have longer : ∀ (mode : Mode) (part : Bytes), mode.part? = some (part ++ [b]) →
        ∃ more lines, readFrom mode words rest = (words ++ more) :: lines ∧
          ∃ word ∈ more.head?, part <+: word := by
      intro mode part grown
      obtain ⟨more, lines, same, extends_⟩ := ih mode words
      obtain ⟨word, first, inside⟩ := extends_ _ grown
      exact ⟨more, lines, same, word, first, (List.prefix_append _ _).trans inside⟩
    have kept : ∀ (mode : Mode) (part : Bytes), mode.part? = some part →
        ∃ more lines, readFrom mode words rest = (words ++ more) :: lines ∧
          ∃ word ∈ more.head?, part <+: word := by
      intro mode part same_
      obtain ⟨more, lines, same, extends_⟩ := ih mode words
      exact ⟨more, lines, same, extends_ _ same_⟩
    have passed : ∀ (mode : Mode) (others : List Bytes),
        ∃ more lines, readFrom mode (words ++ others) rest = (words ++ more) :: lines := by
      intro mode others
      obtain ⟨more, lines, same, -⟩ := ih mode (words ++ others)
      exact ⟨others ++ more, lines, by simp [same]⟩
    have empty : ∀ lines : List (List Bytes), ∃ more lines', words :: lines = (words ++ more) :: lines' :=
      fun lines => ⟨[], lines, by simp⟩
    have others : ∀ mode : Mode, ∃ more lines, readFrom mode words rest = (words ++ more) :: lines := by
      intro mode
      obtain ⟨more, lines, same, -⟩ := ih mode words
      exact ⟨more, lines, same⟩
    cases mode with
    | between =>
      simp only [readFrom, Mode.part?, Option.not_mem_none, false_implies, implies_true, and_true]
      split_ifs
      · exact empty _
      · exact others _
      · exact others _
      · exact others _
      · exact others _
      · exact passed _ _
      · exact others _
    | comment =>
      simp only [readFrom, Mode.part?, Option.not_mem_none, false_implies, implies_true, and_true]
      split_ifs
      · exact empty _
      · exact others _
    | word part =>
      simp only [readFrom, Mode.part?, Option.mem_some_iff, forall_eq']
      split_ifs
      · exact ⟨[part], _, rfl, part, rfl, List.prefix_rfl⟩
      · exact ended _ _ _
      · exact ended _ _ _
      · exact ended _ _ _
      · exact kept _ _ rfl
      · exact longer _ _ rfl
    | literal part =>
      simp only [readFrom, Mode.part?, Option.mem_some_iff, forall_eq']
      exact longer _ _ rfl
    | quoted part =>
      simp only [readFrom, Mode.part?, Option.mem_some_iff, forall_eq']
      split_ifs
      · exact ended _ _ _
      · exact kept _ _ rfl
      · exact longer _ _ rfl
    | quotedLiteral part =>
      simp only [readFrom, Mode.part?, Option.mem_some_iff, forall_eq']
      exact longer _ _ rfl

/-- What is read goes beyond the line, or is no longer than the text. -/
def Within (v w : Bytes) : Prop := newline ∈ w ∨ w.length ≤ v.length

theorem read_ended (mode : Mode) (words : List Bytes) (part : Bytes) (others : List Bytes) (v text : Bytes) :
    ∃ w more lines, readFrom mode (words ++ part :: others) text = (words ++ (part ++ w) :: more) :: lines ∧
      Within v w := by
  obtain ⟨more, lines, same, -⟩ := read_extends text mode (words ++ part :: others)
  exact ⟨[], others ++ more, lines, by simp [same], .inr (by simp)⟩

/-- The rest of a word that has begun. -/
theorem read_within (v : Bytes) {mode : Mode} {part : Bytes} (begun : mode.part? = some part)
    (words : List Bytes) (rest : Bytes) :
    ∃ w more lines, readFrom mode words (v ++ newline :: rest) = (words ++ (part ++ w) :: more) :: lines ∧
      Within v w := by
  induction v generalizing mode part with
  | nil =>
    -- anything but a bare word takes the newline in
    have taken : ∀ mode : Mode, mode.part? = some (part ++ [newline]) → ∃ w more lines,
        readFrom mode words rest = (words ++ (part ++ w) :: more) :: lines ∧ Within [] w := by
      intro mode same_
      obtain ⟨more, lines, same, extends_⟩ := read_extends rest mode words
      obtain ⟨word, first, inside⟩ := extends_ _ same_
      obtain ⟨behind, rfl⟩ := inside
      cases more with
      | nil => cases first
      | cons head more =>
        cases first
        exact ⟨newline :: behind, more, lines, by simp [same], .inl (by simp)⟩
    cases mode with
    | between => cases begun
    | comment => cases begun
    | word part' =>
      cases begun
      refine ⟨[], [], readFrom .between [] rest, ?_, .inr (by simp)⟩
      rw [List.nil_append, List.append_nil, read_last]
    | literal part' =>
      cases begun
      exact taken _ rfl
    | quoted part' =>
      cases begun
      exact taken _ rfl
    | quotedLiteral part' =>
      cases begun
      exact taken _ rfl
  | cons b v ih =>
    have longer : ∀ mode : Mode, mode.part? = some (part ++ [b]) → ∃ w more lines,
        readFrom mode words (v ++ newline :: rest) = (words ++ (part ++ w) :: more) :: lines ∧
          Within (b :: v) w := by
      intro mode grown
      obtain ⟨w, more, lines, same, within⟩ := ih grown
      refine ⟨b :: w, more, lines, by simp [same], ?_⟩
      rcases within with beyond | less
      · exact .inl (List.mem_cons_of_mem _ beyond)
      · exact .inr (by simpa using less)
    have kept : ∀ mode : Mode, mode.part? = some part → ∃ w more lines,
        readFrom mode words (v ++ newline :: rest) = (words ++ (part ++ w) :: more) :: lines ∧
          Within (b :: v) w := by
      intro mode same_
      obtain ⟨w, more, lines, same, within⟩ := ih same_
      exact ⟨w, more, lines, same, within.imp_right fun less => by simp; omega⟩
    cases mode with
    | between => cases begun
    | comment => cases begun
    | word part' =>
      cases begun
      simp only [List.cons_append, readFrom]
      split_ifs
      · exact ⟨[], [], _, by rw [List.append_nil], .inr (by simp)⟩
      · exact read_ended _ _ _ [] _ _
      · exact read_ended _ _ _ [] _ _
      · exact read_ended _ _ _ _ _ _
      · exact kept _ rfl
      · exact longer _ rfl
    | literal part' =>
      cases begun
      exact longer _ rfl
    | quoted part' =>
      cases begun
      simp only [List.cons_append, readFrom]
      split_ifs
      · exact read_ended _ _ _ [] _ _
      · exact kept _ rfl
      · exact longer _ rfl
    | quotedLiteral part' =>
      cases begun
      exact longer _ rfl

theorem read_comment (v : Bytes) (words : List Bytes) (rest : Bytes) :
    ∃ lines, readFrom .comment words (v ++ newline :: rest) = words :: lines := by
  induction v with
  | nil => exact ⟨readFrom .between [] rest, by simp [readFrom]⟩
  | cons b v ih =>
    simp only [List.cons_append, readFrom]
    split_ifs
    · exact ⟨_, rfl⟩
    · exact ih

/-- The first word of a text. -/
theorem read_first (v : Bytes) (words : List Bytes) (rest : Bytes) :
    ∃ more lines, readFrom .between words (v ++ newline :: rest) = (words ++ more) :: lines ∧
      ∀ w ∈ more.head?, Within v w := by
  induction v with
  | nil => exact ⟨[], readFrom .between [] rest, by simp [readFrom], by simp⟩
  | cons b v ih =>
    have begun : ∀ (mode : Mode) (part : Bytes), mode.part? = some part → part.length ≤ 1 →
        ∃ more lines, readFrom mode words (v ++ newline :: rest) = (words ++ more) :: lines ∧
          ∀ w ∈ more.head?, Within (b :: v) w := by
      intro mode part same_ few
      obtain ⟨w, more, lines, same, within⟩ := read_within v same_ words rest
      refine ⟨(part ++ w) :: more, lines, same, ?_⟩
      intro w' first
      cases first
      rcases within with beyond | less
      · exact .inl (List.mem_append_right _ beyond)
      · refine .inr ?_
        rw [List.length_append, List.length_cons]
        omega
    simp only [List.cons_append, readFrom]
    split_ifs with isNewline isHash blank isBackslash isQuotes isEquals
    · exact ⟨[], _, by rw [List.append_nil], by simp⟩
    · obtain ⟨lines, same⟩ := read_comment v words rest
      exact ⟨[], lines, by rw [List.append_nil, same], by simp⟩
    · obtain ⟨more, lines, same, within⟩ := ih
      refine ⟨more, lines, same, fun w first => (within w first).imp_right fun less => ?_⟩
      rw [List.length_cons]
      omega
    · exact begun _ [] rfl (by simp)
    · exact begun _ [] rfl (by simp)
    · obtain ⟨more, lines, same, -⟩ := read_extends (v ++ newline :: rest) .between (words ++ [[equals]])
      refine ⟨[equals] :: more, lines, by simp [same], ?_⟩
      intro w first
      cases first
      exact .inr (by simp)
    · exact begun _ [b] rfl (by simp)

/-- A word that is read as it is has ordinary bytes only. -/
theorem ordinary_of_read {v : Bytes} (inLine : newline ∉ v) {part : Bytes} {words more : List Bytes}
    {rest : Bytes} {lines : List (List Bytes)}
    (same : readFrom (.word part) words (v ++ newline :: rest) = (words ++ (part ++ v) :: more) :: lines) :
    ∀ b ∈ v, isOrdinary b = true := by
  induction v generalizing part with
  | nil => simp
  | cons b v ih =>
    simp only [List.mem_cons, not_or] at inLine
    -- a word that ends at once is too short
    have early : ∀ (mode : Mode) (others : List Bytes) (text : Bytes),
        readFrom mode (words ++ part :: others) text ≠ (words ++ (part ++ b :: v) :: more) :: lines := by
      intro mode others text read
      obtain ⟨more', lines', same', -⟩ := read_extends text mode (words ++ part :: others)
      rw [read] at same'
      simp only [List.append_assoc, List.cons_append, List.cons.injEq, List.append_cancel_left_eq] at same'
      have lengths := congrArg List.length same'.1.1
      simp at lengths
    simp only [List.cons_append, readFrom] at same
    split_ifs at same with isNewline isHash blank isEquals isBackslash
    · exact absurd isNewline.symm inLine.1
    · exact absurd same (early _ [] _)
    · exact absurd same (early _ [] _)
    · exact absurd same (early _ _ _)
    · have begun : (Mode.literal part).part? = some part := rfl
      obtain ⟨w, more', lines', same', within⟩ := read_within v begun words rest
      rw [same] at same'
      simp only [List.cons.injEq, List.append_cancel_left_eq] at same'
      obtain ⟨⟨rfl, -⟩, -⟩ := same'
      rcases within with beyond | less
      · simp only [List.mem_cons] at beyond
        exact absurd beyond (not_or.mpr inLine)
      · rw [List.length_cons] at less
        omega
    · rw [List.forall_mem_cons, isOrdinary_iff]
      refine ⟨⟨by simpa using blank, isHash, isEquals, isBackslash⟩, ?_⟩
      have later : readFrom (.word (part ++ [b])) words (v ++ newline :: rest) =
          (words ++ (part ++ [b] ++ v) :: more) :: lines := by
        rw [same]
        simp
      exact ih inLine.2 later

/-- Only a plain word is read as it is. -/
theorem read_wrong {v : Bytes} (nonempty : v ≠ []) (inLine : newline ∉ v) {words more : List Bytes}
    {rest : Bytes} {lines : List (List Bytes)}
    (same : readFrom .between words (v ++ newline :: rest) = (words ++ v :: more) :: lines) :
    PlainWord v := by
  cases v with
  | nil => exact absurd rfl nonempty
  | cons b v =>
    simp only [List.mem_cons, not_or] at inLine
    -- no word of the rest is as long as the whole
    have less : ∀ w : Bytes, Within v w → w ≠ b :: v := by
      rintro w within rfl
      rcases within with beyond | less
      · simp only [List.mem_cons] at beyond
        exact absurd beyond (not_or.mpr inLine)
      · rw [List.length_cons] at less
        omega
    have begun : ∀ mode : Mode, mode.part? = some [] →
        readFrom mode words (v ++ newline :: rest) ≠ (words ++ (b :: v) :: more) :: lines := by
      intro mode same_ read
      obtain ⟨w, more', lines', same', within⟩ := read_within v same_ words rest
      rw [read] at same'
      simp only [List.nil_append, List.cons.injEq, List.append_cancel_left_eq] at same'
      exact less w within same'.1.1.symm
    simp only [List.cons_append, readFrom] at same
    split_ifs at same with isNewline isHash blank isBackslash isQuotes isEquals
    · exact absurd isNewline.symm inLine.1
    · obtain ⟨lines', same'⟩ := read_comment v words rest
      rw [same'] at same
      simp at same
    · obtain ⟨more', lines', same', within⟩ := read_first v words rest
      rw [same'] at same
      simp only [List.cons.injEq, List.append_cancel_left_eq] at same
      rw [same.1] at within
      exact absurd rfl (less _ (within _ rfl))
    · exact absurd same (begun _ rfl)
    · exact absurd same (begun _ rfl)
    · obtain ⟨more', lines', same', -⟩ := read_extends (v ++ newline :: rest) .between (words ++ [[equals]])
      rw [same'] at same
      simp only [List.append_assoc, List.singleton_append, List.cons.injEq, List.append_cancel_left_eq] at same
      obtain ⟨⟨⟨rfl, rfl⟩, -⟩, -⟩ := same
      exact .inl rfl
    · right
      have whole : readFrom (.word [b]) words (v ++ newline :: rest) = (words ++ ([b] ++ v) :: more) :: lines := same
      have later := ordinary_of_read inLine.2 whole
      refine ⟨nonempty, by simpa using isQuotes, ?_⟩
      rw [List.forall_mem_cons, isOrdinary_iff]
      exact ⟨⟨by simpa using blank, isHash, isEquals, isBackslash⟩, later⟩

end Strom.Nutconf.Grammar
