import Strom.Nutconf.Readback

/-!
# What NUT reads from `upsd.users` (`render.go`)

`RenderUPSDUsers` writes the name and the password of a user without quotes.
`readConf_users_iff`: whatever they contain, NUT reads one user with this name and this password
if and only if every byte of the name is ordinary and the password is one plain word.

The name and the password may have line breaks, so that what is read may go on in the lines behind
them.  `read_word_ne` and `read_quoted_ne` follow a word that lags behind the text: it never
catches up.
-/

namespace Strom.Nutconf

open Strom.Go Grammar

/-! ## Words that lag behind the text -/

section Lagging

variable {w z y u rest : Bytes} {words more : List Bytes} {lines : List (List Bytes)}

/-- A word that has ended is not longer. -/
theorem read_early (mode : Mode) (others : List Bytes) (text : Bytes) (longer : u ≠ []) :
    readFrom mode (words ++ w :: others) text ≠ (words ++ (w ++ u) :: more) :: lines := by
  intro same
  obtain ⟨more', lines', same', -⟩ := read_extends text mode (words ++ w :: others)
  rw [same] at same'
  simp only [List.append_assoc, List.cons_append, List.cons.injEq, List.append_cancel_left_eq] at same'
  exact longer (by simpa using same'.1.1)

/-- A byte that the reader has taken stands in the word. -/
theorem read_taken {m : Mode} {c : UInt8} {text : Bytes} (begun : m.part? = some (w ++ [c]))
    (same : readFrom m words text = (words ++ (w ++ u) :: more) :: lines) :
    ∃ u', u = c :: u' ∧ readFrom m words text = (words ++ (w ++ [c] ++ u') :: more) :: lines := by
  obtain ⟨more', lines', same', extends_⟩ := read_extends text m words
  obtain ⟨word, first, inside⟩ := extends_ _ begun
  rw [same] at same'
  simp only [List.cons.injEq, List.append_cancel_left_eq] at same'
  obtain ⟨rfl, -⟩ := same'
  cases first
  obtain ⟨u', behind⟩ := inside
  have cut : u = c :: u' := by simpa using behind.symm
  exact ⟨u', cut, by rw [same, cut]; simp⟩

/-- Behind the line comes a blank, and no quote or backslash. -/
structure Quiet (rest : Bytes) : Prop where
  blank : rest.head? = some 32
  plain : ∀ b ∈ rest, b ≠ quotes ∧ b ≠ backslash

/-- A line break that is taken literally ends the word. -/
theorem read_literal_newline (quiet : rest.head? = some 32) :
    readFrom (.literal w) words (newline :: rest) ≠ (words ++ (w ++ (z ++ [backslash])) :: more) :: lines := by
  intro same
  cases rest with
  | nil => cases quiet
  | cons b rest =>
    cases quiet
    have blank : (32 : UInt8) ≠ newline ∧ (32 : UInt8) ≠ hash ∧ isBlank 32 = true := by decide
    obtain ⟨noNewline, noHash, blank⟩ := blank
    simp only [readFrom, noNewline, noHash, blank, if_true, if_false] at same
    obtain ⟨more', lines', same', -⟩ := read_extends rest .between (words ++ [w ++ [newline]])
    rw [same] at same'
    simp only [List.append_assoc, List.cons_append, List.nil_append, List.cons.injEq,
      List.append_cancel_left_eq] at same'
    have last := congrArg List.getLast? same'.1.1
    rw [List.getLast?_concat] at last
    cases last

/-- Outside quotes what is left of the word is not longer than what is left of the line. -/
theorem read_word_ne (lags : z ≠ []) (ends : y.getLast? ≠ some backslash ∨ rest.head? = some 32) :
    readFrom (.word w) words (y ++ newline :: rest) ≠ (words ++ (w ++ (z ++ y)) :: more) :: lines := by
  intro same
  induction length : y.length using Nat.strong_induction_on generalizing y z w with
  | _ n ih =>
    -- the word goes on with the first of `z`, and `z` takes the bytes that were read
    have further : ∀ (read later : Bytes), y = read ++ later → read ≠ [] →
        ∀ c, readFrom (.word (w ++ [c])) words (later ++ newline :: rest) =
          (words ++ (w ++ (z ++ y)) :: more) :: lines → False := by
      intro read later cut some_ c goes
      obtain ⟨u, first, goes⟩ := read_taken rfl goes
      cases z with
      | nil => exact lags rfl
      | cons a z =>
        obtain ⟨rfl, rfl⟩ := List.cons.inj first
        change _ = (words ++ (w ++ [a] ++ (z ++ y)) :: more) :: lines at goes
        rw [cut, ← List.append_assoc z] at goes
        have less : later.length < n := by
          have positive := List.length_pos_of_ne_nil some_
          rw [← length, cut, List.length_append]
          omega
        refine ih later.length less (by simp [some_]) ?_ goes rfl
        rw [cut] at ends
        refine ends.imp_left fun last same => last ?_
        rw [List.getLast?_append, same]
        rfl
    have longer : z ++ y ≠ [] := by simp [lags]
    cases y with
    | nil => exact absurd same (by rw [List.nil_append, read_last]; simp [lags])
    | cons b y =>
      simp only [List.cons_append, readFrom] at same
      split_ifs at same with isNewline isHash blank isEquals isBackslash
      · simp at same
      · exact read_early _ [] _ longer same
      · exact read_early _ [] _ longer same
      · exact read_early _ [[equals]] _ longer same
      · subst isBackslash
        cases y with
        | nil =>
          obtain last | quiet := ends
          · exact last rfl
          · exact read_literal_newline quiet same
        | cons c y => exact further [backslash, c] y rfl (by simp) c same
      · exact further [b] y rfl (by simp) b same

theorem read_unquoted {text : Bytes} (plain : ∀ b ∈ text, b ≠ quotes ∧ b ≠ backslash) (w : Bytes) :
    readFrom (.quoted w) words text = [words ++ [w ++ text]] := by
  induction text generalizing w with
  | nil => simp [readFrom, Mode.close]
  | cons b text ih =>
    rw [List.forall_mem_cons] at plain
    rw [readFrom, if_neg plain.1.1, if_neg plain.1.2, ih plain.2]
    simp

/-- Inside quotes a word that has a quote or a backslash to come cannot end as the text does. -/
theorem read_quoted_ne (special : ∃ b ∈ z, b = quotes ∨ b = backslash) (quiet : Quiet rest) :
    readFrom (.quoted w) words (y ++ newline :: rest) ≠ (words ++ (w ++ (z ++ y)) :: more) :: lines := by
  intro same
  induction length : y.length using Nat.strong_induction_on generalizing y z w with
  | _ n ih =>
    have plain : ∀ b ∈ newline :: rest, b ≠ quotes ∧ b ≠ backslash := by
      rw [List.forall_mem_cons]
      exact ⟨by decide, quiet.plain⟩
    -- the quotes stay open to the end of the text
    have ended : ∀ mode, readFrom mode words (newline :: rest) = [words ++ [w ++ newline :: rest]] →
        readFrom mode words (newline :: rest) ≠ (words ++ (w ++ (z ++ y)) :: more) :: lines := by
      intro mode open_ read
      rw [open_] at read
      simp only [List.cons.injEq, List.append_cancel_left_eq] at read
      obtain ⟨b, inside, which⟩ := special
      have here : b ∈ newline :: rest := by
        rw [read.1.1]
        exact List.mem_append_left _ inside
      obtain ⟨noQuote, noBackslash⟩ := plain b here
      exact which.elim noQuote noBackslash
    have further : ∀ (read later : Bytes), y = read ++ later → read ≠ [] → ∀ c,
        (∀ a z', z = a :: z' → a = c → ∃ b ∈ z' ++ read, b = quotes ∨ b = backslash) →
        readFrom (.quoted (w ++ [c])) words (later ++ newline :: rest) =
          (words ++ (w ++ (z ++ y)) :: more) :: lines → False := by
      intro read later cut some_ c still goes
      obtain ⟨u, first, goes⟩ := read_taken rfl goes
      cases z with
      | nil =>
        obtain ⟨b, inside, -⟩ := special
        cases inside
      | cons a z =>
        obtain ⟨rfl, rfl⟩ := List.cons.inj first
        change _ = (words ++ (w ++ [a] ++ (z ++ y)) :: more) :: lines at goes
        rw [cut, ← List.append_assoc z] at goes
        have less : later.length < n := by
          have positive := List.length_pos_of_ne_nil some_
          rw [← length, cut, List.length_append]
          omega
        exact ih later.length less (still a z rfl rfl) goes rfl
    have longer : z ++ y ≠ [] := by
      obtain ⟨b, inside, -⟩ := special
      exact List.ne_nil_of_mem (List.mem_append_left _ inside)
    cases y with
    | nil => exact ended _ (read_unquoted plain w) same
    | cons b y =>
      simp only [List.cons_append, readFrom] at same
      split_ifs at same with isQuotes isBackslash
      · exact read_early _ [] _ longer same
      · subst isBackslash
        cases y with
        | nil =>
          refine ended (.quotedLiteral w) ?_ same
          rw [readFrom, read_unquoted quiet.plain]
          simp
        | cons c y =>
          refine further [backslash, c] y rfl (by simp) c ?_ same
          intro a z' _ _
          exact ⟨backslash, by simp, .inr rfl⟩
      · refine further [b] y rfl (by simp) b ?_ same
        intro a z' cut here
        -- the byte that was read is not the special one
        obtain ⟨b', inside, which⟩ := special
        rw [cut, here] at inside
        obtain rfl | later := List.mem_cons.mp inside
        · exact absurd which (not_or.mpr ⟨isQuotes, isBackslash⟩)
        · exact ⟨b', List.mem_append_left _ later, which⟩

/-- Before a word what is left of the line cannot be read as more than it is. -/
theorem read_between_ne (lags : z ≠ []) (quiet : Quiet rest) :
    readFrom .between words (y ++ newline :: rest) ≠ (words ++ (z ++ y) :: more) :: lines := by
  intro same
  induction y generalizing z with
  | nil => simp [readFrom] at same
  | cons b y ih =>
    -- the word begins with the first of `z`
    have begun : ∀ (read later : Bytes), b :: y = read ++ later → read ≠ [] → ∀ c,
        readFrom (.word [c]) words (later ++ newline :: rest) ≠ (words ++ (z ++ b :: y) :: more) :: lines := by
      intro read later cut some_ c goes
      have whole : readFrom (.word ([] ++ [c])) words (later ++ newline :: rest) =
          (words ++ ([] ++ (z ++ b :: y)) :: more) :: lines := goes
      obtain ⟨u, first, goes⟩ := read_taken rfl whole
      cases z with
      | nil => exact lags rfl
      | cons a z =>
        obtain ⟨rfl, rfl⟩ := List.cons.inj first
        change _ = (words ++ ([] ++ [a] ++ (z ++ b :: y)) :: more) :: lines at goes
        rw [cut, ← List.append_assoc z] at goes
        exact read_word_ne (by simp [some_]) (.inr quiet.blank) goes
    simp only [List.cons_append, readFrom] at same
    split_ifs at same with isNewline isHash blank isBackslash isQuotes isEquals
    · simp at same
    · obtain ⟨lines', same'⟩ := read_comment y words rest
      rw [same'] at same
      simp at same
    · have later : readFrom .between words (y ++ newline :: rest) =
          (words ++ (z ++ [b] ++ y) :: more) :: lines := by
        rw [same]
        simp
      exact ih (by simp) later
    · subst isBackslash
      cases y with
      | nil => exact read_literal_newline (w := []) quiet.blank same
      | cons c y => exact begun [backslash, c] y rfl (by simp) c same
    · subst isQuotes
      have quoted : readFrom (.quoted []) words (y ++ newline :: rest) =
          (words ++ ([] ++ (z ++ [quotes] ++ y)) :: more) :: lines := by
        rw [same]
        simp
      exact read_quoted_ne ⟨quotes, by simp, .inl rfl⟩ quiet quoted
    · obtain ⟨more', lines', same', -⟩ := read_extends (y ++ newline :: rest) .between (words ++ [[equals]])
      rw [same'] at same
      simp only [List.append_assoc, List.singleton_append, List.cons.injEq, List.append_cancel_left_eq] at same
      cases z with
      | nil => exact lags rfl
      | cons a z => simp at same
    · exact begun [b] y rfl (by simp) b same

/-- A word that is read as the text is has ordinary bytes only. -/
theorem ordinary_of_read_word (ends : y.getLast? ≠ some backslash ∨ rest.head? = some 32)
    (same : readFrom (.word w) words (y ++ newline :: rest) = (words ++ (w ++ y) :: more) :: lines) :
    ∀ b ∈ y, isOrdinary b = true := by
  induction y generalizing w with
  | nil => simp
  | cons b y ih =>
    have whole := same
    simp only [List.cons_append, readFrom] at same
    split_ifs at same with isNewline isHash blank isEquals isBackslash
    · simp at same
    · exact absurd same (read_early _ [] _ (by simp))
    · exact absurd same (read_early _ [] _ (by simp))
    · exact absurd same (read_early _ [[equals]] _ (by simp))
    · -- the byte behind the backslash would have to be both
      subst isBackslash
      exfalso
      cases y with
      | nil =>
        obtain last | quiet := ends
        · exact last rfl
        · exact read_literal_newline (z := []) quiet same
      | cons c y =>
        obtain ⟨u, first, goes⟩ := read_taken (m := .word (w ++ [c])) rfl same
        obtain ⟨rfl, rfl⟩ := List.cons.inj first
        have lags : readFrom (.word (w ++ [backslash])) words (y ++ newline :: rest) =
            (words ++ (w ++ [backslash] ++ ([backslash] ++ y)) :: more) :: lines := goes
        exact read_word_ne (by simp) (ends.imp_left fun last same => last (by simp [List.getLast?_cons, same])) lags
    · rw [List.forall_mem_cons, isOrdinary_iff]
      have later : readFrom (.word (w ++ [b])) words (y ++ newline :: rest) =
          (words ++ (w ++ [b] ++ y) :: more) :: lines := by
        rw [same]
        simp
      refine ⟨⟨by simpa using blank, isHash, isEquals, isBackslash⟩, ih ?_ later⟩
      exact ends.imp_left fun last same => last (by simp [List.getLast?_cons, same])

/-- Only a plain word is read as it is, also where it might go on behind the line. -/
theorem plainWord_of_read (some_ : y ≠ []) (quiet : Quiet rest)
    (same : readFrom .between words (y ++ newline :: rest) = (words ++ y :: more) :: lines) : PlainWord y := by
  cases y with
  | nil => exact absurd rfl some_
  | cons b y =>
    simp only [List.cons_append, readFrom] at same
    split_ifs at same with isNewline isHash blank isBackslash isQuotes isEquals
    · simp at same
    · obtain ⟨lines', same'⟩ := read_comment y words rest
      rw [same'] at same
      simp at same
    · exact absurd same (read_between_ne (z := [b]) (by simp) quiet)
    · subst isBackslash
      exfalso
      cases y with
      | nil => exact read_literal_newline (w := []) (z := []) quiet.blank same
      | cons c y =>
        obtain ⟨u, first, goes⟩ := read_taken (w := []) (m := .word [c]) rfl same
        obtain ⟨rfl, rfl⟩ := List.cons.inj first
        exact read_word_ne (z := [backslash]) (by simp) (.inr quiet.blank) goes
    · subst isQuotes
      exact absurd same (read_quoted_ne (w := []) (z := [quotes]) ⟨quotes, by simp, .inl rfl⟩ quiet)
    · obtain ⟨more', lines', same', -⟩ := read_extends (y ++ newline :: rest) .between (words ++ [[equals]])
      rw [same'] at same
      simp only [List.append_assoc, List.singleton_append, List.cons.injEq, List.append_cancel_left_eq] at same
      obtain ⟨⟨⟨rfl, rfl⟩, -⟩, -⟩ := same
      exact .inl rfl
    · have later := ordinary_of_read_word (w := [b]) (.inr quiet.blank) same
      refine .inr ⟨some_, by simpa using isQuotes, ?_⟩
      rw [List.forall_mem_cons, isOrdinary_iff]
      exact ⟨⟨by simpa using blank, isHash, isEquals, isBackslash⟩, later⟩

end Lagging

/-! ## The whole text -/

/-- What `upsd.users` is to say of a user. -/
def wantedUser (user : UPSDUser) : Section where
  name := utf8 user.username
  settings := [(utf8 "password", some (utf8 user.password)), (utf8 "actions", some (utf8 "SET")),
    (utf8 "instcmds", some (utf8 "ALL"))]

/-- The name is made of ordinary bytes and the password is a plain word. -/
def PlainUser (user : UPSDUser) : Prop :=
  (∀ b ∈ utf8 user.username, isOrdinary b = true) ∧ PlainWord (utf8 user.password)

instance (user : UPSDUser) : Decidable (PlainUser user) := inferInstanceAs (Decidable (_ ∧ _))

/-- The rights of the user. -/
def rightsText : Bytes := settingText (utf8 "actions") (utf8 "SET") ++ settingText (utf8 "instcmds") (utf8 "ALL")

theorem quiet_rights : Quiet rightsText := by
  refine ⟨by decide, ?_⟩
  have plain : rightsText.all (fun b => b ≠ quotes ∧ b ≠ backslash) = true := by decide
  simpa using List.all_eq_true.mp plain

theorem readConf_rights : readConf rightsText =
    ([(utf8 "actions", some (utf8 "SET")), (utf8 "instcmds", some (utf8 "ALL"))], []) := by
  decide

theorem plainKey_password : PlainKey (utf8 "password") :=
  plainKey_of_all (by decide) (by decide) (by decide) (by decide)

theorem plainWord_inLine {v : Bytes} (plain : PlainWord v) : newline ∉ v := by
  obtain rfl | ⟨-, -, ordinary⟩ := plain
  · decide
  · intro inside
    have visible := ((isOrdinary_iff newline).mp (ordinary newline inside)).1
    revert visible
    decide

/-- A setting is read as it was meant exactly if its value is a plain word, also where the value has
    line breaks. -/
theorem readConf_value_iff {key value rest : Bytes} (plain : PlainKey key) (some_ : value ≠ [])
    (quiet : Quiet rest) (settings : List Setting) (sections : List Section) :
    readConf (settingText key value ++ rest) = ((key, some value) :: settings, sections) ↔
      PlainWord value ∧ readConf rest = (settings, sections) := by
  constructor
  · intro same
    have word : PlainWord value := by
      have text : settingText key value ++ rest =
          32 :: 32 :: (key ++ 32 :: equals :: 32 :: (value ++ newline :: rest)) := by simp [settingText]
      rw [text, readConf, read_key plain.nonempty plain.unquoted plain.ordinary] at same
      obtain ⟨more, lines, read, -⟩ := read_extends (value ++ newline :: rest) .between [key, [equals]]
      rw [read] at same
      simp only [List.cons_append, List.nil_append, sectionsOf, lineOf_setting plain, Prod.mk.injEq,
        List.cons.injEq, true_and] at same
      cases more with
      | nil => simp at same
      | cons w more =>
        obtain rfl : w = value := by simpa using same.1.1
        exact plainWord_of_read some_ quiet read
    exact ⟨word, ((readConf_setting_iff plain some_ (plainWord_inLine word) rest settings sections).mp same).2⟩
  · intro read
    exact (readConf_setting_iff plain some_ (plainWord_inLine read.1) rest settings sections).mpr read

theorem readConf_comment {comment : Bytes} (inLine : newline ∉ comment) (rest : Bytes) :
    readConf (hash :: (comment ++ newline :: rest)) = readConf rest := by
  have skipped : readFrom .comment [] (comment ++ newline :: rest) = [] :: readFrom .between [] rest := by
    induction comment with
    | nil => rfl
    | cons b comment ih =>
      rw [List.mem_cons, not_or] at inLine
      rw [List.cons_append, readFrom, if_neg (Ne.symm inLine.1), ih inLine.2]
  have begun : readFrom .between [] (hash :: (comment ++ newline :: rest)) =
      readFrom .comment [] (comment ++ newline :: rest) := rfl
  rw [readConf, begun, skipped]
  rfl

/-- A section whose name is read as it was meant has a name of ordinary bytes. -/
theorem ordinary_of_header {name rest : Bytes} {settings : List Setting} {sections : List Section}
    (same : readConf (91 :: (name ++ 93 :: newline :: rest)) = ([], { name, settings } :: sections)) :
    ∀ b ∈ name, isOrdinary b = true := by
  have start : readFrom .between [] (91 :: (name ++ 93 :: newline :: rest)) =
      readFrom (.word [91]) [] ((name ++ [93]) ++ newline :: rest) := by
    rw [read_start (by decide) (by decide)]
    simp
  rw [readConf, start] at same
  obtain ⟨more, lines, read, extends_⟩ := read_extends ((name ++ [93]) ++ newline :: rest) (.word [91]) []
  obtain ⟨word, first, tail, rfl⟩ := extends_ [91] rfl
  cases more with
  | nil => cases first
  | cons word more =>
    cases first
    rw [read, List.nil_append, sectionsOf] at same
    -- the first line is the header, and its word is the name in brackets
    have word : tail = name ++ [93] := by
      simp only [lineOf] at same
      split_ifs at same with bracketed
      · have named : (([91] ++ tail).drop 1).dropLast = name := by
          simp only [Prod.mk.injEq, List.cons.injEq] at same
          exact congrArg Section.name same.2.1
        obtain ⟨-, closed⟩ := Bool.and_eq_true_iff.mp bracketed
        obtain rfl | ⟨front, last, rfl⟩ := List.eq_nil_or_concat tail
        · simp at closed
        · have last_ : last = 93 := by simpa [List.getLast?_cons] using closed
          have front_ : front = name := by simpa using named
          rw [last_, front_, List.concat_eq_append]
      · simp at same
    rw [word, List.nil_append] at read
    have ordinary := ordinary_of_read_word (w := [91]) (.inl (by simp; decide)) read
    intro b inside
    exact ordinary b (List.mem_append_left _ inside)

/-- The comment in front. -/
theorem usersComment_eq : ∃ comment, newline ∉ comment ∧
    utf8 "# TODO: replace this local plaintext credential with controller provisioning in Phase 3.\n" =
      hash :: (comment ++ [newline]) := by
  refine ⟨utf8 " TODO: replace this local plaintext credential with controller provisioning in Phase 3.", ?_⟩
  decide +kernel

theorem renderUPSDUsers_eq (user : UPSDUser) : ∃ comment, newline ∉ comment ∧
    utf8 (renderUPSDUsers user) = hash :: (comment ++ newline :: 91 :: (utf8 user.username ++
      93 :: newline :: (settingText (utf8 "password") (utf8 user.password) ++ rightsText))) := by
  obtain ⟨comment, inLine, text⟩ := usersComment_eq
  refine ⟨comment, inLine, ?_⟩
  have opening : utf8 "[" = [91] := by decide
  have closing : utf8 "]\n" = [93, newline] := by decide
  have ending : utf8 "\n" = [newline] := by decide
  have password : utf8 "  password = " = 32 :: 32 :: (utf8 "password" ++ [32, equals, 32]) := by decide
  have rights : utf8 "  actions = SET\n" ++ utf8 "  instcmds = ALL\n" = rightsText := by decide
  -- the comment stays a variable, or else the unifier evaluates its text
  have shape : ∀ head : String, utf8 (head ++ "[" ++ user.username ++ "]\n" ++ "  password = " ++ user.password ++
      "\n" ++ "  actions = SET\n" ++ "  instcmds = ALL\n") = utf8 head ++ (91 :: (utf8 user.username ++
        93 :: newline :: (settingText (utf8 "password") (utf8 user.password) ++ rightsText))) := by
    intro head
    simp only [utf8_append, opening, closing, ending, password, List.append_assoc, rights]
    simp [settingText]
  exact (shape _).trans ((congrArg (· ++ _) text).trans (by simp))

/-- NUT reads the user that was meant exactly if the name and the password are plain. -/
theorem readConf_users_iff {user : UPSDUser} (password : user.password ≠ "") :
    readConf (utf8 (renderUPSDUsers user)) = ([], [wantedUser user]) ↔ PlainUser user := by
  obtain ⟨comment, inLine, text⟩ := renderUPSDUsers_eq user
  rw [text, readConf_comment inLine, PlainUser]
  have value := readConf_value_iff plainKey_password (utf8_ne_nil password) quiet_rights
    [(utf8 "actions", some (utf8 "SET")), (utf8 "instcmds", some (utf8 "ALL"))] []
  constructor
  · intro same
    have ordinary := ordinary_of_header same
    rw [readConf_header ordinary] at same
    simp only [wantedUser, Prod.mk.injEq, List.cons.injEq, Section.mk.injEq, true_and] at same
    exact ⟨ordinary, (value.mp (Prod.ext same.1 same.2)).1⟩
  · rintro ⟨ordinary, word⟩
    rw [readConf_header ordinary, value.mpr ⟨word, readConf_rights⟩]
    rfl

end Strom.Nutconf
