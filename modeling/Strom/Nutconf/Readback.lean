import Strom.Nutconf.Grammar
import Strom.Nutconf.SavedNames
import Strom.Nutconf.Sections

/-!
# What NUT reads from `ups.conf` (`render.go`)

`RenderUPSConf` writes drivers, ports and descriptions without quotes.  NUT reads each
of them back exactly if it is one plain word (`section_iff`), so that a description
with a blank is read up to the blank.
-/

namespace Strom.Nutconf

open Strom.Go Grammar

/-- What `ups.conf` is to say of a device. -/
def wantedSection (device : DetectedUPS) : Section where
  name := device.name
  settings := (utf8 "driver", some (utf8 device.driver)) :: (utf8 "port", some (utf8 device.port)) ::
    if upsDescription device = "" then [] else [(utf8 "desc", some (utf8 (upsDescription device)))]

/-- The driver, the port and the description are single words. -/
def PlainTexts (device : DetectedUPS) : Prop :=
  PlainWord (utf8 device.driver) ∧ PlainWord (utf8 device.port) ∧
    (upsDescription device = "" ∨ PlainWord (utf8 (upsDescription device)))

instance (device : DetectedUPS) : Decidable (PlainTexts device) := inferInstanceAs (Decidable (_ ∧ _))

/-! ## Lines of a section -/

/-- `  key = value` and a newline. -/
def settingText (key value : Bytes) : Bytes := 32 :: 32 :: (key ++ 32 :: equals :: 32 :: (value ++ [newline]))

theorem readConf_newline (rest : Bytes) : readConf (newline :: rest) = readConf rest := by
  simp [readConf, readFrom, sectionsOf, lineOf]

theorem read_blank (words : List Bytes) (rest : Bytes) :
    readFrom .between words (32 :: rest) = readFrom .between words rest := by
  have blank : (32 : UInt8) ≠ newline ∧ (32 : UInt8) ≠ hash ∧ isBlank 32 = true := by decide
  obtain ⟨noNewline, noHash, blank⟩ := blank
  simp [readFrom, noNewline, noHash, blank]

/-- The reader stands before the value. -/
theorem read_key {key : Bytes} (nonempty : key ≠ []) (unquoted : key.head? ≠ some quotes)
    (ordinary : ∀ b ∈ key, isOrdinary b = true) (rest : Bytes) :
    readFrom .between [] (32 :: 32 :: (key ++ 32 :: equals :: 32 :: rest)) =
      readFrom .between [key, [equals]] rest := by
  have blank : (32 : UInt8) ≠ newline ∧ (32 : UInt8) ≠ hash ∧ isBlank 32 = true := by decide
  have sign : equals ≠ newline ∧ equals ≠ hash ∧ isBlank equals = false ∧ equals ≠ backslash ∧ equals ≠ quotes := by
    decide
  obtain ⟨noNewline, noHash, blank⟩ := blank
  obtain ⟨noNewline', noHash', visible, noBackslash, noQuotes⟩ := sign
  rw [read_blank, read_blank]
  cases key with
  | nil => exact absurd rfl nonempty
  | cons b key =>
    rw [List.forall_mem_cons] at ordinary
    rw [List.cons_append, read_start ordinary.1 (by simpa using unquoted), read_ordinary ordinary.2,
      List.singleton_append]
    simp [readFrom, noNewline, noHash, blank, noNewline', noHash', visible, noBackslash, noQuotes]

/-- A key that `RenderUPSConf` writes. -/
structure PlainKey (key : Bytes) : Prop where
  nonempty : key ≠ []
  unquoted : key.head? ≠ some quotes
  unbracketed : key.head? ≠ some 91
  ordinary : ∀ b ∈ key, isOrdinary b = true

theorem lineOf_setting {key : Bytes} (plain : PlainKey key) (more : List Bytes) :
    lineOf (key :: [equals] :: more) = .setting (key, more.head?) := by
  cases more <;> simp [lineOf, plain.unbracketed, valueOf]

/-- A setting is read as it was meant exactly if its value is a plain word. -/
theorem readConf_setting_iff {key value : Bytes} (plain : PlainKey key) (nonempty : value ≠ [])
    (inLine : newline ∉ value) (rest : Bytes) (settings : List Setting) (sections : List Section) :
    readConf (settingText key value ++ rest) = ((key, some value) :: settings, sections) ↔
      PlainWord value ∧ readConf rest = (settings, sections) := by
  have text : settingText key value ++ rest =
      32 :: 32 :: (key ++ 32 :: equals :: 32 :: (value ++ newline :: rest)) := by simp [settingText]
  rw [text, readConf, read_key plain.nonempty plain.unquoted plain.ordinary]
  by_cases word : PlainWord value
  · rw [read_plain word]
    simp [sectionsOf, lineOf_setting plain, word, readConf, Prod.ext_iff]
  · constructor
    · intro same
      obtain ⟨more, lines, read, -⟩ := read_first value [key, [equals]] rest
      rw [read] at same
      simp only [List.cons_append, List.nil_append, sectionsOf, lineOf_setting plain, Prod.mk.injEq,
        List.cons.injEq, true_and] at same
      cases more with
      | nil => simp at same
      | cons w more =>
        have first : w = value := by simpa using same.1.1
        rw [first] at read
        exact absurd (read_wrong nonempty inLine read) word
    · rintro ⟨plain, -⟩
      exact absurd plain word

/-- A header opens a section with the settings behind it. -/
theorem readConf_header {name : Bytes} (ordinary : ∀ b ∈ name, isOrdinary b = true) (rest : Bytes) :
    readConf (91 :: (name ++ 93 :: newline :: rest)) =
      ([], { name, settings := (readConf rest).1 } :: (readConf rest).2) := by
  have word : PlainWord (91 :: (name ++ [93])) := by
    refine .inr ⟨by simp, by simp; decide, ?_⟩
    rw [List.forall_mem_cons, List.forall_mem_append, List.forall_mem_singleton]
    exact ⟨by decide, ordinary, by decide⟩
  have text : 91 :: (name ++ 93 :: newline :: rest) = (91 :: (name ++ [93])) ++ newline :: rest := by simp
  have last : (91 :: (name ++ [93])).getLast? = some 93 := by
    rw [← List.cons_append, List.getLast?_append]
    rfl
  have header : lineOf [91 :: (name ++ [93])] = .header name := by
    simp [lineOf, last]
  rw [text, readConf, read_plain word, List.nil_append, sectionsOf, header]
  rfl

/-! ## The whole text -/

/-- What `parseScannerOutput` guarantees of a device, and `AssignStableNames` of its name. -/
structure Renderable (device : DetectedUPS) : Prop where
  named : device.name ≠ []
  name : ∀ b ∈ device.name, isOrdinary b = true
  driver : device.driver ≠ ""
  port : device.port ≠ ""
  driverLine : '\n' ∉ device.driver.toList
  portLine : '\n' ∉ device.port.toList
  descLine : '\n' ∉ (upsDescription device).toList

theorem newline_not_mem {s : String} (inLine : '\n' ∉ s.toList) : newline ∉ utf8 s := by
  intro member
  have rune : Char.ofNat newline.toNat = '\n' := by decide
  have inside := (mem_encoded_iff (by decide)).mp member
  rw [rune] at inside
  exact inLine inside

theorem utf8_ne_nil {s : String} (some_ : s ≠ "") : utf8 s ≠ [] := by
  intro nothing
  have same : utf8 s = utf8 "" := by
    rw [nothing]
    rfl
  have texts := flatMap_utf8EncodeChar_injective same
  exact some_ (String.toList_inj.mp texts)

/-- The settings of a section, as `renderSection` writes them. -/
def settingsText (device : DetectedUPS) : Bytes :=
  settingText (utf8 "driver") (utf8 device.driver) ++ (settingText (utf8 "port") (utf8 device.port) ++
    if upsDescription device = "" then [] else settingText (utf8 "desc") (utf8 (upsDescription device)))

theorem renderSection_eq {device : DetectedUPS} (named : device.name ≠ []) :
    renderSection device = 91 :: (device.name ++ 93 :: newline :: settingsText device) := by
  have opening : utf8 "[" = [91] := by decide
  have closing : utf8 "]\n" = [93, newline] := by decide
  have ending : utf8 "\n" = [newline] := by decide
  have driver : utf8 "  driver = " = 32 :: 32 :: (utf8 "driver" ++ [32, equals, 32]) := by decide
  have port : utf8 "  port = " = 32 :: 32 :: (utf8 "port" ++ [32, equals, 32]) := by decide
  have desc : utf8 "  desc = " = 32 :: 32 :: (utf8 "desc" ++ [32, equals, 32]) := by decide
  simp only [renderSection, sectionName, named, if_false, settingsText, settingText, utf8_append, opening,
    closing, ending, driver, port, desc]
  split_ifs <;> simp

theorem plainKey_of_all {key : Bytes} (nonempty : key ≠ []) (unquoted : key.head? ≠ some quotes)
    (unbracketed : key.head? ≠ some 91) (ordinary : key.all isOrdinary = true) : PlainKey key :=
  ⟨nonempty, unquoted, unbracketed, List.all_eq_true.mp ordinary⟩

theorem plainKey_driver : PlainKey (utf8 "driver") :=
  plainKey_of_all (by decide) (by decide) (by decide) (by decide)

theorem plainKey_port : PlainKey (utf8 "port") :=
  plainKey_of_all (by decide) (by decide) (by decide) (by decide)

theorem plainKey_desc : PlainKey (utf8 "desc") :=
  plainKey_of_all (by decide) (by decide) (by decide) (by decide)

theorem readConf_settings_iff {device : DetectedUPS} (renderable : Renderable device) (rest : Bytes)
    (sections : List Section) :
    readConf (settingsText device ++ rest) = ((wantedSection device).settings, sections) ↔
      PlainTexts device ∧ readConf rest = ([], sections) := by
  unfold settingsText wantedSection PlainTexts
  dsimp only
  rw [List.append_assoc, readConf_setting_iff plainKey_driver (utf8_ne_nil renderable.driver)
    (newline_not_mem renderable.driverLine), List.append_assoc,
    readConf_setting_iff plainKey_port (utf8_ne_nil renderable.port) (newline_not_mem renderable.portLine),
    and_assoc, and_assoc]
  refine and_congr_right fun _ => and_congr_right fun _ => ?_
  by_cases silent : upsDescription device = ""
  · simp [silent]
  · simp only [silent, if_false, false_or]
    exact readConf_setting_iff plainKey_desc (utf8_ne_nil silent) (newline_not_mem renderable.descLine) _ _ _

/-- One section and what stands behind it. -/
theorem section_iff {device : DetectedUPS} (renderable : Renderable device) (rest : Bytes)
    (sections : List Section) :
    readConf (renderSection device ++ rest) = ([], wantedSection device :: sections) ↔
      PlainTexts device ∧ readConf rest = ([], sections) := by
  have text : renderSection device ++ rest =
      91 :: (device.name ++ 93 :: newline :: (settingsText device ++ rest)) := by
    rw [renderSection_eq renderable.named]
    simp
  rw [text, readConf_header renderable.name, ← readConf_settings_iff renderable]
  simp [wantedSection, Prod.ext_iff]

/-- The name of the first section read is that of the first device. -/
theorem first_name {device : DetectedUPS} (renderable : Renderable device) (rest : Bytes) :
    ∃ settings sections, readConf (renderSection device ++ rest) =
      ([], { name := device.name, settings } :: sections) := by
  have text : renderSection device ++ rest =
      91 :: (device.name ++ 93 :: newline :: (settingsText device ++ rest)) := by
    rw [renderSection_eq renderable.named]
    simp
  rw [text, readConf_header renderable.name]
  exact ⟨_, _, rfl⟩

/-- The sections with blank lines between them. -/
def joined (devices : List DetectedUPS) : Bytes := (utf8 "\n").intercalate (devices.map renderSection)

theorem readConf_joined (device : DetectedUPS) (devices : List DetectedUPS) :
    ∃ rest, joined (device :: devices) = renderSection device ++ rest ∧
      readConf rest = readConf (joined devices) := by
  have ending : utf8 "\n" = [newline] := by decide
  cases devices with
  | nil => exact ⟨[], by simp [joined], rfl⟩
  | cons next devices =>
    refine ⟨newline :: joined (next :: devices), ?_, readConf_newline _⟩
    simp [joined, ending, List.intercalate_cons_cons]

/-- The text is read as sections of these devices, in whatever order, exactly if it is
    read as theirs in the order of the text, and all their texts are plain. -/
theorem joined_iff {devices : List DetectedUPS} (renderable : ∀ device ∈ devices, Renderable device)
    (names : (devices.map (·.name)).Nodup) :
    (∃ order : List DetectedUPS, order.Perm devices ∧ readConf (joined devices) = ([], order.map wantedSection)) ↔
      ∀ device ∈ devices, PlainTexts device := by
  induction devices with
  | nil => exact ⟨fun _ => by simp, fun _ => ⟨[], .nil, rfl⟩⟩
  | cons device devices ih =>
    rw [List.forall_mem_cons] at renderable
    rw [List.map_cons, List.nodup_cons] at names
    obtain ⟨rest, text, read⟩ := readConf_joined device devices
    rw [List.forall_mem_cons, ← ih renderable.2 names.2, text, ← read]
    constructor
    · rintro ⟨order, perm, same⟩
      cases order with
      | nil => exact absurd perm.length_eq (by simp)
      | cons first order =>
        -- the section with the first name can only be that of the first device
        have head : first = device := by
          obtain ⟨settings, sections, found⟩ := first_name renderable.1 rest
          rw [found] at same
          have named : device.name = first.name := by
            simp only [List.map_cons, Prod.mk.injEq, List.cons.injEq] at same
            exact congrArg Section.name same.2.1
          rcases List.mem_cons.mp (perm.mem_iff.mp (List.mem_cons_self (a := first))) with here | later
          · exact here
          · exact absurd (named ▸ List.mem_map_of_mem later) names.1
        subst head
        rw [List.map_cons, section_iff renderable.1] at same
        exact ⟨same.1, order, perm.cons_inv, same.2⟩
    · rintro ⟨plain, order, perm, same⟩
      exact ⟨device :: order, perm.cons _, by rw [List.map_cons, section_iff renderable.1]; exact ⟨plain, same⟩⟩

/-! ## What the parser returns -/

theorem short_of_ok {lines : List (List Char)} {parse : Parse} {devices : List DetectedUPS}
    (parsed : parse.finish lines = .ok devices) : ∀ raw ∈ lines, tooLong raw = false := by
  induction lines generalizing parse with
  | nil => simp
  | cons raw lines ih =>
    have read := congrArg Except.toOption parsed
    rw [finish_cons, toOption_ok, Option.bind_eq_some_iff] at read
    obtain ⟨after, stepped, rest⟩ := read
    rw [List.forall_mem_cons]
    refine ⟨?_, ih (toOption_eq_some rest)⟩
    cases long : tooLong raw with
    | false => rfl
    | true => simp [Parse.step, long, Except.toOption] at stepped

theorem scanLines_inLine (l : List Char) : ∀ raw ∈ scanLines l, '\n' ∉ raw := by
  induction l with
  | nil => simp [scanLines]
  | cons c l ih =>
    by_cases ends : c = '\n'
    · rw [scanLines, if_pos ends, List.forall_mem_cons]
      exact ⟨by simp, ih⟩
    · rw [scanLines, if_neg ends]
      cases lines : scanLines l with
      | nil => simpa using Ne.symm ends
      | cons line rest =>
        rw [lines, List.forall_mem_cons] at ih
        rw [List.forall_mem_cons]
        refine ⟨?_, ih.2⟩
        rw [List.mem_cons, not_or]
        exact ⟨Ne.symm ends, ih.1⟩

theorem mem_of_mapM {α β : Type} {f : α → Option β} {l : List α} {bs : List β} (all : l.mapM f = some bs)
    {b : β} (member : b ∈ bs) : ∃ a ∈ l, f a = some b := by
  induction l generalizing bs with
  | nil =>
    cases all
    simp at member
  | cons a l ih =>
    rw [List.mapM_cons] at all
    cases first : f a with
    | none => simp [first] at all
    | some b' =>
      cases rest : l.mapM f with
      | none => simp [first, rest] at all
      | some bs' =>
        simp only [first, rest, Option.bind_eq_bind, Option.bind_some, Option.pure_def, Option.some.injEq] at all
        subst all
        rcases List.mem_cons.mp member with rfl | later
        · exact ⟨a, List.mem_cons_self, first⟩
        · obtain ⟨a', inside, same⟩ := ih rest later
          exact ⟨a', List.mem_cons_of_mem _ inside, same⟩

/-- Every device comes from lines of the text. -/
theorem parsed_device {text : String} {devices : List DetectedUPS}
    (parsed : parseScannerOutput text = .ok devices) {device : DetectedUPS} (member : device ∈ devices) :
    ∃ body : List (List Char), (∀ raw ∈ body, '\n' ∉ raw) ∧
      buildDetectedUPS (sectionValues [] body) = .ok device := by
  have read := parse_eq_sections (short_of_ok parsed)
  rw [parsed, toOption_ok] at read
  split_ifs at read
  obtain ⟨body, inside, built⟩ := mem_of_mapM read.symm member
  refine ⟨body, ?_, ?_⟩
  · obtain ⟨before, header, after, same, -⟩ := mem_sections_iff.mp inside
    intro raw here
    apply scanLines_inLine text.toList
    rw [same]
    simp [here]
  · unfold sectionDevice at built
    split_ifs at built
    exact toOption_eq_some built

theorem mem_trimScannerValue {value : String} {c : Char} (member : c ∈ (trimScannerValue value).toList) :
    c ∈ value.toList := by
  have unquoted : ∀ l : List Char, c ∈ trimQuotePrefix l → c ∈ l := by
    intro l inside
    unfold trimQuotePrefix at inside
    split at inside
    · exact List.mem_cons_of_mem _ inside
    · exact inside
  have trimmed_ : c ∈ (trimSpace value).toList := by
    apply unquoted
    simp only [trimScannerValue, String.toList_ofList] at member
    split_ifs at member
    · exact List.mem_of_mem_dropLast member
    · exact member
  rw [trimSpace_toList] at trimmed_
  exact mem_of_mem_trimmed trimmed_

theorem mem_of_cutAtEquals {line : String} {cut : String × String} (found : cutAtEquals line = some cut)
    {c : Char} (member : c ∈ cut.2.toList) : c ∈ line.toList := by
  unfold cutAtEquals at found
  split at found
  · cases found
  · rename_i value shape
    have same := congrArg Prod.snd (Option.some.inj found)
    dsimp only at same
    rw [← same, String.toList_ofList] at member
    have inTail : c ∈ line.toList.dropWhile (· ≠ '=') := by
      rw [shape]
      exact List.mem_cons_of_mem _ member
    exact (List.dropWhile_suffix _).subset inTail

theorem entry?_inLine {raw : List Char} (inLine : '\n' ∉ raw) {entry : String × String}
    (read : entry? raw = some entry) : '\n' ∉ entry.2.toList := by
  intro member
  apply inLine
  unfold entry? at read
  split_ifs at read
  obtain ⟨cut, found, rfl⟩ := Option.map_eq_some_iff.mp read
  have inValue := mem_trimScannerValue member
  have inText := mem_of_cutAtEquals found inValue
  rw [lineText_eq] at inText
  exact mem_of_mem_trimmed inText

theorem get_inLine {body : List (List Char)} (inLine : ∀ raw ∈ body, '\n' ∉ raw) (key : String) :
    '\n' ∉ (Values.get (sectionValues [] body) key).toList := by
  have entries : ∀ entry ∈ sectionValues [] body, '\n' ∉ entry.2.toList := by
    intro entry member
    rw [sectionValues, List.append_nil, List.mem_reverse, List.mem_filterMap] at member
    obtain ⟨raw, inside, read⟩ := member
    exact entry?_inLine (inLine raw inside) read
  unfold Values.get
  cases found : (sectionValues [] body).lookup key with
  | none => simp
  | some value =>
    obtain ⟨before, after, same, -⟩ := List.lookup_eq_some_iff.mp found
    exact entries (key, value) (by simp [same])

theorem buildDetectedUPS_ok {values : Values} {device : DetectedUPS}
    (built : buildDetectedUPS values = .ok device) :
    device.driver = values.get "driver" ∧ device.port = values.get "port" ∧
      device.vendor = values.get "vendor" ∧ device.product = values.get "product" ∧
      device.driver ≠ "" ∧ device.port ≠ "" := by
  unfold buildDetectedUPS at built
  dsimp only at built
  split_ifs at built with driver port
  cases built
  exact ⟨rfl, rfl, rfl, rfl, driver, port⟩

/-- The description is made of the vendor and the product. -/
theorem mem_upsDescription {device : DetectedUPS} {c : Char} (other : c ≠ ' ')
    (member : c ∈ (upsDescription device).toList) :
    c ∈ device.vendor.toList ∨ c ∈ device.product.toList := by
  unfold upsDescription at member
  rw [trimSpace_toList] at member
  have inside := mem_of_mem_trimmed member
  by_cases vendor : device.vendor = "" <;> by_cases product : device.product = "" <;>
    simp [vendor, product, other] at inside ⊢ <;> tauto

/-! ## Names -/

/-- Generated names have no other bytes, digits of all scripts cut anywhere included. -/
def NameBytes (name : Bytes) : Prop := ∀ b ∈ name, isNameByte b = true ∨ ¬ IsAscii b

theorem ordinary_of_nameBytes {name : Bytes} (bytes : NameBytes name) :
    ∀ b ∈ name, isOrdinary b = true := by
  intro b member
  rw [isOrdinary_iff]
  have facts : b ≠ hash ∧ b ≠ equals ∧ b ≠ backslash ∧ isBlank b = false := by
    rcases bytes b member with named | large
    · simp only [isNameByte, Bool.or_eq_true, Bool.and_eq_true, decide_eq_true_eq] at named
      refine ⟨?_, ?_, ?_, ?_⟩
      · rintro rfl
        revert named
        decide
      · rintro rfl
        revert named
        decide
      · rintro rfl
        revert named
        decide
      · rw [Bool.eq_false_iff]
        simp only [isBlank, ne_eq, Bool.or_eq_true, decide_eq_true_eq, Bool.and_eq_true]
        rintro (rfl | blank)
        · revert named
          decide
        · rcases named with (range | range) | rfl
          · omega
          · omega
          · revert blank
            decide
    · unfold IsAscii at large
      refine ⟨?_, ?_, ?_, ?_⟩
      · rintro rfl
        exact large (by decide)
      · rintro rfl
        exact large (by decide)
      · rintro rfl
        exact large (by decide)
      · rw [Bool.eq_false_iff]
        simp only [isBlank, ne_eq, Bool.or_eq_true, decide_eq_true_eq, Bool.and_eq_true]
        rintro (rfl | blank)
        · exact large (by decide)
        · omega
  exact ⟨facts.2.2.2, facts.1, facts.2.1, facts.2.2.1⟩

theorem nameBytes_normalizeUPSName (source : String) : NameBytes (normalizeUPSName source) := by
  by_cases nothing : keptRunes source = []
  · exact fun b member => .inl ((((normalizeUPSName_wellNamed_iff source).mpr (by simp [nothing])).bytes b member))
  · rw [normalizeUPSName_of_kept nothing]
    intro b member
    have letters : ∀ b ∈ utf8 "ups-", isNameByte b = true := List.all_eq_true.mp (by decide)
    rcases List.mem_append.mp member with front | rest
    · exact .inl (letters b front)
    · by_cases small : IsAscii b
      · have kept := (mem_encoded_iff small).mp (List.mem_of_mem_take rest)
        exact .inl (isNameByte_of_isNameRune small (List.mem_filter.mp kept).2)
      · exact .inr small

theorem nameBytes_candidate {base : Bytes} (bytes : NameBytes base) (i : Nat) : NameBytes (candidate base i) := by
  cases i with
  | zero => exact bytes
  | succ i =>
    obtain ⟨n, -, made⟩ := candidate_succ base i
    rw [made]
    intro b member
    rcases List.mem_append.mp member with kept | ends
    · exact bytes b (List.mem_of_mem_take kept)
    · rcases List.mem_cons.mp ends with rfl | digit
      · exact .inl (by decide)
      · exact .inl (isNameByte_of_mem_suffixDigits digit)

theorem nameBytes_namesOf {m : NameMap} (held : ∀ key, NameBytes (m.get key)) {used : List Bytes}
    {devices : List DetectedUPS} : ∀ name ∈ namesOf m used devices, NameBytes name := by
  induction devices generalizing used with
  | nil => simp [namesOf]
  | cons device devices ih =>
    rw [namesOf, List.forall_mem_cons]
    refine ⟨?_, ih⟩
    have generated : NameBytes (nextAvailableUPSName (stableNameSource device) used) := by
      obtain ⟨i, -, found, -⟩ := nextAvailableUPSName_eq (stableNameSource device) used
      rw [found]
      exact nameBytes_candidate (nameBytes_normalizeUPSName _) i
    unfold assignName
    dsimp only
    split_ifs
    · exact generated
    · exact generated
    · exact held _

theorem nameBytes_mapAfter (scans : List (List DetectedUPS)) : ∀ key, NameBytes ((mapAfter scans).get key) := by
  induction scans using List.reverseRecOn with
  | nil =>
    intro key b member
    simp [mapAfter] at member
  | append_singleton scans devices ih =>
    rw [mapAfter_append]
    intro key
    by_cases nothing : (assignStableNames devices (mapAfter scans)).2.encoded.get key = []
    · rw [nothing]
      intro b member
      simp at member
    · obtain ⟨entry, inside, same⟩ := List.mem_map.mp (NameMap.mem_entries nothing)
      obtain ⟨-, -, -, given⟩ := mem_nextMap inside
      have bytes := nameBytes_namesOf ih _ given
      have value : (assignStableNames devices (mapAfter scans)).2.encoded.get key = utf8 (textOf entry.2) :=
        (congrArg Prod.snd same).symm
      rw [value]
      intro b member
      by_cases small : IsAscii b
      · exact bytes b (mem_of_mem_textOf small member)
      · exact .inr small

theorem renderable_of_parsed {text : String} {devices : List DetectedUPS}
    (parsed : parseScannerOutput text = .ok devices) (scans : List (List DetectedUPS)) :
    ∀ device ∈ (assignStableNames devices (mapAfter scans)).1, Renderable device := by
  intro device member
  have given : device.name ∈ namesOf (mapAfter scans) [] devices := by
    rw [← names_assignStableNames]
    exact List.mem_map_of_mem member
  rw [assignStableNames_eq] at member
  obtain ⟨⟨source, name⟩, inside, rfl⟩ : ∃ pair ∈ devices.zip (namesOf (mapAfter scans) [] devices),
      withName pair.1 pair.2 = device := by
    rw [← List.map_uncurry_zip_eq_zipWith] at member
    exact List.mem_map.mp member
  obtain ⟨body, inLine, built⟩ := parsed_device parsed (List.of_mem_zip inside).1
  obtain ⟨driver, port, vendor, product, hasDriver, hasPort⟩ := buildDetectedUPS_ok built
  constructor
  · exact ((namesOf_spec _ _ _).1 _ given).1
  · exact ordinary_of_nameBytes (nameBytes_namesOf (nameBytes_mapAfter scans) _ given)
  · exact hasDriver
  · exact hasPort
  · exact driver ▸ get_inLine inLine "driver"
  · exact port ▸ get_inLine inLine "port"
  · intro member
    have described : upsDescription (withName source name) = upsDescription source := rfl
    rw [described] at member
    rcases mem_upsDescription (by decide) member with inVendor | inProduct
    · exact get_inLine inLine "vendor" (vendor ▸ inVendor)
    · exact get_inLine inLine "product" (product ▸ inProduct)

/-- NUT reads from the rendered text one section for each device, with its name, driver,
    port and description, exactly if each of these texts is one plain word. -/
theorem upsConf_read_iff {text : String} {devices : List DetectedUPS}
    (parsed : parseScannerOutput text = .ok devices) (scans : List (List DetectedUPS)) :
    (∃ order : List DetectedUPS, order.Perm (assignStableNames devices (mapAfter scans)).1 ∧
        readConf (renderUPSConf (assignStableNames devices (mapAfter scans)).1) =
          ([], order.map wantedSection)) ↔
      ∀ device ∈ devices, PlainTexts device := by
  let assigned := (assignStableNames devices (mapAfter scans)).1
  let sorted := assigned.mergeSort fun a b => !decide (sectionOrder b < sectionOrder a)
  have perm : sorted.Perm assigned := List.mergeSort_perm _ _
  have names : (sorted.map (·.name)).Nodup := by
    rw [(perm.map _).nodup_iff, names_assignStableNames]
    exact (namesOf_spec _ _ _).2
  have renderable : ∀ device ∈ sorted, Renderable device :=
    fun device member => renderable_of_parsed parsed scans device (perm.mem_iff.mp member)
  have plain : (∀ device ∈ sorted, PlainTexts device) ↔ ∀ device ∈ devices, PlainTexts device := by
    simp only [perm.mem_iff]
    change (∀ device ∈ (assignStableNames devices (mapAfter scans)).1, PlainTexts device) ↔ _
    rw [assignStableNames_eq, ← List.map_uncurry_zip_eq_zipWith]
    constructor
    · intro all device member
      have firsts : (devices.zip (namesOf (mapAfter scans) [] devices)).map Prod.fst = devices :=
        List.map_fst_zip (by simp)
      rw [← firsts] at member
      obtain ⟨pair, inside, rfl⟩ := List.mem_map.mp member
      exact all (withName pair.1 pair.2) (List.mem_map_of_mem inside)
    · intro all device member
      obtain ⟨⟨source, name⟩, inside, rfl⟩ := List.mem_map.mp member
      exact all source (List.of_mem_zip inside).1
  rw [← plain, ← joined_iff renderable names]
  constructor
  · rintro ⟨order, same, read⟩
    exact ⟨order, same.trans perm.symm, read⟩
  · rintro ⟨order, same, read⟩
    exact ⟨order, same.trans perm, read⟩

/-- The output of `nut-scanner` for a UPS whose product name has a blank. -/
def backUPS : String :=
  "[nutdev-usb0]\ndriver = \"usbhid-ups\"\nport = \"auto\"\nproduct = \"Back-UPS 900M\"\n" ++
    "serial = \"3B1519\"\n"

def backUPSDevice : DetectedUPS :=
  { driver := "usbhid-ups", port := "auto", product := "Back-UPS 900M", serial := "3B1519" }

theorem backUPS_parsed : parseScannerOutput backUPS = .ok [backUPSDevice] := by decide +kernel

/-- A device without a vendor, whose product is one word. -/
theorem upsConf_read_iff_of_word :
    ∃ order : List DetectedUPS,
      order.Perm (assignStableNames [{ shownDevice with product := "Smart-UPS" }] (mapAfter [])).1 ∧
        readConf (renderUPSConf
          (assignStableNames [{ shownDevice with product := "Smart-UPS" }] (mapAfter [])).1) =
          ([], order.map wantedSection) :=
  (upsConf_read_iff (show parseScannerOutput ("[nutdev1]\ndriver = \"usbhid-ups\"\nport = \"auto\"\n" ++
    "serial = \"A-1 [x]\"\nproduct = \"Smart-UPS\"\n") = .ok [{ shownDevice with product := "Smart-UPS" }] by
      decide +kernel) []).mpr (by decide)

/-- NUT reads `Back-UPS` as the description of the UPS. -/
theorem description_truncated :
    ¬ ∀ (text : String) (devices : List DetectedUPS) (scans : List (List DetectedUPS)),
      parseScannerOutput text = .ok devices →
      ∃ order : List DetectedUPS, order.Perm (assignStableNames devices (mapAfter scans)).1 ∧
        readConf (renderUPSConf (assignStableNames devices (mapAfter scans)).1) =
          ([], order.map wantedSection) := by
  intro claim
  obtain ⟨order, perm, read⟩ := claim _ _ [] backUPS_parsed
  have one : (assignStableNames [backUPSDevice] (mapAfter [])).1 =
      [{ backUPSDevice with name := utf8 "ups-3b1519" }] := by decide +kernel
  rw [one] at perm read
  rw [List.perm_singleton.mp perm] at read
  revert read
  decide +kernel

end Strom.Nutconf
