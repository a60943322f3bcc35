import Mathlib.Data.List.TakeWhile
import Strom.Go.Ascii
import Strom.Nutconf.Scanner

/-!
# What `parseScannerOutput` reads and rejects (`scanner.go`)

`Rendered` says that a text shows devices in the format of `nut-scanner`, `Stray` and
`SectionOf` what of a text can be wrong.  `scanner_spec` says that rendered devices are
read back, and which texts are errors.
-/

namespace Strom.Nutconf

open Strom.Go

/-! ## The format -/

/-- `key = "value"`, with blanks anywhere between and the key in any letter case. -/
def EntryLine (key value : String) (raw : List Char) : Prop :=
  ∃ left gap trail, raw = left ++ '=' :: (gap ++ '"' :: (value.toList ++ '"' :: trail)) ∧
    '=' ∉ left ∧ toLower (trimSpace (String.ofList left)) = key ∧
    (∀ c ∈ gap, isSpaceRune c = true) ∧ ∀ c ∈ trail, isSpaceRune c = true

/-- The keys that `buildDetectedUPS` reads, with the device's values. -/
def DetectedUPS.fields (device : DetectedUPS) : List (String × String) :=
  [("driver", device.driver), ("port", device.port), ("vendorid", device.vendorID),
    ("productid", device.productID), ("product", device.product), ("serial", device.serial),
    ("vendor", device.vendor), ("bus", device.bus)]

/-- What a scanned device has. -/
structure Scanned (device : DetectedUPS) : Prop where
  unnamed : device.name = []
  driver : device.driver ≠ ""
  port : device.port ≠ ""
  identity : device.serial ≠ "" ∨ device.bus ≠ "" ∧ device.vendorID ≠ "" ∧ device.productID ≠ ""

/-- A header and the lines below it show this device: blank and comment lines, its
    fields in any order, and entries of other keys. -/
structure RendersSection (device : DetectedUPS) (header : List Char) (body : List (List Char)) : Prop where
  header : isHeader (lineText header) = true
  lines : ∀ raw ∈ body, isIgnored (lineText raw) = true ∨ ∃ key value, EntryLine key value raw ∧
    ((key, value) ∈ device.fields ∨ key ∉ device.fields.map Prod.fst)
  complete : ∀ entry ∈ device.fields, entry.2 ≠ "" → ∃ raw ∈ body, EntryLine entry.1 entry.2 raw

inductive RendersSections : List DetectedUPS → List (List Char) → Prop where
  | nil : RendersSections [] []
  | cons {device : DetectedUPS} {devices : List DetectedUPS} {header : List Char}
      {body lines : List (List Char)} : RendersSection device header body →
      RendersSections devices lines → RendersSections (device :: devices) (header :: body ++ lines)

/-- The text of these lines, with or without a newline at its end. -/
def TextOf (lines : List (List Char)) (text : String) : Prop :=
  (∀ raw ∈ lines, '\n' ∉ raw) ∧
    (text.toList = lines.flatMap (· ++ ['\n']) ∨
      ∃ front last, lines = front ++ [last] ∧ last ≠ [] ∧
        text.toList = front.flatMap (· ++ ['\n']) ++ last)

/-- The text shows these devices, below any blank and comment lines. -/
def Rendered (devices : List DetectedUPS) (text : String) : Prop :=
  ∃ preamble lines, (∀ raw ∈ preamble, isIgnored (lineText raw) = true) ∧
    RendersSections devices lines ∧ TextOf (preamble ++ lines) text

/-! ## Lines of a text -/

theorem scanLines_append {raw : List Char} (plain : '\n' ∉ raw) (rest : List Char) :
    scanLines (raw ++ '\n' :: rest) = raw :: scanLines rest := by
  induction raw with
  | nil => simp [scanLines]
  | cons c raw ih =>
    simp only [List.mem_cons, not_or] at plain
    simp [scanLines, Ne.symm plain.1, ih plain.2]

theorem scanLines_last {raw : List Char} (plain : '\n' ∉ raw) (some_ : raw ≠ []) :
    scanLines raw = [raw] := by
  induction raw with
  | nil => exact absurd rfl some_
  | cons c raw ih =>
    simp only [List.mem_cons, not_or] at plain
    cases raw with
    | nil => simp [scanLines, Ne.symm plain.1]
    | cons d raw =>
      rw [scanLines, ih plain.2 (by simp)]
      simp [Ne.symm plain.1]

theorem scanLines_flatMap {lines : List (List Char)} (plain : ∀ raw ∈ lines, '\n' ∉ raw)
    (rest : List Char) :
    scanLines (lines.flatMap (· ++ ['\n']) ++ rest) = lines ++ scanLines rest := by
  induction lines with
  | nil => rfl
  | cons raw lines ih =>
    rw [List.forall_mem_cons] at plain
    rw [List.flatMap_cons, List.append_assoc, List.append_assoc, List.singleton_append,
      scanLines_append plain.1, ih plain.2, List.cons_append]

theorem TextOf.scanLines {lines : List (List Char)} {text : String} (shows : TextOf lines text) :
    scanLines text.toList = lines := by
  obtain ⟨plain, same | ⟨front, last, rfl, some_, same⟩⟩ := shows
  · have read := scanLines_flatMap plain []
    rw [List.append_nil] at read
    rw [same, read]
    simp [Nutconf.scanLines]
  · rw [List.forall_mem_append, List.forall_mem_singleton] at plain
    rw [same, scanLines_flatMap plain.1, scanLines_last plain.2 some_]

/-! ## One entry -/

theorem trimmed_append_blanks {p : Char → Bool} {trail : List Char} (blank : ∀ c ∈ trail, p c = true)
    (l : List Char) : trimmed p (l ++ trail) = trimmed p l := by
  induction trail using List.reverseRecOn with
  | nil => rw [List.append_nil]
  | append_singleton trail c ih =>
    rw [List.forall_mem_append, List.forall_mem_singleton] at blank
    rw [← ih blank.1, ← List.append_assoc]
    generalize l ++ trail = m
    -- the last blank goes with the blanks at the end, or with those of a blank text
    unfold trimmed
    by_cases all : ∀ d ∈ m, p d = true
    · have none : (m ++ [c]).dropWhile p = [] := by
        rw [List.dropWhile_eq_nil_iff]
        intro d member
        rcases List.mem_append.mp member with inside | inside
        · exact all d inside
        · simpa [List.mem_singleton.mp inside] using blank.2
      have none' : m.dropWhile p = [] := List.dropWhile_eq_nil_iff.mpr all
      rw [none, none']
    · have kept : (m ++ [c]).dropWhile p = m.dropWhile p ++ [c] := by
        rw [List.dropWhile_append]
        have some_ : (m.dropWhile p).isEmpty = false := by
          rw [List.isEmpty_eq_false_iff, Ne, List.dropWhile_eq_nil_iff]
          exact all
        simp [some_]
      rw [kept]
      simp [blank.2]

theorem lineText_eq (raw : List Char) : (lineText raw).toList = trimmed isSpaceRune raw := by
  unfold lineText
  rw [trimSpace_toList, String.toList_ofList]
  unfold dropCR
  split_ifs with last
  · obtain ⟨front, rfl⟩ := List.getLast?_eq_some_iff.mp last
    rw [List.dropLast_concat, trimmed_append_blanks (List.forall_mem_singleton.mpr (by decide))]
  · rfl

theorem trimmed_dropWhile {p : Char → Bool} (l : List Char) : trimmed p (l.dropWhile p) = trimmed p l := by
  unfold trimmed
  rw [dropWhile_eq_self (head?_dropWhile l)]

theorem dropWhile_append_stop {p : Char → Bool} {c : Char} (stop : p c = false) (l rest : List Char) :
    (l ++ c :: rest).dropWhile p = l.dropWhile p ++ c :: rest := by
  rw [List.dropWhile_append]
  split_ifs with nothing
  · rw [List.isEmpty_iff.mp nothing, List.dropWhile_cons_of_neg (by simp [stop]), List.nil_append]
  · rfl

theorem cutAtEquals_eq {line : String} {front value : List Char} (shape : line.toList = front ++ '=' :: value)
    (plain : '=' ∉ front) : cutAtEquals line = some (String.ofList front, String.ofList value) := by
  have other : ∀ c ∈ front, (decide (c ≠ '=')) = true := by
    intro c member
    simp only [decide_eq_true_eq]
    rintro rfl
    exact plain member
  unfold cutAtEquals
  rw [shape, List.dropWhile_append_of_pos other, List.takeWhile_append_of_pos other]
  simp

theorem trimScannerValue_eq {gap value : List Char} (blank : ∀ c ∈ gap, isSpaceRune c = true) :
    trimScannerValue (String.ofList (gap ++ '"' :: (value ++ ['"']))) = String.ofList value := by
  have quoted : (trimSpace (String.ofList (gap ++ '"' :: (value ++ ['"'])))).toList =
      '"' :: (value ++ ['"']) := by
    rw [trimSpace_toList, String.toList_ofList, ← trimmed_dropWhile, List.dropWhile_append_of_pos blank,
      trimmed_dropWhile]
    apply trimmed_eq_self
    · intro c first
      cases first
      decide
    · intro c last
      rw [← List.cons_append, List.getLast?_append] at last
      cases last
      decide
  unfold trimScannerValue
  rw [quoted]
  simp [trimQuotePrefix]

/-- The shape of an entry, its closing quote apart. -/
theorem quote_last (front gap value : List Char) :
    front ++ '=' :: (gap ++ '"' :: (value ++ ['"'])) = front ++ '=' :: (gap ++ '"' :: value) ++ ['"'] := by
  simp

section Entry

variable {key value : String} {raw : List Char}

/-- What `parseScannerOutput` sees of an entry. -/
theorem EntryLine.text (entry : EntryLine key value raw) :
    ∃ front gap, (lineText raw).toList = front ++ '=' :: (gap ++ '"' :: (value.toList ++ ['"'])) ∧
      '=' ∉ front ∧ toLower (trimSpace (String.ofList front)) = key ∧
      (∀ c ∈ gap, isSpaceRune c = true) ∧ ∀ c ∈ front.head?, isSpaceRune c = false := by
  obtain ⟨left, gap, trail, rfl, plain, named, blank, blank'⟩ := entry
  refine ⟨left.dropWhile isSpaceRune, gap, ?_, ?_, ?_, blank, head?_dropWhile left⟩
  · have split : left ++ '=' :: (gap ++ '"' :: (value.toList ++ '"' :: trail)) =
        left ++ '=' :: (gap ++ '"' :: (value.toList ++ ['"'])) ++ trail := by simp
    rw [lineText_eq, split, trimmed_append_blanks blank', ← trimmed_dropWhile,
      dropWhile_append_stop (by decide)]
    apply trimmed_eq_self
    · intro c first
      rw [← dropWhile_append_stop (by decide)] at first
      exact head?_dropWhile _ c first
    · intro c last
      rw [quote_last, List.getLast?_append] at last
      cases last
      decide
  · intro member
    exact plain ((List.dropWhile_suffix _).subset member)
  · have same : trimSpace (String.ofList (left.dropWhile isSpaceRune)) = trimSpace (String.ofList left) := by
      apply String.toList_inj.mp
      rw [trimSpace_toList, trimSpace_toList, String.toList_ofList, String.toList_ofList, trimmed_dropWhile]
    rw [same, named]

theorem EntryLine.not_header (entry : EntryLine key value raw) : isHeader (lineText raw) = false := by
  obtain ⟨front, gap, shape, -⟩ := entry.text
  rw [Bool.eq_false_iff, isHeader, Ne, Bool.and_eq_true]
  rintro ⟨-, bracket⟩
  have ends : "]".toList <:+ (lineText raw).toList := List.isSuffixOf_iff_suffix.mp bracket
  obtain ⟨before, same⟩ := ends
  rw [shape, quote_last] at same
  have last := (List.append_inj' same rfl).2
  revert last
  decide

theorem EntryLine.entry? (entry : EntryLine key value raw) (kept : isIgnored (lineText raw) = false) :
    entry? raw = some (key, value) := by
  have other := entry.not_header
  obtain ⟨front, gap, shape, plain, named, blank, -⟩ := entry.text
  simp only [Nutconf.entry?, kept, other, Bool.or_false, Bool.false_eq_true, if_false,
    cutAtEquals_eq shape plain, Option.map_some, trimScannerValue_eq blank, named, String.ofList_toList]

/-- A line whose key is that of a field is no comment. -/
theorem EntryLine.not_ignored (entry : EntryLine key value raw)
    (letters : ∀ c ∈ key.toList.head?, c ≠ '#' ∧ c ≠ ';') : isIgnored (lineText raw) = false := by
  obtain ⟨front, gap, shape, -, named, -, first⟩ := entry.text
  have comment : ∀ c ∈ (lineText raw).toList.head?, c ≠ '#' ∧ c ≠ ';' := by
    intro c here
    cases front with
    | nil =>
      rw [shape] at here
      cases here
      decide
    | cons d front =>
      rw [shape] at here
      cases here
      -- the key begins with this character in lower case
      have begins : (toLower (trimSpace (String.ofList (c :: front)))).toList.head? = some (toLowerRune c) := by
        have kept : (c :: front).dropWhile isSpaceRune = c :: front := dropWhile_eq_self first
        have head : (trimmed isSpaceRune (c :: front)).head? = some c := by
          have starts := prefix_of_trimmed (p := isSpaceRune) (c :: front)
          rw [kept] at starts
          cases text : trimmed isSpaceRune (c :: front) with
          | nil =>
            have last := List.dropWhile_eq_nil_iff.mp (List.reverse_eq_nil_iff.mp text)
            rw [kept] at last
            have blank := last c (by simp)
            rw [first c rfl] at blank
            cases blank
          | cons e rest =>
            rw [text] at starts
            obtain ⟨more, same⟩ := starts
            cases same
            rfl
        simp only [toLower, String.toList_ofList, trimSpace_toList, List.head?_map, head, Option.map_some]
      rw [named] at begins
      have lower := letters _ begins
      constructor
      · rintro rfl
        exact lower.1 (by decide)
      · rintro rfl
        exact lower.2 (by decide)
  rw [Bool.eq_false_iff, Ne, isIgnored_iff]
  rintro (empty | here | here)
  · rw [empty] at shape
    simp at shape
  · exact (comment _ here).1 rfl
  · exact (comment _ here).2 rfl

end Entry

/-! ## Rendered devices -/

theorem get_eq {values : Values} {key value : String}
    (same : ∀ entry ∈ values, entry.1 = key → entry.2 = value)
    (held : value ≠ "" → ∃ entry ∈ values, entry.1 = key) : values.get key = value := by
  unfold Values.get
  induction values with
  | nil =>
    by_contra other
    simp only [List.lookup_nil, Option.getD_none] at other
    obtain ⟨entry, member, -⟩ := held (Ne.symm other)
    simp at member
  | cons first values ih =>
    obtain ⟨k, v⟩ := first
    rw [List.forall_mem_cons] at same
    by_cases here : key = k
    · subst here
      have first : v = value := same.1 rfl
      simp [first]
    · have off : (key == k) = false := beq_false_of_ne here
      rw [List.lookup_cons, off]
      apply ih same.2
      intro some_
      obtain ⟨entry, member, named⟩ := held some_
      rcases List.mem_cons.mp member with rfl | member
      · exact absurd named.symm here
      · exact ⟨entry, member, named⟩

/-- The keys of a device's fields are pairwise different and begin with a letter. -/
theorem fields_keys (device : DetectedUPS) :
    (device.fields.map Prod.fst).Nodup ∧
      ∀ entry ∈ device.fields, ∀ c ∈ entry.1.toList.head?, c ≠ '#' ∧ c ≠ ';' := by
  constructor
  · simp only [DetectedUPS.fields, List.map_cons, List.map_nil]
    decide
  · simp [DetectedUPS.fields]

section Rendered

variable {device : DetectedUPS} {header : List Char} {body : List (List Char)}
  (renders : RendersSection device header body)

include renders

theorem RendersSection.not_header {raw : List Char} (member : raw ∈ body) :
    isHeader (lineText raw) = false := by
  rcases renders.lines raw member with ignored | ⟨key, value, entry, -⟩
  · rw [Bool.eq_false_iff]
    intro header
    rw [not_ignored_of_header header] at ignored
    cases ignored
  · exact entry.not_header

theorem RendersSection.not_malformed {raw : List Char} (member : raw ∈ body) : malformed raw = false := by
  rcases renders.lines raw member with ignored | ⟨key, value, entry, -⟩
  · simp [malformed, ignored]
  · cases kept : isIgnored (lineText raw) with
    | true => simp [malformed, kept]
    | false =>
      have read := entry.entry? kept
      simp only [Nutconf.entry?, kept, entry.not_header, Bool.or_false, Bool.false_eq_true, if_false,
        Option.map_eq_some_iff] at read
      obtain ⟨cut, found, -⟩ := read
      simp [malformed, found]

/-- The entries of the section give each field its value. -/
theorem RendersSection.get {key value : String} (member : (key, value) ∈ device.fields) :
    Values.get (sectionValues [] body) key = value := by
  obtain ⟨nodup, letters⟩ := fields_keys device
  unfold sectionValues
  rw [List.append_nil]
  apply get_eq
  · rintro ⟨k, v⟩ inside rfl
    obtain ⟨raw, inBody, read⟩ := List.mem_filterMap.mp (List.mem_reverse.mp inside)
    rcases renders.lines raw inBody with ignored | ⟨key', value', entry, place⟩
    · simp [Nutconf.entry?, ignored] at read
    · cases kept : isIgnored (lineText raw) with
      | true => simp [Nutconf.entry?, kept] at read
      | false =>
        rw [entry.entry? kept] at read
        cases read
        rcases place with field | other
        · have same := List.inj_on_of_nodup_map nodup field member rfl
          exact congrArg Prod.snd same
        · exact absurd (List.mem_map_of_mem member) other
  · intro some_
    obtain ⟨raw, inBody, entry⟩ := renders.complete _ member some_
    refine ⟨(key, value), ?_, rfl⟩
    apply List.mem_reverse.mpr
    exact List.mem_filterMap.mpr ⟨raw, inBody, entry.entry? (entry.not_ignored (letters _ member))⟩

theorem RendersSection.read (scanned : Scanned device) : sectionDevice [] body = some device := by
  have clean : body.any malformed = false := by
    rw [List.any_eq_false]
    intro raw member
    rw [renders.not_malformed member]
    decide
  have driver : Values.get (sectionValues [] body) "driver" = device.driver := renders.get (by simp [DetectedUPS.fields])
  have port : Values.get (sectionValues [] body) "port" = device.port := renders.get (by simp [DetectedUPS.fields])
  have vendorID : Values.get (sectionValues [] body) "vendorid" = device.vendorID := renders.get (by simp [DetectedUPS.fields])
  have productID : Values.get (sectionValues [] body) "productid" = device.productID := renders.get (by simp [DetectedUPS.fields])
  have product : Values.get (sectionValues [] body) "product" = device.product := renders.get (by simp [DetectedUPS.fields])
  have serial : Values.get (sectionValues [] body) "serial" = device.serial := renders.get (by simp [DetectedUPS.fields])
  have vendor : Values.get (sectionValues [] body) "vendor" = device.vendor := renders.get (by simp [DetectedUPS.fields])
  have bus : Values.get (sectionValues [] body) "bus" = device.bus := renders.get (by simp [DetectedUPS.fields])
  have identified : ¬ (device.serial = "" ∧ ((device.bus = "" ∨ device.vendorID = "") ∨ device.productID = "")) := by
    have := scanned.identity
    tauto
  have unnamed := scanned.unnamed
  simp only [sectionDevice, clean, Bool.false_eq_true, if_false, buildDetectedUPS, driver, port, vendorID,
    productID, product, serial, vendor, bus, scanned.driver, scanned.port, Bool.and_eq_true,
    decide_eq_true_eq, Bool.or_eq_true, identified]
  cases device
  subst unnamed
  rfl

end Rendered

theorem splitSections_append {front : List (List Char)}
    (others : ∀ raw ∈ front, isHeader (lineText raw) = false) (lines : List (List Char)) :
    splitSections (front ++ lines) = (front ++ (splitSections lines).1, (splitSections lines).2) := by
  induction front with
  | nil => rfl
  | cons raw front ih =>
    rw [List.forall_mem_cons] at others
    rw [List.cons_append, splitSections_other others.1, ih others.2]
    rfl

theorem splitSections_rendered {devices : List DetectedUPS} {lines : List (List Char)}
    (renders : RendersSections devices lines) (scanned : ∀ device ∈ devices, Scanned device) :
    (splitSections lines).1 = [] ∧
      (splitSections lines).2.mapM (sectionDevice []) = some devices := by
  induction renders with
  | nil => exact ⟨rfl, rfl⟩
  | @cons device devices header body lines first rest ih =>
    rw [List.forall_mem_cons] at scanned
    obtain ⟨nothing, later⟩ := ih scanned.2
    have read := first.read scanned.1
    rw [List.cons_append, splitSections_header first.header,
      splitSections_append (fun raw => first.not_header) lines, nothing, List.append_nil]
    refine ⟨rfl, ?_⟩
    simp [List.mapM_cons, read, later]

theorem toOption_eq_some {ε α : Type} {x : Except ε α} {a : α} (same : x.toOption = some a) : x = .ok a := by
  cases x with
  | error e => cases same
  | ok b =>
    cases same
    rfl

theorem parse_rendered {devices : List DetectedUPS} {text : String}
    (scanned : ∀ device ∈ devices, Scanned device) (rendered : Rendered devices text)
    (short : ∀ raw ∈ scanLines text.toList, tooLong raw = false) :
    parseScannerOutput text = .ok devices := by
  obtain ⟨preamble, lines, ignored, renders, shows⟩ := rendered
  obtain ⟨nothing, read⟩ := splitSections_rendered renders scanned
  have others : ∀ raw ∈ preamble, isHeader (lineText raw) = false := by
    intro raw member
    rw [Bool.eq_false_iff]
    intro header
    have blank := ignored raw member
    rw [not_ignored_of_header header] at blank
    cases blank
  apply toOption_eq_some
  rw [parse_eq_sections short, shows.scanLines, splitSections_append others, nothing, read, List.append_nil,
    if_pos (List.all_eq_true.mpr ignored)]

/-! ## Errors -/

/-- An entry before the first header, or a line without `=` that is none of the others. -/
def Stray (lines : List (List Char)) : Prop :=
  (∃ before raw after, lines = before ++ raw :: after ∧ (∀ l ∈ before, isHeader (lineText l) = false) ∧
      isIgnored (lineText raw) = false ∧ isHeader (lineText raw) = false) ∨
    ∃ raw ∈ lines, isIgnored (lineText raw) = false ∧ isHeader (lineText raw) = false ∧
      '=' ∉ (lineText raw).toList

/-- These lines stand below a header, up to the next one or the end. -/
def SectionOf (lines body : List (List Char)) : Prop :=
  ∃ before header after, lines = before ++ header :: (body ++ after) ∧ isHeader (lineText header) = true ∧
    (∀ raw ∈ body, isHeader (lineText raw) = false) ∧
    ∀ raw ∈ after.head?, isHeader (lineText raw) = true

/-- The value that a section's last entry for the key has, empty without one. -/
def fieldOf (body : List (List Char)) (key : String) : String := Values.get (sectionValues [] body) key

/-- The section has what a device needs. -/
def Complete (body : List (List Char)) : Prop :=
  fieldOf body "driver" ≠ "" ∧ fieldOf body "port" ≠ "" ∧
    (fieldOf body "serial" ≠ "" ∨
      fieldOf body "bus" ≠ "" ∧ fieldOf body "vendorid" ≠ "" ∧ fieldOf body "productid" ≠ "")

theorem cutAtEquals_eq_none_iff (line : String) : cutAtEquals line = none ↔ '=' ∉ line.toList := by
  have found : line.toList.dropWhile (· ≠ '=') = [] ↔ '=' ∉ line.toList := by
    rw [List.dropWhile_eq_nil_iff]
    constructor
    · intro other member
      simpa using other _ member
    · intro absent c member
      simp only [decide_eq_true_eq]
      rintro rfl
      exact absent member
  unfold cutAtEquals
  rw [← found]
  cases line.toList.dropWhile (· ≠ '=') <;> simp

theorem malformed_iff (raw : List Char) :
    malformed raw = true ↔ isIgnored (lineText raw) = false ∧ isHeader (lineText raw) = false ∧
      '=' ∉ (lineText raw).toList := by
  rw [← cutAtEquals_eq_none_iff]
  simp [malformed, and_assoc]

theorem buildDetectedUPS_eq_none_iff (body : List (List Char)) :
    (buildDetectedUPS (sectionValues [] body)).toOption = none ↔ ¬ Complete body := by
  unfold Complete fieldOf buildDetectedUPS
  dsimp only
  split_ifs with driver port identity
  · simp [driver, Except.toOption]
  · simp [port, Except.toOption]
  · simp only [Bool.and_eq_true, decide_eq_true_eq, Bool.or_eq_true] at identity
    simp only [Except.toOption, true_iff]
    tauto
  · simp only [Bool.and_eq_true, decide_eq_true_eq, Bool.or_eq_true] at identity
    simp only [Except.toOption, reduceCtorEq, false_iff]
    tauto

theorem sectionDevice_eq_none_iff (body : List (List Char)) :
    sectionDevice [] body = none ↔ (∃ raw ∈ body, malformed raw = true) ∨ ¬ Complete body := by
  unfold sectionDevice
  rw [← buildDetectedUPS_eq_none_iff, ← List.any_eq_true]
  split_ifs with bad
  · simp [bad]
  · simp [bad]

theorem mapM_eq_none_iff {α β : Type} (f : α → Option β) (l : List α) :
    l.mapM f = none ↔ ∃ a ∈ l, f a = none := by
  induction l with
  | nil => simp
  | cons a l ih =>
    rw [List.mapM_cons, List.exists_mem_cons_iff, ← ih]
    cases f a with
    | none => simp
    | some b => cases l.mapM f <;> simp

/-! ## Sections of a text -/

theorem mem_first_iff {lines : List (List Char)} {P : List Char → Prop} :
    (∃ raw ∈ (splitSections lines).1, P raw) ↔
      ∃ before raw after, lines = before ++ raw :: after ∧ (∀ l ∈ before, isHeader (lineText l) = false) ∧
        P raw ∧ isHeader (lineText raw) = false := by
  induction lines with
  | nil => simp [splitSections]
  | cons line lines ih =>
    cases header : isHeader (lineText line) with
    | true =>
      rw [splitSections_header header]
      constructor
      · rintro ⟨raw, member, -⟩
        simp at member
      · rintro ⟨before, raw, after, same, others, -, other⟩
        cases before with
        | nil =>
          cases same
          rw [header] at other
          cases other
        | cons l before =>
          cases same
          have := others line (by simp)
          rw [header] at this
          cases this
    | false =>
      rw [splitSections_other header, List.exists_mem_cons_iff, ih]
      constructor
      · rintro (here | ⟨before, raw, after, rfl, others, holds, other⟩)
        · exact ⟨[], line, lines, rfl, by simp, here, header⟩
        · refine ⟨line :: before, raw, after, rfl, ?_, holds, other⟩
          rw [List.forall_mem_cons]
          exact ⟨header, others⟩
      · rintro ⟨before, raw, after, same, others, holds, other⟩
        cases before with
        | nil =>
          cases same
          exact .inl holds
        | cons l before =>
          cases same
          exact .inr ⟨before, raw, after, rfl, fun l member => others l (by simp [member]), holds, other⟩

theorem first_iff {lines body : List (List Char)} :
    (splitSections lines).1 = body ↔ ∃ after, lines = body ++ after ∧
      (∀ raw ∈ body, isHeader (lineText raw) = false) ∧ ∀ raw ∈ after.head?, isHeader (lineText raw) = true := by
  induction lines generalizing body with
  | nil =>
    constructor
    · rintro rfl
      exact ⟨[], rfl, by simp [splitSections], by simp⟩
    · rintro ⟨after, same, -⟩
      have := List.append_eq_nil_iff.mp same.symm
      simp [splitSections, this.1]
  | cons line lines ih =>
    cases header : isHeader (lineText line) with
    | true =>
      rw [splitSections_header header]
      constructor
      · rintro rfl
        exact ⟨line :: lines, rfl, by simp, by simpa using header⟩
      · rintro ⟨after, same, others, -⟩
        cases body with
        | nil => rfl
        | cons raw body =>
          cases same
          have := others line (by simp)
          rw [header] at this
          cases this
    | false =>
      rw [splitSections_other header]
      constructor
      · rintro rfl
        obtain ⟨after, same, others, next⟩ := ih.mp rfl
        refine ⟨after, by rw [List.cons_append, ← same], ?_, next⟩
        rw [List.forall_mem_cons]
        exact ⟨header, others⟩
      · rintro ⟨after, same, others, next⟩
        cases body with
        | nil =>
          cases same
          have := next line rfl
          rw [header] at this
          cases this
        | cons raw body =>
          cases same
          rw [ih.mpr ⟨after, rfl, fun l member => others l (by simp [member]), next⟩]

theorem mem_sections_iff {lines body : List (List Char)} :
    body ∈ (splitSections lines).2 ↔ SectionOf lines body := by
  induction lines with
  | nil => simp [splitSections, SectionOf]
  | cons line lines ih =>
    cases header : isHeader (lineText line) with
    | true =>
      rw [splitSections_header header, List.mem_cons, ih]
      constructor
      · rintro (first | ⟨before, header', after, rfl, isHeader', others, next⟩)
        · obtain ⟨after, same, others, next⟩ := first_iff.mp first.symm
          exact ⟨[], line, after, by rw [same]; rfl, header, others, next⟩
        · exact ⟨line :: before, header', after, rfl, isHeader', others, next⟩
      · rintro ⟨before, header', after, same, isHeader', others, next⟩
        cases before with
        | nil =>
          cases same
          exact .inl (first_iff.mpr ⟨after, rfl, others, next⟩).symm
        | cons l before =>
          cases same
          exact .inr ⟨before, header', after, rfl, isHeader', others, next⟩
    | false =>
      rw [splitSections_other header, ih]
      constructor
      · rintro ⟨before, header', after, rfl, isHeader', others, next⟩
        exact ⟨line :: before, header', after, rfl, isHeader', others, next⟩
      · rintro ⟨before, header', after, same, isHeader', others, next⟩
        cases before with
        | nil =>
          cases same
          rw [header] at isHeader'
          cases isHeader'
        | cons l before =>
          cases same
          exact ⟨before, header', after, rfl, isHeader', others, next⟩

/-- Every line but the headers stands before the first header or in a section. -/
theorem mem_lines_iff {lines : List (List Char)} {raw : List Char} (other : isHeader (lineText raw) = false) :
    raw ∈ lines ↔ raw ∈ (splitSections lines).1 ∨ ∃ body ∈ (splitSections lines).2, raw ∈ body := by
  induction lines with
  | nil => simp [splitSections]
  | cons line lines ih =>
    cases header : isHeader (lineText line) with
    | true =>
      have differs : raw ≠ line := by
        rintro rfl
        rw [header] at other
        cases other
      rw [splitSections_header header, List.mem_cons, List.exists_mem_cons_iff, ih]
      simp [differs]
    | false =>
      rw [splitSections_other header, List.mem_cons, List.mem_cons, ih, or_assoc]

theorem stray_iff (lines : List (List Char)) :
    Stray lines ↔ (∃ raw ∈ (splitSections lines).1, isIgnored (lineText raw) = false) ∨
      ∃ body ∈ (splitSections lines).2, ∃ raw ∈ body, malformed raw = true := by
  rw [mem_first_iff (P := fun raw => isIgnored (lineText raw) = false)]
  unfold Stray
  constructor
  · rintro (first | ⟨raw, member, kept, other, bad⟩)
    · exact .inl first
    · rcases (mem_lines_iff other).mp member with first | ⟨body, inside, here⟩
      · exact .inl (mem_first_iff (P := fun raw => isIgnored (lineText raw) = false).mp ⟨raw, first, kept⟩)
      · exact .inr ⟨body, inside, raw, here, (malformed_iff raw).mpr ⟨kept, other, bad⟩⟩
  · rintro (first | ⟨body, inside, raw, here, bad⟩)
    · exact .inl first
    · obtain ⟨kept, other, bad⟩ := (malformed_iff raw).mp bad
      exact .inr ⟨raw, (mem_lines_iff other).mpr (.inr ⟨body, inside, here⟩), kept, other, bad⟩

theorem parse_error_iff {text : String} (short : ∀ raw ∈ scanLines text.toList, tooLong raw = false) :
    (∃ e, parseScannerOutput text = .error e) ↔
      Stray (scanLines text.toList) ∨ ∃ body, SectionOf (scanLines text.toList) body ∧ ¬ Complete body := by
  have failed : (∃ e, parseScannerOutput text = .error e) ↔ (parseScannerOutput text).toOption = none := by
    cases parseScannerOutput text <;> simp [Except.toOption]
  rw [failed, parse_eq_sections short, stray_iff]
  simp only [← mem_sections_iff]
  cases first : (splitSections (scanLines text.toList)).1.all fun raw => isIgnored (lineText raw) with
  | false =>
    rw [List.all_eq_false] at first
    obtain ⟨raw, member, kept⟩ := first
    simp only [Bool.false_eq_true, if_false, true_iff]
    exact .inl (.inl ⟨raw, member, by simpa using kept⟩)
  | true =>
    rw [List.all_eq_true] at first
    rw [if_pos rfl, mapM_eq_none_iff]
    simp only [sectionDevice_eq_none_iff]
    constructor
    · rintro ⟨body, inside, bad | incomplete⟩
      · exact .inl (.inr ⟨body, inside, bad⟩)
      · exact .inr ⟨body, inside, incomplete⟩
    · rintro ((⟨raw, member, kept⟩ | ⟨body, inside, bad⟩) | ⟨body, inside, incomplete⟩)
      · rw [first raw member] at kept
        cases kept
      · exact ⟨body, inside, .inl bad⟩
      · exact ⟨body, inside, .inr incomplete⟩

/-- For texts whose lines are all shorter than 64 KiB: devices in the format of
    `nut-scanner` are read back in their order, and a text is an error exactly if an
    entry stands before the first header, a line has no `=`, or a section lacks a driver,
    a port or an identity. -/
theorem scanner_spec {text : String} (short : ∀ raw ∈ scanLines text.toList, tooLong raw = false) :
    (∀ devices, (∀ device ∈ devices, Scanned device) → Rendered devices text →
        parseScannerOutput text = .ok devices) ∧
      ((∃ e, parseScannerOutput text = .error e) ↔
        Stray (scanLines text.toList) ∨
          ∃ body, SectionOf (scanLines text.toList) body ∧ ¬ Complete body) :=
  ⟨fun _ scanned rendered => parse_rendered scanned rendered short, parse_error_iff short⟩

/-- A device as the scanner shows it, in three lines. -/
def shownLines : List (List Char) :=
  ["[nutdev1]".toList, "Driver = \"usbhid-ups\"".toList, "port=\"auto\"".toList,
    "serial = \"A-1 [x]\"".toList]

def shownDevice : DetectedUPS := { driver := "usbhid-ups", port := "auto", serial := "A-1 [x]" }

theorem shownDevice_scanned : ∀ device ∈ [shownDevice], Scanned device := by
  simp only [List.forall_mem_singleton]
  exact ⟨rfl, by decide, by decide, .inl (by decide)⟩

theorem shownDevice_rendered : RendersSections [shownDevice] shownLines := by
  have driver : EntryLine "driver" "usbhid-ups" "Driver = \"usbhid-ups\"".toList :=
    ⟨"Driver ".toList, [' '], [], by decide, by decide, by decide +kernel,
      List.forall_mem_singleton.mpr (by decide), List.forall_mem_nil _⟩
  have port : EntryLine "port" "auto" "port=\"auto\"".toList :=
    ⟨"port".toList, [], [], by decide, by decide, by decide +kernel, List.forall_mem_nil _, List.forall_mem_nil _⟩
  have serial : EntryLine "serial" "A-1 [x]" "serial = \"A-1 [x]\"".toList :=
    ⟨"serial ".toList, [' '], [], by decide, by decide, by decide +kernel,
      List.forall_mem_singleton.mpr (by decide), List.forall_mem_nil _⟩
  have shows : RendersSection shownDevice "[nutdev1]".toList shownLines.tail := by
    constructor
    · decide +kernel
    · intro raw member
      simp only [shownLines, List.tail_cons, List.mem_cons, List.not_mem_nil, or_false] at member
      rcases member with rfl | rfl | rfl
      · exact .inr ⟨_, _, driver, .inl (by decide)⟩
      · exact .inr ⟨_, _, port, .inl (by decide)⟩
      · exact .inr ⟨_, _, serial, .inl (by decide)⟩
    · intro entry member given
      simp only [DetectedUPS.fields, shownDevice, List.mem_cons, List.not_mem_nil, or_false] at member
      rcases member with rfl | rfl | rfl | rfl | rfl | rfl | rfl | rfl
      · exact ⟨_, by simp [shownLines], driver⟩
      · exact ⟨_, by simp [shownLines], port⟩
      · exact absurd rfl given
      · exact absurd rfl given
      · exact absurd rfl given
      · exact ⟨_, by simp [shownLines], serial⟩
      · exact absurd rfl given
      · exact absurd rfl given
  exact .cons shows .nil

/-- The device below a comment. -/
theorem scanner_spec_of_comment :
    parseScannerOutput "# one\n[nutdev1]\nDriver = \"usbhid-ups\"\nport=\"auto\"\nserial = \"A-1 [x]\"\n" =
      .ok [shownDevice] :=
  (scanner_spec (by decide +kernel)).1 _ shownDevice_scanned
    ⟨["# one".toList], shownLines, by decide +kernel, shownDevice_rendered,
      by decide, .inl (by decide +kernel)⟩

theorem parse_tooLong {text : String} {raw : List Char} {lines : List (List Char)}
    (shows : scanLines text.toList = raw :: lines) (long : tooLong raw = true) :
    parseScannerOutput text = .error .tokenTooLong := by
  simp [parseScannerOutput, Parse.finish, shows, Parse.step, long, bind, Except.bind]

theorem comment_ignored (n : Nat) : isIgnored (lineText (List.replicate (n + 1) '#')) = true := by
  have kept : trimmed isSpaceRune (List.replicate (n + 1) '#') = List.replicate (n + 1) '#' := by
    apply trimmed_eq_self
    · intro c first
      rw [List.eq_of_mem_replicate (List.mem_of_mem_head? first)]
      decide
    · intro c last
      rw [List.eq_of_mem_replicate (List.mem_of_mem_getLast? last)]
      decide
  rw [isIgnored_iff, lineText_eq, kept]
  exact .inr (.inl rfl)

theorem comment_tooLong {n : Nat} (long : maxScanTokenSize ≤ n) : tooLong (List.replicate n '#') = true := by
  have ascii : ∀ c ∈ List.replicate n '#', c.toNat < 0x80 := by
    intro c member
    rw [List.eq_of_mem_replicate member]
    decide
  rw [tooLong, encoded_of_ascii ascii, List.length_map, List.length_replicate]
  exact decide_eq_true long

/-- The same device below a comment of 64 KiB. -/
theorem long_comment_rejected :
    ¬ ∀ (devices : List DetectedUPS) (text : String), (∀ device ∈ devices, Scanned device) →
      Rendered devices text → parseScannerOutput text = .ok devices := by
  intro claim
  obtain ⟨comment, ignored, long, plain⟩ : ∃ comment, isIgnored (lineText comment) = true ∧
      tooLong comment = true ∧ '\n' ∉ comment := by
    refine ⟨List.replicate (maxScanTokenSize + 1) '#', comment_ignored _, comment_tooLong (by omega), ?_⟩
    intro member
    cases List.eq_of_mem_replicate member
  have shows : TextOf ([comment] ++ shownLines)
      (String.ofList (([comment] ++ shownLines).flatMap (· ++ ['\n']))) := by
    refine ⟨?_, .inl String.toList_ofList⟩
    rw [List.forall_mem_append, List.forall_mem_singleton]
    exact ⟨plain, by decide⟩
  have read := claim _ _ shownDevice_scanned ⟨[comment], shownLines, by simpa using ignored,
    shownDevice_rendered, shows⟩
  rw [parse_tooLong shows.scanLines long] at read
  cases read

end Strom.Nutconf
