import Strom.Nutconf.Render

/-!
# The output of `nut-scanner` (`scanner.go`)

`parseScannerOutput` reads lines; the fields of the section that it is in are collected
in a map and become a device at the next header and at the end.

`parse_eq_sections` says the same without the state: the lines are cut at the headers,
and every section is read by itself.
-/

namespace Strom.Nutconf

open Strom.Go

/-! ## Lines -/

/-- `bufio.ScanLines`: the lines of a text, the last one with or without its newline. -/
def scanLines : List Char → List (List Char)
  | [] => []
  | c :: rest =>
    if c = '\n' then [] :: scanLines rest
    else
      match scanLines rest with
      | [] => [[c]]
      | line :: lines => (c :: line) :: lines

def dropCR (line : List Char) : List Char :=
  if line.getLast? = some '\r' then line.dropLast else line

/-- `bufio.MaxScanTokenSize`. -/
def maxScanTokenSize : Nat := 64 * 1024

/-- A line fills the scanner's buffer before its newline. -/
def tooLong (line : List Char) : Bool :=
  maxScanTokenSize ≤ (line.flatMap String.utf8EncodeChar).length

/-- The part of a line that `parseScannerOutput` looks at. -/
def lineText (line : List Char) : String := trimSpace (String.ofList (dropCR line))

def isIgnored (line : String) : Bool := line = "" || hasPrefix line "#" || hasPrefix line ";"

def isHeader (line : String) : Bool := hasPrefix line "[" && hasSuffix line "]"

/-- `strings.Cut(line, "=")`. -/
def cutAtEquals (line : String) : Option (String × String) :=
  match line.toList.dropWhile (· ≠ '=') with
  | [] => none
  | _ :: value => some (String.ofList (line.toList.takeWhile (· ≠ '=')), String.ofList value)

def trimQuotePrefix : List Char → List Char
  | '"' :: rest => rest
  | l => l

def trimScannerValue (value : String) : String :=
  let trimmed := trimQuotePrefix (trimSpace value).toList
  String.ofList (if trimmed.getLast? = some '"' then trimmed.dropLast else trimmed)

/-! ## Devices -/

inductive ScannerError where
  | outsideSection (lineNumber : Nat)
  | malformedEntry (lineNumber : Nat) (line : String)
  | tokenTooLong
  | missingDriver
  | missingPort
  | missingIdentity
deriving DecidableEq, Repr

def ScannerError.text : ScannerError → String
  | outsideSection n => "line " ++ toString n ++ ": key/value outside section"
  | malformedEntry n line => "line " ++ toString n ++ ": malformed entry " ++ quote line
  | tokenTooLong => "bufio.Scanner: token too long"
  | missingDriver => "scanner result missing driver"
  | missingPort => "scanner result missing port"
  | missingIdentity => "scanner result missing serial and fallback identity fields"

/-- A `map[string]string`, the value that was set last first. -/
abbrev Values := List (String × String)

def Values.get (values : Values) (key : String) : String := (values.lookup key).getD ""

def buildDetectedUPS (values : Values) : Except ScannerError DetectedUPS :=
  let device : DetectedUPS :=
    { driver := values.get "driver"
      port := values.get "port"
      vendorID := values.get "vendorid"
      productID := values.get "productid"
      product := values.get "product"
      serial := values.get "serial"
      vendor := values.get "vendor"
      bus := values.get "bus" }
  if device.driver = "" then .error .missingDriver
  else if device.port = "" then .error .missingPort
  else if device.serial = "" && (device.bus = "" || device.vendorID = "" || device.productID = "") then
    .error .missingIdentity
  else .ok device

/-! ## The loop -/

/-- The variables of `parseScannerOutput`. -/
structure Parse where
  devices : List DetectedUPS := []
  current : Values := []
  inSection : Bool := false
  lineNumber : Nat := 0

def Parse.flush (parse : Parse) : Except ScannerError Parse :=
  if parse.inSection then do
    let device ← buildDetectedUPS parse.current
    .ok { parse with devices := parse.devices ++ [device], current := [] }
  else .ok parse

/-- One round of the loop. -/
def Parse.step (parse : Parse) (raw : List Char) : Except ScannerError Parse :=
  if tooLong raw then .error .tokenTooLong
  else
    let lineNumber := parse.lineNumber + 1
    let line := lineText raw
    if isIgnored line then .ok { parse with lineNumber }
    else if isHeader line then do
      let parse ← parse.flush
      .ok { parse with inSection := true, lineNumber }
    else if !parse.inSection then .error (.outsideSection lineNumber)
    else
      match cutAtEquals line with
      | none => .error (.malformedEntry lineNumber line)
      | some (key, value) =>
        let current := (toLower (trimSpace key), trimScannerValue value) :: parse.current
        .ok { parse with current, lineNumber }

/-- The rounds over these lines and the flush behind the loop. -/
def Parse.finish (parse : Parse) (lines : List (List Char)) : Except ScannerError (List DetectedUPS) := do
  let parse ← lines.foldlM Parse.step parse
  let parse ← parse.flush
  .ok parse.devices

def parseScannerOutput (text : String) : Except ScannerError (List DetectedUPS) :=
  Parse.finish {} (scanLines text.toList)

example : parseScannerOutput "[a]\nDriver = \"usbhid-ups\"\nport=auto\nserial = \"A-1\"" =
    .ok [{ driver := "usbhid-ups", port := "auto", serial := "A-1" }] := by decide +kernel

/-! ## Sections -/

/-- The key and the value of a line that has them. -/
def entry? (raw : List Char) : Option (String × String) :=
  if isIgnored (lineText raw) || isHeader (lineText raw) then none
  else (cutAtEquals (lineText raw)).map fun cut => (toLower (trimSpace cut.1), trimScannerValue cut.2)

/-- A line of a section that `parseScannerOutput` rejects. -/
def malformed (raw : List Char) : Bool :=
  !isIgnored (lineText raw) && !isHeader (lineText raw) && (cutAtEquals (lineText raw)).isNone

/-- The lines before the first header, and those behind each header up to the next. -/
def splitSections : List (List Char) → List (List Char) × List (List (List Char))
  | [] => ([], [])
  | raw :: lines =>
    let rest := splitSections lines
    if isHeader (lineText raw) then ([], rest.1 :: rest.2) else (raw :: rest.1, rest.2)

/-- What a section's fields are when some are set already. -/
def sectionValues (current : Values) (body : List (List Char)) : Values :=
  (body.filterMap entry?).reverse ++ current

/-- The device of one section. -/
def sectionDevice (current : Values) (body : List (List Char)) : Option DetectedUPS :=
  if body.any malformed then none else (buildDetectedUPS (sectionValues current body)).toOption

theorem hasPrefix_iff {line part : String} {c : Char} (one : part.toList = [c]) :
    hasPrefix line part = true ↔ line.toList.head? = some c := by
  unfold hasPrefix
  rw [one]
  cases line.toList with
  | nil => simp
  | cons d rest =>
    rw [List.isPrefixOf_cons_cons, List.isPrefixOf_nil_left, Bool.and_true, beq_iff_eq, List.head?_cons,
      Option.some.injEq]
    exact eq_comm

theorem isIgnored_iff (line : String) :
    isIgnored line = true ↔ line = "" ∨ line.toList.head? = some '#' ∨ line.toList.head? = some ';' := by
  unfold isIgnored
  rw [Bool.or_eq_true, Bool.or_eq_true, hasPrefix_iff (c := '#') (by decide), hasPrefix_iff (c := ';') (by decide),
    decide_eq_true_iff, or_assoc]

theorem not_ignored_of_header {line : String} (header : isHeader line = true) : isIgnored line = false := by
  rw [isHeader, Bool.and_eq_true, hasPrefix_iff (c := '[') (by decide)] at header
  rw [Bool.eq_false_iff, Ne, isIgnored_iff]
  rintro (rfl | here | here)
  · simp at header
  · simp [header.1] at here
  · simp [header.1] at here

section Sections

variable {parse : Parse} {raw : List Char} (short : tooLong raw = false)

include short

theorem step_ignored (ignored : isIgnored (lineText raw) = true) :
    parse.step raw = .ok { parse with lineNumber := parse.lineNumber + 1 } := by
  simp [Parse.step, short, ignored]

theorem step_header (header : isHeader (lineText raw) = true) :
    parse.step raw = (do
      let after ← parse.flush
      .ok { after with inSection := true, lineNumber := parse.lineNumber + 1 }) := by
  simp [Parse.step, short, header, not_ignored_of_header header]

/-- A line that is no header adds its entry, if it has one, to the section. -/
theorem step_inside (inside : parse.inSection = true) (other : isHeader (lineText raw) = false) :
    (parse.step raw).toOption = if malformed raw then none else some
      { parse with current := sectionValues parse.current [raw], lineNumber := parse.lineNumber + 1 } := by
  by_cases ignored : isIgnored (lineText raw) = true
  · rw [step_ignored short ignored]
    simp [malformed, ignored, sectionValues, entry?, Except.toOption]
  · have ignored : isIgnored (lineText raw) = false := by simpa using ignored
    cases cut : cutAtEquals (lineText raw) with
    | none => simp [Parse.step, short, ignored, other, inside, malformed, cut, Except.toOption]
    | some pair =>
      simp [Parse.step, short, ignored, other, inside, malformed, cut, Except.toOption, sectionValues,
        entry?]

/-- Before the first header a line is ignored or rejected. -/
theorem step_outside (outside : parse.inSection = false) (other : isHeader (lineText raw) = false) :
    (parse.step raw).toOption = if isIgnored (lineText raw) then
      some { parse with lineNumber := parse.lineNumber + 1 } else none := by
  by_cases ignored : isIgnored (lineText raw) = true
  · rw [step_ignored short ignored, if_pos ignored]
    rfl
  · have ignored : isIgnored (lineText raw) = false := by simpa using ignored
    simp [Parse.step, short, ignored, other, outside, Except.toOption]

end Sections

theorem toOption_bind {ε α β : Type} (x : Except ε α) (f : α → Except ε β) :
    (x >>= f).toOption = x.toOption.bind fun a => (f a).toOption := by
  cases x <;> rfl

theorem toOption_ok {ε α : Type} (a : α) : (.ok a : Except ε α).toOption = some a := rfl

theorem flush_inside {parse : Parse} (inside : parse.inSection = true) :
    parse.flush.toOption = (buildDetectedUPS parse.current).toOption.map fun device =>
      { parse with devices := parse.devices ++ [device], current := [] } := by
  simp only [Parse.flush, inside, if_true]
  cases buildDetectedUPS parse.current <;> rfl

theorem finish_cons (parse : Parse) (raw : List Char) (lines : List (List Char)) :
    (parse.finish (raw :: lines)).toOption =
      (parse.step raw).toOption.bind fun after => (after.finish lines).toOption := by
  simp only [Parse.finish, List.foldlM_cons, bind_assoc, toOption_bind]

@[simp] theorem sectionDevice_nil (current : Values) :
    sectionDevice current [] = (buildDetectedUPS current).toOption := by
  simp [sectionDevice, sectionValues]

theorem sectionDevice_cons (current : Values) (raw : List Char) (body : List (List Char)) :
    sectionDevice current (raw :: body) =
      if malformed raw then none else sectionDevice (sectionValues current [raw]) body := by
  have values : sectionValues current (raw :: body) = sectionValues (sectionValues current [raw]) body := by
    cases entry : entry? raw <;> simp [sectionValues, entry]
  cases bad : malformed raw <;> simp [sectionDevice, bad, values]

theorem splitSections_header {raw : List Char} (header : isHeader (lineText raw) = true)
    (lines : List (List Char)) :
    splitSections (raw :: lines) = ([], (splitSections lines).1 :: (splitSections lines).2) := by
  simp [splitSections, header]

theorem splitSections_other {raw : List Char} (other : isHeader (lineText raw) = false)
    (lines : List (List Char)) :
    splitSections (raw :: lines) = (raw :: (splitSections lines).1, (splitSections lines).2) := by
  simp [splitSections, other]

/-- What a section that has begun becomes, with the sections behind it. -/
theorem finish_inside {lines : List (List Char)} (short : ∀ raw ∈ lines, tooLong raw = false)
    {parse : Parse} (inside : parse.inSection = true) :
    (parse.finish lines).toOption =
      (sectionDevice parse.current (splitSections lines).1).bind fun device =>
        ((splitSections lines).2.mapM (sectionDevice [])).map fun devices =>
          parse.devices ++ device :: devices := by
  induction lines generalizing parse with
  | nil =>
    simp only [Parse.finish, List.foldlM_nil, splitSections, sectionDevice_nil, List.mapM_nil]
    change (parse.flush >>= fun after => Except.ok after.devices).toOption = _
    rw [toOption_bind, flush_inside inside]
    cases (buildDetectedUPS parse.current).toOption <;> rfl
  | cons raw lines ih =>
    rw [List.forall_mem_cons] at short
    rw [finish_cons]
    by_cases header : isHeader (lineText raw) = true
    · -- the section ends here, and the next one begins with no fields
      rw [step_header short.1 header, splitSections_header header, toOption_bind, flush_inside inside,
        sectionDevice_nil, List.mapM_cons]
      cases (buildDetectedUPS parse.current).toOption with
      | none => rfl
      | some device =>
        simp only [Option.map_some, Option.bind_some, toOption_ok]
        rw [ih short.2 rfl]
        cases sectionDevice [] (splitSections lines).1 with
        | none => rfl
        | some next =>
          cases (splitSections lines).2.mapM (sectionDevice []) with
          | none => rfl
          | some devices => simp
    · have other : isHeader (lineText raw) = false := by simpa using header
      rw [step_inside short.1 inside other, splitSections_other other, sectionDevice_cons]
      cases malformed raw with
      | true => rfl
      | false => exact ih short.2 inside

theorem finish_outside {lines : List (List Char)} (short : ∀ raw ∈ lines, tooLong raw = false)
    {parse : Parse} (outside : parse.inSection = false) (empty : parse.current = []) :
    (parse.finish lines).toOption =
      if (splitSections lines).1.all fun raw => isIgnored (lineText raw) then
        ((splitSections lines).2.mapM (sectionDevice [])).map fun devices => parse.devices ++ devices
      else none := by
  induction lines generalizing parse with
  | nil => simp [Parse.finish, Parse.flush, outside, splitSections, Except.toOption, bind, pure, Except.bind,
      Except.pure]
  | cons raw lines ih =>
    rw [List.forall_mem_cons] at short
    rw [finish_cons]
    by_cases header : isHeader (lineText raw) = true
    · have unchanged : parse.flush = .ok parse := by simp [Parse.flush, outside]
      rw [step_header short.1 header, splitSections_header header, unchanged, toOption_bind, toOption_ok,
        List.mapM_cons]
      simp only [Option.bind_some, toOption_ok, List.all_nil, if_true]
      rw [finish_inside short.2 rfl]
      simp only [empty]
      cases sectionDevice [] (splitSections lines).1 with
      | none => rfl
      | some next =>
        cases (splitSections lines).2.mapM (sectionDevice []) with
        | none => rfl
        | some devices => rfl
    · have other : isHeader (lineText raw) = false := by simpa using header
      rw [step_outside short.1 outside other, splitSections_other other, List.all_cons]
      cases isIgnored (lineText raw) with
      | false => rfl
      | true => exact ih short.2 outside empty

/-- The result of `parseScannerOutput`, section by section. -/
theorem parse_eq_sections {text : String} (short : ∀ raw ∈ scanLines text.toList, tooLong raw = false) :
    (parseScannerOutput text).toOption =
      if (splitSections (scanLines text.toList)).1.all fun raw => isIgnored (lineText raw) then
        (splitSections (scanLines text.toList)).2.mapM (sectionDevice [])
      else none := by
  rw [parseScannerOutput, finish_outside short rfl rfl]
  simp

end Strom.Nutconf
