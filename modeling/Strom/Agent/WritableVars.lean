import Mathlib.Data.List.DropRight
import Strom.Go.Strings

/-!
# The writable variables of a UPS (the agent's `api.go`)

`parseUPSWritableVars` reads what `upsrw` prints: blocks of lines, a header first.
`parse_laid`: of well-formed blocks between blank lines there is one entry for each name, made of
the first block of that name and of nothing else.
-/

namespace Strom.Agent

open Strom.Go

/-- `upsWritableVar`; `F` is the type of a Go `float64`. -/
structure UPSWritableVar (F : Type) where
  name : String
  description : String := ""
  editor : String := "text"
  currentValue : String := ""
  options : List String := []
  min : Option F := none
  max : Option F := none
deriving DecidableEq, Repr

/-- `strings.Cut` at the first colon. -/
def cutColon (s : String) : Option (String × String) :=
  match s.toList.dropWhile (· ≠ ':') with
  | [] => none
  | _ :: tail => some (String.ofList (s.toList.takeWhile (· ≠ ':')), String.ofList tail)

def isBracket (c : Char) : Bool := c = '[' || c = ']'

/-- `strings.Trim` of the brackets. -/
def trimBrackets (s : String) : String := String.ofList (trimmed isBracket s.toList)

/-- `strings.TrimPrefix`. -/
def trimPrefix (s start : String) : String :=
  if hasPrefix s start then String.ofList (s.toList.drop start.toList.length) else s

def parseWritableHeader (line : String) : String × String :=
  let trimmed := trimSpace line
  if hasPrefix trimmed "[" && hasSuffix trimmed "]" then (trimBrackets trimmed, "")
  else
    match (cutColon trimmed).filter fun cut =>
      contains (trimSpace cut.1) "." || contains (trimSpace cut.1) "_" with
    | some (head, tail) => (trimSpace head, trimSpace tail)
    | none =>
      match fields trimmed with
      | first :: _ =>
        if contains first "." || contains first "_" then (first, trimSpace (trimPrefix trimmed first)) else ("", "")
      | [] => ("", "")

/-- The replacer of `parseNumericRange`: at most one of its texts begins at a position. -/
def replaceRange : List Char → List Char
  | [] => []
  | 't' :: 'o' :: rest => '-' :: replaceRange rest
  | '.' :: '.' :: rest => '-' :: replaceRange rest
  | c :: rest =>
    (if c = '—' ∨ c = '–' then '-' else if c = ',' then ' ' else c) :: replaceRange rest

section Parsing

variable {F : Type} (parseFloat : String → Option F)

def parseNumericRange (value : String) : Option F × Option F :=
  let parts := fields (String.ofList (replaceRange (toLower value).toList))
  let parts :=
    match parts with
    | [part] =>
      let pieces := (part.toList.splitOn '-').map String.ofList
      if pieces.length = 2 then pieces else parts
    | _ => parts
  match parts with
  | first :: second :: _ =>
    match parseFloat (trimSpace first), parseFloat (trimSpace second) with
    | some min, some max => (some min, some max)
    | _, _ => (none, none)
  | _ => (none, none)

/-- The editor that a line with a type asks for. -/
def editorOf (value editor : String) : String :=
  let typeValue := toLower value
  let editor := if contains typeValue "enum" then "select" else editor
  if contains typeValue "range" || contains typeValue "number" || contains typeValue "integer" then "number"
  else editor

/-- The part of the loop of `parseUPSWritableBlock` behind the cut. -/
def UPSWritableVar.addField (variable_ : UPSWritableVar F) (key value : String) : UPSWritableVar F :=
  if contains key "value" && variable_.currentValue = "" then { variable_ with currentValue := value }
  else if contains key "desc" && variable_.description = "" then { variable_ with description := value }
  else if contains key "option" || contains key "enum" || contains key "possible" then
    { variable_ with options := variable_.options ++ [value] }
  else if contains key "range" then
    let range := parseNumericRange parseFloat value
    { variable_ with min := range.1.or variable_.min, max := range.2.or variable_.max }
  else if contains key "type" then { variable_ with editor := editorOf value variable_.editor }
  else variable_

def UPSWritableVar.addLine (variable_ : UPSWritableVar F) (line : String) : UPSWritableVar F :=
  match cutColon line with
  | none => variable_
  | some (key, value) => variable_.addField parseFloat (toLower (trimSpace key)) (trimSpace value)

/-- What `parseUPSWritableBlock` does behind the loop. -/
def UPSWritableVar.finished (variable_ : UPSWritableVar F) : UPSWritableVar F :=
  let editor := if variable_.options ≠ [] then "select" else variable_.editor
  { variable_ with editor := if variable_.min.isSome || variable_.max.isSome then "number" else editor }

/-- `parseUPSWritableBlock` of a block, which has a first line. -/
def parseUPSWritableBlock (snapshot : String → String) (first : String) (rest : List String) :
    Option (UPSWritableVar F) :=
  let (name, description) := parseWritableHeader first
  if name = "" then none
  else
    let variable_ : UPSWritableVar F := { name, description, currentValue := snapshot name }
    some (rest.foldl (·.addLine parseFloat ·) variable_).finished

/-- The first loop of `parseUPSWritableVars`, with the block that is open. -/
def splitBlocks : List String → List String → List (List String)
  | current, [] => if current = [] then [] else [current]
  | current, raw :: rest =>
    if trimSpace raw = "" then
      if current = [] then splitBlocks [] rest else current :: splitBlocks [] rest
    else splitBlocks (current ++ [trimSpace raw]) rest

/-- One round of the second loop. -/
def addBlock (snapshot : String → String) (vars : List (UPSWritableVar F)) (block : List String) :
    List (UPSWritableVar F) :=
  match block with
  | [] => vars
  | first :: rest =>
    match parseUPSWritableBlock parseFloat snapshot first rest with
    | none => vars
    | some variable_ =>
      if variable_.name = "" ∨ variable_.name ∈ vars.map (·.name) then vars else vars ++ [variable_]

def parseUPSWritableVars (output : String) (snapshot : String → String) : List (UPSWritableVar F) :=
  (splitBlocks [] ((output.toList.splitOn '\n').map String.ofList)).foldl (addBlock parseFloat snapshot) []

end Parsing

/-! ## Blocks -/

inductive BlockLine where
  | option (v : String)
  | value (v : String)
  | type (v : String)
  | desc (v : String)
deriving DecidableEq, Repr

namespace BlockLine

def key : BlockLine → String
  | option _ => "Option"
  | value _ => "Value"
  | type _ => "Type"
  | desc _ => "Desc"

def content : BlockLine → String
  | option v | value v | type v | desc v => v

def text (line : BlockLine) : String := line.key ++ ": " ++ line.content

def option? : BlockLine → Option String
  | option v => some v
  | _ => none

def value? : BlockLine → Option String
  | value v => some v
  | _ => none

def type? : BlockLine → Option String
  | type v => some v
  | _ => none

def desc? : BlockLine → Option String
  | desc v => some v
  | _ => none

end BlockLine

/-- The header of a block: `name: description` or `[name]`. -/
inductive BlockHeader where
  | described (name description : String)
  | bracketed (name : String)
deriving DecidableEq, Repr

namespace BlockHeader

def name : BlockHeader → String
  | described name _ => name
  | bracketed name => name

def text : BlockHeader → String
  | described name description => name ++ ": " ++ description
  | bracketed name => "[" ++ name ++ "]"

def description : BlockHeader → String
  | described _ description => trimSpace description
  | bracketed _ => ""

/-- A name with a dot or an underscore and without colons, blanks and brackets; in brackets any
    text that neither begins nor ends with one. -/
def WellFormed : BlockHeader → Prop
  | described name _ => (contains name "." = true ∨ contains name "_" = true) ∧
      ∀ c ∈ name.toList, c ≠ ':' ∧ isSpaceRune c = false ∧ isBracket c = false
  | bracketed name => name ≠ "" ∧ (∀ c ∈ name.toList.head?, isBracket c = false) ∧
      ∀ c ∈ name.toList.getLast?, isBracket c = false

end BlockHeader

/-- A block that a UPS driver prints. -/
structure WritableBlock where
  header : BlockHeader
  lines : List BlockLine
  wellFormed : header.WellFormed
  plain : ∀ line ∈ lines, trimSpace line.content = line.content

namespace WritableBlock

def name (block : WritableBlock) : String := block.header.name

/-- The block's lines. -/
def texts (block : WritableBlock) : List String := block.header.text :: block.lines.map (·.text)

end WritableBlock

/-- Blocks with blank lines between them, and perhaps before and behind them. -/
inductive Laid : List WritableBlock → List String → Prop where
  | nil : Laid [] []
  | blank {blocks : List WritableBlock} {lines : List String} {line : String} (blank : trimSpace line = "")
      (laid : Laid blocks lines) : Laid blocks (line :: lines)
  | last (block : WritableBlock) : Laid [block] block.texts
  | block {block : WritableBlock} {blocks : List WritableBlock} {lines : List String} {line : String}
      (blank : trimSpace line = "") (laid : Laid blocks lines) :
      Laid (block :: blocks) (block.texts ++ line :: lines)

/-- The first of the texts that is not empty. -/
def firstNonEmpty (texts : List String) : String := (texts.find? (· ≠ "")).getD ""

/-- The entry of a block. -/
def WritableBlock.entry {F : Type} (snapshot : String → String) (block : WritableBlock) : UPSWritableVar F where
  name := block.name
  description := firstNonEmpty (block.header.description :: block.lines.filterMap (·.desc?))
  editor :=
    if block.lines.filterMap (·.option?) ≠ [] then "select"
    else (block.lines.filterMap (·.type?)).foldl (fun editor value => editorOf value editor) "text"
  currentValue := firstNonEmpty (snapshot block.name :: block.lines.filterMap (·.value?))
  options := block.lines.filterMap (·.option?)

/-- The first block of each name, in order. -/
def firstBlocks : List WritableBlock → List WritableBlock
  | [] => []
  | block :: blocks => block :: (firstBlocks blocks).filter fun other => other.name ≠ block.name

theorem firstBlocks_sublist (blocks : List WritableBlock) : (firstBlocks blocks).Sublist blocks := by
  induction blocks with
  | nil => exact .slnil
  | cons block blocks ih => exact (List.filter_sublist.trans ih).cons_cons block

/-- No name twice. -/
theorem firstBlocks_nodup (blocks : List WritableBlock) : ((firstBlocks blocks).map (·.name)).Nodup := by
  induction blocks with
  | nil => exact List.nodup_nil
  | cons block blocks ih =>
    rw [firstBlocks, List.map_cons, List.nodup_cons]
    constructor
    · simp
    · exact ih.sublist (List.filter_sublist.map _)

/-- Every name once. -/
theorem mem_names_firstBlocks {blocks : List WritableBlock} {name : String} :
    name ∈ (firstBlocks blocks).map (·.name) ↔ name ∈ blocks.map (·.name) := by
  induction blocks with
  | nil => rfl
  | cons block blocks ih =>
    by_cases here : name = block.name
    · simp [firstBlocks, here]
    · rw [firstBlocks, List.map_cons, List.map_cons, List.mem_cons, List.mem_cons, ← ih]
      simp [here]
      grind

/-! ## Trimmed lines -/

section Trimming

variable {α : Type} {p : α → Bool}

theorem trimmed_eq_rdropWhile (l : List α) : trimmed p l = (l.dropWhile p).rdropWhile p := rfl

theorem trimmed_cons {c : α} (blank : p c = true) (l : List α) : trimmed p (c :: l) = trimmed p l := by
  simp [trimmed, blank]

theorem trimmed_concat {c : α} (blank : p c = true) (l : List α) : trimmed p (l ++ [c]) = trimmed p l := by
  rw [trimmed_eq_rdropWhile, trimmed_eq_rdropWhile, List.dropWhile_append]
  split
  · rename_i nothing
    simp [List.isEmpty_iff.mp nothing, blank]
  · exact List.rdropWhile_concat_pos p _ c blank

/-- Trimming at the end first changes nothing. -/
theorem trimmed_rdropWhile (l : List α) : trimmed p (l.rdropWhile p) = trimmed p l := by
  induction l using List.reverseRecOn with
  | nil => rfl
  | append_singleton l c ih =>
    by_cases blank : p c = true
    · rw [List.rdropWhile_concat_pos p l c blank, ih, trimmed_concat blank]
    · rw [List.rdropWhile_concat_neg p l c blank]

theorem rdropWhile_append_cons {c : α} (visible : p c = false) (front back : List α) :
    (front ++ c :: back).rdropWhile p = front ++ c :: back.rdropWhile p := by
  induction back using List.reverseRecOn with
  | nil =>
    rw [List.rdropWhile_concat_neg p front c (by simp [visible])]
    rfl
  | append_singleton back last ih =>
    have whole : front ++ c :: (back ++ [last]) = (front ++ c :: back) ++ [last] := by simp
    rw [whole]
    by_cases blank : p last = true
    · rw [List.rdropWhile_concat_pos p _ last blank, List.rdropWhile_concat_pos p _ last blank, ih]
    · rw [List.rdropWhile_concat_neg p _ last blank, List.rdropWhile_concat_neg p _ last blank, whole]

end Trimming

/-- A line of a key, a colon and a rest loses blanks at its end only. -/
theorem trimSpace_field {line key rest : String} (text : line = key ++ ":" ++ rest)
    (first : ∀ c ∈ key.toList.head?, isSpaceRune c = false) :
    (trimSpace line).toList = key.toList ++ ':' :: rest.toList.rdropWhile isSpaceRune := by
  have whole : line.toList = key.toList ++ ':' :: rest.toList := by simp [text]
  have start : ∀ c ∈ line.toList.head?, isSpaceRune c = false := by
    rw [whole]
    cases letters : key.toList with
    | nil => simp; decide
    | cons c others => simpa [letters] using first
  rw [trimSpace_toList, trimmed_eq_rdropWhile, dropWhile_eq_self start, whole,
    rdropWhile_append_cons (by decide)]

theorem cutColon_field {line key : String} {rest : List Char} (whole : line.toList = key.toList ++ ':' :: rest)
    (plain : ':' ∉ key.toList) : cutColon line = some (key, String.ofList rest) := by
  have inside : ∀ c ∈ key.toList, (decide (c ≠ ':')) = true := by
    intro c member
    simp only [decide_eq_true_eq]
    rintro rfl
    exact plain member
  rw [cutColon, whole, List.dropWhile_append_of_pos inside, List.takeWhile_append_of_pos inside]
  simp

/-- The value that is cut off a trimmed line. -/
theorem trimSpace_rest (value : String) :
    trimSpace (String.ofList ((" " ++ value).toList.rdropWhile isSpaceRune)) = trimSpace value := by
  rw [← String.toList_inj, trimSpace_toList, trimSpace_toList, String.toList_ofList, trimmed_rdropWhile]
  have spaced : (" " ++ value).toList = ' ' :: value.toList := by simp
  rw [spaced, trimmed_cons (by decide)]

/-! ## One block -/

theorem contains_ne_empty {s part : String} (some_ : part ≠ "") (inside : contains s part = true) : s ≠ "" := by
  rintro rfl
  have within : part.toList <:+: [] := of_decide_eq_true inside
  exact some_ (by simpa using within)

theorem nonempty_of_toList {s : String} {c : Char} (inside : c ∈ s.toList) : s ≠ "" := by
  rintro rfl
  cases inside

/-- A header `name: description` is read as both. -/
theorem parse_described {name description : String}
    (wellFormed : (BlockHeader.described name description).WellFormed) :
    parseWritableHeader (trimSpace (name ++ ": " ++ description)) = (name, trimSpace description) ∧
      trimSpace (name ++ ": " ++ description) ≠ "" ∧ name ≠ "" := by
  obtain ⟨marked, plain⟩ := wellFormed
  have nonempty : name ≠ "" := by
    obtain dot | underscore := marked
    · exact contains_ne_empty (by decide) dot
    · exact contains_ne_empty (by decide) underscore
  have visible : ∀ c ∈ name.toList, isSpaceRune c = false := fun c inside => (plain c inside).2.1
  have first : ∀ c ∈ name.toList.head?, isSpaceRune c = false :=
    fun c head => visible c (List.mem_of_mem_head? head)
  have last : ∀ c ∈ name.toList.getLast?, isSpaceRune c = false :=
    fun c end_ => visible c (List.mem_of_getLast? end_)
  have noColon : ':' ∉ name.toList := fun inside => (plain ':' inside).1 rfl
  have text : name ++ ": " ++ description = name ++ ":" ++ (" " ++ description) := by
    simp [← String.toList_inj]
  have whole := trimSpace_field text first
  -- the line does not begin with a bracket
  have unbracketed : hasPrefix (trimSpace (name ++ ": " ++ description)) "[" = false := by
    rw [hasPrefix, whole]
    cases letters : name.toList with
    | nil => exact absurd (String.toList_inj.mp letters) nonempty
    | cons c others =>
      have own : isBracket c = false := (plain c (by simp [letters])).2.2
      have apart : c ≠ '[' := by
        rintro rfl
        cases own
      simp [List.isPrefixOf, apart.symm]
  have trimmed_ : trimSpace name = name := trimSpace_eq_self first last
  have accepted : (contains name "." || contains name "_") = true := by
    rw [Bool.or_eq_true]
    exact marked
  refine ⟨?_, nonempty_of_toList (c := ':') (by rw [whole]; simp), nonempty⟩
  simp only [parseWritableHeader, trimSpace_trimSpace, unbracketed, Bool.false_and, Bool.false_eq_true,
    if_false, cutColon_field whole noColon, Option.filter, trimmed_, accepted, if_true, trimSpace_rest]

/-- A name in brackets is read without them. -/
theorem parse_bracketed {name : String} (wellFormed : (BlockHeader.bracketed name).WellFormed) :
    parseWritableHeader (trimSpace ("[" ++ name ++ "]")) = (name, "") ∧
      trimSpace ("[" ++ name ++ "]") ≠ "" ∧ name ≠ "" := by
  obtain ⟨nonempty, first, last⟩ := wellFormed
  have whole : ("[" ++ name ++ "]").toList = '[' :: (name.toList ++ [']']) := by simp
  have untrimmed : trimSpace ("[" ++ name ++ "]") = "[" ++ name ++ "]" := by
    apply trimSpace_eq_self
    · rw [whole]
      simp
      decide
    · rw [whole, ← List.cons_append, List.getLast?_concat]
      simp
      decide
  have bracketed : (hasPrefix ("[" ++ name ++ "]") "[" && hasSuffix ("[" ++ name ++ "]") "]") = true := by
    rw [Bool.and_eq_true, hasPrefix, hasSuffix, List.isPrefixOf_iff_prefix, List.isSuffixOf_iff_suffix, whole]
    exact ⟨⟨name.toList ++ [']'], rfl⟩, ⟨'[' :: name.toList, by simp⟩⟩
  have inner : trimBrackets ("[" ++ name ++ "]") = name := by
    rw [← String.toList_inj, trimBrackets, String.toList_ofList, whole, trimmed_cons (by decide),
      trimmed_concat (by decide), trimmed_eq_self first last]
  rw [untrimmed]
  refine ⟨?_, nonempty_of_toList (c := '[') (by rw [whole]; simp), nonempty⟩
  rw [parseWritableHeader, untrimmed, if_pos bracketed, inner]

theorem parse_header {header : BlockHeader} (wellFormed : header.WellFormed) :
    parseWritableHeader (trimSpace header.text) = (header.name, header.description) ∧
      trimSpace header.text ≠ "" ∧ header.name ≠ "" := by
  cases header with
  | described name description => exact parse_described wellFormed
  | bracketed name => exact parse_bracketed wellFormed

/-! ## The lines of a block -/

section Lines

variable {F : Type} (parseFloat : String → Option F)

theorem text_eq (line : BlockLine) : line.text = line.key ++ ":" ++ (" " ++ line.content) := by
  simp [BlockLine.text, ← String.toList_inj]

/-- No key has a colon, and none begins with a blank. -/
theorem key_shape (line : BlockLine) :
    ':' ∉ line.key.toList ∧ ∀ c ∈ line.key.toList.head?, isSpaceRune c = false := by
  cases line with
  | _ =>
    constructor
    · simp only [BlockLine.key]
      decide
    · intro c first
      simp only [BlockLine.key] at first
      rw [← Option.some.inj first]
      decide

/-- A line is read as its key and its content. -/
theorem cut_line {line : BlockLine} (plain : trimSpace line.content = line.content) :
    ∃ rest, cutColon (trimSpace line.text) = some (line.key, rest) ∧ trimSpace rest = line.content := by
  obtain ⟨noColon, start⟩ := key_shape line
  have cut := cutColon_field (trimSpace_field (text_eq line) start) noColon
  exact ⟨_, cut, (trimSpace_rest _).trans plain⟩

theorem line_ne_empty (line : BlockLine) : trimSpace line.text ≠ "" := by
  apply nonempty_of_toList (c := ':')
  rw [trimSpace_field (text_eq line) (key_shape line).2]
  simp

/-- What a line does to the entry. -/
def BlockLine.apply (line : BlockLine) (v : UPSWritableVar F) : UPSWritableVar F :=
  match line with
  | .option w => { v with options := v.options ++ [w] }
  | .value w => if v.currentValue = "" then { v with currentValue := w } else v
  | .type w => { v with editor := editorOf w v.editor }
  | .desc w => if v.description = "" then { v with description := w } else v

/-- The keys are told apart by what they contain. -/
theorem addLine_line {line : BlockLine} (plain : trimSpace line.content = line.content) (v : UPSWritableVar F) :
    v.addLine parseFloat (trimSpace line.text) = line.apply v := by
  obtain ⟨rest, cut, content⟩ := cut_line plain
  rw [UPSWritableVar.addLine, cut]
  dsimp only
  rw [content]
  have optionKey : toLower (trimSpace "Option") = "option" := by decide +kernel
  have valueKey : toLower (trimSpace "Value") = "value" := by decide +kernel
  have typeKey : toLower (trimSpace "Type") = "type" := by decide +kernel
  have descKey : toLower (trimSpace "Desc") = "desc" := by decide +kernel
  cases line with
  | option value =>
    have found : contains "option" "value" = false ∧ contains "option" "desc" = false ∧
        contains "option" "option" = true := by decide
    simp [BlockLine.key, optionKey, UPSWritableVar.addField, found, BlockLine.apply, BlockLine.content]
  | value value =>
    have found : contains "value" "value" = true ∧ contains "value" "desc" = false ∧
        contains "value" "option" = false ∧ contains "value" "enum" = false ∧
        contains "value" "possible" = false ∧ contains "value" "range" = false ∧
        contains "value" "type" = false := by decide
    simp [BlockLine.key, valueKey, UPSWritableVar.addField, found, BlockLine.apply, BlockLine.content]
  | type value =>
    have found : contains "type" "value" = false ∧ contains "type" "desc" = false ∧
        contains "type" "option" = false ∧ contains "type" "enum" = false ∧
        contains "type" "possible" = false ∧ contains "type" "range" = false ∧
        contains "type" "type" = true := by decide
    simp [BlockLine.key, typeKey, UPSWritableVar.addField, found, BlockLine.apply, BlockLine.content]
  | desc value =>
    have found : contains "desc" "value" = false ∧ contains "desc" "desc" = true ∧
        contains "desc" "option" = false ∧ contains "desc" "enum" = false ∧
        contains "desc" "possible" = false ∧ contains "desc" "range" = false ∧
        contains "desc" "type" = false := by decide
    simp [BlockLine.key, descKey, UPSWritableVar.addField, found, BlockLine.apply, BlockLine.content]

theorem firstNonEmpty_cons (text : String) (texts : List String) :
    firstNonEmpty (text :: texts) = if text = "" then firstNonEmpty texts else text := by
  by_cases empty : text = "" <;> simp [firstNonEmpty, empty]

/-- The lines of a block, one after the other. -/
theorem foldl_lines (lines : List BlockLine) (v : UPSWritableVar F) :
    lines.foldl (fun v line => line.apply v) v = { v with
      description := firstNonEmpty (v.description :: lines.filterMap (·.desc?))
      editor := (lines.filterMap (·.type?)).foldl (fun editor value => editorOf value editor) v.editor
      currentValue := firstNonEmpty (v.currentValue :: lines.filterMap (·.value?))
      options := v.options ++ lines.filterMap (·.option?) } := by
  have own : ∀ text : String, firstNonEmpty [text] = text := by
    intro text
    by_cases empty : text = "" <;> simp [firstNonEmpty, empty]
  induction lines generalizing v with
  | nil => simp [own]
  | cons line lines ih =>
    rw [List.foldl_cons, ih]
    cases line with
    | option value => simp [BlockLine.apply, BlockLine.option?, BlockLine.value?, BlockLine.type?, BlockLine.desc?]
    | type value => simp [BlockLine.apply, BlockLine.option?, BlockLine.value?, BlockLine.type?, BlockLine.desc?]
    | value value =>
      by_cases empty : v.currentValue = "" <;>
        simp [BlockLine.apply, BlockLine.option?, BlockLine.value?, BlockLine.type?, BlockLine.desc?,
          firstNonEmpty_cons, empty]
    | desc value =>
      by_cases empty : v.description = "" <;>
        simp [BlockLine.apply, BlockLine.option?, BlockLine.value?, BlockLine.type?, BlockLine.desc?,
          firstNonEmpty_cons, empty]

/-- A block is read as its entry. -/
theorem parse_block (snapshot : String → String) (block : WritableBlock) :
    parseUPSWritableBlock parseFloat snapshot (trimSpace block.header.text)
      (block.lines.map fun line => trimSpace line.text) = some (block.entry snapshot) := by
  obtain ⟨header, -, named⟩ := parse_header block.wellFormed
  have lines : ∀ v : UPSWritableVar F,
      (block.lines.map fun line => trimSpace line.text).foldl (·.addLine parseFloat ·) v =
        block.lines.foldl (fun v line => line.apply v) v := by
    have plain := block.plain
    generalize block.lines = lines at plain
    intro v
    induction lines generalizing v with
    | nil => rfl
    | cons line lines ih =>
      rw [List.forall_mem_cons] at plain
      rw [List.map_cons, List.foldl_cons, List.foldl_cons, addLine_line parseFloat plain.1]
      exact ih plain.2 _
  rw [parseUPSWritableBlock, header]
  dsimp only
  rw [if_neg named, lines, foldl_lines]
  simp [UPSWritableVar.finished, WritableBlock.entry, WritableBlock.name]

theorem entry_name (snapshot : String → String) (block : WritableBlock) :
    (block.entry snapshot : UPSWritableVar F).name = block.name := rfl

/-! ## The whole text -/

/-- Lines that are not blank extend the block that is open. -/
theorem splitBlocks_append {texts : List String} (visible : ∀ text ∈ texts, trimSpace text ≠ "")
    (current rest : List String) :
    splitBlocks current (texts ++ rest) = splitBlocks (current ++ texts.map trimSpace) rest := by
  induction texts generalizing current with
  | nil => simp
  | cons text texts ih =>
    rw [List.forall_mem_cons] at visible
    rw [List.cons_append, splitBlocks, if_neg visible.1, ih visible.2]
    simp

theorem texts_visible (block : WritableBlock) : ∀ text ∈ block.texts, trimSpace text ≠ "" := by
  rw [WritableBlock.texts, List.forall_mem_cons]
  refine ⟨(parse_header block.wellFormed).2.1, ?_⟩
  intro text member
  obtain ⟨line, -, rfl⟩ := List.mem_map.mp member
  exact line_ne_empty line

/-- The blocks that are split off are those that were laid out. -/
theorem splitBlocks_laid {blocks : List WritableBlock} {lines : List String} (laid : Laid blocks lines) :
    splitBlocks [] lines = blocks.map fun block => block.texts.map trimSpace := by
  induction laid with
  | nil => rfl
  | blank blank laid ih => rw [splitBlocks, if_pos blank, if_pos rfl, ih]
  | last block =>
    have whole := splitBlocks_append (texts_visible block) [] []
    rw [List.append_nil] at whole
    rw [whole]
    simp [splitBlocks, WritableBlock.texts]
  | @block block blocks lines line blank laid ih =>
    rw [splitBlocks_append (texts_visible block), splitBlocks, if_pos blank, if_neg (by simp [WritableBlock.texts]), ih]
    rfl

/-- The entries of the first blocks whose names are not there yet. -/
theorem foldl_blocks (snapshot : String → String) (blocks : List WritableBlock) (vars : List (UPSWritableVar F)) :
    (blocks.map fun block => block.texts.map trimSpace).foldl (addBlock parseFloat snapshot) vars =
      vars ++ ((firstBlocks blocks).filter fun block => block.name ∉ vars.map (·.name)).map (·.entry snapshot) := by
  induction blocks generalizing vars with
  | nil => simp [firstBlocks]
  | cons block blocks ih =>
    have named : block.name ≠ "" := (parse_header block.wellFormed).2.2
    have parsed : parseUPSWritableBlock parseFloat snapshot (trimSpace block.header.text)
        ((block.lines.map (·.text)).map trimSpace) = some (block.entry snapshot) := by
      rw [List.map_map]
      exact parse_block parseFloat snapshot block
    have added : addBlock parseFloat snapshot vars (block.texts.map trimSpace) =
        if block.name ∈ vars.map (·.name) then vars else vars ++ [block.entry snapshot] := by
      rw [WritableBlock.texts, List.map_cons, addBlock]
      simp only [parsed, entry_name, named, false_or]
    rw [List.map_cons, List.foldl_cons, added, ih, firstBlocks]
    by_cases here : block.name ∈ vars.map (·.name)
    · -- the block is not the first of its name, and neither are those that were left out after it
      have others : ((firstBlocks blocks).filter fun other => other.name ≠ block.name).filter
          (fun other => other.name ∉ vars.map (·.name)) =
          (firstBlocks blocks).filter fun other => other.name ∉ vars.map (·.name) := by
        rw [List.filter_filter]
        apply List.filter_congr
        intro other _
        by_cases same : other.name = block.name
        · simp only [same, here, not_true_eq_false, decide_false, Bool.false_and]
        · simp [same]
      rw [if_pos here, List.filter_cons_of_neg (by simpa using here), others]
    · have others : ((firstBlocks blocks).filter fun other => other.name ≠ block.name).filter
          (fun other => other.name ∉ vars.map (·.name)) = (firstBlocks blocks).filter fun other =>
            other.name ∉ List.map UPSWritableVar.name (vars ++ [block.entry snapshot]) := by
        rw [List.filter_filter]
        apply List.filter_congr
        intro other _
        by_cases same : other.name = block.name
        · simp [same, entry_name]
        · simp [same, entry_name]
      rw [if_neg here, List.filter_cons_of_pos (by simpa using here), others, List.map_cons, List.append_assoc,
        List.singleton_append]

/-- Of well-formed blocks with blank lines between them there is one entry for each name, in the
    order of the first blocks and made of these. -/
theorem parse_laid {blocks : List WritableBlock} {lines : List String} (laid : Laid blocks lines)
    (inLine : ∀ line ∈ lines, '\n' ∉ line.toList) (snapshot : String → String) :
    parseUPSWritableVars parseFloat ("\n".intercalate lines) snapshot =
      (firstBlocks blocks).map (·.entry snapshot) := by
  have all := foldl_blocks parseFloat snapshot blocks []
  rw [← splitBlocks_laid laid, List.nil_append] at all
  have every : ((firstBlocks blocks).filter fun block =>
      block.name ∉ List.map UPSWritableVar.name ([] : List (UPSWritableVar F))) = firstBlocks blocks := by simp
  rw [every] at all
  rw [← all, parseUPSWritableVars, String.toList_intercalate]
  by_cases some_ : lines = []
  · subst some_
    rfl
  · have plain : ∀ line ∈ lines.map String.toList, '\n' ∉ line := by
      intro line member
      obtain ⟨text, inside, rfl⟩ := List.mem_map.mp member
      exact inLine text inside
    have split : (['\n'].intercalate (lines.map String.toList)).splitOn '\n' = lines.map String.toList :=
      List.splitOn_intercalate '\n' plain (by simpa using some_)
    have newline : "\n".toList = ['\n'] := rfl
    rw [newline, split, List.map_map]
    simp [Function.comp_def]

end Lines

/-- A block of three lines. -/
def lowBattery : WritableBlock where
  header := .described "battery.charge.low" "Low battery"
  lines := [.value "", .option "10", .option "20", .value "10"]
  wellFormed := by
    have all : ("battery.charge.low".toList.all fun c => c ≠ ':' && (!isSpaceRune c && !isBracket c)) = true := by
      decide +kernel
    refine ⟨.inl (by decide), ?_⟩
    intro c inside
    simpa using List.all_eq_true.mp all c inside
  plain := by decide +kernel

/-- Another block of the same name. -/
def lowBatteryAgain : WritableBlock where
  header := .bracketed "battery.charge.low"
  lines := [.value "30"]
  wellFormed := by
    refine ⟨by decide, ?_, ?_⟩
    · intro c first
      rw [← Option.some.inj first]
      decide
    · intro c last
      rw [← Option.some.inj last]
      decide
  plain := by decide +kernel

theorem parse_laid_of_two : parseUPSWritableVars (fun _ => (none : Option Nat))
    ("\n".intercalate (lowBattery.texts ++ " " :: lowBatteryAgain.texts)) (fun _ => "") =
      [{ name := "battery.charge.low", description := "Low battery", editor := "select", currentValue := "10",
         options := ["10", "20"] }] := by
  have laid : Laid [lowBattery, lowBatteryAgain] (lowBattery.texts ++ " " :: lowBatteryAgain.texts) :=
    .block (by decide) (.last _)
  rw [parse_laid _ laid (by decide)]
  decide

end Strom.Agent
