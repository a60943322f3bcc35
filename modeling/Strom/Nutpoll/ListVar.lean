import Mathlib.Data.List.Sort
import Strom.Go.Quoting

/-!
# Variables that are read and served again (`nutpoll.go`, the aggregate server's `manager.go`)

The poller reads a `LIST VAR` response with `listVariables`, and the aggregate server writes one
for its own clients.  `relayed_iff`: what the server writes is read back as the same variables if
and only if every value is UTF-8 without a line feed.  Texts are bytes here, since a device may
send any.
-/

namespace Strom.Nutpoll

open Strom.Go

/-- A Go map from variables to values; `set` keeps the keys distinct. -/
abbrev Variables := List (Bytes × Bytes)

namespace Variables

def get (vars : Variables) (key : Bytes) : Option Bytes := (vars.find? (·.1 = key)).map (·.2)

def set (vars : Variables) (key value : Bytes) : Variables := vars.filter (·.1 ≠ key) ++ [(key, value)]

end Variables

/-! ## Reading (`listVariables`) -/

/-- What `reader.ReadString('\n')` returns one after another; what follows the last line feed
    ends in an error. -/
def linesOf : Bytes → List Bytes
  | [] => []
  | b :: rest =>
    if b = lineFeed then [b] :: linesOf rest
    else
      match linesOf rest with
      | [] => []
      | line :: lines => (b :: line) :: lines

inductive ListVarError where
  /-- `read LIST VAR start for ..`. -/
  | start (upsName : Bytes)
  /-- `unexpected LIST VAR start for ..`. -/
  | unexpectedStart (upsName line : Bytes)
  /-- `read LIST VAR body for ..`. -/
  | body (upsName : Bytes)
  /-- `unexpected LIST VAR line for ..`. -/
  | unexpectedLine (upsName line : Bytes)
deriving DecidableEq

def readValue (text : Bytes) : Bytes := (unquote text).getD (trimQuotes text)

/-- The lines up to the end; with the variables, those that follow. -/
def readBody (upsName : Bytes) : List Bytes → Variables → Except ListVarError (Variables × List Bytes)
  | [], _ => .error (.body upsName)
  | raw :: lines, vars =>
    let line := trimSpaceBytes raw
    if line = utf8 "END LIST VAR " ++ upsName then .ok (vars, lines)
    else
      match splitN 4 line with
      | [first, name, key, text] =>
        if first = utf8 "VAR" ∧ name = upsName then readBody upsName lines (vars.set key (readValue text))
        else .error (.unexpectedLine upsName line)
      | _ => .error (.unexpectedLine upsName line)

/-- `listVariables`, once the request is sent. -/
def listVariables (upsName : Bytes) : List Bytes → Except ListVarError (Variables × List Bytes)
  | [] => .error (.start upsName)
  | raw :: lines =>
    if trimSpaceBytes raw = utf8 "BEGIN LIST VAR " ++ upsName then readBody upsName lines []
    else .error (.unexpectedStart upsName (trimSpaceBytes raw))

/-! ## Serving (`LIST VAR`) -/

/-- `strings.ReplaceAll` of one byte. -/
def replaceByte (old : UInt8) (new : Bytes) (bytes : Bytes) : Bytes :=
  bytes.flatMap fun b => if b = old then new else [b]

/-- `escapeNUTString`. -/
def escapeNUTBytes (value : Bytes) : Bytes :=
  replaceByte doubleQuote [backslashByte, doubleQuote] (replaceByte backslashByte [backslashByte, backslashByte] value)

/-- `VAR <ups> <key> "<value>"`. -/
def varLine (upsName : Bytes) (entry : Bytes × Bytes) : Bytes :=
  utf8 "VAR" ++ blank :: (upsName ++ blank :: (entry.1 ++ blank ::
    (doubleQuote :: escapeNUTBytes entry.2 ++ [doubleQuote])))

def sortedByKey (vars : Variables) : Variables := vars.mergeSort fun a b => decide (a.1 ≤ b.1)

/-- The response to `LIST VAR <ups>`. -/
def listVarResponse (upsName : Bytes) (vars : Variables) : List Bytes :=
  (utf8 "BEGIN LIST VAR " ++ upsName) ::
    ((sortedByKey vars).map (varLine upsName) ++ [utf8 "END LIST VAR " ++ upsName])

/-- What `handleConn` writes. -/
def wire (response : List Bytes) : Bytes := response.flatMap (· ++ [lineFeed])

/-- The response is read line by line as it was written, and gives the variables again. -/
structure Relayed (upsName : Bytes) (vars : Variables) : Prop where
  framed : linesOf (wire (listVarResponse upsName vars)) = (listVarResponse upsName vars).map (· ++ [lineFeed])
  same : ∃ back, listVariables upsName (linesOf (wire (listVarResponse upsName vars))) = .ok (back, []) ∧
    ∀ key, back.get key = vars.get key

/-- Valid UTF-8 without a line feed. -/
def PlainText (value : Bytes) : Prop := lineFeed ∉ value ∧ utf8 (textOf value) = value

instance (value : Bytes) : Decidable (PlainText value) := inferInstanceAs (Decidable (_ ∧ _))

/-! ## Lines -/

theorem linesOf_ne_nil (bytes : Bytes) : linesOf (bytes ++ [lineFeed]) ≠ [] := by
  induction bytes with
  | nil => simp [linesOf]
  | cons b rest ih =>
    rw [List.cons_append, linesOf]
    split
    · simp
    · split
      · next none_ => exact absurd none_ ih
      · simp

/-- A line feed ends a line. -/
theorem linesOf_append (bytes rest : Bytes) :
    linesOf (bytes ++ lineFeed :: rest) = linesOf (bytes ++ [lineFeed]) ++ linesOf rest := by
  induction bytes with
  | nil => simp [linesOf]
  | cons b bytes ih =>
    simp only [List.cons_append, linesOf, ih]
    split
    · rfl
    · cases first : linesOf (bytes ++ [lineFeed]) with
      | nil => exact absurd first (linesOf_ne_nil bytes)
      | cons line lines => rfl

/-- What has no line feed stands at the beginning of the first line. -/
theorem linesOf_front {front : Bytes} (oneLine : lineFeed ∉ front) {bytes line : Bytes} {lines : List Bytes}
    (first : linesOf bytes = line :: lines) : linesOf (front ++ bytes) = (front ++ line) :: lines := by
  induction front with
  | nil => exact first
  | cons b front ih =>
    simp only [List.mem_cons, not_or] at oneLine
    simp [linesOf, ih oneLine.2, Ne.symm oneLine.1]

theorem linesOf_oneLine {line : Bytes} (oneLine : lineFeed ∉ line) :
    linesOf (line ++ [lineFeed]) = [line ++ [lineFeed]] :=
  linesOf_front oneLine (by simp [linesOf])

theorem linesOf_wire (response : List Bytes) :
    linesOf (wire response) = response.flatMap fun line => linesOf (line ++ [lineFeed]) := by
  induction response with
  | nil => rfl
  | cons line response ih =>
    have split : wire (line :: response) = line ++ lineFeed :: wire response := by simp [wire]
    rw [split, linesOf_append, ih]
    rfl

theorem linesOf_wire_oneLine {response : List Bytes} (oneLine : ∀ line ∈ response, lineFeed ∉ line) :
    linesOf (wire response) = response.map (· ++ [lineFeed]) := by
  rw [linesOf_wire]
  induction response with
  | nil => rfl
  | cons line response ih =>
    simp only [List.forall_mem_cons] at oneLine
    rw [List.flatMap_cons, linesOf_oneLine oneLine.1, ih oneLine.2]
    rfl

/-- The lines of a text with paired backslashes have them, too. -/
theorem paired_linesOf {open_ : Bool} {bytes line : Bytes} {lines : List Bytes} (paired : Paired open_ bytes)
    (split : linesOf bytes = line :: lines) : Paired open_ line ∧ ∀ other ∈ lines, Paired false other := by
  induction bytes generalizing open_ line lines with
  | nil => cases split
  | cons b rest ih =>
    rw [linesOf] at split
    by_cases feed : b = lineFeed
    · subst feed
      rw [if_pos rfl] at split
      obtain ⟨rfl, later⟩ := List.cons.inj split
      obtain ⟨front, paired'⟩ : Paired open_ [] ∧ Paired false rest :=
        Paired.divide paired (by decide) (by decide)
      have one : Paired open_ [lineFeed] := by
        cases open_ with
        | false => trivial
        | true => exact front.elim
      refine ⟨one, ?_⟩
      cases lines with
      | nil => simp
      | cons next lines => simpa using ih paired' later
    · rw [if_neg feed] at split
      cases first : linesOf rest with
      | nil => simp [first] at split
      | cons next lines' =>
        rw [first] at split
        cases split
        cases open_ with
        | false =>
          have paired' : Paired (b = backslashByte) rest := paired
          have kept := ih paired' first
          exact kept
        | true => exact ⟨⟨paired.1, (ih paired.2 first).1⟩, (ih paired.2 first).2⟩

/-! ## Reading back -/

theorem escapeNUTBytes_eq (value : Bytes) : escapeNUTBytes value = escaped value := by
  induction value with
  | nil => rfl
  | cons b rest ih =>
    have step (part : Bytes) : escapeNUTBytes (part ++ rest) =
        replaceByte doubleQuote [backslashByte, doubleQuote] (replaceByte backslashByte [backslashByte, backslashByte] part) ++
          escapeNUTBytes rest := by
      simp [escapeNUTBytes, replaceByte]
    have first := step [b]
    rw [List.singleton_append] at first
    rw [first, ih, escaped_cons, escapeQuoted]
    congr 1
    by_cases slash : b = backslashByte
    · subst slash
      rfl
    · by_cases quote : b = doubleQuote
      · subst quote
        rfl
      · simp [replaceByte, slash, quote]

/-- What was quoted is read as its runes. -/
theorem readValue_quoted {value : Bytes} (oneLine : lineFeed ∉ value) :
    readValue (doubleQuote :: escapeNUTBytes value ++ [doubleQuote]) = utf8 (textOf value) := by
  rw [readValue, escapeNUTBytes_eq, unquote_quoted oneLine]
  rfl

theorem readValue_oneLine {text : Bytes} (paired : Paired false text) (oneLine : lineFeed ∉ text) :
    lineFeed ∉ readValue text := by
  unfold readValue
  cases read : unquote text with
  | some value => exact unquote_paired read paired oneLine
  | none =>
    intro member
    have inside := mem_of_mem_trimmed (p := fun b => decide (b = doubleQuote)) (l := text) member
    exact oneLine inside

/-- A variable whose key is no blank text and which stands on one line. -/
def Entry (entry : Bytes × Bytes) : Prop := blank ∉ entry.1 ∧ lineFeed ∉ entry.1

structure Kept (vars : Variables) : Prop where
  distinct : (vars.map (·.1)).Nodup
  keys : ∀ entry ∈ vars, Entry entry

theorem kept_set {vars : Variables} (kept : Kept vars) {key : Bytes} (value : Bytes) (entry : Entry (key, value)) :
    Kept (vars.set key value) := by
  constructor
  · have others : ((vars.filter (·.1 ≠ key)).map (·.1)).Nodup :=
      kept.distinct.sublist (List.filter_sublist.map _)
    rw [Variables.set, List.map_append, List.nodup_append]
    refine ⟨others, by simp, ?_⟩
    intro k member k' last
    obtain ⟨e, inside, rfl⟩ := List.mem_map.mp member
    obtain rfl : k' = key := by simpa using last
    simpa using (List.mem_filter.mp inside).2
  · intro e member
    obtain old | new := List.mem_append.mp member
    · exact kept.keys e (List.mem_of_mem_filter old)
    · obtain rfl := List.mem_singleton.mp new
      exact entry

/-- A line of a variable, taken apart. -/
theorem exists_of_split_line {line first name key text : Bytes} (split : splitN 4 line = [first, name, key, text]) :
    line = first ++ blank :: (name ++ blank :: (key ++ blank :: text)) ∧ blank ∉ first ∧ blank ∉ name ∧
      blank ∉ key := by
  obtain ⟨rest, rfl, plain, split⟩ := exists_of_splitN split
  obtain ⟨rest, rfl, plain', split⟩ := exists_of_splitN split
  obtain ⟨rest, rfl, plain'', split⟩ := exists_of_splitN split
  rw [splitN, List.singleton_inj] at split
  rw [split]
  exact ⟨rfl, plain, plain', plain''⟩

/-! ### What is read -/

theorem kept_readBody {upsName : Bytes} {lines rest : List Bytes} {vars vars' : Variables}
    (whole : ∀ raw ∈ lines, lineFeed ∉ trimSpaceBytes raw) (kept : Kept vars)
    (read : readBody upsName lines vars = .ok (vars', rest)) : Kept vars' := by
  induction lines generalizing vars with
  | nil => cases read
  | cons raw lines ih =>
    simp only [List.forall_mem_cons] at whole
    rw [readBody] at read
    split at read
    · cases read
      exact kept
    · split at read
      · next first name key text split_ =>
        split at read
        · obtain ⟨line, -, -, unbroken⟩ := exists_of_split_line split_
          have oneLine : lineFeed ∉ key := by
            intro member
            apply whole.1
            rw [line]
            simp [member]
          exact ih whole.2 (kept_set kept (readValue text) ⟨unbroken, oneLine⟩) read
        · cases read
      · cases read

theorem exists_of_mem_linesOf {bytes raw : Bytes} (member : raw ∈ linesOf bytes) :
    ∃ line, raw = line ++ [lineFeed] ∧ lineFeed ∉ line := by
  induction bytes generalizing raw with
  | nil => cases member
  | cons b rest ih =>
    rw [linesOf] at member
    split at member
    · next feed =>
      obtain rfl | later := List.mem_cons.mp member
      · exact ⟨[], by rw [feed]; rfl, List.not_mem_nil⟩
      · exact ih later
    · next other =>
      cases first : linesOf rest with
      | nil => simp [first] at member
      | cons next lines =>
        rw [first] at member
        obtain rfl | later := List.mem_cons.mp member
        · obtain ⟨line, rfl, oneLine⟩ := ih (first ▸ List.mem_cons_self)
          exact ⟨b :: line, rfl, by simpa using ⟨Ne.symm other, oneLine⟩⟩
        · exact ih (first ▸ List.mem_cons_of_mem _ later)

/-- The keys of what is read from a stream. -/
theorem kept_listVariables {upsName stream : Bytes} {rest : List Bytes} {vars : Variables}
    (read : listVariables upsName (linesOf stream) = .ok (vars, rest)) : Kept vars := by
  have whole : ∀ raw ∈ linesOf stream, lineFeed ∉ trimSpaceBytes raw := by
    intro raw member
    obtain ⟨line, rfl, oneLine⟩ := exists_of_mem_linesOf member
    exact trimSpaceBytes_oneLine oneLine
  cases lines : linesOf stream with
  | nil =>
    rw [lines] at read
    cases read
  | cons raw later =>
    rw [lines, listVariables] at read
    rw [lines] at whole
    split at read
    · have none_ : Kept [] := ⟨by simp, by simp⟩
      exact kept_readBody (fun raw member => whole raw (List.mem_cons_of_mem _ member)) none_ read
    · cases read

/-! ### Values -/

/-- If the line is one of a variable, then its value has escapes of backslashes and quotes only. -/
def Tame (raw : Bytes) : Prop := lineFeed ∉ trimSpaceBytes raw ∧
  ∀ name key text, splitN 4 (trimSpaceBytes raw) = [utf8 "VAR", name, key, text] → Paired false text

theorem readBody_oneLine {upsName : Bytes} {lines rest : List Bytes} {vars vars' : Variables}
    (tame : ∀ raw ∈ lines, Tame raw) (oneLine : ∀ entry ∈ vars, lineFeed ∉ entry.2)
    (read : readBody upsName lines vars = .ok (vars', rest)) : ∀ entry ∈ vars', lineFeed ∉ entry.2 := by
  induction lines generalizing vars with
  | nil => cases read
  | cons raw lines ih =>
    simp only [List.forall_mem_cons] at tame
    rw [readBody] at read
    split at read
    · cases read
      exact oneLine
    · split at read
      · next first name key text split_ =>
        split at read
        · next is =>
          obtain ⟨rfl, -⟩ := is
          have line := (exists_of_split_line split_).1
          have noFeed : lineFeed ∉ text := by
            intro member
            apply tame.1.1
            rw [line]
            simp [member]
          apply ih tame.2 _ read
          intro entry member
          obtain old | new := List.mem_append.mp member
          · exact oneLine entry (List.mem_of_mem_filter old)
          · obtain rfl := List.mem_singleton.mp new
            exact readValue_oneLine (tame.1.2 name key text split_) noFeed
        · cases read
      · cases read

theorem listVariables_oneLine {upsName : Bytes} {lines rest : List Bytes} {vars : Variables}
    (tame : ∀ raw ∈ lines, Tame raw) (read : listVariables upsName lines = .ok (vars, rest)) :
    ∀ entry ∈ vars, lineFeed ∉ entry.2 := by
  cases lines with
  | nil => cases read
  | cons raw lines =>
    rw [listVariables] at read
    split at read
    · exact readBody_oneLine (fun raw member => tame raw (List.mem_cons_of_mem _ member)) (by simp) read
    · cases read

/-- A line without a variable's shape, but with paired backslashes, is tame. -/
theorem tame_of_paired {raw : Bytes} (oneLine : lineFeed ∉ trimSpaceBytes raw) (paired : Paired false raw) :
    Tame raw := by
  refine ⟨oneLine, ?_⟩
  intro name key text split
  have trimmed := paired.trimSpaceBytes
  rw [(exists_of_split_line split).1] at trimmed
  obtain ⟨-, later⟩ := trimmed.divide (by decide) (by decide)
  obtain ⟨-, later⟩ := later.divide (by decide) (by decide)
  exact (later.divide (by decide) (by decide)).2

/-! ## The lines that are served -/

theorem trim_varLine (upsName : Bytes) (entry : Bytes × Bytes) :
    trimSpaceBytes (varLine upsName entry ++ [lineFeed]) = varLine upsName entry := by
  have first : varLine upsName entry = 0x56 :: (varLine upsName entry).tail := rfl
  have last : varLine upsName entry = utf8 "VAR" ++ blank :: (upsName ++ blank :: (entry.1 ++ blank ::
      (doubleQuote :: escapeNUTBytes entry.2))) ++ String.utf8EncodeChar '"' := by
    have quote : String.utf8EncodeChar '"' = [doubleQuote] := by decide
    simp [varLine, quote]
  exact trimSpaceBytes_line first last (by decide) (by decide) (by decide)

theorem varLine_ne_end (upsName : Bytes) (entry : Bytes × Bytes) :
    varLine upsName entry ≠ utf8 "END LIST VAR " ++ upsName := by
  intro same
  have first : some (0x56 : UInt8) = some 0x45 := congrArg List.head? same
  cases first

theorem varLine_oneLine {upsName : Bytes} {entry : Bytes × Bytes} (name : lineFeed ∉ upsName)
    (key : lineFeed ∉ entry.1) (value : lineFeed ∉ entry.2) : lineFeed ∉ varLine upsName entry := by
  have var : lineFeed ∉ utf8 "VAR" := by decide
  have escaped_ : lineFeed ∉ escapeNUTBytes entry.2 := by
    rw [escapeNUTBytes_eq, lineFeed_mem_escaped]
    exact value
  have feed : lineFeed ≠ blank := by decide
  have feed' : lineFeed ≠ doubleQuote := by decide
  simp [varLine, name, key, var, escaped_, feed, feed']

section Names

variable {request name : String} (asked : name ∈ fields request)
include asked

/-- A name in a request has no blanks in it. -/
theorem name_unbroken : blank ∉ utf8 name ∧ lineFeed ∉ utf8 name := by
  have visible : ∀ b : UInt8, IsAscii b → isSpaceRune (Char.ofNat b.toNat) = true → b ∉ utf8 name := by
    intro b ascii space member
    have inside := (mem_encoded_iff ascii).mp member
    rw [not_blank_of_mem_fields asked _ inside] at space
    cases space
  exact ⟨visible blank (by decide) (by decide), visible lineFeed (by decide) (by decide)⟩

/-- A line that ends with the name. -/
theorem trimSpaceBytes_name {b : UInt8} (words : Bytes) (ascii : IsAscii b)
    (visible : isSpaceRune (Char.ofNat b.toNat) = false) :
    trimSpaceBytes (b :: words ++ utf8 name ++ [lineFeed]) = b :: words ++ utf8 name := by
  obtain none_ | ⟨front, c, last⟩ := List.eq_nil_or_concat name.toList
  · exact absurd (String.toList_eq_nil_iff.mp none_) (ne_empty_of_mem_fields asked)
  · rw [List.concat_eq_append] at last
    have encoded : utf8 name = front.flatMap String.utf8EncodeChar ++ String.utf8EncodeChar c := by
      simp [utf8, last]
    have member : c ∈ name.toList := by simp [last]
    have first : b :: words ++ utf8 name = b :: (words ++ utf8 name) := rfl
    apply trimSpaceBytes_line first _ ascii visible
      (not_blank_of_mem_fields asked c member)
    · exact b :: words ++ front.flatMap String.utf8EncodeChar
    · simp [encoded]

theorem trim_begin : trimSpaceBytes (utf8 "BEGIN LIST VAR " ++ utf8 name ++ [lineFeed]) =
    utf8 "BEGIN LIST VAR " ++ utf8 name :=
  trimSpaceBytes_name asked (utf8 "EGIN LIST VAR ") (by decide) (by decide)

theorem trim_end : trimSpaceBytes (utf8 "END LIST VAR " ++ utf8 name ++ [lineFeed]) =
    utf8 "END LIST VAR " ++ utf8 name :=
  trimSpaceBytes_name asked (utf8 "ND LIST VAR ") (by decide) (by decide)

theorem splitN_varLine {entry : Bytes × Bytes} (unbroken : blank ∉ entry.1) :
    splitN 4 (varLine (utf8 name) entry) =
      [utf8 "VAR", utf8 name, entry.1, doubleQuote :: escapeNUTBytes entry.2 ++ [doubleQuote]] := by
  rw [varLine, splitN_cons 2 _ (by decide), splitN_cons 1 _ (name_unbroken asked).1, splitN_cons 0 _ unbroken]
  rfl

end Names

/-! ## The round trip -/

/-- A value as a reader gets it. -/
def asRead (entry : Bytes × Bytes) : Bytes × Bytes := (entry.1, utf8 (textOf entry.2))

namespace Variables

theorem get_eq_some_iff {vars : Variables} (distinct : (vars.map (·.1)).Nodup) (key value : Bytes) :
    vars.get key = some value ↔ (key, value) ∈ vars := by
  induction vars with
  | nil => simp [get]
  | cons entry vars ih =>
    simp only [List.map_cons, List.nodup_cons] at distinct
    have rest := ih distinct.2
    unfold get at rest ⊢
    by_cases same : entry.1 = key
    · subst same
      have absent : (entry.1, value) ∉ vars := fun member => distinct.1 (List.mem_map_of_mem (f := (·.1)) member)
      simp [absent, Prod.ext_iff, eq_comm]
    · simp [same, rest, Prod.ext_iff, Ne.symm same]

theorem mem_of_get {vars : Variables} {key value : Bytes} (found : vars.get key = some value) :
    (key, value) ∈ vars := by
  obtain ⟨entry, first, rfl⟩ := Option.map_eq_some_iff.mp found
  have same : entry.1 = key := by simpa using List.find?_some first
  rw [← same]
  exact List.mem_of_find?_eq_some first

/-- A new key is added at the end. -/
theorem set_of_new {vars : Variables} {key : Bytes} (new : key ∉ vars.map (·.1)) (value : Bytes) :
    vars.set key value = vars ++ [(key, value)] := by
  have others : vars.filter (·.1 ≠ key) = vars := by
    apply List.filter_eq_self.mpr
    intro entry member
    apply decide_eq_true
    rintro rfl
    exact new (List.mem_map_of_mem member)
  rw [set, others]

end Variables

/-- The first line of an entry: its key, and its value up to a line feed. -/
theorem tame_first {name : Bytes} {key q : Bytes} (plain : blank ∉ name) (unbroken : blank ∉ key)
    (paired : Paired false q)
    (whole : lineFeed ∉ trimSpaceBytes ((utf8 "VAR" ++ blank :: (name ++ blank :: (key ++ [blank]))) ++
      doubleQuote :: q)) :
    Tame ((utf8 "VAR" ++ blank :: (name ++ blank :: (key ++ [blank]))) ++ doubleQuote :: q) := by
  refine ⟨whole, ?_⟩
  intro name' key' text split
  have first : (utf8 "VAR" ++ blank :: (name ++ blank :: (key ++ [blank]))) ++ doubleQuote :: q =
      0x56 :: (utf8 "AR" ++ blank :: (name ++ blank :: (key ++ [blank])) ++ doubleQuote :: q) := rfl
  obtain ⟨kept, last, rfl, blanks, trimmed⟩ := trimSpaceBytes_quote first (by decide) (by decide) rfl
  have parts : splitN 4 ((utf8 "VAR" ++ blank :: (name ++ blank :: (key ++ [blank]))) ++ doubleQuote :: kept) =
      [utf8 "VAR", name, key, doubleQuote :: kept] := by
    have shape : (utf8 "VAR" ++ blank :: (name ++ blank :: (key ++ [blank]))) ++ doubleQuote :: kept =
        utf8 "VAR" ++ blank :: (name ++ blank :: (key ++ blank :: (doubleQuote :: kept))) := by simp
    rw [shape, splitN_cons 2 _ (by decide), splitN_cons 1 _ plain, splitN_cons 0 _ unbroken]
    rfl
  rw [trimmed, parts] at split
  cases split
  exact paired.front blanks

section RoundTrip

variable {request name : String} (asked : name ∈ fields request)
include asked

/-- The entries that were served are read one after another. -/
theorem readBody_served {entries vars : Variables} (keys : ∀ entry ∈ entries, Entry entry)
    (values : ∀ entry ∈ entries, lineFeed ∉ entry.2) (distinct : ((vars ++ entries).map (·.1)).Nodup) :
    readBody (utf8 name) ((entries.map (varLine (utf8 name)) ++ [utf8 "END LIST VAR " ++ utf8 name]).map
      (· ++ [lineFeed])) vars = .ok (vars ++ entries.map asRead, []) := by
  induction entries generalizing vars with
  | nil =>
    rw [List.map_nil, List.nil_append, List.map_singleton, readBody, trim_end asked, if_pos rfl]
    simp
  | cons entry entries ih =>
    simp only [List.forall_mem_cons] at keys values
    have new : entry.1 ∉ vars.map (·.1) := by
      simp only [List.map_append, List.map_cons, List.nodup_append] at distinct
      intro member
      exact distinct.2.2 _ member _ List.mem_cons_self rfl
    have distinct' : (((vars ++ [asRead entry]) ++ entries).map (·.1)).Nodup := by
      simpa [asRead] using distinct
    have rest := ih keys.2 values.2 distinct'
    rw [List.map_cons, List.cons_append, List.map_cons, readBody, trim_varLine, if_neg (varLine_ne_end _ _),
      splitN_varLine asked keys.1.1]
    dsimp only
    rw [if_pos ⟨rfl, rfl⟩, readValue_quoted values.1, Variables.set_of_new new]
    rw [List.append_assoc] at rest
    exact rest

/-- The response to a map of one-line values is read back as what its readers make of them. -/
theorem listVariables_served {vars : Variables} (kept : Kept vars) (values : ∀ entry ∈ vars, lineFeed ∉ entry.2) :
    linesOf (wire (listVarResponse (utf8 name) vars)) = (listVarResponse (utf8 name) vars).map (· ++ [lineFeed]) ∧
      listVariables (utf8 name) (linesOf (wire (listVarResponse (utf8 name) vars))) =
        .ok ((sortedByKey vars).map asRead, []) := by
  have sorted : (sortedByKey vars).Perm vars := List.mergeSort_perm ..
  have named := name_unbroken asked
  have keys : ∀ entry ∈ sortedByKey vars, Entry entry :=
    fun entry member => kept.keys entry (sorted.mem_iff.mp member)
  have values' : ∀ entry ∈ sortedByKey vars, lineFeed ∉ entry.2 :=
    fun entry member => values entry (sorted.mem_iff.mp member)
  have oneLine : ∀ line ∈ listVarResponse (utf8 name) vars, lineFeed ∉ line := by
    have words : lineFeed ∉ utf8 "BEGIN LIST VAR " ∧ lineFeed ∉ utf8 "END LIST VAR " := by decide
    intro line member
    simp only [listVarResponse, List.mem_cons, List.mem_append, List.mem_map, List.not_mem_nil,
      or_false] at member
    obtain rfl | ⟨entry, inside, rfl⟩ | rfl := member
    · simp [words, named]
    · exact varLine_oneLine named.2 (keys entry inside).2 (values' entry inside)
    · simp [words, named]
  refine ⟨linesOf_wire_oneLine oneLine, ?_⟩
  rw [linesOf_wire_oneLine oneLine, listVarResponse, List.map_cons, listVariables, trim_begin asked, if_pos rfl]
  apply readBody_served asked keys values'
  exact (sorted.map (·.1)).nodup_iff.mpr kept.distinct

/-- No line of a response brings a line feed into a value. -/
theorem tame_served {vars : Variables} (kept : Kept vars) :
    ∀ raw ∈ linesOf (wire (listVarResponse (utf8 name) vars)), Tame raw := by
  have named := name_unbroken asked
  -- a line that is not one of a variable
  have other (words : Bytes) (oneLine : lineFeed ∉ words) (trimmed : trimSpaceBytes (words ++ [lineFeed]) = words)
      (apart : words.head? ≠ some 0x56) : ∀ raw ∈ linesOf (words ++ [lineFeed]), Tame raw := by
    intro raw member
    rw [linesOf_oneLine oneLine, List.mem_singleton] at member
    subst member
    refine ⟨trimSpaceBytes_oneLine oneLine, ?_⟩
    intro _ key text split
    rw [trimmed] at split
    rw [(exists_of_split_line split).1] at apart
    exact absurd rfl apart
  have words : lineFeed ∉ utf8 "BEGIN LIST VAR " ∧ lineFeed ∉ utf8 "END LIST VAR " := by decide
  intro raw member
  rw [linesOf_wire] at member
  obtain ⟨line, inside, here⟩ := List.mem_flatMap.mp member
  simp only [listVarResponse, List.mem_cons, List.mem_append, List.mem_map, List.not_mem_nil, or_false] at inside
  obtain rfl | ⟨entry, served, rfl⟩ | rfl := inside
  · have apart : some (0x42 : UInt8) ≠ some 0x56 := by decide
    exact other _ (by simp [words, named]) (trim_begin asked) apart raw here
  · -- the value may have line feeds: the first line holds the key, the others a part of the value
    have keys := kept.keys entry ((List.mergeSort_perm ..).mem_iff.mp served)
    obtain ⟨text, feed, oneLine⟩ := exists_of_mem_linesOf here
    have whole : lineFeed ∉ trimSpaceBytes raw := feed ▸ trimSpaceBytes_oneLine oneLine
    have shape : varLine (utf8 name) entry ++ [lineFeed] = (utf8 "VAR" ++ blank :: (utf8 name ++ blank ::
        (entry.1 ++ [blank]))) ++ (doubleQuote :: (escaped entry.2 ++ [doubleQuote, lineFeed])) := by
      simp [varLine, escapeNUTBytes_eq]
    have unbroken : lineFeed ∉ utf8 "VAR" ++ blank :: (utf8 name ++ blank :: (entry.1 ++ [blank])) := by
      have var : lineFeed ∉ utf8 "VAR" := by decide
      have feed : lineFeed ≠ blank := by decide
      simp [var, named, keys.2, feed]
    have paired : Paired false (escaped entry.2 ++ [doubleQuote, lineFeed]) := paired_escaped trivial
    cases split : linesOf (escaped entry.2 ++ [doubleQuote, lineFeed]) with
    | nil =>
      have ends : escaped entry.2 ++ [doubleQuote, lineFeed] = (escaped entry.2 ++ [doubleQuote]) ++ [lineFeed] := by
        simp
      exact absurd (ends ▸ split) (linesOf_ne_nil _)
    | cons first lines =>
      obtain ⟨paired_, others⟩ := paired_linesOf paired split
      have quote : lineFeed ∉ [doubleQuote] := by decide
      have quoted : linesOf (doubleQuote :: (escaped entry.2 ++ [doubleQuote, lineFeed])) =
          (doubleQuote :: first) :: lines := linesOf_front quote split
      rw [shape, linesOf_front unbroken quoted] at here
      obtain rfl | later := List.mem_cons.mp here
      · exact tame_first named.1 keys.1 paired_ whole
      · exact tame_of_paired whole (others raw later)
  · have apart : some (0x45 : UInt8) ≠ some 0x56 := by decide
    exact other _ (by simp [words, named]) (trim_end asked) apart raw here

end RoundTrip

/-- The variables that the poller has read, whatever the stream was, are relayed by the aggregate
    server as they are if and only if their values are plain texts. -/
theorem relayed_iff {request name : String} (asked : name ∈ fields request) {upsName stream : Bytes}
    {vars : Variables} {rest : List Bytes} (read : listVariables upsName (linesOf stream) = .ok (vars, rest)) :
    Relayed (utf8 name) vars ↔ ∀ entry ∈ vars, PlainText entry.2 := by
  have kept := kept_listVariables read
  have sorted : (sortedByKey vars).Perm vars := List.mergeSort_perm ..
  have distinct : ((sortedByKey vars).map (·.1)).Nodup := (sorted.map (·.1)).nodup_iff.mpr kept.distinct
  constructor
  · intro relayed
    obtain ⟨back, readBack, same⟩ := relayed.same
    -- no value that is read back has a line feed
    have oneLine : ∀ entry ∈ vars, lineFeed ∉ entry.2 := by
      intro entry member
      have found : back.get entry.1 = some entry.2 := by
        rw [same]
        exact (Variables.get_eq_some_iff kept.distinct _ _).mpr member
      exact listVariables_oneLine (tame_served asked kept) readBack _ (Variables.mem_of_get found)
    obtain ⟨-, served⟩ := listVariables_served asked kept oneLine
    obtain rfl : (sortedByKey vars).map asRead = back := by
      rw [served] at readBack
      cases readBack
      rfl
    have distinct' : (((sortedByKey vars).map asRead).map (·.1)).Nodup := by
      rw [List.map_map]
      exact distinct
    intro entry member
    refine ⟨oneLine entry member, ?_⟩
    have inside : (entry.1, utf8 (textOf entry.2)) ∈ (sortedByKey vars).map asRead :=
      List.mem_map_of_mem (f := asRead) (sorted.mem_iff.mpr member)
    have found := (Variables.get_eq_some_iff distinct' _ _).mpr inside
    rw [same, (Variables.get_eq_some_iff kept.distinct _ _).mpr member] at found
    exact (Option.some.inj found).symm
  · intro plain
    obtain ⟨framed, readBack⟩ := listVariables_served asked kept fun entry member => (plain entry member).1
    refine ⟨framed, _, readBack, ?_⟩
    have each : ∀ entry ∈ sortedByKey vars, asRead entry = entry := by
      intro entry member
      exact Prod.ext rfl (plain entry (sorted.mem_iff.mp member)).2
    have unchanged : (sortedByKey vars).map asRead = sortedByKey vars :=
      (List.map_congr_left each).trans (List.map_id _)
    intro key
    rw [unchanged]
    apply Option.ext
    intro value
    rw [Variables.get_eq_some_iff distinct, Variables.get_eq_some_iff kept.distinct, sorted.mem_iff]

/-- One variable with a plain value. -/
theorem relayed_iff_of_plain :
    Relayed (utf8 "ups__a") [(utf8 "ups.status", utf8 "OL")] ↔
      ∀ entry ∈ [(utf8 "ups.status", utf8 "OL")], PlainText entry.2 := by
  have asked : "ups__a" ∈ fields "LIST VAR ups__a" := by decide
  have read : listVariables (utf8 "a")
      (linesOf (utf8 "BEGIN LIST VAR a\nVAR a ups.status \"OL\"\nEND LIST VAR a\n")) =
        .ok ([(utf8 "ups.status", utf8 "OL")], []) := by decide
  exact relayed_iff asked read

/-- A model name with an escaped line feed brings in a status that the device never had, and a byte
    that is no UTF-8 is replaced. -/
theorem escaped_values_change :
    (∃ vars, listVariables (utf8 "a") (linesOf (utf8
        "BEGIN LIST VAR a\nVAR a ups.model \"x\\nVAR ups__a ups.status OB\"\nEND LIST VAR a\n")) = .ok (vars, []) ∧
      ¬ Relayed (utf8 "ups__a") vars ∧
      listVariables (utf8 "ups__a") (linesOf (wire (listVarResponse (utf8 "ups__a") vars))) =
        .ok ([(utf8 "ups.model", utf8 "x"), (utf8 "ups.status", utf8 "OB")], [])) ∧
    ∃ vars, listVariables (utf8 "a") (linesOf (utf8
        "BEGIN LIST VAR a\nVAR a ups.model \"\\xff\"\nEND LIST VAR a\n")) = .ok (vars, []) ∧
      ¬ Relayed (utf8 "ups__a") vars := by
  have injected : listVariables (utf8 "ups__a") (linesOf (wire (listVarResponse (utf8 "ups__a")
      [(utf8 "ups.model", utf8 "x\nVAR ups__a ups.status OB")]))) =
        .ok ([(utf8 "ups.model", utf8 "x"), (utf8 "ups.status", utf8 "OB")], []) := by decide +kernel
  have replaced : listVariables (utf8 "ups__a") (linesOf (wire (listVarResponse (utf8 "ups__a")
      [(utf8 "ups.model", [0xFF])]))) = .ok ([(utf8 "ups.model", utf8 "\uFFFD")], []) := by decide +kernel
  refine ⟨⟨[(utf8 "ups.model", utf8 "x\nVAR ups__a ups.status OB")], by decide +kernel, ?_, injected⟩,
    [(utf8 "ups.model", [0xFF])], by decide +kernel, ?_⟩
  · intro relayed
    obtain ⟨back, readBack, same⟩ := relayed.same
    rw [injected] at readBack
    cases readBack
    exact absurd (same (utf8 "ups.status")) (by decide)
  · intro relayed
    obtain ⟨back, readBack, same⟩ := relayed.same
    rw [replaced] at readBack
    cases readBack
    exact absurd (same (utf8 "ups.model")) (by decide)

end Strom.Nutpoll
