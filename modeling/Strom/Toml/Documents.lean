import Strom.Python.Text
import Strom.Toml.Strings

/-!
# Reading a TOML document (`tomllib.loads`)

The reader takes the expressions that a document is made of one after the other: comments, table
headers and pairs whose value is a boolean, a decimal integer or a string in double quotes.
Everything else of TOML is left to a continuation that gets the tables read so far (`Grammar`).
What it must keep is what TOML promises of the whole language: a value once read is never changed
by what follows, so a pair that has been read stays in the table of the document
(`readDocument_keeps`).
-/

namespace Strom.Toml

open Strom.Go Strom.Python

inductive Value where
  | boolean (b : Bool)
  | integer (n : Int)
  | string (s : String)
  | array (items : List Value)
  | table (entries : List (String × Value))
  /-- A float, a date or a time, by its text. -/
  | other (text : String)
deriving Inhabited

abbrev Table := List (String × Value)

/-- The tables read so far, in their order; a pair goes into the last one. -/
abbrev Tables := List (String × Table)

/-- The message of a `TOMLDecodeError`, which is a `ValueError`. -/
abbrev DecodeError := String

/-- The value of a key of a table of the document. -/
def field (data : Table) (name key : String) : Option Value :=
  match data.lookup name with
  | some (.table entries) => entries.lookup key
  | _ => none

/-- The document has every value of the tables. -/
def Extends (data : Table) (tables : Tables) : Prop :=
  ∀ name key value, (tables.lookup name).bind (·.lookup key) = some value → field data name key = some value

/-- Where the reader leaves the modelled expressions. -/
inductive Position where
  | expression
  /-- Behind a value, on its line. -/
  | afterValue
deriving DecidableEq, Repr

/-- The rest of the grammar: what the document makes of the tables read so far and the text left. -/
structure Grammar where
  read : Tables → Position → List Char → Except DecodeError Table
  keeps : ∀ {tables position text data}, read tables position text = .ok data → Extends data tables

/-- The grammar without the rest: what is not modelled is an error. -/
def Grammar.modelled : Grammar where
  read _ _ _ := .error "Invalid statement"
  keeps := by
    intro _ _ _ _ read
    cases read

/-! ## Values -/

/-- What the text behind `key = ` starts with. -/
inductive Scalar where
  | value (v : Value) (rest : List Char)
  | invalid (cause : DecodeError)
  | unknown

def atLineEnd : List Char → Bool
  | [] => true
  | c :: _ => c == '\n'

/-- A decimal integer without sign and without leading zero (the digits are those that the number
    has), on the rest of the line. -/
def decimalInteger (text : List Char) : Scalar :=
  match text.span Char.isDigit with
  | (digits, rest) =>
    if !atLineEnd rest ∨ Nat.toDigits 10 (digitsValue digits) ≠ digits then .unknown
    else match asciiDecimals.int digits with
      | .ok n => .value (.integer n) rest
      | .error cause => .invalid cause

def scalar (text : List Char) : Scalar :=
  match text with
  | '"' :: _ =>
    match string text with
    | some (value, rest) => .value (.string (String.ofList value)) rest
    | none => .invalid "Illegal string"
  | 't' :: 'r' :: 'u' :: 'e' :: rest => if atLineEnd rest then .value (.boolean true) rest else .unknown
  | 'f' :: 'a' :: 'l' :: 's' :: 'e' :: rest => if atLineEnd rest then .value (.boolean false) rest else .unknown
  | _ => decimalInteger text

/-! ## Expressions -/

/-- A character of a bare key. -/
def isBare (c : Char) : Bool := c.isAlphanum || c == '-' || c == '_'

/-- Add a pair to the last table. -/
def addPair (key : String) (value : Value) : Tables → Option Tables
  | [] => none
  | [(name, entries)] => if (entries.lookup key).isSome then none else some [(name, entries ++ [(key, value)])]
  | table :: rest => (addPair key value rest).map (table :: ·)

/-- The table of a document that has these tables. -/
def documentOf (tables : Tables) : Table := tables.map fun table => (table.1, .table table.2)

def readDocument (grammar : Grammar) : Nat → Tables → List Char → Except DecodeError Table
  | 0, _, _ => .error "out of fuel"
  | fuel + 1, tables, text =>
    match text with
    | [] => .ok (documentOf tables)
    | '\n' :: rest => readDocument grammar fuel tables rest
    | '#' :: rest =>
      match rest.span (· != '\n') with
      | (comment, after) =>
        if comment.all fun c => !isControl c then readDocument grammar fuel tables after
        else grammar.read tables .expression text
    | '[' :: rest =>
      match rest.span isBare with
      | (name, ']' :: after) =>
        if name = [] ∨ !atLineEnd after then grammar.read tables .expression text
        else if (tables.lookup (String.ofList name)).isSome then .error "Cannot declare a table twice"
        else readDocument grammar fuel (tables ++ [(String.ofList name, [])]) after
      | _ => grammar.read tables .expression text
    | _ =>
      match text.span isBare with
      | (key, ' ' :: '=' :: ' ' :: value) =>
        if key = [] ∨ tables = [] then grammar.read tables .expression text
        else match scalar value with
          | .unknown => grammar.read tables .expression text
          | .invalid cause => .error cause
          | .value v after =>
            match addPair (String.ofList key) v tables with
            | none => .error "Cannot overwrite a value"
            | some tables =>
              if atLineEnd after then readDocument grammar fuel tables after
              else grammar.read tables .afterValue after
      | _ => grammar.read tables .expression text

/-- `tomllib.loads`; the line endings are those of a file read as text. -/
def loads (grammar : Grammar) (text : List Char) : Except DecodeError Table :=
  readDocument grammar (text.length + 1) [] text

/-! ## What has been read stays -/

/-- The value that the tables have for a key. -/
def valueIn (tables : Tables) (name key : String) : Option Value := (tables.lookup name).bind (·.lookup key)

theorem field_documentOf (tables : Tables) (name key : String) :
    field (documentOf tables) name key = valueIn tables name key := by
  induction tables with
  | nil => rfl
  | cons table rest ih =>
    obtain ⟨other, entries⟩ := table
    unfold field documentOf valueIn at *
    by_cases same : name = other
    · simp [same]
    · have apart : (name == other) = false := beq_eq_false_iff_ne.mpr same
      simpa only [List.map_cons, List.lookup_cons, apart] using ih

theorem valueIn_header {tables : Tables} {name key : String} {value : Value}
    (found : valueIn tables name key = some value) (header : String) :
    valueIn (tables ++ [(header, [])]) name key = some value := by
  unfold valueIn at *
  obtain ⟨entries, table, entry⟩ := Option.bind_eq_some_iff.mp found
  rw [List.lookup_append, table]
  exact entry

theorem valueIn_addPair {tables tables' : Tables} {name key other : String} {value v : Value}
    (found : valueIn tables name key = some value) (added : addPair other v tables = some tables') :
    valueIn tables' name key = some value := by
  unfold valueIn at *
  fun_induction addPair other v tables generalizing tables' with
  | case1 => cases added
  | case2 last entries taken => cases added
  | case3 last entries fresh =>
    cases added
    simp only [List.lookup_cons, List.lookup_nil] at found ⊢
    cases same : name == last with
    | false =>
      rw [same] at found
      cases found
    | true =>
      simp only [same, Option.bind_some] at found ⊢
      rw [List.lookup_append, found]
      rfl
  | case4 table rest _ ih =>
    obtain ⟨rest', added', whole⟩ := Option.map_eq_some_iff.mp added
    subst whole
    obtain ⟨first, entries⟩ := table
    simp only [List.lookup_cons] at found ⊢
    cases same : name == first with
    | true => simpa only [same] using found
    | false =>
      simp only [same] at found ⊢
      exact ih found added'

/-- A value that has been read stays, whatever follows. -/
theorem readDocument_keeps {grammar : Grammar} {fuel : Nat} {tables : Tables} {text : List Char} {data : Table}
    (read : readDocument grammar fuel tables text = .ok data) : Extends data tables := by
  induction fuel generalizing tables text with
  | zero => cases read
  | succ fuel ih =>
    unfold readDocument at read
    split at read
    · cases read
      intro name key value found
      rw [field_documentOf]
      exact found
    · exact ih read
    · split at read
      split at read
      · exact ih read
      · exact grammar.keeps read
    · split at read
      · split at read
        · exact grammar.keeps read
        · split at read
          · cases read
          · intro name key value found
            exact ih read name key value (valueIn_header found _)
      · exact grammar.keeps read
    · split at read
      · split at read
        · exact grammar.keeps read
        · split at read
          · exact grammar.keeps read
          · cases read
          · split at read
            · cases read
            · next added =>
              intro name key value found
              have still := valueIn_addPair found added
              split at read
              · exact ih read name key value still
              · exact grammar.keeps read name key value still
      · exact grammar.keeps read

/-! ## Values read back -/

theorem scalar_toDigits {n : Nat} (short : (Nat.toDigits 10 n).length ≤ maxStrDigits) (rest : List Char) :
    scalar (Nat.toDigits 10 n ++ '\n' :: rest) = .value (.integer n) ('\n' :: rest) := by
  have stop : ∀ c ∈ ('\n' :: rest).head?, c.isDigit = false := by
    intro c first
    cases first
    rfl
  have value : digitsValue (Nat.toDigits 10 n) = n := Nat.ofDigitChars_ten_toDigits
  have integer : decimalInteger (Nat.toDigits 10 n ++ '\n' :: rest) = .value (.integer n) ('\n' :: rest) := by
    unfold decimalInteger
    simp only [span_stop (fun _ inside => isDigit_of_mem_str inside) stop, value, Decimals.int, if_pos short,
      asciiDecimals.number_toDigits, atLineEnd]
    exact if_neg (by simp)
  have digit : ∀ c ∈ (Nat.toDigits 10 n ++ '\n' :: rest).head?, c.isDigit = true := by
    rw [List.head?_append_of_ne_nil _ Nat.toDigits_ne_nil]
    exact fun c first => isDigit_of_mem_str (List.mem_of_mem_head? first)
  rw [← integer]
  generalize Nat.toDigits 10 n ++ '\n' :: rest = text at digit
  unfold scalar
  split
  · cases digit _ rfl
  · cases digit _ rfl
  · cases digit _ rfl
  · rfl

/-- A quoted value denotes its string, or nothing. -/
theorem scalar_quote (text : List Char) :
    scalar ('"' :: text) =
      match string ('"' :: text) with
      | some (value, rest) => .value (.string (String.ofList value)) rest
      | none => .invalid "Illegal string" := rfl

/-! ## One line -/

section Lines

variable (grammar : Grammar) (fuel : Nat) (tables : Tables)

theorem read_feed (rest : List Char) :
    readDocument grammar (fuel + 1) tables ("\n".toList ++ rest) = readDocument grammar fuel tables rest := rfl

theorem read_comment {line comment : List Char} (shape : line = '#' :: (comment ++ ['\n']))
    (clean : ∀ c ∈ comment, isControl c = false) (rest : List Char) :
    readDocument grammar (fuel + 2) tables (line ++ rest) = readDocument grammar fuel tables rest := by
  have inside : ∀ c ∈ comment, (c != '\n') = true := by
    intro c member
    rw [bne_iff_ne]
    rintro rfl
    cases clean _ member
  have stop : ∀ c ∈ ('\n' :: rest).head?, (c != '\n') = false := by simp
  have all : (comment.all fun c => !isControl c) = true := by
    rw [List.all_eq_true]
    intro c member
    rw [clean c member]
    rfl
  have whole : line ++ rest = '#' :: (comment ++ '\n' :: rest) := by simp [shape]
  rw [whole, readDocument]
  simp only [span_stop inside stop, all, if_true]
  rfl

theorem read_header {line name : List Char} (shape : line = '[' :: (name ++ [']', '\n']))
    (bare : ∀ c ∈ name, isBare c = true) (given : name ≠ [])
    (fresh : tables.lookup (String.ofList name) = none) (rest : List Char) :
    readDocument grammar (fuel + 2) tables (line ++ rest) =
      readDocument grammar fuel (tables ++ [(String.ofList name, [])]) rest := by
  have stop : ∀ c ∈ (']' :: '\n' :: rest).head?, isBare c = false := by
    intro c first
    cases first
    rfl
  have whole : line ++ rest = '[' :: (name ++ ']' :: '\n' :: rest) := by simp [shape]
  rw [whole, readDocument]
  simp only [span_stop bare stop, given, fresh, atLineEnd, Option.isSome_none]
  rfl

/-- Behind a bare key stands its value. -/
theorem read_pair {front key : List Char} (shape : front = key ++ [' ', '=', ' ']) (given : key ≠ [])
    (bare : ∀ c ∈ key, isBare c = true) (open_ : tables ≠ []) (text : List Char) :
    readDocument grammar (fuel + 1) tables (front ++ text) =
      match scalar text with
      | .unknown => grammar.read tables .expression (front ++ text)
      | .invalid cause => .error cause
      | .value v after =>
        match addPair (String.ofList key) v tables with
        | none => .error "Cannot overwrite a value"
        | some tables =>
          if atLineEnd after then readDocument grammar fuel tables after
          else grammar.read tables .afterValue after := by
  have stop : ∀ d ∈ (' ' :: '=' :: ' ' :: text).head?, isBare d = false := by
    intro d first
    cases first
    rfl
  have split : (front ++ text).span isBare = (key, ' ' :: '=' :: ' ' :: text) := by
    rw [← span_stop bare stop, shape, List.append_assoc]
    rfl
  have head : ∀ d ∈ (front ++ text).head?, isBare d = true := by
    rw [shape, List.append_assoc, List.head?_append_of_ne_nil _ given]
    exact fun d first => bare d (List.mem_of_mem_head? first)
  have some_text : front ++ text ≠ [] := by simp [shape]
  generalize front ++ text = line at split head some_text
  -- a bare key starts with no line feed, no number sign and no bracket
  rw [readDocument.eq_6]
  · simp only [split, given, open_, or_self, if_false]
  · exact some_text
  · rintro rest rfl
    cases head _ rfl
  · rintro rest rfl
    cases head _ rfl
  · rintro rest rfl
    cases head _ rfl

/-- A line with a key and a value that ends there. -/
theorem read_line {front key value : List Char} {v : Value} {tables' : Tables} {rest : List Char}
    (shape : front = key ++ [' ', '=', ' ']) (given : key ≠ []) (bare : ∀ c ∈ key, isBare c = true)
    (open_ : tables ≠ []) (read : scalar (value ++ '\n' :: rest) = .value v ('\n' :: rest))
    (added : addPair (String.ofList key) v tables = some tables') :
    readDocument grammar (fuel + 2) tables (front ++ (value ++ ("\n".toList ++ rest))) =
      readDocument grammar fuel tables' rest := by
  refine (read_pair grammar (fuel + 1) tables shape given bare open_ _).trans ?_
  have same : value ++ ("\n".toList ++ rest) = value ++ '\n' :: rest := rfl
  simp only [same, read, added, atLineEnd]
  rfl

end Lines

end Strom.Toml
