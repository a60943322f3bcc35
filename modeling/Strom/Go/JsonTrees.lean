import Mathlib.Data.List.TakeWhile
import Strom.Go.JsonStrings

/-!
# JSON values (`json.Unmarshal`, `json.MarshalIndent`)

The tree that a JSON text stands for, with the members of an object as they come, and the text
that `json.MarshalIndent` writes for a tree.  What is written reads back (`parse_indented`); a
number is read by its text.
-/

namespace Strom.Go.Json

inductive Tree where
  | null
  | bool (b : Bool)
  | number (text : String)
  | string (s : String)
  | array (items : List Tree)
  | object (members : List (String × Tree))
deriving Inhabited

/-! ## Reading -/

/-- A run of at least one digit. -/
def parseDigits (cs : List Char) : Option (List Char × List Char) :=
  match cs.span Char.isDigit with
  | ([], _) => none
  | (run, rest) => some (run, rest)

/-- The fraction of a number. -/
def parseFraction : List Char → Option (List Char × List Char)
  | '.' :: rest => (parseDigits rest).map fun found => ('.' :: found.1, found.2)
  | rest => some ([], rest)

/-- The exponent of a number. -/
def parseExponent : List Char → Option (List Char × List Char)
  | c :: rest =>
    if c = 'e' ∨ c = 'E' then
      match rest with
      | s :: tail =>
        if s = '+' ∨ s = '-' then (parseDigits tail).map fun found => (c :: s :: found.1, found.2)
        else (parseDigits rest).map fun found => (c :: found.1, found.2)
      | [] => none
    else some ([], c :: rest)
  | [] => some ([], [])

/-- A number, by its text. -/
def parseNumber (cs : List Char) : Option (Tree × List Char) := do
  let (sign, rest) := match cs with
    | '-' :: rest => (['-'], rest)
    | rest => ([], rest)
  let (whole, rest) ← match rest with
    | '0' :: rest => some (['0'], rest)
    | rest => parseDigits rest
  let (part, rest) ← parseFraction rest
  let (power, rest) ← parseExponent rest
  return (.number (String.ofList (sign ++ whole ++ part ++ power)), rest)

mutual

/-- A value, with at most `depth` brackets around one another. -/
def parseValue : Nat → Nat → List Char → Option (Tree × List Char)
  | 0, _, _ => none
  | fuel + 1, depth, cs =>
    match skipBlanks cs with
    | '"' :: rest => (stringItem ('"' :: rest)).map fun found => (.string found.1, found.2)
    | 'n' :: 'u' :: 'l' :: 'l' :: rest => some (.null, rest)
    | 't' :: 'r' :: 'u' :: 'e' :: rest => some (.bool true, rest)
    | 'f' :: 'a' :: 'l' :: 's' :: 'e' :: rest => some (.bool false, rest)
    | '[' :: rest =>
      if depth = 0 then none
      else match skipBlanks rest with
        | ']' :: rest => some (.array [], rest)
        | _ => (parseItems fuel (depth - 1) rest).map fun found => (.array found.1, found.2)
    | '\x7b' :: rest =>
      if depth = 0 then none
      else match skipBlanks rest with
        | '\x7d' :: rest => some (.object [], rest)
        | _ => (parseMembers fuel (depth - 1) rest).map fun found => (.object found.1, found.2)
    | cs => parseNumber cs

def parseItems : Nat → Nat → List Char → Option (List Tree × List Char)
  | 0, _, _ => none
  | fuel + 1, depth, cs =>
    match parseValue fuel depth cs with
    | none => none
    | some (item, rest) =>
      match skipBlanks rest with
      | ',' :: rest => (parseItems fuel depth rest).map fun found => (item :: found.1, found.2)
      | ']' :: rest => some ([item], rest)
      | _ => none

def parseMembers : Nat → Nat → List Char → Option (List (String × Tree) × List Char)
  | 0, _, _ => none
  | fuel + 1, depth, cs =>
    match skipBlanks cs with
    | '"' :: rest =>
      match stringItem ('"' :: rest) with
      | none => none
      | some (key, rest) =>
        match skipBlanks rest with
        | ':' :: rest =>
          match parseValue fuel depth rest with
          | none => none
          | some (value, rest) =>
            match skipBlanks rest with
            | ',' :: rest => (parseMembers fuel depth rest).map fun found => ((key, value) :: found.1, found.2)
            | '\x7d' :: rest => some ([(key, value)], rest)
            | _ => none
        | _ => none
    | _ => none

end

/-- The limit of the decoder. -/
def maxNestingDepth : Nat := 10000

/-- The tree of a whole text. -/
def parse (text : List Char) : Option Tree :=
  match parseValue (text.length + 1) maxNestingDepth text with
  | some (tree, rest) => if skipBlanks rest = [] then some tree else none
  | none => none

/-! ## Writing -/

/-- A new line with two blanks for each level. -/
def newline (level : Nat) : List Char := '\n' :: List.replicate (2 * level) ' '

mutual

def indented (level : Nat) : Tree → List Char
  | .null => "null".toList
  | .bool true => "true".toList
  | .bool false => "false".toList
  | .number text => text.toList
  | .string s => jsonString s
  | .array [] => ['[', ']']
  | .array (item :: items) => '[' :: (indentedItems (level + 1) (item :: items) ++ newline level ++ [']'])
  | .object [] => ['\x7b', '\x7d']
  | .object (member :: members) =>
    '\x7b' :: (indentedMembers (level + 1) (member :: members) ++ newline level ++ ['\x7d'])

def indentedItems (level : Nat) : List Tree → List Char
  | [] => []
  | [item] => newline level ++ indented level item
  | item :: items => newline level ++ indented level item ++ ',' :: indentedItems level items

def indentedMembers (level : Nat) : List (String × Tree) → List Char
  | [] => []
  | [(key, value)] => newline level ++ jsonString key ++ ':' :: ' ' :: indented level value
  | (key, value) :: members =>
    newline level ++ jsonString key ++ ':' :: ' ' :: indented level value ++ ',' :: indentedMembers level members

end

/-- `json.MarshalIndent(v, "", "  ")`. -/
def marshalIndent (tree : Tree) : List Char := indented 0 tree

/-! ## What is written reads back -/

mutual

/-- The tree has no number and at most `depth` brackets around one another. -/
def Fits (depth : Nat) : Tree → Prop
  | .number _ => False
  | .array items => 0 < depth ∧ FitItems (depth - 1) items
  | .object members => 0 < depth ∧ FitMembers (depth - 1) members
  | _ => True

def FitItems (depth : Nat) : List Tree → Prop
  | [] => True
  | item :: items => Fits depth item ∧ FitItems depth items

def FitMembers (depth : Nat) : List (String × Tree) → Prop
  | [] => True
  | (_, value) :: members => Fits depth value ∧ FitMembers depth members

end

mutual

/-- The fuel that reads the tree. -/
def size : Tree → Nat
  | .array items => 1 + sizeItems items
  | .object members => 1 + sizeMembers members
  | _ => 1

def sizeItems : List Tree → Nat
  | [] => 0
  | item :: items => 1 + size item + sizeItems items

def sizeMembers : List (String × Tree) → Nat
  | [] => 0
  | (_, value) :: members => 1 + size value + sizeMembers members

end

theorem skipBlanks_newline (level : Nat) (cs : List Char) : skipBlanks (newline level ++ cs) = skipBlanks cs := by
  have blanks (n : Nat) : skipBlanks (List.replicate n ' ' ++ cs) = skipBlanks cs := by
    induction n with
    | zero => rfl
    | succ n ih => exact ih
  exact blanks (2 * level)

theorem skipBlanks_cons {c : Char} (dark : isBlank c = false) (cs : List Char) : skipBlanks (c :: cs) = c :: cs :=
  List.dropWhile_cons_of_neg (by simp [dark])

/-- A written tree starts with a character that is neither blank nor a closing bracket. -/
theorem indented_head {depth : Nat} {t : Tree} (fits : Fits depth t) (level : Nat) :
    ∃ c tail, indented level t = c :: tail ∧ isBlank c = false ∧ c ≠ ']' := by
  cases t with
  | null => exact ⟨_, _, rfl, by decide, by decide⟩
  | bool b => cases b <;> exact ⟨_, _, rfl, by decide, by decide⟩
  | number text => exact absurd fits (by simp [Fits])
  | string s => exact ⟨_, _, rfl, by decide, by decide⟩
  | array items => cases items <;> exact ⟨_, _, by rw [indented], by decide, by decide⟩
  | object members => cases members <;> exact ⟨_, _, by rw [indented], by decide, by decide⟩

theorem skipBlanks_indented {depth : Nat} {t : Tree} (fits : Fits depth t) (level : Nat) (rest : List Char) :
    skipBlanks (indented level t ++ rest) = indented level t ++ rest := by
  obtain ⟨c, tail, shape, dark, -⟩ := indented_head fits level
  rw [shape]
  exact skipBlanks_cons dark _

/-- What stands behind the first item. -/
def afterItem (level : Nat) : List Tree → List Char
  | [] => []
  | items => ',' :: indentedItems level items

/-- What stands behind the first member. -/
def afterMember (level : Nat) : List (String × Tree) → List Char
  | [] => []
  | members => ',' :: indentedMembers level members

theorem indentedItems_cons (level : Nat) (item : Tree) (items : List Tree) :
    indentedItems level (item :: items) = newline level ++ (indented level item ++ afterItem level items) := by
  cases items with
  | nil => rw [indentedItems, afterItem, List.append_nil]
  | cons next items =>
    rw [indentedItems, afterItem, List.append_assoc]
    all_goals simp

theorem indentedMembers_cons (level : Nat) (key : String) (value : Tree) (members : List (String × Tree)) :
    indentedMembers level ((key, value) :: members) =
      newline level ++ (jsonString key ++ ':' :: ' ' :: (indented level value ++ afterMember level members)) := by
  cases members with
  | nil => rw [indentedMembers, afterMember, List.append_nil, List.append_assoc]
  | cons next members =>
    rw [indentedMembers, afterMember]
    all_goals simp

theorem size_pos (t : Tree) : 0 < size t := by
  cases t <;> simp only [size] <;> omega

/-- A string in front of anything, as the reader takes it. -/
theorem stringItem_written (s : String) (rest : List Char) :
    ∃ body, jsonString s ++ rest = '"' :: body ∧ stringItem ('"' :: body) = some (s, rest) := by
  have shape : jsonString s ++ rest = '"' :: (s.toList.flatMap jsonRune ++ ['"'] ++ rest) := by
    simp [jsonString]
  have item := stringItem_jsonString s rest
  rw [shape, skipBlanks_cons (by decide)] at item
  exact ⟨_, shape, item⟩

/-- Behind the opening bracket of an array stands its first item. -/
theorem skipBlanks_items {depth : Nat} {item : Tree} (fits : Fits depth item) (level : Nat) (items : List Tree)
    (rest : List Char) :
    ∃ c after, skipBlanks (indentedItems level (item :: items) ++ rest) = c :: after ∧ c ≠ ']' := by
  obtain ⟨c, tail, shape, dark, other⟩ := indented_head fits level
  refine ⟨c, tail ++ (afterItem level items ++ rest), ?_, other⟩
  rw [indentedItems_cons, List.append_assoc, skipBlanks_newline, List.append_assoc, shape]
  exact skipBlanks_cons dark _

/-- Behind the opening bracket of an object stands its first key. -/
theorem skipBlanks_members (level : Nat) (key : String) (value : Tree) (members : List (String × Tree))
    (rest : List Char) :
    ∃ after, skipBlanks (indentedMembers level ((key, value) :: members) ++ rest) = '"' :: after := by
  rw [indentedMembers_cons, List.append_assoc, skipBlanks_newline, List.append_assoc]
  obtain ⟨body, written, -⟩ := stringItem_written key
    (':' :: ' ' :: (indented level value ++ afterMember level members) ++ rest)
  rw [written]
  exact ⟨body, skipBlanks_cons (by decide) body⟩

theorem skipBlanks_close {c : Char} (dark : isBlank c = false) (outer : Nat) (rest : List Char) :
    skipBlanks (newline outer ++ c :: rest) = c :: rest := by
  rw [skipBlanks_newline, skipBlanks_cons dark]

mutual

theorem parseValue_indented (t : Tree) (level fuel depth : Nat) (cs rest : List Char) (fits : Fits depth t)
    (enough : size t < fuel) (shape : skipBlanks cs = indented level t ++ rest) :
    parseValue fuel depth cs = some (t, rest) := by
  match fuel, t, enough with
  | fuel + 1, .null, _ =>
    rw [parseValue, shape]
    rfl
  | fuel + 1, .bool true, _ =>
    rw [parseValue, shape]
    rfl
  | fuel + 1, .bool false, _ =>
    rw [parseValue, shape]
    rfl
  | _, .number text, _ => exact absurd fits (by simp [Fits])
  | fuel + 1, .string s, _ =>
    obtain ⟨body, written, item⟩ := stringItem_written s rest
    rw [indented, written] at shape
    rw [parseValue, shape]
    simp only [item, Option.map_some]
  | fuel + 1, .array [], _ =>
    rw [parseValue, shape]
    have open_ : depth ≠ 0 := Nat.pos_iff_ne_zero.mp fits.1
    have closed : skipBlanks (']' :: rest) = ']' :: rest := skipBlanks_cons (by decide) _
    simp only [indented, List.cons_append, List.nil_append, closed, if_neg open_]
  | fuel + 1, .array (item :: items), enough =>
    simp only [size] at enough
    obtain ⟨open_, inside⟩ := fits
    have read := parseItems_indented item items (level + 1) level fuel (depth - 1) rest inside (by omega)
    have whole : indented level (.array (item :: items)) ++ rest =
        '[' :: (indentedItems (level + 1) (item :: items) ++ (newline level ++ ']' :: rest)) := by
      simp [indented]
    obtain ⟨c, after, blanks, other⟩ := skipBlanks_items inside.1 (level + 1) items (newline level ++ ']' :: rest)
    rw [parseValue, shape, whole]
    simp only [if_neg (Nat.pos_iff_ne_zero.mp open_), blanks, read, Option.map_some]
    split
    · next same => exact absurd (List.cons.inj same).1 other
    · rfl
  | fuel + 1, .object [], _ =>
    rw [parseValue, shape]
    have open_ : depth ≠ 0 := Nat.pos_iff_ne_zero.mp fits.1
    have closed : skipBlanks ('\x7d' :: rest) = '\x7d' :: rest := skipBlanks_cons (by decide) _
    simp only [indented, List.cons_append, List.nil_append, closed, if_neg open_]
  | fuel + 1, .object ((key, value) :: members), enough =>
    simp only [size] at enough
    obtain ⟨open_, inside⟩ := fits
    have read := parseMembers_indented key value members (level + 1) level fuel (depth - 1) rest inside (by omega)
    have whole : indented level (.object ((key, value) :: members)) ++ rest =
        '\x7b' :: (indentedMembers (level + 1) ((key, value) :: members) ++
          (newline level ++ '\x7d' :: rest)) := by
      simp [indented]
    obtain ⟨after, blanks⟩ := skipBlanks_members (level + 1) key value members (newline level ++ '\x7d' :: rest)
    rw [parseValue, shape, whole]
    simp only [if_neg (Nat.pos_iff_ne_zero.mp open_), blanks, read, Option.map_some]
    split
    · next same => cases same
    · rfl
termination_by fuel

theorem parseItems_indented (item : Tree) (items : List Tree) (level outer fuel depth : Nat) (rest : List Char)
    (fits : FitItems depth (item :: items)) (enough : sizeItems (item :: items) < fuel) :
    parseItems fuel depth (indentedItems level (item :: items) ++ (newline outer ++ ']' :: rest)) =
      some (item :: items, rest) := by
  match fuel, enough with
  | fuel + 1, enough =>
    simp only [sizeItems] at enough
    obtain ⟨fitsItem, fitsItems⟩ := fits
    have blanks : skipBlanks (indentedItems level (item :: items) ++ (newline outer ++ ']' :: rest)) =
        indented level item ++ (afterItem level items ++ (newline outer ++ ']' :: rest)) := by
      rw [indentedItems_cons, List.append_assoc, skipBlanks_newline, List.append_assoc,
        skipBlanks_indented fitsItem]
    have first := parseValue_indented item level fuel depth _ _ fitsItem (by omega) blanks
    rw [parseItems, first]
    match items, fitsItems with
    | [], _ =>
      have closed := skipBlanks_close (show isBlank ']' = false by decide) outer rest
      simp only [afterItem, List.nil_append, closed]
    | next :: items, fitsItems =>
      have later := parseItems_indented next items level outer fuel depth rest fitsItems (by omega)
      have comma (after : List Char) : skipBlanks (',' :: after) = ',' :: after := skipBlanks_cons (by decide) _
      simp only [afterItem, List.cons_append, comma, later, Option.map_some]
termination_by fuel

theorem parseMembers_indented (key : String) (value : Tree) (members : List (String × Tree))
    (level outer fuel depth : Nat) (rest : List Char) (fits : FitMembers depth ((key, value) :: members))
    (enough : sizeMembers ((key, value) :: members) < fuel) :
    parseMembers fuel depth
        (indentedMembers level ((key, value) :: members) ++ (newline outer ++ '\x7d' :: rest)) =
      some ((key, value) :: members, rest) := by
  match fuel, enough with
  | fuel + 1, enough =>
    simp only [sizeMembers] at enough
    obtain ⟨fitsValue, fitsMembers⟩ := fits
    obtain ⟨body, written, item⟩ := stringItem_written key
      (':' :: ' ' :: (indented level value ++ (afterMember level members ++ (newline outer ++ '\x7d' :: rest))))
    have blanks : skipBlanks (indentedMembers level ((key, value) :: members) ++
        (newline outer ++ '\x7d' :: rest)) = '"' :: body := by
      rw [indentedMembers_cons, List.append_assoc, skipBlanks_newline,
        ← skipBlanks_cons (show isBlank '"' = false by decide), ← written]
      simp
    have colon (after : List Char) : skipBlanks (':' :: after) = ':' :: after := skipBlanks_cons (by decide) _
    have blank : skipBlanks (' ' :: (indented level value ++ (afterMember level members ++
        (newline outer ++ '\x7d' :: rest)))) =
          indented level value ++ (afterMember level members ++ (newline outer ++ '\x7d' :: rest)) :=
      skipBlanks_indented fitsValue level _
    have first := parseValue_indented value level fuel depth _ _ fitsValue (by omega) blank
    rw [parseMembers, blanks]
    simp only [item, colon, first]
    match members, fitsMembers with
    | [], _ =>
      have closed := skipBlanks_close (show isBlank '\x7d' = false by decide) outer rest
      simp only [afterMember, List.nil_append, closed]
    | (next, other) :: members, fitsMembers =>
      have later := parseMembers_indented next other members level outer fuel depth rest fitsMembers (by omega)
      have comma (after : List Char) : skipBlanks (',' :: after) = ',' :: after := skipBlanks_cons (by decide) _
      simp only [afterMember, List.cons_append, comma, later, Option.map_some]
termination_by fuel

end

/-! ## Enough fuel -/

mutual

theorem size_le_length (t : Tree) (level depth : Nat) (fits : Fits depth t) :
    size t ≤ (indented level t).length := by
  match t with
  | .null => simp [size, indented]
  | .bool true => simp [size, indented]
  | .bool false => simp [size, indented]
  | .number text => exact absurd fits (by simp [Fits])
  | .string s => simp [size, indented, jsonString]
  | .array [] => simp [size, sizeItems, indented]
  | .array (item :: items) =>
    have inside := sizeItems_le_length (item :: items) (level + 1) (depth - 1) fits.2
    simp only [size, indented, List.length_cons, List.length_append]
    omega
  | .object [] => simp [size, sizeMembers, indented]
  | .object (member :: members) =>
    have inside := sizeMembers_le_length (member :: members) (level + 1) (depth - 1) fits.2
    simp only [size, indented, List.length_cons, List.length_append]
    omega

theorem sizeItems_le_length (items : List Tree) (level depth : Nat) (fits : FitItems depth items) :
    sizeItems items ≤ (indentedItems level items).length := by
  match items with
  | [] => simp [sizeItems]
  | [item] =>
    have first := size_le_length item level depth fits.1
    simp only [indentedItems_cons, afterItem, sizeItems, newline, List.length_append, List.length_cons]
    omega
  | item :: next :: items =>
    have first := size_le_length item level depth fits.1
    have later := sizeItems_le_length (next :: items) level depth fits.2
    rw [indentedItems_cons, sizeItems]
    simp only [afterItem, newline, List.length_append, List.length_cons]
    omega

theorem sizeMembers_le_length (members : List (String × Tree)) (level depth : Nat)
    (fits : FitMembers depth members) : sizeMembers members ≤ (indentedMembers level members).length := by
  match members with
  | [] => simp [sizeMembers]
  | [(key, value)] =>
    have first := size_le_length value level depth fits.1
    simp only [indentedMembers_cons, afterMember, sizeMembers, newline, List.length_append, List.length_cons]
    omega
  | (key, value) :: next :: members =>
    have first := size_le_length value level depth fits.1
    have later := sizeMembers_le_length (next :: members) level depth fits.2
    rw [indentedMembers_cons, sizeMembers]
    simp only [afterMember, newline, List.length_append, List.length_cons]
    omega

end

/-- What `json.MarshalIndent` writes reads back, also with blanks behind it. -/
theorem parse_indented {t : Tree} (fits : Fits maxNestingDepth t) {blanks : List Char}
    (white : ∀ c ∈ blanks, isBlank c = true) : parse (marshalIndent t ++ blanks) = some t := by
  have short := size_le_length t 0 maxNestingDepth fits
  have enough : size t < (marshalIndent t ++ blanks).length + 1 := by
    rw [List.length_append, marshalIndent]
    omega
  have read := parseValue_indented t 0 _ maxNestingDepth (marshalIndent t ++ blanks) blanks fits enough
    (skipBlanks_indented fits 0 blanks)
  have ended : skipBlanks blanks = [] := List.dropWhile_eq_nil_iff.mpr white
  unfold parse
  rw [read]
  simp only [ended, if_true]

end Strom.Go.Json
