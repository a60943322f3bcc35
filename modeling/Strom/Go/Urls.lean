import Mathlib.Data.List.Forall2
import Strom.Go.Strings

/-!
# URL paths

Percent-encoding as `encodeURIComponent` does it and Go's `url.PathUnescape` undoes
it, and paths as lists of segments.
-/

namespace Strom.Go

def slash : UInt8 := '/'.toUInt8

def percent : UInt8 := '%'.toUInt8

/-! ## Percent-encoding -/

/-- The bytes that `encodeURIComponent` leaves as they are. -/
def isUnreserved (b : UInt8) : Bool :=
  let c := Char.ofNat b.toNat
  c.isAlphanum || "-_.!~*'()".toList.contains c

def upperHexDigit (n : Nat) : UInt8 := ("0123456789ABCDEF".toList.getD n '0').toUInt8

def escapeByte (b : UInt8) : Bytes :=
  if isUnreserved b then [b]
  else [percent, upperHexDigit (b.toNat / 16), upperHexDigit (b.toNat % 16)]

/-- JavaScript's `encodeURIComponent`. -/
def encodeURIComponent (s : String) : Bytes := (utf8 s).flatMap escapeByte

/-- `unhex`, of a digit. -/
def unhex (b : UInt8) : Option Nat := hexDigitValue (Char.ofNat b.toNat)

/-- `url.PathUnescape`, or `none` for its error. -/
def pathUnescape : Bytes → Option Bytes
  | [] => some []
  | b :: rest =>
    if b ≠ percent then (pathUnescape rest).map (b :: ·)
    else
      match rest with
      | high :: low :: rest => do
        let high ← unhex high
        let low ← unhex low
        let rest ← pathUnescape rest
        return UInt8.ofNat (high * 16 + low) :: rest
      | _ => none

theorem unhex_upperHexDigit : ∀ n : Nat, n < 16 → unhex (upperHexDigit n) = some n := by
  decide

@[simp] theorem pathUnescape_nil : pathUnescape [] = some [] := rfl

theorem pathUnescape_cons {b : UInt8} (plain : b ≠ percent) (rest : Bytes) :
    pathUnescape (b :: rest) = (pathUnescape rest).map (b :: ·) := by
  match rest with
  | [] => simp [pathUnescape, plain]
  | [_] => simp [pathUnescape, plain]
  | _ :: _ :: _ => rw [pathUnescape, if_pos plain]

theorem pathUnescape_percent (high low : UInt8) (rest : Bytes) :
    pathUnescape (percent :: high :: low :: rest) = (do
      let high ← unhex high
      let low ← unhex low
      let rest ← pathUnescape rest
      return UInt8.ofNat (high * 16 + low) :: rest) := by
  rw [pathUnescape, if_neg (by simp)]

/-- A byte is read back, whatever follows. -/
theorem pathUnescape_escapeByte (b : UInt8) (rest : Bytes) :
    pathUnescape (escapeByte b ++ rest) = (pathUnescape rest).map (b :: ·) := by
  unfold escapeByte
  split
  · rename_i unreserved
    apply pathUnescape_cons
    rintro rfl
    exact absurd unreserved (by decide)
  · have small : b.toNat < 256 := UInt8.toNat_lt_size b
    have high := unhex_upperHexDigit (b.toNat / 16) (by omega)
    have low := unhex_upperHexDigit (b.toNat % 16) (by omega)
    have value : b.toNat / 16 * 16 + b.toNat % 16 = b.toNat := by omega
    simp only [List.cons_append, List.nil_append, pathUnescape_percent, high, low,
      Option.bind_eq_bind, Option.bind_some, value, UInt8.ofNat_toNat]
    cases pathUnescape rest <;> rfl

theorem pathUnescape_encodeURIComponent (s : String) (rest : Bytes) :
    pathUnescape (encodeURIComponent s ++ rest) = (pathUnescape rest).map (utf8 s ++ ·) := by
  unfold encodeURIComponent
  induction utf8 s with
  | nil => simp
  | cons b bytes ih =>
    rw [List.flatMap_cons, List.append_assoc, pathUnescape_escapeByte, ih]
    cases pathUnescape rest <;> simp

/-- A text without a percent sign stands for itself. -/
theorem pathUnescape_append {text : Bytes} (plain : percent ∉ text) (rest : Bytes) :
    pathUnescape (text ++ rest) = (pathUnescape rest).map (text ++ ·) := by
  induction text with
  | nil => simp
  | cons b text ih =>
    have apart : b ≠ percent := fun same => plain (by simp [same])
    have others : percent ∉ text := fun member => plain (List.mem_cons_of_mem _ member)
    rw [List.cons_append, pathUnescape_cons apart, ih others]
    cases pathUnescape rest <;> simp

/-- Reading escapes never makes a text longer, and shortens it where there are any. -/
theorem length_of_pathUnescape {text value : Bytes} (read : pathUnescape text = some value) :
    value.length ≤ text.length ∧ (value.length = text.length → percent ∉ text) := by
  induction text using pathUnescape.induct generalizing value with
  | case1 => simp_all [pathUnescape]
  | case2 b rest plain ih =>
    rw [pathUnescape_cons plain] at read
    obtain ⟨value', read', rfl⟩ := Option.map_eq_some_iff.mp read
    obtain ⟨short, same⟩ := ih read'
    simp only [List.length_cons, List.mem_cons, not_or]
    exact ⟨by omega, fun equal => ⟨fun h => plain h.symm, same (by omega)⟩⟩
  | case3 b plain high low rest ih =>
    obtain rfl : b = percent := not_not.mp plain
    rw [pathUnescape_percent] at read
    simp only [Option.pure_def, Option.bind_eq_bind, Option.bind_eq_some_iff, Option.some.injEq] at read
    obtain ⟨_, _, _, _, value', read', rfl⟩ := read
    have short := (ih read').1
    simp only [List.length_cons]
    exact ⟨by omega, fun equal => by omega⟩
  | case4 b rest plain short =>
    rw [pathUnescape, if_neg plain] at read
    · cases read
    · exact short

theorem pathUnescape_eq_self_iff {text : Bytes} : pathUnescape text = some text ↔ percent ∉ text := by
  constructor
  · intro read
    exact (length_of_pathUnescape read).2 rfl
  · intro plain
    simpa using pathUnescape_append plain []

/-- The bytes of an escaped text: unreserved ones, percent signs and digits. -/
theorem isUnreserved_or_percent {s : String} {b : UInt8} (member : b ∈ encodeURIComponent s) :
    isUnreserved b = true ∨ b = percent := by
  have digit : ∀ n : Nat, n < 16 → isUnreserved (upperHexDigit n) = true := by decide
  obtain ⟨c, -, own⟩ := List.mem_flatMap.mp member
  have small : c.toNat < 256 := UInt8.toNat_lt_size c
  unfold escapeByte at own
  split at own
  · rename_i unreserved
    obtain rfl := List.mem_singleton.mp own
    exact .inl unreserved
  · simp only [List.mem_cons, List.not_mem_nil, or_false] at own
    obtain rfl | rfl | rfl := own
    · exact .inr rfl
    · exact .inl (digit _ (by omega))
    · exact .inl (digit _ (by omega))

theorem slash_not_mem_encode (s : String) : slash ∉ encodeURIComponent s := by
  intro member
  obtain unreserved | same := isUnreserved_or_percent member
  · exact absurd unreserved (by decide)
  · exact absurd same (by decide)

/-- What an escaped text is read back as determines it. -/
theorem utf8_of_encode {s : String} {text value : Bytes} (same : encodeURIComponent s = text)
    (read : pathUnescape text = some value) : utf8 s = value := by
  have own := pathUnescape_encodeURIComponent s []
  rw [List.append_nil, same, read] at own
  simpa using own.symm

theorem utf8_injective {s t : String} (same : utf8 s = utf8 t) : s = t := by
  have bytes : s.toList.utf8Encode = t.toList.utf8Encode := by
    unfold List.utf8Encode
    exact congrArg List.toByteArray same
  rw [← String.ofList_toList (s := s), ← String.ofList_toList (s := t)]
  apply String.toByteArray_inj.mp
  rw [String.toByteArray_ofList, String.toByteArray_ofList, bytes]

/-! ## Segments -/

/-- `strings.Split` at slashes. -/
def splitPath (path : Bytes) : List Bytes := path.splitOn slash

/-- `strings.Join` with slashes. -/
def joinPath (segments : List Bytes) : Bytes := [slash].intercalate segments

@[simp] theorem joinPath_singleton (segment : Bytes) : joinPath [segment] = segment := by
  simp [joinPath]

theorem joinPath_cons {segments : List Bytes} (segment : Bytes) (more : segments ≠ []) :
    joinPath (segment :: segments) = segment ++ slash :: joinPath segments := by
  simp [joinPath, List.intercalate_cons_of_ne_nil more]

theorem joinPath_splitPath (path : Bytes) : joinPath (splitPath path) = path :=
  List.intercalate_splitOn slash

theorem splitPath_ne_nil (path : Bytes) : splitPath path ≠ [] := List.splitOn_ne_nil slash path

theorem splitPath_append (front back : Bytes) :
    splitPath (front ++ slash :: back) = splitPath front ++ splitPath back :=
  List.splitOn_append_cons_self front back

theorem splitPath_plain {segment : Bytes} (plain : slash ∉ segment) : splitPath segment = [segment] :=
  List.splitOn_eq_singleton plain

/-- A path of several parts, which may have slashes of their own. -/
theorem splitPath_joinPath {parts : List Bytes} (some_ : parts ≠ []) :
    splitPath (joinPath parts) = parts.flatMap splitPath := by
  induction parts with
  | nil => exact (some_ rfl).elim
  | cons part parts ih =>
    cases parts with
    | nil => simp
    | cons next parts =>
      have more : next :: parts ≠ [] := List.cons_ne_nil _ _
      rw [joinPath_cons part more, splitPath_append, ih more]
      rfl

/-- The first segment of a path is the path exactly if it has no slash. -/
theorem slash_not_mem_of_splitPath {path : Bytes} {rest : List Bytes}
    (split : splitPath path = path :: rest) : slash ∉ path := by
  intro member
  obtain ⟨front, back, parts⟩ := List.append_of_mem member
  have lengths := congrArg List.length (joinPath_splitPath path)
  rw [split] at lengths
  have more : rest ≠ [] := by
    rintro rfl
    have two : (splitPath path).length = (splitPath front).length + (splitPath back).length := by
      rw [parts, splitPath_append, List.length_append]
    have one := List.length_pos_iff.mpr (splitPath_ne_nil front)
    have other := List.length_pos_iff.mpr (splitPath_ne_nil back)
    rw [split, List.length_singleton] at two
    omega
  rw [joinPath_cons path more, List.length_append, List.length_cons] at lengths
  omega

theorem slash_not_mem_segment {path segment : Bytes} (member : segment ∈ splitPath path) :
    slash ∉ segment := by
  generalize large : path.length = n
  induction n using Nat.strongRecOn generalizing path with
  | ind n ih =>
    by_cases among : slash ∈ path
    · obtain ⟨front, back, rfl⟩ := List.append_of_mem among
      simp only [List.length_append, List.length_cons] at large
      rw [splitPath_append, List.mem_append] at member
      obtain first | second := member
      · exact ih front.length (by omega) first rfl
      · exact ih back.length (by omega) second rfl
    · rw [splitPath_plain among, List.mem_singleton] at member
      rw [member]
      exact among

theorem joinPath_append {front back : List Bytes} (left : front ≠ []) (right : back ≠ []) :
    joinPath (front ++ back) = joinPath front ++ slash :: joinPath back := by
  induction front with
  | nil => exact (left rfl).elim
  | cons first front ih =>
    cases front with
    | nil => simpa using joinPath_cons first right
    | cons next front =>
      have more : next :: front ≠ [] := List.cons_ne_nil _ _
      rw [List.cons_append, joinPath_cons first (by simp), ih more, joinPath_cons first more]
      simp

/-- What stands before the first slash is the first segment. -/
theorem prefix_of_first {path segment : Bytes} {rest : List Bytes}
    (split : splitPath path = segment :: rest) : segment <+: path := by
  rw [← joinPath_splitPath path, split]
  cases rest with
  | nil => simp
  | cons next rest =>
    rw [joinPath_cons segment (List.cons_ne_nil _ _)]
    exact List.prefix_append _ _

/-- A word without a slash belongs to the first segment of what it begins. -/
theorem splitPath_word {word : Bytes} (plain : slash ∉ word) (back : Bytes) :
    splitPath (word ++ back) = (splitPath back).modifyHead (word ++ ·) := by
  induction word with
  | nil =>
    obtain ⟨first, rest, split⟩ := List.exists_cons_of_ne_nil (splitPath_ne_nil back)
    simp [split]
  | cons b word ih =>
    have apart : (b == slash) = false := by
      simp only [beq_eq_false_iff_ne]
      exact fun same => plain (by simp [same])
    have others : slash ∉ word := fun member => plain (List.mem_cons_of_mem _ member)
    have step := List.splitOn_cons_eq_if_modifyHead (a := slash) b (word ++ back)
    rw [apart, if_neg (by simp)] at step
    rw [List.cons_append]
    unfold splitPath at ih ⊢
    rw [step, ih others]
    simp [List.modifyHead_modifyHead, Function.comp_def]

/-- A word behind a slash stands at the start of a segment that is not the first. -/
theorem infix_iff_segment {path word : Bytes} (plain : slash ∉ word) :
    slash :: word <:+: path ↔ ∃ segment ∈ (splitPath path).tail, word <+: segment := by
  constructor
  · rintro ⟨front, back, rfl⟩
    obtain ⟨first, others, split⟩ := List.exists_cons_of_ne_nil (splitPath_ne_nil front)
    obtain ⟨own, more, split'⟩ := List.exists_cons_of_ne_nil (splitPath_ne_nil back)
    have shape : front ++ slash :: word ++ back = front ++ slash :: (word ++ back) := by simp
    refine ⟨word ++ own, ?_, List.prefix_append _ _⟩
    rw [shape, splitPath_append, split, splitPath_word plain, split']
    simp
  · rintro ⟨segment, member, starts⟩
    obtain ⟨first, others, split⟩ := List.exists_cons_of_ne_nil (splitPath_ne_nil path)
    rw [split, List.tail_cons] at member
    obtain ⟨before, after, rfl⟩ := List.append_of_mem member
    have inner : splitPath (joinPath (segment :: after)) = segment :: after := by
      rw [splitPath_joinPath (List.cons_ne_nil _ _)]
      have own : ∀ part ∈ segment :: after, splitPath part = [part] := by
        intro part among
        have among' : part ∈ splitPath path := by
          rw [split]
          exact List.mem_cons_of_mem _ (List.mem_append_right _ among)
        exact splitPath_plain (slash_not_mem_segment among')
      generalize segment :: after = parts at own
      induction parts with
      | nil => rfl
      | cons part parts ih =>
        rw [List.flatMap_cons, own part List.mem_cons_self,
          ih fun other among => own other (List.mem_cons_of_mem _ among)]
        rfl
    have begins : word <+: joinPath (segment :: after) := starts.trans (prefix_of_first inner)
    obtain ⟨rest, whole⟩ := begins
    refine ⟨joinPath (first :: before), rest, ?_⟩
    rw [← joinPath_splitPath path, split, ← List.cons_append,
      joinPath_append (List.cons_ne_nil _ _) (List.cons_ne_nil _ _), ← whole]
    simp

/-- A word behind a slash ends a path exactly if it is the last segment, and not the only one. -/
theorem suffix_iff_last {path word : Bytes} (plain : slash ∉ word) :
    slash :: word <:+ path ↔ ∃ front, front ≠ [] ∧ splitPath path = front ++ [word] := by
  constructor
  · rintro ⟨front, rfl⟩
    refine ⟨splitPath front, splitPath_ne_nil front, ?_⟩
    rw [splitPath_append, splitPath_plain plain]
  · rintro ⟨front, more, split⟩
    refine ⟨joinPath front, ?_⟩
    rw [← joinPath_splitPath path, split, joinPath_append more (List.cons_ne_nil _ _), joinPath_singleton]

end Strom.Go
