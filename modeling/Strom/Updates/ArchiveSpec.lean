import Strom.Updates.Archive

/-!
# What `ExtractAgentBinary` accepts (`archive.go`)

The loop returns at the first entry that it rejects, and it has to look at every entry
before it may accept one.  `extractEntries_iff` says which lists of entries it accepts,
`extractAgentBinary_iff` which archives `ExtractAgentBinary` does.
-/

namespace Strom.Updates

open Strom.Go

/-- The cleaned name is absolute, or its first segment leads out of the archive. -/
def Escapes (entry : TarEntry) : Prop :=
  pathIsAbs (pathClean entry.name) = true ∨ (splitSlash (pathClean entry.name)).head? = some ".."

/-- The entry has the name of the executable, wherever it is. -/
def isAgent (entry : TarEntry) : Bool := pathBase (pathClean entry.name) = agentBinaryName

/-- The entry is a regular file in a release directory, of a size within the limits, and
    this is its content. -/
structure HoldsBinary (entry : TarEntry) (binary : Bytes) : Prop where
  regular : entry.typeflag = tarTypeReg
  depth : (splitSlash (pathClean entry.name)).length = 2
  nonempty : 1 ≤ entry.size
  limit : entry.size ≤ maxBinarySize
  content : entry.data = .ok binary
  size : (binary.length : Int) = entry.size

/-! ## Names -/

theorem head?_splitOn (l : List Char) : (l.splitOn '/').head? = some (l.takeWhile (· ≠ '/')) := by
  induction l with
  | nil => rfl
  | cons c l ih =>
    rw [List.splitOn_cons_eq_if_modifyHead]
    by_cases slash : c = '/'
    · simp [slash]
    · obtain ⟨first, rest, split⟩ := List.exists_cons_of_ne_nil (List.splitOn_ne_nil '/' l)
      rw [split] at ih ⊢
      simp only [List.head?_cons, Option.some.injEq] at ih
      simp [slash, ih]

/-- The names that the loop rejects are those whose first segment is `..`. -/
theorem first_segment_iff (name : String) :
    "../".toList.isPrefixOf name.toList = true ∨ name = ".." ↔ (splitSlash name).head? = some ".." := by
  have text : name = ".." ↔ name.toList = ['.', '.'] := by
    rw [← String.toList_inj]
    rfl
  have first : (splitSlash name).head? = some ".." ↔ name.toList.takeWhile (· ≠ '/') = ['.', '.'] := by
    unfold splitSlash
    rw [List.head?_map, head?_splitOn, Option.map_some, Option.some.injEq, ← String.toList_inj,
      String.toList_ofList]
    rfl
  have front : "../".toList = ['.', '.', '/'] := by decide
  rw [text, first, front, List.isPrefixOf_iff_prefix]
  generalize name.toList = l
  constructor
  · rintro (⟨rest, rfl⟩ | rfl)
    · simp
    · simp
  · intro segment
    obtain ⟨rest, split⟩ : ∃ rest, l = ['.', '.'] ++ rest :=
      ⟨_, by rw [← segment, List.takeWhile_append_dropWhile]⟩
    subst split
    cases rest with
    | nil => exact .inr rfl
    | cons c rest =>
      have slash : c = '/' := by
        by_contra other
        simp [other] at segment
      subst slash
      exact .inl ⟨rest, rfl⟩

theorem escapes_iff (entry : TarEntry) :
    Escapes entry ↔ "../".toList.isPrefixOf (pathClean entry.name).toList = true ∨
      pathClean entry.name = ".." ∨ pathIsAbs (pathClean entry.name) = true := by
  unfold Escapes
  rw [← first_segment_iff]
  tauto

/-! ## One entry -/

section Entry

variable {entry : TarEntry} {found : Bool}

/-- The content that the limited reader gives is the whole one exactly if it has the declared size. -/
theorem readLimited_iff {binary : Bytes} (positive : 1 ≤ entry.size) :
    entry.readLimited = .ok binary ∧ (binary.length : Int) = entry.size ↔
      entry.data = .ok binary ∧ (binary.length : Int) = entry.size := by
  unfold TarEntry.readLimited
  cases entry.data with
  | error e => simp [Except.map]
  | ok content =>
    simp only [Except.map, Except.ok.injEq]
    constructor
    · rintro ⟨rfl, size⟩
      have whole : content.take (entry.size + 1).toNat = content := by
        rw [List.length_take] at size
        apply List.take_of_length_le
        omega
      rw [whole] at size ⊢
      exact ⟨rfl, size⟩
    · rintro ⟨rfl, size⟩
      exact ⟨List.take_of_length_le (by omega), size⟩

theorem rejectIf_bind {α : Type} {condition : Prop} [Decidable condition] {e : GoError}
    {f : Unit → Except GoError α} {a : α} :
    (rejectIf condition e >>= f) = .ok a ↔ ¬ condition ∧ f () = .ok a := by
  unfold rejectIf
  split_ifs with holds <;> simp [holds, bind, Except.bind]

theorem extractEntry_none_iff :
    extractEntry found entry = .ok none ↔ ¬ Escapes entry ∧ isAgent entry = false := by
  rw [escapes_iff]
  unfold extractEntry isAgent
  dsimp only
  rw [rejectIf_bind]
  by_cases other : pathBase (pathClean entry.name) = agentBinaryName
  · simp [other, except_bind_eq_ok, pure, Except.pure]
  · simp [other, pure, Except.pure]

theorem extractEntry_some_iff {binary : Bytes} :
    extractEntry found entry = .ok (some binary) ↔
      ¬ Escapes entry ∧ isAgent entry = true ∧ found = false ∧ HoldsBinary entry binary := by
  rw [escapes_iff]
  unfold extractEntry isAgent
  dsimp only
  rw [rejectIf_bind]
  refine and_congr_right fun _ => ?_
  by_cases other : pathBase (pathClean entry.name) = agentBinaryName
  · simp only [other, ne_eq, not_true_eq_false, if_false, decide_true, true_and, except_bind_eq_ok,
      rejectIf_eq_ok, not_not, wrapError_eq_ok, pure, Except.pure, Except.ok.injEq, Option.some.injEq,
      exists_const]
    constructor
    · rintro ⟨regular, depth, fresh, positive, limit, content, read, size, rfl⟩
      obtain ⟨data, size⟩ := (readLimited_iff (by omega)).mp ⟨read, size⟩
      exact ⟨by simpa using fresh, regular, depth, by omega, by omega, data, size⟩
    · rintro ⟨fresh, regular, depth, positive, limit, data, size⟩
      obtain ⟨read, size⟩ := (readLimited_iff positive).mpr ⟨data, size⟩
      exact ⟨regular, depth, by simp [fresh], by omega, by omega, binary, read, size, rfl⟩
  · simp [other, pure, Except.pure]

end Entry

/-! ## All entries -/

/-- Behind the executable there may be no other entry of its name. -/
theorem extractEntries_found_iff {binary : Bytes} {entries : List TarEntry} {result : Option Bytes} :
    extractEntries (some binary) entries = .ok result ↔
      (∀ entry ∈ entries, ¬ Escapes entry ∧ isAgent entry = false) ∧ result = some binary := by
  induction entries with
  | nil =>
    constructor
    · intro same
      cases same
      simp
    · rintro ⟨-, rfl⟩
      rfl
  | cons entry entries ih =>
    rw [extractEntries, except_bind_eq_ok, List.forall_mem_cons, and_assoc, ← ih, ← extractEntry_none_iff]
    constructor
    · rintro ⟨held, first, rest⟩
      cases held with
      | none => exact ⟨first, rest⟩
      | some content =>
        have fresh := (extractEntry_some_iff.mp first).2.2.1
        cases fresh
    · rintro ⟨first, rest⟩
      exact ⟨none, first, rest⟩

/-- The entries hold this binary: none escapes, and there is one with the executable's
    name, which holds it. -/
def Extractable (entries : List TarEntry) (binary : Bytes) : Prop :=
  (∀ entry ∈ entries, ¬ Escapes entry) ∧
    ∃ entry, entries.filter isAgent = [entry] ∧ HoldsBinary entry binary

theorem extractEntries_iff {entries : List TarEntry} {binary : Bytes} :
    extractEntries none entries = .ok (some binary) ↔ Extractable entries binary := by
  induction entries with
  | nil => simp [extractEntries, Extractable]
  | cons entry entries ih =>
    rw [extractEntries, except_bind_eq_ok]
    constructor
    · rintro ⟨held, first, rest⟩
      cases held with
      | none =>
        obtain ⟨stays, other⟩ := extractEntry_none_iff.mp first
        obtain ⟨inside, agent, only, holds⟩ := ih.mp rest
        refine ⟨?_, agent, ?_, holds⟩
        · rw [List.forall_mem_cons]
          exact ⟨stays, inside⟩
        · rw [List.filter_cons_of_neg (by simp [other]), only]
      | some content =>
        obtain ⟨stays, agent, -, holds⟩ := extractEntry_some_iff.mp first
        obtain ⟨others, same⟩ := extractEntries_found_iff.mp rest
        cases same
        have alone : entries.filter isAgent = [] := by
          rw [List.filter_eq_nil_iff]
          intro e member
          simp [(others e member).2]
        refine ⟨?_, entry, ?_, holds⟩
        · rw [List.forall_mem_cons]
          exact ⟨stays, fun e member => (others e member).1⟩
        · rw [List.filter_cons_of_pos agent, alone]
    · rintro ⟨inside, agent, only, holds⟩
      rw [List.forall_mem_cons] at inside
      by_cases here : isAgent entry = true
      · rw [List.filter_cons_of_pos here, List.cons.injEq] at only
        obtain ⟨rfl, alone⟩ := only
        refine ⟨some binary, extractEntry_some_iff.mpr ⟨inside.1, here, rfl, holds⟩, ?_⟩
        apply extractEntries_found_iff.mpr
        refine ⟨fun e member => ⟨inside.2 e member, ?_⟩, rfl⟩
        simpa using List.filter_eq_nil_iff.mp alone e member
      · rw [List.filter_cons_of_neg here] at only
        refine ⟨none, extractEntry_none_iff.mpr ⟨inside.1, by simpa using here⟩, ?_⟩
        exact ih.mpr ⟨inside.2, agent, only, holds⟩

/-- `ExtractAgentBinary` returns a binary exactly if the archive is the described one, its
    entries can all be read and hold the binary, and the binary is the described one; in
    every other case it returns an error. -/
theorem extractAgentBinary_iff (format : ArchiveFormat) (archiveBytes : Bytes) (expectedSize : Int)
    (expectedArchiveSHA256 expectedBinarySHA256 : String) :
    (∀ binary, extractAgentBinary format archiveBytes expectedSize expectedArchiveSHA256 expectedBinarySHA256 =
          .ok binary ↔
        (archiveBytes.length : Int) = expectedSize ∧
          hexEncode (format.sha256 archiveBytes) = toLower expectedArchiveSHA256 ∧
          (∃ entries, format.openArchive archiveBytes = .ok { entries, failure := none } ∧
            Extractable entries binary) ∧
          hexEncode (format.sha256 binary) = toLower expectedBinarySHA256) ∧
      ((∃ e, extractAgentBinary format archiveBytes expectedSize expectedArchiveSHA256 expectedBinarySHA256 =
          .error e) ↔
        ¬ ∃ binary, extractAgentBinary format archiveBytes expectedSize expectedArchiveSHA256
          expectedBinarySHA256 = .ok binary) := by
  constructor
  · intro binary
    unfold extractAgentBinary
    rw [rejectIf_bind, rejectIf_bind, not_not, not_not]
    refine and_congr_right fun _ => and_congr_right fun _ => ?_
    simp only [except_bind_eq_ok, wrapError_eq_ok]
    constructor
    · rintro ⟨stream, opened, found, read, rest⟩
      obtain ⟨entries, failure⟩ := stream
      cases found with
      | none => cases rest
      | some content =>
        rw [rejectIf_bind] at rest
        obtain ⟨digest, same⟩ := rest
        cases same
        obtain ⟨held, accepted, ended⟩ := except_bind_eq_ok.mp read
        cases failure with
        | some err => cases ended
        | none =>
          cases ended
          exact ⟨⟨entries, opened, extractEntries_iff.mp accepted⟩, not_not.mp digest⟩
    · rintro ⟨⟨entries, opened, accepted⟩, digest⟩
      refine ⟨_, opened, some binary, ?_, ?_⟩
      · exact except_bind_eq_ok.mpr ⟨some binary, extractEntries_iff.mpr accepted, rfl⟩
      · exact rejectIf_bind.mpr ⟨not_not.mpr digest, rfl⟩
  · cases extractAgentBinary format archiveBytes expectedSize expectedArchiveSHA256 expectedBinarySHA256 <;> simp

end Strom.Updates
