import Strom.Collections.Groups
import Strom.Python.Text
import Strom.Updates.Version

/-!
# Numbering a release (`versioning.py`)

`compute_next_version` reads the existing tags and numbers the next release of a train.  What it
has seen of the tags is exactly their patches and candidate numbers (`mem_stablePatches_iff`,
`mem_rcs_iff`), so the number it gives is above all of them.  The agent reads the tag by
`ParseStableVersion` (`version.go`): it reads the same components, in the same order, as long as
they fit its `int` (`next_version_agrees`).
-/

namespace Strom.Tools

open Strom.Go Strom.Python Strom.Collections Strom.Updates

/-- The characters of a stable tag with these components. -/
def stableChars (major minor patch : List Char) : List Char :=
  'v' :: (major ++ '.' :: (minor ++ '.' :: patch))

/-! ## Reading a tag -/

/-- The parts of a `vMAJOR.MINOR.PATCH[-rcN]` tag. -/
structure Tag where
  major : Nat
  minor : Nat
  patch : Nat
  rc : Option Nat := none
deriving DecidableEq, Repr

section Reading

variable (u : Decimals)

/-- `$` without `re.MULTILINE`: the end, or a line feed there. -/
def atEnd : List Char → Bool
  | [] => true
  | ['\n'] => true
  | _ => false

/-- `(?:-rc(\d+))?$`. -/
def rcSuffix : List Char → Option (Option (List Char))
  | '-' :: 'r' :: 'c' :: rest =>
    let (rc, rest) := rest.span u.isDecimal
    if rc ≠ [] ∧ atEnd rest then some (some rc) else none
  | rest => if atEnd rest then some none else none

/-- `TAG_RE.match(text).groups()`, of `^v(\d+)\.(\d+)\.(\d+)(?:-rc(\d+))?$`. -/
def tagPattern (text : List Char) : Option (List Char × List Char × List Char × Option (List Char)) :=
  match text with
  | 'v' :: rest =>
    match rest.span u.isDecimal with
    | (major, '.' :: rest) =>
      match rest.span u.isDecimal with
      | (minor, '.' :: rest) =>
        let (patch, rest) := rest.span u.isDecimal
        if major ≠ [] ∧ minor ≠ [] ∧ patch ≠ [] then (rcSuffix u rest).map (major, minor, patch, ·)
        else none
      | _ => none
    | _ => none
  | _ => none

def parseTag (tag : String) : Except ValueError (Option Tag) :=
  match tagPattern u (strip tag) with
  | none => return none
  | some (major, minor, patch, rc) => do
    let major ← u.int major
    let minor ← u.int minor
    let patch ← u.int patch
    match rc with
    | none => return some { major, minor, patch }
    | some rc =>
      let rc ← u.int rc
      return some { major, minor, patch, rc := some rc }

end Reading

/-! ## The next version -/

/-- What the loop over the tags has gathered. -/
structure Seen where
  stablePatches : List Nat := []
  rcByPatch : List (Nat × List Nat) := []

/-- `rc_by_patch.get(patch, [])`. -/
def Seen.rcs (seen : Seen) (patch : Nat) : List Nat := (seen.rcByPatch.lookup patch).getD []

def Seen.add (seen : Seen) (major minor : Nat) (parsed : Tag) : Seen :=
  if (parsed.major, parsed.minor) ≠ (major, minor) then seen
  else match parsed.rc with
    | none => { seen with stablePatches := seen.stablePatches ++ [parsed.patch] }
    | some rc => { seen with
        rcByPatch := modifyKey parsed.patch (fun numbers => numbers.getD [] ++ [rc]) seen.rcByPatch }

section Numbering

variable (u : Decimals) (major minor : Nat)

/-- One round of the loop over the tags. -/
def see (seen : Seen) (tag : String) : Except ValueError Seen := do
  match ← parseTag u tag with
  | none => return seen
  | some parsed => return seen.add major minor parsed

/-- `max(numbers, default=start - 1) + 1`. -/
def nextAfter (numbers : List Nat) (start : Nat) : Nat := (numbers.max?.map (· + 1)).getD start

/-- `f"v{major}.{minor}.{patch}"`. -/
def versionText (patch : Nat) : Except ValueError (List Char) := do
  let major ← str major
  let minor ← str minor
  let patch ← str patch
  return stableChars major minor patch

def computeNextVersion (existingTags : List String) (rc : Bool) : Except ValueError String := do
  let seen ← existingTags.foldlM (see u major minor) {}
  let nextPatch := nextAfter seen.stablePatches 0
  let version ← versionText major minor nextPatch
  if !rc then
    return String.ofList version
  let nextRc ← str (nextAfter (seen.rcs nextPatch) 1)
  return String.ofList (version ++ ['-', 'r', 'c'] ++ nextRc)

end Numbering

/-! ## A tag read back -/

/-- The components of a tag as digits. -/
def Digits (digits : List Char) : Prop := digits ≠ [] ∧ ∀ c ∈ digits, c.isDigit = true

theorem digits_toDigits (n : Nat) : Digits (Nat.toDigits 10 n) :=
  ⟨Nat.toDigits_ne_nil, fun _ inside => isDigit_of_mem_str inside⟩

section Components

variable {major minor patch : List Char}

/-- The agent's pattern accepts exactly the tags made of three components of digits. -/
theorem stableVersionPattern_eq_some_iff {version : String} :
    stableVersionPattern version = some (major, minor, patch) ↔
      version.toList = stableChars major minor patch ∧ Digits major ∧ Digits minor ∧ Digits patch := by
  constructor
  · intro found
    unfold stableVersionPattern at found
    split at found
    · next rest shape =>
      split at found
      · next first rest₁ split₁ =>
        split at found
        · next second rest₂ split₂ =>
          split at found
          · next third split₃ =>
            split at found
            · next given =>
              cases found
              obtain ⟨whole₁, digits₁⟩ := span_parts split₁
              obtain ⟨whole₂, digits₂⟩ := span_parts split₂
              obtain ⟨whole₃, digits₃⟩ := span_parts split₃
              refine ⟨?_, ⟨given.1, digits₁⟩, ⟨given.2.1, digits₂⟩, ⟨given.2.2, digits₃⟩⟩
              rw [shape, whole₁, whole₂, whole₃, stableChars, List.append_nil]
            · cases found
          · cases found
        · cases found
      · cases found
    · cases found
  · intro made
    obtain ⟨shape, ⟨given₁, digits₁⟩, ⟨given₂, digits₂⟩, given₃, digits₃⟩ := made
    have dot (rest : List Char) : ∀ c ∈ ('.' :: rest).head?, c.isDigit = false := by
      intro c first
      cases first
      rfl
    unfold stableVersionPattern
    rw [shape, stableChars]
    simp only [span_stop digits₁ (dot _), span_stop digits₂ (dot _), span_all digits₃]
    exact if_pos ⟨given₁, given₂, given₃⟩

variable (u : Decimals)

theorem tagPattern_stableChars (first : Digits major) (second : Digits minor) (third : Digits patch)
    {suffix : List Char} (stop : ∀ c ∈ suffix.head?, u.isDecimal c = false) :
    tagPattern u (stableChars major minor (patch ++ suffix)) =
      (rcSuffix u suffix).map (major, minor, patch, ·) := by
  have decimal {digits : List Char} (all : Digits digits) : ∀ c ∈ digits, u.isDecimal c = true :=
    fun c inside => u.isDecimal_of_isDigit (all.2 c inside)
  have dot (rest : List Char) : ∀ c ∈ ('.' :: rest).head?, u.isDecimal c = false := by
    intro c head
    cases head
    exact u.isDecimal_dot
  unfold tagPattern stableChars
  simp only [span_stop (decimal first) (dot _), span_stop (decimal second) (dot _), span_stop (decimal third) stop]
  exact if_pos ⟨first.1, second.1, third.1⟩

/-- No blank is stripped from a tag that ends with a digit. -/
theorem strip_stableChars {tag : String} {front rest : List Char}
    (shape : tag.toList = stableChars major minor (front ++ rest)) (digits : Digits rest) :
    strip tag = tag.toList := by
  apply trimmed_eq_self
  · rw [shape]
    intro c head
    cases head
    rfl
  · have split : stableChars major minor (front ++ rest) = stableChars major minor front ++ rest := by
      simp [stableChars]
    rw [shape, split, List.getLast?_append_of_ne_nil _ digits.1]
    intro c final
    exact isSpace_of_isDigit (digits.2 c (List.mem_of_getLast? final))

end Components

section Readback

variable (u : Decimals)

theorem atoi_ok {digits : List Char} {n : Nat} (ok : atoi digits = .ok n) : n = digitsValue digits := by
  unfold atoi at ok
  split at ok
  · exact (Except.ok.inj ok).symm
  · cases ok

theorem int_ok {digits : List Char} {n : Nat} (all : Digits digits) (ok : u.int digits = .ok n) :
    n = digitsValue digits := by
  unfold Decimals.int at ok
  split at ok
  · rw [← Except.ok.inj ok, u.number_of_isDigit all.2]
  · cases ok

/-- The publisher reads a stable tag of the agent with the same components. -/
theorem parseTag_stable {tag : String} {v : StableVersion} {read : Option Tag}
    (stable : parseStableVersion tag = .ok v) (parsed : parseTag u tag = .ok read) :
    read = some ⟨v.major, v.minor, v.patch, none⟩ := by
  unfold parseStableVersion at stable
  cases matched : stableVersionPattern tag with
  | none => rw [matched] at stable; cases stable
  | some components =>
    obtain ⟨major, minor, patch⟩ := components
    obtain ⟨shape, first, second, third⟩ := stableVersionPattern_eq_some_iff.mp matched
    have stripped : strip tag = stableChars major minor patch := by
      rw [← shape]
      exact strip_stableChars (by rw [shape, List.nil_append]) third
    have pattern : tagPattern u (strip tag) = some (major, minor, patch, none) := by
      have read := tagPattern_stableChars u first second third
        (show ∀ c ∈ [].head?, u.isDecimal c = false by simp)
      rw [List.append_nil] at read
      rw [stripped, read]
      rfl
    have agent : v = ⟨digitsValue major, digitsValue minor, digitsValue patch⟩ := by
      rw [matched] at stable
      simp only [except_bind_eq_ok, wrapError_eq_ok] at stable
      obtain ⟨_, one, _, two, _, three, same⟩ := stable
      rw [← Except.ok.inj same, atoi_ok one, atoi_ok two, atoi_ok three]
    unfold parseTag at parsed
    simp only [pattern, except_bind_eq_ok] at parsed
    obtain ⟨_, one, _, two, _, three, same⟩ := parsed
    rw [← Except.ok.inj same, agent, int_ok u first one, int_ok u second two, int_ok u third three]

/-- The stable tag of three numbers. -/
def stableTag (major minor patch : Nat) : String :=
  String.ofList (stableChars (Nat.toDigits 10 major) (Nat.toDigits 10 minor) (Nat.toDigits 10 patch))

/-- The candidate tag of four numbers. -/
def candidateTag (major minor patch rc : Nat) : String :=
  String.ofList (stableChars (Nat.toDigits 10 major) (Nat.toDigits 10 minor) (Nat.toDigits 10 patch) ++
    ['-', 'r', 'c'] ++ Nat.toDigits 10 rc)

variable {major minor patch rc : Nat} (fits : major ≤ maxInt ∧ minor ≤ maxInt ∧ patch ≤ maxInt)
include fits

theorem parseStableVersion_stableTag :
    parseStableVersion (stableTag major minor patch) = .ok ⟨major, minor, patch⟩ := by
  have matched : stableVersionPattern (stableTag major minor patch) =
      some (Nat.toDigits 10 major, Nat.toDigits 10 minor, Nat.toDigits 10 patch) :=
    stableVersionPattern_eq_some_iff.mpr
      ⟨String.toList_ofList, digits_toDigits major, digits_toDigits minor, digits_toDigits patch⟩
  have read {n : Nat} (small : n ≤ maxInt) : atoi (Nat.toDigits 10 n) = .ok n := by
    have value : digitsValue (Nat.toDigits 10 n) = n := Nat.ofDigitChars_ten_toDigits
    rw [atoi, value, if_pos small]
  unfold parseStableVersion
  simp only [matched, read fits.1, read fits.2.1, read fits.2.2, wrapError_ok]
  rfl

theorem parseTag_stableTag :
    parseTag u (stableTag major minor patch) = .ok (some ⟨major, minor, patch, none⟩) := by
  have shape : (stableTag major minor patch).toList =
      stableChars (Nat.toDigits 10 major) (Nat.toDigits 10 minor) (Nat.toDigits 10 patch) :=
    String.toList_ofList
  have stripped := strip_stableChars (by rw [shape, List.nil_append]) (digits_toDigits patch)
  have pattern := tagPattern_stableChars u (digits_toDigits major) (digits_toDigits minor)
    (digits_toDigits patch) (show ∀ c ∈ [].head?, u.isDecimal c = false by simp)
  rw [List.append_nil, ← shape, ← stripped] at pattern
  unfold parseTag
  simp only [pattern, rcSuffix, atEnd, if_true, Option.map_some, u.int_toDigits fits.1, u.int_toDigits fits.2.1,
    u.int_toDigits fits.2.2]
  rfl

theorem parseTag_candidateTag (small : rc ≤ maxInt) :
    parseTag u (candidateTag major minor patch rc) = .ok (some ⟨major, minor, patch, some rc⟩) := by
  have shape : (candidateTag major minor patch rc).toList = stableChars (Nat.toDigits 10 major)
      (Nat.toDigits 10 minor) (Nat.toDigits 10 patch ++ ('-' :: 'r' :: 'c' :: Nat.toDigits 10 rc)) := by
    simp [candidateTag, stableChars]
  have ending : (candidateTag major minor patch rc).toList = stableChars (Nat.toDigits 10 major)
      (Nat.toDigits 10 minor) ((Nat.toDigits 10 patch ++ ['-', 'r', 'c']) ++ Nat.toDigits 10 rc) := by
    rw [shape, List.append_assoc]
    rfl
  have stripped := strip_stableChars ending (digits_toDigits rc)
  have stop : ∀ c ∈ ('-' :: 'r' :: 'c' :: Nat.toDigits 10 rc).head?, u.isDecimal c = false := by
    intro c first
    cases first
    exact u.isDecimal_hyphen
  have pattern := tagPattern_stableChars u (digits_toDigits major) (digits_toDigits minor)
    (digits_toDigits patch) stop
  have decimal : ∀ c ∈ Nat.toDigits 10 rc, u.isDecimal c = true :=
    fun c inside => u.isDecimal_of_isDigit (isDigit_of_mem_str inside)
  have suffix : rcSuffix u ('-' :: 'r' :: 'c' :: Nat.toDigits 10 rc) = some (some (Nat.toDigits 10 rc)) := by
    unfold rcSuffix
    simp only [span_all decimal]
    exact if_pos ⟨Nat.toDigits_ne_nil, rfl⟩
  rw [suffix, ← shape, ← stripped] at pattern
  unfold parseTag
  simp only [pattern, Option.map_some, u.int_toDigits fits.1, u.int_toDigits fits.2.1, u.int_toDigits fits.2.2,
    u.int_toDigits small]
  rfl

end Readback

/-! ## What the loop has seen -/

section Loop

variable (u : Decimals) (major minor : Nat)

theorem mem_stablePatches_add (seen : Seen) (parsed : Tag) (p : Nat) :
    p ∈ (seen.add major minor parsed).stablePatches ↔
      p ∈ seen.stablePatches ∨ parsed = ⟨major, minor, p, none⟩ := by
  obtain ⟨m, n, patch, rc⟩ := parsed
  by_cases train : (m, n) = (major, minor)
  · cases train
    cases rc <;> simp [Seen.add, eq_comm]
  · have other : ¬ (m = major ∧ n = minor) := by rwa [Prod.mk.injEq] at train
    simp only [Seen.add, ne_eq, train, not_false_eq_true, if_true, Tag.mk.injEq]
    tauto

theorem mem_rcs_add (seen : Seen) (parsed : Tag) (p k : Nat) :
    k ∈ (seen.add major minor parsed).rcs p ↔ k ∈ seen.rcs p ∨ parsed = ⟨major, minor, p, some k⟩ := by
  obtain ⟨m, n, patch, rc⟩ := parsed
  by_cases train : (m, n) = (major, minor)
  · cases train
    cases rc with
    | none => simp [Seen.add, Seen.rcs]
    | some rc =>
      by_cases same : p = patch
      · subst same
        simp [Seen.add, Seen.rcs, lookup_modifyKey, eq_comm]
      · have other : ¬ patch = p := Ne.symm same
        simp [Seen.add, Seen.rcs, lookup_modifyKey, same, other]
  · have other : ¬ (m = major ∧ n = minor) := by rwa [Prod.mk.injEq] at train
    simp only [Seen.add, ne_eq, train, not_false_eq_true, if_true, Tag.mk.injEq]
    tauto

/-- One round sees the patch or the candidate number of its tag, and nothing else. -/
theorem see_ok (seen : Seen) {tag : String} {read : Option Tag}
    (parsed : parseTag u tag = .ok read) :
    ∃ seen', see u major minor seen tag = .ok seen' ∧
      (∀ p, p ∈ seen'.stablePatches ↔ p ∈ seen.stablePatches ∨ read = some ⟨major, minor, p, none⟩) ∧
      ∀ p k, k ∈ seen'.rcs p ↔ k ∈ seen.rcs p ∨ read = some ⟨major, minor, p, some k⟩ := by
  cases read with
  | none =>
    refine ⟨seen, ?_, by simp, by simp⟩
    simp only [see, parsed]
    rfl
  | some read =>
    refine ⟨seen.add major minor read, ?_, ?_, ?_⟩
    · simp only [see, parsed]
      rfl
    · intro p
      rw [mem_stablePatches_add, Option.some.injEq]
    · intro p k
      rw [mem_rcs_add, Option.some.injEq]

/-- The loop has seen exactly the patches and the candidate numbers of the train's tags. -/
theorem see_all {tags : List String} (reads : ∀ tag ∈ tags, ∃ read, parseTag u tag = .ok read)
    (seen : Seen) :
    ∃ seen', tags.foldlM (see u major minor) seen = .ok seen' ∧
      (∀ p, p ∈ seen'.stablePatches ↔
        p ∈ seen.stablePatches ∨ ∃ tag ∈ tags, parseTag u tag = .ok (some ⟨major, minor, p, none⟩)) ∧
      ∀ p k, k ∈ seen'.rcs p ↔
        k ∈ seen.rcs p ∨ ∃ tag ∈ tags, parseTag u tag = .ok (some ⟨major, minor, p, some k⟩) := by
  induction tags generalizing seen with
  | nil => exact ⟨seen, rfl, by simp, by simp⟩
  | cons tag tags ih =>
    obtain ⟨read, parsed⟩ := reads tag List.mem_cons_self
    obtain ⟨between, round, patches, rcs⟩ := see_ok u major minor seen parsed
    obtain ⟨after, rest, patches', rcs'⟩ :=
      ih (fun other inside => reads other (List.mem_cons_of_mem _ inside)) between
    refine ⟨after, ?_, ?_, ?_⟩
    · rw [List.foldlM_cons, round]
      exact rest
    · intro p
      rw [patches', patches, or_assoc]
      simp only [List.exists_mem_cons_iff, parsed, Except.ok.injEq]
    · intro p k
      rw [rcs', rcs, or_assoc]
      simp only [List.exists_mem_cons_iff, parsed, Except.ok.injEq]

end Loop

theorem lt_nextAfter {numbers : List Nat} {n : Nat} (inside : n ∈ numbers) (start : Nat) :
    n < nextAfter numbers start := by
  cases largest : numbers.max? with
  | none =>
    rw [List.max?_eq_none_iff] at largest
    subst largest
    cases inside
  | some m =>
    have below := (List.max?_eq_some_iff.mp largest).2 n inside
    rw [nextAfter, largest]
    exact Nat.lt_succ_of_le below

theorem nextAfter_le {numbers : List Nat} {start bound : Nat} (small : ∀ n ∈ numbers, n < bound)
    (first : start ≤ bound) : nextAfter numbers start ≤ bound := by
  cases largest : numbers.max? with
  | none =>
    rw [nextAfter, largest]
    exact first
  | some m =>
    rw [nextAfter, largest]
    exact small m (List.max?_eq_some_iff.mp largest).1

section Rendering

variable (u : Decimals) {major minor : Nat} {tags : List String} {seen : Seen}

theorem versionText_ok {patch : Nat} (fits : major ≤ maxInt ∧ minor ≤ maxInt ∧ patch ≤ maxInt) :
    versionText major minor patch =
      .ok (stableChars (Nat.toDigits 10 major) (Nat.toDigits 10 minor) (Nat.toDigits 10 patch)) := by
  simp only [versionText, str_of_le_maxInt fits.1, str_of_le_maxInt fits.2.1, str_of_le_maxInt fits.2.2]
  rfl

variable (loop : tags.foldlM (see u major minor) {} = .ok seen)
  (fits : major ≤ maxInt ∧ minor ≤ maxInt ∧ nextAfter seen.stablePatches 0 ≤ maxInt)
include loop fits

theorem computeNextVersion_stable : computeNextVersion u major minor tags false =
    .ok (stableTag major minor (nextAfter seen.stablePatches 0)) := by
  unfold computeNextVersion
  rw [loop]
  simp only [bind, Except.bind, versionText_ok fits]
  rfl

theorem computeNextVersion_candidate
    (rcFits : nextAfter (seen.rcs (nextAfter seen.stablePatches 0)) 1 ≤ maxInt) :
    computeNextVersion u major minor tags true =
      .ok (candidateTag major minor (nextAfter seen.stablePatches 0)
        (nextAfter (seen.rcs (nextAfter seen.stablePatches 0)) 1)) := by
  unfold computeNextVersion
  rw [loop]
  simp only [bind, Except.bind, versionText_ok fits, str_of_le_maxInt rcFits]
  rfl

end Rendering

/-! ## The publisher and the updater agree -/

/-- A tag that `parse_tag` reads, with components below `2 ^ 62`, or one that is no release tag. -/
def Ordinary (u : Decimals) (tag : String) : Prop :=
  ∃ read, parseTag u tag = .ok read ∧ ∀ parsed ∈ read,
    parsed.major < 2 ^ 62 ∧ parsed.minor < 2 ^ 62 ∧ parsed.patch < 2 ^ 62 ∧ ∀ rc ∈ parsed.rc, rc < 2 ^ 62

theorem Ordinary.bounds {u : Decimals} {tag : String} {parsed : Tag} (ordinary : Ordinary u tag)
    (read : parseTag u tag = .ok (some parsed)) :
    parsed.major < 2 ^ 62 ∧ parsed.minor < 2 ^ 62 ∧ parsed.patch < 2 ^ 62 ∧ ∀ rc ∈ parsed.rc, rc < 2 ^ 62 := by
  obtain ⟨read', parsed', bounds⟩ := ordinary
  rw [read] at parsed'
  cases parsed'
  exact bounds _ rfl

/-- On ordinary tags and a train of `int`s, `compute_next_version` gives a stable tag and a candidate
    tag that are new.  The agent accepts the stable one and finds it newer than every stable tag of
    the train; the candidate names the same patch, with a number above every one it had. -/
theorem next_version_agrees (u : Decimals) {major minor : Nat} {tags : List String}
    (train : major ≤ maxInt ∧ minor ≤ maxInt) (ordinary : ∀ tag ∈ tags, Ordinary u tag) :
    ∃ stable candidate patch rc,
      computeNextVersion u major minor tags false = .ok stable ∧
      computeNextVersion u major minor tags true = .ok candidate ∧
      stable ∉ tags ∧ candidate ∉ tags ∧
      parseStableVersion stable = .ok ⟨major, minor, patch⟩ ∧
      (∀ tag ∈ tags, ∀ v, parseStableVersion tag = .ok v → v.major = major → v.minor = minor →
        isNewerStableVersion stable tag = .ok true) ∧
      (∀ tag ∈ tags, ∀ p, parseTag u tag = .ok (some ⟨major, minor, p, none⟩) → p < patch) ∧
      parseTag u candidate = .ok (some ⟨major, minor, patch, some rc⟩) ∧
      ∀ tag ∈ tags, ∀ k, parseTag u tag = .ok (some ⟨major, minor, patch, some k⟩) → k < rc := by
  have reads : ∀ tag ∈ tags, ∃ read, parseTag u tag = .ok read :=
    fun tag inside => (ordinary tag inside).imp fun _ read => read.1
  obtain ⟨seen, loop, patches, rcs⟩ := see_all u major minor reads {}
  have below : ∀ p ∈ seen.stablePatches, p < 2 ^ 62 := by
    intro p inside
    obtain ⟨tag, member, parsed⟩ := ((patches p).mp inside).resolve_left (by simp)
    exact ((ordinary tag member).bounds parsed).2.2.1
  have below' : ∀ k ∈ seen.rcs (nextAfter seen.stablePatches 0), k < 2 ^ 62 := by
    intro k inside
    obtain ⟨tag, member, parsed⟩ := ((rcs _ k).mp inside).resolve_left (by simp [Seen.rcs])
    exact ((ordinary tag member).bounds parsed).2.2.2 k rfl
  have abovePatches (p : Nat) (inside : p ∈ seen.stablePatches) := lt_nextAfter inside 0
  have aboveRcs (k : Nat) (inside : k ∈ seen.rcs (nextAfter seen.stablePatches 0)) := lt_nextAfter inside 1
  have patchFits : nextAfter seen.stablePatches 0 ≤ maxInt :=
    (nextAfter_le below (by decide)).trans (by decide)
  have rcFits : nextAfter (seen.rcs (nextAfter seen.stablePatches 0)) 1 ≤ maxInt :=
    (nextAfter_le below' (by decide)).trans (by decide)
  have stableRuns := computeNextVersion_stable u loop ⟨train.1, train.2, patchFits⟩
  have candidateRuns := computeNextVersion_candidate u loop ⟨train.1, train.2, patchFits⟩ rcFits
  generalize nextAfter seen.stablePatches 0 = patch at *
  generalize nextAfter (seen.rcs patch) 1 = rc at *
  have fits : major ≤ maxInt ∧ minor ≤ maxInt ∧ patch ≤ maxInt := ⟨train.1, train.2, patchFits⟩
  have agent := parseStableVersion_stableTag fits
  have lowerPatch : ∀ tag ∈ tags, ∀ p, parseTag u tag = .ok (some ⟨major, minor, p, none⟩) → p < patch := by
    intro tag inside p parsed
    exact abovePatches p ((patches p).mpr (.inr ⟨tag, inside, parsed⟩))
  have lowerRc : ∀ tag ∈ tags, ∀ k, parseTag u tag = .ok (some ⟨major, minor, patch, some k⟩) → k < rc := by
    intro tag inside k parsed
    exact aboveRcs k ((rcs patch k).mpr (.inr ⟨tag, inside, parsed⟩))
  refine ⟨_, _, patch, rc, stableRuns, candidateRuns, ?_, ?_, agent, ?_, lowerPatch,
    parseTag_candidateTag u fits rcFits, lowerRc⟩
  · intro inside
    exact lt_irrefl patch (lowerPatch _ inside patch (parseTag_stableTag u fits))
  · intro inside
    exact lt_irrefl rc (lowerRc _ inside rc (parseTag_candidateTag u fits rcFits))
  · intro tag inside v read sameMajor sameMinor
    obtain ⟨result, parsed⟩ := reads tag inside
    have publisher := parseTag_stable u read parsed
    rw [publisher, sameMajor, sameMinor] at parsed
    have older := lowerPatch tag inside v.patch parsed
    rw [isNewerStableVersion_ok agent read, decide_eq_true]
    rw [StableVersion.key_lt_iff]
    exact .inr ⟨sameMajor, .inr ⟨sameMinor, older⟩⟩

/-- Two trains, a gap, a candidate and a foreign tag. -/
theorem next_version_agrees_of_gap :
    ∃ stable candidate patch rc,
      computeNextVersion asciiDecimals 0 1 ["v0.1.4", "v0.1.5-rc2", "v2.0.9", "nightly"] false = .ok stable ∧
      computeNextVersion asciiDecimals 0 1 ["v0.1.4", "v0.1.5-rc2", "v2.0.9", "nightly"] true =
        .ok candidate ∧
      parseStableVersion stable = .ok ⟨0, 1, patch⟩ ∧ 4 < patch ∧
      parseTag asciiDecimals candidate = .ok (some ⟨0, 1, patch, some rc⟩) := by
  have train : 0 ≤ maxInt ∧ 1 ≤ maxInt := by decide
  have ordinary : ∀ tag ∈ ["v0.1.4", "v0.1.5-rc2", "v2.0.9", "nightly"], Ordinary asciiDecimals tag := by
    simp only [List.forall_mem_cons]
    exact ⟨⟨some ⟨0, 1, 4, none⟩, by decide +kernel, by decide +kernel⟩,
      ⟨some ⟨0, 1, 5, some 2⟩, by decide +kernel, by decide +kernel⟩,
      ⟨some ⟨2, 0, 9, none⟩, by decide +kernel, by decide +kernel⟩,
      ⟨none, by decide +kernel, by decide +kernel⟩, by simp⟩
  obtain ⟨stable, candidate, patch, rc, stableRuns, candidateRuns, -, -, agent, -, above, read, -⟩ :=
    next_version_agrees asciiDecimals train ordinary
  exact ⟨stable, candidate, patch, rc, stableRuns, candidateRuns, agent,
    above "v0.1.4" (by simp) 4 (by decide +kernel), read⟩

/-- A component of more digits than `int()` takes stops the reading of the tag. -/
theorem parseTag_long (u : Decimals) {major minor patch : List Char} (first : Digits major)
    (second : Digits minor) (third : Digits patch) (long : maxStrDigits < patch.length) (read : Option Tag) :
    parseTag u (String.ofList (stableChars major minor patch)) ≠ .ok read := by
  intro parsed
  have shape : (String.ofList (stableChars major minor patch)).toList = stableChars major minor patch :=
    String.toList_ofList
  have stripped := strip_stableChars (by rw [shape, List.nil_append]) third
  have pattern := tagPattern_stableChars u first second third
    (show ∀ c ∈ [].head?, u.isDecimal c = false by simp)
  rw [List.append_nil, ← shape, ← stripped] at pattern
  unfold parseTag at parsed
  simp only [pattern, rcSuffix, atEnd, if_true, Option.map_some, except_bind_eq_ok] at parsed
  obtain ⟨_, -, _, -, _, third, -⟩ := parsed
  rw [Decimals.int, if_neg (not_le.mpr long)] at third
  cases third

/-- A train beyond `int`, without a tag, gets a version that the agent does not accept; and with a
    tag whose patch is zero in too many digits no version comes out. -/
theorem large_train_not_accepted :
    (∃ stable, computeNextVersion asciiDecimals (2 ^ 63) 0 [] false = .ok stable ∧ ¬ Stable stable) ∧
    ∀ version, computeNextVersion asciiDecimals 0 1
      [String.ofList (stableChars ['0'] ['1'] (List.replicate 4301 '0'))] false ≠ .ok version := by
  constructor
  · exact ⟨"v9223372036854775808.0.0", by decide +kernel, by decide +kernel⟩
  · intro version runs
    have zeros : Digits (List.replicate 4301 '0') := by
      refine ⟨List.ne_nil_of_length_pos ?_, ?_⟩
      · rw [List.length_replicate]
        decide
      intro c inside
      rw [List.eq_of_mem_replicate inside]
      rfl
    have long : maxStrDigits < (List.replicate 4301 '0').length := by
      rw [List.length_replicate]
      decide
    simp only [computeNextVersion, List.foldlM_cons, see, except_bind_eq_ok] at runs
    obtain ⟨_, ⟨_, ⟨read, parsed, -⟩, -⟩, -⟩ := runs
    exact parseTag_long asciiDecimals ⟨by simp, by simp⟩ ⟨by simp, by simp⟩ zeros long read parsed

end Strom.Tools
