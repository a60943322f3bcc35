import Strom.Agent.Controls
import Strom.Collections.Groups
import Strom.Go.JsonTrees

/-!
# Labels of the UPS devices (`ups_metadata.go`)

The agent keeps a display name and tags for a UPS in a JSON file.  A record is normalized before
it is stored and again when the file is loaded; a normalized record is a fixed point
(`normalize_normalized`), so a saved map of normalized records loads as it was
(`loadUPSMetadata_saved`).
-/

namespace Strom.Agent

open Strom.Go Strom.Collections

structure UpsMetadata where
  displayName : String := ""
  tags : List String := []
deriving DecidableEq, Repr, Inhabited

/-- `map[string]upsMetadata`, by its entries. -/
abbrev MetadataMap := List (String × UpsMetadata)

/-! ## Normalization -/

def maxUPSMetadataText : Nat := 120
def maxUPSMetadataTags : Nat := 12

/-- `unicode.IsControl`. -/
def isControlRune (c : Char) : Bool := c.toNat < 0x20 || (0x7F ≤ c.toNat && c.toNat < 0xA0)

def normalizeUPSMetadataText (value field : String) : Except GoError String := do
  let value := trimSpace value
  if (utf8 value).length > maxUPSMetadataText then
    throw (.text (field ++ " must be " ++ toString maxUPSMetadataText ++ " characters or fewer"))
  if value.toList.any isControlRune then
    throw (.text "metadata cannot contain control characters")
  return value

/-- The loop over the tags, with the keys that it has seen. -/
def normalizeTags (seen : List String) : List String → Except GoError (List String)
  | [] => return []
  | tag :: rest => do
    let normalized ← normalizeUPSMetadataText tag "tag"
    if normalized = "" ∨ toLower normalized ∈ seen then
      normalizeTags seen rest
    else
      let tags ← normalizeTags (toLower normalized :: seen) rest
      return normalized :: tags

/-- `sort.Slice` by the tags in lower case, which are different. -/
def sortTags (tags : List String) : List String := tags.mergeSort fun a b => !decide (toLower b < toLower a)

def normalizeUPSMetadata (metadata : UpsMetadata) : Except GoError UpsMetadata := do
  let displayName ← normalizeUPSMetadataText metadata.displayName "display name"
  if metadata.tags.length > maxUPSMetadataTags then
    throw (.text ("at most " ++ toString maxUPSMetadataTags ++ " tags are allowed"))
  let tags ← normalizeTags [] metadata.tags
  return { displayName, tags := sortTags tags }

/-! ## The file -/

/-- The JSON value of a record; empty fields are omitted. -/
def UpsMetadata.tree (metadata : UpsMetadata) : Json.Tree :=
  .object ((if metadata.displayName = "" then [] else [("display_name", .string metadata.displayName)]) ++
    (if metadata.tags = [] then [] else [("tags", .array (metadata.tags.map .string))]))

/-- The entries in the order in which a map is written. -/
def sortedEntries (metadata : MetadataMap) : MetadataMap := metadata.mergeSort fun a b => !decide (b.1 < a.1)

/-- The text that `saveUPSMetadata` writes. -/
def metadataText (metadata : MetadataMap) : List Char :=
  Json.marshalIndent (.object ((sortedEntries metadata).map fun entry => (entry.1, entry.2.tree))) ++ ['\n']

/-- A character of a field name, without regard to case as the decoder folds it. -/
def foldRune (c : Char) : Char :=
  if c.toNat = 0x17F then 's' else if c.toNat = 0x212A then 'k' else c.toLower

/-- The key names the field, exactly or but for its case. -/
def namesField (key field : String) : Bool := key.toList.map foldRune == field.toList

/-- A record while it is decoded: what the array of the slice holds, and the length of the slice. -/
structure Decoding where
  displayName : String := ""
  backing : List String := []
  length : Nat := 0

/-- The elements of an array; `null` leaves what the slice's array holds there. -/
def decodeItems (backing : List String) : List Json.Tree → Option (List String)
  | [] => some backing
  | item :: items => do
    let value ← match item with
      | .string s => some s
      | .null => some (backing.headD "")
      | _ => none
    let rest ← decodeItems backing.tail items
    return value :: rest

def decodeMember (d : Decoding) (member : String × Json.Tree) : Option Decoding :=
  if namesField member.1 "display_name" then
    match member.2 with
    | .string s => some { d with displayName := s }
    | .null => some d
    | _ => none
  else if namesField member.1 "tags" then
    match member.2 with
    | .null => some { d with backing := [], length := 0 }
    | .array [] => some { d with backing := [], length := 0 }
    | .array items => (decodeItems d.backing items).map fun backing => { d with backing, length := items.length }
    | _ => none
  else some d

/-- A record from its JSON value; a value of another type is an error. -/
def decodeRecord : Json.Tree → Option UpsMetadata
  | .null => some {}
  | .object members =>
    (members.foldlM decodeMember {}).map fun d => { displayName := d.displayName, tags := d.backing.take d.length }
  | _ => none

/-- `json.Unmarshal` into a map of records; of two members with one key the later stays. -/
def decodeMap : Json.Tree → Option MetadataMap
  | .null => some []
  | .object members => members.foldlM (fun map member =>
      (decodeRecord member.2).map fun record => modifyKey member.1 (fun _ => record) map) []
  | _ => none

/-- `loadUPSMetadata`, from what `os.ReadFile` returns. -/
def loadUPSMetadata (content : Except GoError (List Char)) : Except GoError MetadataMap :=
  match content with
  | .error e => if e.isNotExist then return [] else throw (.wrap "read UPS metadata" e)
  | .ok [] => return []
  | .ok text => do
    match (Json.parse text).bind decodeMap with
    | none => throw (.wrap "decode UPS metadata" (.text "invalid character"))
    | some metadata => metadata.mapM fun entry =>
        (wrapError ("validate UPS metadata for " ++ entry.1) (normalizeUPSMetadata entry.2)).map (entry.1, ·)

/-! ## A normalized record is a fixed point -/

/-- A text that normalization leaves as it is. -/
def NormalText (value : String) : Prop :=
  trimSpace value = value ∧ (utf8 value).length ≤ maxUPSMetadataText ∧ value.toList.any isControlRune = false

theorem normalizeUPSMetadataText_ok {value field text : String}
    (ok : normalizeUPSMetadataText value field = .ok text) : NormalText text := by
  unfold normalizeUPSMetadataText at ok
  dsimp only at ok
  split at ok
  · cases ok
  · next short =>
    split at ok
    · cases ok
    · next clean =>
      cases ok
      exact ⟨trimSpace_trimSpace value, not_lt.mp short, by simpa using clean⟩

theorem NormalText.normalize {value : String} (normal : NormalText value) (field : String) :
    normalizeUPSMetadataText value field = .ok value := by
  obtain ⟨trimmed, short, clean⟩ := normal
  unfold normalizeUPSMetadataText
  rw [trimmed, if_neg (not_lt.mpr short), clean]
  rfl

/-- The tags of a normalized record, up to their order. -/
structure NormalTags (seen tags : List String) : Prop where
  normal : ∀ tag ∈ tags, NormalText tag ∧ tag ≠ ""
  fresh : ∀ tag ∈ tags, toLower tag ∉ seen
  nodup : (tags.map toLower).Nodup

theorem normalizeTags_ok {seen tags out : List String} (ok : normalizeTags seen tags = .ok out) :
    NormalTags seen out ∧ out.length ≤ tags.length := by
  induction tags generalizing seen out with
  | nil =>
    cases ok
    exact ⟨⟨by simp, by simp, by simp⟩, le_refl _⟩
  | cons tag tags ih =>
    unfold normalizeTags at ok
    obtain ⟨normalized, text, rest⟩ := except_bind_eq_ok.mp ok
    split at rest
    · obtain ⟨kept, short⟩ := ih rest
      exact ⟨kept, short.trans (Nat.le_succ _)⟩
    · next added =>
      rw [not_or] at added
      obtain ⟨others, later, whole⟩ := except_bind_eq_ok.mp rest
      cases whole
      obtain ⟨⟨normal, fresh, nodup⟩, short⟩ := ih later
      refine ⟨⟨?_, ?_, ?_⟩, Nat.succ_le_succ short⟩
      · exact List.forall_mem_cons.mpr ⟨⟨normalizeUPSMetadataText_ok text, added.1⟩, normal⟩
      · refine List.forall_mem_cons.mpr ⟨added.2, ?_⟩
        intro other inside seen_other
        exact fresh other inside (List.mem_cons_of_mem _ seen_other)
      · refine List.nodup_cons.mpr ⟨?_, nodup⟩
        intro again
        obtain ⟨other, inside, same⟩ := List.mem_map.mp again
        exact fresh other inside (same ▸ List.mem_cons_self)

theorem normalizeTags_self {seen tags : List String} (kept : NormalTags seen tags) :
    normalizeTags seen tags = .ok tags := by
  induction tags generalizing seen with
  | nil => rfl
  | cons tag tags ih =>
    obtain ⟨normal, fresh, nodup⟩ := kept
    obtain ⟨⟨text, given⟩, normal⟩ := List.forall_mem_cons.mp normal
    obtain ⟨unseen, fresh⟩ := List.forall_mem_cons.mp fresh
    obtain ⟨single, nodup⟩ := List.nodup_cons.mp nodup
    have later : NormalTags (toLower tag :: seen) tags := by
      refine ⟨normal, ?_, nodup⟩
      intro other inside again
      obtain same | again := List.mem_cons.mp again
      · exact single (List.mem_map.mpr ⟨other, inside, same⟩)
      · exact fresh other inside again
    have skipped : ¬ (tag = "" ∨ toLower tag ∈ seen) := by
      rw [not_or]
      exact ⟨given, unseen⟩
    unfold normalizeTags
    rw [text.normalize "tag"]
    show (if tag = "" ∨ toLower tag ∈ seen then _ else _) = _
    rw [if_neg skipped, ih later]
    rfl

theorem sortTags_sortTags (tags : List String) : sortTags (sortTags tags) = sortTags tags := by
  apply List.mergeSort_of_pairwise
  apply List.pairwise_mergeSort
  · intro a b c first second
    simp only [Bool.not_eq_true', decide_eq_false_iff_not, String.not_lt] at *
    exact String.le_trans first second
  · intro a b
    simp only [Bool.or_eq_true, Bool.not_eq_true', decide_eq_false_iff_not, String.not_lt]
    exact String.le_total _ _

/-- A record that normalization leaves as it is. -/
def Normalized (metadata : UpsMetadata) : Prop := normalizeUPSMetadata metadata = .ok metadata

/-- What `normalizeUPSMetadata` returns is normalized. -/
theorem normalize_normalized {metadata normalized : UpsMetadata}
    (ok : normalizeUPSMetadata metadata = .ok normalized) : Normalized normalized := by
  unfold normalizeUPSMetadata at ok
  obtain ⟨displayName, name, rest⟩ := except_bind_eq_ok.mp ok
  split at rest
  · cases rest
  · next few =>
    obtain ⟨tags, collected, whole⟩ := except_bind_eq_ok.mp rest
    cases whole
    obtain ⟨⟨normal, fresh, nodup⟩, short⟩ := normalizeTags_ok collected
    have perm : (sortTags tags).Perm tags := List.mergeSort_perm _ _
    have kept : NormalTags [] (sortTags tags) :=
      ⟨fun tag inside => normal tag (perm.mem_iff.mp inside), by simp, (perm.map toLower).nodup_iff.mpr nodup⟩
    have fits : ¬ (sortTags tags).length > maxUPSMetadataTags := by
      rw [perm.length_eq]
      omega
    unfold Normalized normalizeUPSMetadata
    rw [(normalizeUPSMetadataText_ok name).normalize]
    show (if (sortTags tags).length > maxUPSMetadataTags then _ else _) = _
    rw [if_neg fits, normalizeTags_self kept]
    show Except.ok (UpsMetadata.mk displayName (sortTags (sortTags tags))) = _
    rw [sortTags_sortTags]

/-! ## A saved map loads -/

theorem decodeItems_strings (tags : List String) : decodeItems [] (tags.map .string) = some tags := by
  induction tags with
  | nil => rfl
  | cons tag tags ih =>
    simp only [List.map_cons, decodeItems, List.tail_nil, ih]
    rfl

/-- A record decodes from its JSON value. -/
theorem decodeRecord_tree (metadata : UpsMetadata) : decodeRecord metadata.tree = some metadata := by
  obtain ⟨displayName, tags⟩ := metadata
  have name (d : Decoding) :
      decodeMember d ("display_name", .string displayName) = some { d with displayName } := by
    have same : namesField "display_name" "display_name" = true := by decide
    simp only [decodeMember, same, if_true]
  have list (d : Decoding) (tag : String) (rest : List String) (clean : d.backing = []) :
      decodeMember d ("tags", .array ((tag :: rest).map .string)) =
        some { d with backing := tag :: rest, length := (tag :: rest).length } := by
    have other : namesField "tags" "display_name" = false := by decide
    have same : namesField "tags" "tags" = true := by decide
    have items := decodeItems_strings (tag :: rest)
    unfold decodeMember
    simp only [other, same, Bool.false_eq_true, if_false, if_true, List.map_cons, clean] at items ⊢
    rw [items]
    simp
  unfold UpsMetadata.tree decodeRecord
  by_cases unnamed : displayName = ""
  · subst unnamed
    cases tags with
    | nil => rfl
    | cons tag rest =>
      have read := list {} tag rest rfl
      simp only [if_true, List.nil_append, reduceCtorEq, if_false, List.foldlM_cons, read]
      simp
  · cases tags with
    | nil =>
      simp only [if_neg unnamed, if_true, List.append_nil, List.foldlM_cons, name]
      simp
    | cons tag rest =>
      have read := list { displayName } tag rest rfl
      simp only [if_neg unnamed, reduceCtorEq, if_false, List.cons_append, List.nil_append, List.foldlM_cons, name,
        read, Option.bind_eq_bind, Option.bind_some]
      simp

theorem modifyKey_fresh {Value : Type} {key : String} {map : List (String × Value)} (fresh : key ∉ map.map (·.1))
    (change : Option Value → Value) : modifyKey key change map = map ++ [(key, change none)] := by
  induction map with
  | nil => rfl
  | cons entry map ih =>
    obtain ⟨other, value⟩ := entry
    rw [List.map_cons, List.mem_cons, not_or] at fresh
    rw [modifyKey, if_neg (Ne.symm fresh.1), ih fresh.2]
    rfl

/-- The members of a map with different keys decode in their order. -/
theorem decodeMap_entries {entries : MetadataMap} (nodup : (entries.map (·.1)).Nodup) :
    decodeMap (.object (entries.map fun entry => (entry.1, entry.2.tree))) = some entries := by
  have loop (front : MetadataMap) (different : ((front ++ entries).map (·.1)).Nodup) :
      (entries.map fun entry => (entry.1, entry.2.tree)).foldlM (fun map member =>
        (decodeRecord member.2).map fun record => modifyKey member.1 (fun _ => record) map) front =
          some (front ++ entries) := by
    clear nodup
    induction entries generalizing front with
    | nil => simp
    | cons entry entries ih =>
      obtain ⟨name, record⟩ := entry
      have fresh : name ∉ front.map (·.1) := by
        intro again
        rw [List.map_append, List.nodup_append] at different
        exact different.2.2 name again name (by simp) rfl
      have later := ih (front ++ [(name, record)]) (by simpa using different)
      simp only [List.map_cons, List.foldlM_cons, decodeRecord_tree, Option.map_some, modifyKey_fresh fresh,
        Option.bind_eq_bind, Option.bind_some, later]
      simp
  exact loop [] nodup

/-! ### The brackets of a saved map -/

theorem fitItems_strings (depth : Nat) (tags : List String) : Json.FitItems depth (tags.map .string) := by
  induction tags with
  | nil => trivial
  | cons tag tags ih => exact ⟨trivial, ih⟩

theorem fits_tree {depth : Nat} (deep : 2 ≤ depth) (metadata : UpsMetadata) : Json.Fits depth metadata.tree := by
  obtain ⟨displayName, tags⟩ := metadata
  have inside : 0 < depth - 1 := by omega
  unfold UpsMetadata.tree
  refine ⟨by omega, ?_⟩
  by_cases unnamed : displayName = "" <;> by_cases untagged : tags = []
  · simp [unnamed, untagged, Json.FitMembers]
  · simp only [unnamed, untagged, if_true, if_false, List.nil_append]
    exact ⟨⟨inside, fitItems_strings _ tags⟩, trivial⟩
  · simp only [unnamed, untagged, if_true, if_false, List.append_nil]
    exact ⟨trivial, trivial⟩
  · simp only [unnamed, untagged, if_false, List.cons_append, List.nil_append]
    exact ⟨trivial, ⟨inside, fitItems_strings _ tags⟩, trivial⟩

theorem fits_entries (entries : MetadataMap) :
    Json.Fits Json.maxNestingDepth (.object (entries.map fun entry => (entry.1, entry.2.tree))) := by
  refine ⟨by decide, ?_⟩
  induction entries with
  | nil => trivial
  | cons entry entries ih => exact ⟨fits_tree (by decide) entry.2, ih⟩

theorem mapM_normalized {entries : MetadataMap} (normal : ∀ entry ∈ entries, Normalized entry.2) :
    (entries.mapM fun entry => (wrapError ("validate UPS metadata for " ++ entry.1)
      (normalizeUPSMetadata entry.2)).map (entry.1, ·)) = .ok entries := by
  induction entries with
  | nil => rfl
  | cons entry entries ih =>
    obtain ⟨first, later⟩ := List.forall_mem_cons.mp normal
    rw [List.mapM_cons, ih later, show normalizeUPSMetadata entry.2 = .ok entry.2 from first]
    rfl

/-- A saved map of normalized records loads with its entries. -/
theorem loadUPSMetadata_saved {metadata : MetadataMap} (nodup : (metadata.map (·.1)).Nodup)
    (normal : ∀ entry ∈ metadata, Normalized entry.2) :
    loadUPSMetadata (.ok (metadataText metadata)) = .ok (sortedEntries metadata) := by
  have perm : (sortedEntries metadata).Perm metadata := List.mergeSort_perm _ _
  have read : Json.parse (metadataText metadata) =
      some (.object ((sortedEntries metadata).map fun entry => (entry.1, entry.2.tree))) :=
    Json.parse_indented (fits_entries _) (by simp [Json.isBlank])
  have decoded : decodeMap (.object ((sortedEntries metadata).map fun entry => (entry.1, entry.2.tree))) =
      some (sortedEntries metadata) := decodeMap_entries ((perm.map _).nodup_iff.mpr nodup)
  have sorted : ∀ entry ∈ sortedEntries metadata, Normalized entry.2 :=
    fun entry inside => normal entry (perm.mem_iff.mp inside)
  have given : metadataText metadata ≠ [] := by simp [metadataText]
  unfold loadUPSMetadata
  split
  · next shape => cases shape
  · next shape => exact absurd (Except.ok.inj shape) given
  · next text _ shape =>
    cases shape
    simp only [read, Option.bind_some, decoded]
    exact mapM_normalized sorted

end Strom.Agent
