import Strom.Routes.Nodes

/-!
# The shapes of paths

How a path of escaped names comes through the browser and the mux, and what its
segments must be for the handlers to take it for an operation.
-/

namespace Strom.Routes

open Strom.Go

/-- A name that a URL takes for a place in the path. -/
def IsDot (name : String) : Prop := name = "." ∨ name = ".."

/-- `strings.HasPrefix` of a segment. -/
def startsUPS (segment : Bytes) : Prop := utf8 "ups" <+: segment

/-! ## Segments of a URL -/

/-- No dot segment. -/
def Plain (segment : Bytes) : Prop := isSingleDot segment = false ∧ isDoubleDot segment = false

instance (segment : Bytes) : Decidable (Plain segment) := inferInstanceAs (Decidable (_ ∧ _))

theorem removeDots_plain {segments : List Bytes} (plain : ∀ segment ∈ segments, Plain segment)
    (done : List Bytes) : removeDots done segments = done.reverse ++ segments := by
  induction segments generalizing done with
  | nil => simp [removeDots]
  | cons segment rest ih =>
    obtain ⟨single, double⟩ := plain segment List.mem_cons_self
    rw [removeDots]
    simp only [single, double, Bool.false_eq_true, if_false]
    rw [ih (fun other member => plain other (List.mem_cons_of_mem _ member))]
    simp

/-- Only the dot names are escaped to dot segments. -/
theorem plain_encode {name : String} (apart : ¬ IsDot name) : Plain (encodeURIComponent name) := by
  constructor
  · by_contra dotted
    have among : encodeURIComponent name ∈ [".", "%2e", "%2E"].map utf8 := by
      simpa only [isSingleDot, List.contains_iff_mem, Bool.not_eq_false] using dotted
    have read : ∀ text ∈ [".", "%2e", "%2E"].map utf8, pathUnescape text = some (utf8 ".") := by decide
    exact apart (.inl (utf8_injective (utf8_of_encode rfl (read _ among))))
  · by_contra dotted
    have among : encodeURIComponent name ∈
        ["..", ".%2e", ".%2E", "%2e.", "%2E.", "%2e%2e", "%2e%2E", "%2E%2e", "%2E%2E"].map utf8 := by
      simpa only [isDoubleDot, List.contains_iff_mem, Bool.not_eq_false] using dotted
    have read : ∀ text ∈
        ["..", ".%2e", ".%2E", "%2e.", "%2E.", "%2e%2e", "%2e%2E", "%2E%2e", "%2E%2E"].map utf8,
        pathUnescape text = some (utf8 "..") := by decide
    exact apart (.inr (utf8_injective (utf8_of_encode rfl (read _ among))))

/-- A segment as it is written, and what it is read as. -/
structure Reads (raw value : Bytes) : Prop where
  whole : slash ∉ raw
  read : ∀ rest, pathUnescape (raw ++ rest) = (pathUnescape rest).map (value ++ ·)

theorem reads_word {word : Bytes} (whole : slash ∉ word) (plain : percent ∉ word) : Reads word word :=
  ⟨whole, pathUnescape_append plain⟩

theorem reads_encode (name : String) : Reads (encodeURIComponent name) (utf8 name) :=
  ⟨slash_not_mem_encode name, pathUnescape_encodeURIComponent name⟩

theorem reads_self {raw value : Bytes} (reads : Reads raw value) : pathUnescape raw = some value := by
  simpa using reads.read []

theorem reads_join {raws values : List Bytes} (reads : List.Forall₂ Reads raws values) (some_ : raws ≠ []) :
    pathUnescape (joinPath raws) = some (joinPath values) := by
  induction reads with
  | nil => exact (some_ rfl).elim
  | @cons raw value raws values first rest ih =>
    cases rest with
    | nil => simpa using reads_self first
    | @cons raw' value' raws' values' next more =>
      have step := ih (List.cons_ne_nil _ _)
      rw [joinPath_cons raw (List.cons_ne_nil _ _), joinPath_cons value (List.cons_ne_nil _ _), first.read,
        pathUnescape_cons (by decide), step]
      rfl

/-! ## Up to the handler -/

/-- The segments of a call's path, from the node id on. -/
def callPath (parts : List Bytes) : Bytes := joinPath ([] :: utf8 "api" :: utf8 "nodes" :: parts)

theorem nodesPrefix_eq : nodesPrefix = slash :: (utf8 "api" ++ slash :: (utf8 "nodes" ++ [slash])) := by
  decide

theorem callPath_eq {parts : List Bytes} (some_ : parts ≠ []) :
    callPath parts = nodesPrefix ++ joinPath parts := by
  unfold callPath
  rw [joinPath_cons _ (List.cons_ne_nil _ _), joinPath_cons _ (List.cons_ne_nil _ _),
    joinPath_cons _ some_, nodesPrefix_eq]
  simp

theorem splitPath_callPath {parts : List Bytes} (some_ : parts ≠ []) :
    splitPath (callPath parts) = [] :: utf8 "api" :: utf8 "nodes" :: splitPath (joinPath parts) := by
  unfold callPath
  rw [splitPath_joinPath (List.cons_ne_nil _ _), splitPath_joinPath some_]
  have own : [[], utf8 "api", utf8 "nodes"].flatMap splitPath = [[], utf8 "api", utf8 "nodes"] := by
    decide
  simp only [List.flatMap_cons, List.flatMap_nil, List.append_nil] at own ⊢
  rw [← List.append_assoc, ← List.append_assoc, List.append_assoc (splitPath []), own]
  rfl

theorem urlPath_joinPath {segments : List Bytes} (whole : ∀ segment ∈ segments, slash ∉ segment) :
    urlPath (joinPath ([] :: segments)) = joinPath ([] :: removeDots [] segments) := by
  have split : splitPath (joinPath ([] :: segments)) = [] :: segments := by
    apply List.splitOn_intercalate slash _ (List.cons_ne_nil _ _)
    intro segment member
    obtain rfl | member := List.mem_cons.mp member
    · simp
    · exact whole segment member
  rw [urlPath, split, List.tail_cons]

section Serving

variable {method : Method} {raws values : List Bytes}

theorem forall_reads_api (reads : List.Forall₂ Reads raws values) :
    List.Forall₂ Reads ([] :: utf8 "api" :: utf8 "nodes" :: raws) ([] :: utf8 "api" :: utf8 "nodes" :: values) :=
  .cons (reads_word (by simp) (by simp)) (.cons (reads_word (by decide) (by decide))
    (.cons (reads_word (by decide) (by decide)) reads))

theorem splitPath_raws (reads : List.Forall₂ Reads raws values) :
    splitPath (callPath raws) = [] :: utf8 "api" :: utf8 "nodes" :: raws := by
  apply List.splitOn_intercalate slash _ (List.cons_ne_nil _ _)
  intro raw member
  obtain ⟨i, inside, rfl⟩ := List.getElem_of_mem member
  have all := forall_reads_api reads
  exact (all.get inside (all.length_eq ▸ inside)).whole

/-- The handler sees the segments as they are read. -/
theorem serveHTTP_callPath (reads : List.Forall₂ Reads raws values)
    (clean : isUnclean (callPath raws) = false) :
    serveHTTP method (callPath raws) = handleNodes method (callPath values) := by
  have decoded : pathUnescape (callPath raws) = some (callPath values) :=
    reads_join (forall_reads_api reads) (List.cons_ne_nil _ _)
  have nodes : isNodesPath (callPath raws) = true := by
    rw [isNodesPath, splitPath_raws reads]
    have words : [[], utf8 "api", utf8 "nodes"].map pathUnescape =
        [some [], some (utf8 "api"), some (utf8 "nodes")] := by decide
    simp only [List.take_succ_cons, List.take_zero, words, decide_true]
  simp [serveHTTP, decoded, clean, nodes]

/-- A request that another handler or the mux answers is about no node. -/
theorem serveHTTP_cases (reads : List.Forall₂ Reads raws values) :
    serveHTTP method (callPath raws) = .redirected ∨
      serveHTTP method (callPath raws) = handleNodes method (callPath values) := by
  cases clean : isUnclean (callPath raws) with
  | false => exact .inr (serveHTTP_callPath reads clean)
  | true =>
    left
    have decoded : pathUnescape (callPath raws) = some (callPath values) :=
      reads_join (forall_reads_api reads) (List.cons_ne_nil _ _)
    simp [serveHTTP, decoded, clean]

end Serving

/-! ## The handlers -/

section Handlers

variable (rest : Bytes)

theorem splitPath_nodes :
    splitPath (nodesPrefix ++ rest) = [] :: utf8 "api" :: utf8 "nodes" :: splitPath rest := by
  have shape : nodesPrefix ++ rest =
      slash :: (utf8 "api" ++ slash :: (utf8 "nodes" ++ slash :: rest)) := by
    simp [nodesPrefix_eq]
  have first := splitPath_append [] (utf8 "api" ++ slash :: (utf8 "nodes" ++ slash :: rest))
  rw [List.nil_append] at first
  rw [shape, first, splitPath_append, splitPath_append, splitPath_plain (by decide : slash ∉ utf8 "api"),
    splitPath_plain (by decide : slash ∉ utf8 "nodes"), splitPath_plain (by simp)]
  rfl

@[simp] theorem trimPrefix_nodes : trimPrefix (nodesPrefix ++ rest) nodesPrefix = rest := by
  simp [trimPrefix]

theorem trimSuffix_append (s back : Bytes) : trimSuffix (s ++ back) back = s := by
  simp [trimSuffix]

/-- A slash at the end is taken off. -/
theorem trimSuffix_slash (s : Bytes) : trimSuffix s [slash] = s ↔ (splitPath s).getLast? ≠ some [] ∨ s = [] := by
  have last : [slash] <:+ s ↔ ∃ front, front ≠ [] ∧ splitPath s = front ++ [[]] :=
    suffix_iff_last (by simp)
  unfold trimSuffix
  by_cases ends : [slash] <:+ s
  · obtain ⟨front, more, split⟩ := last.mp ends
    have some_ : s ≠ [] := by
      rintro rfl
      simp at ends
    have shorter : s.take (s.length - 1) ≠ s := by
      intro same
      have lengths := congrArg List.length same
      have positive := List.length_pos_iff.mpr some_
      rw [List.length_take] at lengths
      omega
    simp [ends, split, some_, shorter]
  · simp only [List.isSuffixOf_iff_suffix, ends, if_false, true_iff]
    by_cases empty : s = []
    · exact .inr empty
    · left
      intro blank
      obtain ⟨front, split⟩ := List.getLast?_eq_some_iff.mp blank
      have more : front ≠ [] := by
        rintro rfl
        have whole := joinPath_splitPath s
        rw [split] at whole
        simp at whole
        exact empty whole
      exact ends (last.mpr ⟨front, more, split⟩)

theorem contains_ups_iff : containsText (nodesPrefix ++ rest) (utf8 "/ups") = true ↔
    ∃ segment ∈ splitPath rest, startsUPS segment := by
  have spelled : utf8 "/ups" = slash :: utf8 "ups" := by decide
  unfold containsText startsUPS
  rw [decide_eq_true_eq, spelled, infix_iff_segment (by decide), splitPath_nodes, List.tail_cons]
  constructor
  · rintro ⟨segment, member, starts⟩
    obtain rfl | rfl | member := by simpa using member
    · exact absurd starts (by decide)
    · exact absurd starts (by decide)
    · exact ⟨segment, member, starts⟩
  · rintro ⟨segment, member, starts⟩
    exact ⟨segment, List.mem_cons_of_mem _ (List.mem_cons_of_mem _ member), starts⟩

theorem suffix_word_iff {word : Bytes} (plain : slash ∉ word) :
    (slash :: word).isSuffixOf (nodesPrefix ++ rest) = true ↔ (splitPath rest).getLast? = some word := by
  rw [List.isSuffixOf_iff_suffix, suffix_iff_last plain, splitPath_nodes, List.getLast?_eq_some_iff]
  obtain ⟨first, others, split⟩ := List.exists_cons_of_ne_nil (splitPath_ne_nil rest)
  constructor
  · rintro ⟨front, -, same⟩
    -- the three segments of the prefix are in front of the word
    match front with
    | [] | [_] | [_, _] => simp [split] at same
    | _ :: _ :: _ :: front =>
      simp only [List.cons_append, List.cons.injEq] at same
      exact ⟨front, same.2.2.2⟩
  · rintro ⟨front, same⟩
    exact ⟨[] :: utf8 "api" :: utf8 "nodes" :: front, by simp, by simp [same]⟩

variable {rest} {method : Method}

/-- The words behind the UPS name. -/
def UPSAction.words : UPSAction → List Bytes
  | .detail => []
  | .history => [utf8 "history"]
  | .command => [utf8 "command"]
  | .metadata => [utf8 "metadata"]

/-- Only such a path is taken for an operation on a UPS. -/
theorem ups_of_handleNodeUPS {action : UPSAction} {nodeID upsName : Bytes}
    (reached : handleNodeUPS method (nodesPrefix ++ rest) = .ups action nodeID upsName) :
    ∃ part, splitPath rest = nodeID :: utf8 "ups" :: part :: action.words ∧
      pathUnescape part = some upsName ∧ isBlank upsName = false := by
  unfold handleNodeUPS at reached
  rw [trimPrefix_nodes] at reached
  split at reached
  · cases reached
  split at reached
  · rename_i nodeID' second parts split
    split at reached
    · cases reached
    rename_i named
    obtain rfl : second = utf8 "ups" := by
      by_contra other
      exact named (.inr other)
    cases parts with
    | nil => cases reached
    | cons part parts =>
      cases read : pathUnescape part with
      | none => simp [read] at reached
      | some upsName' =>
        simp only [read] at reached
        cases blank : isBlank upsName' with
        | true => simp [blank] at reached
        | false =>
          simp only [blank, Bool.false_eq_true, if_false] at reached
          split_ifs at reached <;> cases reached <;> simp_all [UPSAction.words]
  · cases reached

/-- The other handlers are about no UPS. -/
theorem ups_of_handleNodes {action : UPSAction} {nodeID upsName : Bytes}
    (reached : handleNodes method (nodesPrefix ++ rest) = .ups action nodeID upsName) :
    ∃ part, splitPath rest = nodeID :: utf8 "ups" :: part :: action.words ∧
      pathUnescape part = some upsName ∧ isBlank upsName = false := by
  have other : ∀ (c : Prop) [Decidable c] (id : Bytes) (operation : Operation),
      (∀ nodeID upsName, operation ≠ .ups action nodeID upsName) →
      (if c then Operation.refused 404 else operation) ≠ .ups action nodeID upsName := by
    intro c _ id operation apart
    split
    · simp
    · exact apart _ _
  unfold handleNodes at reached
  split_ifs at reached
  · exact (other _ [] (.adopt _) (by simp) reached).elim
  · exact ups_of_handleNodeUPS reached
  · exact (other _ [] (.updateMetadata _) (by simp) reached).elim
  · exact (other _ [] (.forget _) (by simp) reached).elim
  · exact ups_of_handleNodeUPS reached
  · exact ups_of_handleNodeUPS reached
  · exact (other _ [] (.showHealth _) (by simp) reached).elim
  · dsimp only at reached
    split_ifs at reached

/-- A path of the right shape is taken for the operation. -/
theorem handleNodeUPS_of_shape {action : UPSAction} {nodeID part upsName : Bytes}
    (suited : action = .metadata → method = .patch)
    (allowed : method = .get ∨ method = .post ∨ method = .patch) (named : nodeID ≠ [])
    (shape : splitPath rest = nodeID :: utf8 "ups" :: part :: action.words)
    (read : pathUnescape part = some upsName) (filled : isBlank upsName = false) :
    handleNodeUPS method (nodesPrefix ++ rest) = .ups action nodeID upsName := by
  have permitted : ¬ (method ≠ .get ∧ method ≠ .post ∧ method ≠ .patch) := by
    obtain rfl | rfl | rfl := allowed <;> simp
  have words : utf8 "command" ≠ utf8 "metadata" ∧ utf8 "history" ≠ utf8 "metadata" ∧
      utf8 "history" ≠ utf8 "command" := by decide
  unfold handleNodeUPS
  rw [trimPrefix_nodes, if_neg permitted, shape]
  simp only [named, false_or, ne_eq, not_true_eq_false, if_false, read, filled, Bool.false_eq_true]
  cases action with
  | detail => simp [UPSAction.words]
  | history => simp [UPSAction.words, words]
  | command => simp [UPSAction.words, words]
  | metadata => simp [UPSAction.words, suited rfl]

end Handlers

end Strom.Routes
