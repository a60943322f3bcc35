import Strom.Routes.Shapes

/-!
# The operation that a request reaches

For every call of the web client, the node ids and UPS names for which the controller
does what the client meant, to the node and the UPS it meant (`reached_iff`).
-/

namespace Strom.Routes

open Strom.Go

/-! ## Calls -/

inductive ClientCall where
  | fetchNode (nodeID : String)
  | fetchNodeHealth (nodeID : String)
  | fetchUPSDetail (nodeID upsName : String)
  | fetchUPSHistory (nodeID upsName : String)
  | runUPSCommand (nodeID upsName : String)
  | updateUPSMetadata (nodeID upsName : String)
  | adoptNode (nodeID : String)
  | forgetNode (nodeID : String)
  | updateNode (nodeID : String)

namespace ClientCall

def request : ClientCall → Request
  | .fetchNode nodeID => Routes.fetchNode nodeID
  | .fetchNodeHealth nodeID => Routes.fetchNodeHealth nodeID
  | .fetchUPSDetail nodeID upsName => Routes.fetchUPSDetail nodeID upsName
  | .fetchUPSHistory nodeID upsName => Routes.fetchUPSHistory nodeID upsName
  | .runUPSCommand nodeID upsName => Routes.runUPSCommand nodeID upsName
  | .updateUPSMetadata nodeID upsName => Routes.updateUPSMetadata nodeID upsName
  | .adoptNode nodeID => Routes.adoptNode nodeID
  | .forgetNode nodeID => Routes.forgetNode nodeID
  | .updateNode nodeID => Routes.updateNode nodeID

/-- What the client means by a call. -/
def meant : ClientCall → Operation
  | .fetchNode nodeID => .showNode (utf8 nodeID)
  | .fetchNodeHealth nodeID => .showHealth (utf8 nodeID)
  | .fetchUPSDetail nodeID upsName => .ups .detail (utf8 nodeID) (utf8 upsName)
  | .fetchUPSHistory nodeID upsName => .ups .history (utf8 nodeID) (utf8 upsName)
  | .runUPSCommand nodeID upsName => .ups .command (utf8 nodeID) (utf8 upsName)
  | .updateUPSMetadata nodeID upsName => .ups .metadata (utf8 nodeID) (utf8 upsName)
  | .adoptNode nodeID => .adopt (utf8 nodeID)
  | .forgetNode nodeID => .forget (utf8 nodeID)
  | .updateNode nodeID => .updateMetadata (utf8 nodeID)

/-- The node id and the UPS name of a call are not empty. -/
def Named : ClientCall → Prop
  | .fetchUPSDetail nodeID upsName | .fetchUPSHistory nodeID upsName
  | .runUPSCommand nodeID upsName | .updateUPSMetadata nodeID upsName => nodeID ≠ "" ∧ upsName ≠ ""
  | .fetchNode nodeID | .fetchNodeHealth nodeID | .adoptNode nodeID | .forgetNode nodeID
  | .updateNode nodeID => nodeID ≠ ""

end ClientCall

/-- A UPS request with these names is understood. -/
def UPSReachable (nodeID upsName : String) : Prop :=
  (¬ IsDot nodeID ∧ slash ∉ utf8 nodeID) ∧
    ¬ IsDot upsName ∧ slash ∉ utf8 upsName ∧ percent ∉ utf8 upsName ∧ isBlank (utf8 upsName) = false

/-- The names with which a call is understood. -/
def ClientCall.Reachable : ClientCall → Prop
  | .fetchNode nodeID => ¬ IsDot nodeID ∧ (∀ segment ∈ splitPath (utf8 nodeID), ¬ startsUPS segment) ∧
      (splitPath (utf8 nodeID)).getLast? ≠ some (utf8 "health")
  | .fetchNodeHealth nodeID =>
    ¬ IsDot nodeID ∧ (∀ segment ∈ splitPath (utf8 nodeID), ¬ startsUPS segment) ∧
      (splitPath (utf8 nodeID)).getLast? ≠ some []
  | .adoptNode nodeID => ¬ IsDot nodeID ∧ (splitPath (utf8 nodeID)).getLast? ≠ some []
  | .forgetNode nodeID | .updateNode nodeID => ¬ IsDot nodeID ∧ slash ∉ utf8 nodeID
  | .fetchUPSDetail nodeID upsName | .fetchUPSHistory nodeID upsName
  | .runUPSCommand nodeID upsName | .updateUPSMetadata nodeID upsName => UPSReachable nodeID upsName

/-! ## UPS requests -/

def UPSAction.method : UPSAction → Method
  | .detail | .history => .get
  | .command => .post
  | .metadata => .patch

/-- The client's calls about a UPS. -/
def upsRequest (action : UPSAction) (nodeID upsName : String) : Request :=
  match action with
  | .detail => fetchUPSDetail nodeID upsName
  | .history => fetchUPSHistory nodeID upsName
  | .command => runUPSCommand nodeID upsName
  | .metadata => updateUPSMetadata nodeID upsName

section UPSes

variable {action : UPSAction} {nodeID upsName : String}

theorem upsRequest_eq : upsRequest action nodeID upsName =
    { method := action.method
      path := callPath (encodeURIComponent nodeID :: utf8 "ups" :: encodeURIComponent upsName ::
        action.words) } := by
  have spelled : utf8 "/ups/" = slash :: (utf8 "ups" ++ [slash]) ∧
      utf8 "/history" = slash :: utf8 "history" ∧ utf8 "/command" = slash :: utf8 "command" ∧
      utf8 "/metadata" = slash :: utf8 "metadata" ∧ utf8 "/api/nodes/" = nodesPrefix := by decide
  obtain ⟨ups, history, command, metadata, nodes⟩ := spelled
  rw [callPath_eq (List.cons_ne_nil _ _), joinPath_cons _ (List.cons_ne_nil _ _),
    joinPath_cons _ (List.cons_ne_nil _ _)]
  cases action <;>
    simp [upsRequest, fetchUPSDetail, fetchUPSHistory, runUPSCommand, updateUPSMetadata, upsPath, nodePath,
      UPSAction.words, UPSAction.method, ups, history, command, metadata, nodes, joinPath_cons]

theorem reads_words (action : UPSAction) : List.Forall₂ Reads action.words action.words := by
  cases action with
  | detail => exact .nil
  | history | command | metadata => exact .cons (reads_word (by decide) (by decide)) .nil

theorem plain_words (action : UPSAction) : ∀ word ∈ action.words, Plain word := by
  cases action <;> decide

theorem whole_words (action : UPSAction) : ∀ word ∈ action.words, slash ∉ word := by
  cases action <;> decide

theorem words_ne_nil (action : UPSAction) : ∀ word ∈ action.words, word ≠ [] := by
  cases action <;> decide

theorem outcome_callPath {method : Method} {parts : List Bytes}
    (whole : ∀ part ∈ parts, slash ∉ part) : Request.outcome ⟨method, callPath parts⟩ =
      serveHTTP method (joinPath ([] :: removeDots [utf8 "nodes", utf8 "api"] parts)) := by
  have literals : ∀ segment ∈ utf8 "api" :: utf8 "nodes" :: parts, slash ∉ segment := by
    intro segment member
    obtain rfl | rfl | member := by simpa using member
    · decide
    · decide
    · exact whole segment member
  have plain : Plain (utf8 "api") ∧ Plain (utf8 "nodes") := by decide
  obtain ⟨⟨single, double⟩, single', double'⟩ := plain
  have resolved : removeDots [] (utf8 "api" :: utf8 "nodes" :: parts) =
      removeDots [utf8 "nodes", utf8 "api"] parts := by
    simp [removeDots, single, double, single', double']
  unfold Request.outcome callPath
  rw [urlPath_joinPath literals, resolved]

theorem whole_upsParts (nodeID upsName : String) (action : UPSAction) :
    ∀ part ∈ encodeURIComponent nodeID :: utf8 "ups" :: encodeURIComponent upsName :: action.words,
      slash ∉ part := by
  intro part member
  obtain rfl | rfl | rfl | member := by simpa using member
  · exact slash_not_mem_encode nodeID
  · decide
  · exact slash_not_mem_encode upsName
  · exact whole_words action part member

theorem outcome_upsRequest : (upsRequest action nodeID upsName).outcome =
    serveHTTP action.method (joinPath ([] :: removeDots [utf8 "nodes", utf8 "api"]
      (encodeURIComponent nodeID :: utf8 "ups" :: encodeURIComponent upsName :: action.words))) := by
  rw [upsRequest_eq]
  exact outcome_callPath (whole_upsParts nodeID upsName action)

/-- What is served as an operation on a UPS has the shape of one. -/
theorem shape_of_served {method : Method} {raws values : List Bytes} {node ups : Bytes}
    (reads : List.Forall₂ Reads raws values) (some_ : values ≠ [])
    (served : serveHTTP method (callPath raws) = .ups action node ups) :
    ∃ part, values.flatMap splitPath = node :: utf8 "ups" :: part :: action.words ∧
      pathUnescape part = some ups ∧ isBlank ups = false := by
  obtain redirected | handled : serveHTTP method (callPath raws) = .redirected ∨
      serveHTTP method (callPath raws) = handleNodes method (callPath values) := serveHTTP_cases reads
  · rw [redirected] at served
    cases served
  · rw [handled, callPath_eq some_] at served
    obtain ⟨part, shape, read⟩ := ups_of_handleNodes served
    rw [splitPath_joinPath some_] at shape
    exact ⟨part, shape, read⟩

/-- Without `nodes` in its place the request is no concern of `handleNodes`. -/
theorem served_elsewhere {method : Method} {path node ups : Bytes} (apart : isNodesPath path = false) :
    serveHTTP method path ≠ .ups action node ups := by
  unfold serveHTTP
  split
  · simp
  · split_ifs <;> simp_all

theorem flatMap_splitPath_words (action : UPSAction) : action.words.flatMap splitPath = action.words := by
  cases action <;> decide

theorem encode_ne_nil {name : String} (named : name ≠ "") : encodeURIComponent name ≠ [] := by
  intro empty
  exact named (utf8_injective (utf8_of_encode empty rfl))

theorem isUnclean_callPath {raws values : List Bytes} (reads : List.Forall₂ Reads raws values)
    (plain : ∀ raw ∈ raws, Plain raw) (filled : ∀ raw ∈ raws, raw ≠ []) :
    isUnclean (callPath raws) = false := by
  have undotted : ∀ raw, Plain raw → raw ≠ utf8 "." ∧ raw ≠ utf8 ".." := by
    rintro raw ⟨single, double⟩
    constructor
    · rintro rfl
      exact absurd single (by decide)
    · rintro rfl
      exact absurd double (by decide)
  have segments : ∀ segment ∈ utf8 "api" :: utf8 "nodes" :: raws, Plain segment ∧ segment ≠ [] := by
    intro segment member
    obtain rfl | rfl | member := by simpa using member
    · decide
    · decide
    · exact ⟨plain segment member, filled segment member⟩
  simp only [isUnclean, splitPath_raws reads, List.tail_cons, Bool.or_eq_false_iff]
  constructor
  · rw [List.any_eq_false]
    intro segment member
    simp [undotted segment (segments segment member).1]
  · rw [List.any_eq_false]
    intro segment member
    simp [(segments segment (List.mem_of_mem_dropLast member)).2]

/-- Paths of the shape of a UPS operation come to `handleNodeUPS`. -/
theorem handleNodes_of_shape {rest node part ups : Bytes} (named : node ≠ [])
    (shape : splitPath rest = node :: utf8 "ups" :: part :: action.words)
    (read : pathUnescape part = some ups) (filled : isBlank ups = false) :
    handleNodes action.method (nodesPrefix ++ rest) = .ups action node ups := by
  have handled : handleNodeUPS action.method (nodesPrefix ++ rest) = .ups action node ups :=
    handleNodeUPS_of_shape (by rintro rfl; rfl) (by cases action <;> simp [UPSAction.method]) named shape
      read filled
  have spelled : utf8 "/ups/" = slash :: (utf8 "ups" ++ [slash]) := by decide
  have framed : containsText (nodesPrefix ++ rest) (utf8 "/ups/") = true := by
    rw [containsText, decide_eq_true_eq, spelled, ← joinPath_splitPath rest, shape,
      joinPath_cons _ (List.cons_ne_nil _ _), joinPath_cons _ (List.cons_ne_nil _ _)]
    exact ⟨nodesPrefix ++ node, joinPath (part :: action.words), by simp⟩
  have begun : containsText (nodesPrefix ++ rest) (utf8 "/ups") = true := by
    rw [contains_ups_iff, shape]
    exact ⟨utf8 "ups", by simp, List.prefix_rfl⟩
  have longer : nodesPrefix ++ rest ≠ utf8 "/api/nodes" := by
    intro same
    have lengths := congrArg List.length same
    have counts : nodesPrefix.length = 11 ∧ (utf8 "/api/nodes").length = 10 := by decide
    rw [List.length_append] at lengths
    omega
  cases action with
  | detail | history =>
    simpa [handleNodes, UPSAction.method, longer, begun] using handled
  | command =>
    have unadopted : (utf8 "/adopt").isSuffixOf (nodesPrefix ++ rest) = false := by
      have adopt : utf8 "/adopt" = slash :: utf8 "adopt" := by decide
      rw [Bool.eq_false_iff, ne_eq, adopt, suffix_word_iff rest (by decide), shape]
      simp only [UPSAction.words, List.getLast?_cons_cons, List.getLast?_singleton, Option.some.injEq]
      decide
    simpa [handleNodes, UPSAction.method, framed, unadopted] using handled
  | metadata => simpa [handleNodes, UPSAction.method, framed] using handled

/-- With two names that are no dots, each is one segment. -/
theorem plain_outcome_iff (nodeNamed : nodeID ≠ "") (upsNamed : upsName ≠ "") (node : ¬ IsDot nodeID)
    (ups : ¬ IsDot upsName) :
    (upsRequest action nodeID upsName).outcome = .ups action (utf8 nodeID) (utf8 upsName) ↔
      UPSReachable nodeID upsName := by
  have plain : ∀ part ∈ encodeURIComponent nodeID :: utf8 "ups" :: encodeURIComponent upsName ::
      action.words, Plain part := by
    intro part member
    obtain rfl | rfl | rfl | member := by simpa using member
    · exact plain_encode node
    · decide
    · exact plain_encode ups
    · exact plain_words action part member
  have reads : List.Forall₂ Reads
      (encodeURIComponent nodeID :: utf8 "ups" :: encodeURIComponent upsName :: action.words)
      (utf8 nodeID :: utf8 "ups" :: utf8 upsName :: action.words) :=
    .cons (reads_encode _) (.cons (reads_word (by decide) (by decide))
      (.cons (reads_encode _) (reads_words action)))
  have some_ : utf8 nodeID :: utf8 "ups" :: utf8 upsName :: action.words ≠ [] := List.cons_ne_nil _ _
  have parts : (utf8 nodeID :: utf8 "ups" :: utf8 upsName :: action.words).flatMap splitPath =
      splitPath (utf8 nodeID) ++ utf8 "ups" :: (splitPath (utf8 upsName) ++ action.words) := by
    simp only [List.flatMap_cons, flatMap_splitPath_words,
      splitPath_plain (by decide : slash ∉ utf8 "ups")]
    rfl
  rw [outcome_upsRequest, removeDots_plain plain]
  change serveHTTP action.method (callPath (encodeURIComponent nodeID :: utf8 "ups" ::
    encodeURIComponent upsName :: action.words)) = _ ↔ _
  constructor
  · intro served
    obtain ⟨part, shape, read, filled⟩ := shape_of_served reads some_ served
    rw [parts] at shape
    obtain ⟨first, others, split⟩ := List.exists_cons_of_ne_nil (splitPath_ne_nil (utf8 nodeID))
    obtain ⟨second, more, split'⟩ := List.exists_cons_of_ne_nil (splitPath_ne_nil (utf8 upsName))
    have lengths := congrArg List.length shape
    simp only [split, split', List.length_append, List.length_cons] at lengths
    obtain rfl : others = [] := List.eq_nil_of_length_eq_zero (by omega)
    obtain rfl : more = [] := List.eq_nil_of_length_eq_zero (by omega)
    simp only [split, split', List.cons_append, List.nil_append, List.cons.injEq, true_and,
      and_true] at shape
    obtain ⟨rfl, rfl⟩ := shape
    have own : second = utf8 upsName := by
      have whole := joinPath_splitPath (utf8 upsName)
      rw [split', joinPath_singleton] at whole
      exact whole
    subst own
    exact ⟨⟨node, slash_not_mem_of_splitPath split⟩, ups, slash_not_mem_of_splitPath split',
      pathUnescape_eq_self_iff.mp read, filled⟩
  · rintro ⟨⟨-, whole⟩, -, whole', unescaped, filled⟩
    have filledParts : ∀ raw ∈ encodeURIComponent nodeID :: utf8 "ups" :: encodeURIComponent upsName ::
        action.words, raw ≠ [] := by
      intro raw member
      obtain rfl | rfl | rfl | member := by simpa using member
      · exact encode_ne_nil nodeNamed
      · decide
      · exact encode_ne_nil upsNamed
      · exact words_ne_nil action raw member
    rw [serveHTTP_callPath reads (isUnclean_callPath reads plain filledParts), callPath_eq some_]
    have nodeFilled : utf8 nodeID ≠ [] := fun empty => nodeNamed (utf8_injective empty)
    refine handleNodes_of_shape nodeFilled ?_ (pathUnescape_eq_self_iff.mpr unescaped) filled
    rw [splitPath_joinPath some_, parts, splitPath_plain whole, splitPath_plain whole']
    rfl

/-- A dot for a node id is resolved away, whatever the UPS name. -/
theorem dot_node_outcome (node : IsDot nodeID) :
    (upsRequest action nodeID upsName).outcome ≠ .ups action (utf8 nodeID) (utf8 upsName) := by
  by_cases ups : IsDot upsName
  · obtain rfl | rfl := node <;> obtain rfl | rfl := ups <;> cases action <;> decide +kernel
  have plain : ∀ part ∈ utf8 "ups" :: encodeURIComponent upsName :: action.words, Plain part := by
    intro part member
    obtain rfl | rfl | member := by simpa using member
    · decide
    · exact plain_encode ups
    · exact plain_words action part member
  have reads : List.Forall₂ Reads (utf8 "ups" :: encodeURIComponent upsName :: action.words)
      (utf8 "ups" :: utf8 upsName :: action.words) :=
    .cons (reads_word (by decide) (by decide)) (.cons (reads_encode _) (reads_words action))
  rw [outcome_upsRequest]
  obtain rfl | rfl := node
  · have resolved : removeDots [utf8 "nodes", utf8 "api"] (encodeURIComponent "." :: utf8 "ups" ::
        encodeURIComponent upsName :: action.words) =
        utf8 "api" :: utf8 "nodes" :: utf8 "ups" :: encodeURIComponent upsName :: action.words := by
      have dot : isDoubleDot (encodeURIComponent ".") = false ∧
          isSingleDot (encodeURIComponent ".") = true := by decide
      rw [removeDots]
      simp only [dot, Bool.false_eq_true, if_false, if_true, List.cons_ne_nil]
      rw [removeDots_plain plain]
      rfl
    rw [resolved]
    intro served
    -- the word of the path is taken for the node
    obtain ⟨part, shape, -⟩ := shape_of_served reads (List.cons_ne_nil _ _) served
    rw [List.flatMap_cons, splitPath_plain (by decide : slash ∉ utf8 "ups"), List.singleton_append,
      List.cons.injEq] at shape
    exact absurd shape.1 (by decide)
  · have resolved : removeDots [utf8 "nodes", utf8 "api"] (encodeURIComponent ".." :: utf8 "ups" ::
        encodeURIComponent upsName :: action.words) =
        utf8 "api" :: utf8 "ups" :: encodeURIComponent upsName :: action.words := by
      have dots : isDoubleDot (encodeURIComponent "..") = true := by decide
      rw [removeDots]
      simp only [dots, if_true, List.cons_ne_nil, if_false]
      rw [removeDots_plain plain]
      rfl
    rw [resolved]
    apply served_elsewhere
    have split : splitPath (joinPath ([] :: utf8 "api" :: utf8 "ups" :: encodeURIComponent upsName ::
        action.words)) = [] :: utf8 "api" :: utf8 "ups" :: encodeURIComponent upsName :: action.words := by
      apply List.splitOn_intercalate slash _ (List.cons_ne_nil _ _)
      intro part member
      obtain rfl | rfl | rfl | rfl | member := by simpa using member
      · simp
      · decide
      · decide
      · exact slash_not_mem_encode upsName
      · exact whole_words action part member
    have words : [[], utf8 "api", utf8 "ups"].map pathUnescape ≠
        [some [], some (utf8 "api"), some (utf8 "nodes")] := by decide
    simpa only [isNodesPath, split, List.take_succ_cons, List.take_zero, decide_eq_false_iff_not]
      using words

/-- What a dot in front of the end of the path leaves there. -/
def UPSAction.last (action : UPSAction) : Bytes := action.words.getLast?.getD []

theorem reads_last (action : UPSAction) : Reads action.last action.last := by
  cases action <;> exact reads_word (by decide) (by decide)

theorem removeDots_single (node : ¬ IsDot nodeID) :
    removeDots [utf8 "nodes", utf8 "api"]
        (encodeURIComponent nodeID :: utf8 "ups" :: encodeURIComponent "." :: action.words) =
      utf8 "api" :: utf8 "nodes" :: [encodeURIComponent nodeID, utf8 "ups", action.last] := by
  have name := plain_encode node
  have literal : Plain (utf8 "ups") := by decide
  have dot : isDoubleDot (encodeURIComponent ".") = false ∧
      isSingleDot (encodeURIComponent ".") = true := by decide
  have words := plain_words action
  cases action <;> simp_all [removeDots, UPSAction.words, UPSAction.last, Plain]

theorem removeDots_double (node : ¬ IsDot nodeID) :
    removeDots [utf8 "nodes", utf8 "api"]
        (encodeURIComponent nodeID :: utf8 "ups" :: encodeURIComponent ".." :: action.words) =
      utf8 "api" :: utf8 "nodes" :: [encodeURIComponent nodeID, action.last] := by
  have name := plain_encode node
  have literal : Plain (utf8 "ups") := by decide
  have dots : isDoubleDot (encodeURIComponent "..") = true := by decide
  have words := plain_words action
  cases action <;> simp_all [removeDots, UPSAction.words, UPSAction.last, Plain]

/-- A first segment that is all of a name. -/
theorem rest_of_whole {name : Bytes} {more rest : List Bytes} (shape : splitPath name ++ more = name :: rest) :
    more = rest := by
  obtain ⟨first, others, split⟩ := List.exists_cons_of_ne_nil (splitPath_ne_nil name)
  have same : first = name := by
    rw [split, List.cons_append, List.cons.injEq] at shape
    exact shape.1
  rw [same] at split
  rw [splitPath_plain (slash_not_mem_of_splitPath split)] at shape
  simpa using shape

/-- So is a dot for a UPS name. -/
theorem dot_ups_outcome (node : ¬ IsDot nodeID) (ups : IsDot upsName) :
    (upsRequest action nodeID upsName).outcome ≠ .ups action (utf8 nodeID) (utf8 upsName) := by
  have last : splitPath action.last = [action.last] := by cases action <;> decide
  rw [outcome_upsRequest]
  intro served
  obtain rfl | rfl := ups
  · rw [removeDots_single node] at served
    have reads : List.Forall₂ Reads [encodeURIComponent nodeID, utf8 "ups", action.last]
        [utf8 nodeID, utf8 "ups", action.last] :=
      .cons (reads_encode _) (.cons (reads_word (by decide) (by decide)) (.cons (reads_last action) .nil))
    obtain ⟨part, shape, read, -⟩ := shape_of_served reads (List.cons_ne_nil _ _) served
    have rest : [utf8 "ups", action.last].flatMap splitPath = utf8 "ups" :: part :: action.words :=
      rest_of_whole shape
    simp only [List.flatMap_cons, List.flatMap_nil, splitPath_plain (by decide : slash ∉ utf8 "ups"), last,
      List.append_nil, List.cons_append, List.nil_append, List.cons.injEq, true_and] at rest
    obtain ⟨rfl, words⟩ := rest
    -- without words behind it the name is empty
    cases action <;> simp [UPSAction.words] at words
    exact absurd read (by decide)
  · rw [removeDots_double node] at served
    have reads : List.Forall₂ Reads [encodeURIComponent nodeID, action.last] [utf8 nodeID, action.last] :=
      .cons (reads_encode _) (.cons (reads_last action) .nil)
    obtain ⟨part, shape, -⟩ := shape_of_served reads (List.cons_ne_nil _ _) served
    have rest : [action.last].flatMap splitPath = utf8 "ups" :: part :: action.words :=
      rest_of_whole shape
    simp [last] at rest

/-- The names that reach the operation on a UPS. -/
theorem ups_outcome_iff (action : UPSAction) (nodeNamed : nodeID ≠ "") (upsNamed : upsName ≠ "") :
    (upsRequest action nodeID upsName).outcome = .ups action (utf8 nodeID) (utf8 upsName) ↔
      UPSReachable nodeID upsName := by
  by_cases node : IsDot nodeID
  · constructor
    · exact fun served => (dot_node_outcome node served).elim
    · exact fun reachable => (reachable.1.1 node).elim
  by_cases ups : IsDot upsName
  · constructor
    · exact fun served => (dot_ups_outcome node ups served).elim
    · exact fun reachable => (reachable.2.1 ups).elim
  exact plain_outcome_iff nodeNamed upsNamed node ups

end UPSes

/-! ## Node requests -/

section Nodes

variable {nodeID : String}

/-- What a request about a node comes to. -/
theorem node_outcome (method : Method) {more : List Bytes} (named : nodeID ≠ "") (node : ¬ IsDot nodeID)
    (reads : List.Forall₂ Reads more more) (plain : ∀ word ∈ more, Plain word ∧ word ≠ []) :
    Request.outcome ⟨method, callPath (encodeURIComponent nodeID :: more)⟩ =
      handleNodes method (nodesPrefix ++ joinPath (utf8 nodeID :: more)) := by
  have reads' : List.Forall₂ Reads (encodeURIComponent nodeID :: more) (utf8 nodeID :: more) :=
    .cons (reads_encode _) reads
  have whole : ∀ part ∈ encodeURIComponent nodeID :: more, slash ∉ part := by
    intro part member
    obtain ⟨i, inside, rfl⟩ := List.getElem_of_mem member
    exact (reads'.get inside (reads'.length_eq ▸ inside)).whole
  have parts : ∀ part ∈ encodeURIComponent nodeID :: more, Plain part ∧ part ≠ [] := by
    intro part member
    obtain rfl | member := List.mem_cons.mp member
    · exact ⟨plain_encode node, encode_ne_nil named⟩
    · exact plain part member
  rw [outcome_callPath whole, removeDots_plain fun part member => (parts part member).1,
    ← callPath_eq (List.cons_ne_nil _ _)]
  exact serveHTTP_callPath reads' (isUnclean_callPath reads' (fun part member => (parts part member).1)
    fun part member => (parts part member).2)

theorem node_path (nodeID : String) : nodePath nodeID [] = callPath [encodeURIComponent nodeID] := by
  have spelled : utf8 "/api/nodes/" = nodesPrefix := rfl
  rw [callPath_eq (List.cons_ne_nil _ _), nodePath, spelled]
  simp

theorem node_word_path (nodeID : String) (word : Bytes) :
    nodePath nodeID (slash :: word) = callPath [encodeURIComponent nodeID, word] := by
  have spelled : utf8 "/api/nodes/" = nodesPrefix := rfl
  rw [callPath_eq (List.cons_ne_nil _ _), nodePath, spelled, joinPath_cons _ (List.cons_ne_nil _ _)]
  simp

/-- A node named as the list of nodes is not the list. -/
theorem nodes_path_ne (rest : Bytes) : nodesPrefix ++ rest ≠ utf8 "/api/nodes" := by
  intro same
  have lengths := congrArg List.length same
  have counts : nodesPrefix.length = 11 ∧ (utf8 "/api/nodes").length = 10 := by decide
  rw [List.length_append] at lengths
  omega

theorem handleNodes_get (rest : Bytes) : handleNodes .get (nodesPrefix ++ rest) =
    if containsText (nodesPrefix ++ rest) (utf8 "/ups") then handleNodeUPS .get (nodesPrefix ++ rest)
    else if (utf8 "/health").isSuffixOf (nodesPrefix ++ rest) then
      handleTrustedNodeHealth (nodesPrefix ++ rest)
    else if rest = [] then .refused 404 else .showNode rest := by
  simp [handleNodes, nodes_path_ne]

/-- `handleNodeUPS` is about no node alone. -/
theorem handleNodeUPS_ne (method : Method) (path id : Bytes) :
    handleNodeUPS method path ≠ .showNode id ∧ handleNodeUPS method path ≠ .showHealth id ∧
      handleNodeUPS method path ≠ .updateMetadata id := by
  unfold handleNodeUPS
  repeat' split
  all_goals simp

theorem showNode_iff (named : nodeID ≠ "") :
    handleNodes .get (nodesPrefix ++ utf8 nodeID) = .showNode (utf8 nodeID) ↔
      (∀ segment ∈ splitPath (utf8 nodeID), ¬ startsUPS segment) ∧
        (splitPath (utf8 nodeID)).getLast? ≠ some (utf8 "health") := by
  have filled : utf8 nodeID ≠ [] := fun empty => named (utf8_injective empty)
  have spelled : utf8 "/health" = slash :: utf8 "health" := by decide
  have last := suffix_word_iff (utf8 nodeID) (by decide : slash ∉ utf8 "health")
  rw [handleNodes_get]
  by_cases ups : ∃ segment ∈ splitPath (utf8 nodeID), startsUPS segment
  · rw [if_pos ((contains_ups_iff _).mpr ups)]
    constructor
    · exact fun shown => ((handleNodeUPS_ne _ _ _).1 shown).elim
    · rintro ⟨free, -⟩
      obtain ⟨segment, member, starts⟩ := ups
      exact (free segment member starts).elim
  rw [if_neg (fun contained => ups ((contains_ups_iff _).mp contained)), spelled]
  have free : ∀ segment ∈ splitPath (utf8 nodeID), ¬ startsUPS segment :=
    fun segment member starts => ups ⟨segment, member, starts⟩
  by_cases health : (splitPath (utf8 nodeID)).getLast? = some (utf8 "health")
  · rw [if_pos (last.mpr health)]
    constructor
    · intro shown
      simp only [handleTrustedNodeHealth] at shown
      split at shown <;> cases shown
    · exact fun reachable => (reachable.2 health).elim
  · rw [if_neg (fun ends => health (last.mp ends)), if_neg filled]
    exact ⟨fun _ => ⟨free, health⟩, fun _ => rfl⟩

/-- The word behind a node id comes off, and a slash at the end of the id with it. -/
theorem nodeIDBefore_word (word id : Bytes) :
    nodeIDBefore (slash :: word) (nodesPrefix ++ (id ++ slash :: word)) = trimSuffix id [slash] := by
  rw [nodeIDBefore, trimPrefix_nodes, trimSuffix_append]

theorem trimmed_iff (named : nodeID ≠ "") : trimSuffix (utf8 nodeID) [slash] = utf8 nodeID ↔
    (splitPath (utf8 nodeID)).getLast? ≠ some [] := by
  have filled : utf8 nodeID ≠ [] := fun empty => named (utf8_injective empty)
  rw [trimSuffix_slash]
  simp [filled]

theorem last_of_word {word : Bytes} (whole : slash ∉ word) (id : Bytes) :
    (splitPath (id ++ slash :: word)).getLast? = some word := by
  rw [splitPath_append, splitPath_plain whole]
  simp

theorem showHealth_iff (named : nodeID ≠ "") :
    handleNodes .get (nodesPrefix ++ (utf8 nodeID ++ slash :: utf8 "health")) = .showHealth (utf8 nodeID) ↔
      (∀ segment ∈ splitPath (utf8 nodeID), ¬ startsUPS segment) ∧
        (splitPath (utf8 nodeID)).getLast? ≠ some [] := by
  have filled : utf8 nodeID ≠ [] := fun empty => named (utf8_injective empty)
  have spelled : utf8 "/health" = slash :: utf8 "health" := by decide
  have whole : slash ∉ utf8 "health" := by decide
  have segments : (∃ segment ∈ splitPath (utf8 nodeID ++ slash :: utf8 "health"), startsUPS segment) ↔
      ∃ segment ∈ splitPath (utf8 nodeID), startsUPS segment := by
    have other : ¬ startsUPS (utf8 "health") := by unfold startsUPS; decide
    rw [splitPath_append, splitPath_plain whole]
    simp [other]
  rw [handleNodes_get]
  by_cases ups : ∃ segment ∈ splitPath (utf8 nodeID), startsUPS segment
  · rw [if_pos ((contains_ups_iff _).mpr (segments.mpr ups))]
    constructor
    · exact fun shown => ((handleNodeUPS_ne _ _ _).2.1 shown).elim
    · rintro ⟨free, -⟩
      obtain ⟨segment, member, starts⟩ := ups
      exact (free segment member starts).elim
  rw [if_neg (fun contained => ups (segments.mp ((contains_ups_iff _).mp contained))), spelled,
    if_pos ((suffix_word_iff _ whole).mpr (last_of_word whole _)), ← trimmed_iff named]
  simp only [handleTrustedNodeHealth, spelled, nodeIDBefore_word]
  have free : ∀ segment ∈ splitPath (utf8 nodeID), ¬ startsUPS segment :=
    fun segment member starts => ups ⟨segment, member, starts⟩
  constructor
  · intro shown
    split at shown
    · cases shown
    · exact ⟨free, by simpa using shown⟩
  · rintro ⟨-, kept⟩
    rw [kept, if_neg filled]

theorem adopt_iff (named : nodeID ≠ "") :
    handleNodes .post (nodesPrefix ++ (utf8 nodeID ++ slash :: utf8 "adopt")) = .adopt (utf8 nodeID) ↔
      (splitPath (utf8 nodeID)).getLast? ≠ some [] := by
  have filled : utf8 nodeID ≠ [] := fun empty => named (utf8_injective empty)
  have spelled : utf8 "/adopt" = slash :: utf8 "adopt" := by decide
  have whole : slash ∉ utf8 "adopt" := by decide
  have ends : (slash :: utf8 "adopt").isSuffixOf
      (nodesPrefix ++ (utf8 nodeID ++ slash :: utf8 "adopt")) = true :=
    (suffix_word_iff _ whole).mpr (last_of_word whole _)
  rw [← trimmed_iff named]
  simp only [handleNodes, spelled, ends, and_true, if_true, handleAdoptNode, nodeIDBefore_word]
  constructor
  · intro adopted
    split at adopted
    · cases adopted
    · simpa using adopted
  · intro kept
    rw [kept, if_neg filled]

theorem wholeNodeID_nodes (rest : Bytes) : wholeNodeID (nodesPrefix ++ rest) = trimSuffix rest [slash] := by
  rw [wholeNodeID, trimPrefix_nodes]

/-- A handler that takes the rest of the path for the id has it right if there is no slash. -/
theorem whole_iff (named : nodeID ≠ "") (operation : Bytes → Operation)
    (injective : ∀ id id', operation id = operation id' → id = id')
    (accepts : ∀ id, operation id ≠ .refused 404) :
    (if trimSuffix (utf8 nodeID) [slash] = [] ∨ slash ∈ trimSuffix (utf8 nodeID) [slash] then .refused 404
      else operation (trimSuffix (utf8 nodeID) [slash])) = operation (utf8 nodeID) ↔
      slash ∉ utf8 nodeID := by
  have filled : utf8 nodeID ≠ [] := fun empty => named (utf8_injective empty)
  constructor
  · intro handled
    split at handled
    · exact (accepts _ handled.symm).elim
    · rename_i free
      have same := injective _ _ handled
      intro member
      exact free (.inr (same.symm ▸ member))
  · intro whole
    have kept : trimSuffix (utf8 nodeID) [slash] = utf8 nodeID := by
      rw [trimmed_iff named, splitPath_plain whole]
      simp [filled]
    rw [kept, if_neg (by simp [filled, whole])]

theorem forget_iff (named : nodeID ≠ "") :
    handleNodes .delete (nodesPrefix ++ utf8 nodeID) = .forget (utf8 nodeID) ↔ slash ∉ utf8 nodeID := by
  have prefixed : nodesPrefix.isPrefixOf (nodesPrefix ++ utf8 nodeID) = true := by simp
  simp only [handleNodes, reduceCtorEq, false_and, if_false, prefixed, and_true, if_true, handleForgetNode,
    wholeNodeID_nodes]
  exact whole_iff named .forget (by simp) (by simp)

/-- The word between two slashes is not in a path that ends with the first of them. -/
theorem not_contains_ups {id : Bytes} (whole : slash ∉ id) :
    containsText (nodesPrefix ++ id) (utf8 "/ups/") = false := by
  rw [containsText, decide_eq_false_iff_not]
  rintro ⟨front, back, same⟩
  have spelled : front ++ utf8 "/ups/" ++ back = front ++ slash :: (utf8 "ups" ++ slash :: back) := by
    have ups : utf8 "/ups/" = slash :: (utf8 "ups" ++ [slash]) := by decide
    simp [ups]
  have segments := congrArg splitPath same
  rw [spelled, splitPath_append, splitPath_append, splitPath_plain (by decide : slash ∉ utf8 "ups"),
    splitPath_nodes, splitPath_plain whole] at segments
  obtain ⟨first, others, split⟩ := List.exists_cons_of_ne_nil (splitPath_ne_nil front)
  obtain ⟨next, more, split'⟩ := List.exists_cons_of_ne_nil (splitPath_ne_nil back)
  rw [split, split'] at segments
  -- the word would be the second segment, the third, or followed by a fifth
  match others with
  | [] =>
    simp only [List.singleton_append, List.cons.injEq] at segments
    exact absurd segments.2.1 (by decide)
  | [_] =>
    simp only [List.cons_append, List.nil_append, List.cons.injEq] at segments
    exact absurd segments.2.2.1 (by decide)
  | _ :: _ :: others =>
    have lengths := congrArg List.length segments
    simp only [List.length_append, List.length_cons, List.length_nil] at lengths
    omega

theorem update_iff (named : nodeID ≠ "") :
    handleNodes .patch (nodesPrefix ++ utf8 nodeID) = .updateMetadata (utf8 nodeID) ↔
      slash ∉ utf8 nodeID := by
  have prefixed : nodesPrefix.isPrefixOf (nodesPrefix ++ utf8 nodeID) = true := by simp
  cases contained : containsText (nodesPrefix ++ utf8 nodeID) (utf8 "/ups/") with
  | true =>
    simp only [handleNodes, reduceCtorEq, false_and, if_false, contained, and_true, if_true]
    constructor
    · exact fun handled => ((handleNodeUPS_ne _ _ _).2.2 handled).elim
    · intro whole
      rw [not_contains_ups whole] at contained
      cases contained
  | false =>
    simp only [handleNodes, reduceCtorEq, false_and, if_false, contained, Bool.false_eq_true, and_false,
      prefixed, and_true, if_true, handleUpdateNodeMetadata, wholeNodeID_nodes]
    exact whole_iff named .updateMetadata (by simp) (by simp)

end Nodes

/-! ## Every call -/

theorem slash_words : utf8 "/health" = slash :: utf8 "health" ∧ utf8 "/adopt" = slash :: utf8 "adopt" := by
  decide

/-- A call does what the client means, to the node and the UPS that it means, exactly if its names
    come through. -/
theorem reached_iff (call : ClientCall) (named : call.Named) :
    call.request.outcome = call.meant ↔ call.Reachable := by
  have literal : ∀ word ∈ [utf8 "health", utf8 "adopt"],
      (Plain word ∧ word ≠ []) ∧ slash ∉ word ∧ percent ∉ word := by decide
  have reads : ∀ word ∈ [utf8 "health", utf8 "adopt"], List.Forall₂ Reads [word] [word] :=
    fun word member => .cons (reads_word (literal word member).2.1 (literal word member).2.2) .nil
  cases call with
  | fetchUPSDetail nodeID upsName => exact ups_outcome_iff .detail named.1 named.2
  | fetchUPSHistory nodeID upsName => exact ups_outcome_iff .history named.1 named.2
  | runUPSCommand nodeID upsName => exact ups_outcome_iff .command named.1 named.2
  | updateUPSMetadata nodeID upsName => exact ups_outcome_iff .metadata named.1 named.2
  | fetchNode nodeID =>
    by_cases node : IsDot nodeID
    · obtain rfl | rfl := node <;> simp [ClientCall.Reachable, IsDot] <;> decide +kernel
    · simp only [ClientCall.request, fetchNode, node_path, ClientCall.Reachable, node, not_false_eq_true,
        true_and, ClientCall.meant]
      rw [node_outcome .get named node .nil (by simp), joinPath_singleton]
      exact showNode_iff named
  | fetchNodeHealth nodeID =>
    by_cases node : IsDot nodeID
    · obtain rfl | rfl := node <;> simp [ClientCall.Reachable, IsDot] <;> decide +kernel
    · simp only [ClientCall.request, fetchNodeHealth, slash_words.1, node_word_path, ClientCall.Reachable,
        node, not_false_eq_true, true_and, ClientCall.meant]
      rw [node_outcome .get named node (reads _ (by simp)) (by simpa using (literal (utf8 "health") (by simp)).1),
        joinPath_cons _ (List.cons_ne_nil _ _), joinPath_singleton]
      exact showHealth_iff named
  | adoptNode nodeID =>
    by_cases node : IsDot nodeID
    · obtain rfl | rfl := node <;> simp [ClientCall.Reachable, IsDot] <;> decide +kernel
    · simp only [ClientCall.request, adoptNode, slash_words.2, node_word_path, ClientCall.Reachable,
        node, not_false_eq_true, true_and, ClientCall.meant]
      rw [node_outcome .post named node (reads _ (by simp)) (by simpa using (literal (utf8 "adopt") (by simp)).1),
        joinPath_cons _ (List.cons_ne_nil _ _), joinPath_singleton]
      exact adopt_iff named
  | forgetNode nodeID =>
    by_cases node : IsDot nodeID
    · obtain rfl | rfl := node <;> simp [ClientCall.Reachable, IsDot] <;> decide +kernel
    · simp only [ClientCall.request, forgetNode, node_path, ClientCall.Reachable, node, not_false_eq_true,
        true_and, ClientCall.meant]
      rw [node_outcome .delete named node .nil (by simp), joinPath_singleton]
      exact forget_iff named
  | updateNode nodeID =>
    by_cases node : IsDot nodeID
    · obtain rfl | rfl := node <;> simp [ClientCall.Reachable, IsDot] <;> decide +kernel
    · simp only [ClientCall.request, updateNode, node_path, ClientCall.Reachable, node, not_false_eq_true,
        true_and, ClientCall.meant]
      rw [node_outcome .patch named node .nil (by simp), joinPath_singleton]
      exact update_iff named

/-- A node and a UPS with blanks and signs that have to be escaped. -/
theorem reached_iff_of_blanks :
    (ClientCall.fetchUPSHistory "rack 1?" "ups #2").request.outcome =
        (ClientCall.fetchUPSHistory "rack 1?" "ups #2").meant ↔
      (ClientCall.fetchUPSHistory "rack 1?" "ups #2").Reachable :=
  reached_iff _ ⟨by decide, by decide⟩

/-- The page of a node whose id begins with `ups` is not found. -/
theorem ups_node_not_found :
    ¬ ∀ call : ClientCall, call.Named → call.request.outcome = call.meant := by
  intro claim
  have outcome : (ClientCall.fetchNode "ups-pi").request.outcome = .refused 404 := by decide +kernel
  have meant := claim (.fetchNode "ups-pi") (by simp [ClientCall.Named])
  rw [outcome] at meant
  cases meant

end Strom.Routes
