import Strom.Handlers.NodeStatus

/-!
# The labels and the local UI policy of a node (`handleUpdateNodeMetadata`)

The handler saves the labels of a PATCH before it looks at the policy, saves the policy before
it can answer, and undoes nothing but a policy that a live node does not take.  A PATCH that is
refused leaves the labels and the policy as they were exactly where nothing that it has saved
was new (`refused_patch_unchanged_iff`).
-/

namespace Strom.Handlers

open Strom.Go Strom.Effects Strom.Registry Strom.Adoption Strom.Alerts

/-! ## The table -/

/-- The columns that operators set, with their defaults. -/
structure NodeMetadata where
  displayName : String := ""
  locationLabel : String := ""
  siteLabel : String := ""
  localUIManaged : Bool := false
  localUIEnabled : Bool := true
deriving DecidableEq, Repr

/-- The rows of `nodes`, with those columns by the ids. -/
structure NodeTable where
  rows : Rows
  metadata : String → NodeMetadata

structure NodeMetadataPatch where
  displayName : Option String := none
  locationLabel : Option String := none
  siteLabel : Option String := none
deriving DecidableEq, Repr

def NodeMetadataPatch.isEmpty (patch : NodeMetadataPatch) : Bool :=
  patch.displayName.isNone && patch.locationLabel.isNone && patch.siteLabel.isNone

/-- The assignments of `UpdateNodeMetadata`. -/
def NodeMetadataPatch.assign (patch : NodeMetadataPatch) (metadata : NodeMetadata) : NodeMetadata :=
  { metadata with
    displayName := (patch.displayName.map trimSpace).getD metadata.displayName
    locationLabel := (patch.locationLabel.map trimSpace).getD metadata.locationLabel
    siteLabel := (patch.siteLabel.map trimSpace).getD metadata.siteLabel }

def NodeTable.set (t : NodeTable) (id : String) (change : NodeMetadata → NodeMetadata) : NodeTable :=
  { t with metadata := Function.update t.metadata id (change (t.metadata id)) }

/-- An update of the row of a node, where the statement does not fail. -/
def NodeTable.updateWhere (t : NodeTable) (id : String) (fault : Option GoError)
    (change : NodeMetadata → NodeMetadata) : Except RegistryError Unit × NodeTable :=
  match fault with
  | some cause => (.error (.other cause), t)
  | none => if (find t.rows id).isSome then (.ok (), t.set id change) else (.error .nodeNotFound, t)

/-- `UpdateNodeMetadata`. -/
def updateNodeMetadata (id : String) (patch : NodeMetadataPatch) (fault : Option GoError) (t : NodeTable) :
    Except RegistryError Unit × NodeTable :=
  if patch.isEmpty then (.error (.other (.text "node metadata patch is empty")), t)
  else t.updateWhere id (fault.map (.wrap ("update node metadata " ++ id))) patch.assign

/-- `UpdateNodeLocalUIPolicy`. -/
def updateNodeLocalUIPolicy (id : String) (managed enabled : Bool) (fault : Option GoError) (t : NodeTable) :
    Except RegistryError Unit × NodeTable :=
  t.updateWhere id (fault.map (.wrap ("update node local UI policy " ++ id))) fun metadata =>
    { metadata with localUIManaged := managed, localUIEnabled := enabled }

/-! ## The handler -/

structure UpdateNodeMetadataRequest where
  displayName : Option String := none
  locationLabel : Option String := none
  siteLabel : Option String := none
  localUIManaged : Option Bool := none
  localUIEnabled : Option Bool := none
deriving DecidableEq, Repr

def UpdateNodeMetadataRequest.patch (request : UpdateNodeMetadataRequest) : NodeMetadataPatch where
  displayName := request.displayName
  locationLabel := request.locationLabel
  siteLabel := request.siteLabel

/-- The errors of a call to a trusted node that the handlers tell apart. -/
inductive TrustedError where
  | nodeNotFound
  | unauthorized
  | fingerprintDrift
  | other (e : GoError)
deriving DecidableEq, Repr

/-- `trustedNodeErrorMessage`. -/
def TrustedError.message : TrustedError → String
  | .nodeNotFound => "node not found"
  | .unauthorized => "node rejected the stored controller bearer token"
  | .fingerprintDrift => "node certificate fingerprint does not match stored trust material"
  | .other e => e.message

def TrustedError.status : TrustedError → Nat
  | .nodeNotFound => 404
  | .unauthorized => 401
  | .fingerprintDrift => 409
  | .other _ => 502

inductive PatchAnswer where
  | error (status : Nat) (message : String)
  | node (response : NodeResponse)
deriving DecidableEq, Repr

def PatchAnswer.status : PatchAnswer → Nat
  | .error status _ => status
  | .node _ => 200

/-- What the surroundings decide: the browser's nodes, which statements fail, how the two
    responses are built, and what the node says to a policy. -/
structure Surroundings where
  browser : List Sighting := []
  lookupFault : Option GoError := none
  labelsFault : Option GoError := none
  policyFault : Option GoError := none
  first : Nat → Choice
  last : Nat → Choice
  apply : Except TrustedError Unit := .ok ()

/-- The answer to an error of the registry. -/
def refusal (cause : RegistryError) : PatchAnswer := .error (AdoptError.registry cause).lookupStatus (RegistryError.message cause)

/-- `a.buildNodeResponse`, which touches no label and no policy of a node. -/
def respond (env : Surroundings) (choices : Nat → Choice) (id : String) (rows : Rows) :
    Except AdoptError NodeResponse × Rows :=
  let ended := (buildNodeResponse id).exec (guide (serve env.browser)) { state := rows, choices }
  (ended.1, ended.2.state)

/-- The end of the handler. -/
def answerNode (env : Surroundings) (id : String) (t : NodeTable) : PatchAnswer × NodeTable :=
  let built := respond env env.last id t.rows
  match built.1 with
  | .error cause => (.error cause.lookupStatus cause.message, { t with rows := built.2 })
  | .ok response => (.node response, { t with rows := built.2 })

/-- The policy that a request asks for, if it asks for one, in the order of the checks. -/
def chosenPolicy (request : UpdateNodeMetadataRequest) (adopted : Bool) (current : NodeMetadata) :
    Except String (Option (Bool × Bool)) :=
  match request.localUIManaged, request.localUIEnabled with
  | none, some _ => .error "local_ui_policy_managed is required when updating local_ui_policy_enabled"
  | none, none => .ok none
  | some managed, enabled =>
    if !adopted then .error "node local UI policy can only be managed after adoption"
    else
      match enabled with
      | some enabled => .ok (some (managed, enabled))
      | none =>
        if managed && !current.localUIManaged then
          .error "local_ui_policy_enabled is required when enabling controller-managed policy"
        else .ok (some (managed, current.localUIEnabled))

/-- The labels are saved where the request has some. -/
def saveLabels (env : Surroundings) (id : String) (request : UpdateNodeMetadataRequest) (t : NodeTable) :
    Except PatchAnswer Unit × NodeTable :=
  if request.patch.isEmpty then (.ok (), t)
  else
    match updateNodeMetadata id request.patch env.labelsFault t with
    | (.ok _, t) => (.ok (), t)
    | (.error .nodeNotFound, t) => (.error (refusal .nodeNotFound), t)
    | (.error (.other e), t) =>
      (.error (.error (if contains e.message "empty" then 400 else 500) e.message), t)

/-- The policy is saved, and undone where a live node does not take it. -/
def savePolicy (env : Surroundings) (id : String) (current : NodeMetadata) (managed enabled : Bool) (t : NodeTable) :
    Except PatchAnswer Unit × NodeTable :=
  match updateNodeLocalUIPolicy id managed enabled env.policyFault t with
  | (.error cause, t) => (.error (refusal cause), t)
  | (.ok _, t) =>
    let built := respond env env.first id t.rows
    let t := { t with rows := built.2 }
    match built.1 with
    | .error cause => (.error (.error cause.lookupStatus cause.message), t)
    | .ok live =>
      match live.live, env.apply with
      | true, .error cause =>
        -- the statement that undoes the change does not fail
        let undone := updateNodeLocalUIPolicy id current.localUIManaged current.localUIEnabled none t
        (.error (.error cause.status cause.message), undone.2)
      | _, _ => (.ok (), t)

/-- `handleUpdateNodeMetadata`, for the id in its path and what the body decodes to. -/
def handleUpdateNodeMetadata (env : Surroundings) (method id : String)
    (body : Except String UpdateNodeMetadataRequest) (t : NodeTable) : PatchAnswer × NodeTable :=
  if method ≠ "PATCH" then (.error 405 "method not allowed", t)
  else if id = "" || id.toList.contains '/' then (.error 404 "404 page not found", t)
  else
    match body with
    | .error cause => (.error 400 ("decode node metadata request: " ++ cause), t)
    | .ok request =>
      if request.patch.isEmpty && request.localUIManaged.isNone && request.localUIEnabled.isNone then
        (.error 400 "at least one metadata field is required", t)
      else
        match env.lookupFault, getNode id t.rows with
        | some cause, _ => (refusal (.other cause), t)
        | none, .error cause => (refusal cause, t)
        | none, .ok row =>
          let current := t.metadata id
          match saveLabels env id request t with
          | (.error answer, t) => (answer, t)
          | (.ok _, t) =>
            match chosenPolicy request row.adopted current with
            | .error message => (.error 400 message, t)
            | .ok none => answerNode env id t
            | .ok (some (managed, enabled)) =>
              match savePolicy env id current managed enabled t with
              | (.error answer, t) => (answer, t)
              | (.ok _, t) => answerNode env id t

/-! ## What a request saves -/

/-- The labels that a request writes are not those that are stored. -/
def Relabels (request : UpdateNodeMetadataRequest) (metadata : NodeMetadata) : Prop :=
  request.patch.assign metadata ≠ metadata

/-- A policy that a request writes is not the one that is stored. -/
def Repolicies (policy : Option (Bool × Bool)) (metadata : NodeMetadata) : Prop :=
  ∃ chosen ∈ policy, chosen ≠ (metadata.localUIManaged, metadata.localUIEnabled)

section Steps

variable {env : Surroundings} {id : String} {t : NodeTable} {request : UpdateNodeMetadataRequest}

@[simp] theorem NodeTable.set_rows (t : NodeTable) (id : String) (change : NodeMetadata → NodeMetadata) :
    (t.set id change).rows = t.rows := rfl

@[simp] theorem NodeTable.set_metadata (t : NodeTable) (id : String) (change : NodeMetadata → NodeMetadata) :
    (t.set id change).metadata id = change (t.metadata id) := Function.update_self _ _ _

theorem find_of_getNode {row : NodeRow} {rows : Rows} (found : getNode id rows = .ok row) :
    (find rows id).isSome = true := by
  unfold getNode at found
  split at found
  · next some_ => simp [some_]
  · cases found

theorem assign_of_isEmpty {patch : NodeMetadataPatch} (empty : patch.isEmpty = true) (metadata : NodeMetadata) :
    patch.assign metadata = metadata := by
  simp only [NodeMetadataPatch.isEmpty, Bool.and_eq_true, Option.isNone_iff_eq_none] at empty
  simp [NodeMetadataPatch.assign, empty]

theorem le_lookupStatus (cause : AdoptError) : 400 ≤ cause.lookupStatus := by
  unfold AdoptError.lookupStatus
  split <;> omega

theorem le_status (cause : TrustedError) : 400 ≤ cause.status := by
  cases cause <;> simp [TrustedError.status]

/-- Where the labels cannot be saved, the handler ends. -/
theorem saveLabels_failed (id : String) (t : NodeTable) {cause : GoError} (some_ : request.patch.isEmpty = false)
    (fault : env.labelsFault = some cause) :
    ∃ status message, 400 ≤ status ∧ saveLabels env id request t = (.error (.error status message), t) := by
  unfold saveLabels updateNodeMetadata NodeTable.updateWhere
  simp only [some_, fault, Option.map_some, Bool.false_eq_true, if_false]
  refine ⟨_, _, ?_, rfl⟩
  split <;> omega

/-- The labels of a node that is there. -/
theorem saveLabels_saved (env : Surroundings) (present : (find t.rows id).isSome = true)
    (saves : request.patch.isEmpty = true ∨ env.labelsFault = none) :
    ∃ u, u.rows = t.rows ∧ u.metadata id = request.patch.assign (t.metadata id) ∧
      saveLabels env id request t = (.ok (), u) := by
  unfold saveLabels
  by_cases empty : request.patch.isEmpty = true
  · rw [if_pos empty]
    exact ⟨t, rfl, (assign_of_isEmpty empty _).symm, rfl⟩
  · rw [if_neg empty]
    unfold updateNodeMetadata NodeTable.updateWhere
    simp only [if_neg empty, saves.resolve_left empty, Option.map_none, present, if_true]
    exact ⟨t.set id request.patch.assign, rfl, t.set_metadata id _, rfl⟩

/-! ## The row of the node -/

theorem present_upserted {rows : Rows} (present : (find rows id).isSome = true) (node : DiscoveredNode) :
    (find (upsertDiscoveredNode node rows).2 id).isSome = true := by
  obtain ⟨row, member, same⟩ := find_isSome.mp present
  apply find_isSome.mpr
  unfold upsertDiscoveredNode
  split
  · exact ⟨row, member, same⟩
  split
  · by_cases found : row.id = node.id
    · exact ⟨row.rediscovered node, mem_update.mpr (.inr ⟨row, member, found, rfl⟩), same⟩
    · exact ⟨row, mem_update.mpr (.inl ⟨member, found⟩), same⟩
  · exact ⟨row, List.mem_append_left _ member, same⟩

theorem present_serve (browser : List Sighting) {rows : Rows} (op : ControllerOp) (choice : Choice) (asking : Asking op)
    (present : (find rows id).isSome = true) : (find (serve browser op choice rows).2 id).isSome = true := by
  cases op with
  | upsertDiscoveredNode node =>
    have upserted := present_upserted present node
    simp only [serve, Watch.perform, Adoption.perform, Choice.statement]
    split
    · exact upserted
    · next applied _ _ =>
      cases applied
      · exact present
      · exact upserted
  | listNodes | snapshot | getNode | listNodeUPSSummaries => exact present
  | _ => exact asking.elim

theorem asking_buildNodeResponse (id : String) : Action.Only Asking (buildNodeResponse id) := by
  apply asking_syncLiveNodes.bind
  intro _
  apply (only_statement rfl trivial).bind
  intro row
  apply (only_always trivial).bind
  intro lives
  apply (only_statement rfl trivial).bind
  intro _
  exact Action.only_pure _

/-- To build a response deletes no node. -/
theorem present_respond {rows : Rows} (env : Surroundings) (choices : Nat → Choice)
    (present : (find rows id).isSome = true) : (find (respond env choices id rows).2 id).isSome = true := by
  have kept := Program.Only.triple (asking_buildNodeResponse id) (I := fun rows => (find rows id).isSome = true)
    fun op choice _ asking => present_serve env.browser op choice asking
  exact kept.run { state := rows, choices } present

/-! ## What comes after the labels -/

/-- A live node does not take the policy. -/
def Untaken (env : Surroundings) (id : String) (rows : Rows) : Prop :=
  ∃ response cause, (respond env env.first id rows).1 = .ok response ∧ response.live = true ∧ env.apply = .error cause

/-- A response cannot be built, after the policy, if there is one, has been saved for good. -/
def Unanswered (env : Surroundings) (id : String) (rows : Rows) : Option (Bool × Bool) → Prop
  | none => ∃ cause, (respond env env.last id rows).1 = .error cause
  | some _ => (∃ cause, (respond env env.first id rows).1 = .error cause) ∨
      ¬ Untaken env id rows ∧ ∃ cause, (respond env env.last id (respond env env.first id rows).2).1 = .error cause

theorem not_unanswered_of_untaken {rows : Rows} {policy : Bool × Bool} (untaken : Untaken env id rows) :
    ¬ Unanswered env id rows (some policy) := by
  intro unanswered
  obtain ⟨cause, failed⟩ | ⟨taken, -⟩ := unanswered
  · obtain ⟨response, -, built, -, -⟩ := untaken
    exact absurd (built.symm.trans failed) (by simp)
  · exact taken untaken

def NodeMetadata.withPolicy (metadata : NodeMetadata) (policy : Bool × Bool) : NodeMetadata :=
  { metadata with localUIManaged := policy.1, localUIEnabled := policy.2 }

theorem updateNodeLocalUIPolicy_saved (present : (find t.rows id).isSome = true) (managed enabled : Bool) :
    updateNodeLocalUIPolicy id managed enabled none t =
      (.ok (), t.set id fun metadata => metadata.withPolicy (managed, enabled)) := by
  unfold updateNodeLocalUIPolicy NodeTable.updateWhere
  simp only [Option.map_none, present, if_true]
  rfl

theorem savePolicy_unsaved {cause : GoError} (fault : env.policyFault = some cause) (id : String)
    (current : NodeMetadata) (policy : Bool × Bool) (t : NodeTable) : ∃ status message, 400 ≤ status ∧
      savePolicy env id current policy.1 policy.2 t = (.error (.error status message), t) := by
  unfold savePolicy updateNodeLocalUIPolicy NodeTable.updateWhere
  simp only [fault, Option.map_some]
  exact ⟨_, _, le_lookupStatus _, rfl⟩

section Saved

variable (present : (find t.rows id).isSome = true) (fault : env.policyFault = none) (current : NodeMetadata)
  (policy : Bool × Bool)

include present fault

/-- The policy stays saved where no response can be built. -/
theorem savePolicy_unbuilt {cause : AdoptError} (failed : (respond env env.first id t.rows).1 = .error cause) :
    ∃ u status message, 400 ≤ status ∧ u.metadata id = (t.metadata id).withPolicy policy ∧
      savePolicy env id current policy.1 policy.2 t = (.error (.error status message), u) := by
  unfold savePolicy
  rw [fault, updateNodeLocalUIPolicy_saved present]
  simp only [NodeTable.set_rows, failed]
  refine ⟨_, _, _, le_lookupStatus _, ?_, rfl⟩
  exact t.set_metadata id fun metadata => metadata.withPolicy policy

/-- The policy that a live node does not take is undone. -/
theorem savePolicy_untaken (untaken : Untaken env id t.rows) :
    ∃ u status message, 400 ≤ status ∧
      u.metadata id = (t.metadata id).withPolicy (current.localUIManaged, current.localUIEnabled) ∧
        savePolicy env id current policy.1 policy.2 t = (.error (.error status message), u) := by
  obtain ⟨response, cause, built, live, refused⟩ := untaken
  have still := present_respond env env.first present
  unfold savePolicy
  rw [fault, updateNodeLocalUIPolicy_saved present]
  simp only [NodeTable.set_rows, built, live, refused]
  rw [updateNodeLocalUIPolicy_saved still]
  refine ⟨_, _, _, le_status _, ?_, rfl⟩
  simp [NodeMetadata.withPolicy, NodeTable.set]

theorem savePolicy_saved {response : NodeResponse} (built : (respond env env.first id t.rows).1 = .ok response)
    (taken : ¬ Untaken env id t.rows) :
    ∃ u, u.rows = (respond env env.first id t.rows).2 ∧ u.metadata id = (t.metadata id).withPolicy policy ∧
      savePolicy env id current policy.1 policy.2 t = (.ok (), u) := by
  unfold savePolicy
  rw [fault, updateNodeLocalUIPolicy_saved present]
  simp only [NodeTable.set_rows, built]
  split
  · next cause live refused => exact absurd ⟨response, cause, built, live, refused⟩ taken
  · refine ⟨_, rfl, ?_, rfl⟩
    exact t.set_metadata id fun metadata => metadata.withPolicy policy

end Saved

theorem answerNode_eq (env : Surroundings) (id : String) (t : NodeTable) :
    (answerNode env id t).2.metadata id = t.metadata id ∧
      (400 ≤ (answerNode env id t).1.status ↔ ∃ cause, (respond env env.last id t.rows).1 = .error cause) := by
  unfold answerNode
  cases built : (respond env env.last id t.rows).1 with
  | error cause => simp [built, PatchAnswer.status, le_lookupStatus]
  | ok response => simp [built, PatchAnswer.status]

/-! ## Refused requests -/

/-- The request gets as far as to save its labels, and they are saved. -/
structure Started (env : Surroundings) (method id : String) (body : Except String UpdateNodeMetadataRequest)
    (t : NodeTable) (request : UpdateNodeMetadataRequest) (row : NodeRow) : Prop where
  method : method = "PATCH"
  path : id ≠ "" ∧ id.toList.contains '/' = false
  body : body = .ok request
  some_ : (request.patch.isEmpty && request.localUIManaged.isNone && request.localUIEnabled.isNone) = false
  lookup : env.lookupFault = none
  found : getNode id t.rows = .ok row
  saves : request.patch.isEmpty = true ∨ env.labelsFault = none

/-- Nothing new has been saved where a later step refuses the request or fails. -/
structure Spared (env : Surroundings) (id : String) (t : NodeTable) (request : UpdateNodeMetadataRequest)
    (adopted : Bool) : Prop where
  /-- The policy is refused. -/
  refused : ∀ message, chosenPolicy request adopted (t.metadata id) = .error message →
    ¬ Relabels request (t.metadata id)
  /-- The statement that saves the policy fails. -/
  unsaved : ∀ policy, chosenPolicy request adopted (t.metadata id) = .ok (some policy) → env.policyFault ≠ none →
    ¬ Relabels request (t.metadata id)
  /-- A live node does not take the policy. -/
  untaken : ∀ policy, chosenPolicy request adopted (t.metadata id) = .ok (some policy) → env.policyFault = none →
    Untaken env id t.rows → ¬ Relabels request (t.metadata id)
  /-- A response cannot be built. -/
  unanswered : ∀ policy, chosenPolicy request adopted (t.metadata id) = .ok policy →
    (policy = none ∨ env.policyFault = none) → Unanswered env id t.rows policy →
      ¬ Relabels request (t.metadata id) ∧ ¬ Repolicies policy (t.metadata id)

/-- A request that has saved no labels has changed nothing. -/
theorem unchanged_of_not_started {method : String} {body : Except String UpdateNodeMetadataRequest}
    (stopped : ∀ request row, ¬ Started env method id body t request row) :
    (handleUpdateNodeMetadata env method id body t).2 = t := by
  unfold handleUpdateNodeMetadata
  split
  · rfl
  next patch =>
  split
  · rfl
  next path =>
  cases body with
  | error cause => rfl
  | ok request =>
    dsimp only
    split
    · rfl
    next some_ =>
    cases lookup : env.lookupFault with
    | some cause => rfl
    | none =>
      cases found : getNode id t.rows with
      | error cause => rfl
      | ok row =>
        dsimp only
        -- what is left is that the labels cannot be saved
        have unsaved : ¬ (request.patch.isEmpty = true ∨ env.labelsFault = none) := by
          intro saves
          exact stopped request row ⟨by simpa using patch, by simpa using path, rfl,
            Bool.eq_false_of_not_eq_true some_, lookup, found, saves⟩
        rw [not_or] at unsaved
        obtain ⟨cause, fault⟩ := Option.ne_none_iff_exists'.mp unsaved.2
        obtain ⟨status, message, -, failed⟩ := saveLabels_failed id t (by simpa using unsaved.1) fault
        rw [failed]

/-- The handler behind the labels. -/
theorem handle_started {method : String} {body : Except String UpdateNodeMetadataRequest} {row : NodeRow}
    (started : Started env method id body t request row) :
    ∃ u, u.rows = t.rows ∧ u.metadata id = request.patch.assign (t.metadata id) ∧
      handleUpdateNodeMetadata env method id body t =
        match chosenPolicy request row.adopted (t.metadata id) with
        | .error message => (.error 400 message, u)
        | .ok none => answerNode env id u
        | .ok (some policy) =>
          match savePolicy env id (t.metadata id) policy.1 policy.2 u with
          | (.error answer, u) => (answer, u)
          | (.ok _, u) => answerNode env id u := by
  obtain ⟨u, rows, metadata, saved⟩ := saveLabels_saved env (find_of_getNode started.found) started.saves
  refine ⟨u, rows, metadata, ?_⟩
  obtain ⟨patch, ⟨named, whole⟩, rfl, some_, lookup, found, -⟩ := started
  unfold handleUpdateNodeMetadata
  simp only [patch, ne_eq, not_true_eq_false, if_false, named, whole, decide_false, Bool.or_self, some_, lookup, found,
    saved, Bool.false_eq_true]
  cases chosenPolicy request row.adopted (t.metadata id) with
  | error message => rfl
  | ok policy => cases policy <;> rfl

/-- The labels are new, or the policy is. -/
theorem assign_withPolicy_eq (metadata : NodeMetadata) (policy : Bool × Bool) :
    (request.patch.assign metadata).withPolicy policy = metadata ↔
      ¬ Relabels request metadata ∧ ¬ Repolicies (some policy) metadata := by
  obtain ⟨managed, enabled⟩ := policy
  obtain ⟨display, location, site, managed', enabled'⟩ := metadata
  simp only [Relabels, Repolicies, NodeMetadataPatch.assign, NodeMetadata.withPolicy, NodeMetadata.mk.injEq,
    Option.mem_def, Option.some.injEq, exists_eq_left', Prod.mk.injEq, ne_eq, not_not, and_true]
  tauto

theorem assign_undone (metadata : NodeMetadata) :
    (request.patch.assign metadata).withPolicy (metadata.localUIManaged, metadata.localUIEnabled) =
      request.patch.assign metadata := rfl

section Spared

variable {adopted : Bool} {policy : Bool × Bool}

theorem spared_of_refused {message : String}
    (chosen : chosenPolicy request adopted (t.metadata id) = .error message) :
    Spared env id t request adopted ↔ ¬ Relabels request (t.metadata id) := by
  constructor
  · intro spared
    exact spared.refused message chosen
  · intro same
    exact ⟨fun _ _ => same, by simp [chosen], by simp [chosen], by simp [chosen]⟩

theorem spared_of_none (chosen : chosenPolicy request adopted (t.metadata id) = .ok none) :
    Spared env id t request adopted ↔ (Unanswered env id t.rows none → ¬ Relabels request (t.metadata id)) := by
  constructor
  · intro spared unanswered
    exact (spared.unanswered none chosen (.inl rfl) unanswered).1
  · intro same
    refine ⟨by simp [chosen], by simp [chosen], by simp [chosen], ?_⟩
    intro policy own _ unanswered
    obtain rfl : none = policy := by simpa [chosen] using own
    exact ⟨same unanswered, by simp [Repolicies]⟩

theorem spared_of_unsaved {cause : GoError} (chosen : chosenPolicy request adopted (t.metadata id) = .ok (some policy))
    (fault : env.policyFault = some cause) :
    Spared env id t request adopted ↔ ¬ Relabels request (t.metadata id) := by
  constructor
  · intro spared
    exact spared.unsaved policy chosen (by simp [fault])
  · intro same
    refine ⟨by simp [chosen], fun _ _ _ => same, by simp [fault], ?_⟩
    intro other own saves
    obtain rfl : some policy = other := by simpa [chosen] using own
    simp [fault] at saves

theorem spared_of_saved (chosen : chosenPolicy request adopted (t.metadata id) = .ok (some policy))
    (fault : env.policyFault = none) :
    Spared env id t request adopted ↔
      (Untaken env id t.rows → ¬ Relabels request (t.metadata id)) ∧
        (Unanswered env id t.rows (some policy) →
          ¬ Relabels request (t.metadata id) ∧ ¬ Repolicies (some policy) (t.metadata id)) := by
  constructor
  · intro spared
    exact ⟨spared.untaken policy chosen fault, spared.unanswered (some policy) chosen (.inr fault)⟩
  · intro same
    obtain ⟨labels, both⟩ := same
    refine ⟨by simp [chosen], by simp [fault], fun _ _ _ => labels, ?_⟩
    intro other own _
    obtain rfl : some policy = other := by simpa [chosen] using own
    exact both

end Spared

/-- What a started request leaves. -/
theorem started_unchanged_iff {method : String} {body : Except String UpdateNodeMetadataRequest} {row : NodeRow}
    (started : Started env method id body t request row) :
    (400 ≤ (handleUpdateNodeMetadata env method id body t).1.status →
      (handleUpdateNodeMetadata env method id body t).2.metadata id = t.metadata id) ↔
      Spared env id t request row.adopted := by
  obtain ⟨u, rows, metadata, handled⟩ := handle_started started
  have present : (find u.rows id).isSome = true := rows ▸ find_of_getNode started.found
  have labels : u.metadata id = t.metadata id ↔ ¬ Relabels request (t.metadata id) := by
    rw [metadata, Relabels, not_not]
  rw [handled]
  cases chosen : chosenPolicy request row.adopted (t.metadata id) with
  | error message =>
    rw [spared_of_refused chosen, ← labels]
    exact forall_prop_of_true (by simp [PatchAnswer.status])
  | ok policy =>
    cases policy with
    | none =>
      obtain ⟨same, status⟩ := answerNode_eq env id u
      rw [spared_of_none chosen, ← labels]
      simp only [same, status, rows, Unanswered]
    | some policy =>
      cases fault : env.policyFault with
      | some cause =>
        obtain ⟨status, message, high, failed⟩ := savePolicy_unsaved fault id (t.metadata id) policy u
        rw [spared_of_unsaved chosen fault, ← labels]
        simp only [failed]
        exact forall_prop_of_true high
      | none =>
        rw [spared_of_saved chosen fault]
        by_cases untaken : Untaken env id t.rows
        · -- the policy is undone, the labels are not
          obtain ⟨v, status, message, high, undone, failed⟩ :=
            savePolicy_untaken present fault (t.metadata id) policy (rows ▸ untaken)
          have answered : ¬ Unanswered env id t.rows (some policy) := not_unanswered_of_untaken untaken
          rw [metadata, assign_undone, ← metadata] at undone
          simp only [failed, undone, labels, untaken, true_implies, answered, false_implies, and_true]
          exact forall_prop_of_true high
        · cases built : (respond env env.first id t.rows).1 with
          | error cause =>
            obtain ⟨v, status, message, high, saved, failed⟩ :=
              savePolicy_unbuilt present fault (t.metadata id) policy (rows ▸ built)
            have unanswered : Unanswered env id t.rows (some policy) := .inl ⟨cause, built⟩
            rw [metadata] at saved
            simp only [failed, saved, assign_withPolicy_eq, untaken, false_implies, unanswered, true_implies, true_and]
            exact forall_prop_of_true high
          | ok response =>
            obtain ⟨v, after, saved, done⟩ :=
              savePolicy_saved present fault (t.metadata id) policy (rows ▸ built) (rows ▸ untaken)
            obtain ⟨same, status⟩ := answerNode_eq env id v
            have unanswered : Unanswered env id t.rows (some policy) ↔
                ∃ cause, (respond env env.last id v.rows).1 = .error cause := by
              rw [after, rows]
              simp [Unanswered, built, untaken]
            rw [metadata] at saved
            simp only [done, same, status, saved, assign_withPolicy_eq, untaken, false_implies, unanswered, true_and]

/-- A PATCH that is answered with an error leaves the labels and the policy of the node as they
    were if and only if nothing new has been saved when it is refused or something fails. -/
theorem refused_patch_unchanged_iff (env : Surroundings) (method id : String)
    (body : Except String UpdateNodeMetadataRequest) (t : NodeTable) :
    (400 ≤ (handleUpdateNodeMetadata env method id body t).1.status →
      (handleUpdateNodeMetadata env method id body t).2.metadata id = t.metadata id) ↔
      ∀ request row, Started env method id body t request row → Spared env id t request row.adopted := by
  by_cases some_ : ∃ request row, Started env method id body t request row
  · obtain ⟨request, row, started⟩ := some_
    rw [started_unchanged_iff started]
    constructor
    · intro spared request' row' started'
      obtain rfl : request = request' := Except.ok.inj (started.body.symm.trans started'.body)
      obtain rfl : row = row' := Except.ok.inj (started.found.symm.trans started'.found)
      exact spared
    · intro all
      exact all request row started
  · simp only [not_exists] at some_
    have same := unchanged_of_not_started some_
    constructor
    · intro _ request row started
      exact absurd started (some_ request row)
    · intro _ _
      rw [same]

end Steps

/-- A table with an adopted node. -/
def rackTable : NodeTable where
  rows := [adoptedRack]
  metadata := fun _ => {}

/-- A name with half a policy: the name is saved, and the request is refused. -/
theorem refused_patch_renames :
    let request : UpdateNodeMetadataRequest := { displayName := some "Rack 1", localUIEnabled := some true }
    let handled := handleUpdateNodeMetadata { first := fun _ => answering, last := fun _ => answering } "PATCH" "rack"
      (.ok request) rackTable
    handled.1.status = 400 ∧ rackTable.metadata "rack" = {} ∧ handled.2.metadata "rack" = { displayName := "Rack 1" } := by
  decide +kernel

end Strom.Handlers
