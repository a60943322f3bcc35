import Strom.Effects.Run
import Strom.Effects.Stages
import Strom.Nutpoll.Poller

/-!
# The failures of a node in a row (`nutpoll.go`, `registry.go`)

A cycle of the poller reads the nodes at its start and writes what it has read, plus one,
for each poll that fails, while discovery and operators write other columns of the same
rows.  `Inv` says what a cycle at each of its stages may rely on, and `failures_of_run`
that the stored count is the number of failed polls since the last one that succeeded.
-/

namespace Strom.Nutpoll

open Strom.Go Strom.Effects Strom.Registry

/-! ## The law of a row -/

/-- The failed polls of a node since its last one that succeeded. -/
def failuresOf (polls : List (String × Bool)) (id : String) : Nat :=
  ((polls.filter (·.1 = id)).reverse.takeWhile fun poll => !poll.2).length

@[simp] theorem failuresOf_append_success (polls : List (String × Bool)) (id : String) :
    failuresOf (polls ++ [(id, true)]) id = 0 := by
  simp [failuresOf, List.filter_append]

@[simp] theorem failuresOf_append_failure (polls : List (String × Bool)) (id : String) :
    failuresOf (polls ++ [(id, false)]) id = failuresOf polls id + 1 := by
  simp [failuresOf, List.filter_append]

theorem failuresOf_append_other {polls : List (String × Bool)} {id other : String} (apart : other ≠ id)
    (ok : Bool) : failuresOf (polls ++ [(other, ok)]) id = failuresOf polls id := by
  simp [failuresOf, List.filter_append, apart]

def Polled (polls : List (String × Bool)) (id : String) : Prop := ∃ ok, (id, ok) ∈ polls

/-- The state that belongs to a number of failures. -/
def stateOf (threshold failures : Nat) : String :=
  if failures = 0 then commsStateHealthy else failedState threshold failures

/-- What the row of a node says about its polls. -/
structure Stored (threshold : Nat) (polls : List (String × Bool)) (row : PolledRow) : Prop where
  failures : row.pollFailures = failuresOf polls row.node.id
  state : Polled polls row.node.id → row.commsState = stateOf threshold row.pollFailures

/-! ## The stages of a cycle -/

/-- The nodes that are still to be polled are those with an address. -/
inductive Stage where
  | listing
  | ready (nodes : PolledRows)
  | opening (node : PolledRow) (rest : PolledRows)
  | polling (node : PolledRow) (rest : PolledRows)
  /-- A poll has ended and is not stored yet. -/
  | storing (node : PolledRow) (rest : PolledRows) (ok : Bool)
  | recording (rest : PolledRows)
  | ended

def addressed (nodes : PolledRows) : PolledRows := nodes.filter fun node => trimSpace node.node.address ≠ ""

/-- The failures that a poll of a node leaves. -/
def failuresAfter (node : PolledRow) (ok : Bool) : Nat := if ok then 0 else node.pollFailures + 1

def nextStage (threshold : Nat) : Stage → (op : PollOp) → op.Reply → Option Stage
  | .listing, .listAdoptedNodes, .ok nodes => some (.ready (addressed nodes))
  | .listing, .listAdoptedNodes, .error _ => some .ended
  | .ready (node :: rest), .loadNodeTrust id, reply =>
    if id = node.node.id then
      match reply with
      | .ok _ => some (.opening node rest)
      | .error _ => some (.ready rest)
    else none
  | .ready [], .pruneSamplesBefore _, _ => some .ended
  | .opening node rest, .openString id _, reply =>
    if id = node.node.id then
      match reply with
      | .ok _ => some (.polling node rest)
      | .error _ => some (.storing node rest false)
    else none
  | .polling node rest, .poll id _ _ _, reply =>
    if id = node.node.id then
      match reply with
      | .ok _ => some (.storing node rest true)
      | .error _ => some (.storing node rest false)
    else none
  | .storing node rest ok, .updateNodePollState id state, _ =>
    if id = node.node.id ∧ state.pollFailures = failuresAfter node ok ∧
        state.commsState = stateOf threshold (failuresAfter node ok) then
      some (if ok then .recording rest else .ready rest)
    else none
  | .recording rest, .recordUPSSnapshots _ _ _, _ => some (.ready rest)
  | _, _, _ => none

variable {threshold : Nat} {now : Time}

theorem follows_pollNode (node : PolledRow) (rest : PolledRows) :
    (pollNode threshold now node).Follows (nextStage threshold) (fun stage _ => stage = .ready (addressed rest))
      (.ready (addressed (node :: rest))) := by
  unfold pollNode
  by_cases blank : trimSpace node.node.address = ""
  · rw [if_pos blank]
    simp [addressed, blank]
  · have first : addressed (node :: rest) = node :: addressed rest := by simp [addressed, blank]
    rw [if_neg blank, first]
    intro reply
    cases reply with
    | error cause => exact ⟨.ready (addressed rest), by simp [nextStage], rfl⟩
    | ok trust =>
      refine ⟨.opening node (addressed rest), by simp [nextStage], ?_⟩
      intro reply
      cases reply with
      | error cause =>
        refine ⟨.storing node (addressed rest) false, by simp [nextStage], ?_⟩
        intro reply
        exact ⟨.ready (addressed rest),
          by simp [nextStage, nextFailedPollState, failuresAfter, stateOf], rfl⟩
      | ok password =>
        refine ⟨.polling node (addressed rest), by simp [nextStage], ?_⟩
        intro reply
        cases reply with
        | error cause =>
          refine ⟨.storing node (addressed rest) false, by simp [nextStage], ?_⟩
          intro reply
          exact ⟨.ready (addressed rest),
            by simp [nextStage, nextFailedPollState, failuresAfter, stateOf], rfl⟩
        | ok snapshots =>
          refine ⟨.storing node (addressed rest) true, by simp [nextStage], ?_⟩
          intro reply
          refine ⟨.recording (addressed rest),
            by simp [nextStage, healthyPollState, failuresAfter, stateOf], ?_⟩
          intro reply
          exact ⟨.ready (addressed rest), rfl, rfl⟩

theorem follows_pollNodes (nodes : PolledRows) :
    (pollNodes threshold now nodes).Follows (nextStage threshold) (fun stage _ => stage = .ready [])
      (.ready (addressed nodes)) := by
  induction nodes with
  | nil => rfl
  | cons node rest ih =>
    unfold pollNodes
    apply (Program.follows_bind _ _ _).mpr
    apply (follows_pollNode node rest).mono
    intro stage _ same
    rw [same]
    exact ih

/-- A cycle ends after its last node, or with the pruning. -/
def Ended (stage : Stage) : Prop := stage = .ready [] ∨ stage = .ended

theorem follows_pollOnce (p : Poller) :
    (pollOnce p now).Follows (nextStage p.threshold) (fun stage _ => Ended stage) .listing := by
  intro reply
  cases reply with
  | error cause => exact ⟨.ended, rfl, .inr rfl⟩
  | ok nodes =>
    refine ⟨.ready (addressed nodes), rfl, ?_⟩
    apply (Program.follows_bind (pollNodes p.threshold now nodes) _ _).mpr
    apply (follows_pollNodes nodes).mono
    intro stage _ same
    rw [same]
    by_cases prunes : 0 < p.retention
    · rw [if_pos prunes]
      intro reply
      exact ⟨.ended, rfl, .inr rfl⟩
    · rw [if_neg prunes]
      exact .inl rfl

/-! ## Runs -/

/-- The site and what is left of the poller's cycle. -/
structure Running where
  site : PollSite := {}
  cycle : PollProgram (Except GoError Unit) := .ret (.ok ())

inductive PollEvent where
  /-- A cycle begins, after the last one has ended. -/
  | started (now : Time)
  /-- The next operation of the cycle. -/
  | moved (choice : PollChoice)
  | discovered (node : DiscoveredNode)
  | described (id : String) (patch : NodeMetadataPatch)
  | adopted (id : String) (adopted : Bool) (now : String)
  | trusted (id : String) (trust : Trust)

def Running.setRows (running : Running) (rows : PolledRows) : Running :=
  { running with site := { running.site with rows } }

def pollStep (p : Poller) (running : Running) : PollEvent → Option Running
  | .started now =>
    match running.cycle with
    | .ret _ => some { running with cycle := pollOnce p now }
    | .call _ _ => none
  | .moved choice =>
    match running.cycle with
    | .ret _ => none
    | .call op next =>
      let performed := performPoll op choice running.site
      some { site := performed.2, cycle := next performed.1 }
  | .discovered node => some (running.setRows (upsertDiscovered node running.site.rows))
  | .described id patch => some (running.setRows (updateNodeMetadata id patch running.site.rows))
  | .adopted id adopted now => some (running.setRows (setAdopted id adopted now running.site.rows))
  | .trusted id trust => some (running.setRows (saveTrust id trust running.site.rows))

def Running.unstored (running : Running) : Option String :=
  match running.cycle with
  | .call (.updateNodePollState id _) _ => some id
  | _ => none

/-! ## The invariant of a cycle -/

/-- The nodes that a cycle will store a poll of, as it has read them. -/
def Stage.nodes : Stage → PolledRows
  | .ready nodes => nodes
  | .opening node rest => node :: rest
  | .polling node rest => node :: rest
  | .storing _ rest _ => rest
  | .recording rest => rest
  | .listing => []
  | .ended => []

/-- The node whose poll has ended and is not stored yet. -/
def Stage.unstored : Stage → Option String
  | .storing node _ _ => some node.node.id
  | _ => none

/-- What the row of a node has in common with what a cycle has read. -/
def Fresh (rows : PolledRows) (node : PolledRow) : Prop :=
  ∃ row ∈ rows, row.node.id = node.node.id ∧ row.pollFailures = node.pollFailures

structure Inv (threshold : Nat) (site : PollSite) (stage : Stage) : Prop where
  distinct : (site.rows.map (·.node.id)).Nodup
  /-- A node that was polled has a row. -/
  known : ∀ poll ∈ site.polls, poll.1 ∈ site.rows.map (·.node.id)
  stored : ∀ row ∈ site.rows, stage.unstored ≠ some row.node.id → Stored threshold site.polls row
  fresh : ∀ node ∈ stage.nodes, Fresh site.rows node
  apart : (stage.nodes.map (·.node.id)).Nodup
  /-- The poll that is not stored yet: its node is none of those to come, and has a row. -/
  pending : ∀ node rest ok, stage = .storing node rest ok →
    node.node.id ∉ rest.map (·.node.id) ∧ Polled site.polls node.node.id ∧
      failuresOf site.polls node.node.id = failuresAfter node ok

variable {site : PollSite} {stage : Stage}

/-- An update that keeps what is said about the polls. -/
structure Keeps (set : PolledRow → PolledRow) : Prop where
  id : ∀ row, (set row).node.id = row.node.id
  failures : ∀ row, (set row).pollFailures = row.pollFailures
  state : ∀ row, (set row).commsState = row.commsState

theorem Keeps.at {set : PolledRow → PolledRow} (keeps : Keeps set) (id : String) :
    Keeps fun row => if row.node.id = id then set row else row := by
  constructor <;> intro row <;> split <;> simp [keeps.id, keeps.failures, keeps.state]

theorem Stored.of_same {polls : List (String × Bool)} {row row' : PolledRow} (stored : Stored threshold polls row)
    (id : row'.node.id = row.node.id) (failures : row'.pollFailures = row.pollFailures)
    (state : row'.commsState = row.commsState) : Stored threshold polls row' := by
  constructor
  · rw [failures, id]
    exact stored.failures
  · rw [failures, id, state]
    exact stored.state

theorem ids_map {rows : PolledRows} {set : PolledRow → PolledRow} (keeps : ∀ row, (set row).node.id = row.node.id) :
    (rows.map set).map (·.node.id) = rows.map (·.node.id) := by
  rw [List.map_map]
  apply List.map_congr_left
  intro row _
  exact keeps row

theorem Inv.map (inv : Inv threshold site stage) {set : PolledRow → PolledRow} (keeps : Keeps set) :
    Inv threshold { site with rows := site.rows.map set } stage where
  distinct := by
    rw [ids_map keeps.id]
    exact inv.distinct
  known := by
    intro poll member
    rw [ids_map keeps.id]
    exact inv.known poll member
  stored := by
    intro row member idle
    obtain ⟨old, found, rfl⟩ := List.mem_map.mp member
    rw [keeps.id] at idle
    exact (inv.stored old found idle).of_same (keeps.id old) (keeps.failures old) (keeps.state old)
  fresh := by
    intro node member
    obtain ⟨row, found, same, failures⟩ := inv.fresh node member
    exact ⟨set row, List.mem_map_of_mem found, (keeps.id row).trans same, (keeps.failures row).trans failures⟩
  apart := inv.apart
  pending := inv.pending

/-- A new row has no polls and no failures. -/
theorem Inv.add (inv : Inv threshold site stage) {row : PolledRow} (new : row.node.id ∉ site.rows.map (·.node.id))
    (failures : row.pollFailures = 0) : Inv threshold { site with rows := site.rows ++ [row] } stage where
  distinct := by
    rw [List.map_append, List.map_singleton]
    exact List.nodup_append.mpr ⟨inv.distinct, by simp, by simpa using new⟩
  known := by
    intro poll member
    rw [List.map_append]
    exact List.mem_append_left _ (inv.known poll member)
  stored := by
    intro other member idle
    rw [List.mem_append, List.mem_singleton] at member
    cases member with
    | inl old => exact inv.stored other old idle
    | inr own =>
      subst own
      have never : ∀ poll ∈ site.polls, poll.1 ≠ other.node.id := by
        intro poll member same
        exact new (same ▸ inv.known poll member)
      constructor
      · rw [failures, failuresOf, List.filter_eq_nil_iff.mpr (by simpa using never)]
        rfl
      · intro polled
        obtain ⟨ok, member⟩ := polled
        exact absurd rfl (never _ member)
  fresh := by
    intro node member
    obtain ⟨row, found, same⟩ := inv.fresh node member
    exact ⟨row, List.mem_append_left _ found, same⟩
  apart := inv.apart
  pending := inv.pending

theorem inv_upsertDiscovered (inv : Inv threshold site stage) (node : DiscoveredNode) :
    Inv threshold { site with rows := upsertDiscovered node site.rows } stage := by
  unfold upsertDiscovered
  split
  · exact inv
  · split
    · have keeps : Keeps fun row => { row with node := row.node.rediscovered node } := ⟨fun _ => rfl, fun _ => rfl, fun _ => rfl⟩
      exact inv.map (keeps.at node.id)
    · next new => exact inv.add new rfl

/-! ## One operation of a cycle -/

/-- A stage at which the site is as the last one left it, with fewer nodes to come. -/
theorem Inv.advance (inv : Inv threshold site stage) {stage' : Stage} (idle : stage.unstored = none)
    (nodes : stage'.nodes.Sublist stage.nodes) (still : stage'.unstored = none) :
    Inv threshold site stage' where
  distinct := inv.distinct
  known := inv.known
  stored := by
    intro row member _
    apply inv.stored row member
    simp [idle]
  fresh := fun node member => inv.fresh node (nodes.subset member)
  apart := inv.apart.sublist (nodes.map _)
  pending := by
    intro node rest ok same
    simp [same, Stage.unstored] at still

theorem adoptedNodes_perm (rows : PolledRows) : (adoptedNodes rows).Perm (rows.filter (·.node.adopted)) :=
  List.mergeSort_perm _ _

theorem inv_listed (inv : Inv threshold site .listing) :
    Inv threshold site (.ready (addressed (adoptedNodes site.rows))) where
  distinct := inv.distinct
  known := inv.known
  stored := fun row member _ => inv.stored row member (by simp [Stage.unstored])
  fresh := by
    intro node member
    have listed : node ∈ adoptedNodes site.rows := List.mem_of_mem_filter member
    have row : node ∈ site.rows := List.mem_of_mem_filter ((adoptedNodes_perm site.rows).mem_iff.mp listed)
    exact ⟨node, row, rfl, rfl⟩
  apart := by
    have rows : ((adoptedNodes site.rows).map (·.node.id)).Nodup := by
      rw [((adoptedNodes_perm site.rows).map _).nodup_iff]
      exact inv.distinct.sublist (List.filter_sublist.map _)
    exact rows.sublist (List.filter_sublist.map _)
  pending := by simp

/-- A poll has ended: the row of its node is behind, that of no other. -/
theorem inv_polled {node : PolledRow} {rest : PolledRows} (inv : Inv threshold site stage)
    (idle : stage.unstored = none) (nodes : stage.nodes = node :: rest) (ok : Bool) :
    Inv threshold { site with polls := site.polls ++ [(node.node.id, ok)] } (.storing node rest ok) := by
  have fresh := inv.fresh
  have apart := inv.apart
  rw [nodes] at fresh apart
  obtain ⟨own, others⟩ := List.forall_mem_cons.mp fresh
  obtain ⟨row, member, id, failures⟩ := own
  obtain ⟨new, nodup⟩ := List.nodup_cons.mp apart
  constructor
  · exact inv.distinct
  · intro poll ended
    rw [List.mem_append, List.mem_singleton] at ended
    cases ended with
    | inl old => exact inv.known poll old
    | inr last =>
      subst last
      exact List.mem_map.mpr ⟨row, member, id⟩
  · intro other found behind
    have different : node.node.id ≠ other.node.id := by
      intro same
      exact behind (congrArg some same)
    have stored := inv.stored other found (by simp [idle])
    constructor
    · rw [failuresOf_append_other different]
      exact stored.failures
    · intro polled
      obtain ⟨ok', ended⟩ := polled
      rw [List.mem_append, List.mem_singleton] at ended
      cases ended with
      | inl old => exact stored.state ⟨ok', old⟩
      | inr last => exact absurd (congrArg Prod.fst last).symm different
  · exact others
  · exact nodup
  · intro node' rest' ok' same
    cases same
    have stored := (inv.stored row member (by simp [idle])).failures
    refine ⟨new, ⟨ok, by simp⟩, ?_⟩
    cases ok with
    | true => simp [failuresAfter]
    | false => simp [failuresAfter, ← failures, stored, id]

theorem trimSpace_stateOf (threshold failures : Nat) :
    trimSpace (stateOf threshold failures) = stateOf threshold failures ∧ stateOf threshold failures ≠ "" := by
  unfold stateOf failedState
  split
  · decide
  · split <;> decide

/-- The poll is stored: the row of its node has caught up. -/
theorem inv_stored {node : PolledRow} {rest : PolledRows} {ok : Bool} {state : PollState} {stage' : Stage}
    (inv : Inv threshold site (.storing node rest ok)) (failures : state.pollFailures = failuresAfter node ok)
    (comms : state.commsState = stateOf threshold (failuresAfter node ok)) (nodes : stage'.nodes = rest)
    (idle : stage'.unstored = none) :
    Inv threshold { site with rows := updateRow site.rows node.node.id (·.withPollState state) } stage' := by
  obtain ⟨apart, polled, now⟩ := inv.pending node rest ok rfl
  have keepsIDs : ∀ row : PolledRow,
      (if row.node.id = node.node.id then row.withPollState state else row).node.id = row.node.id := by
    intro row
    split <;> rfl
  constructor
  · rw [updateRow, ids_map keepsIDs]
    exact inv.distinct
  · intro poll member
    rw [updateRow, ids_map keepsIDs]
    exact inv.known poll member
  · intro row member _
    obtain ⟨old, found, rfl⟩ := List.mem_map.mp member
    by_cases own : old.node.id = node.node.id
    · rw [if_pos own]
      constructor
      · show state.pollFailures = failuresOf site.polls old.node.id
        rw [own, now, failures]
      · intro _
        show (if trimSpace state.commsState = "" then _ else _) = stateOf threshold state.pollFailures
        obtain ⟨trimmed, nonblank⟩ := trimSpace_stateOf threshold (failuresAfter node ok)
        rw [comms, trimmed, if_neg nonblank, failures]
    · rw [if_neg own]
      apply inv.stored old found
      intro same
      exact own (Option.some.inj same).symm
  · intro other member
    rw [nodes] at member
    obtain ⟨row, found, id, same⟩ := inv.fresh other member
    have different : row.node.id ≠ node.node.id := by
      intro own
      exact apart (List.mem_map.mpr ⟨other, member, id.symm.trans own⟩)
    exact ⟨row, List.mem_map.mpr ⟨row, found, by simp [different]⟩, id, same⟩
  · rw [nodes]
    exact inv.apart
  · intro node' rest' ok' same
    simp [same, Stage.unstored] at idle

/-- Every operation of a cycle keeps the invariant. -/
theorem inv_moved {op : PollOp} {choice : PollChoice} {stage' : Stage} (inv : Inv threshold site stage)
    (reached : nextStage threshold stage op (performPoll op choice site).1 = some stage') :
    Inv threshold (performPoll op choice site).2 stage' := by
  cases op with
  | listAdoptedNodes =>
    cases stage with
    | listing =>
      cases reached
      exact inv_listed inv
    | ready nodes => cases nodes <;> cases reached
    | _ => cases reached
  | loadNodeTrust id =>
    cases stage with
    | ready nodes =>
      cases nodes with
      | nil => cases reached
      | cons node rest =>
        have same : (performPoll (.loadNodeTrust id) choice site).2 = site := by
          simp only [performPoll]
          split <;> rfl
        rw [same]
        simp only [nextStage] at reached
        split at reached
        · split at reached
          · cases reached
            exact inv.advance rfl (List.Sublist.refl _) rfl
          · cases reached
            exact inv.advance rfl (List.sublist_cons_self ..) rfl
        · cases reached
    | _ => cases reached
  | openString id sealedText =>
    cases stage with
    | opening node rest =>
      cases password : choice.password with
      | ok opened =>
        simp only [performPoll, password, nextStage] at reached ⊢
        split at reached
        · cases reached
          exact inv.advance rfl (List.Sublist.refl _) rfl
        · cases reached
      | error cause =>
        simp only [performPoll, password, nextStage] at reached ⊢
        split at reached
        · next own =>
          cases reached
          rw [own]
          exact inv_polled inv rfl rfl false
        · cases reached
    | ready nodes => cases nodes <;> cases reached
    | _ => cases reached
  | poll id address username password =>
    cases stage with
    | polling node rest =>
      cases answer : choice.snapshots with
      | ok snapshots =>
        simp only [performPoll, answer, nextStage] at reached ⊢
        split at reached
        · next own =>
          cases reached
          rw [own]
          exact inv_polled inv rfl rfl true
        · cases reached
      | error cause =>
        simp only [performPoll, answer, nextStage] at reached ⊢
        split at reached
        · next own =>
          cases reached
          rw [own]
          exact inv_polled inv rfl rfl false
        · cases reached
    | ready nodes => cases nodes <;> cases reached
    | _ => cases reached
  | updateNodePollState id state =>
    cases stage with
    | storing node rest ok =>
      simp only [nextStage] at reached
      split at reached
      · next fits =>
        obtain ⟨rfl, failures, comms⟩ := fits
        -- the node was polled, and so it has a row
        obtain ⟨-, ⟨ended, polled⟩, -⟩ := inv.pending node rest ok rfl
        obtain ⟨row, member, id⟩ := List.mem_map.mp (inv.known _ polled)
        have found : (findPolled site.rows node.node.id).isSome := by
          rw [findPolled, List.find?_isSome]
          exact ⟨row, member, by simpa using id⟩
        simp only [performPoll, found, if_true]
        cases ok with
        | true =>
          cases reached
          exact inv_stored inv failures comms rfl rfl
        | false =>
          cases reached
          exact inv_stored inv failures comms rfl rfl
      · cases reached
    | ready nodes => cases nodes <;> cases reached
    | _ => cases reached
  | recordUPSSnapshots id now snapshots =>
    cases stage with
    | recording rest =>
      cases reached
      exact inv.advance rfl (List.Sublist.refl _) rfl
    | ready nodes => cases nodes <;> cases reached
    | _ => cases reached
  | pruneSamplesBefore cutoff =>
    cases stage with
    | ready nodes =>
      cases nodes with
      | nil =>
        cases reached
        exact inv.advance rfl (List.Sublist.refl _) rfl
      | cons node rest => cases reached
    | _ => cases reached

/-! ## Every run -/

/-- The invariant of a run: the cycle follows the stages from one at which it holds. -/
def Good (threshold : Nat) (running : Running) : Prop :=
  ∃ stage, Inv threshold running.site stage ∧
    running.cycle.Follows (nextStage threshold) (fun stage _ => Ended stage) stage

theorem good_step {p : Poller} {running next : Running} (event : PollEvent) (good : Good p.threshold running)
    (taken : pollStep p running event = some next) : Good p.threshold next := by
  obtain ⟨stage, inv, follows⟩ := good
  cases event with
  | started now =>
    simp only [pollStep] at taken
    split at taken
    · next value ended =>
      cases taken
      rw [ended] at follows
      have idle : stage.unstored = none := by
        obtain rfl | rfl : Ended stage := follows <;> rfl
      exact ⟨.listing, inv.advance idle (List.nil_sublist _) rfl, follows_pollOnce p⟩
    · cases taken
  | moved choice =>
    simp only [pollStep] at taken
    split at taken
    · cases taken
    · next op rest issues =>
      cases taken
      rw [issues] at follows
      obtain ⟨stage', reached, later⟩ := follows (performPoll op choice running.site).1
      exact ⟨stage', inv_moved inv reached, later⟩
  | discovered node =>
    cases taken
    exact ⟨stage, inv_upsertDiscovered inv node, follows⟩
  | described id patch =>
    cases taken
    refine ⟨stage, inv.map (Keeps.at ?_ id), follows⟩
    exact ⟨fun _ => rfl, fun _ => rfl, fun _ => rfl⟩
  | adopted id adopted now =>
    cases taken
    refine ⟨stage, inv.map (Keeps.at ?_ id), follows⟩
    exact ⟨fun _ => rfl, fun _ => rfl, fun _ => rfl⟩
  | trusted id trust =>
    cases taken
    refine ⟨stage, inv.map (Keeps.at ?_ id), follows⟩
    exact ⟨fun _ => rfl, fun _ => rfl, fun _ => rfl⟩

/-- Where a poll is not stored yet, the next operation stores it. -/
theorem storing_of_follows {running : Running} {stage : Stage} {id : String}
    (follows : running.cycle.Follows (nextStage threshold) (fun stage _ => Ended stage) stage)
    (behind : stage.unstored = some id) : running.unstored = some id := by
  cases stage with
  | storing node rest ok =>
    cases behind
    unfold Running.unstored
    cases cycle : running.cycle with
    | ret value =>
      rw [cycle] at follows
      obtain done | done : Ended (.storing node rest ok) := follows <;> cases done
    | call op next =>
      rw [cycle] at follows
      cases op with
      | updateNodePollState id state =>
        obtain ⟨stage', reached, -⟩ := follows (.ok ())
        simp only [nextStage] at reached
        split at reached
        · next fits => simp [fits.1]
        · cases reached
      | _ =>
        obtain ⟨stage', reached, -⟩ := follows (.error nodeNotFound)
        cases reached
  | _ => cases behind

/-- After every run of cycles, discoveries, metadata patches and adoptions: what the row of
    a node says about its polls, but between the end of a poll and the statement that
    stores it. -/
theorem failures_of_run {p : Poller} {events : List PollEvent} {running : Running}
    (run : replay (pollStep p) {} events = some running) {row : PolledRow} (member : row ∈ running.site.rows)
    (idle : running.unstored ≠ some row.node.id) (polled : Polled running.site.polls row.node.id) :
    row.pollFailures = failuresOf running.site.polls row.node.id ∧
      (row.commsState = commsStateHealthy ↔ row.pollFailures = 0) ∧
      (row.commsState = commsStateOffline ↔ p.threshold ≤ row.pollFailures) ∧
      (row.commsState = commsStateDegraded ↔ 0 < row.pollFailures ∧ row.pollFailures < p.threshold) := by
  have good : Good p.threshold running := by
    apply replay_preserves (fun _ event _ good => good_step event good) _ run
    have fresh : Inv p.threshold {} .ended :=
      { distinct := by simp, known := by simp, stored := by simp, fresh := by simp [Stage.nodes]
        apart := by simp [Stage.nodes], pending := by simp }
    exact ⟨.ended, fresh, .inr rfl⟩
  obtain ⟨stage, inv, follows⟩ := good
  have stored := inv.stored row member fun behind => idle (storing_of_follows follows behind)
  refine ⟨stored.failures, ?_⟩
  rw [stored.state polled]
  have positive : 0 < p.threshold := by
    unfold Poller.threshold defaultOfflineThreshold
    split <;> omega
  unfold stateOf failedState
  by_cases none : row.pollFailures = 0
  · simp [none, commsStateHealthy, commsStateOffline, commsStateDegraded]
    omega
  · by_cases many : p.threshold ≤ row.pollFailures
    · simp [none, many, commsStateHealthy, commsStateOffline, commsStateDegraded]
    · simp [none, many, commsStateHealthy, commsStateOffline, commsStateDegraded]
      omega

/-- A node that is discovered, adopted and polled twice, the second time while it is
    discovered again; neither poll is answered. -/
def labEvents : List PollEvent :=
  let found : DiscoveredNode :=
    { id := "a", instance_ := "a", hostname := "a.local", address := "10.0.0.7", port := 80, version := "v1"
      upsCount := 1, lastSeen := "2026-06-25T09:00:00Z" }
  let refused : PollEvent := .moved { snapshots := .error (.text "connection refused") }
  [.discovered found, .adopted "a" true "2026-06-25T09:01:00Z", .started ⟨1782378000 * second⟩,
    refused, refused, refused, refused, refused, .started ⟨1782378015 * second⟩,
    refused, refused, .discovered found, refused, .described "a" { siteLabel := some "lab" }, refused, refused]

def labRunning : Running := (replay (pollStep {}) {} labEvents).getD {}

theorem failures_of_run_of_two : ∃ row ∈ labRunning.site.rows,
    row.pollFailures = 2 ∧ row.commsState = commsStateDegraded := by
  have happens : (replay (pollStep {}) {} labEvents).isSome := by decide +kernel
  have run : replay (pollStep {}) {} labEvents = some labRunning := by
    obtain ⟨running, same⟩ := Option.isSome_iff_exists.mp happens
    rw [labRunning, same]
    rfl
  have row : ∃ row ∈ labRunning.site.rows, row.node.id = "a" := by decide +kernel
  obtain ⟨row, member, id⟩ := row
  have idle : labRunning.unstored ≠ some row.node.id := by
    rw [id]
    decide +kernel
  have polls : labRunning.site.polls = [("a", false), ("a", false)] := by decide +kernel
  have law := failures_of_run run member idle ⟨false, by simp [polls, id]⟩
  have two : row.pollFailures = 2 := by
    rw [law.1, polls, id]
    decide
  exact ⟨row, member, two, law.2.2.2.mpr (by rw [two]; decide)⟩

end Strom.Nutpoll
