import Strom.Alerts.Debounce
import Strom.Alerts.Sightings

/-!
# Offline events and sightings

An event about an offline node rests on the text that was last stored for the node
(`Tracked`), and so on a request some time ago.  `Synced` says of a moment of evaluation that
the copies of what was sighted lately are recent enough; `offline_events_lawful` is about the
runs whose evaluations all meet it.
-/

namespace Strom.Alerts

open Strom.Go Strom.Effects Strom.Registry Strom.Adoption

variable {F : Type} (e : Engine F)

/-! ## What an evaluation raises -/

/-- The event is about an offline node only where the node has not been seen for too long. -/
def Offline (now : Time) (nodes : List AlertNode) (event : AlertEvent) : Prop :=
  event.kind = kindNodeOffline → ∃ node ∈ nodes, event.nodeID = node.id ∧ event.createdAt = now ∧
    node.lastSeen.isZero = false ∧ e.offlineAfter < now.sub node.lastSeen

/-- Only such events are handed to the deliverer. -/
def Delivers (now : Time) (nodes : List AlertNode) : AlertOp F → Prop
  | .deliver _ event => Offline e now nodes event
  | _ => True

section Raised

variable {e} {now : Time} {nodes : List AlertNode} {rule : AlertRule F} {node : AlertNode}

theorem offline_offlineEvents (member : node ∈ nodes) {event : AlertEvent}
    (raised : event ∈ e.offlineEvents now rule node) : Offline e now nodes event := by
  intro _
  unfold Engine.offlineEvents at raised
  split at raised
  · next late =>
    obtain rfl := List.mem_singleton.mp raised
    exact ⟨node, member, rfl, rfl, by simpa using late.1, late.2⟩
  · cases raised

/-- The events of the other kinds bear the kind of their rule. -/
theorem kind_commsEvents {event : AlertEvent} (raised : event ∈ Engine.commsEvents now rule node) :
    event.kind = rule.kind := by
  unfold Engine.commsEvents at raised
  split at raised
  · obtain rfl := List.mem_singleton.mp raised
    rfl
  · cases raised

theorem kind_upsEvents {summary : UPSSummary F} {event : AlertEvent}
    (raised : event ∈ Engine.onBatteryEvents now rule node summary ++ e.lowBatteryEvents now rule node summary) :
    event.kind = rule.kind := by
  have single : ∀ {p : Prop} [Decidable p] {what : String},
      event ∈ (if p then [Engine.upsEvent now rule node summary what] else []) → event.kind = rule.kind := by
    intro p _ what raised
    split at raised
    · obtain rfl := List.mem_singleton.mp raised
      rfl
    · cases raised
  rw [List.mem_append] at raised
  cases raised with
  | inl onBattery => exact single onBattery
  | inr lowBattery =>
    unfold Engine.lowBatteryEvents at lowBattery
    split at lowBattery
    · exact single lowBattery
    · cases lowBattery

theorem only_log (line : String) : (ask (.log line) : AlertProgram F Unit).Only (Delivers e now nodes) :=
  Program.only_perform trivial

/-- Whatever `events` finds and however it goes on, it has delivered nothing yet. -/
theorem only_events {α : Type} {f : List AlertEvent → AlertProgram F α} (member : node ∈ nodes)
    (rest : ∀ found, (∀ event ∈ found, Offline e now nodes event) → (f found).Only (Delivers e now nodes)) :
    ((e.events now rule node).bind f).Only (Delivers e now nodes) := by
  have other : ∀ {event : AlertEvent}, event.kind = rule.kind → rule.kind ≠ kindNodeOffline →
      Offline e now nodes event := by
    intro event same apart offline
    exact absurd (same.symm.trans offline) apart
  unfold Engine.events
  by_cases offline : rule.kind = kindNodeOffline
  · rw [if_pos offline]
    exact rest _ fun event raised => offline_offlineEvents member raised
  rw [if_neg offline]
  split
  · exact rest _ fun event raised => other (kind_commsEvents raised) offline
  split
  · refine ⟨trivial, fun reply => ?_⟩
    cases reply with
    | ok summaries =>
      apply rest
      intro event raised
      obtain ⟨summary, -, own⟩ := List.mem_flatMap.mp raised
      exact other (kind_upsEvents own) offline
    | error cause =>
      refine ⟨trivial, fun _ => ?_⟩
      exact rest [] (by simp)
  · exact rest [] (by simp)

theorem only_maybeFireEvent {event : AlertEvent} (offline : Offline e now nodes event) :
    Action.Only (Delivers e now nodes) (Engine.maybeFireEvent rule event) := by
  have deliver : Action.Only (Delivers e now nodes) (Engine.deliverAndInsert rule event) := by
    refine Action.Only.bind (Action.Only.always (Program.only_perform offline)) fun outcome => ?_
    exact Program.only_perform trivial
  refine Action.Only.bind (Program.only_perform trivial) fun last => ?_
  cases last with
  | none => exact Action.Only.bind deliver fun _ => Action.only_pure ()
  | some last =>
    dsimp only
    split
    · exact Action.only_pure ()
    · exact Action.Only.bind deliver fun _ => Action.only_pure ()

theorem only_fireEvents {found : List AlertEvent} (offline : ∀ event ∈ found, Offline e now nodes event) :
    (Engine.fireEvents rule found).Only (Delivers e now nodes) := by
  induction found with
  | nil => trivial
  | cons event found ih =>
    obtain ⟨own, others⟩ := List.forall_mem_cons.mp offline
    refine Program.Only.bind (only_maybeFireEvent own) fun outcome => ?_
    cases outcome with
    | ok _ => exact ih others
    | error cause => exact Program.Only.bind (only_log _) fun _ => ih others

theorem only_evaluateNodes {some_ : List AlertNode} (members : ∀ node ∈ some_, node ∈ nodes) :
    (e.evaluateNodes now rule some_).Only (Delivers e now nodes) := by
  induction some_ with
  | nil => trivial
  | cons node later ih =>
    obtain ⟨own, others⟩ := List.forall_mem_cons.mp members
    refine only_events own fun found offline => ?_
    exact Program.Only.bind (only_fireEvents offline) fun _ => ih others

theorem only_evaluateRules (rules : List (AlertRule F)) :
    (e.evaluateRules now nodes rules).Only (Delivers e now nodes) := by
  induction rules with
  | nil => trivial
  | cons rule rules ih =>
    unfold Engine.evaluateRules
    split
    · exact Program.Only.bind (only_evaluateNodes fun _ member => member) fun _ => ih
    · exact ih

end Raised

/-- Every event of an evaluation that is about an offline node names one of the nodes that
    were listed, not seen for too long at the reading of the clock. -/
theorem offline_of_delivered {choices : Nat → Chance} {w : AlertWorld F} {event : AlertEvent}
    (delivered : event ∈ deliveries (Action.trace (guide perform) e.evaluateOnce { state := w, choices })) :
    Offline e w.now w.nodes event := by
  simp only [deliveries, List.mem_filterMap] at delivered
  obtain ⟨op, traced, same⟩ := delivered
  suffices Delivers e w.now w.nodes op by
    cases op <;> simp only [Option.some.injEq, reduceCtorEq] at same
    rw [← same]
    exact this
  -- nothing is delivered before the nodes are listed
  have quiet : ∀ {op' : AlertOp F} {t}, op ∈ (ask op').trace (guide perform) t →
      Delivers e w.now w.nodes op' → Delivers e w.now w.nodes op := by
    intro op' t inside allowed
    obtain rfl : op = op' := by simpa [ask] using inside
    exact allowed
  rw [Engine.evaluateOnce, Action.mem_trace_bind, Action.mem_trace_always] at traced
  obtain first | ⟨now, s, read, traced⟩ := traced
  · exact quiet first trivial
  rw [Action.mem_trace_bind] at traced
  obtain second | ⟨rules, t, listed, traced⟩ := traced
  · exact quiet second trivial
  rw [Action.mem_trace_bind] at traced
  obtain third | ⟨nodes, u, found, traced⟩ := traced
  · exact quiet third trivial
  have clock : now = w.now ∧ s.state.nodes = w.nodes := by
    cases read
    exact ⟨rfl, rfl⟩
  have kept : t.state.nodes = s.state.nodes := congrArg (fun outcome => outcome.2.state.nodes) listed.symm
  have all : nodes = t.state.nodes := by
    have reply : (t.choice.call (.ok t.state.nodes) : Except GoError (List AlertNode)) = .ok nodes :=
      congrArg Prod.fst found
    unfold Chance.call at reply
    split at reply
    · exact (Except.ok.inj reply).symm
    · cases reply
  rw [all, kept, clock.1, clock.2, Action.mem_trace_always] at traced
  exact (only_evaluateRules rules).trace u op traced

/-! ## What the table holds -/

/-- Each row bears the text that was stored for its node last. -/
def Tracked (rows : Rows) (copies : List (String × String)) : Prop :=
  ∀ row ∈ rows, copies.lookup row.id = some row.lastSeen

section Table

variable {rows : Rows} {copies : List (String × String)} {choice : Choice}

/-- Rows that keep the id and the text of a row before them stay tracked. -/
theorem Tracked.kept {rows' : Rows} (tracked : Tracked rows copies)
    (old : ∀ row ∈ rows', ∃ before ∈ rows, row.id = before.id ∧ row.lastSeen = before.lastSeen) :
    Tracked rows' copies := by
  intro row member
  obtain ⟨before, inside, id, text⟩ := old row member
  rw [id, text]
  exact tracked before inside

theorem kept_of_affecting (set : NodeRow → NodeRow) {id : String} {row : NodeRow}
    (keeps : ∀ row : NodeRow, (set row).id = row.id ∧ (set row).lastSeen = row.lastSeen)
    (member : row ∈ (choice.statement rows (affecting rows id (update rows id set))).2) :
    ∃ before ∈ rows, row.id = before.id ∧ row.lastSeen = before.lastSeen := by
  obtain same | changed := mem_statement member
  · exact ⟨row, same, rfl, rfl⟩
  obtain updated | ⟨-, same⟩ := mem_affecting changed
  · obtain ⟨same, -⟩ | ⟨before, inside, -, rfl⟩ := mem_update.mp updated
    · exact ⟨row, same, rfl, rfl⟩
    · exact ⟨before, inside, (keeps before).1, (keeps before).2⟩
  · exact ⟨row, same, rfl, rfl⟩

theorem tracked_upserted {node : DiscoveredNode} (tracked : Tracked rows copies) (named : node.id ≠ "") :
    Tracked (upsertDiscoveredNode node rows).2 ((node.id, node.lastSeen) :: copies) := by
  intro row member
  rw [List.lookup_cons]
  unfold upsertDiscoveredNode at member
  rw [if_neg named] at member
  split at member
  · obtain ⟨before, apart⟩ | ⟨before, -, same, rfl⟩ := mem_update.mp member
    · rw [beq_false_of_ne apart]
      exact tracked row before
    · simp [NodeRow.rediscovered, same]
  · next missing =>
    obtain before | new := List.mem_append.mp member
    · have apart : row.id ≠ node.id := by
        intro same
        exact missing (find_isSome.mpr ⟨row, before, same⟩)
      rw [beq_false_of_ne apart]
      exact tracked row before
    · obtain rfl := List.mem_singleton.mp new
      simp [DiscoveredNode.row]

/-- An operation of a request keeps the rows tracked. -/
theorem Tracked.perform {s : Watch} (tracked : Tracked s.rows s.copies) (op : ControllerOp) :
    Tracked (s.perform choice op).2 (Watch.copied s.copies choice op) := by
  cases op with
  | saveNodeTrust id trust =>
    exact tracked.kept fun row member =>
      kept_of_affecting (fun row => { row with trust }) (fun _ => ⟨rfl, rfl⟩) member
  | setNodeAdopted id adopted =>
    exact tracked.kept fun row member =>
      kept_of_affecting (fun row => { row with adopted, adoptedAt := if adopted then choice.now else "" })
        (fun _ => ⟨rfl, rfl⟩) member
  | deleteNode id =>
    apply tracked.kept
    intro row member
    obtain same | changed := mem_statement member
    · exact ⟨row, same, rfl, rfl⟩
    obtain left | ⟨-, same⟩ := mem_affecting changed
    · exact ⟨row, List.mem_of_mem_filter left, rfl, rfl⟩
    · exact ⟨row, same, rfl, rfl⟩
  | upsertDiscoveredNode node =>
    by_cases named : node.id = ""
    · -- a node without an id is refused
      have refused : ((s.perform choice (.upsertDiscoveredNode node)).2 : Rows) = s.rows := by
        simp only [Watch.perform, Adoption.perform, Choice.statement, Registry.upsertDiscoveredNode, named, if_true]
        split <;> simp
      have copies : Watch.copied s.copies choice (.upsertDiscoveredNode node) = s.copies := by
        simp only [Watch.copied, named, if_true]
        split <;> rfl
      rwa [refused, copies]
    · have upserted := tracked_upserted tracked named
      simp only [Watch.perform, Adoption.perform, Choice.statement, Watch.copied, named, if_false]
      cases choice.fault with
      | none => exact upserted
      | some fault =>
        obtain ⟨applied, e⟩ := fault
        cases applied with
        | true => exact upserted
        | false => exact tracked
  | _ => exact tracked

/-- A freshly opened table is tracked; the id is its primary key. -/
theorem tracked_opened (key : (rows.map (·.id)).Nodup) :
    Tracked (Watch.opened rows).rows (Watch.opened rows).copies := by
  show Tracked rows (rows.map fun row => (row.id, row.lastSeen))
  induction rows with
  | nil => simp [Tracked]
  | cons first rows ih =>
    obtain ⟨fresh, key⟩ := List.nodup_cons.mp key
    intro row member
    rw [List.map_cons, List.lookup_cons]
    cases member with
    | head => simp
    | tail _ member =>
      have apart : row.id ≠ first.id := by
        intro same
        exact fresh (List.mem_map.mpr ⟨row, member, same⟩)
      rw [beq_false_of_ne apart]
      exact ih key row member

end Table

/-! ## Runs -/

/-- The text that was stored last for an adopted node stands for a time not earlier than
    `now` less the configured time, if the node was sighted later than that. -/
def Recent (s : Watch) (now : Time) : Prop :=
  ∀ row ∈ s.rows, row.adopted = true →
    ∀ sighting ∈ s.sightings, sighting.1 = row.id → now.ns - e.offlineAfter < sighting.2.ns →
      ∀ text ∈ s.copies.lookup row.id, ∀ copy ∈ parseRFC3339 text, copy.isZero = false →
        now.ns - e.offlineAfter ≤ copy.ns

/-- An evaluation begins only while the copies are recent. -/
def Synced (s : Watch) : Happening F → Prop
  | .evaluate evaluation => Recent e s evaluation.world.now
  | _ => True

/-- No node that an event calls offline was sighted later than the configured time before
    the event. -/
def Lawful (s : Watch) : Prop :=
  ∀ p ∈ s.produced, p.event.kind = kindNodeOffline →
    ∀ sighting ∈ p.sightings, sighting.1 = p.event.nodeID →
      sighting.2.ns ≤ p.event.createdAt.ns - e.offlineAfter

instance (s : Watch) (now : Time) : Decidable (Recent e s now) := by
  unfold Recent
  exact @List.decidableBAll _ _ (fun _ => @instDecidableForall _ _ _ inferInstance) _

instance (s : Watch) : (happening : Happening F) → Decidable (Synced e s happening)
  | .evaluate evaluation => inferInstanceAs (Decidable (Recent e s evaluation.world.now))
  | .sighted _ => .isTrue trivial
  | .request _ => .isTrue trivial
  | .turn _ => .isTrue trivial

instance (s : Watch) : Decidable (Lawful e s) := by
  unfold Lawful
  infer_instance

section Runs

variable {e} {s : Watch} {evaluation : Evaluation F}

theorem offlineAfter_pos : 0 < e.offlineAfter := by
  unfold Engine.offlineAfter
  split
  · simp [second]
  · omega

theorem mem_of_mapM {α β : Type} {f : α → Option β} {l : List α} {found : List β} (all : l.mapM f = some found)
    {b : β} (member : b ∈ found) : ∃ a ∈ l, f a = some b := by
  induction l generalizing found with
  | nil =>
    cases all
    cases member
  | cons a l ih =>
    simp only [List.mapM_cons, Option.pure_def, Option.bind_eq_bind, Option.bind_eq_some_iff] at all
    obtain ⟨first, own, others, rest, same⟩ := all
    cases same
    cases member with
    | head => exact ⟨a, List.mem_cons_self, own⟩
    | tail _ member =>
      obtain ⟨a', inside, other⟩ := ih rest member
      exact ⟨a', List.mem_cons_of_mem _ inside, other⟩

/-- A listed node is an adopted row, with the time that its text stands for. -/
theorem row_of_listed {commsState : String → String} {rows : Rows} {nodes : List AlertNode}
    (listed : listAdoptedNodes commsState rows = some nodes) {node : AlertNode} (member : node ∈ nodes) :
    ∃ row ∈ rows, row.adopted = true ∧ row.id = node.id ∧ parseRFC3339 row.lastSeen = some node.lastSeen := by
  obtain ⟨row, inside, scanned⟩ := mem_of_mapM listed member
  rw [List.mem_insertionSort, List.mem_filter] at inside
  unfold scanAlertNode at scanned
  split at scanned
  · cases scanned
  · obtain ⟨lastSeen, parsed, rfl⟩ := Option.map_eq_some_iff.mp scanned
    exact ⟨row, inside.1, inside.2, rfl, parsed⟩

/-- An evaluation whose copies are recent calls no node offline that was sighted lately. -/
theorem lawful_of_produced (tracked : Tracked s.rows s.copies) (recent : Recent e s evaluation.world.now)
    {event : AlertEvent} (produced : event ∈ evaluation.produced e s.rows) (kind : event.kind = kindNodeOffline)
    {sighting : String × Time} (member : sighting ∈ s.sightings) (own : sighting.1 = event.nodeID) :
    sighting.2.ns ≤ event.createdAt.ns - e.offlineAfter := by
  unfold Evaluation.produced at produced
  cases listed : listAdoptedNodes evaluation.commsState s.rows with
  | none =>
    rw [listed] at produced
    cases produced
  | some nodes =>
    simp only [listed] at produced
    obtain ⟨node, inside, named, created, nonzero, late⟩ := offline_of_delivered e produced kind
    have clock : AlertWorld.now { evaluation.world with nodes } = evaluation.world.now := rfl
    rw [clock] at created late
    obtain ⟨row, stored, adopted, id, parsed⟩ := row_of_listed listed inside
    rw [created]
    by_contra later
    -- the text of the row is a recent copy, and an event has no node with one
    have fresh := recent row stored adopted sighting member (by rw [own, named, id]) (by omega) row.lastSeen
      (tracked row stored) node.lastSeen parsed nonzero
    have positive := offlineAfter_pos (e := e)
    simp only [Time.sub, minDuration, maxDuration] at late
    omega

theorem watch_step {happening : Happening F} {s' : Watch} (inv : Tracked s.rows s.copies ∧ Lawful e s)
    (synced : Synced e s happening) (taken : s.step e happening = some s') :
    Tracked s'.rows s'.copies ∧ Lawful e s' := by
  obtain ⟨tracked, lawful⟩ := inv
  cases happening with
  | sighted seen =>
    cases taken
    exact ⟨tracked, lawful⟩
  | request task =>
    cases taken
    exact ⟨tracked, lawful⟩
  | turn turn =>
    simp only [Watch.step] at taken
    split at taken
    · cases taken
      exact ⟨tracked.perform _, lawful⟩
    · cases taken
  | evaluate evaluation =>
    cases taken
    refine ⟨tracked, ?_⟩
    intro p member kind sighting sighted own
    obtain before | new := List.mem_append.mp member
    · exact lawful p before kind sighting sighted own
    · obtain ⟨event, produced, rfl⟩ := List.mem_map.mp new
      exact lawful_of_produced tracked synced produced kind sighted own

/-- In every run of sightings, requests and evaluations that begins with any table, and whose
    evaluations find recent copies of the nodes sighted lately, a node is called offline
    only if it was not sighted later than the configured time before. -/
theorem offline_events_lawful {rows : Rows} {happenings : List (Happening F)} (key : (rows.map (·.id)).Nodup)
    (synced : Guarded (Watch.step e) (Synced e) (Watch.opened rows) happenings)
    (run : replay (Watch.step e) (Watch.opened rows) happenings = some s) : Lawful e s := by
  have start : Tracked (Watch.opened rows).rows (Watch.opened rows).copies ∧ Lawful e (Watch.opened rows) :=
    ⟨tracked_opened key, by simp [Lawful, Watch.opened]⟩
  have inv : Tracked s.rows s.copies ∧ Lawful e s :=
    replay_invariant (fun _ _ _ inv synced taken => watch_step inv synced taken) start synced run
  exact inv.2

end Runs

/-! ## A node that keeps announcing itself -/

def startOf2026 : Time := ⟨1767225600 * second⟩

def adoptedRack : NodeRow where
  id := "rack"
  instance_ := "rack"
  hostname := "rack.local"
  address := "10.0.0.7"
  port := 8080
  version := "1.0.0"
  upsCount := 1
  adopted := true
  adoptedAt := "2025-12-31T23:59:59Z"
  lastSeen := "2026-01-01T00:00:00Z"

/-- The node is sighted, so many seconds later. -/
def sightedAfter (seconds : Int) : Happening Int := .sighted { id := "rack", seen := startOf2026.add (seconds * second) }

/-- An evaluation, so many seconds later, of a rule about offline nodes. -/
def evaluatedAfter (seconds : Int) : Happening Int :=
  .evaluate { world :=
    { rules := [{ id := 1, kind := kindNodeOffline, webhookURL := "https://alerts.example"
                  debounceSeconds := 300, enabled := true, createdAt := Time.zero }]
      clock := fun _ => startOf2026.add (seconds * second) } }

/-- Sightings every half minute and no request. -/
def unattended : List (Happening Int) := [sightedAfter 30, sightedAfter 60, evaluatedAfter 60]

/-- The same with a request after the sightings. -/
def attended : List (Happening Int) :=
  [sightedAfter 30, sightedAfter 60, .request .discover, .turn ⟨0, answering⟩, .turn ⟨0, answering⟩,
    .turn ⟨0, answering⟩, evaluatedAfter 60]

theorem offline_events_lawful_if_attended :
    ∃ s, replay (Watch.step integerEngine) (Watch.opened [adoptedRack]) attended = some s ∧
      Lawful integerEngine s := by
  have synced : Guarded (Watch.step integerEngine) (Synced integerEngine) (Watch.opened [adoptedRack]) attended := by
    decide +kernel
  have runs : (replay (Watch.step integerEngine) (Watch.opened [adoptedRack]) attended).isSome := by
    decide +kernel
  obtain ⟨s, run⟩ := Option.isSome_iff_exists.mp runs
  exact ⟨s, run, offline_events_lawful (by decide) synced run⟩

/-- The node is called offline at the very time of a sighting. -/
theorem sighted_node_called_offline :
    ¬ ∀ (e : Engine Int) (rows : Rows) (happenings : List (Happening Int)) (s : Watch), (rows.map (·.id)).Nodup →
      replay (Watch.step e) (Watch.opened rows) happenings = some s → Lawful e s := by
  intro claim
  have unlawful : ∀ s ∈ replay (Watch.step integerEngine) (Watch.opened [adoptedRack]) unattended,
      ¬ Lawful integerEngine s := by decide +kernel
  have runs : (replay (Watch.step integerEngine) (Watch.opened [adoptedRack]) unattended).isSome := by
    decide +kernel
  obtain ⟨s, run⟩ := Option.isSome_iff_exists.mp runs
  exact unlawful s run (claim _ _ _ s (by decide) run)

end Strom.Alerts
