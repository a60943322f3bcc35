import Strom.Alerts.Offline

/-!
# Whether a node is online (`toNodeResponse`, `buildMQTTSnapshots`)

The node API calls an adopted node online where the browser knows it, and the browser forgets
no node that it has sighted.  MQTT calls it online for 45 seconds after the time that was
stored for it last, which a request to the API has copied from the browser.  They agree where
a sighted node has a recent copy and a node that was never sighted has none
(`node_status_agrees_iff`), and so no longer than 45 seconds after the last sighting.
-/

namespace Strom.Handlers

open Strom.Go Strom.Effects Strom.Registry Strom.Adoption Strom.Alerts

/-! ## The two answers -/

/-- An operation of a request while nothing is sighted. -/
def serve (browser : List Sighting) (op : ControllerOp) (choice : Choice) (rows : Rows) : op.Reply × Rows :=
  Watch.perform { browser, rows, copies := [] } choice op

/-- What the node API answers about a node. -/
def nodeAnswer (s : Watch) (id : String) (choices : Nat → Choice) : Except AdoptError NodeResponse :=
  ((buildNodeResponse id).exec (guide (serve s.browser)) { state := s.rows, choices }).1

/-- The field `Online` of `buildMQTTSnapshots`. -/
def online (now : Time) (node : AlertNode) : Bool := !node.lastSeen.isZero && now.sub node.lastSeen ≤ 45 * second

/-- The availability of the adopted nodes, where the registry can read them. -/
def availability (commsState : String → String) (now : Time) (rows : Rows) : Option (List (String × Bool)) :=
  (listAdoptedNodes commsState rows).map (·.map fun node => (node.id, online now node))

/-! ## The answer of the API -/

/-- There is a row of a node, and the node is adopted. -/
def IsAdopted (id : String) (rows : Rows) : Prop :=
  (∃ row ∈ rows, row.id = id) ∧ ∀ row ∈ rows, row.id = id → row.adopted = true

section Api

variable {id : String} {rows : Rows} {browser : List Sighting}

/-- No discovery touches the flag of a row. -/
theorem IsAdopted.upserted (adopted : IsAdopted id rows) (node : DiscoveredNode) :
    IsAdopted id (upsertDiscoveredNode node rows).2 := by
  obtain ⟨⟨row, member, same⟩, all⟩ := adopted
  unfold upsertDiscoveredNode
  split
  · exact ⟨⟨row, member, same⟩, all⟩
  split
  · constructor
    · by_cases found : row.id = node.id
      · exact ⟨row.rediscovered node, mem_update.mpr (.inr ⟨row, member, found, rfl⟩), same⟩
      · exact ⟨row, mem_update.mpr (.inl ⟨member, found⟩), same⟩
    · intro other inside named
      obtain ⟨before, -⟩ | ⟨old, before, -, rfl⟩ := mem_update.mp inside
      · exact all other before named
      · exact all old before named
  · next missing =>
    constructor
    · exact ⟨row, List.mem_append_left _ member, same⟩
    · intro other inside named
      obtain before | new := List.mem_append.mp inside
      · exact all other before named
      · -- a new row is not that of the node, which has one
        rw [List.mem_singleton.mp new] at named
        exact absurd (find_isSome.mpr ⟨row, member, same.trans named.symm⟩) missing

theorem IsAdopted.statement (adopted : IsAdopted id rows) (choice : Choice) (node : DiscoveredNode) :
    IsAdopted id (choice.statement rows (upsertDiscoveredNode node rows)).2 := by
  have upserted := adopted.upserted node
  unfold Choice.statement
  split
  · exact upserted
  · next applied _ _ =>
    cases applied
    · exact adopted
    · exact upserted

/-- The operations of a request about a node leave it adopted. -/
def Asking : ControllerOp → Prop
  | .listNodes | .snapshot | .upsertDiscoveredNode _ | .getNode _ | .listNodeUPSSummaries _ => True
  | _ => False

theorem isAdopted_serve (op : ControllerOp) (choice : Choice) (asking : Asking op) (adopted : IsAdopted id rows) :
    IsAdopted id (serve browser op choice rows).2 := by
  cases op with
  | upsertDiscoveredNode node => exact adopted.statement choice node
  | listNodes | snapshot | getNode | listNodeUPSSummaries => exact adopted
  | _ => exact asking.elim

theorem asking_upsertAll (lives : List LiveNode) : Action.Only Asking (upsertAll lives) := by
  induction lives with
  | nil => exact Action.only_pure ()
  | cons live rest ih => exact (only_statement rfl trivial).bind fun _ => ih

theorem asking_syncLiveNodes : Action.Only Asking syncLiveNodes := by
  apply (only_statement rfl trivial).bind
  intro _
  apply (only_always trivial).bind
  intro lives
  exact asking_upsertAll lives

/-- The snapshot of a browser has a node with an id where the browser has one. -/
theorem find_snapshot (browser : List Sighting) (now : String) (id : String) :
    ((snapshot browser now).find? fun live => live.discovered.id = id).isSome = true ↔ id ∈ browser.map (·.id) := by
  rw [List.find?_isSome]
  constructor
  · intro found
    obtain ⟨live, inside, same⟩ := found
    obtain ⟨s, member, rfl⟩ := List.mem_map.mp inside
    rw [List.mem_insertionSort] at member
    exact List.mem_map.mpr ⟨s, member, of_decide_eq_true same⟩
  · intro found
    obtain ⟨s, member, same⟩ := List.mem_map.mp found
    refine ⟨s.live now, List.mem_map.mpr ⟨s, ?_, rfl⟩, decide_eq_true same⟩
    rwa [List.mem_insertionSort]

theorem status_toNodeResponse {row : NodeRow} (adopted : row.adopted = true) (live : Option LiveNode) :
    (toNodeResponse row live).status = "adopted-online" ↔ live.isSome = true := by
  unfold toNodeResponse
  rw [if_pos adopted]
  cases live <;> simp

/-- The row that the registry finds is that of an adopted node. -/
theorem triple_getNode (id : String) (browser : List Sighting) :
    Action.Triple (serve browser) (IsAdopted id) (statement (.getNode id) rfl : ControllerAction NodeRow)
      fun result _ => ∀ row, result = .ok row → row.adopted = true := by
  have found : Program.Triple (serve browser) (IsAdopted id) (Program.perform (ControllerOp.getNode id))
      fun reply _ => ∀ row, (reply : Except RegistryError NodeRow) = .ok row → row.adopted = true := by
    apply Program.triple_perform
    intro choice rows adopted row answered
    simp only [serve, Watch.perform, Adoption.perform] at answered
    split at answered
    · unfold getNode at answered
      split at answered
      · next first search =>
        cases answered
        have own := List.find?_some search
        exact adopted.2 row (List.mem_of_find?_eq_some search) (of_decide_eq_true own)
      · cases answered
    · cases answered
  apply found.bind
  intro reply
  apply Program.triple_ret
  intro rows adopted row answered
  cases reply with
  | error cause => cases answered
  | ok first =>
    cases answered
    exact adopted row rfl

/-- An adopted node is online exactly if the browser has it. -/
theorem triple_buildNodeResponse (id : String) (browser : List Sighting) :
    Action.Triple (serve browser) (IsAdopted id) (buildNodeResponse id) fun result _ =>
      ∀ response, result = .ok response → (response.status = "adopted-online" ↔ id ∈ browser.map (·.id)) := by
  have synced : Action.Triple (serve browser) (IsAdopted id) syncLiveNodes fun _ => IsAdopted id :=
    Program.Only.triple asking_syncLiveNodes fun op choice _ asking => isAdopted_serve op choice asking
  apply synced.bind
  · intro _
    apply (triple_getNode id browser).bind
    · intro row
      apply Action.Triple.bind_always (R := fun lives _ => row.adopted = true ∧ ∃ now, lives = snapshot browser now)
      · apply Program.triple_perform
        intro choice rows adopted
        exact ⟨adopted row rfl, choice.now, rfl⟩
      · intro lives
        have summaries : Action.Triple (serve browser)
            (fun _ => row.adopted = true ∧ ∃ now, lives = snapshot browser now)
            (statement (.listNodeUPSSummaries row.id) rfl : ControllerAction Unit)
            fun _ _ => row.adopted = true ∧ ∃ now, lives = snapshot browser now := by
          constructor
          intro g known
          exact known
        apply summaries.bind
        · intro _
          apply Action.triple_pure
          intro rows known response answered
          obtain ⟨adopted, now, rfl⟩ := known
          cases answered
          rw [status_toNodeResponse adopted, find_snapshot]
        · intro cause rows _ response answered
          cases answered
    · intro cause rows _ response answered
      cases answered
  · intro cause rows _ response answered
    cases answered

end Api

/-! ## Runs -/

section Runs

variable {F : Type} {e : Engine F} {s : Watch} {rows : Rows}

/-- The browser has exactly the nodes that were sighted. -/
def Kept (s : Watch) : Prop := ∀ id, id ∈ s.browser.map (·.id) ↔ id ∈ s.sightings.map (·.1)

theorem ids_record (nodes : List Sighting) (seen : Sighting) (id : String) :
    id ∈ (record nodes seen).map (·.id) ↔ id = seen.id ∨ id ∈ nodes.map (·.id) := by
  simp only [record, List.map_append, List.mem_append, List.mem_map, List.mem_filter, List.mem_singleton]
  constructor
  · intro found
    obtain ⟨node, ⟨member, -⟩, same⟩ | ⟨node, rfl, same⟩ := found
    · exact .inr ⟨node, member, same⟩
    · exact .inl same.symm
  · intro found
    obtain rfl | ⟨node, member, same⟩ := found
    · exact .inr ⟨seen, rfl, rfl⟩
    · by_cases replaced : node.id = seen.id
      · exact .inr ⟨seen, rfl, replaced.symm.trans same⟩
      · exact .inl ⟨node, ⟨member, decide_eq_true replaced⟩, same⟩

/-- The id is the key of the table. -/
def Keyed (rows : Rows) : Prop := (rows.map (·.id)).Nodup

theorem Keyed.update (keyed : Keyed rows) (id : String) {set : NodeRow → NodeRow}
    (keeps : ∀ row, (set row).id = row.id) : Keyed (update rows id set) := by
  have same : (Registry.update rows id set).map (·.id) = rows.map (·.id) := by
    simp only [Registry.update, List.map_map]
    apply List.map_congr_left
    intro row _
    simp only [Function.comp_apply]
    split
    · exact keeps row
    · rfl
  rw [Keyed, same]
  exact keyed

theorem Keyed.affecting (keyed : Keyed rows) {id : String} {changed : Rows} (after : Keyed changed) :
    Keyed (affecting rows id changed).2 := by
  unfold Registry.affecting
  split
  · exact after
  · exact keyed

theorem Keyed.upserted (keyed : Keyed rows) (node : DiscoveredNode) : Keyed (upsertDiscoveredNode node rows).2 := by
  unfold upsertDiscoveredNode
  split
  · exact keyed
  split
  · exact keyed.update node.id fun _ => rfl
  · next missing =>
    have new : ∀ row ∈ rows, row.id ≠ node.id := by
      intro row member same
      exact missing (find_isSome.mpr ⟨row, member, same⟩)
    rw [Keyed, List.map_append, List.nodup_append]
    refine ⟨keyed, List.nodup_singleton _, ?_⟩
    intro id old other single
    obtain ⟨row, member, rfl⟩ := List.mem_map.mp old
    rw [List.mem_singleton.mp single]
    exact new row member

theorem Keyed.statement (keyed : Keyed rows) (choice : Choice) {outcome : Except RegistryError Unit × Rows}
    (after : Keyed outcome.2) : Keyed (choice.statement rows outcome).2 := by
  unfold Choice.statement
  split
  · exact after
  · next applied _ _ =>
    cases applied
    · exact keyed
    · exact after

theorem Keyed.perform (keyed : Keyed s.rows) (choice : Choice) (op : ControllerOp) :
    Keyed (s.perform choice op).2 := by
  cases op with
  | saveNodeTrust id trust =>
    exact keyed.statement choice (keyed.affecting (keyed.update id fun _ => rfl))
  | setNodeAdopted id adopted =>
    exact keyed.statement choice (keyed.affecting (keyed.update id fun _ => rfl))
  | deleteNode id =>
    have left : Keyed (s.rows.filter fun row => row.id ≠ id) := List.Nodup.sublist (List.filter_sublist.map _) keyed
    exact keyed.statement choice (keyed.affecting left)
  | upsertDiscoveredNode node => exact keyed.statement choice (keyed.upserted node)
  | _ => exact keyed

/-- What holds in every state of a run. -/
structure Invariant (s : Watch) : Prop where
  kept : Kept s
  keyed : Keyed s.rows
  tracked : Tracked s.rows s.copies

theorem invariant_step {happening : Happening F} {s' : Watch} (inv : Invariant s)
    (taken : s.step e happening = some s') : Invariant s' := by
  obtain ⟨kept, keyed, tracked⟩ := inv
  cases happening with
  | sighted seen =>
    cases taken
    refine ⟨?_, keyed, tracked⟩
    intro id
    rw [ids_record, kept id, List.map_cons, List.mem_cons]
  | request task =>
    cases taken
    exact ⟨kept, keyed, tracked⟩
  | turn turn =>
    simp only [Watch.step] at taken
    split at taken
    · cases taken
      exact ⟨kept, keyed.perform _ _, tracked.perform _⟩
    · cases taken
  | evaluate evaluation =>
    cases taken
    exact ⟨kept, keyed, tracked⟩

theorem invariant_of_run {happenings : List (Happening F)} (key : (rows.map (·.id)).Nodup)
    (run : replay (Watch.step e) (Watch.opened rows) happenings = some s) : Invariant s := by
  have start : Invariant (Watch.opened rows) := ⟨fun _ => Iff.rfl, key, tracked_opened key⟩
  exact replay_preserves (fun _ _ _ inv taken => invariant_step inv taken) start run

/-- The time that was stored for a node last is at most 45 seconds ago. -/
def FreshCopy (s : Watch) (id : String) (now : Time) : Prop :=
  ∃ text ∈ s.copies.lookup id, ∃ copy ∈ parseRFC3339 text, copy.isZero = false ∧ now.sub copy ≤ 45 * second

/-- MQTT calls a node online by the text of its row. -/
theorem online_iff_freshCopy {node : AlertNode} {text : String} {now : Time}
    (copy : s.copies.lookup node.id = some text) (parsed : parseRFC3339 text = some node.lastSeen) :
    online now node = true ↔ FreshCopy s node.id now := by
  constructor
  · intro isOnline
    obtain ⟨nonzero, recent⟩ := Bool.and_eq_true_iff.mp isOnline
    exact ⟨text, copy, node.lastSeen, parsed, by simpa using nonzero, of_decide_eq_true recent⟩
  · intro fresh
    obtain ⟨stored, found, time, read, nonzero, recent⟩ := fresh
    obtain rfl := Option.some.inj (copy.symm.trans found)
    obtain same := Option.some.inj (parsed.symm.trans read)
    rw [online, same, nonzero, Bool.not_false, Bool.true_and]
    exact decide_eq_true recent

/-- A node that was sighted has a fresh copy, and one that was never sighted has none. -/
def Consistent (s : Watch) (id : String) (now : Time) : Prop :=
  id ∈ s.sightings.map (·.1) ∧ FreshCopy s id now ∨ id ∉ s.sightings.map (·.1) ∧ ¬ FreshCopy s id now

/-- In every state that a run of sightings and requests reaches from any table, and at every
    time: where the API answers about an adopted node and its availability can be computed, the
    two agree exactly if a sighted node has a fresh copy and one never sighted has none. -/
theorem node_status_agrees_iff {happenings : List (Happening F)} (key : (rows.map (·.id)).Nodup)
    (run : replay (Watch.step e) (Watch.opened rows) happenings = some s) {id : String} {now : Time}
    {choices : Nat → Choice} {response : NodeResponse} (answered : nodeAnswer s id choices = .ok response)
    {commsState : String → String} {nodes : List (String × Bool)} {isOnline : Bool}
    (computed : availability commsState now s.rows = some nodes) (listed : (id, isOnline) ∈ nodes) :
    (response.status = "adopted-online" ↔ isOnline = true) ↔ Consistent s id now := by
  obtain ⟨kept, keyed, tracked⟩ := invariant_of_run key run
  obtain ⟨found, all, rfl⟩ := Option.map_eq_some_iff.mp computed
  obtain ⟨node, inside, same⟩ := List.mem_map.mp listed
  obtain ⟨row, member, adopted, own, parsed⟩ := row_of_listed all inside
  obtain ⟨rfl, rfl⟩ : node.id = id ∧ online now node = isOnline := by simpa using same
  -- the row is the only one with its id
  have isAdopted : IsAdopted node.id s.rows := by
    refine ⟨⟨row, member, own⟩, ?_⟩
    intro other inside' named
    rw [List.inj_on_of_nodup_map keyed inside' member (named.trans own.symm)]
    exact adopted
  have api := (triple_buildNodeResponse node.id s.browser).run { state := s.rows, choices } isAdopted
  unfold nodeAnswer Action.exec at answered
  replace api := api response answered
  have copy : s.copies.lookup node.id = some row.lastSeen := by
    rw [← own]
    exact tracked row member
  have mqtt : online now node = true ↔ FreshCopy s node.id now := online_iff_freshCopy copy parsed
  rw [kept] at api
  rw [api, mqtt, Consistent]
  by_cases sighted : node.id ∈ s.sightings.map (·.1) <;> simp only [sighted, true_and, false_and, not_true_eq_false,
    not_false_eq_true, true_iff, false_iff, or_false, false_or]

end Runs

/-! ## A node that has left -/

/-- The state after the last sighting, 60 seconds into the year, and a request. -/
def attendedState : Watch :=
  (replay (Watch.step integerEngine) (Watch.opened [adoptedRack]) attended).getD (Watch.opened [])

def afterSeconds (seconds : Int) : Time := startOf2026.add (seconds * second)

theorem attended_run : replay (Watch.step integerEngine) (Watch.opened [adoptedRack]) attended = some attendedState := by
  have runs : (replay (Watch.step integerEngine) (Watch.opened [adoptedRack]) attended).isSome := by
    decide +kernel
  obtain ⟨s, run⟩ := Option.isSome_iff_exists.mp runs
  rw [attendedState, run, Option.getD_some]

/-- The answer of the API and the availability, so many seconds into the year. -/
def answersAt (s : Watch) (seconds : Int) : Option String × Option (List (String × Bool)) :=
  ((nodeAnswer s "rack" fun _ => answering).toOption.map (·.status), availability (fun _ => "") (afterSeconds seconds) s.rows)

theorem node_status_agrees_iff_if_attended :
    ∃ response, nodeAnswer attendedState "rack" (fun _ => answering) = .ok response ∧
      ((response.status = "adopted-online" ↔ true = true) ↔ Consistent attendedState "rack" (afterSeconds 60)) := by
  have answers : answersAt attendedState 60 = (some "adopted-online", some [("rack", true)]) := by
    decide +kernel
  obtain ⟨status, computed⟩ := Prod.mk.inj answers
  cases answered : nodeAnswer attendedState "rack" fun _ => answering with
  | error cause => simp [answered, Except.toOption] at status
  | ok response =>
    have listed : ("rack", true) ∈ [("rack", true)] := List.mem_singleton_self _
    exact ⟨response, rfl, node_status_agrees_iff (by decide) attended_run answered computed listed⟩

/-- 46 seconds after the last sighting the API still calls the node online. -/
theorem node_online_in_api_only :
    replay (Watch.step integerEngine) (Watch.opened [adoptedRack]) attended = some attendedState ∧
      answersAt attendedState 106 = (some "adopted-online", some [("rack", false)]) := by
  have answers : answersAt attendedState 106 = (some "adopted-online", some [("rack", false)]) := by
    decide +kernel
  exact ⟨attended_run, answers⟩

end Strom.Handlers
