import Strom.Agent.Phases

/-!
# The advertised adoption over restarts

Runs of the agent with starts, stops and resets.  The advertiser of a process says
that the node is adopted if and only if `adoption.json` holds an adoption state, as
long as the process finds none at its start and no adoption fails between the two
(`advertised_iff_stored`).
-/

namespace Strom.Agent

open Strom.Go Strom.Effects Strom.Nutconf Strom.Adoption

/-! ## The condition -/

def Site.advertises (site : Site) : Bool := site.advertiser.metadata.adopted

/-- What may happen to an operation of an adoption.  `alone` is whether no other adoption is in
    progress. -/
def Site.allows (site : Site) (alone : Bool) (chance : Chance) : AgentOp → Bool
  | .truncate .adoption => !(site.node.storesAdoption && chance.fault.any Fault.applied)
  | .write .adoption _ =>
    match chance.fault with
    | none => !chance.leavesEnd || site.node.files .adoption = some .empty
    | some fault => !fault.applied && !site.advertises && alone
  | .updateAdopted _ => site.wired
  | op => !op.announces || chance.fault.isNone || site.advertises

def allowsTurn (pool : SitePool) (turn : Turn Chance) : Bool :=
  match pool.threads[turn.thread]? with
  | some { task := .adopt _, rest := .call op _ } =>
    pool.state.allows (!adopting (pool.threads.eraseIdx turn.thread)) turn.choice op
  | _ => true

/-- The agent starts without a recorded adoption, `strom-agent reset` finds none at a running
    agent, and no adoption is interrupted between the two. -/
def Careful : Host → HostStep → Bool
  | .down node, .boot marker faults _ _ =>
    !(startup marker faults node).2 || !(startup marker faults node).1.storesAdoption
  | .up pool, .reset _ =>
    pool.state.node.files .adoption = none ||
      !pool.state.node.storesAdoption && !adopting pool.threads
  | .up pool, .turn turn => allowsTurn pool turn
  | _, _ => true

section Performed

variable {op : AgentOp} {chance : Chance} {site site' : Site}

theorem perform_calm {reply : op.Reply} (calm : op.calm = true)
    (performed : site.perform op chance = (reply, site')) :
    site'.node.files .adoption = site.node.files .adoption ∧ site'.advertiser = site.advertiser := by
  have apart : op.changes? ≠ some .adoption := by
    cases op with
    | truncate file | write file content | rename file content =>
      cases file <;> simp_all [AgentOp.calm, AgentOp.changes?]
    | _ => simp [AgentOp.changes?]
  have unheard : site.advertiser.hear op = site.advertiser := by
    cases op <;> simp_all [Advertiser.hear, AgentOp.calm]
  unfold Site.perform at performed
  split at performed <;> cases performed
  · exact ⟨rfl, rfl⟩
  · exact ⟨perform_keeps_file apart _ _, unheard⟩

/-- An operation on a file, seen at the node. -/
theorem perform_unwired {reply : op.Reply} (free : op.needsWiring = false)
    (performed : site.perform op chance = (reply, site')) :
    perform op chance site.node = (reply, site'.node) ∧ site'.advertiser = site.advertiser.hear op := by
  unfold Site.perform at performed
  simp only [free, Bool.false_and, Bool.false_eq_true, if_false] at performed
  cases performed
  exact ⟨rfl, rfl⟩

theorem storesAdoption_congr {node node' : Node}
    (same : node'.files .adoption = node.files .adoption) :
    node'.storesAdoption = node.storesAdoption := by
  unfold Node.storesAdoption
  rw [same]

theorem storesAdoption_of_emptied {node : Node} (emptied : node.files .adoption = some .empty) :
    node.storesAdoption = false := by
  simp [Node.storesAdoption, emptied, Content.empty]

/-- A call that fails did so by a fault. -/
theorem faulted_of_refused {reply : op.Reply} (announces : op.announces = true)
    (refused : op.refused reply = true) (performed : site.perform op chance = (reply, site')) :
    chance.fault ≠ none := by
  intro calm
  unfold Site.perform at performed
  cases op with
  | readFile file =>
    cases file <;> simp [AgentOp.announces] at announces
    cases holds : site.node.files .upsdUsers <;>
      simp [AgentOp.needsWiring, perform_readFile, Chance.call_of_none calm, holds] at performed <;>
      simp [← performed.1, AgentOp.refused, GoError.isNotExist] at refused
  | mkdirAll file | stageTemp file content | rename file content | chmod file =>
    simp [AgentOp.needsWiring, Chance.call_of_none calm, Chance.atomic_of_none calm] at performed
    simp [← performed.1, AgentOp.refused] at refused
  | systemctl action unit =>
    cases wired : site.wired <;>
      simp [AgentOp.needsWiring, wired, AgentOp.skipped, Chance.atomic_of_none calm] at performed <;>
      simp [← performed.1, AgentOp.refused] at refused
  | _ => cases announces

end Performed

/-! ## The invariant -/

/-- The adoption is announced, or will be. -/
def Announced (places : List (Task × Phase)) (site : Site) : Prop :=
  site.advertises = true ∨ ∃ task, (task, Phase.recorded) ∈ places

def Opened (places : List (Task × Phase)) : Prop := ∃ task first, (task, Phase.opened first) ∈ places

structure Consistent (places : List (Task × Phase)) (site : Site) : Prop where
  sound : site.advertiser.Sound
  kept : Announced places site → site.node.storesAdoption = true ∨ Opened places
  stored : site.node.storesAdoption = true → Announced places site
  known : ∀ (task : Task) (phase : Phase), (task, phase) ∈ places →
    phase = .known ∨ phase = .opened false → Announced places site
  events : ∀ phase, (Task.event, phase) ∈ places → phase = .finished

section Turns

variable {places : List (Task × Phase)} {site site' : Site} {i : Nat} {task : Task}
  {phase phase' : Phase}

/-- A place is the one that changes, or it is there as before. -/
theorem mem_places_set {place : Task × Phase} (member : place ∈ places.set i (task, phase')) :
    place = (task, phase') ∨ place ∈ places :=
  (List.mem_or_eq_of_mem_set member).symm

theorem mem_set_of_mem {place : Task × Phase} (found : places[i]? = some (task, phase))
    (member : place ∈ places) (new : Task × Phase) :
    place ∈ places.set i new ∨ place = (task, phase) := by
  obtain stays | here := mem_set_or_getElem? member i new
  · exact .inl stays
  · exact .inr (Option.some.inj (here.symm.trans found))

theorem mem_set_self {new : Task × Phase} (found : places[i]? = some (task, phase)) :
    new ∈ places.set i new :=
  List.mem_set (List.getElem?_eq_some_iff.mp found).1 _

theorem Announced.advance (announced : Announced places site) (found : places[i]? = some (task, phase))
    (told : site.advertises = true → site'.advertises = true)
    (mine : phase = .recorded → site'.advertises = true) :
    Announced (places.set i (task, phase')) site' := by
  obtain advertised | ⟨other, member⟩ := announced
  · exact .inl (told advertised)
  · obtain stays | same := mem_set_of_mem found member (task, phase')
    · exact .inr ⟨other, stays⟩
    · cases same
      exact .inl (mine rfl)

theorem Announced.before (announced : Announced (places.set i (task, phase')) site')
    (told : site'.advertises = site.advertises) (mine : phase' ≠ .recorded) :
    Announced places site := by
  obtain advertised | ⟨other, member⟩ := announced
  · exact .inl (told.symm.trans advertised)
  · obtain same | member := mem_places_set member
    · cases same
      exact (mine rfl).elim
    · exact .inr ⟨other, member⟩

theorem Opened.advance (opened : Opened places) (found : places[i]? = some (task, phase))
    (mine : ∀ first, phase ≠ .opened first) : Opened (places.set i (task, phase')) := by
  obtain ⟨other, first, member⟩ := opened
  obtain stays | same := mem_set_of_mem found member (task, phase')
  · exact ⟨other, first, stays⟩
  · cases same
    exact (mine first rfl).elim

theorem events_set {req : AdoptRequest} (consistent : Consistent places site) :
    ∀ phase, (Task.event, phase) ∈ places.set i (.adopt req, phase') → phase = .finished := by
  intro phase member
  obtain same | member := mem_places_set member
  · cases same
  · exact consistent.events phase member

/-- An adoption goes on or gives up, and neither the file nor the advertiser changes. -/
theorem consistent_quiet {req : AdoptRequest} (consistent : Consistent places site)
    (found : places[i]? = some (.adopt req, phase))
    (file : site'.node.storesAdoption = site.node.storesAdoption)
    (same : site'.advertiser = site.advertiser) (unbusy : phase.busy = false)
    (idle : phase'.busy = false)
    (knows : phase' = .known → phase = .known ∨ site.node.storesAdoption = true) :
    Consistent (places.set i (.adopt req, phase')) site' := by
  have told : site'.advertises = site.advertises := by simp [Site.advertises, same]
  have forth : Announced places site → Announced (places.set i (.adopt req, phase')) site' := by
    intro announced
    refine announced.advance found (fun advertised => told.trans advertised) ?_
    rintro rfl
    cases unbusy
  constructor
  · rw [same]
    exact consistent.sound
  · intro announced
    rw [file]
    have unrecorded : phase' ≠ .recorded := by
      rintro rfl
      cases idle
    refine (consistent.kept (announced.before told unrecorded)).imp_right fun opened => ?_
    refine opened.advance found ?_
    rintro first rfl
    cases unbusy
  · intro stored
    exact forth (consistent.stored (file ▸ stored))
  · intro other phase'' member about
    obtain mine | member := mem_places_set member
    · cases mine
      obtain rfl | rfl := about
      · obtain rfl | stored := knows rfl
        · exact forth (consistent.known _ _ (List.mem_of_getElem? found) (.inl rfl))
        · exact forth (consistent.stored stored)
      · cases idle
    · exact forth (consistent.known _ _ member about)
  · exact events_set consistent

theorem consistent_same (consistent : Consistent places site)
    (file : site'.node.storesAdoption = site.node.storesAdoption)
    (same : site'.advertiser = site.advertiser) : Consistent places site' := by
  have iff : Announced places site' ↔ Announced places site := by
    simp [Announced, Site.advertises, same]
  constructor
  · rw [same]
    exact consistent.sound
  · rw [iff, file]
    exact consistent.kept
  · rw [iff, file]
    exact consistent.stored
  · intro other phase'' member about
    exact iff.mpr (consistent.known other phase'' member about)
  · exact consistent.events

theorem consistent_opens {req : AdoptRequest} {first : Bool} (consistent : Consistent places site)
    (found : places[i]? = some (.adopt req, phase)) (unbusy : phase.busy = false)
    (knows : first = false → phase = .known) (emptied : site'.node.storesAdoption = false)
    (same : site'.advertiser = site.advertiser) :
    Consistent (places.set i (.adopt req, .opened first)) site' := by
  have told : site'.advertises = site.advertises := by simp [Site.advertises, same]
  have forth : Announced places site →
      Announced (places.set i (.adopt req, .opened first)) site' := by
    intro announced
    refine announced.advance found (fun advertised => told.trans advertised) ?_
    rintro rfl
    cases unbusy
  constructor
  · rw [same]
    exact consistent.sound
  · exact fun _ => .inr ⟨_, first, mem_set_self found⟩
  · simp [emptied]
  · intro other phase'' member about
    obtain mine | member := mem_places_set member
    · cases mine
      obtain absurd_ | replays := about
      · cases absurd_
      · cases replays
        exact forth (consistent.known _ _ (List.mem_of_getElem? found) (.inl (knows rfl)))
    · exact forth (consistent.known _ _ member about)
  · exact events_set consistent

theorem consistent_wrote {req : AdoptRequest} {first : Bool} (consistent : Consistent places site)
    (found : places[i]? = some (.adopt req, .opened first))
    (written : site'.node.storesAdoption = true) (same : site'.advertiser = site.advertiser) :
    Consistent (places.set i (.adopt req, if first then .recorded else .finished)) site' := by
  have told : site'.advertises = site.advertises := by simp [Site.advertises, same]
  have announced : Announced (places.set i (.adopt req, if first then .recorded else .finished)) site' := by
    cases first with
    | true => exact .inr ⟨_, mem_set_self found⟩
    | false =>
      -- a replay has read a state that had been announced, or was to be
      have before := consistent.known _ _ (List.mem_of_getElem? found) (.inr rfl)
      exact before.advance found (fun advertised => told.trans advertised) (by simp)
  constructor
  · rw [same]
    exact consistent.sound
  · exact fun _ => .inl written
  · exact fun _ => announced
  · exact fun _ _ _ _ => announced
  · exact events_set consistent

/-- A write that fails where nothing is announced and no other adoption goes on. -/
theorem consistent_unwritten {req : AdoptRequest} {first : Bool} (consistent : Consistent places site)
    (found : places[i]? = some (.adopt req, .opened first))
    (silent : site.advertises = false)
    (alone : ∀ (j : Nat) (task : Task) (phase : Phase), places[j]? = some (task, phase) → j ≠ i →
      phase.busy = false)
    (file : site'.node.storesAdoption = site.node.storesAdoption)
    (same : site'.advertiser = site.advertiser) :
    Consistent (places.set i (.adopt req, .finished)) site' := by
  have unannounced : ¬ Announced places site := by
    rintro (advertised | ⟨other, member⟩)
    · rw [silent] at advertised
      cases advertised
    · obtain ⟨j, at_⟩ := List.mem_iff_getElem?.mp member
      by_cases mine : j = i
      · subst mine
        rw [found] at at_
        cases at_
      · exact absurd (alone j other _ at_ mine) (by simp [Phase.busy])
  have told : site'.advertises = site.advertises := by simp [Site.advertises, same]
  constructor
  · rw [same]
    exact consistent.sound
  · intro announced
    exact (unannounced (announced.before told (by simp))).elim
  · intro stored
    exact (unannounced (consistent.stored (file ▸ stored))).elim
  · intro other phase'' member about
    obtain mine | member := mem_places_set member
    · cases mine
      simp at about
    · exact (unannounced (consistent.known _ _ member about)).elim
  · exact events_set consistent

/-- The announcement is made, or the next step would not have mattered. -/
theorem consistent_announced {req : AdoptRequest} (consistent : Consistent places site)
    (found : places[i]? = some (.adopt req, .recorded)) (sound : site'.advertiser.Sound)
    (advertises : site'.advertises = true)
    (file : site'.node.storesAdoption = site.node.storesAdoption) :
    Consistent (places.set i (.adopt req, .finished)) site' := by
  have announced : Announced (places.set i (.adopt req, .finished)) site' := .inl advertises
  refine ⟨sound, ?_, fun _ => announced, fun _ _ _ _ => announced, events_set consistent⟩
  intro _
  rw [file]
  have before : Announced places site := .inr ⟨_, List.mem_of_getElem? found⟩
  exact (consistent.kept before).imp_right fun opened => opened.advance found (by simp)

theorem consistent_moves {req : AdoptRequest} {op : AgentOp} {reply : op.Reply} {chance : Chance}
    {alone : Bool} (consistent : Consistent places site)
    (found : places[i]? = some (.adopt req, phase)) (moves : Moves phase op reply phase')
    (performed : site.perform op chance = (reply, site'))
    (allowed : site.allows alone chance op = true)
    (others : alone = true → ∀ (j : Nat) (task : Task) (phase : Phase),
      places[j]? = some (task, phase) → j ≠ i → phase.busy = false) :
    Consistent (places.set i (.adopt req, phase')) site' := by
  cases moves with
  | stay phase op reply calm =>
    obtain ⟨file, same⟩ := perform_calm calm performed
    have unmoved : places.set i (.adopt req, phase) = places := by
      obtain ⟨inside, here⟩ := List.getElem?_eq_some_iff.mp found
      rw [← here, List.set_getElem_self]
    rw [unmoved]
    exact consistent_same consistent (storesAdoption_congr file) same
  | read state =>
    obtain ⟨file, same⟩ := perform_calm rfl performed
    refine consistent_quiet consistent found (storesAdoption_congr file) same rfl rfl fun _ => .inr ?_
    have holds := (readFile_ok (perform_unwired rfl performed).1).1
    exact Node.storesAdoption_iff.mpr ⟨state, holds⟩
  | drop reply =>
    obtain ⟨file, same⟩ := perform_calm rfl performed
    exact consistent_quiet consistent found (storesAdoption_congr file) same rfl rfl (by simp)
  | opens phase first knows unbusy =>
    obtain ⟨performed, same⟩ := perform_unwired rfl performed
    exact consistent_opens consistent found unbusy knows
      (storesAdoption_of_emptied (truncate_ok performed)) same
  | unopened phase unbusy e =>
    obtain ⟨performed, same⟩ := perform_unwired rfl performed
    refine consistent_quiet consistent found ?_ same unbusy rfl (by simp)
    cases fault : chance.fault with
    | none => simp [Chance.call_of_none fault] at performed
    | some f =>
      simp only [perform_truncate, Chance.call_of_some fault, Prod.mk.injEq] at performed
      rw [← performed.2]
      cases applied : f.applied with
      | false => rfl
      | true =>
        -- the file is empty now, and held no state before
        have unstored : site.node.storesAdoption = false := by
          simpa [Site.allows, fault, applied] using allowed
        rw [unstored]
        exact storesAdoption_of_emptied (by simp [Node.put])
  | wrote first state =>
    obtain ⟨performed, same⟩ := perform_unwired rfl performed
    refine consistent_wrote consistent found ?_ same
    cases fault : chance.fault with
    | none =>
      simp only [perform_write, Chance.call_of_none fault, Prod.mk.injEq] at performed
      rw [← performed.2, Node.storesAdoption_iff]
      refine ⟨state, ?_⟩
      have whole : chance.leavesEnd = false ∨ site.node.files .adoption = some .empty := by
        simpa [Site.allows, fault] using allowed
      obtain clean | emptied := whole
      · simp [Node.put, Chance.written, clean]
      · simp [Node.put, Chance.written, emptied]
    | some f => simp [Chance.call_of_some fault] at performed
  | unwritten first state e =>
    obtain ⟨performed, same⟩ := perform_unwired rfl performed
    cases fault : chance.fault with
    | none => simp [Chance.call_of_none fault] at performed
    | some f =>
      have condition : (f.applied = false ∧ site.advertises = false) ∧ alone = true := by
        simpa [Site.allows, fault] using allowed
      obtain ⟨⟨unapplied, silent⟩, alone_⟩ := condition
      simp only [perform_write, Chance.call_of_some fault, unapplied, Bool.false_eq_true, if_false,
        Prod.mk.injEq] at performed
      refine consistent_unwritten consistent found silent (others alone_) ?_ same
      rw [← performed.2]
  | announce =>
    have wired : site.wired = true := allowed
    unfold Site.perform at performed
    simp only [wired, Bool.not_true, Bool.and_false, Bool.false_eq_true, if_false] at performed
    cases performed
    refine consistent_announced consistent found ?_ ?_ ?_
    · exact Advertiser.sound_updateAdopted consistent.sound true
    · exact Advertiser.updateAdopted_adopted true
    · rfl
  | fail op reply announces refused =>
    obtain ⟨file, same⟩ := perform_calm (calm_of_announces announces) performed
    have faulted := faulted_of_refused announces refused performed
    have advertises : site.advertises = true := by
      cases op with
      | readFile file | mkdirAll file | stageTemp file content | rename file content | chmod file =>
        cases file <;> simp_all [Site.allows, AgentOp.announces]
      | systemctl action unit => simp_all [Site.allows, AgentOp.announces]
      | _ => cases announces
    refine consistent_announced consistent found ?_ ?_ (storesAdoption_congr file)
    · rw [same]
      exact consistent.sound
    · simpa [Site.advertises, same] using advertises

end Turns

/-! ## Hosts -/

abbrev Phased (places : List (Task × Phase)) (threads : List (Thread Task AgentOp AgentOp.Reply)) : Prop :=
  Runtime.Staged Task.turns (fun _ phase => Idle phase) places threads

/-- The invariant of a host, with the phases of its threads. -/
def Host.Consistent : Host → Prop
  | .down _ => True
  | .up pool => ∃ places, Phased places pool.threads ∧ Agent.Consistent places pool.state

section Hosts

variable {a : RuntimeAdopter} {places : List (Task × Phase)} {pool : SitePool}

/-- A thread that is no adoption in progress is in no phase where it may not stop. -/
theorem idle_of_through (consistent : Consistent places pool.state) {task : Task} {phase : Phase}
    {thread : Thread Task AgentOp AgentOp.Reply} (member : (task, phase) ∈ places)
    (here : Runtime.At Task.turns (fun _ phase => Idle phase) (task, phase) thread)
    (through : (thread.task.isAdopt && thread.op?.isSome) = false) : phase.busy = false := by
  cases task with
  | event =>
    rw [consistent.events phase member]
    rfl
  | adopt req =>
    have ended : thread.op? = none := by
      simpa [here.task, Task.isAdopt] using through
    exact here.op?_eq_none ended

theorem idle_of_alone (phased : Phased places pool.threads) (consistent : Consistent places pool.state)
    {i : Nat} (alone : (!adopting (pool.threads.eraseIdx i)) = true) (j : Nat) (task : Task)
    (phase : Phase) (found : places[j]? = some (task, phase)) (other : j ≠ i) : phase.busy = false := by
  obtain ⟨inside, at_⟩ := List.getElem?_eq_some_iff.mp found
  have inside' : j < pool.threads.length := by
    rw [← phased.length_eq]
    exact inside
  have here : Runtime.At Task.turns (fun _ phase => Idle phase) (task, phase) pool.threads[j] := by
    rw [← at_]
    simpa using phased.get inside inside'
  have member : pool.threads[j] ∈ pool.threads.eraseIdx i :=
    List.mem_eraseIdx_iff_getElem.mpr ⟨j, inside', other, rfl⟩
  refine idle_of_through consistent (List.mem_of_getElem? found) here ?_
  have quiet : adopting (pool.threads.eraseIdx i) = false := by simpa using alone
  simpa using List.any_eq_false.mp quiet _ member

theorem idle_of_idle (phased : Phased places pool.threads) (consistent : Consistent places pool.state)
    (idle : adopting pool.threads = false) {task : Task} {phase : Phase}
    (member : (task, phase) ∈ places) : phase.busy = false := by
  obtain ⟨thread, among, here⟩ := Runtime.staged_mem phased member
  exact idle_of_through consistent member here (by simpa using List.any_eq_false.mp idle _ among)

/-- What is announced is recorded, when no adoption is in progress. -/
theorem advertises_iff (phased : Phased places pool.threads) (consistent : Consistent places pool.state)
    (idle : adopting pool.threads = false) :
    pool.state.advertises = true ↔ pool.state.node.storesAdoption = true := by
  constructor
  · intro advertises
    obtain stored | ⟨task, first, member⟩ := consistent.kept (.inl advertises)
    · exact stored
    · exact absurd (idle_of_idle phased consistent idle member) (by simp [Phase.busy])
  · intro stored
    obtain advertises | ⟨task, member⟩ := consistent.stored stored
    · exact advertises
    · exact absurd (idle_of_idle phased consistent idle member) (by simp [Phase.busy])

theorem storesAdoption_reset (faults : StatePath → Option Fault) (paths : List StatePath) (node : Node)
    (unstored : node.storesAdoption = false) :
    (resetNodeState faults paths node).1.storesAdoption = false := by
  obtain gone | kept := files_resetNodeState faults paths node .adoption
  · simp [Node.storesAdoption, gone]
  · rw [storesAdoption_congr kept]
    exact unstored

theorem consistent_turn {turn : Turn Chance} {next : SitePool} (phased : Phased places pool.threads)
    (consistent : Consistent places pool.state) (allowed : allowsTurn pool turn = true)
    (taken : (siteRuntime a).step pool turn = some next) :
    ∃ places, Phased places next.threads ∧ Consistent places next.state := by
  obtain ⟨task, phase, op, reply, phase', found, issued, reached, performed, later⟩ :=
    Runtime.step_staged (follows_code_phases a) phased taken
  have starts : Runtime.places Task.phase ((siteRuntime a).starts op) = [] := rfl
  rw [starts, List.append_nil] at later
  have performed : pool.state.perform op turn.choice = (reply, next.state) :=
    Option.some.inj performed
  refine ⟨_, later, ?_⟩
  obtain ⟨thread, at_, issues⟩ := Option.bind_eq_some_iff.mp issued
  obtain ⟨rest, same⟩ := Thread.op?_eq_some.mp issues
  obtain ⟨place, found', here⟩ := Runtime.staged_getElem? phased turn.thread at_
  obtain rfl : (task, phase) = place := Option.some.inj (found.symm.trans found')
  cases task with
  | event =>
    simp only [Task.turns] at reached
    split_ifs at reached with calm
    obtain ⟨rfl, calm⟩ := calm
    cases reached
    obtain ⟨file, same⟩ := perform_calm calm performed
    have unmoved : places.set turn.thread (.event, .finished) = places := by
      obtain ⟨inside, here⟩ := List.getElem?_eq_some_iff.mp found
      rw [← here, List.set_getElem_self]
    rw [unmoved]
    exact consistent_same consistent (storesAdoption_congr file) same
  | adopt req =>
    have condition : pool.state.allows (!adopting (pool.threads.eraseIdx turn.thread)) turn.choice op =
        true := by
      have mine : thread.task = .adopt req := here.task
      rw [same, mine] at at_
      simpa [allowsTurn, at_] using allowed
    exact consistent_moves consistent found (moves_of_next reached) performed condition
      fun alone => idle_of_alone phased consistent alone

theorem Host.consistent_step (host : Host) (event : HostStep) (next : Host)
    (consistent : host.Consistent) (careful : Careful host event = true)
    (taken : host.step a event = some next) : next.Consistent := by
  cases host with
  | down node =>
    cases event with
    | boot marker faults instanceName port =>
      simp only [step] at taken
      cases started : startup marker faults node with
      | mk node' up =>
        cases up with
        | false =>
          simp only [started, Option.some.injEq] at taken
          rw [← taken]
          trivial
        | true =>
          simp only [started, Option.some.injEq] at taken
          rw [← taken]
          have unstored : node'.storesAdoption = false := by
            simpa [Careful, started] using careful
          have silent : ¬ Announced [] (newSite a node' instanceName port) := by
            simp [Announced, Site.advertises, newSite, newAdvertiser]
          refine ⟨[], .nil, ?_, fun announced => (silent announced).elim, ?_, by simp, by simp⟩
          · exact Advertiser.sound_new _
          · simp [newSite, unstored]
    | reset faults =>
      cases taken
      trivial
    | _ => cases taken
  | up pool =>
    obtain ⟨places, phased, inv⟩ := consistent
    cases event with
    | boot marker faults instanceName port => cases taken
    | reset faults =>
      cases taken
      refine ⟨places, phased, ?_⟩
      have condition : pool.state.node.files .adoption = none ∨
          pool.state.node.storesAdoption = false ∧ adopting pool.threads = false := by
        simpa [Careful] using careful
      have unstored : pool.state.node.storesAdoption = false := by
        obtain absent | ⟨unstored, -⟩ := condition
        · simp [Node.storesAdoption, absent]
        · exact unstored
      refine consistent_same inv ?_ rfl
      rw [unstored]
      exact storesAdoption_reset faults resetPaths _ unstored
    | wire =>
      cases taken
      exact ⟨places, phased, consistent_same inv rfl rfl⟩
    | register failed =>
      simp only [step] at taken
      split_ifs at taken
      cases taken
      refine ⟨places, phased, ?_⟩
      have iff : ∀ site : Site, Announced places
          { site with advertiser := site.advertiser.start failed } ↔ Announced places site := by
        simp [Announced, Site.advertises]
      refine ⟨Advertiser.sound_start inv.sound failed, ?_, ?_, ?_, inv.events⟩
      · exact fun announced => inv.kept ((iff _).mp announced)
      · exact fun stored => (iff _).mpr (inv.stored stored)
      · exact fun task phase member about => (iff _).mpr (inv.known task phase member about)
    | launch task =>
      simp only [step] at taken
      split_ifs at taken
      cases taken
      refine ⟨places ++ Runtime.places Task.phase [task], List.rel_append phased
        (Runtime.staged_launch (follows_code_phases a) [task]), ?_⟩
      have begins : ∀ (other : Task) (phase : Phase), (other, phase) ∈
          places ++ Runtime.places Task.phase [task] → phase = .asking ∨ phase = .finished ∨
            (other, phase) ∈ places := by
        intro other phase member
        simp only [Runtime.places, List.map_cons, List.map_nil, List.mem_append, List.mem_singleton,
          Prod.mk.injEq] at member
        obtain member | ⟨-, rfl⟩ := member
        · exact .inr (.inr member)
        · cases task <;> simp [Task.phase]
      have forth : Announced places pool.state →
          Announced (places ++ Runtime.places Task.phase [task]) pool.state := by
        intro announced
        refine announced.imp_right ?_
        rintro ⟨other, member⟩
        exact ⟨other, List.mem_append_left _ member⟩
      refine ⟨inv.sound, ?_, fun stored => forth (inv.stored stored), ?_, ?_⟩
      · intro announced
        have before : Announced places pool.state := by
          refine announced.imp_right ?_
          rintro ⟨other, member⟩
          obtain absurd_ | absurd_ | member := begins _ _ member
          · cases absurd_
          · cases absurd_
          · exact ⟨other, member⟩
        refine (inv.kept before).imp_right ?_
        rintro ⟨other, first, member⟩
        exact ⟨other, first, List.mem_append_left _ member⟩
      · intro other phase member about
        obtain rfl | rfl | member := begins _ _ member
        · simp at about
        · simp at about
        · exact forth (inv.known _ _ member about)
      · intro phase member
        simp only [Runtime.places, List.map_cons, List.map_nil, List.mem_append, List.mem_singleton,
          Prod.mk.injEq] at member
        obtain member | ⟨rfl, rfl⟩ := member
        · exact inv.events phase member
        · rfl
    | turn turn =>
      obtain ⟨after, moved, rfl⟩ := Option.map_eq_some_iff.mp taken
      exact consistent_turn phased inv careful moved
    | countUPS count =>
      cases taken
      refine ⟨places, phased, ?_⟩
      have iff : ∀ site : Site, Announced places
          { site with advertiser := site.advertiser.updateUPSCount count } ↔ Announced places site := by
        simp [Announced, Site.advertises]
      refine ⟨Advertiser.sound_updateUPSCount inv.sound count, ?_, ?_, ?_, inv.events⟩
      · exact fun announced => inv.kept ((iff _).mp announced)
      · exact fun stored => (iff _).mpr (inv.stored stored)
      · exact fun task phase member about => (iff _).mpr (inv.known task phase member about)
    | stop =>
      cases taken
      trivial

/-- The node says that it is adopted if and only if an adoption state is on its disk. -/
theorem advertised_iff_stored {node : Node} {events : List HostStep}
    (run : replay (Host.step a) (.down node) events = some (.up pool))
    (careful : Guarded (Host.step a) (fun host event => Careful host event = true) (.down node) events)
    (started : pool.state.advertiser.started = true) (idle : adopting pool.threads = false) :
    ∃ server, pool.state.advertiser.server = some server ∧
      ("adopted=true" ∈ server.text ↔ ∃ state, pool.state.node.files .adoption = some (.adoption state)) := by
  have initial : (Host.down node).Consistent := trivial
  have consistent : (Host.up pool).Consistent := replay_invariant
    (fun host event next inv allowed taken => host.consistent_step event next inv allowed taken)
    initial careful run
  obtain ⟨places, phased, inv⟩ := consistent
  have announced : pool.state.advertiser.server.isSome = true := inv.sound.announced ▸ started
  obtain ⟨server, held⟩ := Option.isSome_iff_exists.mp announced
  refine ⟨server, held, ?_⟩
  rw [inv.sound.current server held, Advertiser.records, adopted_mem_txtRecords,
    ← Node.storesAdoption_iff]
  exact advertises_iff phased inv idle

end Hosts

/-! ## Runs -/

def Host.pool? : Host → Option SitePool
  | .down _ => none
  | .up pool => some pool

/-- A start of the agent without a factory reset. -/
def startSteps : List HostStep :=
  [.boot (.ok false) (fun _ => none) "strom-node-1" 80, .wire, .register false]

def adoptSteps : List HostStep :=
  .launch (.adopt (requestOf "t1")) :: (calmTurns 0 22).map .turn

/-- Whether the process advertises and no adoption is in progress, and what it advertises and stores. -/
def outcomeOf (host : Host) : Option ((Bool × Bool) × Bool × Bool) :=
  host.pool?.map fun pool => ((pool.state.advertiser.started, adopting pool.threads),
    pool.state.advertiser.server.any fun server => server.text.contains "adopted=true",
    pool.state.node.storesAdoption)

theorem pool_of_outcome {steps : List HostStep} {outcome : (Bool × Bool) × Bool × Bool}
    (run : (replay (Host.step adopter1) (.down {}) steps).bind outcomeOf = some outcome) :
    ∃ pool, replay (Host.step adopter1) (.down {}) steps = some (.up pool) ∧
      outcomeOf (.up pool) = some outcome := by
  obtain ⟨host, reached, outcome⟩ := Option.bind_eq_some_iff.mp run
  cases host with
  | down node => cases outcome
  | up pool => exact ⟨pool, reached, outcome⟩

theorem advertised_iff_stored_after_adoption : ∃ pool server,
    replay (Host.step adopter1) (.down {}) (startSteps ++ adoptSteps) = some (.up pool) ∧
      pool.state.advertiser.server = some server ∧
      ("adopted=true" ∈ server.text ↔ ∃ state, pool.state.node.files .adoption = some (.adoption state)) := by
  have run : (replay (Host.step adopter1) (.down {}) (startSteps ++ adoptSteps)).bind outcomeOf =
      some ((true, false), true, true) := by decide +kernel
  obtain ⟨pool, run, outcome⟩ := pool_of_outcome run
  simp only [outcomeOf, Host.pool?, Option.map_some, Option.some.injEq, Prod.mk.injEq] at outcome
  obtain ⟨server, held, iff⟩ := advertised_iff_stored run (by decide +kernel) outcome.1.1 outcome.1.2
  exact ⟨pool, server, run, held, iff⟩

/-- An adopted node advertises `adopted=false` once its agent has been restarted. -/
theorem restart_forgets_adoption :
    ¬ ∀ (a : RuntimeAdopter) (node : Node) (events : List HostStep) (pool : SitePool),
      replay (Host.step a) (.down node) events = some (.up pool) →
      pool.state.advertiser.started = true → adopting pool.threads = false →
      ∃ server, pool.state.advertiser.server = some server ∧
        ("adopted=true" ∈ server.text ↔ ∃ state, pool.state.node.files .adoption = some (.adoption state)) := by
  intro claim
  have run : (replay (Host.step adopter1) (.down {})
      (startSteps ++ adoptSteps ++ .stop :: startSteps)).bind outcomeOf =
        some ((true, false), false, true) := by decide +kernel
  obtain ⟨pool, run, outcome⟩ := pool_of_outcome run
  simp only [outcomeOf, Host.pool?, Option.map_some, Option.some.injEq, Prod.mk.injEq] at outcome
  obtain ⟨⟨started, idle⟩, silent, stores⟩ := outcome
  obtain ⟨server, held, iff⟩ := claim adopter1 {} _ pool run started idle
  have spoken := iff.mpr (Node.storesAdoption_iff.mp stores)
  rw [held, Option.any_some] at silent
  rw [← List.contains_iff_mem, silent] at spoken
  cases spoken

end Strom.Agent
