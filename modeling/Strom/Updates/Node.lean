import Mathlib.Data.Int.ConditionallyCompleteOrder
import Mathlib.Order.ConditionallyCompleteLattice.Basic
import Strom.Effects.Run
import Strom.Updates.StoreSpec

/-!
# A node and its release store

A node restarts, installs releases and confirms them, over and over.  Each
process start runs `ReconcileStartup` with the version that `current` links to,
or with the version of the packaged agent where nothing is installed; the running
process stages newer releases and confirms its own.  `Node` keeps, beside the
machine, the history these guarantees are about: the versions confirmed so far
and the activation in progress.

* `rollback_restores_confirmed`: where releases are staged only while no
  activation is pending, a rollback returns to the latest confirmed version.
* `started_before_rollback`: where the first start after staging comes in time,
  no release is rolled back before it was started.
-/

namespace Strom.Updates

open Strom.Go Strom.Effects

/-- The activation in progress: a staged release that was neither confirmed nor
    rolled back since. -/
structure Activation where
  version : String
  stagedAt : Time
  /-- The starts that `ReconcileStartup` reported as awaiting health. -/
  starts : Nat
deriving DecidableEq, Repr

structure Node where
  machine : Machine
  /-- The version of the running agent process. -/
  running : Option String := none
  /-- The versions confirmed healthy, the latest first. -/
  confirmed : List String := []
  activation : Option Activation := none

inductive Event where
  | start
  | stage (version : String) (binary : Bytes)
  | confirm
deriving DecidableEq, Repr

namespace Node

/-- The version of the agent that the launcher starts. -/
def startVersion (packaged : String) (node : Node) : String :=
  node.machine.disk.current.getD packaged

/-- One more start of the release in activation, if `current` links to it. -/
def countStart (node : Node) : Option Activation :=
  node.activation.map fun activation =>
    if node.machine.disk.current = some activation.version then
      { activation with starts := activation.starts + 1 }
    else activation

/-- The node after `ReconcileStartup` of `version` returned `action`. -/
def reconciled (node : Node) (version : String) (action : ReconcileAction) (machine : Machine) :
    Node :=
  match action with
  | .none => { node with machine, running := some version }
  | .awaitingHealth =>
    { node with machine, running := some version, activation := node.countStart }
  | .rolledBack => { node with machine, running := none, activation := none }

/-- The node after `StageAndActivate` of `version` succeeded. -/
def activated (node : Node) (version : String) (machine : Machine) : Node :=
  { node with
    machine
    activation := some
      { version := trimSpace version
        stagedAt := node.machine.clock node.machine.reads
        starts := 0 } }

/-- The node after `ConfirmHealthy` of `version` succeeded. -/
def confirming (node : Node) (version : String) (machine : Machine) : Node :=
  if (node.machine.disk.pending.record?.map (·.version)) = some version then
    { node with machine, confirmed := version :: node.confirmed, activation := none }
  else { node with machine }

/-- One successful call on the store. -/
def step (packaged : String) (node : Node) : Event → Option Node
  | .start =>
    let version := node.startVersion packaged
    match exec (reconcileStartup version) node.machine with
    | (.ok action, machine) => some (node.reconciled version action machine)
    | (.error _, _) => none
  | .stage version binary =>
    match node.running, exec (stageAndActivate version binary) node.machine with
    | some _, (.ok (), machine) => some (node.activated version machine)
    | _, _ => none
  | .confirm =>
    match node.running with
    | none => none
    | some version =>
      match exec (confirmHealthy version) node.machine with
      | (.ok (), machine) => some (node.confirming version machine)
      | (.error _, _) => none

/-- The machine after `ReconcileStartup`, if the next start rolls back. -/
def rollback (packaged : String) (node : Node) : Option Machine :=
  match exec (reconcileStartup (node.startVersion packaged)) node.machine with
  | (.ok .rolledBack, machine) => some machine
  | _ => none

/-- A node that has just been set up, on the given directory. -/
def fresh (disk : Disk) (clock : Nat → Time) : Node := { machine := { disk, clock } }

/-! ## What a step does -/

section Steps

variable {packaged : String} {node next : Node}

theorem step_start (taken : node.step packaged .start = some next) :
    ∃ action machine,
      Reconciled (node.startVersion packaged) node.machine action machine ∧
        next = node.reconciled (node.startVersion packaged) action machine := by
  simp only [step] at taken
  split at taken
  · next action machine ran =>
    cases taken
    exact ⟨action, machine, reconciled_of_exec ran, rfl⟩
  · cases taken

theorem step_stage {version : String} {binary : Bytes}
    (taken : node.step packaged (.stage version binary) = some next) :
    ∃ machine, Staged (trimSpace version) binary node.machine machine ∧
      next = node.activated version machine := by
  simp only [step] at taken
  split at taken
  · next machine running ran =>
    cases taken
    exact ⟨machine, staged_of_exec ran, rfl⟩
  · cases taken

theorem step_confirm (taken : node.step packaged .confirm = some next) :
    ∃ version machine, node.running = some version ∧
      Confirmed version node.machine machine ∧ next = node.confirming version machine := by
  simp only [step] at taken
  split at taken
  · cases taken
  · next version running =>
    split at taken
    · next machine ran =>
      cases taken
      exact ⟨version, machine, running, confirmed_of_exec ran, rfl⟩
    · cases taken

theorem confirming_of_ignored {version : String}
    (other : ∀ pending, node.machine.disk.pending = .stored pending → pending.version ≠ version)
    (machine : Machine) : node.confirming version machine = { node with machine } := by
  refine if_neg fun named => ?_
  obtain ⟨pending, stored, same⟩ := Option.map_eq_some_iff.mp named
  cases record : node.machine.disk.pending with
  | stored pending' =>
    simp only [record, RecordFile.record?_stored, Option.some.injEq] at stored
    exact other _ record (stored ▸ same)
  | absent => simp [record] at stored
  | malformed => simp [record, RecordFile.record?] at stored

theorem confirming_of_stored {version : String} {pending : PendingActivation}
    (stored : node.machine.disk.pending = .stored pending) (same : pending.version = version)
    (machine : Machine) :
    node.confirming version machine =
      { node with machine, confirmed := version :: node.confirmed, activation := none } :=
  if_pos (by simp [stored, same])

theorem rollback_inversion {machine : Machine} (rolledBack : node.rollback packaged = some machine) :
    Reconciled (node.startVersion packaged) node.machine .rolledBack machine := by
  unfold rollback at rolledBack
  split at rolledBack
  · next ran =>
    cases rolledBack
    exact reconciled_of_exec ran
  · cases rolledBack

end Steps

end Node

/-! ## Rolling back to the confirmed release -/

/-- The links and the pending record agree with the confirmations so far. -/
structure Tracked (node : Node) : Prop where
  settled : node.machine.disk.pending = .absent →
    node.machine.disk.current = node.confirmed.head?
  pending : ∀ pending, node.machine.disk.pending = .stored pending →
    node.machine.disk.current = some pending.version ∧
      node.machine.disk.previous = node.confirmed.head?
  packaged : node.machine.disk.current = none → node.machine.disk.previous = none

/-- Releases are staged only while no activation is pending. -/
def StagesSettled (node : Node) : Event → Prop
  | .stage _ _ => node.machine.disk.pending = .absent
  | _ => True

instance (node : Node) (event : Event) : Decidable (StagesSettled node event) := by
  cases event <;> unfold StagesSettled <;> infer_instance

theorem tracked_fresh (clock : Nat → Time) : Tracked (Node.fresh {} clock) where
  settled := fun _ => rfl
  pending := by
    intro pending stored
    cases stored
  packaged := fun _ => rfl

theorem Tracked.start {packaged : String} {node : Node} {action : ReconcileAction}
    {machine : Machine} (tracked : Tracked node)
    (reconciled : Reconciled (node.startVersion packaged) node.machine action machine) :
    Tracked (node.reconciled (node.startVersion packaged) action machine) := by
  cases reconciled with
  | settled absent => exact ⟨tracked.settled, tracked.pending, tracked.packaged⟩
  | stale stored other =>
    -- the pending activation names the version that `current` links to
    refine absurd ?_ other
    simp [Node.startVersion, (tracked.pending _ stored).1]
  | awaitingHealth stored same young few =>
    obtain ⟨current, previous⟩ := tracked.pending _ stored
    refine ⟨fun absent => (by cases absent), ?_, tracked.packaged⟩
    intro pending stored'
    cases stored'
    exact ⟨current, previous⟩
  | rolledBack stored same exhausted readable =>
    obtain ⟨-, previous⟩ := tracked.pending _ stored
    refine ⟨fun _ => previous, ?_, fun absent => absent⟩
    intro pending stored'
    cases stored'

theorem Tracked.stage {node : Node} {version : String} {binary : Bytes} {machine : Machine}
    (tracked : Tracked node) (settled : node.machine.disk.pending = .absent)
    (staged : Staged (trimSpace version) binary node.machine machine) :
    Tracked (node.activated version machine) := by
  have current := tracked.settled settled
  refine ⟨?_, ?_, ?_⟩
  · intro absent
    simp [Node.activated, staged.disk] at absent
  · intro pending stored
    simp only [Node.activated, staged.disk, Disk.staged_pending, RecordFile.stored.injEq] at stored
    subst stored
    refine ⟨by simp [Node.activated, staged.disk], ?_⟩
    simp only [Node.activated, staged.disk, Disk.staged_previous]
    -- the release that was current becomes the previous one
    cases installed : node.machine.disk.current with
    | none => rw [Option.none_or, tracked.packaged installed, ← current, installed]
    | some confirmed => rw [Option.some_or, ← current, installed]
  · intro absent
    simp [Node.activated, staged.disk] at absent

theorem Tracked.confirm {node : Node} {version : String} {machine : Machine}
    (tracked : Tracked node) (confirmed : Confirmed version node.machine machine) :
    Tracked (node.confirming version machine) := by
  cases confirmed with
  | ignored other =>
    rw [Node.confirming_of_ignored other]
    exact ⟨tracked.settled, tracked.pending, tracked.packaged⟩
  | confirmed stored same readable =>
    obtain ⟨current, -⟩ := tracked.pending _ stored
    rw [Node.confirming_of_stored stored same]
    refine ⟨fun _ => same ▸ current, ?_, tracked.packaged⟩
    intro pending stored'
    cases stored'

theorem Tracked.step {packaged : String} {node next : Node} {event : Event}
    (tracked : Tracked node) (settled : StagesSettled node event)
    (taken : node.step packaged event = some next) : Tracked next := by
  cases event with
  | start =>
    obtain ⟨action, machine, reconciled, rfl⟩ := Node.step_start taken
    exact tracked.start reconciled
  | stage version binary =>
    obtain ⟨machine, staged, rfl⟩ := Node.step_stage taken
    exact tracked.stage settled staged
  | confirm =>
    obtain ⟨version, machine, -, confirmed, rfl⟩ := Node.step_confirm taken
    exact tracked.confirm confirmed

/-- Where releases are staged only while no activation is pending, a rollback
    returns to the latest confirmed version, or to the packaged agent if none was
    ever confirmed. -/
theorem rollback_restores_confirmed {packaged : String} {clock : Nat → Time}
    {events : List Event} {node : Node} {machine : Machine}
    (run : replay (Node.step packaged) (Node.fresh {} clock) events = some node)
    (settled : Guarded (Node.step packaged) StagesSettled (Node.fresh {} clock) events)
    (rolledBack : node.rollback packaged = some machine) :
    machine.disk.current = node.confirmed.head? := by
  have tracked : Tracked node :=
    replay_invariant (fun _ _ _ => Tracked.step) (tracked_fresh clock) settled run
  cases Node.rollback_inversion rolledBack with
  | rolledBack stored same exhausted readable => exact (tracked.pending _ stored).2

/-- What a rollback at the end of a run restores, and the version confirmed last. -/
def rollbackOutcome (packaged : String) (clock : Nat → Time) (events : List Event) :
    Option (Option String × Option String) := do
  let node ← replay (Node.step packaged) (Node.fresh {} clock) events
  let machine ← node.rollback packaged
  return (machine.disk.current, node.confirmed.head?)

theorem rollbackOutcome_eq_some {packaged : String} {clock : Nat → Time} {events : List Event}
    {restored confirmed : Option String}
    (outcome : rollbackOutcome packaged clock events = some (restored, confirmed)) :
    ∃ node machine, replay (Node.step packaged) (Node.fresh {} clock) events = some node ∧
      node.rollback packaged = some machine ∧ machine.disk.current = restored ∧
      node.confirmed.head? = confirmed := by
  simpa [rollbackOutcome, Option.bind_eq_some_iff] using outcome

/-- The first release is confirmed, the second one is not. -/
def confirmedThenFailing : List Event :=
  [.start, .stage "v1.0.0" [1], .start, .confirm, .stage "v2.0.0" [2], .start, .start, .start]

theorem rollback_restores_confirmed_after_confirmation :
    ∃ node machine,
      replay (Node.step "v0.9.0") (Node.fresh {} fun _ => 0) confirmedThenFailing = some node ∧
      node.rollback "v0.9.0" = some machine ∧ machine.disk.current = node.confirmed.head? := by
  have outcome : rollbackOutcome "v0.9.0" (fun _ => 0) confirmedThenFailing =
      some (some "v1.0.0", some "v1.0.0") := by decide
  obtain ⟨node, machine, run, rolledBack, -⟩ := rollbackOutcome_eq_some outcome
  exact ⟨node, machine, run, rolledBack, rollback_restores_confirmed run (by decide) rolledBack⟩

/-- A second release staged before the first is confirmed: the rollback of the
    second returns to the first. -/
theorem rollback_restores_unconfirmed :
    ¬ ∀ (packaged : String) (clock : Nat → Time) (events : List Event) (node : Node)
        (machine : Machine),
      replay (Node.step packaged) (Node.fresh {} clock) events = some node →
      node.rollback packaged = some machine →
      machine.disk.current = node.confirmed.head? := by
  intro claim
  have outcome : rollbackOutcome "v0.9.0" (fun _ => 0)
      [.start, .stage "v1.0.0" [1], .start, .stage "v2.0.0" [2], .start, .start, .start] =
        some (some "v1.0.0", none) := by decide
  obtain ⟨node, machine, run, rolledBack, restored, confirmed⟩ := rollbackOutcome_eq_some outcome
  have same := claim _ _ _ node machine run rolledBack
  rw [restored, confirmed] at same
  cases same

/-! ## Starting a release before giving it up -/

/-- The pending record of an activation in progress. -/
def Activation.record (activation : Activation) : PendingActivation :=
  { version := activation.version
    attempts := activation.starts
    firstAttemptAt := activation.stagedAt }

/-- The pending record is that of the activation in progress, and `current` links
    to the release in activation. -/
structure Counted (node : Node) : Prop where
  idle : node.activation = none → node.machine.disk.pending = .absent
  pending : ∀ activation, node.activation = some activation →
    node.machine.disk.pending = .stored activation.record
  current : ∀ activation, node.activation = some activation →
    node.machine.disk.current = some activation.version

theorem Counted.of_stored {node : Node} {pending : PendingActivation} (counted : Counted node)
    (stored : node.machine.disk.pending = .stored pending) :
    ∃ activation, node.activation = some activation ∧ pending = activation.record ∧
      node.machine.disk.current = some activation.version := by
  cases inProgress : node.activation with
  | none =>
    rw [counted.idle inProgress] at stored
    cases stored
  | some activation =>
    have same := counted.pending activation inProgress
    rw [stored] at same
    cases same
    exact ⟨activation, rfl, rfl, counted.current activation inProgress⟩

/-- The first start after staging comes within the age limit of activations. -/
def StartsInTime (node : Node) : Event → Prop
  | .start => ∀ activation, node.activation = some activation → activation.starts = 0 →
      node.machine.clock node.machine.reads - activation.stagedAt ≤ defaultMaxActivationAge
  | _ => True

instance (node : Node) (event : Event) : Decidable (StartsInTime node event) := by
  cases event <;> unfold StartsInTime <;> infer_instance

theorem Counted.start {packaged : String} {node : Node} {action : ReconcileAction}
    {machine : Machine} (counted : Counted node)
    (reconciled : Reconciled (node.startVersion packaged) node.machine action machine) :
    Counted (node.reconciled (node.startVersion packaged) action machine) := by
  cases reconciled with
  | settled absent => exact ⟨counted.idle, counted.pending, counted.current⟩
  | stale stored other =>
    obtain ⟨activation, -, rfl, current⟩ := counted.of_stored stored
    exact absurd (by simp [Node.startVersion, current, Activation.record]) other
  | awaitingHealth stored same young few =>
    obtain ⟨activation, inProgress, rfl, current⟩ := counted.of_stored stored
    have counts : node.countStart =
        some { activation with starts := activation.starts + 1 } := by
      simp [Node.countStart, inProgress, current]
    refine ⟨fun idle => ?_, fun next counted => ?_, fun next counted => ?_⟩
    · cases counts.symm.trans idle
    · cases counts.symm.trans counted
      rfl
    · cases counts.symm.trans counted
      exact current
  | rolledBack stored same exhausted readable =>
    refine ⟨fun _ => rfl, fun next inProgress => ?_, fun next inProgress => ?_⟩ <;>
      cases inProgress

theorem Counted.confirm {node : Node} {version : String} {machine : Machine}
    (counted : Counted node) (confirmed : Confirmed version node.machine machine) :
    Counted (node.confirming version machine) := by
  cases confirmed with
  | ignored other =>
    rw [Node.confirming_of_ignored other]
    exact ⟨counted.idle, counted.pending, counted.current⟩
  | confirmed stored same readable =>
    rw [Node.confirming_of_stored stored same]
    refine ⟨fun _ => rfl, fun next inProgress => ?_, fun next inProgress => ?_⟩ <;>
      cases inProgress

theorem Counted.step {packaged : String} {node next : Node} {event : Event}
    (counted : Counted node) (taken : node.step packaged event = some next) : Counted next := by
  cases event with
  | start =>
    obtain ⟨action, machine, reconciled, rfl⟩ := Node.step_start taken
    exact counted.start reconciled
  | stage version binary =>
    obtain ⟨machine, staged, rfl⟩ := Node.step_stage taken
    refine ⟨fun idle => (by cases idle), fun next inProgress => ?_, fun next inProgress => ?_⟩
    · cases inProgress
      simp [Node.activated, staged.disk, Activation.record]
    · cases inProgress
      simp [Node.activated, staged.disk]
  | confirm =>
    obtain ⟨version, machine, -, confirmed, rfl⟩ := Node.step_confirm taken
    exact counted.confirm confirmed

theorem counted_of_run {packaged : String} {disk : Disk} {clock : Nat → Time}
    {events : List Event} {node : Node} (idle : disk.pending = .absent)
    (run : replay (Node.step packaged) (Node.fresh disk clock) events = some node) :
    Counted node := by
  refine replay_preserves (fun _ _ _ => Counted.step) ?_ run
  refine ⟨fun _ => idle, fun next inProgress => ?_, fun next inProgress => ?_⟩ <;>
    cases inProgress

/-- Where the first start after each staging comes in time, a release that is
    rolled back was started before. -/
theorem started_before_rollback {packaged : String} {disk : Disk} {clock : Nat → Time}
    {events : List Event} {node : Node} {machine : Machine} (idle : disk.pending = .absent)
    (run : replay (Node.step packaged) (Node.fresh disk clock) events = some node)
    (inTime : Guarded (Node.step packaged) StartsInTime (Node.fresh disk clock)
      (events ++ [.start]))
    (rolledBack : node.rollback packaged = some machine) :
    ∃ activation, node.activation = some activation ∧
      node.machine.disk.current = some activation.version ∧ 0 < activation.starts := by
  have counted := counted_of_run idle run
  cases Node.rollback_inversion rolledBack with
  | rolledBack stored same exhausted readable =>
    obtain ⟨activation, inProgress, rfl, current⟩ := counted.of_stored stored
    refine ⟨activation, inProgress, current, ?_⟩
    by_contra unstarted
    have unstarted : activation.starts = 0 := by omega
    have young := (inTime.append run).2.1 activation inProgress unstarted
    rcases exhausted with old | spent
    · exact absurd young (not_le.mpr old)
    · simp [Activation.record, unstarted, defaultMaxActivationAttempts] at spent

/-- The starts of the activation that a rollback at the end of a run gives up. -/
def startsAtRollback (packaged : String) (clock : Nat → Time) (events : List Event) :
    Option Nat := do
  let node ← replay (Node.step packaged) (Node.fresh {} clock) events
  let _ ← node.rollback packaged
  let activation ← node.activation
  return activation.starts

theorem startsAtRollback_eq_some {packaged : String} {clock : Nat → Time} {events : List Event}
    {starts : Nat} (outcome : startsAtRollback packaged clock events = some starts) :
    ∃ node machine activation,
      replay (Node.step packaged) (Node.fresh {} clock) events = some node ∧
      node.rollback packaged = some machine ∧ node.activation = some activation ∧
      activation.starts = starts := by
  simpa [startsAtRollback, Option.bind_eq_some_iff, and_assoc] using outcome

theorem started_before_rollback_of_failing :
    ∃ node machine,
      replay (Node.step "v0.9.0") (Node.fresh {} fun _ => 0) confirmedThenFailing = some node ∧
      node.rollback "v0.9.0" = some machine ∧
      ∃ activation, node.activation = some activation ∧
        node.machine.disk.current = some activation.version ∧ 0 < activation.starts := by
  have outcome : startsAtRollback "v0.9.0" (fun _ => 0) confirmedThenFailing = some 3 := by decide
  obtain ⟨node, machine, activation, run, rolledBack, -, -⟩ := startsAtRollback_eq_some outcome
  exact ⟨node, machine, run, rolledBack,
    started_before_rollback rfl run (by decide) rolledBack⟩

/-- A restart that comes four minutes after staging finds the activation already
    too old, and the release is given up unstarted. -/
theorem rollback_of_unstarted :
    ¬ ∀ (packaged : String) (clock : Nat → Time) (events : List Event) (node : Node)
        (machine : Machine), Monotone clock →
      replay (Node.step packaged) (Node.fresh {} clock) events = some node →
      node.rollback packaged = some machine →
      ∃ activation, node.activation = some activation ∧
        node.machine.disk.current = some activation.version ∧ 0 < activation.starts := by
  intro claim
  let clock : Nat → Time := fun reading => 4 * minute * reading
  have monotone : Monotone clock := by
    intro earlier later ordered
    have : (0 : Int) ≤ 4 * minute := by decide
    exact Int.mul_le_mul_of_nonneg_left (Int.ofNat_le.mpr ordered) this
  have outcome : startsAtRollback "v0.9.0" clock [.start, .stage "v1.0.0" [1]] = some 0 := by decide
  obtain ⟨node, machine, activation, run, rolledBack, inProgress, starts⟩ :=
    startsAtRollback_eq_some outcome
  obtain ⟨other, inProgress', -, started⟩ := claim _ _ _ node machine monotone run rolledBack
  cases inProgress.symm.trans inProgress'
  omega

end Strom.Updates
