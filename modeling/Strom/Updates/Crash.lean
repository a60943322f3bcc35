import Strom.Updates.Instants
import Strom.Updates.Node

/-!
# Crashes of a node

The node of `Strom.Updates.Node`, with a power cut possible between any two
operations of a call.  After a cut no process runs; the next event is a start.

`unconfirmed_current_is_pending`: an unconfirmed release behind `current` is the
pending one, and was started at most `defaultMaxActivationAttempts` times, where
no cut separates the switch of `current` from the pending record and releases are
staged only while no activation is pending.
-/

namespace Strom.Updates

open Strom.Go Strom.Effects

/-- A call that returns, or one that is cut off after `ops` operations. -/
inductive PowerEvent where
  | call (event : Event)
  | crash (event : Event) (ops : Nat)
deriving DecidableEq, Repr

namespace Node

/-- The node after a crash: `done` are the operations the call still performed. -/
def crashedStart (node : Node) (machine : Machine) (done : List DiskOp) : Node :=
  { node with
    machine
    running := none
    activation := if done.any DiskOp.movesCurrent then none else node.activation }

def crashedStage (node : Node) (version : String) (machine : Machine) (done : List DiskOp) : Node :=
  if done.any DiskOp.movesCurrent then { node.activated version machine with running := none }
  else { node with machine, running := none }

def crashedConfirm (node : Node) (version : String) (machine : Machine) (done : List DiskOp) :
    Node :=
  if done.any DiskOp.removesPending then
    { machine, running := none, confirmed := version :: node.confirmed, activation := none }
  else { node with machine, running := none }

/-- One call on the store that is cut off after `ops` operations. -/
def crash (packaged : String) (node : Node) (ops : Nat) : Event → Option Node
  | .start =>
    let (machine, done) := interrupt (reconcileStartup (node.startVersion packaged)) ops node.machine
    some (node.crashedStart machine done)
  | .stage version binary =>
    node.running.map fun _ =>
      let (machine, done) := interrupt (stageAndActivate version binary) ops node.machine
      node.crashedStage version machine done
  | .confirm =>
    node.running.map fun version =>
      let (machine, done) := interrupt (confirmHealthy version) ops node.machine
      node.crashedConfirm version machine done

def powerStep (packaged : String) (node : Node) : PowerEvent → Option Node
  | .call event => node.step packaged event
  | .crash event ops => node.crash packaged ops event

end Node

/-- Releases are staged only while no activation is pending, and no power cut comes
    after the switch of `current` but before the write of the pending record. -/
def ActivatesWhole (node : Node) : PowerEvent → Prop
  | .call (.stage _ _) => node.machine.disk.pending = .absent
  | .crash (.stage version binary) ops =>
    node.machine.disk.pending = .absent ∧
      ((interrupt (stageAndActivate version binary) ops node.machine).2.any DiskOp.movesCurrent →
        (interrupt (stageAndActivate version binary) ops node.machine).2.any DiskOp.recordsPending)
  | _ => True

instance (node : Node) : (event : PowerEvent) → Decidable (ActivatesWhole node event)
  | .call (.stage _ _) => inferInstanceAs (Decidable (node.machine.disk.pending = .absent))
  | .crash (.stage version binary) ops => inferInstanceAs (Decidable (node.machine.disk.pending = .absent ∧
      ((interrupt (stageAndActivate version binary) ops node.machine).2.any DiskOp.movesCurrent →
        (interrupt (stageAndActivate version binary) ops node.machine).2.any DiskOp.recordsPending)))
  | .call .start | .call .confirm | .crash .start _ | .crash .confirm _ => .isTrue trivial

/-! ## The invariant -/

/-- What the links and the pending record say about confirmations and activations. -/
structure Watched (node : Node) : Prop where
  current : ∀ version, node.machine.disk.current = some version →
    version ∈ node.confirmed ∨ ∃ activation, node.activation = some activation ∧
      activation.version = version
  previous : ∀ version, node.machine.disk.previous = some version → version ∈ node.confirmed
  pending : ∀ activation, node.activation = some activation →
    node.machine.disk.current = some activation.version ∧
      ∃ pending, node.machine.disk.pending = .stored pending ∧
        pending.version = activation.version ∧ activation.starts ≤ pending.attempts ∧
        pending.attempts ≤ defaultMaxActivationAttempts

theorem watched_fresh (clock : Nat → Time) : Watched (Node.fresh {} clock) := by
  refine ⟨fun version links => ?_, fun version links => ?_, fun activation inProgress => ?_⟩
  · cases links
  · cases links
  · cases inProgress

/-- Only the links and the pending record of the disk matter. -/
theorem Watched.of_frame {node : Node} {machine : Machine} {running : Option String}
    (watched : Watched node) (current : machine.disk.current = node.machine.disk.current)
    (previous : machine.disk.previous = node.machine.disk.previous)
    (pending : machine.disk.pending = node.machine.disk.pending) :
    Watched { node with machine, running } := by
  refine ⟨?_, ?_, ?_⟩
  · simpa only [current] using watched.current
  · simpa only [previous] using watched.previous
  · simpa only [current, pending] using watched.pending

/-- Without a pending activation none is in progress. -/
theorem Watched.idle {node : Node} (watched : Watched node)
    (absent : node.machine.disk.pending = .absent) : node.activation = none := by
  cases inProgress : node.activation with
  | none => rfl
  | some activation =>
    obtain ⟨-, pending, stored, -⟩ := watched.pending activation inProgress
    cases absent.symm.trans stored

/-- Without a pending activation the release behind `current` is confirmed. -/
theorem Watched.settled {node : Node} {version : String} (watched : Watched node)
    (absent : node.machine.disk.pending = .absent)
    (links : node.machine.disk.current = some version) : version ∈ node.confirmed := by
  rcases watched.current version links with confirmed | ⟨activation, inProgress, -⟩
  · exact confirmed
  · cases (watched.idle absent).symm.trans inProgress

/-- The pending activation of the version that is starting is the one in progress. -/
theorem Watched.stale {packaged : String} {node : Node} {pending : PendingActivation}
    (watched : Watched node) (stored : node.machine.disk.pending = .stored pending)
    (other : pending.version ≠ node.startVersion packaged) : node.activation = none := by
  cases inProgress : node.activation with
  | none => rfl
  | some activation =>
    obtain ⟨current, pending', stored', same, -⟩ := watched.pending activation inProgress
    cases stored.symm.trans stored'
    exact absurd (by simp [Node.startVersion, current, same]) other

/-! ## Startup -/

theorem Watched.cleared {node : Node} {machine : Machine} {running : Option String}
    (watched : Watched node) (idle : node.activation = none)
    (current : machine.disk.current = node.machine.disk.current)
    (previous : machine.disk.previous = node.machine.disk.previous) :
    Watched { node with machine, running } := by
  refine ⟨?_, ?_, fun activation inProgress => ?_⟩
  · simpa only [current] using watched.current
  · simpa only [previous] using watched.previous
  · cases idle.symm.trans inProgress

theorem Watched.rolledBack {node : Node} {machine : Machine} {running : Option String}
    (watched : Watched node) (current : machine.disk.current = node.machine.disk.previous)
    (previous : machine.disk.previous = node.machine.disk.previous) :
    Watched { node with machine, running, activation := none } := by
  refine ⟨fun version links => ?_, fun version links => ?_, fun activation inProgress => ?_⟩
  · exact .inl (watched.previous version (current.symm.trans links))
  · exact watched.previous version (previous.symm.trans links)
  · cases inProgress

theorem countStart_of_some {node : Node} {activation : Activation}
    (inProgress : node.activation = some activation)
    (current : node.machine.disk.current = some activation.version) :
    node.countStart = some { activation with starts := activation.starts + 1 } := by
  simp [Node.countStart, inProgress, current]

/-- One more attempt is recorded, and counted as a start or not. -/
theorem Watched.counted {node : Node} {machine : Machine} {running : Option String}
    {pending : PendingActivation} {activation : Option Activation} (watched : Watched node)
    (stored : node.machine.disk.pending = .stored pending)
    (few : pending.attempts + 1 ≤ defaultMaxActivationAttempts)
    (disk : machine.disk = { node.machine.disk with
      pending := .stored { pending with attempts := pending.attempts + 1 } })
    (counts : activation = node.activation ∨ activation = node.countStart) :
    Watched { node with machine, running, activation } := by
  have links : machine.disk.current = node.machine.disk.current := by rw [disk]
  cases inProgress : node.activation with
  | none =>
    obtain rfl : activation = none := by
      rcases counts with rfl | rfl
      · exact inProgress
      · simp [Node.countStart, inProgress]
    refine ⟨fun version current => ?_, ?_, fun activation inProgress => by cases inProgress⟩
    · simpa [inProgress] using watched.current version (links ▸ current)
    · simpa only [disk] using watched.previous
  | some before =>
    obtain ⟨current, pending', stored', same, counted, -⟩ := watched.pending before inProgress
    cases stored.symm.trans stored'
    obtain ⟨starts, rfl, below⟩ : ∃ starts, activation = some { before with starts } ∧
        starts ≤ before.starts + 1 := by
      rcases counts with rfl | rfl
      · exact ⟨before.starts, inProgress, by omega⟩
      · exact ⟨before.starts + 1, countStart_of_some inProgress current, le_rfl⟩
    refine ⟨fun version current => ?_, ?_, fun activation counted => ?_⟩
    · rcases watched.current version (links ▸ current) with confirmed | ⟨other, same', version⟩
      · exact .inl confirmed
      · cases inProgress.symm.trans same'
        exact .inr ⟨_, rfl, version⟩
    · simpa only [disk] using watched.previous
    · cases counted
      have attempts : starts ≤ pending.attempts + 1 := by omega
      exact ⟨links.trans current, { pending with attempts := pending.attempts + 1 }, by rw [disk],
        same, attempts, few⟩

theorem Watched.start {packaged : String} {node : Node} {action : ReconcileAction}
    {machine : Machine} (watched : Watched node)
    (reconciled : Reconciled (node.startVersion packaged) node.machine action machine) :
    Watched (node.reconciled (node.startVersion packaged) action machine) := by
  cases reconciled with
  | settled absent => exact watched.of_frame rfl rfl rfl
  | stale stored other => exact watched.cleared (watched.stale stored other) rfl rfl
  | awaitingHealth stored same young few => exact watched.counted stored few rfl (.inr rfl)
  | rolledBack stored same exhausted readable => exact watched.rolledBack rfl rfl

theorem OutcomePhase.frame {succeededVersion failureMessage : String} {before after : Disk}
    (phase : OutcomePhase succeededVersion failureMessage before after) :
    after.current = before.current ∧ after.previous = before.previous ∧
      after.pending = before.pending := by
  rcases phase with rfl | ⟨now, status, rfl⟩
  · exact ⟨rfl, rfl, rfl⟩
  · exact ⟨rfl, rfl, rfl⟩

theorem Watched.crashedStart {packaged : String} {node : Node} {machine : Machine}
    {done : List DiskOp} (watched : Watched node)
    (instant : ReconcileInstant (node.startVersion packaged) node.machine (machine, done)) :
    Watched (node.crashedStart machine done) := by
  unfold Node.crashedStart
  cases instant with
  | untouched disk kept =>
    simp only [kept]
    exact watched.of_frame (by rw [disk]) (by rw [disk]) (by rw [disk])
  | stale stored other disk kept =>
    simp only [kept]
    exact watched.cleared (watched.stale stored other) (by rw [disk]; rfl) (by rw [disk]; rfl)
  | counted stored same few disk kept =>
    simp only [kept]
    exact watched.counted stored few disk (.inl rfl)
  | rolledBack stored same disk moved =>
    simp only [moved, if_true]
    rcases disk with disk | ⟨message, phase⟩
    · exact watched.rolledBack (by rw [disk]; rfl) (by rw [disk]; rfl)
    · exact watched.rolledBack phase.frame.1 phase.frame.2.1

/-! ## Staging -/

/-- Promoting the release behind `current` makes a confirmed one `previous`. -/
theorem Watched.promoted {node : Node} (watched : Watched node)
    (absent : node.machine.disk.pending = .absent) {version : String}
    (links : node.machine.disk.current.or node.machine.disk.previous = some version) :
    version ∈ node.confirmed := by
  cases installed : node.machine.disk.current with
  | none =>
    rw [installed, Option.none_or] at links
    exact watched.previous version links
  | some current =>
    rw [installed, Option.some_or] at links
    cases links
    exact watched.settled absent installed

theorem Watched.staged {node : Node} {version : String} {machine : Machine}
    {running : Option String} {now : Time} (watched : Watched node)
    (absent : node.machine.disk.pending = .absent)
    (current : machine.disk.current = some (trimSpace version))
    (previous : machine.disk.previous = node.machine.disk.current.or node.machine.disk.previous)
    (pending : machine.disk.pending = .stored
      { version := trimSpace version, attempts := 0, firstAttemptAt := now }) :
    Watched { node.activated version machine with running } := by
  refine ⟨fun other links => ?_, fun other links => ?_, fun activation inProgress => ?_⟩
  · cases current.symm.trans links
    exact .inr ⟨_, rfl, rfl⟩
  · exact watched.promoted absent (previous.symm.trans links)
  · cases inProgress
    exact ⟨current, _, pending, rfl, le_rfl, Nat.zero_le _⟩

theorem Watched.crashedStage {node : Node} {version : String} {binary : Bytes}
    {machine : Machine} {done : List DiskOp} (watched : Watched node)
    (absent : node.machine.disk.pending = .absent)
    (whole : done.any DiskOp.movesCurrent → done.any DiskOp.recordsPending)
    (instant : StageInstant (trimSpace version) binary node.machine (machine, done)) :
    Watched (node.crashedStage version machine done) := by
  unfold Node.crashedStage
  cases instant with
  | untouched kept => simp only [kept]; exact watched.of_frame rfl rfl rfl
  | made kept => simp only [kept]; exact watched.of_frame rfl rfl rfl
  | written kept => simp only [kept]; exact watched.of_frame rfl rfl rfl
  | promoted disk kept =>
    simp only [kept]
    obtain ⟨current, previous, -⟩ := Disk.promoted_frame
      ((node.machine.disk.mkdir (trimSpace version)).writeBinary (trimSpace version) binary)
    rw [← disk] at current previous
    refine ⟨fun other links => ?_, fun other links => ?_, fun activation inProgress => ?_⟩
    · exact watched.current other (current.symm.trans links)
    · exact watched.promoted absent (previous.symm.trans links)
    · cases (watched.idle absent).symm.trans inProgress
  | switched disk moved unrecorded =>
    rw [unrecorded] at whole
    exact absurd (whole moved) Bool.false_ne_true
  | pruning accepted split disk moved recorded =>
    simp only [moved, if_true]
    obtain ⟨current, previous, pending, -⟩ := node.machine.disk.activated_frame (trimSpace version)
      binary (node.machine.clock node.machine.reads)
    obtain ⟨sameCurrent, samePrevious, samePending, -⟩ :=
      Disk.removeSuperseded_frame
        (node.machine.disk.activated (trimSpace version) binary
          (node.machine.clock node.machine.reads)) _ _
    rw [← disk] at sameCurrent samePrevious samePending
    exact watched.staged absent (sameCurrent.trans current) (samePrevious.trans previous)
      (samePending.trans pending)

/-! ## Confirmation -/

theorem Watched.confirmed {node : Node} {version : String} {machine : Machine}
    {running : Option String} {pending : PendingActivation} (watched : Watched node)
    (stored : node.machine.disk.pending = .stored pending) (same : pending.version = version)
    (current : machine.disk.current = node.machine.disk.current)
    (previous : machine.disk.previous = node.machine.disk.previous) :
    Watched { machine, running, confirmed := version :: node.confirmed, activation := none } := by
  refine ⟨fun other links => .inl ?_, fun other links => ?_, fun activation inProgress => ?_⟩
  · rcases watched.current other (current.symm.trans links) with before | ⟨activation, inProgress, rfl⟩
    · exact List.mem_cons_of_mem _ before
    · obtain ⟨-, pending', stored', same', -⟩ := watched.pending activation inProgress
      cases stored.symm.trans stored'
      rw [← same', same]
      exact List.mem_cons_self
  · exact List.mem_cons_of_mem _ (watched.previous other (previous.symm.trans links))
  · cases inProgress

theorem Watched.confirm {node : Node} {version : String} {machine : Machine}
    (watched : Watched node) (confirmed : Confirmed version node.machine machine) :
    Watched (node.confirming version machine) := by
  cases confirmed with
  | ignored other =>
    rw [Node.confirming_of_ignored other]
    exact watched.of_frame rfl rfl rfl
  | confirmed stored same readable =>
    rw [Node.confirming_of_stored stored same]
    exact watched.confirmed stored same rfl rfl

theorem Watched.crashedConfirm {node : Node} {version : String} {machine : Machine}
    {done : List DiskOp} (watched : Watched node)
    (instant : ConfirmInstant version node.machine (machine, done)) :
    Watched (node.crashedConfirm version machine done) := by
  unfold Node.crashedConfirm
  cases instant with
  | untouched disk kept =>
    simp only [kept]
    exact watched.of_frame (by rw [disk]) (by rw [disk]) (by rw [disk])
  | confirmed stored same disk removed =>
    simp only [removed, if_true]
    exact watched.confirmed stored same disk.frame.1 disk.frame.2.1

/-! ## Runs -/

theorem Watched.step {packaged : String} {node next : Node} {event : PowerEvent}
    (watched : Watched node) (whole : ActivatesWhole node event)
    (taken : node.powerStep packaged event = some next) : Watched next := by
  cases event with
  | call event =>
    have taken : node.step packaged event = some next := taken
    cases event with
    | start =>
      obtain ⟨action, machine, reconciled, rfl⟩ := Node.step_start taken
      exact watched.start reconciled
    | stage version binary =>
      obtain ⟨machine, staged, rfl⟩ := Node.step_stage taken
      exact watched.staged whole (by rw [staged.disk, Disk.staged_current])
        (by rw [staged.disk, Disk.staged_previous]) (by rw [staged.disk, Disk.staged_pending])
    | confirm =>
      obtain ⟨version, machine, -, confirmed, rfl⟩ := Node.step_confirm taken
      exact watched.confirm confirmed
  | crash event ops =>
    cases event with
    | start =>
      cases taken
      exact watched.crashedStart ((reconcile_instants _ _).interrupt ops)
    | stage version binary =>
      obtain ⟨-, -, rfl⟩ := Option.map_eq_some_iff.mp taken
      exact watched.crashedStage whole.1 whole.2 ((stage_instants version binary _).interrupt ops)
    | confirm =>
      obtain ⟨version, -, rfl⟩ := Option.map_eq_some_iff.mp taken
      exact watched.crashedConfirm ((confirm_instants version _).interrupt ops)

/-- Where every activation is recorded whole, an unconfirmed release behind
    `current` is the pending one, and it was started at most
    `defaultMaxActivationAttempts` times so far. -/
theorem unconfirmed_current_is_pending {packaged : String} {clock : Nat → Time}
    {events : List PowerEvent} {node : Node} {version : String}
    (run : replay (Node.powerStep packaged) (Node.fresh {} clock) events = some node)
    (whole : Guarded (Node.powerStep packaged) ActivatesWhole (Node.fresh {} clock) events)
    (links : node.machine.disk.current = some version) (unconfirmed : version ∉ node.confirmed) :
    (∃ pending, node.machine.disk.pending = .stored pending ∧ pending.version = version) ∧
      ∃ activation, node.activation = some activation ∧ activation.version = version ∧
        activation.starts ≤ defaultMaxActivationAttempts := by
  have watched : Watched node :=
    replay_invariant (fun _ _ _ => Watched.step) (watched_fresh clock) whole run
  rcases watched.current version links with confirmed | ⟨activation, inProgress, rfl⟩
  · exact absurd confirmed unconfirmed
  · obtain ⟨-, pending, stored, same, counted, few⟩ := watched.pending activation inProgress
    exact ⟨⟨pending, stored, same⟩, activation, inProgress, rfl, counted.trans few⟩

/-- Power cuts before the switch of `current` and during pruning. -/
def interruptedInstalls : List PowerEvent :=
  [.call .start, .call (.stage "v1.0.0" [1]), .call .start, .call .confirm,
    .crash (.stage "v2.0.0" [2]) 5, .call .start, .crash (.stage "v2.0.0" [2]) 9, .call .start]

theorem unconfirmed_current_is_pending_after_crashes :
    ∃ node, replay (Node.powerStep "v0.9.0") (Node.fresh {} fun _ => 0) interruptedInstalls =
        some node ∧
      (∃ pending, node.machine.disk.pending = .stored pending ∧ pending.version = "v2.0.0") ∧
      ∃ activation, node.activation = some activation ∧ activation.version = "v2.0.0" ∧
        activation.starts ≤ defaultMaxActivationAttempts := by
  have reached : (replay (Node.powerStep "v0.9.0") (Node.fresh {} fun _ => 0)
      interruptedInstalls).map (fun node => (node.machine.disk.current, node.confirmed)) =
        some (some "v2.0.0", ["v1.0.0"]) := by decide
  obtain ⟨node, run, observed⟩ := Option.map_eq_some_iff.mp reached
  rw [Prod.mk.injEq] at observed
  refine ⟨node, run, unconfirmed_current_is_pending run (by decide) observed.1 ?_⟩
  rw [observed.2]
  decide

/-- A power cut right after the switch of `current` leaves the new release running
    without a pending record. -/
theorem unconfirmed_current_without_pending :
    ¬ ∀ (packaged : String) (clock : Nat → Time) (events : List PowerEvent) (node : Node)
        (version : String),
      replay (Node.powerStep packaged) (Node.fresh {} clock) events = some node →
      node.machine.disk.current = some version → version ∉ node.confirmed →
      ∃ pending, node.machine.disk.pending = .stored pending ∧ pending.version = version := by
  intro claim
  have reached : (replay (Node.powerStep "v0.9.0") (Node.fresh {} fun _ => 0)
      [.call .start, .crash (.stage "v1.0.0" [1]) 5]).map (fun node =>
        (node.machine.disk.current, node.machine.disk.pending, node.confirmed)) =
      some (some "v1.0.0", .absent, []) := by decide
  obtain ⟨node, run, observed⟩ := Option.map_eq_some_iff.mp reached
  rw [Prod.mk.injEq, Prod.mk.injEq] at observed
  obtain ⟨links, absent, unconfirmed⟩ := observed
  obtain ⟨pending, stored, -⟩ := claim _ _ _ node "v1.0.0" run links (by simp [unconfirmed])
  cases absent.symm.trans stored

end Strom.Updates
