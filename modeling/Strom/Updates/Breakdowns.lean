import Strom.Effects.Provided
import Strom.Updates.StoreSpec

/-!
# Staging on a disk whose steps may fail

`breakable` lets any step of a store method fail.  A link or a record is replaced by a rename,
after which nothing can fail, so a failing replacement leaves it as it was; the other steps
leave any release directories behind.  `stage_error_keeps_iff` says for which failures a
`StageAndActivate` that returns an error has changed neither link nor the pending record.
-/

namespace Strom.Updates

open Strom.Go Strom.Effects

/-- How a step fails: its error, and the release directories it leaves. -/
structure Breakdown where
  error : GoError
  releasesDir : Bool := true
  dirs : List String := []
  binary : String → Option Bytes := fun _ => none

def Disk.broken (d : Disk) (b : Breakdown) : Disk :=
  { d with releasesDir := b.releasesDir, dirs := b.dirs, binary := b.binary }

/-- A step that fails. -/
def failing (b : Breakdown) : Handler DiskOp DiskOp.Reply Machine
  | .readlink _, m => (.error b.error, m)
  | .mkdirAll _, m => (.error b.error, { m with disk := m.disk.broken b })
  | .atomicWriteExecutable _ _, m => (.error b.error, { m with disk := m.disk.broken b })
  | .atomicSymlink _ _, m => (.error b.error, m)
  | .removeLink _, m => (.error b.error, m)
  | .readReleasesDir, m => (.error b.error, m)
  | .removeAll _, m => (.error b.error, { m with disk := m.disk.broken b })
  | .readPendingFile, m => (.error b.error, m)
  | .writePendingFile _, m => (.error b.error, m)
  | .removePendingFile, m => (.error b.error, m)
  | .readStatusFile, m => (.error b.error, m)
  | .writeStatusFile _, m => (.error b.error, m)
  -- the clock can always be read
  | .now, m => diskHandler .now m

/-- The operations, each of which fails or does what `diskHandler` says. -/
def breakable (op : DiskOp) : Option Breakdown → Machine → op.Reply × Machine
  | none => diskHandler op
  | some b => failing b op

/-- A machine with the failures to come. -/
abbrev Trial := Guided Machine (Option Breakdown)

abbrev attempt {α : Type} (x : StoreAction α) (g : Trial) : Except GoError α × Trial :=
  Action.exec (guide breakable) x g

/-- What decides which release the next start runs. -/
structure NextStart where
  current : Option String
  previous : Option String
  pending : RecordFile PendingActivation
deriving DecidableEq

def Disk.nextStart (d : Disk) : NextStart := ⟨d.current, d.previous, d.pending⟩

@[simp] theorem nextStart_broken (d : Disk) (b : Breakdown) : (d.broken b).nextStart = d.nextStart := rfl

@[simp] theorem nextStart_mkdir (d : Disk) (version : String) :
    (d.mkdir version).nextStart = d.nextStart := rfl

@[simp] theorem nextStart_writeBinary (d : Disk) (version : String) (content : Bytes) :
    (d.writeBinary version content).nextStart = d.nextStart := rfl

@[simp] theorem nextStart_removeDir (d : Disk) (version : String) :
    (d.removeDir version).nextStart = d.nextStart := rfl

/-! ## Single steps -/

section Steps

variable (g : Trial)

/-- What a link is seen to name: nothing if it cannot be read. -/
def seen (link : Option String) (step : Option Breakdown) : Option String :=
  match step with
  | none => link
  | some _ => none

theorem run_readlink_broken (l : Link) :
    (readlink l).run (guide breakable) g =
      ((breakable (.readlink l) g.choice g.state).1, g.next g.state) := by
  show ((breakable (.readlink l) g.choice g.state).1, g.next (breakable (.readlink l) g.choice g.state).2) = _
  cases g.choice <;> rfl

@[simp] theorem run_versionAtLink_broken (l : Link) :
    (versionAtLink l).run (guide breakable) g = (seen (g.state.disk.link l) g.choice, g.next g.state) := by
  unfold versionAtLink
  simp only [Program.bind_eq, Program.run_bind, run_readlink_broken]
  cases g.choice with
  | some b => rfl
  | none =>
    simp only [breakable, diskHandler, seen]
    cases g.state.disk.link l <;> rfl

@[simp] theorem attempt_wrapping {α : Type} (context : String) (x : StoreAction α) :
    attempt (wrapping context x) g = (wrapError context (attempt x g).1, (attempt x g).2) :=
  Action.exec_mapError ..

@[simp] theorem attempt_mkdirAll (version : String) :
    attempt (mkdirAll version) g = ((breakable (.mkdirAll version) g.choice g.state).1,
      g.next (breakable (.mkdirAll version) g.choice g.state).2) := rfl

@[simp] theorem attempt_atomicWriteExecutable (version : String) (content : Bytes) :
    attempt (atomicWriteExecutable version content) g =
      ((breakable (.atomicWriteExecutable version content) g.choice g.state).1,
        g.next (breakable (.atomicWriteExecutable version content) g.choice g.state).2) := rfl

@[simp] theorem attempt_atomicSymlink (target : String) (l : Link) :
    attempt (atomicSymlink target l) g = ((breakable (.atomicSymlink target l) g.choice g.state).1,
      g.next (breakable (.atomicSymlink target l) g.choice g.state).2) := rfl

@[simp] theorem attempt_removeAll (version : String) :
    attempt (removeAll version) g = ((breakable (.removeAll version) g.choice g.state).1,
      g.next (breakable (.removeAll version) g.choice g.state).2) := rfl

@[simp] theorem attempt_writePending (pending : PendingActivation) :
    attempt (writePending pending) g = ((breakable (.writePendingFile pending) g.choice g.state).1,
      g.next (breakable (.writePendingFile pending) g.choice g.state).2) := rfl

@[simp] theorem attempt_timeNow :
    attempt timeNow g = (.ok (g.state.clock g.state.reads),
      g.next { g.state with reads := g.state.reads + 1 }) := by
  show (Except.ok (breakable .now g.choice g.state).1, g.next (breakable .now g.choice g.state).2) = _
  cases g.choice <;> rfl

end Steps

/-! ## What an error leaves -/

/-- If the outcome is an error, `next` is what decides about the next start. -/
def Leaves (next : NextStart) (outcome : Except GoError Unit × Trial) : Prop :=
  ∀ e, outcome.1 = .error e → outcome.2.state.disk.nextStart = next

section Leaves

variable {next : NextStart}

@[simp] theorem leaves_ok (g : Trial) : Leaves next (.ok (), g) := by simp [Leaves]

@[simp] theorem leaves_error (e : GoError) (g : Trial) :
    Leaves next (.error e, g) ↔ g.state.disk.nextStart = next := by simp [Leaves]

theorem leaves_wrapping {context : String} {x : StoreAction Unit} {g : Trial} :
    Leaves next (attempt (wrapping context x) g) ↔ Leaves next (attempt x g) := by
  rw [attempt_wrapping]
  obtain ⟨result, t⟩ := attempt x g
  cases result <;> simp

theorem leaves_bind {α : Type} {x : StoreAction α} {f : α → StoreAction Unit} {g : Trial} :
    Leaves next (attempt (x >>= f) g) ↔ match attempt x g with
      | (.ok value, t) => Leaves next (attempt (f value) t)
      | (.error _, t) => t.state.disk.nextStart = next := by
  unfold attempt
  rw [Action.exec_bind]
  generalize Action.exec (guide breakable) x g = outcome
  obtain ⟨result, t⟩ := outcome
  cases result <;> simp

theorem leaves_always {α : Type} {p : StoreProgram α} {f : α → StoreAction Unit} {g : Trial} :
    Leaves next (attempt (Action.always p >>= f) g) ↔
      Leaves next (attempt (f (p.run (guide breakable) g).1) (p.run (guide breakable) g).2) := by
  rw [leaves_bind, attempt, Action.exec_always]

theorem leaves_ofExcept {r : Except GoError Unit} {f : Unit → StoreAction Unit} {g : Trial} :
    Leaves next (attempt (Action.ofExcept r >>= f) g) ↔ match r with
      | .ok () => Leaves next (attempt (f ()) g)
      | .error _ => g.state.disk.nextStart = next := by
  rw [leaves_bind, attempt, Action.exec_ofExcept]
  cases r <;> rfl

/-- A removal that fails is where the loop stops, and the loop touches no link and no record. -/
theorem leaves_removeSuperseded (keep entries : List String) (g : Trial) :
    Leaves next (attempt (removeSuperseded keep entries) g) ↔
      ((∃ i < (entries.filter (· ∉ keep)).length, g.choices (g.turn + i) ≠ none) →
        g.state.disk.nextStart = next) := by
  induction entries generalizing g with
  | nil => simp [removeSuperseded, attempt]
  | cons entry entries ih =>
    unfold removeSuperseded
    by_cases kept : entry ∈ keep
    · simp only [kept, if_true, ih, not_true_eq_false, decide_false, Bool.false_eq_true, not_false_eq_true,
        List.filter_cons_of_neg]
    · rw [if_neg kept, leaves_bind, attempt_wrapping, attempt_removeAll]
      have first : g.choice = g.choices (g.turn + 0) := rfl
      simp only [kept, not_false_eq_true, decide_true, List.filter_cons_of_pos, List.length_cons]
      cases choice : g.choice with
      | some b =>
        simp only [breakable, failing, wrapError_error]
        constructor
        · intro same _
          exact same
        · intro same
          apply same
          refine ⟨0, by omega, ?_⟩
          rw [← first, choice]
          simp
      | none =>
        simp only [breakable, diskHandler, wrapError_ok, ih]
        -- the removals that follow are numbered from the next turn on
        have shifted : (∃ i < (entries.filter (· ∉ keep)).length, g.choices (g.turn + 1 + i) ≠ none) ↔
            ∃ i < (entries.filter (· ∉ keep)).length + 1, g.choices (g.turn + i) ≠ none := by
          constructor
          · rintro ⟨i, below, fails⟩
            exact ⟨i + 1, by omega, by rwa [Nat.add_comm i, ← Nat.add_assoc]⟩
          · rintro ⟨i, below, fails⟩
            cases i with
            | zero => exact absurd (first.symm.trans choice) fails
            | succ i => exact ⟨i, by omega, by rwa [Nat.add_assoc, Nat.add_comm 1]⟩
        rw [← shifted]
        rfl

/-- Pruning fails: `releases` cannot be listed, or the removal of a release that neither link is
    seen to name fails.  `turn` is the number of its first step. -/
def PruneFails (choices : Nat → Option Breakdown) (turn : Nat) (d : Disk) : Prop :=
  let keep := (seen d.current (choices turn)).toList ++ (seen d.previous (choices (turn + 1))).toList
  match choices (turn + 2) with
  | some b => b.error.isNotExist = false
  | none => ∃ i < (d.dirs.filter (· ∉ keep)).length, choices (turn + 3 + i) ≠ none

theorem leaves_pruneReleases {g : Trial} (listed : g.state.disk.releasesDir = true) :
    Leaves next (attempt pruneReleases g) ↔
      (PruneFails g.choices g.turn g.state.disk → g.state.disk.nextStart = next) := by
  have listing : ∀ h : Trial, (readReleasesDir).run (guide breakable) h =
      ((breakable .readReleasesDir h.choice h.state).1, h.next (breakable .readReleasesDir h.choice h.state).2) :=
    fun _ => rfl
  unfold pruneReleases PruneFails
  simp only [leaves_always, run_versionAtLink_broken, listing]
  have third : ((g.next g.state).next g.state).choice = g.choices (g.turn + 2) := rfl
  simp only [Guided.state_next, third]
  cases g.choices (g.turn + 2) with
  | some b =>
    simp only [breakable, failing]
    cases b.error.isNotExist with
    | true => simp [attempt]
    | false => simp [attempt]
  | none =>
    simp only [breakable, diskHandler, listed, if_true]
    exact leaves_removeSuperseded _ _ _

/-- The disk with the pending activation that `StageAndActivate` records. -/
def Disk.recorded (d : Disk) (version : String) (now : Time) : Disk :=
  { d with pending := .stored { version, attempts := 0, firstAttemptAt := now } }

theorem leaves_record {g : Trial} (version : String) (listed : g.state.disk.releasesDir = true) :
    Leaves next (attempt (do
      let now ← timeNow
      wrapping "record pending activation" (writePending { version, attempts := 0, firstAttemptAt := now })
      wrapping "prune old releases" pruneReleases) g) ↔
      (g.choices (g.turn + 1) ≠ none → g.state.disk.nextStart = next) ∧
        (g.choices (g.turn + 1) = none →
          PruneFails g.choices (g.turn + 2) (g.state.disk.recorded version (g.state.clock g.state.reads)) →
          (g.state.disk.recorded version (g.state.clock g.state.reads)).nextStart = next) := by
  have writing : (g.next { g.state with reads := g.state.reads + 1 }).choice = g.choices (g.turn + 1) := rfl
  rw [leaves_bind, attempt_timeNow]
  dsimp only
  rw [leaves_bind, attempt_wrapping, attempt_writePending, writing]
  cases g.choices (g.turn + 1) with
  | some b => simp [breakable, failing]
  | none =>
    simp only [breakable, diskHandler, wrapError_ok, ne_eq, not_true_eq_false, false_implies, true_and,
      forall_const]
    rw [leaves_wrapping]
    exact leaves_pruneReleases listed

/-- The disk once the target that `current` is seen to name is promoted. -/
def Disk.promotedTo (d : Disk) : Option String → Disk
  | none => d
  | some target => d.setLink .previous (some target)

theorem attempt_promoteCurrent (g : Trial) :
    attempt promoteCurrent g = match seen g.state.disk.current g.choice with
      | none => (.ok (), g.next g.state)
      | some target =>
        let next := g.next g.state
        match next.choice with
        | none => (.ok (), next.next { g.state with disk := g.state.disk.promotedTo (some target) })
        | some b => (.error (.wrap "update previous slot" b.error), next.next g.state) := by
  unfold promoteCurrent
  unfold attempt
  rw [Action.exec_bind, Action.exec_always, run_readlink_broken]
  cases g.choice with
  | some b => rfl
  | none =>
    simp only [breakable, diskHandler, Disk.link, seen]
    cases g.state.disk.current with
    | none => rfl
    | some target =>
      simp only []
      rw [← attempt, attempt_wrapping, attempt_atomicSymlink]
      cases (g.next g.state).choice <;> rfl

/-- Where the step that replaces `current`, the one with the number `k`, or a later step fails,
    the disk `d` with what was written before that step has `next` to start. -/
structure Holding (next : NextStart) (version : String) (now : Time) (choices : Nat → Option Breakdown)
    (k : Nat) (d : Disk) : Prop where
  activate : choices k ≠ none → d.nextStart = next
  record : choices k = none → choices (k + 2) ≠ none →
    (d.setLink .current (some version)).nextStart = next
  prune : choices k = none → choices (k + 2) = none →
    PruneFails choices (k + 3) ((d.setLink .current (some version)).recorded version now) →
    ((d.setLink .current (some version)).recorded version now).nextStart = next

/-- From the step that replaces `current` on. -/
theorem leaves_activate {g : Trial} (version : String) (listed : g.state.disk.releasesDir = true) :
    Leaves next (attempt (do
      wrapping "activate new slot" (atomicSymlink version .current)
      let now ← timeNow
      wrapping "record pending activation" (writePending { version, attempts := 0, firstAttemptAt := now })
      wrapping "prune old releases" pruneReleases) g) ↔
      Holding next version (g.state.clock g.state.reads) g.choices g.turn g.state.disk := by
  have swapping : g.choice = g.choices g.turn := rfl
  rw [leaves_bind, attempt_wrapping, attempt_atomicSymlink, swapping]
  cases swaps : g.choices g.turn with
  | some b =>
    simp only [breakable, failing, wrapError_error]
    constructor
    · intro same
      exact ⟨fun _ => same, by simp [swaps], by simp [swaps]⟩
    · intro holding
      exact holding.activate (by simp [swaps])
  | none =>
    simp only [breakable, diskHandler, wrapError_ok]
    let swapped := g.next { g.state with disk := g.state.disk.setLink .current (some version) }
    have still : swapped.state.disk.releasesDir = true := listed
    apply (leaves_record version still).trans
    constructor
    · rintro ⟨record, prune⟩
      exact ⟨by simp [swaps], fun _ => record, fun _ => prune⟩
    · intro holding
      exact ⟨holding.record swaps, holding.prune swaps⟩

end Leaves

/-! ## The whole call -/

/-- What the call does before it replaces a link goes well: the checks, against what `current` is
    seen to name, and the steps that write the release. -/
def Prepares (version : String) (binary : Bytes) (m : Machine) (choices : Nat → Option Breakdown) : Prop :=
  checkRelease version binary = .ok () ∧
    checkUpgrade version (seen m.disk.current (choices 0)) = .ok () ∧
    choices 1 = none ∧ choices 2 = none

/-- The target that the call promotes to `previous`. -/
def promotedTarget (m : Machine) (choices : Nat → Option Breakdown) : Option String :=
  seen m.disk.current (choices 3)

/-- The number of the step that replaces `current`: the promotion takes one step. -/
def swapStep (m : Machine) (choices : Nat → Option Breakdown) : Nat :=
  if (promotedTarget m choices).isSome then 5 else 4

/-- The call gets as far as the step that replaces `current`. -/
def Reaches (version : String) (binary : Bytes) (m : Machine) (choices : Nat → Option Breakdown) : Prop :=
  Prepares version binary m choices ∧ ((promotedTarget m choices).isSome → choices 4 = none)

/-- The disk after the promotion. -/
def promotedDisk (version : String) (binary : Bytes) (m : Machine) (choices : Nat → Option Breakdown) : Disk :=
  ((m.disk.mkdir version).writeBinary version binary).promotedTo (promotedTarget m choices)

/-- The disk on which the call prunes. -/
def unprunedDisk (version : String) (binary : Bytes) (m : Machine) (choices : Nat → Option Breakdown) : Disk :=
  ((promotedDisk version binary m choices).setLink .current (some version)).recorded version (m.clock m.reads)

/-- No step fails after a link or the record was changed: where a later one does, what was
    written before it is what was there. -/
structure Undisturbed (version : String) (binary : Bytes) (m : Machine)
    (choices : Nat → Option Breakdown) : Prop where
  activate : Reaches version binary m choices → choices (swapStep m choices) ≠ none →
    ∀ target ∈ promotedTarget m choices, m.disk.previous = some target
  record : Reaches version binary m choices → choices (swapStep m choices) = none →
    choices (swapStep m choices + 2) ≠ none →
    (∀ target ∈ promotedTarget m choices, m.disk.previous = some target) ∧ m.disk.current = some version
  prune : Reaches version binary m choices → choices (swapStep m choices) = none →
    choices (swapStep m choices + 2) = none →
    PruneFails choices (swapStep m choices + 3) (unprunedDisk version binary m choices) →
    (∀ target ∈ promotedTarget m choices, m.disk.previous = some target) ∧ m.disk.current = some version ∧
      m.disk.pending = .stored { version, attempts := 0, firstAttemptAt := m.clock m.reads }

section Unchanged

variable (d : Disk) (version : String) (target : Option String)

theorem nextStart_promotedTo_iff :
    (d.promotedTo target).nextStart = d.nextStart ↔ ∀ named ∈ target, d.previous = some named := by
  cases target with
  | none => simp [Disk.promotedTo]
  | some named => simp [Disk.promotedTo, Disk.nextStart, Disk.setLink, eq_comm]

theorem nextStart_swapped_iff :
    ((d.promotedTo target).setLink .current (some version)).nextStart = d.nextStart ↔
      (∀ named ∈ target, d.previous = some named) ∧ d.current = some version := by
  cases target with
  | none => simp [Disk.promotedTo, Disk.nextStart, Disk.setLink, eq_comm]
  | some named => simp [Disk.promotedTo, Disk.nextStart, Disk.setLink, eq_comm, and_comm]

theorem nextStart_recorded_iff (now : Time) :
    (((d.promotedTo target).setLink .current (some version)).recorded version now).nextStart = d.nextStart ↔
      (∀ named ∈ target, d.previous = some named) ∧ d.current = some version ∧
        d.pending = .stored { version, attempts := 0, firstAttemptAt := now } := by
  cases target with
  | none => simp [Disk.promotedTo, Disk.recorded, Disk.nextStart, Disk.setLink, eq_comm]
  | some named =>
    simp only [Disk.promotedTo, Disk.recorded, Disk.nextStart, Disk.setLink, NextStart.mk.injEq,
      Option.mem_def, Option.some.injEq, forall_eq']
    grind

end Unchanged

/-- A call that reaches the swap of `current` runs it, and what follows, on a machine with the
    target promoted. -/
theorem leaves_promote {next : NextStart} {g : Trial} (f : Unit → StoreAction Unit) :
    Leaves next (attempt (promoteCurrent >>= f) g) ↔
      match seen g.state.disk.current g.choice with
      | none => Leaves next (attempt (f ()) (g.next g.state))
      | some target =>
        (g.choices (g.turn + 1) ≠ none → g.state.disk.nextStart = next) ∧
          (g.choices (g.turn + 1) = none → Leaves next (attempt (f ())
            ((g.next g.state).next { g.state with disk := g.state.disk.promotedTo (some target) }))) := by
  rw [leaves_bind, attempt_promoteCurrent]
  cases seen g.state.disk.current g.choice with
  | none => rfl
  | some target =>
    have promoting : (g.next g.state).choice = g.choices (g.turn + 1) := rfl
    simp only [promoting]
    cases g.choices (g.turn + 1) <;> simp

theorem undisturbed_of_not_reaches {version : String} {binary : Bytes} {m : Machine}
    {choices : Nat → Option Breakdown} (stops : ¬ Reaches version binary m choices) :
    Undisturbed version binary m choices :=
  ⟨fun reaches => absurd reaches stops, fun reaches => absurd reaches stops, fun reaches => absurd reaches stops⟩

/-- The call from the promotion on. -/
theorem leaves_prepared {next : NextStart} (version : String) (binary : Bytes) (m : Machine)
    (choices : Nat → Option Breakdown) :
    Leaves next (attempt (do
      promoteCurrent
      wrapping "activate new slot" (atomicSymlink version .current)
      let now ← timeNow
      wrapping "record pending activation" (writePending { version, attempts := 0, firstAttemptAt := now })
      wrapping "prune old releases" pruneReleases)
      { state := { m with disk := (m.disk.mkdir version).writeBinary version binary }, choices, turn := 3 }) ↔
      ((promotedTarget m choices).isSome → choices 4 ≠ none → m.disk.nextStart = next) ∧
      (((promotedTarget m choices).isSome → choices 4 = none) →
        Holding next version (m.clock m.reads) choices (swapStep m choices)
          (promotedDisk version binary m choices)) := by
  rw [leaves_promote]
  unfold swapStep promotedDisk
  show (match promotedTarget m choices with | none => _ | some _ => _) ↔ _
  cases promotedTarget m choices with
  | none =>
    rw [leaves_activate version rfl]
    simp
    rfl
  | some target =>
    simp only [Option.isSome_some, forall_const, if_true]
    apply and_congr Iff.rfl
    apply imp_congr Iff.rfl
    exact leaves_activate version rfl

theorem holding_iff_undisturbed {version : String} {binary : Bytes} {m : Machine}
    {choices : Nat → Option Breakdown} (prepares : Prepares version binary m choices) :
    ((promotedTarget m choices).isSome → choices 4 ≠ none → m.disk.nextStart = m.disk.nextStart) ∧
      (((promotedTarget m choices).isSome → choices 4 = none) →
        Holding m.disk.nextStart version (m.clock m.reads) choices (swapStep m choices)
          (promotedDisk version binary m choices)) ↔
      Undisturbed version binary m choices := by
  -- what is written before each of the later steps, compared with what was there
  have promoted := nextStart_promotedTo_iff ((m.disk.mkdir version).writeBinary version binary)
    (promotedTarget m choices)
  have swapped := nextStart_swapped_iff ((m.disk.mkdir version).writeBinary version binary) version
    (promotedTarget m choices)
  have recorded := nextStart_recorded_iff ((m.disk.mkdir version).writeBinary version binary) version
    (promotedTarget m choices) (m.clock m.reads)
  constructor
  · rintro ⟨-, holding⟩
    refine ⟨?_, ?_, ?_⟩
    · intro reaches fails
      exact promoted.mp ((holding reaches.2).activate fails)
    · intro reaches swaps fails
      exact swapped.mp ((holding reaches.2).record swaps fails)
    · intro reaches swaps writes fails
      exact recorded.mp ((holding reaches.2).prune swaps writes fails)
  · intro undisturbed
    refine ⟨fun _ _ => rfl, fun promotes => ⟨?_, ?_, ?_⟩⟩
    · intro fails
      exact promoted.mpr (undisturbed.activate ⟨prepares, promotes⟩ fails)
    · intro swaps fails
      exact swapped.mpr (undisturbed.record ⟨prepares, promotes⟩ swaps fails)
    · intro swaps writes fails
      exact recorded.mpr (undisturbed.prune ⟨prepares, promotes⟩ swaps writes fails)

theorem leaves_stageAndActivate (version : String) (binary : Bytes) (m : Machine)
    (choices : Nat → Option Breakdown) :
    Leaves m.disk.nextStart (attempt (stageAndActivate version binary) { state := m, choices }) ↔
      Undisturbed (trimSpace version) binary m choices := by
  have stopped : ∀ {disk : Disk}, disk.nextStart = m.disk.nextStart →
      ¬ Reaches (trimSpace version) binary m choices →
      (disk.nextStart = m.disk.nextStart ↔ Undisturbed (trimSpace version) binary m choices) :=
    fun same stops => ⟨fun _ => undisturbed_of_not_reaches stops, fun _ => same⟩
  unfold stageAndActivate
  dsimp only
  rw [leaves_ofExcept]
  cases release : checkRelease (trimSpace version) binary with
  | error e => exact stopped rfl (by simp [Reaches, Prepares, release])
  | ok checked =>
    dsimp only
    rw [leaves_always, leaves_ofExcept, installedVersion, run_versionAtLink_broken]
    cases upgrade : checkUpgrade (trimSpace version) (seen m.disk.current (choices 0)) with
    | error e =>
      simp only [Disk.link, Guided.choice, upgrade]
      exact stopped rfl (by simp [Reaches, Prepares, upgrade])
    | ok checked' =>
      simp only [Disk.link, Guided.choice, upgrade]
      rw [leaves_bind, attempt_wrapping, attempt_mkdirAll]
      simp only [Guided.next, Guided.choice, zero_add]
      cases made : choices 1 with
      | some b => exact stopped rfl (by simp [Reaches, Prepares, made])
      | none =>
        simp only [breakable, diskHandler, wrapError_ok]
        rw [leaves_bind, attempt_wrapping, attempt_atomicWriteExecutable]
        simp only [Guided.next, Guided.choice, Nat.reduceAdd]
        cases written : choices 2 with
        | some b => exact stopped rfl (by simp [Reaches, Prepares, written])
        | none =>
          simp only [breakable, diskHandler, wrapError_ok]
          apply (leaves_prepared (trimSpace version) binary m choices).trans
          exact holding_iff_undisturbed ⟨release, upgrade, made, written⟩

/-- A `StageAndActivate` that returns an error leaves the links and the pending record as they
    were, exactly if no step fails after one of them was changed. -/
theorem stage_error_keeps_iff (version : String) (binary : Bytes) (m : Machine)
    (choices : Nat → Option Breakdown) :
    (∀ e g, Action.exec (guide breakable) (stageAndActivate version binary) { state := m, choices } = (.error e, g) →
      g.state.disk.current = m.disk.current ∧ g.state.disk.previous = m.disk.previous ∧
        g.state.disk.pending = m.disk.pending) ↔
      Undisturbed (trimSpace version) binary m choices := by
  rw [← leaves_stageAndActivate]
  unfold Leaves attempt
  generalize Action.exec (guide breakable) (stageAndActivate version binary) _ = outcome
  obtain ⟨result, t⟩ := outcome
  simp [Disk.nextStart]

/-- The first installation of a node: the record of the pending activation cannot be written, and
    `current` names the new release all the same. -/
theorem failed_install_replaces_current :
    let m : Machine := { disk := {}, clock := fun _ => 0 }
    let full : Breakdown := { error := .os (.other "no space left on device") }
    let outcome := Action.exec (guide breakable) (stageAndActivate "v1.0.0" [1])
      { state := m, choices := fun step => if step = 6 then some full else none }
    outcome.1 = .error (.wrap "record pending activation" (.os (.other "no space left on device"))) ∧
      outcome.2.state.disk.current = some "v1.0.0" ∧ m.disk.current = none ∧
      outcome.2.state.disk.pending = .absent := by
  decide +kernel

end Strom.Updates
