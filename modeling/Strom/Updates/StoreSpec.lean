import Strom.Updates.Store

/-!
# What each store method does

One lemma per method of `Store`, run to the end on `diskHandler`: the cases it
distinguishes and the machine it leaves.  Proofs about runs use these lemmas
and never open a method.
-/

namespace Strom.Updates

open Strom.Go Strom.Effects

/-- Run a store action to the end. -/
abbrev exec {α : Type} (x : StoreAction α) (m : Machine) : Except GoError α × Machine :=
  Action.exec diskHandler x m

/-- The disk without a pending activation. -/
def Disk.cleared (d : Disk) : Disk := { d with pending := .absent }

/-! ## File-system calls -/

section Calls

variable (m : Machine)

@[simp] theorem run_readlink (l : Link) :
    (readlink l).run diskHandler m =
      (match m.disk.link l with
        | some version => .ok version
        | none => .error (.os .notExist), m) := rfl

@[simp] theorem exec_mkdirAll (version : String) :
    exec (mkdirAll version) m = (.ok (), { m with disk := m.disk.mkdir version }) := rfl

@[simp] theorem exec_atomicWriteExecutable (version : String) (content : Bytes) :
    exec (atomicWriteExecutable version content) m =
      (.ok (), { m with disk := m.disk.writeBinary version content }) := rfl

@[simp] theorem exec_atomicSymlink (target : String) (l : Link) :
    exec (atomicSymlink target l) m =
      (.ok (), { m with disk := m.disk.setLink l (some target) }) := rfl

@[simp] theorem exec_removeAll (version : String) :
    exec (removeAll version) m = (.ok (), { m with disk := m.disk.removeDir version }) := rfl

@[simp] theorem exec_writePending (pending : PendingActivation) :
    exec (writePending pending) m =
      (.ok (), { m with disk := { m.disk with pending := .stored pending } }) := rfl

@[simp] theorem exec_writeStatus (status : PersistedStatus) :
    exec (writeStatus status) m =
      (.ok (), { m with disk := { m.disk with status := .stored status } }) := rfl

@[simp] theorem exec_timeNow :
    exec timeNow m = (.ok (m.clock m.reads), { m with reads := m.reads + 1 }) := rfl

@[simp] theorem run_versionAtLink (l : Link) :
    (versionAtLink l).run diskHandler m = (m.disk.link l, m) := by
  unfold versionAtLink
  simp only [Program.bind_eq, Program.run_bind, run_readlink]
  cases m.disk.link l <;> rfl

@[simp] theorem run_installedVersion :
    installedVersion.run diskHandler m = (m.disk.current, m) := run_versionAtLink m .current

@[simp] theorem exec_clearPending :
    exec clearPending m = (.ok (), { m with disk := m.disk.cleared }) := by
  unfold clearPending removePendingFile
  simp only [exec, Action.exec_bind, Action.exec_always, Program.run_perform, diskHandler]
  cases m.disk.pending <;> rfl

theorem exec_readPending :
    exec readPending m = (match m.disk.pending with
      | .absent => .ok none
      | .malformed => .error (.wrap "decode pending activation" (.text "invalid JSON"))
      | .stored pending => .ok (some pending), m) := by
  unfold readPending readPendingFile
  simp only [exec, Action.exec_bind, Action.exec_always, Program.run_perform, diskHandler]
  cases m.disk.pending <;> rfl

theorem exec_readStatus :
    exec readStatus m = (match m.disk.status with
      | .absent => .ok { schedulerEnabled := true }
      | .malformed => .error (.wrap "decode update status" (.text "invalid JSON"))
      | .stored status => .ok status, m) := by
  unfold readStatus readStatusFile
  simp only [exec, Action.exec_bind, Action.exec_always, Program.run_perform, diskHandler]
  cases m.disk.status <;> rfl

@[simp] theorem exec_wrapping {α : Type} (context : String) (x : StoreAction α) :
    exec (wrapping context x) m = (wrapError context (exec x m).1, (exec x m).2) :=
  Action.exec_mapError ..

end Calls

/-! ## Staging -/

namespace Disk

/-- The disk after the removal loop has gone through `entries`. -/
def removeSuperseded (d : Disk) (keep entries : List String) : Disk :=
  entries.foldl (fun d entry => if entry ∈ keep then d else d.removeDir entry) d

/-- The releases that pruning keeps. -/
def linked (d : Disk) : List String := d.current.toList ++ d.previous.toList

def pruned (d : Disk) : Disk :=
  if d.releasesDir then d.removeSuperseded d.linked d.dirs else d

/-- `previous` moved to the target of `current`, if there is one. -/
def promoted (d : Disk) : Disk :=
  match d.current with
  | some target => d.setLink .previous (some target)
  | none => d

/-- The disk before `StageAndActivate` prunes. -/
def activated (d : Disk) (version : String) (content : Bytes) (now : Time) : Disk :=
  { ((d.mkdir version).writeBinary version content).promoted.setLink .current (some version) with
    pending := .stored { version, attempts := 0, firstAttemptAt := now } }

/-- The disk a successful `StageAndActivate` leaves. -/
def staged (d : Disk) (version : String) (content : Bytes) (now : Time) : Disk :=
  (d.activated version content now).pruned

@[simp] theorem removeSuperseded_nil (d : Disk) (keep : List String) :
    d.removeSuperseded keep [] = d := rfl

/-- The removal loop changes nothing but the release directories. -/
theorem removeSuperseded_frame (d : Disk) (keep entries : List String) :
    (d.removeSuperseded keep entries).current = d.current ∧
      (d.removeSuperseded keep entries).previous = d.previous ∧
      (d.removeSuperseded keep entries).pending = d.pending ∧
      (d.removeSuperseded keep entries).status = d.status := by
  induction entries generalizing d with
  | nil => exact ⟨rfl, rfl, rfl, rfl⟩
  | cons entry entries ih =>
    unfold removeSuperseded
    rw [List.foldl_cons]
    split
    · exact ih d
    · exact ih (d.removeDir entry)

theorem binary_removeSuperseded (d : Disk) (keep entries : List String) (version : String) :
    (d.removeSuperseded keep entries).binary version =
      if version ∈ entries ∧ version ∉ keep then none else d.binary version := by
  induction entries generalizing d with
  | nil => simp [removeSuperseded]
  | cons entry entries ih =>
    unfold removeSuperseded at ih ⊢
    rw [List.foldl_cons]
    by_cases kept : entry ∈ keep
    · rw [if_pos kept, ih]
      by_cases same : version = entry <;> simp_all
    · rw [if_neg kept, ih]
      by_cases same : version = entry
      · subst same; simp [kept, removeDir]
      · simp [same, binary_removeDir_of_ne]

theorem mem_dirs_removeSuperseded (d : Disk) (keep entries : List String) (version : String) :
    version ∈ (d.removeSuperseded keep entries).dirs ↔
      version ∈ d.dirs ∧ (version ∈ entries → version ∈ keep) := by
  induction entries generalizing d with
  | nil => simp [removeSuperseded]
  | cons entry entries ih =>
    unfold removeSuperseded at ih ⊢
    rw [List.foldl_cons]
    by_cases kept : entry ∈ keep
    · rw [if_pos kept, ih]
      by_cases same : version = entry <;> simp_all
    · rw [if_neg kept, ih]
      by_cases same : version = entry <;> simp_all [removeDir]

theorem pruned_frame (d : Disk) :
    d.pruned.current = d.current ∧ d.pruned.previous = d.previous ∧
      d.pruned.pending = d.pending ∧ d.pruned.status = d.status := by
  unfold pruned
  split
  · exact d.removeSuperseded_frame _ _
  · exact ⟨rfl, rfl, rfl, rfl⟩

theorem promoted_frame (d : Disk) :
    d.promoted.current = d.current ∧ d.promoted.previous = d.current.or d.previous ∧
      d.promoted.pending = d.pending ∧ d.promoted.status = d.status ∧
      d.promoted.binary = d.binary ∧ d.promoted.dirs = d.dirs ∧
      d.promoted.releasesDir = d.releasesDir := by
  unfold promoted
  cases current : d.current <;> simp [setLink, current]

theorem promoted_of_none {d : Disk} (none : d.current = none) : d.promoted = d := by
  simp [promoted, none]

theorem promoted_of_some {d : Disk} {target : String} (some : d.current = some target) :
    d.promoted = d.setLink .previous (Option.some target) := by
  simp [promoted, some]

section Staged

variable (d : Disk) (version : String) (content : Bytes) (now : Time)

theorem activated_frame :
    (d.activated version content now).current = some version ∧
      (d.activated version content now).previous = d.current.or d.previous ∧
      (d.activated version content now).pending =
        .stored { version, attempts := 0, firstAttemptAt := now } ∧
      (d.activated version content now).status = d.status :=
  ⟨rfl, (promoted_frame _).2.1, rfl, (promoted_frame _).2.2.2.1⟩

@[simp] theorem staged_current : (d.staged version content now).current = some version :=
  (pruned_frame _).1.trans (d.activated_frame ..).1

@[simp] theorem staged_previous :
    (d.staged version content now).previous = d.current.or d.previous :=
  (pruned_frame _).2.1.trans (d.activated_frame ..).2.1

@[simp] theorem staged_pending :
    (d.staged version content now).pending =
      .stored { version, attempts := 0, firstAttemptAt := now } :=
  (pruned_frame _).2.2.1.trans (d.activated_frame ..).2.2.1

@[simp] theorem staged_status : (d.staged version content now).status = d.status :=
  (pruned_frame _).2.2.2.trans (d.activated_frame ..).2.2.2

end Staged

end Disk

@[simp] theorem exec_promoteCurrent (m : Machine) :
    exec promoteCurrent m = (.ok (), { m with disk := m.disk.promoted }) := by
  unfold promoteCurrent Disk.promoted
  simp only [exec, Action.exec_bind, Action.exec_always, run_readlink, Disk.link]
  cases m.disk.current <;> simp [exec]

@[simp] theorem exec_removeSuperseded (keep entries : List String) (m : Machine) :
    exec (removeSuperseded keep entries) m =
      (.ok (), { m with disk := m.disk.removeSuperseded keep entries }) := by
  induction entries generalizing m with
  | nil => rfl
  | cons entry entries ih =>
    unfold removeSuperseded Disk.removeSuperseded
    rw [List.foldl_cons]
    split
    · exact ih m
    · simp only [exec, Action.exec_bind, exec_wrapping, exec_removeAll, wrapError_ok, ih]
      rfl

@[simp] theorem exec_pruneReleases (m : Machine) :
    exec pruneReleases m = (.ok (), { m with disk := m.disk.pruned }) := by
  unfold pruneReleases readReleasesDir
  simp only [exec, Action.exec_bind, Action.exec_always, run_versionAtLink, Program.run_perform,
    diskHandler, Disk.pruned]
  cases m.disk.releasesDir with
  | false => rfl
  | true => exact exec_removeSuperseded _ _ m

/-- `StageAndActivate` either refuses and leaves the machine as it was, or stages. -/
theorem exec_stageAndActivate (version : String) (binary : Bytes) (m : Machine) :
    exec (stageAndActivate version binary) m =
      match checkRelease (trimSpace version) binary with
      | .error e => (.error e, m)
      | .ok () =>
        match checkUpgrade (trimSpace version) m.disk.current with
        | .error e => (.error e, m)
        | .ok () =>
          (.ok (), { m with
            disk := m.disk.staged (trimSpace version) binary (m.clock m.reads)
            reads := m.reads + 1 }) := by
  unfold stageAndActivate
  cases release : checkRelease (trimSpace version) binary with
  | error e => simp [exec, release]
  | ok checked =>
    cases upgrade : checkUpgrade (trimSpace version) m.disk.current with
    | error e => simp [exec, release, upgrade]
    | ok checked => simp [exec, release, upgrade, Disk.staged, Disk.activated]

theorem checkRelease_ok {version : String} {binary : Bytes}
    (ok : checkRelease version binary = .ok ()) : Stable version ∧ binary ≠ [] := by
  unfold checkRelease at ok
  split at ok
  · cases ok
  · split at ok
    · cases ok
    · next nonempty =>
      split at ok
      · cases ok
      · next parsed accepted =>
        exact ⟨⟨parsed, accepted⟩, fun empty => nonempty (by simp [empty])⟩

theorem checkUpgrade_ok {version installed : String}
    (ok : checkUpgrade version (some installed) = .ok ()) (stable : Stable version)
    (stableInstalled : Stable installed) : Newer version installed := by
  obtain ⟨candidate, candidateOk⟩ := stable
  obtain ⟨parsed, installedOk⟩ := stableInstalled
  simp only [checkUpgrade] at ok
  split at ok
  · cases ok
  · unfold Newer
    rw [isNewerStableVersion_ok candidateOk installedOk] at ok ⊢
    cases below : decide (parsed.key < candidate.key) with
    | false => simp [below] at ok
    | true => rfl

/-- What a successful `StageAndActivate` of `version` checked and did. -/
structure Staged (version : String) (binary : Bytes) (m t : Machine) : Prop where
  stable : Stable version
  nonempty : binary ≠ []
  upgrade : checkUpgrade version m.disk.current = .ok ()
  disk : t.disk = m.disk.staged version binary (m.clock m.reads)
  reads : t.reads = m.reads + 1
  clock : t.clock = m.clock

theorem staged_of_exec {version : String} {binary : Bytes} {m t : Machine}
    (ok : exec (stageAndActivate version binary) m = (.ok (), t)) :
    Staged (trimSpace version) binary m t := by
  rw [exec_stageAndActivate] at ok
  split at ok
  · cases ok
  · next release =>
    split at ok
    · cases ok
    · next upgrade =>
      cases ok
      have checked := checkRelease_ok release
      exact ⟨checked.1, checked.2, upgrade, rfl, rfl, rfl⟩

/-- A `StageAndActivate` that fails leaves the machine alone. -/
theorem stageAndActivate_error {version : String} {binary : Bytes} {m t : Machine} {err : GoError}
    (failed : exec (stageAndActivate version binary) m = (.error err, t)) : t = m := by
  rw [exec_stageAndActivate] at failed
  split at failed
  · cases failed; rfl
  · split at failed
    · cases failed; rfl
    · cases failed

theorem Staged.newer {version : String} {binary : Bytes} {m t : Machine} {installed : String}
    (staged : Staged version binary m t) (current : m.disk.current = some installed)
    (stable : Stable installed) : Newer version installed :=
  checkUpgrade_ok (current ▸ staged.upgrade) staged.stable stable

/-! ## Startup and confirmation -/

namespace Disk

def rolledBack (d : Disk) : Disk := d.setLink .current d.previous

/-- The disk after `recordInstallOutcome` has read `status`. -/
def outcomeRecorded (d : Disk) (succeededVersion failureMessage : String) (now : Time)
    (status : PersistedStatus) : Disk :=
  { d with status := .stored (installOutcome succeededVersion failureMessage now status) }

/-- What `ReadStatus` returns, if it does not fail. -/
def readableStatus (d : Disk) : Option PersistedStatus :=
  match d.status with
  | .absent => some { schedulerEnabled := true }
  | .malformed => none
  | .stored status => some status

/-- The version `ReadStatus` offers for installation. -/
def available (d : Disk) : String := (d.status.record?.map (·.availableVersion)).getD ""

@[simp] theorem readableStatus_cleared (d : Disk) : d.cleared.readableStatus = d.readableStatus := rfl

@[simp] theorem readableStatus_rolledBack (d : Disk) :
    d.rolledBack.readableStatus = d.readableStatus := rfl

theorem available_of_readable {d : Disk} {status : PersistedStatus}
    (readable : d.readableStatus = some status) : d.available = status.availableVersion := by
  unfold readableStatus at readable
  unfold available
  split at readable
  · next absent => cases readable; simp [absent]
  · cases readable
  · next stored => cases readable; simp [stored]

end Disk

@[simp] theorem exec_rollbackToPrevious (m : Machine) :
    exec rollbackToPrevious m = (.ok (), { m with disk := m.disk.rolledBack }) := by
  unfold rollbackToPrevious removeLink Disk.rolledBack
  simp only [exec, Action.exec_bind, Action.exec_always, run_readlink, Disk.link]
  cases previous : m.disk.previous with
  | some target => rfl
  | none =>
    cases current : m.disk.current <;>
      simp [diskHandler, Disk.link, current, GoError.isNotExist]

theorem exec_recordInstallOutcome (succeededVersion failureMessage : String) (m : Machine) :
    exec (recordInstallOutcome succeededVersion failureMessage) m =
      match m.disk.readableStatus with
      | none => (.error (.wrap "decode update status" (.text "invalid JSON")), m)
      | some status =>
        (.ok (), { m with
          disk := m.disk.outcomeRecorded succeededVersion failureMessage (m.clock m.reads) status
          reads := m.reads + 1 }) := by
  unfold recordInstallOutcome Disk.readableStatus
  simp only [exec, Action.exec_bind]
  rw [← exec, exec_readStatus]
  cases m.disk.status <;> rfl

/-- What a successful `ReconcileStartup` of `myVersion` does to the machine. -/
inductive Reconciled (myVersion : String) (m : Machine) : ReconcileAction → Machine → Prop where
  | settled (absent : m.disk.pending = .absent) : Reconciled myVersion m .none m
  | stale {pending : PendingActivation} (stored : m.disk.pending = .stored pending)
      (other : pending.version ≠ myVersion) :
      Reconciled myVersion m .none { m with disk := m.disk.cleared }
  | awaitingHealth {pending : PendingActivation} (stored : m.disk.pending = .stored pending)
      (same : pending.version = myVersion)
      (young : m.clock m.reads - pending.firstAttemptAt ≤ defaultMaxActivationAge)
      (few : pending.attempts + 1 ≤ defaultMaxActivationAttempts) :
      Reconciled myVersion m .awaitingHealth { m with
        disk := { m.disk with
          pending := .stored { pending with attempts := pending.attempts + 1 } }
        reads := m.reads + 1 }
  | rolledBack {pending : PendingActivation} {status : PersistedStatus}
      (stored : m.disk.pending = .stored pending) (same : pending.version = myVersion)
      (exhausted : m.clock m.reads - pending.firstAttemptAt > defaultMaxActivationAge ∨
        pending.attempts + 1 > defaultMaxActivationAttempts)
      (readable : m.disk.readableStatus = some status) :
      Reconciled myVersion m .rolledBack { m with
        disk := m.disk.rolledBack.cleared.outcomeRecorded ""
          ("update to " ++ pending.version ++ " failed to become healthy and was rolled back")
          (m.clock (m.reads + 1)) status
        reads := m.reads + 2 }

theorem reconciled_of_exec {myVersion : String} {m t : Machine} {action : ReconcileAction}
    (ok : exec (reconcileStartup myVersion) m = (.ok action, t)) :
    Reconciled myVersion m action t := by
  unfold reconcileStartup at ok
  simp only [Action.exec_bind, exec_wrapping, exec_readPending] at ok
  cases pending : m.disk.pending with
  | absent =>
    simp only [pending, wrapError_ok, Action.exec_pure] at ok
    cases ok
    exact .settled pending
  | malformed => simp [pending] at ok
  | stored pending' =>
    simp only [pending, wrapError_ok] at ok
    by_cases same : pending'.version = myVersion
    · subst same
      simp only [ne_eq, not_true_eq_false, if_false, reconcileAttempt, Action.exec_bind,
        exec_timeNow] at ok
      split at ok
      · next exhausted =>
        simp only [Action.exec_bind, exec_wrapping, exec_rollbackToPrevious, exec_clearPending,
          exec_recordInstallOutcome, wrapError_ok, Disk.readableStatus_cleared,
          Disk.readableStatus_rolledBack] at ok
        cases readable : m.disk.readableStatus with
        | none => simp [readable] at ok
        | some status =>
          simp only [readable, Action.exec_pure] at ok
          cases ok
          exact .rolledBack pending rfl exhausted readable
      · next fresh =>
        simp only [Action.exec_bind, exec_wrapping, exec_writePending, wrapError_ok,
          Action.exec_pure] at ok
        cases ok
        rw [not_or, not_lt, not_lt] at fresh
        exact .awaitingHealth pending rfl fresh.1 fresh.2
    · simp only [ne_eq, same, not_false_eq_true, if_true, Action.exec_bind, exec_wrapping,
        exec_clearPending, wrapError_ok, Action.exec_pure] at ok
      cases ok
      exact .stale pending same

/-- `ReconcileStartup` fails only on a record that does not decode. -/
theorem reconcileStartup_succeeds (myVersion : String) {m : Machine} {status : PersistedStatus}
    (wellFormed : m.disk.pending ≠ .malformed) (readable : m.disk.readableStatus = some status) :
    ∃ action t, exec (reconcileStartup myVersion) m = (.ok action, t) := by
  unfold reconcileStartup
  simp only [Action.exec_bind, exec_wrapping, exec_readPending]
  cases pending : m.disk.pending with
  | absent => exact ⟨_, _, rfl⟩
  | malformed => exact absurd pending wellFormed
  | stored pending' =>
    simp only [wrapError_ok]
    split
    · exact ⟨_, _, by
        simp only [Action.exec_bind, exec_wrapping, exec_clearPending, wrapError_ok,
          Action.exec_pure]; rfl⟩
    · simp only [reconcileAttempt, Action.exec_bind, exec_timeNow]
      split
      · exact ⟨_, _, by
          simp only [Action.exec_bind, exec_wrapping, exec_rollbackToPrevious, exec_clearPending,
            exec_recordInstallOutcome, wrapError_ok, Disk.readableStatus_cleared,
            Disk.readableStatus_rolledBack, readable, Action.exec_pure]; rfl⟩
      · exact ⟨_, _, by
          simp only [Action.exec_bind, exec_wrapping, exec_writePending, wrapError_ok,
            Action.exec_pure]; rfl⟩

/-- What a successful `ConfirmHealthy` of `myVersion` does to the machine. -/
inductive Confirmed (myVersion : String) (m : Machine) : Machine → Prop where
  | ignored (other : ∀ pending, m.disk.pending = .stored pending → pending.version ≠ myVersion) :
      Confirmed myVersion m m
  | confirmed {pending : PendingActivation} {status : PersistedStatus}
      (stored : m.disk.pending = .stored pending) (same : pending.version = myVersion)
      (readable : m.disk.readableStatus = some status) :
      Confirmed myVersion m { m with
        disk := m.disk.cleared.outcomeRecorded myVersion "" (m.clock m.reads) status
        reads := m.reads + 1 }

theorem confirmed_of_exec {myVersion : String} {m t : Machine}
    (ok : exec (confirmHealthy myVersion) m = (.ok (), t)) : Confirmed myVersion m t := by
  unfold confirmHealthy at ok
  simp only [Action.exec_bind, exec_wrapping, exec_readPending] at ok
  cases pending : m.disk.pending with
  | absent =>
    simp only [pending, wrapError_ok, Action.exec_pure] at ok
    cases ok
    exact .ignored (by simp [pending])
  | malformed => simp [pending] at ok
  | stored pending' =>
    simp only [pending, wrapError_ok] at ok
    by_cases same : pending'.version = myVersion
    · simp only [same, ne_eq, not_true_eq_false, if_false, Action.exec_bind, exec_clearPending,
        exec_recordInstallOutcome, Disk.readableStatus_cleared] at ok
      cases readable : m.disk.readableStatus with
      | none => simp [readable] at ok
      | some status =>
        simp only [readable] at ok
        cases ok
        exact .confirmed pending same readable
    · simp only [ne_eq, same, not_false_eq_true, if_true, Action.exec_pure] at ok
      cases ok
      refine .ignored fun other stored => ?_
      cases pending.symm.trans stored
      exact same

/-- `ConfirmHealthy` fails only on a record that does not decode. -/
theorem confirmHealthy_succeeds (myVersion : String) {m : Machine} {status : PersistedStatus}
    (wellFormed : m.disk.pending ≠ .malformed) (readable : m.disk.readableStatus = some status) :
    ∃ t, exec (confirmHealthy myVersion) m = (.ok (), t) := by
  unfold confirmHealthy
  simp only [Action.exec_bind, exec_wrapping, exec_readPending]
  cases pending : m.disk.pending with
  | absent => exact ⟨_, rfl⟩
  | malformed => exact absurd pending wellFormed
  | stored pending' =>
    simp only [wrapError_ok]
    split
    · exact ⟨_, rfl⟩
    · exact ⟨_, by
        simp only [Action.exec_bind, exec_clearPending, exec_recordInstallOutcome,
          Disk.readableStatus_cleared, readable]; rfl⟩

end Strom.Updates
