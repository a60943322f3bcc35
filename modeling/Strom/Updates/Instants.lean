import Strom.Updates.StoreSpec

/-!
# What is on disk at each instant of a store call

One inductive predicate per method, with one constructor for each phase of the
call: the disk between two operations, and which of the operations that matter
after a crash were already done.  `stage_instants`, `reconcile_instants` and
`confirm_instants` say that a call passes through these phases only, so that
`Instants.interrupt` gives all the states a crash can leave.
-/

namespace Strom.Updates

open Strom.Go Strom.Effects

/-- An operation that changes what `current` links to. -/
def DiskOp.movesCurrent : DiskOp → Bool
  | .atomicSymlink _ .current => true
  | .removeLink .current => true
  | _ => false

def DiskOp.recordsPending : DiskOp → Bool
  | .writePendingFile _ => true
  | _ => false

def DiskOp.removesPending : DiskOp → Bool
  | .removePendingFile => true
  | _ => false

/-- `I` holds of the machine and the operations done so far at every instant of `x`. -/
abbrev Instants {α : Type} (I : Machine × List DiskOp → Prop) (x : StoreAction α) (m : Machine)
    (log : List DiskOp) : Prop :=
  Action.Holds (Program.logged diskHandler) I x (fun _ _ => True) (m, log)

/-- What a crash after `ops` operations of `x` leaves: the machine, and the
    operations done before. -/
def interrupt {α : Type} (x : StoreAction α) (ops : Nat) (m : Machine) : Machine × List DiskOp :=
  (x.toProgram.cut diskHandler ops m, x.toProgram.issued diskHandler ops m)

theorem Instants.interrupt {α : Type} {I : Machine × List DiskOp → Prop} {x : StoreAction α}
    {m : Machine} (holds : Instants I x m []) (ops : Nat) : I (interrupt x ops m) := by
  have always := ((Program.holds_iff _ _ _).mp holds).1 ops
  rwa [Program.cut_logged, List.nil_append] at always

theorem Instants.pure {α : Type} {I : Machine × List DiskOp → Prop} {value : α} {m : Machine}
    {log : List DiskOp} (inv : I (m, log)) : Instants I (Pure.pure value : StoreAction α) m log :=
  ⟨inv, trivial⟩

theorem Instants.wrapping {α : Type} {I : Machine × List DiskOp → Prop} {context : String}
    {x : StoreAction α} {m : Machine} {log : List DiskOp} (holds : Instants I x m log) :
    Instants I (wrapping context x) m log :=
  Action.holds_mapError.mpr (Action.Holds.mono holds fun _ _ inv _ => ⟨inv, trivial⟩)

/-! ## Staging -/

/-- The checks of `StageAndActivate`. -/
structure Accepted (version : String) (binary : Bytes) (d : Disk) : Prop where
  release : checkRelease version binary = .ok ()
  upgrade : checkUpgrade version d.current = .ok ()

/-- Between two operations of `StageAndActivate version binary`, started on `m`. -/
inductive StageInstant (version : String) (binary : Bytes) (m : Machine) :
    Machine × List DiskOp → Prop where
  | untouched {log : List DiskOp} (kept : log.any DiskOp.movesCurrent = false) :
      StageInstant version binary m (m, log)
  | made {log : List DiskOp} (kept : log.any DiskOp.movesCurrent = false) :
      StageInstant version binary m ({ m with disk := m.disk.mkdir version }, log)
  | written {log : List DiskOp} (kept : log.any DiskOp.movesCurrent = false) :
      StageInstant version binary m
        ({ m with disk := (m.disk.mkdir version).writeBinary version binary }, log)
  | promoted {t : Machine} {log : List DiskOp}
      (disk : t.disk = ((m.disk.mkdir version).writeBinary version binary).promoted)
      (kept : log.any DiskOp.movesCurrent = false) :
      StageInstant version binary m (t, log)
  | switched {t : Machine} {log : List DiskOp}
      (disk : t.disk = ((m.disk.mkdir version).writeBinary version binary).promoted.setLink .current
        (some version))
      (moved : log.any DiskOp.movesCurrent = true)
      (unrecorded : log.any DiskOp.recordsPending = false) :
      StageInstant version binary m (t, log)
  | pruning {t : Machine} {done rest : List String} {log : List DiskOp}
      (accepted : Accepted version binary m.disk)
      (split : done ++ rest = (m.disk.activated version binary (m.clock m.reads)).dirs)
      (disk : t.disk = (m.disk.activated version binary (m.clock m.reads)).removeSuperseded
        (m.disk.activated version binary (m.clock m.reads)).linked done)
      (moved : log.any DiskOp.movesCurrent = true)
      (recorded : log.any DiskOp.recordsPending = true) :
      StageInstant version binary m (t, log)

/-- The removal loop passes through its partial results. -/
theorem instants_removeSuperseded {I : Machine × List DiskOp → Prop} (keep entries : List String)
    (m : Machine) (log : List DiskOp)
    (inv : ∀ done rest more, done ++ rest = entries →
      I ({ m with disk := m.disk.removeSuperseded keep done }, log ++ more)) :
    Instants I (removeSuperseded keep entries) m log := by
  induction entries generalizing m log with
  | nil => exact .pure (by simpa using inv [] [] [] rfl)
  | cons entry entries ih =>
    have first := inv [] (entry :: entries) [] rfl
    rw [List.append_nil] at first
    unfold removeSuperseded
    split
    · next kept =>
      refine ih m log fun done rest more split => ?_
      have later := inv (entry :: done) rest more (by simp [split])
      rwa [Disk.removeSuperseded, List.foldl_cons, if_pos kept] at later
    · next superseded =>
      have later (done rest : List String) (more : List DiskOp) (split : done ++ rest = entries) :
          I ({ m with disk := (m.disk.removeDir entry).removeSuperseded keep done },
            log ++ [.removeAll entry] ++ more) := by
        have at_done := inv (entry :: done) rest (.removeAll entry :: more) (by simp [split])
        rw [Disk.removeSuperseded, List.foldl_cons, if_neg superseded] at at_done
        rwa [List.append_assoc, List.singleton_append]
      refine Action.holds_seq (Instants.wrapping ⟨first, ?_, trivial⟩) rfl (ih _ _ later)
      simpa [diskHandler] using later [] entries [] rfl

/-- Reading the version of a link is one operation. -/
theorem holds_versionAtLink_bind {α : Type} {I : Machine × List DiskOp → Prop}
    {f : Option String → StoreProgram α} {Q : α → Machine × List DiskOp → Prop} (l : Link)
    (m : Machine) (log : List DiskOp) :
    ((versionAtLink l).bind f).Holds (Program.logged diskHandler) I Q (m, log) ↔
      I (m, log) ∧
        (f (m.disk.link l)).Holds (Program.logged diskHandler) I Q (m, log ++ [.readlink l]) := by
  simp only [versionAtLink, readlink, Program.bind_eq, Program.pure_eq, Program.perform_bind,
    Program.call_bind, Program.holds_call, Program.logged_apply, diskHandler]
  cases m.disk.link l <;> rfl

theorem instants_pruneReleases {I : Machine × List DiskOp → Prop} (m : Machine)
    (log : List DiskOp)
    (inv : ∀ done rest more, done ++ rest = m.disk.dirs →
      I ({ m with disk := m.disk.removeSuperseded m.disk.linked done }, log ++ more)) :
    Instants I pruneReleases m log := by
  have before (more : List DiskOp) : I (m, log ++ more) := by
    simpa using inv [] m.disk.dirs more rfl
  unfold pruneReleases Instants Action.Holds
  simp only [Action.toProgram_bind, Action.toProgram_always, Program.bind_assoc, Program.ret_bind,
    holds_versionAtLink_bind, readReleasesDir, Program.perform_bind, Program.call_bind,
    Program.holds_call, Program.logged_apply, diskHandler, List.append_assoc]
  refine ⟨by simpa using before [], before _, before _, ?_⟩
  cases m.disk.releasesDir with
  | false => exact ⟨before _, trivial⟩
  | true =>
    refine instants_removeSuperseded _ _ m _ fun done rest more split => ?_
    rw [List.append_assoc]
    exact inv done rest _ split

/-- Every instant of `StageAndActivate` is one of its phases. -/
theorem stage_instants (version : String) (binary : Bytes) (m : Machine) :
    Instants (StageInstant (trimSpace version) binary m) (stageAndActivate version binary) m [] := by
  unfold stageAndActivate Instants Action.Holds
  generalize trimSpace version = version
  simp only [Action.toProgram_bind, Action.toProgram_ofExcept, Action.toProgram_always,
    installedVersion, Program.ret_bind, Program.bind_assoc]
  cases release : checkRelease version binary with
  | error e => exact ⟨.untouched rfl, trivial⟩
  | ok _ =>
  simp only [holds_versionAtLink_bind]
  refine ⟨.untouched rfl, ?_⟩
  cases upgrade : checkUpgrade version (m.disk.link .current) with
  | error e => exact ⟨.untouched rfl, trivial⟩
  | ok _ =>
  have pruned {t : Machine} {log : List DiskOp}
      (state : t = { m with
        disk := m.disk.activated version binary (m.clock m.reads)
        reads := m.reads + 1 })
      (moved : log.any DiskOp.movesCurrent = true)
      (recorded : log.any DiskOp.recordsPending = true) :
      Instants (StageInstant version binary m) (wrapping "prune old releases" pruneReleases)
        t log := by
    subst state
    refine .wrapping (instants_pruneReleases _ _ fun done rest more split => ?_)
    exact .pruning ⟨release, upgrade⟩ split rfl (by simp [moved]) (by simp [recorded])
  simp only [wrapping, Action.toProgram_mapError, Action.toProgram_ofProgram, mkdirAll,
    atomicWriteExecutable, promoteCurrent, readlink, atomicSymlink, writePending, timeNow,
    Action.toProgram_bind, Action.toProgram_always, Program.perform_bind, Program.ret_bind,
    Program.call_bind, Program.holds_call, Program.logged_apply, diskHandler, Disk.link_mkdir,
    Disk.link_writeBinary, Except.mapError, List.nil_append, List.cons_append]
  refine ⟨.untouched rfl, .made rfl, .written rfl, ?_⟩
  cases current : m.disk.current with
  | none =>
    have unpromoted : ((m.disk.mkdir version).writeBinary version binary).promoted =
        (m.disk.mkdir version).writeBinary version binary := Disk.promoted_of_none current
    simp only [Disk.link, current, Action.toProgram_pure, Program.ret_bind, Program.holds_call,
      Program.logged_apply, diskHandler, List.cons_append, List.nil_append]
    refine ⟨.written rfl, .switched (by rw [unpromoted]) rfl rfl,
      .switched (by rw [unpromoted]) rfl rfl, ?_⟩
    exact pruned (by rw [Disk.activated, unpromoted]) rfl rfl
  | some target =>
    have promoted : ((m.disk.mkdir version).writeBinary version binary).promoted =
        ((m.disk.mkdir version).writeBinary version binary).setLink .previous (some target) :=
      Disk.promoted_of_some current
    simp only [Disk.link, current, Action.toProgram_mapError, Action.toProgram_ofProgram,
      Program.perform_bind, Program.call_bind, Program.ret_bind, Program.holds_call,
      Program.logged_apply, diskHandler, Except.mapError, List.cons_append, List.nil_append]
    refine ⟨.written rfl, .promoted (by rw [promoted]) rfl, .switched (by rw [promoted]) rfl rfl,
      .switched (by rw [promoted]) rfl rfl, ?_⟩
    exact pruned (by rw [Disk.activated, promoted]) rfl rfl

/-! ## Startup and confirmation -/

/-- `recordInstallOutcome` leaves the disk as it was or with the outcome recorded. -/
def OutcomePhase (succeededVersion failureMessage : String) (before after : Disk) : Prop :=
  after = before ∨ ∃ now status,
    after = before.outcomeRecorded succeededVersion failureMessage now status

theorem instants_recordInstallOutcome {I : Machine × List DiskOp → Prop}
    (succeededVersion failureMessage : String) (m : Machine) (log : List DiskOp)
    (inv : ∀ t more, OutcomePhase succeededVersion failureMessage m.disk t.disk →
      I (t, log ++ more)) :
    Instants I (recordInstallOutcome succeededVersion failureMessage) m log := by
  have before (reads : Nat) (more : List DiskOp) : I ({ m with reads }, log ++ more) :=
    inv _ more (.inl rfl)
  have start : I (m, log) := by simpa using before m.reads []
  unfold recordInstallOutcome Instants Action.Holds
  simp only [readStatus, readStatusFile, timeNow, writeStatus, Action.toProgram_bind,
    Action.toProgram_always, Action.toProgram_ofProgram, Program.perform_bind, Program.call_bind,
    Program.ret_bind, Program.holds_call, Program.logged_apply, diskHandler]
  refine ⟨start, ?_⟩
  have written (status : PersistedStatus) (more : List DiskOp) :
      I ({ m with
        disk := m.disk.outcomeRecorded succeededVersion failureMessage (m.clock m.reads) status
        reads := m.reads + 1 }, log ++ more) := inv _ more (.inr ⟨_, _, rfl⟩)
  cases m.disk.status with
  | absent =>
    refine ⟨before _ _, ?_, ?_, trivial⟩
    all_goals simp only [Program.logged, List.append_assoc]
    · exact before _ _
    · exact written _ _
  | malformed => exact ⟨before _ _, trivial⟩
  | stored status =>
    refine ⟨before _ _, ?_, ?_, trivial⟩
    all_goals simp only [Program.logged, List.append_assoc]
    · exact before _ _
    · exact written _ _

/-- Between two operations of `ReconcileStartup myVersion`, started on `m`. -/
inductive ReconcileInstant (myVersion : String) (m : Machine) : Machine × List DiskOp → Prop where
  | untouched {t : Machine} {log : List DiskOp} (disk : t.disk = m.disk)
      (kept : log.any DiskOp.movesCurrent = false) : ReconcileInstant myVersion m (t, log)
  | stale {t : Machine} {log : List DiskOp} {pending : PendingActivation}
      (stored : m.disk.pending = .stored pending) (other : pending.version ≠ myVersion)
      (disk : t.disk = m.disk.cleared) (kept : log.any DiskOp.movesCurrent = false) :
      ReconcileInstant myVersion m (t, log)
  | counted {t : Machine} {log : List DiskOp} {pending : PendingActivation}
      (stored : m.disk.pending = .stored pending) (same : pending.version = myVersion)
      (few : pending.attempts + 1 ≤ defaultMaxActivationAttempts)
      (disk : t.disk = { m.disk with
        pending := .stored { pending with attempts := pending.attempts + 1 } })
      (kept : log.any DiskOp.movesCurrent = false) : ReconcileInstant myVersion m (t, log)
  | rolledBack {t : Machine} {log : List DiskOp} {pending : PendingActivation}
      (stored : m.disk.pending = .stored pending) (same : pending.version = myVersion)
      (disk : t.disk = m.disk.rolledBack ∨
        ∃ message, OutcomePhase "" message m.disk.rolledBack.cleared t.disk)
      (moved : log.any DiskOp.movesCurrent = true) : ReconcileInstant myVersion m (t, log)

/-- `rollbackToPrevious` moves `current` in one operation. -/
theorem holds_rollbackToPrevious {I : Machine × List DiskOp → Prop}
    {Q : Except GoError Unit → Machine × List DiskOp → Prop} {m : Machine} {log : List DiskOp}
    (before : ∀ more, more.any DiskOp.movesCurrent = false → I (m, log ++ more))
    (after : ∀ more, more.any DiskOp.movesCurrent = true →
      I ({ m with disk := m.disk.rolledBack }, log ++ more) ∧
        Q (.ok ()) ({ m with disk := m.disk.rolledBack }, log ++ more)) :
    Action.Holds (Program.logged diskHandler) I rollbackToPrevious Q (m, log) := by
  have start : I (m, log) := by simpa using before [] rfl
  unfold rollbackToPrevious Action.Holds
  simp only [readlink, removeLink, atomicSymlink, Action.toProgram_bind, Action.toProgram_always,
    Program.perform_bind, Program.call_bind, Program.ret_bind, Program.holds_call,
    Program.logged_apply, diskHandler, Disk.link]
  refine ⟨start, ?_⟩
  cases previous : m.disk.previous with
  | some target =>
    have moved := after [.readlink .previous, .atomicSymlink target .current] rfl
    rw [Disk.rolledBack, previous, List.append_cons] at moved
    exact ⟨before _ rfl, moved⟩
  | none =>
    have moved := after [.readlink .previous, .removeLink .current] rfl
    rw [Disk.rolledBack, previous, List.append_cons] at moved
    refine ⟨before _ rfl, ?_⟩
    simp only [Program.logged_apply, diskHandler, Disk.link]
    cases m.disk.current with
    | none => exact moved
    | some _ => exact moved

/-- `clearPending` removes the record in one operation. -/
theorem holds_clearPending {I : Machine × List DiskOp → Prop}
    {Q : Except GoError Unit → Machine × List DiskOp → Prop} {m : Machine} {log : List DiskOp}
    (before : I (m, log))
    (after : I ({ m with disk := m.disk.cleared }, log ++ [.removePendingFile]) ∧
      Q (.ok ()) ({ m with disk := m.disk.cleared }, log ++ [.removePendingFile])) :
    Action.Holds (Program.logged diskHandler) I clearPending Q (m, log) := by
  unfold clearPending Action.Holds
  simp only [removePendingFile, Action.toProgram_bind, Action.toProgram_always,
    Program.perform_bind, Program.call_bind, Program.ret_bind, Program.holds_call,
    Program.logged_apply, diskHandler]
  refine ⟨before, ?_⟩
  cases m.disk.pending with
  | absent => exact after
  | malformed => exact after
  | stored _ => exact after

/-- Every instant of `reconcileAttempt` is one of the phases of `ReconcileStartup`. -/
theorem attempt_instants {pending : PendingActivation} {m : Machine} (log : List DiskOp)
    (kept : log.any DiskOp.movesCurrent = false) (stored : m.disk.pending = .stored pending) :
    Instants (ReconcileInstant pending.version m)
      (reconcileAttempt { pending with attempts := pending.attempts + 1 }) m log := by
  have untouched (reads : Nat) (more : List DiskOp) (stays : more.any DiskOp.movesCurrent = false) :
      ReconcileInstant pending.version m ({ m with reads }, log ++ more) :=
    .untouched rfl (by simp [kept, stays])
  have start : ReconcileInstant pending.version m (m, log) := .untouched rfl kept
  unfold reconcileAttempt
  refine Action.holds_seq ⟨start, untouched _ [.now] rfl, trivial⟩ rfl ?_
  split
  · refine Action.holds_bind.mpr (Action.holds_mapError.mpr (holds_rollbackToPrevious ?_ ?_))
    · intro more stays
      have kept' : ([DiskOp.now] ++ more).any DiskOp.movesCurrent = false := by
        simp [stays, DiskOp.movesCurrent]
      simpa [diskHandler] using untouched (m.reads + 1) _ kept'
    intro more moved
    have rolled (t : Machine) (later : List DiskOp)
        (disk : t.disk = m.disk.rolledBack ∨
          ∃ message, OutcomePhase "" message m.disk.rolledBack.cleared t.disk) :
        ReconcileInstant pending.version m (t, log ++ [.now] ++ more ++ later) :=
      .rolledBack stored rfl disk (by simp [moved])
    have switched := rolled { m with disk := m.disk.rolledBack, reads := m.reads + 1 } [] (.inl rfl)
    rw [List.append_nil] at switched
    refine ⟨switched, switched, ?_⟩
    refine Action.holds_bind.mpr (Action.holds_mapError.mpr (holds_clearPending switched ?_))
    have cleared := rolled { m with disk := m.disk.rolledBack.cleared, reads := m.reads + 1 }
      [.removePendingFile] (.inr ⟨"", .inl rfl⟩)
    refine ⟨cleared, cleared, ?_⟩
    refine Action.holds_bind.mpr (Action.Holds.mono
      (instants_recordInstallOutcome _ _ _ _ fun t later phase => ?_) fun result t inv _ => ?_)
    · rw [List.append_assoc]
      exact rolled t _ (.inr ⟨_, phase⟩)
    · cases result with
      | ok _ => exact ⟨inv, trivial⟩
      | error e => exact ⟨inv, trivial⟩
  · next fresh =>
    rw [not_or, not_lt, not_lt] at fresh
    refine Action.holds_seq (Instants.wrapping ⟨untouched _ [.now] rfl, ?_, trivial⟩) rfl ⟨?_, trivial⟩
    all_goals exact .counted stored rfl fresh.2 rfl (by simp [kept, DiskOp.movesCurrent])

/-- Every instant of `ReconcileStartup` is one of its phases. -/
theorem reconcile_instants (myVersion : String) (m : Machine) :
    Instants (ReconcileInstant myVersion m) (reconcileStartup myVersion) m [] := by
  unfold reconcileStartup Instants Action.Holds
  simp only [wrapping, readPending, readPendingFile, Action.toProgram_bind,
    Action.toProgram_mapError, Action.toProgram_always, Program.perform_bind, Program.call_bind,
    Program.ret_bind, Program.holds_call, Program.logged_apply, diskHandler]
  refine ⟨.untouched rfl rfl, ?_⟩
  cases pending : m.disk.pending with
  | absent => exact ⟨.untouched rfl rfl, trivial⟩
  | malformed => exact ⟨.untouched rfl rfl, trivial⟩
  | stored record =>
    simp only [RecordFile.read, Action.toProgram_pure, Program.ret_bind, Except.mapError]
    by_cases other : record.version ≠ myVersion
    · rw [if_pos other]
      refine Action.holds_bind.mpr (Action.holds_mapError.mpr (holds_clearPending ?_ ?_))
      · exact .untouched rfl rfl
      · exact ⟨.stale pending other rfl rfl, .stale pending other rfl rfl,
          .stale pending other rfl rfl, trivial⟩
    · rw [if_neg other]
      obtain rfl := not_not.mp other
      exact attempt_instants _ rfl pending

/-- Between two operations of `ConfirmHealthy myVersion`, started on `m`. -/
inductive ConfirmInstant (myVersion : String) (m : Machine) : Machine × List DiskOp → Prop where
  | untouched {t : Machine} {log : List DiskOp} (disk : t.disk = m.disk)
      (kept : log.any DiskOp.removesPending = false) : ConfirmInstant myVersion m (t, log)
  | confirmed {t : Machine} {log : List DiskOp} {pending : PendingActivation}
      (stored : m.disk.pending = .stored pending) (same : pending.version = myVersion)
      (disk : OutcomePhase myVersion "" m.disk.cleared t.disk)
      (removed : log.any DiskOp.removesPending = true) : ConfirmInstant myVersion m (t, log)

/-- Every instant of `ConfirmHealthy` is one of its phases. -/
theorem confirm_instants (myVersion : String) (m : Machine) :
    Instants (ConfirmInstant myVersion m) (confirmHealthy myVersion) m [] := by
  unfold confirmHealthy Instants Action.Holds
  simp only [wrapping, readPending, readPendingFile, Action.toProgram_bind,
    Action.toProgram_mapError, Action.toProgram_always, Program.perform_bind, Program.call_bind,
    Program.ret_bind, Program.holds_call, Program.logged_apply, diskHandler]
  refine ⟨.untouched rfl rfl, ?_⟩
  cases pending : m.disk.pending with
  | absent => exact ⟨.untouched rfl rfl, trivial⟩
  | malformed => exact ⟨.untouched rfl rfl, trivial⟩
  | stored record =>
    simp only [RecordFile.read, Action.toProgram_pure, Program.ret_bind, Except.mapError]
    by_cases other : record.version ≠ myVersion
    · rw [if_pos other]
      exact ⟨.untouched rfl rfl, trivial⟩
    · rw [if_neg other]
      have same := not_not.mp other
      refine Action.holds_bind.mpr (holds_clearPending (.untouched rfl rfl) ?_)
      refine ⟨.confirmed pending same (.inl rfl) rfl, ?_⟩
      refine instants_recordInstallOutcome _ _ _ _ fun t later phase => ?_
      exact .confirmed pending same phase (by simp [DiskOp.removesPending])

end Strom.Updates
