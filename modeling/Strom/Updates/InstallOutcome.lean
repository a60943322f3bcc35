import Strom.Updates.VerifiedInstall

/-!
# What checks and installations leave on the disk

`Check` changes nothing on a node but its status.  `Install` changes the status and,
where every check passes, stages the release as `StageAndActivate` does.
-/

namespace Strom.Updates

open Strom.Go Strom.Effects

/-- The reply carries the metadata of `release`. -/
def Serves (p : Platform) (reply : HttpReply) (release : Release) : Prop :=
  ∃ body, reply.body? = some body ∧ p.decodeRelease body = .ok release

/-- What a check may record as the available version. -/
def Offer (p : Platform) (c : Checker) (reply : HttpReply) (available : String) : Prop :=
  available = "" ∨ ∃ release, Serves p reply release ∧ available = release.tagName ∧
    (Stable c.installedVersion → Newer release.tagName c.installedVersion)

/-- The disk with another status. -/
def Disk.withStatus (d : Disk) (status : PersistedStatus) : Disk :=
  { d with status := .stored status }

@[simp] theorem Disk.readableStatus_withStatus (d : Disk) (status : PersistedStatus) :
    (d.withStatus status).readableStatus = some status := rfl

@[simp] theorem Disk.available_withStatus (d : Disk) (status : PersistedStatus) :
    (d.withStatus status).available = status.availableVersion := rfl

@[simp] theorem Disk.withStatus_withStatus (d : Disk) (status status' : PersistedStatus) :
    (d.withStatus status).withStatus status' = d.withStatus status' := rfl

theorem updated_disk {w : CheckerWorld} {status : PersistedStatus}
    (readable : w.machine.disk.readableStatus = some status)
    (change : Time → PersistedStatus → PersistedStatus) :
    (w.updated change).machine.disk =
      w.machine.disk.withStatus (change (w.machine.clock w.machine.reads) status) := by
  unfold CheckerWorld.updated
  rw [readable]
  rfl

/-- The disk after `Install`, by its outcome. -/
inductive Installed (p : Platform) (c : Checker) (reply : HttpReply) (d : Disk) : Disk → Prop where
  | refused {status : PersistedStatus} (offer : Offer p c reply status.availableVersion) :
      Installed p c reply d (d.withStatus status)
  | staged {status status' : PersistedStatus} {release : Release} {binary : Bytes} {m t : Machine}
      (served : Serves p reply release) (checked : m.disk = d.withStatus status)
      (staged : Staged release.tagName binary m t) (cleared : status'.availableVersion = "") :
      Installed p c reply d (t.disk.withStatus status')

namespace Checker

variable {p : Platform} {c : Checker} {w : CheckerWorld} {status : PersistedStatus}

theorem checkAndVerify_disk (p : Platform) (c : Checker)
    (readable : w.machine.disk.readableStatus = some status) :
    ∃ status', (execOnline (c.checkAndVerify p) w).2.machine.disk =
        w.machine.disk.withStatus status' ∧
      Offer p c (w.replies w.requests) status'.availableVersion := by
  have unchanged := (machine_of_onlyGet (only_doCheck p c) w).1
  rw [exec_checkAndVerify]
  generalize ran : execOnline (c.doCheck p) w = outcome at unchanged
  obtain ⟨outcome, t⟩ := outcome
  have unchanged : t.machine = w.machine := unchanged
  show ∃ status', (t.updated (checkOutcome outcome)).machine.disk = _ ∧ _
  rw [updated_disk (unchanged ▸ readable), unchanged]
  refine ⟨checkOutcome outcome (w.machine.clock w.machine.reads) status, rfl, ?_⟩
  cases outcome with
  | error err => exact .inl rfl
  | ok checked =>
    obtain ⟨result, release, manifest⟩ := checked
    cases upToDate : result.upToDate with
    | true => left; simp [checkOutcome, upToDate]
    | false =>
      obtain ⟨offered, -, _, _, verified⟩ := doCheck_ok ran upToDate
      have served : Serves p (w.replies w.requests) release := verified.latest
      have available : (checkOutcome (.ok (result, release, manifest))
          (w.machine.clock w.machine.reads) status).availableVersion = release.tagName := by
        simp [checkOutcome, upToDate, offered, verified.tagged]
      exact .inr ⟨release, served, available, verified.newer⟩

theorem check_machine (w : CheckerWorld) :
    (execOnline (c.check p) w).2.machine = (execOnline (c.checkAndVerify p) w).2.machine :=
  Action.exec_bind_frame checkerHandler CheckerWorld.machine (fun _ _ => rfl) w

/-- What `Check` leaves on the disk. -/
theorem check_disk (p : Platform) (c : Checker) (w : CheckerWorld)
    (readable : w.machine.disk.readableStatus = some status) :
    ∃ status', (execOnline (c.check p) w).2.machine.disk = w.machine.disk.withStatus status' ∧
      Offer p c (w.replies w.requests) status'.availableVersion := by
  rw [check_machine]
  exact checkAndVerify_disk p c readable

theorem exec_recordingInstallError {α : Type} (x : CheckerAction α) (w : CheckerWorld) :
    execOnline (recordingInstallError x) w = match execOnline x w with
      | (.ok value, t) => (.ok value, t)
      | (.error err, t) => (.error err, t.updated (installErrorOutcome err)) := by
  unfold recordingInstallError
  simp only [execOnline, Action.exec_bind, Action.exec_always]
  show _ = match Action.exec checkerHandler x w with | (.ok value, t) => _ | (.error err, t) => _
  rw [← Action.exec]
  generalize Action.exec checkerHandler x w = outcome
  obtain ⟨outcome, t⟩ := outcome
  cases outcome with
  | ok value => rfl
  | error err => simp [recordInstallError]

theorem fetchRelease_machine (requestedVersion : String) (w : CheckerWorld) :
    (execOnline (c.fetchRelease p requestedVersion) w).2.machine =
      (execOnline (c.checkAndVerify p) w).2.machine :=
  Action.exec_bind_frame checkerHandler CheckerWorld.machine
    (fun checked t => (machine_of_onlyGet (only_downloadRelease requestedVersion checked) t).1) w

theorem execOnline_stageAndActivate (version : String) (binary : Bytes) (w : CheckerWorld) :
    execOnline (stageAndActivate version binary) w =
      w.call (Updates.stageAndActivate version binary) := by
  rw [execOnline, stageAndActivate, Action.exec_ofProgram, Program.run_perform, checkerHandler]

/-- The two ends of `StageAndActivate` within `Install`. -/
theorem activateRelease_disk (version : String) (binary : Bytes)
    (readable : w.machine.disk.readableStatus = some status) :
    (∃ err, (execOnline (activateRelease version binary) w).2.machine.disk =
        w.machine.disk.withStatus (installErrorOutcome err (w.machine.clock w.machine.reads) status)) ∨
      ∃ t status', Staged (trimSpace version) binary w.machine t ∧
        (execOnline (activateRelease version binary) w).2.machine.disk = t.disk.withStatus status' ∧
        status'.availableVersion = "" := by
  unfold activateRelease
  rw [execOnline, Action.exec_bind, ← execOnline, exec_recordingInstallError, execOnline_context,
    execOnline_stageAndActivate, CheckerWorld.call]
  cases ran : exec (Updates.stageAndActivate version binary) w.machine with
  | mk outcome t =>
    cases outcome with
    | error err =>
      left
      cases stageAndActivate_error ran
      exact ⟨_, updated_disk readable _⟩
    | ok staged =>
      right
      have staged := staged_of_exec ran
      have kept : t.disk.readableStatus = some status := by
        simpa only [Disk.readableStatus, staged.disk, Disk.staged_status] using readable
      simp only [wrapError_ok, Action.exec_bind, Action.exec_always, run_updateStatus,
        Action.exec_pure]
      exact ⟨t, _, staged, updated_disk kept installedOutcome, rfl⟩

/-- What `Install` leaves on the disk. -/
theorem install_disk (p : Platform) (c : Checker) (w : CheckerWorld) (requestedVersion : String)
    (readable : w.machine.disk.readableStatus = some status) :
    Installed p c (w.replies w.requests) w.machine.disk
      (execOnline (c.install p requestedVersion) w).2.machine.disk := by
  obtain ⟨status₁, checked, offer⟩ := checkAndVerify_disk p c readable
  rw [← fetchRelease_machine requestedVersion] at checked
  unfold install
  rw [execOnline, Action.exec_bind, ← execOnline, exec_recordingInstallError]
  cases fetched : execOnline (c.fetchRelease p requestedVersion) w with
  | mk outcome t =>
    rw [fetched] at checked
    have readable₁ : t.machine.disk.readableStatus = some status₁ := by rw [checked]; rfl
    cases outcome with
    | error err =>
      show Installed p c _ _ (t.updated (installErrorOutcome err)).machine.disk
      rw [updated_disk readable₁, checked, Disk.withStatus_withStatus]
      exact .refused offer
    | ok release =>
      obtain ⟨version, binary⟩ := release
      obtain ⟨release, _, _, manifest, _, _, verified⟩ := fetchRelease_ok fetched
      have named : version = release.tagName := verified.version.trans verified.tagged
      dsimp only
      rw [← execOnline]
      rcases activateRelease_disk version binary readable₁ with
        ⟨err, refused⟩ | ⟨m, status', staged, activated, cleared⟩
      · rw [refused, checked, Disk.withStatus_withStatus]
        exact .refused offer
      · rw [activated]
        rw [named, trimSpace_of_isStableVersion verified.stable] at staged
        exact .staged verified.latest checked staged cleared

end Checker

end Strom.Updates
