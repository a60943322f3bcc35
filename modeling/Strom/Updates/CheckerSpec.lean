import Strom.Updates.Checker

/-!
# What the checker establishes

`Verified` collects what `doCheck` knows of a release that it reports as available,
`Fetched` what `Install` knows of the binary it stages.  Both speak about the replies
the server gave.
-/

namespace Strom.Updates

open Strom.Go Strom.Effects

/-! ## What is requested and stored -/

/-- A request to the server. -/
def CheckerOp.isGet : CheckerOp → Bool
  | .get _ => true
  | _ => false

def CheckerOp.isStage : CheckerOp → Bool
  | .stageAndActivate _ _ => true
  | _ => false

namespace Checker

variable {p : Platform} {c : Checker} {w w' : CheckerWorld}

theorem only_require {α : Type} {P : CheckerOp → Prop} (value : Option α) (e : GoError) :
    Action.Only P (require value e) := by
  cases value <;> trivial

theorem only_latestRelease (github : GitHubClient) :
    Action.Only (fun op => op.isGet = true) (github.latestRelease p) := by
  refine Action.Only.bind ?_ fun body => Action.Only.bind (Action.only_ofExcept _) fun release =>
    Action.Only.bind (Action.only_ofExcept _) fun _ => Action.only_pure _
  exact Action.Only.bind (Action.Only.always (Program.only_perform rfl)) fun _ =>
    Action.only_ofExcept _

theorem only_downloadAsset (github : GitHubClient) (url : String) :
    Action.Only (fun op => op.isGet = true) (github.downloadAsset p url) := by
  refine Action.Only.bind (Action.only_ofExcept _) fun _ => ?_
  exact Action.Only.bind (Action.Only.always (Program.only_perform rfl)) fun _ =>
    Action.only_ofExcept _

theorem only_verifyManifest (github : GitHubClient) (release : Release) :
    Action.Only (fun op => op.isGet = true) (c.verifyManifest p github release) := by
  refine Action.Only.bind (only_require _ _) fun manifestAsset => ?_
  refine Action.Only.bind (only_require _ _) fun sigAsset => ?_
  refine Action.Only.bind (only_downloadAsset github _).mapError fun manifestBytes => ?_
  refine Action.Only.bind (only_downloadAsset github _).mapError fun sigBytes => ?_
  refine Action.Only.bind (Action.only_ofExcept _) fun _ => ?_
  refine Action.Only.bind (Action.only_ofExcept _) fun manifest => ?_
  refine Action.Only.bind (Action.only_ofExcept _) fun _ => ?_
  exact Action.Only.bind (only_require _ _) fun _ => Action.only_pure _

theorem only_doCheck (p : Platform) (c : Checker) :
    Action.Only (fun op => op.isGet = true) (c.doCheck p) := by
  refine Action.Only.bind (only_require _ _) fun github => ?_
  refine Action.Only.bind (Action.only_ofExcept _) fun _ => ?_
  refine Action.Only.bind (only_latestRelease github).mapError fun release => ?_
  refine Action.Only.bind (Action.only_ofExcept _) fun stop => ?_
  cases stop with
  | true => exact Action.only_pure _
  | false => exact only_verifyManifest github release

theorem only_updateStatus (change : Time → PersistedStatus → PersistedStatus) :
    (updateStatus change).Only (fun op => op.isStage = false) := by
  refine Program.Only.bind (Program.only_perform rfl) fun status => ?_
  cases status with
  | error e => exact Program.only_ret _
  | ok status =>
    refine Program.Only.bind (Program.only_perform rfl) fun now => ?_
    exact Program.Only.bind (Program.only_perform rfl) fun _ => Program.only_ret _

theorem only_downloadRelease (requestedVersion : String)
    (checked : CheckResult × Release × Manifest) :
    Action.Only (fun op => op.isGet = true) (c.downloadRelease p requestedVersion checked) := by
  refine Action.Only.bind (Action.only_ofExcept _) fun _ => ?_
  refine Action.Only.bind (Action.only_ofExcept _) fun _ => ?_
  refine Action.Only.bind (only_require _ _) fun artifact => ?_
  refine Action.Only.bind (only_require _ _) fun archiveAsset => ?_
  refine Action.Only.bind (only_require _ _) fun github => ?_
  refine Action.Only.bind (only_downloadAsset github _).mapError fun archiveBytes => ?_
  exact Action.Only.bind (Action.only_ofExcept _) fun binary => Action.only_pure _

theorem isStage_of_isGet {op : CheckerOp} (get : op.isGet = true) : op.isStage = false := by
  cases op with
  | get request => rfl
  | _ => cases get

theorem only_checkAndVerify : Action.Only (fun op => op.isStage = false) (c.checkAndVerify p) := by
  refine Action.Only.bind (Action.Only.always ?_) fun outcome => ?_
  · exact Program.Only.weaken (only_doCheck p c) fun _ => isStage_of_isGet
  · exact Action.Only.bind (Action.Only.always (only_updateStatus _)) fun _ => Action.only_ofExcept _

theorem only_fetchRelease (requestedVersion : String) :
    Action.Only (fun op => op.isStage = false) (c.fetchRelease p requestedVersion) :=
  Action.Only.bind only_checkAndVerify fun checked =>
    Program.Only.weaken (only_downloadRelease requestedVersion checked) fun _ => isStage_of_isGet

/-- A request changes nothing on the node. -/
theorem machine_of_onlyGet {α : Type} {x : CheckerAction α}
    (only : Action.Only (fun op => op.isGet = true) x) (w : CheckerWorld) :
    (execOnline x w).2.machine = w.machine ∧ (execOnline x w).2.replies = w.replies := by
  have keeps : ∀ op (t : CheckerWorld), op.isGet = true →
      (t.machine = w.machine ∧ t.replies = w.replies) →
      (checkerHandler op t).2.machine = w.machine ∧ (checkerHandler op t).2.replies = w.replies := by
    intro op t get kept
    cases op with
    | get request => exact kept
    | _ => cases get
  exact Program.Only.run keeps only ⟨rfl, rfl⟩

/-! ## A verified release -/

section Steps

variable {α β : Type} {f : α → CheckerAction β} {b : β}

theorem ofExcept_bind_ok {value : Except GoError α}
    (ok : execOnline (Action.ofExcept value >>= f) w = (.ok b, w')) :
    ∃ a, value = .ok a ∧ execOnline (f a) w = (.ok b, w') := by
  obtain ⟨a, t, first, rest⟩ := Action.exec_bind_ok _ ok
  rw [Action.exec_ofExcept, Prod.mk.injEq] at first
  obtain ⟨first, rfl⟩ := first
  exact ⟨a, first, rest⟩

theorem require_bind_ok {value : Option α} {e : GoError}
    (ok : execOnline (require value e >>= f) w = (.ok b, w')) :
    ∃ a, value = some a ∧ execOnline (f a) w = (.ok b, w') := by
  cases value with
  | none => cases ok
  | some a => exact ⟨a, rfl, ok⟩

theorem context_bind_ok {text : String} {x : CheckerAction α}
    (ok : execOnline (context text x >>= f) w = (.ok b, w')) :
    ∃ a t, execOnline x w = (.ok a, t) ∧ execOnline (f a) t = (.ok b, w') := by
  obtain ⟨a, t, first, rest⟩ := Action.exec_bind_ok _ ok
  rw [← execOnline, execOnline_context, Prod.mk.injEq, wrapError_eq_ok] at first
  exact ⟨a, t, Prod.ext first.1 first.2, rest⟩

end Steps

theorem downloadAsset_bind_ok {β : Type} {github : GitHubClient} {text url : String}
    {f : Bytes → CheckerAction β} {b : β}
    (ok : execOnline (context text (github.downloadAsset p url) >>= f) w = (.ok b, w')) :
    ∃ content, (w.replies w.requests).body? = some content ∧
      execOnline (f content) w.requested = (.ok b, w') := by
  obtain ⟨content, t, got, rest⟩ := context_bind_ok ok
  obtain ⟨rfl, delivered⟩ := GitHubClient.downloadAsset_ok got
  exact ⟨content, delivered, rest⟩

end Checker

/-- The checks on the release that the replies from `n` on deliver: its metadata,
    its manifest and the signature of the manifest. -/
structure Verified (p : Platform) (c : Checker) (replies : Nat → HttpReply) (n : Nat)
    (release : Release) (manifestBytes signature : Bytes) (manifest : Manifest) : Prop where
  latest : ∃ body, (replies n).body? = some body ∧ p.decodeRelease body = .ok release
  stable : isStableVersion release.tagName = true
  newer : Stable c.installedVersion → Newer release.tagName c.installedVersion
  manifestDelivered : (replies (n + 1)).body? = some manifestBytes
  signatureDelivered : (replies (n + 2)).body? = some signature
  signed : p.ed25519Verify c.publicKeyOrDefault manifestBytes signature = true
  decoded : p.decodeManifest manifestBytes = .ok manifest
  tagged : manifest.version = release.tagName

theorem parseManifest_ok {decode : Bytes → Except GoError Manifest} {manifestBytes : Bytes}
    {manifest : Manifest} (ok : parseManifest decode manifestBytes = .ok manifest) :
    decode manifestBytes = .ok manifest := by
  simp only [parseManifest, except_bind_eq_ok, wrapError_eq_ok] at ok
  obtain ⟨decoded, decode, _, -, _, -, _, -, _, -, same⟩ := ok
  cases same
  exact decode

namespace Checker

variable {p : Platform} {c : Checker} {w w' : CheckerWorld} {release release' : Release}
  {manifest : Manifest} {result : CheckResult}

theorem nothingNewer_false (gate : c.nothingNewer release = .ok false) :
    Stable c.installedVersion → Newer release.tagName c.installedVersion := by
  rintro ⟨parsed, ok⟩
  rw [nothingNewer, ok] at gate
  unfold Newer
  cases compared : isNewerStableVersion release.tagName c.installedVersion with
  | error e => simp [compared, Except.map] at gate
  | ok newer => cases newer <;> simp_all [Except.map]

/-- What `verifyManifest` has checked when it succeeds. -/
theorem verifyManifest_ok {github : GitHubClient}
    (ok : execOnline (c.verifyManifest p github release) w = (.ok (result, release', manifest), w')) :
    release' = release ∧ result.upToDate = false ∧ result.availableVersion = manifest.version ∧
      w' = w.requested.requested ∧ ∃ manifestBytes signature,
        (w.replies w.requests).body? = some manifestBytes ∧
        (w.replies (w.requests + 1)).body? = some signature ∧
        p.ed25519Verify c.publicKeyOrDefault manifestBytes signature = true ∧
        p.decodeManifest manifestBytes = .ok manifest ∧ manifest.version = release.tagName := by
  obtain ⟨manifestAsset, -, rest⟩ := require_bind_ok ok
  obtain ⟨sigAsset, -, rest⟩ := require_bind_ok rest
  obtain ⟨manifestBytes, manifestDelivered, rest⟩ := downloadAsset_bind_ok rest
  obtain ⟨signature, signatureDelivered, rest⟩ := downloadAsset_bind_ok rest
  obtain ⟨_, verified, rest⟩ := ofExcept_bind_ok rest
  obtain ⟨parsed, decoded, rest⟩ := ofExcept_bind_ok rest
  obtain ⟨_, tagged, rest⟩ := ofExcept_bind_ok rest
  obtain ⟨_, -, rest⟩ := require_bind_ok rest
  cases rest
  refine ⟨rfl, rfl, rfl, rfl, manifestBytes, signature, manifestDelivered, signatureDelivered,
    verifyManifestSignature_ok (wrapError_eq_ok.mp verified),
    parseManifest_ok (wrapError_eq_ok.mp decoded), ?_⟩
  exact not_not.mp (rejectIf_eq_ok.mp tagged)

/-- `doCheck` reports a release as available only if it is verified. -/
theorem doCheck_ok (ok : execOnline (c.doCheck p) w = (.ok (result, release, manifest), w'))
    (available : result.upToDate = false) :
    result.availableVersion = manifest.version ∧ w'.requests = w.requests + 3 ∧
      ∃ manifestBytes signature,
        Verified p c w.replies w.requests release manifestBytes signature manifest := by
  obtain ⟨github, -, rest⟩ := require_bind_ok ok
  obtain ⟨_, -, rest⟩ := ofExcept_bind_ok rest
  obtain ⟨fetched, t, got, rest⟩ := context_bind_ok rest
  obtain ⟨rfl, stable, body, delivered, decoded⟩ := GitHubClient.latestRelease_ok got
  obtain ⟨stop, gate, next⟩ := ofExcept_bind_ok rest
  cases stop with
  | true => cases next; cases available
  | false =>
    obtain ⟨rfl, -, offered, rfl, manifestBytes, signature, manifestDelivered, signatureDelivered,
      signed, parsed, tagged⟩ := verifyManifest_ok next
    exact ⟨offered, rfl, manifestBytes, signature, ⟨body, delivered, decoded⟩, stable,
      nothingNewer_false gate, manifestDelivered, signatureDelivered, signed, parsed, tagged⟩

end Checker

/-! ## Recording outcomes -/

/-- The world with another status on the node's disk, after one reading of the clock. -/
def CheckerWorld.recorded (w : CheckerWorld) (status : PersistedStatus) : CheckerWorld :=
  { w with machine := { w.machine with
      disk := { w.machine.disk with status := .stored status }
      reads := w.machine.reads + 1 } }

/-- The world after `change` of the status, if the status can be read. -/
def CheckerWorld.updated (w : CheckerWorld) (change : Time → PersistedStatus → PersistedStatus) :
    CheckerWorld :=
  match w.machine.disk.readableStatus with
  | none => w
  | some status => w.recorded (change (w.machine.clock w.machine.reads) status)

namespace Checker

variable {p : Platform} {c : Checker} {w w' : CheckerWorld}

@[simp] theorem run_updateStatus (change : Time → PersistedStatus → PersistedStatus)
    (w : CheckerWorld) : (updateStatus change).run checkerHandler w = ((), w.updated change) := by
  simp only [updateStatus, Checker.readStatus, Checker.timeNow, Checker.writeStatus,
    Program.bind_eq, Program.perform_bind, Program.run_call, checkerHandler, CheckerWorld.call,
    exec_readStatus, CheckerWorld.updated, Disk.readableStatus]
  cases w.machine.disk.status <;> rfl

theorem updated_frame (w : CheckerWorld) (change : Time → PersistedStatus → PersistedStatus) :
    (w.updated change).replies = w.replies ∧ (w.updated change).requests = w.requests := by
  unfold CheckerWorld.updated
  split <;> exact ⟨rfl, rfl⟩

theorem exec_checkAndVerify (w : CheckerWorld) :
    execOnline (c.checkAndVerify p) w =
      ((execOnline (c.doCheck p) w).1,
        (execOnline (c.doCheck p) w).2.updated (checkOutcome (execOnline (c.doCheck p) w).1)) := by
  simp only [checkAndVerify, execOnline, Action.exec_bind, Action.exec_always, run_updateStatus,
    Action.exec_ofExcept]
  rfl

theorem recordingInstallError_ok {α : Type} {x : CheckerAction α} {a : α}
    (ok : execOnline (recordingInstallError x) w = (.ok a, w')) : execOnline x w = (.ok a, w') := by
  unfold recordingInstallError at ok
  obtain ⟨result, t, ran, rest⟩ := Action.exec_bind_ok _ ok
  rw [Action.exec_always, Prod.mk.injEq, Except.ok.injEq] at ran
  cases result with
  | ok value =>
    cases rest
    exact Prod.ext ran.1 ran.2
  | error err =>
    obtain ⟨_, _, -, rest⟩ := Action.exec_bind_ok _ rest
    cases rest

theorem mem_trace_recordingInstallError {α : Type} {x : CheckerAction α} {op : CheckerOp}
    (member : op ∈ Action.trace checkerHandler (recordingInstallError x) w)
    (stages : op.isStage = true) : op ∈ Action.trace checkerHandler x w := by
  unfold recordingInstallError at member
  rcases Action.mem_trace_bind.mp member with first | ⟨result, t, -, rest⟩
  · exact Action.mem_trace_always.mp first
  · cases result with
    | ok value => cases rest
    | error err =>
      have quiet : Action.Only (fun op : CheckerOp => op.isStage = false)
          (do let _ ← Action.always (recordInstallError err); throw err : CheckerAction α) :=
        Action.Only.bind (Action.Only.always (only_updateStatus _)) fun _ => Action.only_throw _
      cases stages.symm.trans (quiet.trace t op rest)

end Checker

end Strom.Updates
