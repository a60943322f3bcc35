import Strom.Updates.CheckerSpec

/-!
# What `Install` stages

Whatever the release server answers, `Install` hands a binary to the store only after
every check: `install_stages_verified` names them all, for the replies of one run.
-/

namespace Strom.Updates

open Strom.Go Strom.Effects

/-- The checks on a version and a binary that `Install` stages, where the replies from
    `n` on are the release, its manifest, the signature and the archive. -/
structure VerifiedInstall (p : Platform) (c : Checker) (replies : Nat → HttpReply) (n : Nat)
    (requestedVersion version : String) (binary : Bytes) (release : Release)
    (manifestBytes signature : Bytes) (manifest : Manifest) (artifact : Artifact)
    (archiveBytes : Bytes) : Prop
    extends Verified p c replies n release manifestBytes signature manifest where
  requested : manifest.version = requestedVersion
  version : version = manifest.version
  selected : c.artifactFor p manifest = some artifact
  archiveDelivered : (replies (n + 3)).body? = some archiveBytes
  extracted : Extracted p.format archiveBytes artifact.size artifact.sha256 artifact.binarySHA256
    binary

namespace Checker

variable {p : Platform} {c : Checker} {w w' : CheckerWorld} {requestedVersion version : String}
  {binary : Bytes}

theorem fetchRelease_ok
    (ok : execOnline (c.fetchRelease p requestedVersion) w = (.ok (version, binary), w')) :
    ∃ release manifestBytes signature manifest artifact archiveBytes,
      VerifiedInstall p c w.replies w.requests requestedVersion version binary release manifestBytes
        signature manifest artifact archiveBytes := by
  obtain ⟨⟨result, release, manifest⟩, t, checked, rest⟩ := Action.exec_bind_ok _ ok
  rw [← execOnline, exec_checkAndVerify, Prod.mk.injEq] at checked
  obtain ⟨outcome, reached⟩ := checked
  have checked : execOnline (c.doCheck p) w =
      (.ok (result, release, manifest), (execOnline (c.doCheck p) w).2) := Prod.ext outcome rfl
  obtain ⟨_, pending, rest⟩ := ofExcept_bind_ok rest
  obtain ⟨_, requested, rest⟩ := ofExcept_bind_ok rest
  obtain ⟨artifact, selected, rest⟩ := require_bind_ok rest
  obtain ⟨archiveAsset, -, rest⟩ := require_bind_ok rest
  obtain ⟨github, -, rest⟩ := require_bind_ok rest
  obtain ⟨archiveBytes, archiveDelivered, rest⟩ := downloadAsset_bind_ok rest
  obtain ⟨content, extracted, rest⟩ := ofExcept_bind_ok rest
  have available : result.upToDate = false := by simpa using rejectIf_eq_ok.mp pending
  obtain ⟨-, requests, manifestBytes, signature, verified⟩ := doCheck_ok checked available
  -- the status update between the checks and the download sends no request
  have replies : t.replies = w.replies := by
    rw [← reached, (updated_frame _ _).1, (machine_of_onlyGet (only_doCheck p c) w).2]
  have next : t.requests = w.requests + 3 := by
    rw [← reached, (updated_frame _ _).2, requests]
  rw [replies, next] at archiveDelivered
  cases rest
  exact ⟨release, manifestBytes, signature, manifest, artifact, archiveBytes, verified,
    not_not.mp (rejectIf_eq_ok.mp requested), rfl, selected, archiveDelivered,
    extracted_of_ok (wrapError_eq_ok.mp extracted)⟩

/-- `StageAndActivate` itself requires a stable version that is newer than the one
    behind `current`. -/
theorem staged_newer {m t : Machine} (matched : isStableVersion version = true)
    (ok : exec (Updates.stageAndActivate version binary) m = (.ok (), t)) :
    Stable version ∧ ∀ installed, m.disk.current = some installed → Stable installed →
      Newer version installed := by
  have staged := staged_of_exec ok
  rw [trimSpace_of_isStableVersion matched] at staged
  exact ⟨staged.stable, fun installed current stable => staged.newer current stable⟩

/-- `Install` calls `StageAndActivate` only with a version and a binary that have
    passed every check, whatever the server replies and whatever the store holds; and
    the call succeeds only for a version newer than the one behind `current`. -/
theorem install_stages_verified
    (staged : .stageAndActivate version binary ∈
      Action.trace checkerHandler (c.install p requestedVersion) w) :
    (∃ release manifestBytes signature manifest artifact archiveBytes,
      VerifiedInstall p c w.replies w.requests requestedVersion version binary release manifestBytes
        signature manifest artifact archiveBytes) ∧
    ∀ m t, exec (Updates.stageAndActivate version binary) m = (.ok (), t) →
      Stable version ∧ ∀ installed, m.disk.current = some installed → Stable installed →
        Newer version installed := by
  suffices verified : ∃ release manifestBytes signature manifest artifact archiveBytes,
      VerifiedInstall p c w.replies w.requests requestedVersion version binary release manifestBytes
        signature manifest artifact archiveBytes by
    refine ⟨verified, fun m t ok => staged_newer ?_ ok⟩
    obtain ⟨release, _, _, manifest, _, _, checks⟩ := verified
    rw [checks.version, checks.tagged]
    exact checks.stable
  rcases Action.mem_trace_bind.mp staged with first | ⟨⟨version', binary'⟩, t, fetched, rest⟩
  · have fetching := mem_trace_recordingInstallError first rfl
    cases (only_fetchRelease _).trace w _ fetching
  rcases Action.mem_trace_bind.mp rest with stage | ⟨_, t', -, record⟩
  · have call := Action.mem_trace_mapError.mp (mem_trace_recordingInstallError stage rfl)
    have same := List.mem_singleton.mp call
    cases same
    exact fetchRelease_ok (recordingInstallError_ok fetched)
  · -- nothing is staged after the installation is recorded
    rcases Action.mem_trace_bind.mp record with update | ⟨_, _, -, ended⟩
    · cases (only_updateStatus _).trace t' _ (Action.mem_trace_always.mp update)
    · cases ended

/-! ## A release that is installed -/

section Example

def sampleArtifact : Artifact :=
  { os := "linux", arch := "arm64", goarm := "", filename := "strom-agent_linux_arm64.tar.gz"
    size := 1, sha256 := hexEncode (List.replicate 32 3)
    binarySHA256 := hexEncode (List.replicate 32 4) }

def sampleRelease : Release :=
  { tagName := "v1.1.0", draft := false, prerelease := false, htmlURL := "https://github.com"
    assets := [⟨manifestAssetName, "https://github.com/manifest"⟩,
      ⟨manifestSignatureAssetName, "https://github.com/signature"⟩,
      ⟨sampleArtifact.filename, "https://github.com/archive"⟩] }

/-- A platform on which `[1]` is the release, `[2]` its manifest, signed by 64 zeros,
    and `[3]` the archive of the binary `[4]`. -/
def samplePlatform : Platform where
  goos := "linux"
  goarch := "arm64"
  ed25519Verify := fun publicKey message signature =>
    publicKey = defaultReleasePublicKey && message = [2] && signature = List.replicate 64 0
  format :=
    { sha256 := fun content => List.replicate 32 (content.headD 0)
      openArchive := fun content =>
        if content = [3] then
          .ok { entries := [⟨"strom-agent_v1.1.0/strom-agent", tarTypeReg, 1, .ok [4]⟩]
                failure := none }
        else .error (.text "gzip: invalid header") }
  decodeRelease := fun content =>
    if content = [1] then .ok sampleRelease else .error (.text "invalid character")
  decodeManifest := fun content =>
    if content = [2] then
      .ok { schemaVersion := 1, version := "v1.1.0", artifacts := [sampleArtifact] }
    else .error (.text "invalid character")
  parseURL := fun _ => .ok { scheme := "https", hostname := "github.com" }

def sampleReplies : Nat → HttpReply
  | 0 => .response 200 1 [1] none
  | 1 => .response 200 1 [2] none
  | 2 => .response 200 64 (List.replicate 64 0) none
  | _ => .response 200 1 [3] none

def sampleChecker : Checker := { github := some {}, installedVersion := "v1.0.0" }

def sampleWorld : CheckerWorld :=
  { machine := { disk := {}, clock := fun _ => 0 }, replies := sampleReplies }

theorem install_stages_verified_of_sample :
    ∃ release manifestBytes signature manifest artifact archiveBytes,
      VerifiedInstall samplePlatform sampleChecker sampleReplies 0 "v1.1.0" "v1.1.0" [4] release
        manifestBytes signature manifest artifact archiveBytes := by
  have staged : .stageAndActivate "v1.1.0" [4] ∈ Action.trace checkerHandler
      (sampleChecker.install samplePlatform "v1.1.0") sampleWorld := by decide +kernel
  exact (install_stages_verified staged).1

end Example

end Checker

end Strom.Updates
