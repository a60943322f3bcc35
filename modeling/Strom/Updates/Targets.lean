import Mathlib.Data.List.Nodup
import Strom.Updates.Checker

/-!
# Release targets

The platforms the release tool (`tools/__main__.py`) builds for, the manifest
entries it publishes for them, and the checker that the agent's `main` constructs.
`selects_own_artifact_iff`: an agent finds the artifact of its own platform unless
that platform has an ARM variant.
-/

namespace Strom.Updates

open Strom.Go

structure Target where
  osName : String
  manifestArch : String
  goarm : String
deriving DecidableEq, Repr

/-- `RELEASE_ARCH_TARGETS`. -/
def releaseArchTargets : List (String × Target) :=
  [("linux-arm64", ⟨"linux", "arm64", ""⟩), ("linux-armv6", ⟨"linux", "arm", "6"⟩)]

def releaseTargets : List Target := releaseArchTargets.map (·.2)

/-- What the release tool measures of one archive. -/
structure ArchiveFile where
  filename : String
  size : Int
  sha256 : String
  binarySHA256 : String
deriving DecidableEq, Repr

/-- The JSON object of an artifact; the key `goarm` may be missing. -/
structure ArtifactObject where
  os : String
  arch : String
  filename : String
  size : Int
  sha256 : String
  binarySHA256 : String
  goarm : Option String
deriving DecidableEq, Repr

/-- `release_manifest_artifact`. -/
def releaseManifestArtifact (target : Target) (file : ArchiveFile) : ArtifactObject where
  os := target.osName
  arch := target.manifestArch
  filename := file.filename
  size := file.size
  sha256 := file.sha256
  binarySHA256 := file.binarySHA256
  goarm := if target.goarm ≠ "" then some target.goarm else none

/-- `json.Unmarshal` of the object into an `Artifact`. -/
def ArtifactObject.decoded (object : ArtifactObject) : Artifact where
  os := object.os
  arch := object.arch
  goarm := object.goarm.getD ""
  filename := object.filename
  size := object.size
  sha256 := object.sha256
  binarySHA256 := object.binarySHA256

/-- The artifact that an agent decodes for a target. -/
def publishedArtifact (files : Target → ArchiveFile) (target : Target) : Artifact :=
  (releaseManifestArtifact target (files target)).decoded

/-- The `Checker` that `run` constructs. -/
def mainChecker (updatesRepo version : String) : Checker where
  github := some { repository := updatesRepo, agentVersion := version }
  installedVersion := version

/-- The platform of a binary built for a target. -/
def Platform.builtFor (p : Platform) (target : Target) : Platform :=
  { p with goos := target.osName, goarch := target.manifestArch }

/-! ## Selecting an artifact -/

theorem goarm_publishedArtifact (files : Target → ArchiveFile) (target : Target) :
    (publishedArtifact files target).goarm = target.goarm := by
  unfold publishedArtifact releaseManifestArtifact ArtifactObject.decoded
  by_cases none : target.goarm = ""
  · simp [none]
  · simp [none]

/-- The checker of `main` names no platform, so it falls back to the one of the binary,
    which knows no ARM variant. -/
theorem artifactFor_mainChecker (p : Platform) (updatesRepo version : String) (target : Target)
    (m : Manifest) :
    (mainChecker updatesRepo version).artifactFor (p.builtFor target) m =
      m.artifactFor target.osName target.manifestArch "" := by
  simp [Checker.artifactFor, Checker.goosOrDefault, Checker.goarchOrDefault, mainChecker,
    Platform.builtFor]

/-- The selection for a target among targets of different systems or architectures. -/
theorem artifactFor_published_iff {targets : List Target} {files : Target → ArchiveFile}
    {m : Manifest} {target : Target}
    (distinct : (targets.map fun t => (t.osName, t.manifestArch)).Nodup)
    (variants : ∀ t ∈ targets, t.goarm ≠ "" → t.manifestArch = "arm")
    (lists : m.artifacts.Perm (targets.map (publishedArtifact files))) (built : target ∈ targets) :
    m.artifactFor target.osName target.manifestArch "" = some (publishedArtifact files target) ↔
      target.goarm = "" := by
  constructor
  · intro found
    by_contra variant
    have arm := variants target built variant
    have fits := (artifactFor_eq_some found).2
    simp only [Artifact.isFor, Bool.and_eq_true, Bool.or_eq_true, decide_eq_true_eq] at fits
    rcases fits.2 with other | same
    · exact other arm
    · exact variant ((goarm_publishedArtifact files target).symm.trans same)
  · intro plain
    apply artifactFor_of_unique
    · exact lists.mem_iff.mpr (List.mem_map_of_mem built)
    · show (_ && _ && _) = true
      simp [plain, publishedArtifact, releaseManifestArtifact,
        ArtifactObject.decoded]
    · intro other listed fits
      obtain ⟨t, built', rfl⟩ := List.mem_map.mp (lists.mem_iff.mp listed)
      simp only [Artifact.isFor, Bool.and_eq_true, decide_eq_true_eq] at fits
      -- the key of a target determines it
      have key : (t.osName, t.manifestArch) = (target.osName, target.manifestArch) :=
        Prod.ext fits.1.1 fits.1.2
      rw [List.inj_on_of_nodup_map distinct built' built key]

/-- For every manifest that lists one artifact for each release target, in any order,
    an agent selects the artifact of the target it is built for exactly if that
    target has no ARM variant. -/
theorem selects_own_artifact_iff {files : Target → ArchiveFile} {m : Manifest} (p : Platform)
    (updatesRepo version : String) {target : Target}
    (lists : m.artifacts.Perm (releaseTargets.map (publishedArtifact files)))
    (built : target ∈ releaseTargets) :
    (mainChecker updatesRepo version).artifactFor (p.builtFor target) m =
        some (publishedArtifact files target) ↔ target.goarm = "" := by
  rw [artifactFor_mainChecker]
  exact artifactFor_published_iff (by decide) (by decide) lists built

/-- The archives of a release, as the release tool names them. -/
def sampleFiles (target : Target) : ArchiveFile :=
  { filename := "strom-agent-v1.1.0-" ++ target.osName ++ "-" ++ target.manifestArch ++ ".tar.gz"
    size := 1
    sha256 := hexEncode (List.replicate 32 3)
    binarySHA256 := hexEncode (List.replicate 32 4) }

/-- A release that lists the ARM variant first. -/
def sampleManifest : Manifest where
  schemaVersion := 1
  version := "v1.1.0"
  artifacts := (releaseTargets.map (publishedArtifact sampleFiles)).reverse

theorem selects_own_artifact_on_arm64 :
    (mainChecker "" "v1.0.0").artifactFor (Platform.builtFor default ⟨"linux", "arm64", ""⟩)
      sampleManifest = some (publishedArtifact sampleFiles ⟨"linux", "arm64", ""⟩) :=
  (selects_own_artifact_iff default "" "v1.0.0" (List.reverse_perm _) (by decide)).mpr rfl

/-- An agent built for the ARM variant finds no artifact. -/
theorem selects_no_artifact_on_armv6 :
    ¬ ∀ (p : Platform) (files : Target → ArchiveFile) (m : Manifest) (updatesRepo version : String)
        (target : Target),
      m.artifacts.Perm (releaseTargets.map (publishedArtifact files)) → target ∈ releaseTargets →
      (mainChecker updatesRepo version).artifactFor (p.builtFor target) m =
        some (publishedArtifact files target) := by
  intro claim
  have found := claim default sampleFiles sampleManifest "" "v1.0.0"
    ⟨"linux", "arm", "6"⟩ (List.reverse_perm _) (by decide)
  have missing : (mainChecker "" "v1.0.0").artifactFor
      (Platform.builtFor default ⟨"linux", "arm", "6"⟩) sampleManifest = none := by decide
  cases missing.symm.trans found

end Strom.Updates
