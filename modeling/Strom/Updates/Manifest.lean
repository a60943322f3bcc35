import Strom.Go.Errors
import Strom.Go.Strings

/-!
# Release manifests (`manifest.go`)

A manifest is what `json.Unmarshal` makes of the signed bytes.  Decoding and the
Ed25519 verification are given functions; what the code checks around them is
modelled here.
-/

namespace Strom.Updates

open Strom.Go

def ManifestSchemaVersion : Int := 1

def ed25519PublicKeySize : Nat := 32
def ed25519SignatureSize : Nat := 64

structure Artifact where
  os : String
  arch : String
  goarm : String
  filename : String
  size : Int
  sha256 : String
  binarySHA256 : String
deriving DecidableEq, Repr

structure Manifest where
  schemaVersion : Int
  version : String
  artifacts : List Artifact
deriving DecidableEq, Repr

/-- The condition under which `ArtifactFor` does not skip an artifact. -/
def Artifact.isFor (artifact : Artifact) (goos goarch goarm : String) : Bool :=
  artifact.os = goos && artifact.arch = goarch && (artifact.arch ≠ "arm" || artifact.goarm = goarm)

def Manifest.artifactFor (m : Manifest) (goos goarch goarm : String) : Option Artifact :=
  m.artifacts.find? fun artifact => artifact.isFor goos goarch goarm

/-- `verify` is `ed25519.Verify`. -/
def verifyManifestSignature (verify : Bytes → Bytes → Bytes → Bool)
    (publicKey manifestBytes signature : Bytes) : Except GoError Unit := do
  rejectIf (publicKey.length ≠ ed25519PublicKeySize)
    (.text ("invalid release public key size " ++ toString publicKey.length))
  rejectIf (manifestBytes.length = 0) (.text "manifest payload is empty")
  rejectIf (signature.length ≠ ed25519SignatureSize)
    (.text ("invalid manifest signature size " ++ toString signature.length))
  rejectIf (verify publicKey manifestBytes signature = false)
    (.text "manifest signature verification failed")

/-- The checks on one artifact of a manifest. -/
def checkArtifact (artifact : Artifact) : Except GoError Unit := do
  rejectIf (trimSpace artifact.filename = "") (.text "manifest artifact is missing filename")
  rejectIf (artifact.size ≤ 0)
    (.text ("manifest artifact " ++ artifact.filename ++ " has invalid size"))
  rejectIf ((utf8 artifact.sha256).length ≠ 64)
    (.text ("manifest artifact " ++ artifact.filename ++ " has invalid sha256"))
  rejectIf ((utf8 artifact.binarySHA256).length ≠ 64)
    (.text ("manifest artifact " ++ artifact.filename ++ " has invalid binary_sha256"))

def checkArtifacts : List Artifact → Except GoError Unit
  | [] => .ok ()
  | artifact :: artifacts => do
    checkArtifact artifact
    checkArtifacts artifacts

/-- `decode` is `json.Unmarshal` into a `Manifest`. -/
def parseManifest (decode : Bytes → Except GoError Manifest) (manifestBytes : Bytes) :
    Except GoError Manifest := do
  let manifest ← wrapError "decode release manifest" (decode manifestBytes)
  rejectIf (manifest.schemaVersion ≠ ManifestSchemaVersion)
    (.text ("unsupported manifest schema_version " ++ toString manifest.schemaVersion ++
      ", want " ++ toString ManifestSchemaVersion))
  rejectIf (trimSpace manifest.version = "") (.text "manifest is missing version")
  rejectIf (manifest.artifacts.length = 0) (.text "manifest has no artifacts")
  checkArtifacts manifest.artifacts
  return manifest

/-! ## What the checks establish -/

theorem verifyManifestSignature_ok {verify : Bytes → Bytes → Bytes → Bool}
    {publicKey manifestBytes signature : Bytes}
    (ok : verifyManifestSignature verify publicKey manifestBytes signature = .ok ()) :
    verify publicKey manifestBytes signature = true := by
  simp only [verifyManifestSignature, except_bind_eq_ok, rejectIf_eq_ok] at ok
  obtain ⟨-, -, -, -, -, -, verified⟩ := ok
  simpa using verified

theorem artifactFor_eq_some {m : Manifest} {goos goarch goarm : String} {artifact : Artifact}
    (found : m.artifactFor goos goarch goarm = some artifact) :
    artifact ∈ m.artifacts ∧ artifact.isFor goos goarch goarm = true :=
  ⟨List.mem_of_find?_eq_some found, by simpa using List.find?_some found⟩

/-- A manifest that lists exactly one artifact for a platform yields it, in
    whatever place it is listed. -/
theorem artifactFor_of_unique {m : Manifest} {goos goarch goarm : String} {artifact : Artifact}
    (listed : artifact ∈ m.artifacts) (fits : artifact.isFor goos goarch goarm = true)
    (unique : ∀ other ∈ m.artifacts, other.isFor goos goarch goarm = true → other = artifact) :
    m.artifactFor goos goarch goarm = some artifact := by
  unfold Manifest.artifactFor
  cases found : m.artifacts.find? fun artifact => artifact.isFor goos goarch goarm with
  | none => exact absurd fits (List.find?_eq_none.mp found artifact listed)
  | some other =>
    obtain ⟨member, otherFits⟩ := artifactFor_eq_some (m := m) found
    rw [unique other member otherFits]

end Strom.Updates
