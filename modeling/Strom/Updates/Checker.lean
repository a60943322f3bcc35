import Strom.Updates.GitHub

/-!
# Checking for and installing releases (`checker.go`)

`Checker.Check` and `Checker.Install` as programs over the requests they send and
the methods of `Store` they call.
-/

namespace Strom.Updates

open Strom.Go Strom.Effects

def manifestAssetName : String := "strom-agent-manifest.json"
def manifestSignatureAssetName : String := manifestAssetName ++ ".sig"

def defaultReleasePublicKeyHex : String :=
  "c817e3496354034c5be88c77fe936e98daf4446dd493adcdd768ad4441753fe7"

/-- `DefaultReleasePublicKey`. -/
def defaultReleasePublicKey : Bytes := (hexDecode defaultReleasePublicKeyHex.toList).getD []

structure CheckResult where
  upToDate : Bool
  installedVersion : String
  availableVersion : String
  releaseURL : String
deriving DecidableEq, Repr

structure InstallResult where
  version : String
  restartRequired : Bool
deriving DecidableEq, Repr

structure Checker where
  /-- `none` is a checker without a client. -/
  github : Option GitHubClient
  publicKey : Bytes := []
  installedVersion : String
  goos : String := ""
  goarch : String := ""
  goarm : String := ""

namespace Checker

variable (p : Platform) (c : Checker)

/-- `Checker.publicKey`. -/
def publicKeyOrDefault : Bytes :=
  if c.publicKey.length = ed25519PublicKeySize then c.publicKey else defaultReleasePublicKey

/-- `Checker.goos`. -/
def goosOrDefault : String := if c.goos ≠ "" then c.goos else p.goos

/-- `Checker.goarch`. -/
def goarchOrDefault : String := if c.goarch ≠ "" then c.goarch else p.goarch

def artifactFor (manifest : Manifest) : Option Artifact :=
  manifest.artifactFor (c.goosOrDefault p) (c.goarchOrDefault p) c.goarm

def noArtifact (manifest : Manifest) : GoError :=
  .text ("release " ++ manifest.version ++ " has no artifact for " ++ c.goosOrDefault p ++ "/" ++
    c.goarchOrDefault p)

/-- A value that must be there. -/
def require {α : Type} (value : Option α) (e : GoError) : CheckerAction α :=
  match value with
  | some a => pure a
  | none => throw e

/-- `doCheck` for a release that is worth installing. -/
def verifyManifest (github : GitHubClient) (release : Release) :
    CheckerAction (CheckResult × Release × Manifest) := do
  let manifestAsset ← require (release.assetByName manifestAssetName)
    (.text ("release " ++ release.tagName ++ " has no " ++ manifestAssetName ++ " asset"))
  let sigAsset ← require (release.assetByName manifestSignatureAssetName)
    (.text ("release " ++ release.tagName ++ " has no " ++ manifestSignatureAssetName ++ " asset"))
  let manifestBytes ← context "download release manifest"
    (github.downloadAsset p manifestAsset.browserDownloadURL)
  let sigBytes ← context "download release manifest signature"
    (github.downloadAsset p sigAsset.browserDownloadURL)
  Action.ofExcept (wrapError "verify release manifest"
    (verifyManifestSignature p.ed25519Verify c.publicKeyOrDefault manifestBytes sigBytes))
  let manifest ← Action.ofExcept (wrapError "parse release manifest"
    (parseManifest p.decodeManifest manifestBytes))
  Action.ofExcept (rejectIf (manifest.version ≠ release.tagName)
    (.text ("manifest version " ++ quote manifest.version ++ " does not match release tag " ++
      quote release.tagName)))
  let _ ← require (c.artifactFor p manifest) (c.noArtifact p manifest)
  return ({ upToDate := false, installedVersion := c.installedVersion
            availableVersion := manifest.version, releaseURL := release.htmlURL }, release, manifest)

/-- Whether the version gate of `doCheck` stops at the release: the installed version
    is stable and the release is not newer. -/
def nothingNewer (release : Release) : Except GoError Bool :=
  match parseStableVersion c.installedVersion with
  | .error _ => .ok false
  | .ok _ =>
    (wrapError "compare versions" (isNewerStableVersion release.tagName c.installedVersion)).map not

def doCheck : CheckerAction (CheckResult × Release × Manifest) := do
  let github ← require c.github (.text "checker is not configured")
  Action.ofExcept (rejectIf (trimSpace c.installedVersion = "")
    (.text "installed version is required"))
  let release ← context "fetch latest release" (github.latestRelease p)
  if ← Action.ofExcept (c.nothingNewer release) then
    return ({ upToDate := true, installedVersion := c.installedVersion
              availableVersion := release.tagName, releaseURL := release.htmlURL }, release,
      { schemaVersion := 0, version := "", artifacts := [] })
  else
    c.verifyManifest p github release

/-! ## Recording outcomes -/

def readStatus : CheckerProgram (Except GoError PersistedStatus) :=
  .perform CheckerOp.readStatus

def writeStatus (status : PersistedStatus) : CheckerProgram (Except GoError Unit) :=
  .perform (CheckerOp.writeStatus status)

def timeNow : CheckerProgram Time := .perform CheckerOp.now

/-- Change the persisted status, if it can be read; a failure to write it is ignored. -/
def updateStatus (change : Time → PersistedStatus → PersistedStatus) : CheckerProgram Unit := do
  match ← readStatus with
  | .error _ => return ()
  | .ok status =>
    let now ← timeNow
    let _ ← writeStatus (change now status)

/-- The status that `checkAndVerify` records over `status`. -/
def checkOutcome (outcome : Except GoError (CheckResult × Release × Manifest)) (now : Time)
    (status : PersistedStatus) : PersistedStatus :=
  let status := { status with lastCheckedAt := now }
  match outcome with
  | .error err =>
    { status with lastCheckError := err.message, availableVersion := "", availableReleaseURL := "" }
  | .ok (result, _, _) =>
    if result.upToDate then
      { status with lastCheckError := "", availableVersion := "", availableReleaseURL := "" }
    else
      { status with
        lastCheckError := ""
        availableVersion := result.availableVersion
        availableReleaseURL := result.releaseURL }

def checkAndVerify : CheckerAction (CheckResult × Release × Manifest) := do
  let outcome ← Action.always (c.doCheck p).toProgram
  let _ ← Action.always (updateStatus (checkOutcome outcome))
  Action.ofExcept outcome

def check : CheckerAction CheckResult := do
  let (result, _, _) ← c.checkAndVerify p
  return result

def installErrorOutcome (installErr : GoError) (now : Time) (status : PersistedStatus) :
    PersistedStatus :=
  { status with lastInstallAt := now, lastInstallError := installErr.message }

def recordInstallError (installErr : GoError) : CheckerProgram Unit :=
  updateStatus (installErrorOutcome installErr)

/-- Record the error of an action, as every `return InstallResult{}, err` of `Install` does. -/
def recordingInstallError {α : Type} (x : CheckerAction α) : CheckerAction α := do
  match ← Action.always x.toProgram with
  | .ok value => return value
  | .error err =>
    let _ ← Action.always (recordInstallError err)
    throw err

/-! ## Installing -/

def stageAndActivate (version : String) (binary : Bytes) : CheckerAction Unit :=
  .ofProgram (.perform (CheckerOp.stageAndActivate version binary))

/-- `Install` between the check and the call of `StageAndActivate`. -/
def downloadRelease (requestedVersion : String) :
    CheckResult × Release × Manifest → CheckerAction (String × Bytes)
  | (result, release, manifest) => do
    Action.ofExcept (rejectIf result.upToDate
      (.text ("installed version " ++ c.installedVersion ++ " is already up to date")))
    Action.ofExcept (rejectIf (manifest.version ≠ requestedVersion)
      (.text ("requested version " ++ requestedVersion ++
        " no longer matches the latest available release " ++ manifest.version)))
    let artifact ← require (c.artifactFor p manifest) (c.noArtifact p manifest)
    let archiveAsset ← require (release.assetByName artifact.filename)
      (.text ("release " ++ manifest.version ++ " is missing expected asset " ++ artifact.filename))
    -- the check has succeeded, so there is a client
    let github ← require c.github (.text "checker is not configured")
    let archiveBytes ← context "download release archive"
      (github.downloadAsset p archiveAsset.browserDownloadURL)
    let binary ← Action.ofExcept (wrapError "verify release archive"
      (extractAgentBinary p.format archiveBytes artifact.size artifact.sha256 artifact.binarySHA256))
    return (manifest.version, binary)

/-- `Install` up to the verified binary. -/
def fetchRelease (requestedVersion : String) : CheckerAction (String × Bytes) := do
  let checked ← c.checkAndVerify p
  c.downloadRelease p requestedVersion checked

/-- The status that a successful `Install` records over `status`. -/
def installedOutcome (now : Time) (status : PersistedStatus) : PersistedStatus :=
  { status with
    lastInstallAt := now
    lastInstallError := ""
    availableVersion := ""
    availableReleaseURL := "" }

/-- `Install` from the call of `StageAndActivate` on. -/
def activateRelease (version : String) (binary : Bytes) : CheckerAction InstallResult := do
  recordingInstallError (context "activate release" (stageAndActivate version binary))
  let _ ← Action.always (updateStatus installedOutcome)
  return { version, restartRequired := true }

def install (requestedVersion : String) : CheckerAction InstallResult := do
  let (version, binary) ← recordingInstallError (c.fetchRelease p requestedVersion)
  activateRelease version binary

end Checker

end Strom.Updates
