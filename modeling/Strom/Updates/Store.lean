import Strom.Updates.Disk
import Strom.Updates.Version

/-!
# The release store (`store.go`)

The methods of `Store`, each as the program of directory operations that the
source performs, with the errors it returns.
-/

namespace Strom.Updates

open Strom.Go Strom.Effects

def defaultMaxActivationAttempts : Nat := 3
def defaultMaxActivationAge : Time := 3 * minute

inductive ReconcileAction where
  | none
  | awaitingHealth
  | rolledBack
deriving DecidableEq, Repr

/-- `fmt.Errorf("context: %w", err)` around the error of an action. -/
def wrapping {α : Type} (context : String) (x : StoreAction α) : StoreAction α :=
  x.mapError (.wrap context)

/-! ## File-system calls -/

def readlink (link : Link) : StoreProgram (Except GoError String) :=
  .perform (DiskOp.readlink link)

def mkdirAll (version : String) : StoreAction Unit :=
  .ofProgram (.perform (DiskOp.mkdirAll version))

def atomicWriteExecutable (version : String) (content : Bytes) : StoreAction Unit :=
  .ofProgram (.perform (DiskOp.atomicWriteExecutable version content))

def atomicSymlink (target : String) (link : Link) : StoreAction Unit :=
  .ofProgram (.perform (DiskOp.atomicSymlink target link))

def removeLink (link : Link) : StoreProgram (Except GoError Unit) :=
  .perform (DiskOp.removeLink link)

def readReleasesDir : StoreProgram (Except GoError (List String)) :=
  .perform DiskOp.readReleasesDir

def removeAll (version : String) : StoreAction Unit :=
  .ofProgram (.perform (DiskOp.removeAll version))

def readPendingFile : StoreProgram (Except GoError (Option PendingActivation)) :=
  .perform DiskOp.readPendingFile

def removePendingFile : StoreProgram (Except GoError Unit) := .perform DiskOp.removePendingFile

def readStatusFile : StoreProgram (Except GoError (Option PersistedStatus)) :=
  .perform DiskOp.readStatusFile

def timeNow : StoreAction Time := .always (.perform DiskOp.now)

/-! ## Links and records -/

def versionAtLink (link : Link) : StoreProgram (Option String) := do
  match ← readlink link with
  | .error _ => return none
  | .ok version => return some version

def installedVersion : StoreProgram (Option String) := versionAtLink .current

def readPending : StoreAction (Option PendingActivation) := do
  match ← Action.always readPendingFile with
  | .error e => if e.isNotExist then return none else throw e
  | .ok none => throw (.wrap "decode pending activation" (.text "invalid JSON"))
  | .ok (some pending) => return some pending

def writePending (pending : PendingActivation) : StoreAction Unit :=
  .ofProgram (.perform (DiskOp.writePendingFile pending))

def clearPending : StoreAction Unit := do
  match ← Action.always removePendingFile with
  | .error e => if e.isNotExist then return () else throw e
  | .ok () => return ()

def readStatus : StoreAction PersistedStatus := do
  match ← Action.always readStatusFile with
  | .error e => if e.isNotExist then return { schedulerEnabled := true } else throw e
  | .ok none => throw (.wrap "decode update status" (.text "invalid JSON"))
  | .ok (some status) => return status

def writeStatus (status : PersistedStatus) : StoreAction Unit :=
  .ofProgram (.perform (DiskOp.writeStatusFile status))

def pendingVersion : StoreProgram (Option String) := do
  match ← readPending.toProgram with
  | .ok (some pending) => return some pending.version
  | _ => return none

/-! ## Staging -/

/-- The checks of `StageAndActivate` on its arguments. -/
def checkRelease (version : String) (binary : Bytes) : Except GoError Unit :=
  if version = "" then .error (.text "version is required")
  else if binary.length = 0 then .error (.text "binary content is empty")
  else
    match parseStableVersion version with
    | .error e => .error (.wrap "refusing to activate non-stable version" e)
    | .ok _ => .ok ()

/-- The checks of `StageAndActivate` against the installed version. -/
def checkUpgrade (version : String) : Option String → Except GoError Unit
  | none => .ok ()
  | some currentVersion =>
    if currentVersion = version then .error (.text ("version " ++ version ++ " is already active"))
    else
      match isNewerStableVersion version currentVersion with
      | .ok false =>
        .error (.text ("refusing to downgrade from " ++ currentVersion ++ " to " ++ version))
      | _ => .ok ()

/-- Promote the target of `current` to `previous`, if there is one. -/
def promoteCurrent : StoreAction Unit := do
  match ← Action.always (readlink .current) with
  | .error _ => return ()
  | .ok existingTarget => wrapping "update previous slot" (atomicSymlink existingTarget .previous)

/-- The removal loop of `pruneReleases`. -/
def removeSuperseded (keep : List String) : List String → StoreAction Unit
  | [] => pure ()
  | entry :: entries =>
    if entry ∈ keep then removeSuperseded keep entries
    else do
      wrapping ("remove superseded release " ++ entry) (removeAll entry)
      removeSuperseded keep entries

def pruneReleases : StoreAction Unit := do
  let current ← Action.always (versionAtLink .current)
  let previous ← Action.always (versionAtLink .previous)
  match ← Action.always readReleasesDir with
  | .error e => if e.isNotExist then return () else throw e
  | .ok entries => removeSuperseded (current.toList ++ previous.toList) entries

def stageAndActivate (version : String) (binary : Bytes) : StoreAction Unit := do
  let version := trimSpace version
  Action.ofExcept (checkRelease version binary)
  let installed ← Action.always installedVersion
  Action.ofExcept (checkUpgrade version installed)
  wrapping "create release directory" (mkdirAll version)
  wrapping "stage release binary" (atomicWriteExecutable version binary)
  promoteCurrent
  wrapping "activate new slot" (atomicSymlink version .current)
  let now ← timeNow
  wrapping "record pending activation"
    (writePending { version, attempts := 0, firstAttemptAt := now })
  wrapping "prune old releases" pruneReleases

/-! ## Startup and confirmation -/

def rollbackToPrevious : StoreAction Unit := do
  match ← Action.always (readlink .previous) with
  | .error _ =>
    match ← Action.always (removeLink .current) with
    | .error e =>
      if e.isNotExist then return () else throw (.wrap "remove failed first activation" e)
    | .ok () => return ()
  | .ok previousTarget => atomicSymlink previousTarget .current

/-- The status `recordInstallOutcome` writes over `status`. -/
def installOutcome (succeededVersion failureMessage : String) (now : Time)
    (status : PersistedStatus) : PersistedStatus :=
  let status := { status with lastInstallAt := now, lastInstallError := failureMessage }
  if succeededVersion ≠ "" ∧ status.availableVersion = succeededVersion then
    { status with availableVersion := "", availableReleaseURL := "" }
  else status

def recordInstallOutcome (succeededVersion failureMessage : String) : StoreAction Unit := do
  let status ← readStatus
  let now ← timeNow
  writeStatus (installOutcome succeededVersion failureMessage now status)

/-- `ReconcileStartup` for a pending activation of the version that is starting,
    its attempt already counted. -/
def reconcileAttempt (pending : PendingActivation) : StoreAction ReconcileAction := do
  let now ← timeNow
  -- `time.Since` saturates far beyond the age limit, so the plain difference decides alike.
  if now - pending.firstAttemptAt > defaultMaxActivationAge
      ∨ pending.attempts > defaultMaxActivationAttempts then
    wrapping "roll back failed activation" rollbackToPrevious
    wrapping "clear pending activation after rollback" clearPending
    recordInstallOutcome ""
      ("update to " ++ pending.version ++ " failed to become healthy and was rolled back")
    return .rolledBack
  else
    wrapping "record activation attempt" (writePending pending)
    return .awaitingHealth

def reconcileStartup (myVersion : String) : StoreAction ReconcileAction := do
  match ← wrapping "read pending activation" readPending with
  | none => return .none
  | some pending =>
    if pending.version ≠ myVersion then
      wrapping "clear stale pending activation" clearPending
      return .none
    else
      reconcileAttempt { pending with attempts := pending.attempts + 1 }

def confirmHealthy (myVersion : String) : StoreAction Unit := do
  match ← wrapping "read pending activation" readPending with
  | none => return ()
  | some pending =>
    if pending.version ≠ myVersion then return ()
    else
      clearPending
      recordInstallOutcome myVersion ""

end Strom.Updates
