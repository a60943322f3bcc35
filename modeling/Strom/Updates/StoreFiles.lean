import Strom.Effects.Refinement
import Strom.FileSystem.Os
import Strom.Updates.Disk

/-!
# The store directory as files

The helpers of `store.go` that write files and links, as programs of system
calls, and every operation of `Strom.Updates.Disk` as the program it stands for.
`Strom.Updates.StoreLayout` says which trees represent which directory states, and
`Strom.Updates.StoreRefinement` that the programs do what the operations say.
-/

namespace Strom.Updates

open Strom.Go Strom.Effects Strom.FileSystem

/-- What the files of a store hold.  The JSON text of a record stands for the
    record. -/
inductive Content where
  | executable (content : Bytes)
  | pending (record : PendingActivation)
  | status (record : PersistedStatus)

abbrev FileAction := OsAction Content
abbrev FileProgram := OsProgram Content
abbrev FileWorld := World Content

/-! ## Paths -/

def linkName : Link → String
  | .current => "current"
  | .previous => "previous"

/-- The files and directories of a store. -/
inductive Place where
  | releases
  | releaseDir (version : String)
  | binary (version : String)
  | link (l : Link)
  | pending
  | status
deriving DecidableEq

def Place.path (root : Path) : Place → Path
  | .releases => "releases" :: root
  | .releaseDir version => version :: "releases" :: root
  | .binary version => "strom-agent" :: version :: "releases" :: root
  | .link l => linkName l :: root
  | .pending => "pending.json" :: root
  | .status => "status.json" :: root

/-- `linkPath + ".tmp-symlink"`. -/
def tempLinkPath (root : Path) (l : Link) : Path := (linkName l ++ ".tmp-symlink") :: root

/-- `filepath.Base(filepath.Dir(target))`. -/
def targetVersion : Path → String
  | _ :: version :: _ => version
  | _ => ""

/-! ## Helpers -/

/-- Write the temporary file and rename it into place.  `Sync`, `Chmod` and `Close`
    change nothing that a tree holds. -/
def fillAndRename (tempPath path : Path) (content : Content) : FileAction Unit := do
  Action.mapError (.wrap "write temp file") (Action.ofProgram (.perform (OsOp.write tempPath content)))
  Action.mapError (.wrap "rename temp file into place")
    (Action.ofProgram (.perform (OsOp.rename tempPath path)))

/-- The part of `atomicWriteFile` after the creation of the directory. -/
def replaceFile (path : Path) (content : Content) : FileAction Unit := do
  let tempPath ← Action.mapError (.wrap "create temp file")
    (Action.ofProgram (.perform (OsOp.createTemp path.tail)))
  let outcome ← Action.always (fillAndRename tempPath path content).toProgram
  -- the deferred removal of the temporary file
  let _ ← Action.always (.perform (OsOp.remove tempPath))
  Action.ofExcept outcome

def atomicWriteFile (path : Path) (content : Content) : FileAction Unit := do
  Action.mapError (.wrap "create directory") (FileSystem.mkdirAll path.tail)
  replaceFile path content

def atomicSymlinkFile (root : Path) (target : Path) (l : Link) : FileAction Unit := do
  Action.mapError (.wrap "create directory") (FileSystem.mkdirAll root)
  let _ ← Action.always (.perform (OsOp.remove (tempLinkPath root l)))
  Action.mapError (.wrap "create temp symlink")
    (Action.ofProgram (.perform (OsOp.symlink target (tempLinkPath root l))))
  match ← Action.always (.perform (OsOp.rename (tempLinkPath root l) (Place.path root (.link l)))) with
  | .error e =>
    let _ ← Action.always (.perform (OsOp.remove (tempLinkPath root l)))
    throw (.wrap "rename temp symlink into place" e)
  | .ok () => return ()

def readlinkFile (path : Path) : FileProgram (Except GoError Path) := .perform (OsOp.readlink path)

/-- The names of the directories in `releases`. -/
def readReleasesFile (root : Path) : FileAction (List String) := do
  let entries ← Action.ofProgram (.perform (OsOp.readDir (Place.path root .releases)))
  return (entries.filter (·.2)).map (·.1)

/-- Read a record file; `decode` is `json.Unmarshal`. -/
def readRecordFile {α : Type} (decode : Content → Option α) (path : Path) :
    FileAction (Option α) := do
  let content ← Action.ofProgram (.perform (OsOp.readFile path))
  return content.bind decode

def decodePending : Content → Option PendingActivation
  | .pending record => some record
  | _ => none

def decodeStatus : Content → Option PersistedStatus
  | .status record => some record
  | _ => none

/-- Each operation on the store directory, as system calls. -/
def storeOp (root : Path) : (op : DiskOp) → FileProgram (DiskOp.Reply op)
  | .readlink l => do
    match ← readlinkFile (Place.path root (.link l)) with
    | .error e => return .error e
    | .ok target => return .ok (targetVersion target)
  | .mkdirAll version => (FileSystem.mkdirAll (Place.path root (.releaseDir version))).toProgram
  | .atomicWriteExecutable version content =>
    (atomicWriteFile (Place.path root (.binary version)) (.executable content)).toProgram
  | .atomicSymlink version l => (atomicSymlinkFile root (Place.path root (.binary version)) l).toProgram
  | .removeLink l => .perform (OsOp.remove (Place.path root (.link l)))
  | .readReleasesDir => (readReleasesFile root).toProgram
  | .removeAll version => .perform (OsOp.removeAll (Place.path root (.releaseDir version)))
  | .readPendingFile => (readRecordFile decodePending (Place.path root .pending)).toProgram
  | .writePendingFile pending => (atomicWriteFile (Place.path root .pending) (.pending pending)).toProgram
  | .removePendingFile => .perform (OsOp.remove (Place.path root .pending))
  | .readStatusFile => (readRecordFile decodeStatus (Place.path root .status)).toProgram
  | .writeStatusFile status => Action.toProgram do
    Action.mapError (.wrap "create updates root") (FileSystem.mkdirAll root)
    atomicWriteFile (Place.path root .status) (.status status)
  | .now => .perform OsOp.now

end Strom.Updates
