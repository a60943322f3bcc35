import Mathlib.Data.String.Basic
import Mathlib.Data.List.Sort
import Strom.Effects.Action
import Strom.Go.Errors
import Strom.Go.Strings

/-!
# The store directory (`store.go`)

The state of the directory a `Store` manages and the operations its methods
perform on it, each one atomic.  A `mkdirAll` or `atomicSymlink` of this module
is one call of the source's helper of that name; how these helpers are made
of single file-system steps is the subject of `Strom.Updates.StoreFiles`.

A link holds the version its target `<root>/releases/<version>/strom-agent`
names.  A record file is absent, holds a text that does not decode, or holds the
JSON text of a record.
-/

namespace Strom.Updates

open Strom.Go Strom.Effects

/-- A point in time, in nanoseconds. -/
abbrev Time := Int

def second : Time := 1000000000
def minute : Time := 60 * second

/-- `time.Time{}`, the first instant of year 1, counted from the Unix epoch. -/
def zeroTime : Time := -62135596800 * second

structure PendingActivation where
  version : String
  attempts : Nat
  firstAttemptAt : Time
deriving DecidableEq, Repr

structure PersistedStatus where
  schedulerEnabled : Bool := false
  lastCheckedAt : Time := zeroTime
  lastCheckError : String := ""
  availableVersion : String := ""
  availableReleaseURL : String := ""
  lastInstallAt : Time := zeroTime
  lastInstallError : String := ""
deriving DecidableEq, Repr

inductive Link where
  | current
  | previous
deriving DecidableEq, Repr

/-- A file holding the JSON text of one record. -/
inductive RecordFile (α : Type) where
  | absent
  | malformed
  | stored (record : α)
deriving DecidableEq, Repr

/-- `os.ReadFile` and `json.Unmarshal`: `none` is a text that does not decode. -/
def RecordFile.read {α : Type} : RecordFile α → Except GoError (Option α)
  | .absent => .error (.os .notExist)
  | .malformed => .ok none
  | .stored record => .ok (some record)

def RecordFile.record? {α : Type} : RecordFile α → Option α
  | .stored record => some record
  | _ => none

@[simp] theorem RecordFile.record?_stored {α : Type} (record : α) :
    (RecordFile.stored record).record? = some record := rfl

@[simp] theorem RecordFile.record?_absent {α : Type} :
    (RecordFile.absent : RecordFile α).record? = none := rfl

structure Disk where
  /-- The `releases` directory exists. -/
  releasesDir : Bool := false
  /-- The release directories, in the order `os.ReadDir` lists them. -/
  dirs : List String := []
  /-- The content of `releases/<version>/strom-agent`. -/
  binary : String → Option Bytes := fun _ => none
  current : Option String := none
  previous : Option String := none
  pending : RecordFile PendingActivation := .absent
  status : RecordFile PersistedStatus := .absent

namespace Disk

def link (d : Disk) : Link → Option String
  | .current => d.current
  | .previous => d.previous

def setLink (d : Disk) (l : Link) (target : Option String) : Disk :=
  match l with
  | .current => { d with current := target }
  | .previous => { d with previous := target }

/-- `os.MkdirAll` of a release directory. -/
def mkdir (d : Disk) (version : String) : Disk :=
  { d with
    releasesDir := true
    dirs := if version ∈ d.dirs then d.dirs else d.dirs.orderedInsert (· ≤ ·) version }

def writeBinary (d : Disk) (version : String) (content : Bytes) : Disk :=
  { d.mkdir version with binary := Function.update d.binary version (some content) }

/-- `os.RemoveAll` of a release directory. -/
def removeDir (d : Disk) (version : String) : Disk :=
  { d with
    dirs := d.dirs.filter (· ≠ version)
    binary := Function.update d.binary version none }

end Disk

/-- A running machine: its store directory and its clock.  `clock n` is the
    reading that the `n`-th `time.Now` of the run returns. -/
structure Machine where
  disk : Disk
  clock : Nat → Time
  reads : Nat := 0

/-! ## Operations -/

inductive DiskOp where
  | readlink (link : Link)
  | mkdirAll (version : String)
  | atomicWriteExecutable (version : String) (content : Bytes)
  | atomicSymlink (target : String) (link : Link)
  | removeLink (link : Link)
  | readReleasesDir
  | removeAll (version : String)
  | readPendingFile
  | writePendingFile (pending : PendingActivation)
  | removePendingFile
  | readStatusFile
  | writeStatusFile (status : PersistedStatus)
  | now
deriving DecidableEq, Repr

@[reducible] def DiskOp.Reply : DiskOp → Type
  | .readlink _ => Except GoError String
  | .mkdirAll _ => Except GoError Unit
  | .atomicWriteExecutable _ _ => Except GoError Unit
  | .atomicSymlink _ _ => Except GoError Unit
  | .removeLink _ => Except GoError Unit
  | .readReleasesDir => Except GoError (List String)
  | .removeAll _ => Except GoError Unit
  | .readPendingFile => Except GoError (Option PendingActivation)
  | .writePendingFile _ => Except GoError Unit
  | .removePendingFile => Except GoError Unit
  | .readStatusFile => Except GoError (Option PersistedStatus)
  | .writeStatusFile _ => Except GoError Unit
  | .now => Time

/-- The operations on a directory that no other program touches and on which no
    system call fails for an outside reason. -/
def diskHandler : Handler DiskOp DiskOp.Reply Machine
  | .readlink l, m =>
    (match m.disk.link l with
      | some version => .ok version
      | none => .error (.os .notExist), m)
  | .mkdirAll version, m => (.ok (), { m with disk := m.disk.mkdir version })
  | .atomicWriteExecutable version content, m =>
    (.ok (), { m with disk := m.disk.writeBinary version content })
  | .atomicSymlink target l, m => (.ok (), { m with disk := m.disk.setLink l (some target) })
  | .removeLink l, m =>
    (match m.disk.link l with
      | some _ => .ok ()
      | none => .error (.os .notExist), { m with disk := m.disk.setLink l none })
  | .readReleasesDir, m =>
    (if m.disk.releasesDir then .ok m.disk.dirs else .error (.os .notExist), m)
  | .removeAll version, m => (.ok (), { m with disk := m.disk.removeDir version })
  | .readPendingFile, m => (m.disk.pending.read, m)
  | .writePendingFile pending, m =>
    (.ok (), { m with disk := { m.disk with pending := .stored pending } })
  | .removePendingFile, m =>
    (match m.disk.pending with
      | .absent => .error (.os .notExist)
      | _ => .ok (), { m with disk := { m.disk with pending := .absent } })
  | .readStatusFile, m => (m.disk.status.read, m)
  | .writeStatusFile status, m =>
    (.ok (), { m with disk := { m.disk with status := .stored status } })
  | .now, m => (m.clock m.reads, { m with reads := m.reads + 1 })

abbrev StoreProgram := Program DiskOp DiskOp.Reply
abbrev StoreAction := Action DiskOp DiskOp.Reply GoError

/-! ## Small lemmas -/

namespace Disk

@[simp] theorem link_setLink_same (d : Disk) (l : Link) (target : Option String) :
    (d.setLink l target).link l = target := by cases l <;> rfl

theorem link_setLink_of_ne (d : Disk) {l l' : Link} (target : Option String) (ne : l' ≠ l) :
    (d.setLink l target).link l' = d.link l' := by
  cases l <;> cases l' <;> first | rfl | exact absurd rfl ne

@[simp] theorem binary_setLink (d : Disk) (l : Link) (target : Option String) :
    (d.setLink l target).binary = d.binary := by cases l <;> rfl

@[simp] theorem dirs_setLink (d : Disk) (l : Link) (target : Option String) :
    (d.setLink l target).dirs = d.dirs := by cases l <;> rfl

@[simp] theorem pending_setLink (d : Disk) (l : Link) (target : Option String) :
    (d.setLink l target).pending = d.pending := by cases l <;> rfl

@[simp] theorem link_mkdir (d : Disk) (version : String) (l : Link) :
    (d.mkdir version).link l = d.link l := by cases l <;> rfl

@[simp] theorem link_writeBinary (d : Disk) (version : String) (content : Bytes) (l : Link) :
    (d.writeBinary version content).link l = d.link l := by cases l <;> rfl

@[simp] theorem link_removeDir (d : Disk) (version : String) (l : Link) :
    (d.removeDir version).link l = d.link l := by cases l <;> rfl

@[simp] theorem mem_dirs_mkdir (d : Disk) (version other : String) :
    other ∈ (d.mkdir version).dirs ↔ other = version ∨ other ∈ d.dirs := by
  unfold mkdir
  by_cases present : version ∈ d.dirs
  · simp only [present, if_true]
    exact ⟨Or.inr, fun either => either.elim (fun same => same ▸ present) id⟩
  · simp [present, List.mem_orderedInsert]

@[simp] theorem binary_writeBinary_same (d : Disk) (version : String) (content : Bytes) :
    (d.writeBinary version content).binary version = some content := by
  simp [writeBinary]

theorem binary_writeBinary_of_ne (d : Disk) {version other : String} (content : Bytes)
    (ne : other ≠ version) : (d.writeBinary version content).binary other = d.binary other := by
  simp [writeBinary, ne]

theorem binary_removeDir_of_ne (d : Disk) {version other : String} (ne : other ≠ version) :
    (d.removeDir version).binary other = d.binary other := by
  simp [removeDir, ne]

end Disk

end Strom.Updates
