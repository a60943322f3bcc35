import Mathlib.Data.List.Sort
import Mathlib.Logic.Function.Basic

/-!
# File trees

A tree maps paths to nodes and directories to the names of their entries.  A
file has a content of an arbitrary type; a file that was created and not yet
written has none.
-/

namespace Strom.FileSystem

/-- An absolute path, as the names from the leaf up; `[]` is the root directory. -/
abbrev Path := List String

inductive Inode (Content : Type) where
  | dir
  | file (content : Option Content)
  | symlink (target : Path)

structure FileTree (Content : Type) where
  node : Path → Option (Inode Content)
  /-- The entries of a directory, in the order they are listed. -/
  names : Path → List String

namespace FileTree

variable {Content : Type}

/-- Only the root directory exists. -/
def empty : FileTree Content where
  node := Function.update (fun _ => none) [] (some .dir)
  names := fun _ => []

/-- The listings after an entry was created at `path`. -/
def insertName (names : Path → List String) : Path → Path → List String
  | [] => names
  | name :: parent =>
    Function.update names parent
      (if name ∈ names parent then names parent else (names parent).orderedInsert (· ≤ ·) name)

/-- The listings after the entry at `path` was removed. -/
def dropName (names : Path → List String) : Path → Path → List String
  | [] => names
  | name :: parent => Function.update names parent ((names parent).filter (· ≠ name))

def put (t : FileTree Content) (path : Path) (node : Inode Content) : FileTree Content where
  node := Function.update t.node path (some node)
  names := insertName t.names path

/-- A new, empty directory. -/
def mkdir (t : FileTree Content) (path : Path) : FileTree Content where
  node := Function.update t.node path (some .dir)
  names := Function.update (insertName t.names path) path []

def erase (t : FileTree Content) (path : Path) : FileTree Content where
  node := Function.update t.node path none
  names := dropName t.names path

/-- Remove `path` and everything below it. -/
def eraseAll (t : FileTree Content) (path : Path) : FileTree Content where
  node := fun other => if path <:+ other then none else t.node other
  names := dropName t.names path

/-! ## Small lemmas -/

variable (t : FileTree Content) {path other : Path} (node : Inode Content)

@[simp] theorem node_empty_nil : (empty : FileTree Content).node [] = some .dir := rfl

@[simp] theorem node_empty_cons (name : String) (parent : Path) :
    (empty : FileTree Content).node (name :: parent) = none := rfl

@[simp] theorem node_put_same : (t.put path node).node path = some node := by simp [put]

theorem node_put_of_ne (ne : other ≠ path) : (t.put path node).node other = t.node other := by
  simp [put, ne]

@[simp] theorem node_mkdir_same : (t.mkdir path).node path = some .dir := by simp [mkdir]

theorem node_mkdir_of_ne (ne : other ≠ path) : (t.mkdir path).node other = t.node other := by
  simp [mkdir, ne]

@[simp] theorem node_erase_same : (t.erase path).node path = none := by simp [erase]

theorem node_erase_of_ne (ne : other ≠ path) : (t.erase path).node other = t.node other := by
  simp [erase, ne]

theorem node_eraseAll_of_suffix (below : path <:+ other) : (t.eraseAll path).node other = none :=
  if_pos below

theorem node_eraseAll_of_not_suffix (outside : ¬ path <:+ other) :
    (t.eraseAll path).node other = t.node other := if_neg outside

/-- Changing an entry leaves the listings of all directories but its own. -/
theorem names_put_of_ne (ne : other ≠ path.tail) : (t.put path node).names other = t.names other := by
  unfold put insertName
  cases path with
  | nil => rfl
  | cons name parent => exact Function.update_of_ne ne _ _

theorem names_erase_of_ne (ne : other ≠ path.tail) : (t.erase path).names other = t.names other := by
  unfold erase dropName
  cases path with
  | nil => rfl
  | cons name parent => exact Function.update_of_ne ne _ _

theorem names_mkdir_of_ne (ne : other ≠ path.tail) (self : other ≠ path) :
    (t.mkdir path).names other = t.names other := by
  refine (Function.update_of_ne self _ _).trans ?_
  unfold insertName
  cases path with
  | nil => rfl
  | cons name parent => exact Function.update_of_ne ne _ _

@[simp] theorem names_mkdir_same : (t.mkdir path).names path = [] := by simp [mkdir]

theorem names_mkdir_parent (name : String) (parent : Path) :
    (t.mkdir (name :: parent)).names parent =
      if name ∈ t.names parent then t.names parent
      else (t.names parent).orderedInsert (· ≤ ·) name := by
  have below : parent ≠ name :: parent := fun same => by
    simpa using congrArg List.length same
  simp [mkdir, insertName, below]

theorem names_eraseAll_parent (name : String) (parent : Path) :
    (t.eraseAll (name :: parent)).names parent = (t.names parent).filter (· ≠ name) := by
  simp [eraseAll, dropName]

end FileTree

end Strom.FileSystem
