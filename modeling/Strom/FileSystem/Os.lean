import Strom.Effects.Action
import Strom.FileSystem.Tree
import Strom.Go.Errors

/-!
# System calls on a file tree

The calls of the `os` package that change or read a tree, each one atomic, and
`os.MkdirAll` as the program of calls it is.  `suffix` stands for the random part
that `os.CreateTemp` chooses, given the names that are taken.
-/

namespace Strom.FileSystem

open Strom.Go Strom.Effects

/-- A tree and a clock; `clock n` is the `n`-th reading. -/
structure World (Content : Type) where
  tree : FileTree Content
  clock : Nat → Int
  reads : Nat := 0

inductive OsOp (Content : Type) where
  | stat (path : Path)
  | mkdir (path : Path)
  | createTemp (dir : Path)
  | write (path : Path) (content : Content)
  | rename (source target : Path)
  | symlink (target path : Path)
  | remove (path : Path)
  | removeAll (path : Path)
  | readlink (path : Path)
  | readFile (path : Path)
  | readDir (path : Path)
  | now

@[reducible] def OsOp.Reply {Content : Type} : OsOp Content → Type
  /- Whether the path is a directory. -/
  | .stat _ => Except GoError Bool
  | .mkdir _ => Except GoError Unit
  | .createTemp _ => Except GoError Path
  | .write _ _ => Except GoError Unit
  | .rename _ _ => Except GoError Unit
  | .symlink _ _ => Except GoError Unit
  | .remove _ => Except GoError Unit
  | .removeAll _ => Except GoError Unit
  | .readlink _ => Except GoError Path
  | .readFile _ => Except GoError (Option Content)
  /- The entries and whether they are directories. -/
  | .readDir _ => Except GoError (List (String × Bool))
  | .now => Int

def exists' : GoError := .os (.other "file exists")
def notDirectory : GoError := .os (.other "not a directory")
def isDirectory : GoError := .os (.other "is a directory")
def notEmpty : GoError := .os (.other "directory not empty")
def invalid : GoError := .os (.other "invalid argument")
def missing : GoError := .os .notExist

/-- The effect of a call that fails or changes the tree. -/
def World.attempt {Content : Type} (w : World Content) :
    Except GoError (FileTree Content) → Except GoError Unit × World Content
  | .error e => (.error e, w)
  | .ok tree => (.ok (), { w with tree })

@[simp] theorem World.attempt_ok {Content : Type} (w : World Content) (tree : FileTree Content) :
    w.attempt (.ok tree) = (.ok (), { w with tree }) := rfl

@[simp] theorem World.attempt_error {Content : Type} (w : World Content) (e : GoError) :
    w.attempt (.error e) = (.error e, w) := rfl

variable {Content : Type}

namespace FileTree

def isDir (t : FileTree Content) (path : Path) : Bool :=
  match t.node path with
  | some .dir => true
  | _ => false

def tryMkdir (t : FileTree Content) (path : Path) : Except GoError (FileTree Content) :=
  match t.node path with
  | some _ => .error exists'
  | none => if t.isDir path.tail then .ok (t.mkdir path) else .error missing

def tryWrite (t : FileTree Content) (path : Path) (content : Content) :
    Except GoError (FileTree Content) :=
  match t.node path with
  | some (.file _) => .ok (t.put path (.file (some content)))
  | some .dir => .error isDirectory
  | _ => .error missing

def tryRename (t : FileTree Content) (source target : Path) : Except GoError (FileTree Content) :=
  match t.node source with
  | none => .error missing
  | some node =>
    if t.isDir target then .error exists'
    else if t.isDir target.tail then .ok ((t.erase source).put target node)
    else .error missing

def trySymlink (t : FileTree Content) (target path : Path) : Except GoError (FileTree Content) :=
  match t.node path with
  | some _ => .error exists'
  | none => if t.isDir path.tail then .ok (t.put path (.symlink target)) else .error missing

def tryRemove (t : FileTree Content) (path : Path) : Except GoError (FileTree Content) :=
  match t.node path with
  | none => .error missing
  | some .dir => if t.names path = [] then .ok (t.erase path) else .error notEmpty
  | some _ => .ok (t.erase path)

end FileTree

def tempName (suffix : List String → String) (taken : List String) : String :=
  ".tmp-" ++ suffix taken

def osHandler (suffix : List String → String) :
    Handler (OsOp Content) OsOp.Reply (World Content)
  | .stat path, w =>
    (match w.tree.node path with
      | none => .error missing
      | some .dir => .ok true
      | some _ => .ok false, w)
  | .mkdir path, w => w.attempt (w.tree.tryMkdir path)
  | .createTemp dir, w =>
    if w.tree.isDir dir then
      let path := tempName suffix (w.tree.names dir) :: dir
      (.ok path, { w with tree := w.tree.put path (.file none) })
    else (.error missing, w)
  | .write path content, w => w.attempt (w.tree.tryWrite path content)
  | .rename source target, w => w.attempt (w.tree.tryRename source target)
  | .symlink target path, w => w.attempt (w.tree.trySymlink target path)
  | .remove path, w => w.attempt (w.tree.tryRemove path)
  | .removeAll path, w => (.ok (), { w with tree := w.tree.eraseAll path })
  | .readlink path, w =>
    (match w.tree.node path with
      | some (.symlink target) => .ok target
      | some _ => .error invalid
      | none => .error missing, w)
  | .readFile path, w =>
    (match w.tree.node path with
      | some (.file content) => .ok content
      | some _ => .error isDirectory
      | none => .error missing, w)
  | .readDir path, w =>
    (match w.tree.node path with
      | some .dir =>
        .ok ((w.tree.names path).map fun name => (name, w.tree.isDir (name :: path)))
      | some _ => .error notDirectory
      | none => .error missing, w)
  | .now, w => (w.clock w.reads, { w with reads := w.reads + 1 })

abbrev OsProgram (Content : Type) := Program (OsOp Content) OsOp.Reply
abbrev OsAction (Content : Type) := Action (OsOp Content) OsOp.Reply GoError

/-- `os.MkdirAll`. -/
def mkdirAll : Path → OsAction Content Unit
  | [] => pure ()
  | name :: parent => do
    match ← Action.always (.perform (OsOp.stat (name :: parent))) with
    | .ok isDir => if isDir then return () else throw notDirectory
    | .error _ =>
      mkdirAll parent
      Action.ofProgram (.perform (OsOp.mkdir (name :: parent)))

theorem isDir_of_node {t : FileTree Content} {path : Path} (dir : t.node path = some .dir) :
    t.isDir path = true := by
  simp [FileTree.isDir, dir]

/-- `mkdirAll` succeeds where nothing but directories stands in its way.  It keeps
    what the creation of a missing directory on its way keeps, and touches no other
    node. -/
theorem mkdirAll_holds {suffix : List String → String} {I : World Content → Prop} {path : Path}
    (top : ∀ w, I w → w.tree.node [] = some .dir)
    (clear : ∀ w, I w → ∀ p, p <:+ path → w.tree.node p = none ∨ w.tree.node p = some .dir)
    (made : ∀ w, I w → ∀ p, p <:+ path → p ≠ [] → w.tree.node p = none →
      w.tree.node p.tail = some .dir → I { w with tree := w.tree.mkdir p })
    {w : World Content} (inv : I w) :
    Action.Holds (osHandler suffix) I (mkdirAll path)
      (fun result w' => result = .ok () ∧ w'.tree.node path = some .dir ∧
        ∀ p, ¬ p <:+ path → w'.tree.node p = w.tree.node p) w := by
  induction path generalizing w with
  | nil => exact ⟨inv, rfl, top w inv, fun _ _ => rfl⟩
  | cons name parent ih =>
    unfold mkdirAll
    refine Action.holds_bind.mpr ⟨inv, inv, ?_⟩
    rcases clear w inv _ List.suffix_rfl with missing | dir
    · simp only [osHandler, missing]
      refine Action.holds_bind.mpr (Action.Holds.mono (ih ?_ ?_ inv) ?_)
      · exact fun w inv p below => clear w inv p (below.trans (List.suffix_cons _ _))
      · exact fun w inv p below => made w inv p (below.trans (List.suffix_cons _ _))
      rintro result w' inv' ⟨rfl, dir, untouched⟩
      have stillMissing : w'.tree.node (name :: parent) = none :=
        (untouched _ fun below => absurd below.length_le (by simp)).trans missing
      have creates : w'.tree.tryMkdir (name :: parent) = .ok (w'.tree.mkdir (name :: parent)) := by
        simp [FileTree.tryMkdir, stillMissing, isDir_of_node dir]
      have inv'' := made w' inv' _ List.suffix_rfl (List.cons_ne_nil _ _) stillMissing dir
      refine ⟨inv', ?_⟩
      simp only [osHandler, creates, World.attempt]
      refine ⟨inv'', rfl, FileTree.node_mkdir_same _, fun p outside => ?_⟩
      have ne : p ≠ name :: parent := fun same => outside (same ▸ List.suffix_rfl)
      rw [FileTree.node_mkdir_of_ne _ ne]
      exact untouched p fun below => outside (below.trans (List.suffix_cons _ _))
    · simp only [osHandler, dir]
      exact ⟨inv, rfl, dir, fun _ _ => rfl⟩

end Strom.FileSystem
