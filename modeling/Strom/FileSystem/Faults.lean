import Strom.Effects.Trace
import Strom.Effects.Triples
import Strom.FileSystem.Os

/-!
# System calls that may fail

`faulty` lets any system call fail for an outside reason.  `OsOp.Spares p` says of a call that
it has no business at the path `p`, and `Only.leaves` that a program of such calls leaves the
node there as it is, whichever of them fail.
-/

namespace Strom.FileSystem

open Strom.Go Strom.Effects

variable {Content : Type}

/-- How a call fails: its error, and the paths that a removal of a whole directory has removed
    before. -/
structure CallFault where
  error : GoError
  gone : Path → Bool := fun _ => false

/-- A call that fails.  A write may have begun, and so the file holds nothing that is whole. -/
def failingCall (fault : CallFault) : Handler (OsOp Content) OsOp.Reply (World Content)
  | .stat _, w => (.error fault.error, w)
  | .mkdir _, w => (.error fault.error, w)
  | .createTemp _, w => (.error fault.error, w)
  | .write path _, w =>
    (.error fault.error, match w.tree.node path with
      | some (.file _) => { w with tree := w.tree.put path (.file none) }
      | _ => w)
  | .rename _ _, w => (.error fault.error, w)
  | .symlink _ _, w => (.error fault.error, w)
  | .remove _, w => (.error fault.error, w)
  | .removeAll path, w =>
    (.error fault.error, { w with tree := { w.tree with
      node := fun p => if path <:+ p ∧ fault.gone p then none else w.tree.node p } })
  | .readlink _, w => (.error fault.error, w)
  | .readFile _, w => (.error fault.error, w)
  | .readDir _, w => (.error fault.error, w)
  | .now, w => (w.clock w.reads, { w with reads := w.reads + 1 })

/-- The calls, each of which fails or does what `osHandler` says. -/
def faulty (suffix : List String → String) (op : OsOp Content) :
    Option CallFault → World Content → op.Reply × World Content
  | none => osHandler suffix op
  | some fault => failingCall fault op

/-- The call creates, changes and removes nothing at `p`. -/
def OsOp.Spares (suffix : List String → String) (p : Path) : OsOp Content → Prop
  | .mkdir q => q ≠ p
  | .createTemp dir => ∀ taken, tempName suffix taken :: dir ≠ p
  | .write q _ => q ≠ p
  | .rename source target => source ≠ p ∧ target ≠ p
  | .symlink _ q => q ≠ p
  | .remove q => q ≠ p
  | .removeAll q => ¬ q <:+ p
  | _ => True

namespace FileTree

variable {t t' : FileTree Content} {p q : Path}

theorem node_tryMkdir (ne : q ≠ p) (made : t.tryMkdir q = .ok t') : t'.node p = t.node p := by
  unfold tryMkdir at made
  split at made
  · cases made
  · split at made
    · cases made
      exact t.node_mkdir_of_ne ne.symm
    · cases made

theorem node_tryWrite {content : Content} (ne : q ≠ p) (written : t.tryWrite q content = .ok t') :
    t'.node p = t.node p := by
  unfold tryWrite at written
  split at written
  · cases written
    exact t.node_put_of_ne _ ne.symm
  · cases written
  · cases written

theorem node_tryRename {source target : Path} (notSource : source ≠ p) (notTarget : target ≠ p)
    (renamed : t.tryRename source target = .ok t') : t'.node p = t.node p := by
  unfold tryRename at renamed
  split at renamed
  · cases renamed
  · split at renamed
    · cases renamed
    · split at renamed
      · cases renamed
        rw [node_put_of_ne _ _ notTarget.symm, node_erase_of_ne _ notSource.symm]
      · cases renamed

theorem node_tryRename_target {source target : Path} (renamed : t.tryRename source target = .ok t') :
    t'.node target = t.node source := by
  unfold tryRename at renamed
  split at renamed
  · cases renamed
  · next node found =>
    split at renamed
    · cases renamed
    · split at renamed
      · cases renamed
        rw [node_put_same, found]
      · cases renamed

theorem node_tryWrite_same {content : Content} (written : t.tryWrite q content = .ok t') :
    t'.node q = some (.file (some content)) := by
  unfold tryWrite at written
  split at written
  · cases written
    exact node_put_same _ _
  · cases written
  · cases written

theorem node_trySymlink_same {target : Path} (linked : t.trySymlink target q = .ok t') :
    t'.node q = some (.symlink target) := by
  unfold trySymlink at linked
  split at linked
  · cases linked
  · split at linked
    · cases linked
      exact node_put_same _ _
    · cases linked

theorem node_trySymlink {target : Path} (ne : q ≠ p) (linked : t.trySymlink target q = .ok t') :
    t'.node p = t.node p := by
  unfold trySymlink at linked
  split at linked
  · cases linked
  · split at linked
    · cases linked
      exact t.node_put_of_ne _ ne.symm
    · cases linked

theorem node_tryRemove (ne : q ≠ p) (removed : t.tryRemove q = .ok t') : t'.node p = t.node p := by
  unfold tryRemove at removed
  split at removed
  · cases removed
  · split at removed
    · cases removed
      exact t.node_erase_of_ne ne.symm
    · cases removed
  · cases removed
    exact t.node_erase_of_ne ne.symm

end FileTree

variable {suffix : List String → String} {p : Path}

theorem node_attempt {w : World Content} {changed : Except GoError (FileTree Content)}
    (same : ∀ t, changed = .ok t → t.node p = w.tree.node p) :
    (w.attempt changed).2.tree.node p = w.tree.node p := by
  cases changed with
  | error e => rfl
  | ok t => exact same t rfl

/-- A call that spares a path leaves the node there as it is, whether it fails or not. -/
theorem node_faulty {op : OsOp Content} (spares : op.Spares suffix p) (fault : Option CallFault)
    (w : World Content) : (faulty suffix op fault w).2.tree.node p = w.tree.node p := by
  cases fault with
  | none =>
    cases op with
    | mkdir q => exact node_attempt fun _ => FileTree.node_tryMkdir spares
    | createTemp dir =>
      simp only [faulty, osHandler]
      split
      · exact FileTree.node_put_of_ne _ _ (spares _).symm
      · rfl
    | write q content => exact node_attempt fun _ => FileTree.node_tryWrite spares
    | rename source target => exact node_attempt fun _ => FileTree.node_tryRename spares.1 spares.2
    | symlink target q => exact node_attempt fun _ => FileTree.node_trySymlink spares
    | remove q => exact node_attempt fun _ => FileTree.node_tryRemove spares
    | removeAll q => exact FileTree.node_eraseAll_of_not_suffix _ spares
    | _ => rfl
  | some fault =>
    cases op with
    | write q content =>
      simp only [faulty, failingCall]
      split
      · exact FileTree.node_put_of_ne _ _ (Ne.symm spares)
      · rfl
    | removeAll q => exact if_neg fun gone => spares gone.1
    | _ => rfl

/-- `os.MkdirAll` changes nothing but the directories on the way to its path. -/
theorem only_mkdirAll {path : Path} (away : ∀ q, q <:+ path → q ≠ p) :
    Action.Only (OsOp.Spares suffix p) (mkdirAll path : OsAction Content Unit) := by
  induction path with
  | nil => exact Action.only_pure ()
  | cons name parent ih =>
    apply Action.Only.bind (Action.Only.always (Program.only_perform trivial))
    intro found
    cases found with
    | ok isDir =>
      cases isDir
      · exact Action.only_throw _
      · exact Action.only_pure ()
    | error e =>
      apply Action.Only.bind (ih fun q below => away q (below.trans (List.suffix_cons _ _)))
      intro _
      exact Program.only_perform (away _ List.suffix_rfl)

end Strom.FileSystem
