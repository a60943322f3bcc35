import Strom.FileSystem.Faults
import Strom.Updates.Breakdowns
import Strom.Updates.StoreRefinement

/-!
# The steps of the store on failing system calls

`storeOp_breaks`: whichever system calls of a step fail, the step either did what it is for or
returns an error and leaves the links and the pending record alone.  So the failures that
`Strom.Updates.Breakdowns` lets the steps have are those that their system calls can have.
-/

namespace Strom.Updates

open Strom.Go Strom.Effects Strom.FileSystem

/-- The places that decide about the next start. -/
def Place.Decides : Place → Prop
  | .link _ => True
  | .pending => True
  | _ => False

/-- The tree has the links and the pending record of the directory. -/
def Shows (root : Path) (t : FileTree Content) (d : Disk) : Prop :=
  ∀ place : Place, place.Decides → t.node (Place.path root place) = d.node root place

section Frames

variable {suffix : List String → String} {root : Path} {t : FileTree Content} {d d' : Disk}

theorem Represents.shows (rep : Represents root t d) : Shows root t d := fun place _ => rep.place place

theorem Shows.congr (shows : Shows root t d) (same : d.nextStart = d'.nextStart) : Shows root t d' := by
  intro place decides
  rw [shows place decides]
  simp only [Disk.nextStart, NextStart.mk.injEq] at same
  cases place with
  | link l => cases l <;> simp [Disk.node, Disk.link, same]
  | pending => simp [Disk.node, same]
  | _ => cases decides

theorem Place.Decides.depth {place : Place} (decides : place.Decides) : place.depth = 1 := by
  cases place <;> simp_all [Place.Decides, Place.depth]

theorem tempName_not_deciding {place : Place} (decides : place.Decides) (taken : List String)
    (above : Path) : tempName suffix taken :: above ≠ Place.path root place := by
  intro same
  cases place with
  | link l => cases l <;> exact tempName_ne taken (by decide) (List.cons.inj same).1
  | pending => exact tempName_ne taken (by decide) (List.cons.inj same).1
  | _ => cases decides

theorem base_not_deciding {place : Place} {q : Path} (base : q <:+ root) : q ≠ Place.path root place :=
  (Place.path_not_base base place).symm

/-- The directories on the way to a binary are no links and no record. -/
theorem release_not_deciding {place : Place} (decides : place.Decides) (version : String) {q : Path}
    (below : q <:+ Place.path root (.releaseDir version)) : q ≠ Place.path root place := by
  cases List.suffix_cons_iff.mp below with
  | inl same =>
    have other : Place.releaseDir version ≠ place := by
      rintro rfl
      cases decides
    rw [same]
    exact (Place.path_injective root).ne other
  | inr below =>
    cases List.suffix_cons_iff.mp below with
    | inl same =>
      have other : Place.releases ≠ place := by
        rintro rfl
        cases decides
      rw [same]
      exact (Place.path_injective root).ne other
    | inr base => exact base_not_deciding base

/-- What spares the links and the record is no matter for `Shows`. -/
theorem shows_of_only {α : Type} {p : FileProgram α}
    (only : ∀ place : Place, place.Decides → p.Only (OsOp.Spares suffix (Place.path root place))) :
    Program.Triple (faulty suffix) (fun w => Shows root w.tree d) p (fun _ w => Shows root w.tree d) := by
  constructor
  intro g shows place decides
  have kept : Program.Triple (faulty suffix) (fun w => w.tree.node (Place.path root place) = d.node root place) p
      (fun _ w => w.tree.node (Place.path root place) = d.node root place) :=
    (only place decides).triple fun op fault w spares same => (node_faulty spares fault w).trans same
  exact kept.run g (shows place decides)

end Frames

/-! ## Files and links -/

section Replacing

variable {suffix : List String → String} {root : Path} {d d' : Disk}

/-- The tree has the links and the pending record of `d`, but for the path `p`, where `node` is. -/
def ShowsBut (root : Path) (t : FileTree Content) (d : Disk) (p : Path) (node : Inode Content) : Prop :=
  t.node p = some node ∧
    ∀ place : Place, place.Decides → Place.path root place ≠ p →
      t.node (Place.path root place) = d.node root place

/-- A single call that spares the links and the record. -/
theorem shows_of_spares (op : OsOp Content)
    (spares : ∀ place : Place, place.Decides → op.Spares suffix (Place.path root place))
    (fault : Option CallFault) {w : FileWorld} (shows : Shows root w.tree d) :
    Shows root (faulty suffix op fault w).2.tree d := by
  intro place decides
  exact (node_faulty (spares place decides) fault w).trans (shows place decides)

/-- A rename replaces a file or a link at once, or not at all. -/
theorem rename_triple {temp p : Path} {node : Inode Content}
    (temporary : ∀ place : Place, place.Decides → temp ≠ Place.path root place) :
    Program.Triple (faulty suffix)
      (fun w => Shows root w.tree d ∧ w.tree.node temp = some node)
      (Program.perform (OsOp.rename temp p))
      (fun reply w => match reply with
        | .ok () => ShowsBut root w.tree d p node
        | .error _ => Shows root w.tree d) := by
  apply Program.triple_perform
  rintro fault w ⟨shows, here⟩
  cases fault with
  | some fault => exact shows
  | none =>
    simp only [faulty, osHandler]
    cases renamed : w.tree.tryRename temp p with
    | error e => exact shows
    | ok t =>
      refine ⟨(FileTree.node_tryRename_target renamed).trans here, ?_⟩
      intro place decides other
      exact (FileTree.node_tryRename (temporary place decides) other.symm renamed).trans (shows place decides)

/-- A temporary file holds its content once it is written, and is then renamed. -/
theorem fillAndRename_triple {temp p : Path} {content : Content}
    (temporary : ∀ place : Place, place.Decides → temp ≠ Place.path root place) :
    Action.Triple (faulty suffix) (fun w => Shows root w.tree d) (fillAndRename temp p content)
      (fun r w => match r with
        | .ok () => ShowsBut root w.tree d p (.file (some content))
        | .error _ => Shows root w.tree d) := by
  have written : Action.Triple (faulty suffix) (fun w : FileWorld => Shows root w.tree d)
      (Action.mapError (.wrap "write temp file")
        (Action.ofProgram (.perform (OsOp.write temp content))) : FileAction Unit)
      (fun r w => match r with
        | .ok () => Shows root w.tree d ∧ w.tree.node temp = some (.file (some content))
        | .error _ => Shows root w.tree d) := by
    apply Action.triple_mapError
    apply Program.triple_perform
    intro fault w shows
    have still : Shows root (faulty suffix (.write temp content) fault w).2.tree d :=
      shows_of_spares (.write temp content) temporary fault shows
    cases fault with
    | some fault => exact still
    | none =>
      simp only [faulty, osHandler] at still ⊢
      cases wrote : w.tree.tryWrite temp content with
      | error e => exact shows
      | ok t =>
        rw [wrote] at still
        exact ⟨still, FileTree.node_tryWrite_same wrote⟩
  apply Action.Triple.bind written
  · intro _
    apply Action.triple_mapError
    apply Program.Triple.mono (rename_triple temporary) (fun _ post => post)
    intro reply w post
    cases reply <;> exact post
  · intro _ _ post
    exact post

/-- What is left to do after a replacement spares the links, the record and the replaced path. -/
theorem showsBut_of_spares (op : OsOp Content) {p : Path} {node : Inode Content}
    (spares : ∀ place : Place, place.Decides → op.Spares suffix (Place.path root place))
    (here : op.Spares suffix p) (fault : Option CallFault) {w : FileWorld}
    (shows : ShowsBut root w.tree d p node) : ShowsBut root (faulty suffix op fault w).2.tree d p node := by
  refine ⟨(node_faulty here fault w).trans shows.1, ?_⟩
  intro place decides other
  exact (node_faulty (spares place decides) fault w).trans (shows.2 place decides other)

theorem replaceFile_triple {place : Place} {content : Content}
    (plain : ∀ taken, tempName suffix taken :: (Place.path root place).tail ≠ Place.path root place) :
    Action.Triple (faulty suffix) (fun w => Shows root w.tree d)
      (replaceFile (Place.path root place) content)
      (fun r w => match r with
        | .ok () => ShowsBut root w.tree d (Place.path root place) (.file (some content))
        | .error _ => Shows root w.tree d) := by
  have created : Action.Triple (faulty suffix) (fun w : FileWorld => Shows root w.tree d)
      (Action.mapError (.wrap "create temp file")
        (Action.ofProgram (.perform (OsOp.createTemp (Place.path root place).tail))) : FileAction Path)
      (fun r w => (∀ temp, r = .ok temp →
        ∃ taken, temp = tempName suffix taken :: (Place.path root place).tail) ∧ Shows root w.tree d) := by
    apply Action.triple_mapError
    apply Program.triple_perform
    intro fault w shows
    refine ⟨?_, shows_of_spares _ ?_ fault shows⟩
    · intro temp made
      cases fault with
      | some fault => cases made
      | none =>
        simp only [faulty, osHandler] at made
        split at made
        · cases made
          exact ⟨_, rfl⟩
        · cases made
    · intro other decides taken
      exact tempName_not_deciding decides taken _
  apply Action.Triple.bind created
  · intro temp
    apply Program.Triple.assuming
    intro named
    obtain ⟨taken, rfl⟩ := named temp rfl
    -- the temporary path is no link, no record and not the path itself
    have temporary : ∀ other : Place, other.Decides →
        tempName suffix taken :: (Place.path root place).tail ≠ Place.path root other :=
      fun other decides => tempName_not_deciding decides taken _
    apply Action.Triple.bind_always (fillAndRename_triple temporary)
    intro outcome
    apply Action.Triple.bind_always (R := fun _ w => match outcome with
      | .ok () => ShowsBut root w.tree d (Place.path root place) (.file (some content))
      | .error _ => Shows root w.tree d)
    · apply Program.triple_perform
      intro fault w shows
      cases outcome with
      | ok _ =>
        refine showsBut_of_spares _ ?_ ?_ fault shows
        · exact temporary
        · exact plain taken
      | error _ =>
        refine shows_of_spares _ ?_ fault shows
        exact temporary
    · intro _
      apply Program.triple_ret
      intro w shows
      exact shows
  · intro _ _ post
    exact post.2

theorem mkdirAll_triple {path : Path} (away : ∀ place : Place, place.Decides → ∀ q, q <:+ path →
    q ≠ Place.path root place) :
    Action.Triple (faulty suffix) (fun w : FileWorld => Shows root w.tree d)
      (Action.mapError (.wrap "create directory") (FileSystem.mkdirAll path) : FileAction Unit) (fun _ w => Shows root w.tree d) :=
  shows_of_only fun place decides => Action.Only.mapError (only_mkdirAll (away place decides))

theorem atomicWriteFile_triple {place : Place} {content : Content}
    (plain : ∀ taken, tempName suffix taken :: (Place.path root place).tail ≠ Place.path root place)
    (away : ∀ other : Place, other.Decides → ∀ q, q <:+ (Place.path root place).tail →
      q ≠ Place.path root other) :
    Action.Triple (faulty suffix) (fun w => Shows root w.tree d)
      (atomicWriteFile (Place.path root place) content)
      (fun r w => match r with
        | .ok () => ShowsBut root w.tree d (Place.path root place) (.file (some content))
        | .error _ => Shows root w.tree d) := by
  apply Action.Triple.bind (mkdirAll_triple away)
  · intro _
    exact replaceFile_triple plain
  · intro _ _ shows
    exact shows

theorem atomicSymlinkFile_triple {l : Link} {target : Path} :
    Action.Triple (faulty suffix) (fun w => Shows root w.tree d) (atomicSymlinkFile root target l)
      (fun r w => match r with
        | .ok () => ShowsBut root w.tree d (Place.path root (.link l)) (.symlink target)
        | .error _ => Shows root w.tree d) := by
  have temporary : ∀ place : Place, place.Decides → tempLinkPath root l ≠ Place.path root place :=
    fun place _ => (tempLink_not_place root l place).symm
  have linked : Action.Triple (faulty suffix) (fun w : FileWorld => Shows root w.tree d)
      (Action.mapError (.wrap "create temp symlink")
        (Action.ofProgram (.perform (OsOp.symlink target (tempLinkPath root l)))) : FileAction Unit)
      (fun r w => match r with
        | .ok () => Shows root w.tree d ∧ w.tree.node (tempLinkPath root l) = some (.symlink target)
        | .error _ => Shows root w.tree d) := by
    apply Action.triple_mapError
    apply Program.triple_perform
    intro fault w shows
    have still : Shows root (faulty suffix (.symlink target (tempLinkPath root l)) fault w).2.tree d :=
      shows_of_spares (.symlink target (tempLinkPath root l)) temporary fault shows
    cases fault with
    | some fault => exact still
    | none =>
      simp only [faulty, osHandler] at still ⊢
      cases made : w.tree.trySymlink target (tempLinkPath root l) with
      | error e => exact shows
      | ok t =>
        rw [made] at still
        exact ⟨still, FileTree.node_trySymlink_same made⟩
  apply Action.Triple.bind (mkdirAll_triple fun _ _ _ base => base_not_deciding base)
  · intro _
    -- whether the old temporary link could be removed does not matter
    apply Action.Triple.bind_always (R := fun _ w => Shows root w.tree d)
    · apply Program.triple_perform
      intro fault w shows
      refine shows_of_spares _ ?_ fault shows
      exact temporary
    · intro _
      apply Action.Triple.bind linked
      · intro _
        apply Action.Triple.bind_always (rename_triple temporary)
        intro reply
        cases reply with
        | ok _ => exact Action.triple_pure fun _ shows => shows
        | error _ =>
          apply Action.Triple.bind_always (R := fun _ w => Shows root w.tree d)
          · apply Program.triple_perform
            intro fault w shows
            refine shows_of_spares _ ?_ fault shows
            exact temporary
          · intro _
            exact Action.triple_throw fun _ shows => shows
      · intro _ _ shows
        exact shows
  · intro _ _ shows
    exact shows

end Replacing

/-! ## The steps -/

/-- The replies agree, for a step whose reply the links and the record decide. -/
def Agree : (op : DiskOp) → op.Reply → op.Reply → Prop
  | .readlink _, reply, other => reply = other
  | .mkdirAll _, reply, other => reply = other
  | .atomicWriteExecutable _ _, reply, other => reply = other
  | .atomicSymlink _ _, reply, other => reply = other
  | .removeLink _, reply, other => reply = other
  | .readReleasesDir, _, _ => True
  | .removeAll _, reply, other => reply = other
  | .readPendingFile, reply, other => reply = other
  | .writePendingFile _, reply, other => reply = other
  | .removePendingFile, reply, other => reply = other
  | .readStatusFile, _, _ => True
  | .writeStatusFile _, reply, other => reply = other
  | .now, _, _ => True

/-- The outcome of a step is one that `breakable` allows. -/
def Breaks (root : Path) (m : Machine) (op : DiskOp) (reply : op.Reply) (w : FileWorld) : Prop :=
  ∃ b, Agree op reply (breakable op b m).1 ∧ Shows root w.tree (breakable op b m).2.disk

section Steps

variable {suffix : List String → String} {root : Path} {m : Machine}

theorem shows_setLink {t : FileTree Content} {d : Disk} {l : Link} {version : String}
    (shows : ShowsBut root t d (Place.path root (.link l)) (.symlink (Place.path root (.binary version)))) :
    Shows root t (d.setLink l (some version)) := by
  intro place decides
  by_cases same : place = .link l
  · subst same
    rw [shows.1]
    simp [Disk.node]
  · rw [shows.2 place decides ((Place.path_injective root).ne same)]
    cases place with
    | link l' =>
      have other : l' ≠ l := fun same' => same (by rw [same'])
      simp only [Disk.node, d.link_setLink_of_ne _ other]
    | pending => simp [Disk.node]
    | _ => cases decides

theorem shows_setPending {t : FileTree Content} {d : Disk} {pending : PendingActivation}
    (shows : ShowsBut root t d (Place.path root .pending) (.file (some (.pending pending)))) :
    Shows root t { d with pending := .stored pending } := by
  intro place decides
  cases place with
  | pending => exact shows.1
  | link l =>
    rw [shows.2 (.link l) decides ((Place.path_injective root).ne (by rintro ⟨⟩))]
    rfl
  | _ => cases decides

/-- A step that writes release directories only. -/
theorem breaks_of_unchanged {op : DiskOp} {reply : op.Reply} {w : FileWorld} (b : Option Breakdown)
    (agree : Agree op reply (breakable op b m).1) (shows : Shows root w.tree m.disk)
    (same : m.disk.nextStart = (breakable op b m).2.disk.nextStart) : Breaks root m op reply w :=
  ⟨b, agree, shows.congr same⟩

theorem plain_binary {version : String} (taken : List String) :
    tempName suffix taken :: (Place.path root (.binary version)).tail ≠ Place.path root (.binary version) := by
  intro same
  exact tempName_ne taken (by decide) (List.cons.inj same).1

theorem plain_pending (taken : List String) :
    tempName suffix taken :: (Place.path root .pending).tail ≠ Place.path root .pending :=
  tempName_not_deciding (show Place.Decides .pending from trivial) taken _

theorem readlink_breaks (l : Link) :
    Program.Triple (faulty suffix) (fun w => Shows root w.tree m.disk) (readlinkFile (Place.path root (.link l)))
      (fun reply w => Breaks root m (.readlink l) (reply.map targetVersion) w) := by
  apply Program.triple_perform
  intro fault w shows
  cases fault with
  | some fault => exact breaks_of_unchanged (some { error := fault.error }) rfl shows rfl
  | none =>
    refine breaks_of_unchanged none ?_ shows rfl
    have node : w.tree.node (Place.path root (.link l)) = m.disk.node root (.link l) := shows (.link l) trivial
    simp only [Disk.node] at node
    simp only [faulty, osHandler, node, breakable, diskHandler]
    cases m.disk.link l <;> rfl

theorem readPending_breaks :
    Action.Triple (faulty suffix) (fun w => Shows root w.tree m.disk)
      (readRecordFile decodePending (Place.path root .pending)) (Breaks root m .readPendingFile) := by
  have read : Action.Triple (faulty suffix) (fun w : FileWorld => Shows root w.tree m.disk)
      (Action.ofProgram (.perform (OsOp.readFile (Place.path root .pending))) : FileAction (Option Content))
      (fun reply w => Breaks root m .readPendingFile (reply.map fun content => content.bind decodePending) w) := by
    apply Program.triple_perform
    intro fault w shows
    cases fault with
    | some fault => exact breaks_of_unchanged (some { error := fault.error }) rfl shows rfl
    | none =>
      refine breaks_of_unchanged none ?_ shows rfl
      have node : w.tree.node (Place.path root .pending) = m.disk.node root .pending := shows .pending trivial
      simp only [Disk.node] at node
      simp only [faulty, osHandler, node, breakable, diskHandler]
      cases m.disk.pending <;> rfl
  apply Action.Triple.bind read
  · intro content
    exact Action.triple_pure fun _ post => post
  · intro _ _ post
    exact post

theorem removeLink_breaks (l : Link) :
    Program.Triple (faulty suffix) (fun w => Shows root w.tree m.disk)
      (Program.perform (OsOp.remove (Place.path root (.link l)))) (Breaks root m (.removeLink l)) := by
  apply Program.triple_perform
  intro fault w shows
  cases fault with
  | some fault => exact breaks_of_unchanged (some { error := fault.error }) rfl shows rfl
  | none =>
    have node : w.tree.node (Place.path root (.link l)) = m.disk.node root (.link l) := shows (.link l) trivial
    simp only [Disk.node] at node
    refine ⟨none, ?_⟩
    simp only [faulty, osHandler, breakable, diskHandler, FileTree.tryRemove, node]
    cases named : m.disk.link l with
    | none => exact ⟨rfl, by simpa [setLink_none_of_none named] using shows⟩
    | some version =>
      refine ⟨rfl, ?_⟩
      intro place decides
      by_cases same : place = .link l
      · subst same
        simp [Disk.node]
      · show (w.tree.erase (Place.path root (.link l))).node (Place.path root place) = _
        rw [FileTree.node_erase_of_ne _ ((Place.path_injective root).ne same), shows place decides]
        cases place with
        | link l' =>
          have other : l' ≠ l := fun same' => same (by rw [same'])
          simp only [Disk.node, Disk.link_setLink_of_ne _ _ other]
        | pending => simp [Disk.node]
        | _ => cases decides

theorem removePending_breaks :
    Program.Triple (faulty suffix) (fun w => Shows root w.tree m.disk)
      (Program.perform (OsOp.remove (Place.path root .pending))) (Breaks root m .removePendingFile) := by
  apply Program.triple_perform
  intro fault w shows
  cases fault with
  | some fault => exact breaks_of_unchanged (some { error := fault.error }) rfl shows rfl
  | none =>
    have node : w.tree.node (Place.path root .pending) = m.disk.node root .pending := shows .pending trivial
    simp only [Disk.node] at node
    have erased : Shows root (w.tree.erase (Place.path root .pending)) { m.disk with pending := .absent } := by
      intro place decides
      cases place with
      | pending => simp [Disk.node, recordNode]
      | link l =>
        have other : Place.path root (.link l) ≠ Place.path root .pending :=
          (Place.path_injective root).ne (by rintro ⟨⟩)
        rw [FileTree.node_erase_of_ne _ other, shows (.link l) decides]
        rfl
      | _ => cases decides
    refine ⟨none, ?_⟩
    simp only [faulty, osHandler, breakable, diskHandler, FileTree.tryRemove, node]
    cases stored : m.disk.pending with
    | absent =>
      refine ⟨rfl, shows.congr ?_⟩
      simp [Disk.nextStart, stored]
    | malformed => exact ⟨rfl, erased⟩
    | stored record => exact ⟨rfl, erased⟩

theorem writeStatus_breaks (status : PersistedStatus) :
    Action.Triple (faulty suffix) (fun w => Shows root w.tree m.disk)
      (do
        Action.mapError (.wrap "create updates root") (FileSystem.mkdirAll root)
        atomicWriteFile (Place.path root .status) (.status status))
      (Breaks root m (.writeStatusFile status)) := by
  have made : Action.Triple (faulty suffix) (fun w : FileWorld => Shows root w.tree m.disk)
      (Action.mapError (.wrap "create updates root") (FileSystem.mkdirAll root) : FileAction Unit)
      (fun _ w => Shows root w.tree m.disk) :=
    shows_of_only fun place _ => Action.Only.mapError (only_mkdirAll fun q base => base_not_deciding base)
  have failed : ∀ (e : GoError) (w : FileWorld), Shows root w.tree m.disk →
      Breaks root m (.writeStatusFile status) (.error e) w :=
    fun e w shows => breaks_of_unchanged (some { error := e }) rfl shows rfl
  apply Action.Triple.bind made
  · intro _
    apply Program.Triple.mono (atomicWriteFile_triple _ _) (fun _ shows => shows)
    · intro reply w post
      cases reply with
      | ok _ =>
        have shows : Shows root w.tree m.disk := fun place decides =>
          post.2 place decides ((Place.path_injective root).ne (by rintro rfl; cases decides))
        exact breaks_of_unchanged none rfl shows rfl
      | error e => exact failed e w post
    · intro taken same
      exact tempName_ne taken (by decide) (List.cons.inj same).1
    · intro place _ q below
      exact base_not_deciding below
  · intro e w shows
    exact failed e w shows

theorem only_readReleasesFile {p : Path} : Action.Only (OsOp.Spares suffix p) (readReleasesFile root) := by
  have read : Action.Only (OsOp.Spares suffix p)
      (Action.ofProgram (.perform (OsOp.readDir (Place.path root .releases))) : FileAction _) :=
    Program.only_perform trivial
  exact read.bind fun _ => Action.only_pure _

theorem only_readRecordFile {α : Type} {decode : Content → Option α} {path p : Path} :
    Action.Only (OsOp.Spares suffix p) (readRecordFile decode path) := by
  have read : Action.Only (OsOp.Spares suffix p)
      (Action.ofProgram (.perform (OsOp.readFile path)) : FileAction _) :=
    Program.only_perform trivial
  exact read.bind fun _ => Action.only_pure _

/-- Whichever system calls of a step fail, it ends as `breakable` allows. -/
theorem storeOp_breaks (op : DiskOp) :
    Program.Triple (faulty suffix) (fun w => Shows root w.tree m.disk) (storeOp root op)
      (Breaks root m op) := by
  cases op with
  | readlink l =>
    apply Program.Triple.bind (readlink_breaks l)
    intro reply
    cases reply <;> exact Program.triple_ret fun _ post => post
  | mkdirAll version =>
    apply Program.Triple.mono (shows_of_only fun place decides =>
      only_mkdirAll fun q below => release_not_deciding decides version below) (fun _ shows => shows)
    intro reply w shows
    cases reply with
    | ok _ => exact breaks_of_unchanged none rfl shows rfl
    | error e => exact breaks_of_unchanged (some { error := e }) rfl shows rfl
  | atomicWriteExecutable version content =>
    apply Program.Triple.mono (atomicWriteFile_triple plain_binary fun place decides q below =>
      release_not_deciding decides version below) (fun _ shows => shows)
    intro reply w post
    cases reply with
    | ok _ =>
      have shows : Shows root w.tree m.disk := fun place decides =>
        post.2 place decides ((Place.path_injective root).ne (by rintro rfl; cases decides))
      exact breaks_of_unchanged none rfl shows rfl
    | error e => exact breaks_of_unchanged (some { error := e }) rfl post rfl
  | atomicSymlink version l =>
    apply Program.Triple.mono atomicSymlinkFile_triple (fun _ shows => shows)
    intro reply w post
    cases reply with
    | ok _ => exact ⟨none, rfl, shows_setLink post⟩
    | error e => exact breaks_of_unchanged (some { error := e }) rfl post rfl
  | removeLink l => exact removeLink_breaks l
  | readReleasesDir =>
    apply Program.Triple.mono (shows_of_only fun _ _ => only_readReleasesFile) (fun _ shows => shows)
    intro _ w shows
    exact breaks_of_unchanged none trivial shows rfl
  | removeAll version =>
    apply Program.triple_perform
    intro fault w shows
    have still : Shows root
        (faulty suffix (.removeAll (Place.path root (.releaseDir version))) fault w).2.tree m.disk := by
      refine shows_of_spares _ ?_ fault shows
      intro place decides below
      -- a link or the record lies one level below the root, a release two
      have short := below.length_le
      rw [Place.length_path, Place.length_path, decides.depth, Place.depth] at short
      omega
    cases fault with
    | none => exact breaks_of_unchanged none rfl still rfl
    | some fault => exact breaks_of_unchanged (some { error := fault.error }) rfl still rfl
  | readPendingFile => exact readPending_breaks
  | writePendingFile pending =>
    apply Program.Triple.mono (atomicWriteFile_triple plain_pending fun place _ q below =>
      base_not_deciding below) (fun _ shows => shows)
    intro reply w post
    cases reply with
    | ok _ => exact ⟨none, rfl, shows_setPending post⟩
    | error e => exact breaks_of_unchanged (some { error := e }) rfl post rfl
  | removePendingFile => exact removePending_breaks
  | readStatusFile =>
    apply Program.Triple.mono (shows_of_only fun _ _ => only_readRecordFile) (fun _ shows => shows)
    intro _ w shows
    exact breaks_of_unchanged none trivial shows rfl
  | writeStatusFile status => exact writeStatus_breaks status
  | now =>
    apply Program.triple_perform
    intro fault w shows
    have still : Shows root (faulty suffix .now fault w).2.tree m.disk :=
      shows_of_spares .now (fun _ _ => trivial) fault shows
    exact breaks_of_unchanged none trivial still rfl

end Steps

end Strom.Updates
