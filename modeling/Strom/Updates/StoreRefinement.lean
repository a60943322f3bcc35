import Strom.Updates.StoreLayout

/-!
# The store files refine the store directory

`storeOp_implements`: each operation on the directory, run as the system calls
of its helper, ends as the operation says and passes only through trees that
represent the directory before or after it, up to empty release directories.
-/

namespace Strom.Updates

open Strom.Go Strom.Effects Strom.FileSystem

/-- The world holds the directory of the machine and shows its clock. -/
structure Related (root : Path) (w : FileWorld) (m : Machine) : Prop where
  disk : Represents root w.tree m.disk
  clock : w.clock = m.clock
  reads : w.reads = m.reads

/-- The directories differ at most in which release directories exist. -/
structure Similar (m m' : Machine) : Prop where
  link : ∀ l, m'.disk.link l = m.disk.link l
  binary : m'.disk.binary = m.disk.binary
  pending : m'.disk.pending = m.disk.pending
  status : m'.disk.status = m.disk.status

theorem Similar.refl (m : Machine) : Similar m m := ⟨fun _ => rfl, rfl, rfl, rfl⟩

theorem similar_mkdir (m : Machine) (version : String) :
    Similar m { m with disk := m.disk.mkdir version } :=
  ⟨fun _ => Disk.link_mkdir .., rfl, rfl, rfl⟩

variable {root : Path} {suffix : List String → String} {w : FileWorld} {m : Machine}

theorem Related.change {t' : FileTree Content} {d' : Disk} (related : Related root w m)
    (rep : Represents root t' d') : Related root { w with tree := t' } { m with disk := d' } :=
  ⟨rep, related.clock, related.reads⟩

/-! ## Temporary names -/

theorem tempName_ne (taken : List String) {name : String} (plain : name.toList.head? ≠ some '.') :
    tempName suffix taken ≠ name := by
  rintro rfl
  simp [tempName] at plain

theorem aside_of_tempName (suffix : List String → String) (taken : List String) {above : Path}
    (above_eq : above = root ∨ ∃ version, above = Place.path root (.releaseDir version)) :
    Aside root (tempName suffix taken :: above) := by
  have length : above.length = root.length ∨ above.length = root.length + 2 := by
    rcases above_eq with rfl | ⟨version, rfl⟩ <;> simp [Place.path]
  refine ⟨fun below => ?_, fun place same => ?_, fun l same => ?_, ?_⟩
  · have := below.length_le
    simp only [List.length_cons] at this
    omega
  · cases place with
    | releaseDir other =>
      have lengths := congrArg List.length same
      simp only [Place.length_path, Place.depth, List.length_cons] at lengths
      omega
    | link l => cases l <;> exact tempName_ne taken (by decide) (List.cons.inj same).1.symm
    | _ => exact tempName_ne taken (by decide) (List.cons.inj same).1.symm
  · cases l <;> exact tempName_ne taken (by decide) (List.cons.inj same).1.symm
  · rcases above_eq with rfl | ⟨version, rfl⟩
    · simp [Place.path]
    · intro same
      simpa [Place.path] using congrArg List.length same

/-! ## Creating directories -/

theorem mkdirAll_root_holds (related : Related root w m) :
    Action.Holds (osHandler suffix) (fun w' => Related root w' m) (FileSystem.mkdirAll root)
      (fun result w' => result = .ok () ∧ w'.tree.node root = some .dir) w := by
  refine Action.Holds.mono (mkdirAll_holds ?_ ?_ ?_ related) fun result w' _ post => ⟨post.1, post.2.1⟩
  · exact fun w' related => related.disk.top
  · exact fun w' related => related.disk.base
  · exact fun w' related p below _ _ _ => related.change (related.disk.mkdir_base below)

/-- A release directory, or part of the way to it, was created. -/
def CreatingRelease (root : Path) (version : String) (m : Machine) (w : FileWorld) : Prop :=
  ∃ d, Related root w { m with disk := d } ∧
    (d = m.disk ∨ d = { m.disk with releasesDir := true } ∨ d = m.disk.mkdir version)

theorem CreatingRelease.similar {version : String} (creating : CreatingRelease root version m w) :
    ∃ t, Related root w t ∧ Similar m t := by
  obtain ⟨d, related, rfl | rfl | rfl⟩ := creating
  · exact ⟨_, related, .refl m⟩
  · exact ⟨_, related, ⟨fun l => by cases l <;> rfl, rfl, rfl, rfl⟩⟩
  · exact ⟨_, related, similar_mkdir m version⟩

theorem Represents.releasesDir_of_mem {t : FileTree Content} {d : Disk} {version : String}
    (rep : Represents root t d) (present : version ∈ d.dirs) : d.releasesDir = true := by
  by_contra missing
  rw [rep.noReleases (by simpa using missing)] at present
  cases present

theorem mkdir_of_mem {d : Disk} {version : String} (releases : d.releasesDir = true)
    (present : version ∈ d.dirs) : d.mkdir version = d := by
  rw [Disk.mkdir, if_pos present, ← releases]

theorem CreatingRelease.mkdir {version : String} {p : Path}
    (creating : CreatingRelease root version m w)
    (below : p <:+ Place.path root (.releaseDir version)) (missing : w.tree.node p = none)
    (parent : w.tree.node p.tail = some .dir) :
    CreatingRelease root version m { w with tree := w.tree.mkdir p } := by
  obtain ⟨d, related, phase⟩ := creating
  have rep : Represents root w.tree d := related.disk
  rcases List.suffix_cons_iff.mp below with rfl | below
  · have releases : d.releasesDir = true := by
      have place := (rep.place .releases).symm.trans parent
      by_contra unset
      simp [Disk.node, unset] at place
    have absent : version ∉ d.dirs := by
      have place := (rep.place (.releaseDir version)).symm.trans missing
      intro present
      simp [Disk.node, present] at place
    refine ⟨d.mkdir version, related.change (rep.mkdir_release releases), .inr (.inr ?_)⟩
    rcases phase with rfl | rfl | rfl
    · rfl
    · rfl
    · exact absurd ((Disk.mem_dirs_mkdir _ _ _).mpr (.inl rfl)) absent
  rcases List.suffix_cons_iff.mp below with rfl | below
  · have unset : d.releasesDir = false := by
      have place := (rep.place .releases).symm.trans missing
      by_contra releases
      simp [Disk.node, releases] at place
    refine ⟨{ d with releasesDir := true }, related.change (rep.mkdir_releases unset),
      .inr (.inl ?_)⟩
    rcases phase with rfl | rfl | rfl
    · rfl
    · cases unset
    · cases unset
  · exact ⟨d, related.change (rep.mkdir_base below), phase⟩

theorem mkdirAll_release_holds (version : String) (related : Related root w m) :
    Action.Holds (osHandler suffix) (CreatingRelease root version m)
      (FileSystem.mkdirAll (Place.path root (.releaseDir version)))
      (fun result w' => result = .ok () ∧ Related root w' { m with disk := m.disk.mkdir version })
      w := by
  have start : CreatingRelease root version m w := ⟨_, related, .inl rfl⟩
  refine Action.Holds.mono (mkdirAll_holds ?_ ?_ ?_ start) ?_
  · rintro w' ⟨d, related, -⟩
    exact related.disk.top
  · rintro w' ⟨d, related, -⟩ p below
    have rep : Represents root w'.tree d := related.disk
    rcases List.suffix_cons_iff.mp below with rfl | below
    · have place := rep.place (.releaseDir version)
      by_cases present : version ∈ d.dirs
      · exact .inr (place.trans (if_pos present))
      · exact .inl (place.trans (if_neg present))
    rcases List.suffix_cons_iff.mp below with rfl | below
    · have place := rep.place .releases
      by_cases set : d.releasesDir = true
      · exact .inr (place.trans (if_pos set))
      · exact .inl (place.trans (if_neg set))
    · exact rep.base p below
  · exact fun w' creating p below _ missing parent => creating.mkdir below missing parent
  · rintro result w' ⟨d, related, phase⟩ ⟨rfl, dir, -⟩
    have rep : Represents root w'.tree d := related.disk
    have present : version ∈ d.dirs := by
      by_contra absent
      have place := (rep.place (.releaseDir version)).symm.trans dir
      simp [Disk.node, absent] at place
    have made := mkdir_of_mem (rep.releasesDir_of_mem present) present
    refine ⟨rfl, ?_⟩
    rcases phase with rfl | rfl | rfl
    · rwa [made]
    · have same : m.disk.mkdir version = { m.disk with releasesDir := true } := made
      rwa [same]
    · exact related

/-! ## Replacing a file -/

/-- Writing and renaming a temporary file that exists. -/
theorem replaceFile_trees {created : FileTree Content} {d d' : Disk} {place : Place} {content : Content}
    {temp : Path} (aside : Aside root temp) (temp_node : created.node temp = some (.file none))
    (rep : Represents root created d)
    (dir : created.node (Place.path root place).tail = some .dir)
    (file : d.node root place ≠ some .dir)
    (after : ∀ t, Represents root t d →
      Represents root (t.put (Place.path root place) (.file (some content))) d') :
    ∃ filled renamed, created.tryWrite temp content = .ok filled ∧ Represents root filled d ∧
      filled.tryRename temp (Place.path root place) = .ok renamed ∧ Represents root renamed d' ∧
      renamed.tryRemove temp = .error missing := by
  have path_ne : Place.path root place ≠ temp := aside.place place
  have parent_ne : (Place.path root place).tail ≠ temp := by
    intro same
    rw [same, temp_node] at dir
    cases dir
  let filled := created.put temp (.file (some content))
  let renamed := (filled.erase temp).put (Place.path root place) (.file (some content))
  have repFilled : Represents root filled d := rep.aside aside (off_put aside.parent _)
  have repRenamed : Represents root renamed d' :=
    after _ (repFilled.aside aside (off_erase aside.parent))
  have notDir : filled.isDir (Place.path root place) = false := by
    unfold FileTree.isDir
    rw [repFilled.place place]
    split
    · next node => exact absurd node file
    · rfl
  have stillDir : filled.isDir (Place.path root place).tail = true := by
    apply isDir_of_node
    rw [FileTree.node_put_of_ne _ _ parent_ne, dir]
  refine ⟨filled, renamed, ?_, repFilled, ?_, repRenamed, ?_⟩
  · simp [FileTree.tryWrite, temp_node, filled]
  · have source : filled.node temp = some (.file (some content)) := FileTree.node_put_same _ _
    simp [FileTree.tryRename, source, notDir, stillDir, renamed]
  · have erased : renamed.node temp = none := by
      rw [FileTree.node_put_of_ne _ _ path_ne.symm, FileTree.node_erase_same]
    simp [FileTree.tryRemove, erased]

/-- `replaceFile` goes from one directory state to the other in the rename. -/
theorem replaceFile_holds {place : Place} {content : Content} {d' : Disk}
    (related : Related root w m)
    (above : (Place.path root place).tail = root ∨
      ∃ version, (Place.path root place).tail = Place.path root (.releaseDir version))
    (dir : w.tree.node (Place.path root place).tail = some .dir)
    (file : m.disk.node root place ≠ some .dir)
    (after : ∀ t, Represents root t m.disk →
      Represents root (t.put (Place.path root place) (.file (some content))) d') :
    Action.Holds (osHandler suffix)
      (fun w' => Related root w' m ∨ Related root w' { m with disk := d' })
      (replaceFile (Place.path root place) content)
      (fun result w' => result = .ok () ∧ Related root w' { m with disk := d' }) w := by
  have aside := aside_of_tempName suffix (w.tree.names (Place.path root place).tail) above
  have parent_ne : (Place.path root place).tail ≠
      tempName suffix (w.tree.names (Place.path root place).tail) :: (Place.path root place).tail :=
    (List.cons_ne_self _ _).symm
  obtain ⟨filled, renamed, write, repFilled, rename, repRenamed, gone⟩ :=
    replaceFile_trees aside (FileTree.node_put_same w.tree (.file none))
      (related.disk.aside aside (off_put aside.parent _))
      ((FileTree.node_put_of_ne _ _ parent_ne).trans dir) file after
  unfold replaceFile Action.Holds
  simp only [fillAndRename, Action.toProgram_bind, Action.toProgram_mapError,
    Action.toProgram_ofProgram, Action.toProgram_always, Action.toProgram_ofExcept,
    Program.perform_bind, Program.call_bind, Program.ret_bind, Program.bind_assoc,
    Program.holds_call, Program.holds_ret, osHandler, isDir_of_node dir, if_true, Except.mapError,
    write, World.attempt_ok, World.attempt_error, rename, gone]
  have repCreated := related.change (related.disk.aside aside (off_put aside.parent (.file none)))
  exact ⟨.inl related, .inl repCreated, .inl (related.change repFilled),
    .inr (related.change repRenamed), .inr (related.change repRenamed), trivial,
    related.change repRenamed⟩

/-! ## The helpers -/

/-- While an operation takes `m` to `m'`, the world is similar to one or the other. -/
def Passing (root : Path) (m m' : Machine) (w : FileWorld) : Prop :=
  ∃ t, Related root w t ∧ (Similar m t ∨ Similar m' t)

theorem Passing.before {m' : Machine} (related : Related root w m) : Passing root m m' w :=
  ⟨m, related, .inl (.refl m)⟩

theorem Passing.after {m' : Machine} (related : Related root w m') : Passing root m m' w :=
  ⟨m', related, .inr (.refl m')⟩

/-- Writing a file that lies in the store root. -/
theorem atomicWriteFile_root_holds {place : Place} {content : Content} {d' : Disk}
    (related : Related root w m) (above : (Place.path root place).tail = root)
    (file : m.disk.node root place ≠ some .dir)
    (after : ∀ t, Represents root t m.disk →
      Represents root (t.put (Place.path root place) (.file (some content))) d') :
    Action.Holds (osHandler suffix) (Passing root m { m with disk := d' })
      (atomicWriteFile (Place.path root place) content)
      (fun result w' => result = .ok () ∧ Related root w' { m with disk := d' }) w := by
  unfold atomicWriteFile
  rw [above]
  refine Action.holds_bind.mpr (Action.holds_mapError.mpr ?_)
  refine Program.Holds.weaken (Action.Holds.mono (mkdirAll_root_holds related) ?_)
    fun w' same => .before same
  rintro result w' same ⟨rfl, dir⟩
  refine ⟨.before same, ?_⟩
  exact Program.Holds.weaken (replaceFile_holds same (.inl above) (by rw [above]; exact dir) file after)
    fun w'' either => either.elim .before .after

theorem writePending_holds (pending : PendingActivation) (related : Related root w m) :
    Action.Holds (osHandler suffix)
      (Passing root m { m with disk := { m.disk with pending := .stored pending } })
      (atomicWriteFile (Place.path root .pending) (.pending pending))
      (fun result w' => result = .ok () ∧
        Related root w' { m with disk := { m.disk with pending := .stored pending } }) w := by
  refine atomicWriteFile_root_holds related rfl ?_ fun t rep => ?_
  · unfold Disk.node recordNode
    cases m.disk.pending <;> simp
  · refine rep.at_place (off_put (by simp [Place.path]) _) (FileTree.node_put_same _ _)
      (fun other ne => ?_) rfl rfl rep.inDir
    cases other <;> first | rfl | exact absurd rfl ne

theorem writeStatus_holds (status : PersistedStatus) (related : Related root w m) :
    Action.Holds (osHandler suffix)
      (Passing root m { m with disk := { m.disk with status := .stored status } })
      (atomicWriteFile (Place.path root .status) (.status status))
      (fun result w' => result = .ok () ∧
        Related root w' { m with disk := { m.disk with status := .stored status } }) w := by
  refine atomicWriteFile_root_holds related rfl ?_ fun t rep => ?_
  · unfold Disk.node recordNode
    cases m.disk.status <;> simp
  · refine rep.at_place (off_put (by simp [Place.path]) _) (FileTree.node_put_same _ _)
      (fun other ne => ?_) rfl rfl rep.inDir
    cases other <;> first | rfl | exact absurd rfl ne

theorem Represents.put_binary {t : FileTree Content} {d : Disk} {version : String} {content : Bytes}
    (rep : Represents root t (d.mkdir version)) :
    Represents root
      (t.put (Place.path root (.binary version)) (.file (some (.executable content))))
      (d.writeBinary version content) := by
  refine rep.at_place (off_put ?_ _) ?_ (fun other ne => ?_) rfl rfl fun other content' stored => ?_
  · intro same
    simpa [Place.path] using congrArg List.length same
  · rw [FileTree.node_put_same]
    simp [Disk.node]
  · cases other with
    | binary other =>
      have different : other ≠ version := fun same => ne (by rw [same])
      simp only [Disk.node, d.binary_writeBinary_of_ne content different]
      rfl
    | link l => simp [Disk.node]
    | _ => rfl
  · by_cases same : other = version
    · exact (d.mem_dirs_mkdir version other).mpr (.inl same)
    · rw [d.binary_writeBinary_of_ne content same] at stored
      exact rep.inDir other content' stored

theorem atomicWriteExecutable_holds (version : String) (content : Bytes)
    (related : Related root w m) :
    Action.Holds (osHandler suffix)
      (Passing root m { m with disk := m.disk.writeBinary version content })
      (atomicWriteFile (Place.path root (.binary version)) (.executable content))
      (fun result w' => result = .ok () ∧
        Related root w' { m with disk := m.disk.writeBinary version content }) w := by
  unfold atomicWriteFile
  refine Action.holds_bind.mpr (Action.holds_mapError.mpr ?_)
  refine Program.Holds.weaken (Action.Holds.mono (mkdirAll_release_holds version related) ?_) ?_
  · rintro result w' creating ⟨rfl, made⟩
    obtain ⟨t, related', similar⟩ := creating.similar
    refine ⟨⟨t, related', .inl similar⟩, ?_⟩
    have dir : w'.tree.node (Place.path root (.releaseDir version)) = some .dir :=
      (made.disk.place (.releaseDir version)).trans (by simp [Disk.node])
    have file : (m.disk.mkdir version).node root (.binary version) ≠ some .dir := by
      simp [Disk.node]
    have replaced : Action.Holds (osHandler suffix) _
        (replaceFile (Place.path root (.binary version)) (.executable content)) _ w' :=
      replaceFile_holds made (.inr ⟨version, rfl⟩) dir file fun t rep => rep.put_binary
    refine Program.Holds.weaken replaced ?_
    rintro w'' (before | after)
    · exact ⟨_, before, .inl (similar_mkdir m version)⟩
    · exact .after after
  · intro w' creating
    obtain ⟨t, related', similar⟩ := creating.similar
    exact ⟨t, related', .inl similar⟩

theorem Represents.setLink {t t' : FileTree Content} {d : Disk} {l : Link} {target : Option String}
    (rep : Represents root t d) (off : Off root (Place.path root (.link l)) t t')
    (node : t'.node (Place.path root (.link l)) =
      target.map fun version => .symlink (Place.path root (.binary version))) :
    Represents root t' (d.setLink l target) := by
  refine rep.at_place off ?_ (fun other ne => ?_) ?_ (d.dirs_setLink l target) ?_
  · rw [node]
    simp [Disk.node]
  · cases other with
    | link l' =>
      have different : l' ≠ l := fun same => ne (by rw [same])
      simp [Disk.node, d.link_setLink_of_ne target different]
    | _ => cases l <;> rfl
  · cases l <;> rfl
  · simpa using rep.inDir

/-- The trees that `atomicSymlink` passes through. -/
theorem symlink_trees {t : FileTree Content} {d : Disk} (version : String) (l : Link)
    (rep : Represents root t d) (dir : t.node root = some .dir) :
    ∃ cleaned linked renamed,
      (t.tryRemove (tempLinkPath root l) = .ok cleaned ∨
        t.tryRemove (tempLinkPath root l) = .error missing ∧ cleaned = t) ∧
      Represents root cleaned d ∧
      cleaned.trySymlink (Place.path root (.binary version)) (tempLinkPath root l) = .ok linked ∧
      Represents root linked d ∧
      linked.tryRename (tempLinkPath root l) (Place.path root (.link l)) = .ok renamed ∧
      Represents root renamed (d.setLink l (some version)) := by
  have parent : Place.path root .releases ≠ (tempLinkPath root l).tail := by
    simp [Place.path, tempLinkPath]
  have root_ne : root ≠ tempLinkPath root l := (tempLink_not_base List.suffix_rfl l).symm
  obtain ⟨cleaned, removed, repCleaned, clean, stillDir⟩ : ∃ cleaned,
      (t.tryRemove (tempLinkPath root l) = .ok cleaned ∨
        t.tryRemove (tempLinkPath root l) = .error missing ∧ cleaned = t) ∧
      Represents root cleaned d ∧ cleaned.node (tempLinkPath root l) = none ∧
      cleaned.node root = some .dir := by
    rcases rep.tempLink l with none | ⟨target, left⟩
    · exact ⟨t, .inr ⟨by simp [FileTree.tryRemove, none], rfl⟩, rep, none, dir⟩
    · have erased : Represents root (t.erase (tempLinkPath root l)) d :=
        rep.at_tempLink (off_erase parent) (.inl (FileTree.node_erase_same t))
      refine ⟨_, .inl (by simp [FileTree.tryRemove, left]), erased, FileTree.node_erase_same t, ?_⟩
      rw [FileTree.node_erase_of_ne t root_ne, dir]
  let node : Inode Content := .symlink (Place.path root (.binary version))
  let linked := cleaned.put (tempLinkPath root l) node
  have linkedNode : linked.node (tempLinkPath root l) = some node := FileTree.node_put_same _ _
  have repLinked : Represents root linked d :=
    repCleaned.at_tempLink (off_put parent _) (.inr ⟨_, linkedNode⟩)
  have repErased : Represents root (linked.erase (tempLinkPath root l)) d :=
    repLinked.at_tempLink (off_erase parent) (.inl (FileTree.node_erase_same _))
  have notDir : linked.isDir (Place.path root (.link l)) = false := by
    unfold FileTree.isDir
    rw [repLinked.place (.link l)]
    cases d.link l <;> simp [Disk.node]
  have rootDir : linked.isDir root = true := by
    apply isDir_of_node
    rw [FileTree.node_put_of_ne _ _ root_ne, stillDir]
  refine ⟨cleaned, linked, (linked.erase (tempLinkPath root l)).put (Place.path root (.link l)) node,
    removed, repCleaned, ?_, repLinked, ?_, ?_⟩
  · have tail : (tempLinkPath root l).tail = root := rfl
    simp [FileTree.trySymlink, clean, tail, isDir_of_node stillDir, linked, node]
  · have tail : (Place.path root (.link l)).tail = root := rfl
    simp [FileTree.tryRename, linkedNode, notDir, tail, rootDir]
  · exact repErased.setLink (off_put (by simp [Place.path]) node) (FileTree.node_put_same _ _)

theorem atomicSymlink_holds (version : String) (l : Link) (related : Related root w m) :
    Action.Holds (osHandler suffix)
      (Passing root m { m with disk := m.disk.setLink l (some version) })
      (atomicSymlinkFile root (Place.path root (.binary version)) l)
      (fun result w' => result = .ok () ∧
        Related root w' { m with disk := m.disk.setLink l (some version) }) w := by
  unfold atomicSymlinkFile
  refine Action.holds_bind.mpr (Action.holds_mapError.mpr ?_)
  refine Program.Holds.weaken (Action.Holds.mono (mkdirAll_root_holds related) ?_)
    fun w' same => .before same
  rintro result w' same ⟨rfl, dir⟩
  refine ⟨.before same, ?_⟩
  obtain ⟨cleaned, linked, renamed, removed, repCleaned, link, repLinked, rename, repRenamed⟩ :=
    symlink_trees version l same.disk dir
  have afterRemove : (w'.attempt (w'.tree.tryRemove (tempLinkPath root l))).2 =
      { w' with tree := cleaned } := by
    rcases removed with removed | ⟨failed, rfl⟩
    · rw [removed]; rfl
    · rw [failed]; rfl
  have done := same.change repRenamed
  unfold Action.Holds
  simp only [Action.toProgram_bind, Action.toProgram_mapError, Action.toProgram_ofProgram,
    Action.toProgram_always, Program.perform_bind, Program.call_bind, Program.ret_bind,
    Program.holds_call, osHandler, afterRemove, link, World.attempt_ok, rename, Except.mapError]
  exact ⟨.before same, .before (same.change repCleaned), .before (same.change repLinked),
    .after done, rfl, done⟩

/-! ## Reading and removing -/

theorem removeLink_trees {t : FileTree Content} {d : Disk} (l : Link) (rep : Represents root t d) :
    (d.link l = none ∧ t.tryRemove (Place.path root (.link l)) = .error missing) ∨
      ∃ version erased, d.link l = some version ∧
        t.tryRemove (Place.path root (.link l)) = .ok erased ∧
        Represents root erased (d.setLink l none) := by
  have node := rep.place (.link l)
  cases link : d.link l with
  | none =>
    simp only [Disk.node, link, Option.map_none] at node
    exact .inl ⟨rfl, by simp [FileTree.tryRemove, node]⟩
  | some version =>
    simp only [Disk.node, link, Option.map_some] at node
    refine .inr ⟨version, t.erase (Place.path root (.link l)), rfl, ?_, ?_⟩
    · simp only [FileTree.tryRemove, node]
    · exact rep.setLink (off_erase (by simp [Place.path])) (by simp)

theorem setLink_none_of_none {d : Disk} {l : Link} (none : d.link l = none) :
    d.setLink l Option.none = d := by
  cases l
  · simp only [Disk.link] at none
    simp [Disk.setLink, ← none]
  · simp only [Disk.link] at none
    simp [Disk.setLink, ← none]

theorem removePending_trees {t : FileTree Content} {d : Disk} (rep : Represents root t d) :
    (d.pending = .absent ∧ t.tryRemove (Place.path root .pending) = .error missing) ∨
      ∃ erased, d.pending ≠ .absent ∧ t.tryRemove (Place.path root .pending) = .ok erased ∧
        Represents root erased { d with pending := .absent } := by
  have node := rep.place .pending
  have erased : Represents root (t.erase (Place.path root .pending))
      { d with pending := .absent } := by
    refine rep.at_place (off_erase (by simp [Place.path])) (FileTree.node_erase_same t)
      (fun other ne => ?_) rfl rfl rep.inDir
    cases other <;> first | rfl | exact absurd rfl ne
  cases pending : d.pending with
  | absent =>
    simp only [Disk.node, pending, recordNode] at node
    exact .inl ⟨rfl, by simp [FileTree.tryRemove, node]⟩
  | malformed =>
    simp only [Disk.node, pending, recordNode] at node
    exact .inr ⟨_, by rintro ⟨⟩, by simp [FileTree.tryRemove, node], erased⟩
  | stored record =>
    simp only [Disk.node, pending, recordNode] at node
    exact .inr ⟨_, by rintro ⟨⟩, by simp [FileTree.tryRemove, node], erased⟩

/-- Reading a record file gives what the directory state says. -/
theorem readRecord_holds {α : Type} {place : Place} {record : RecordFile α} {encode : α → Content}
    {decode : Content → Option α} (related : Related root w m)
    (node : m.disk.node root place = recordNode encode record)
    (decodes : ∀ value, decode (encode value) = some value) :
    Action.Holds (osHandler suffix) (Passing root m m)
      (readRecordFile decode (Place.path root place))
      (fun result w' => result = record.read ∧ Related root w' m) w := by
  have same : Passing root m m w := .before related
  unfold readRecordFile Action.Holds
  simp only [Action.toProgram_bind, Action.toProgram_ofProgram, Program.perform_bind,
    Program.holds_call, osHandler, related.disk.place place, node]
  refine ⟨same, ?_⟩
  cases record with
  | absent => exact ⟨same, rfl, related⟩
  | malformed => exact ⟨same, rfl, related⟩
  | stored value => exact ⟨same, by simp [RecordFile.read, decodes], related⟩

theorem readReleases_holds (related : Related root w m) :
    Action.Holds (osHandler suffix) (Passing root m m) (readReleasesFile root)
      (fun result w' => result =
        (if m.disk.releasesDir then .ok m.disk.dirs else .error (.os .notExist)) ∧
          Related root w' m) w := by
  have same : Passing root m m w := .before related
  unfold readReleasesFile Action.Holds
  simp only [Action.toProgram_bind, Action.toProgram_ofProgram, Program.perform_bind,
    Program.holds_call, osHandler, related.disk.place .releases]
  refine ⟨same, ?_⟩
  cases releases : m.disk.releasesDir with
  | false =>
    simp only [Disk.node, releases, Bool.false_eq_true, if_false]
    exact ⟨same, rfl, related⟩
  | true =>
    have dirs (version : String) (present : version ∈ m.disk.dirs) :
        w.tree.isDir (version :: Place.path root .releases) = true :=
      isDir_of_node ((related.disk.place (.releaseDir version)).trans (if_pos present))
    have all : ((m.disk.dirs.map fun name =>
        (name, w.tree.isDir (name :: Place.path root .releases))).filter (·.2)).map (·.1) =
          m.disk.dirs := by
      have kept : m.disk.dirs.filter (fun name =>
          w.tree.isDir (name :: Place.path root .releases)) = m.disk.dirs :=
        List.filter_eq_self.mpr dirs
      rw [List.filter_map, List.map_map]
      exact (congrArg _ kept).trans (List.map_id _)
    simp only [Disk.node, releases, if_true, related.disk.names releases]
    exact ⟨same, congrArg Except.ok all, related⟩

theorem writeStatusFile_holds (status : PersistedStatus) (related : Related root w m) :
    Action.Holds (osHandler suffix)
      (Passing root m { m with disk := { m.disk with status := .stored status } })
      (do
        Action.mapError (.wrap "create updates root") (FileSystem.mkdirAll root)
        atomicWriteFile (Place.path root .status) (.status status))
      (fun result w' => result = .ok () ∧
        Related root w' { m with disk := { m.disk with status := .stored status } }) w := by
  refine Action.holds_bind.mpr (Action.holds_mapError.mpr ?_)
  refine Program.Holds.weaken (Action.Holds.mono (mkdirAll_root_holds related) ?_)
    fun w' same => .before same
  rintro result w' same ⟨rfl, dir⟩
  exact ⟨.before same, writeStatus_holds status same⟩

/-- Every operation on the store directory is implemented by its system calls. -/
theorem storeOp_implements (root : Path) (suffix : List String → String) :
    Implements diskHandler (osHandler suffix) (Related root) Similar (storeOp root) := by
  intro op w m related
  cases op with
  | readlink l =>
    have same : Passing root m m w := .before related
    simp only [storeOp, readlinkFile, Program.bind_eq, Program.perform_bind, Program.holds_call,
      osHandler, related.disk.place (.link l)]
    refine ⟨same, ?_⟩
    cases link : m.disk.link l with
    | none =>
      simp only [Disk.node, diskHandler, link, Option.map_none]
      exact ⟨same, rfl, related⟩
    | some version =>
      simp only [Disk.node, diskHandler, link, Option.map_some]
      exact ⟨same, rfl, related⟩
  | mkdirAll version =>
    refine Program.Holds.weaken (mkdirAll_release_holds version related) fun w' creating => ?_
    obtain ⟨t, related', similar⟩ := creating.similar
    exact ⟨t, related', .inl similar⟩
  | atomicWriteExecutable version content => exact atomicWriteExecutable_holds version content related
  | atomicSymlink version l => exact atomicSymlink_holds version l related
  | removeLink l =>
    simp only [storeOp, Program.holds_perform, osHandler, diskHandler]
    rcases removeLink_trees l related.disk with ⟨none, failed⟩ | ⟨version, erased, some, ok, rep⟩
    · simp only [failed, World.attempt_error, none, setLink_none_of_none none]
      exact ⟨Passing.before related, Passing.before related, rfl, related⟩
    · simp only [ok, World.attempt_ok, some]
      exact ⟨Passing.before related, Passing.after (related.change rep), trivial, related.change rep⟩
  | readReleasesDir => exact readReleases_holds related
  | removeAll version =>
    have removed := related.change (related.disk.removeAll version)
    exact ⟨Passing.before related, Passing.after removed, rfl, removed⟩
  | readPendingFile => exact readRecord_holds related rfl fun _ => rfl
  | writePendingFile pending => exact writePending_holds pending related
  | removePendingFile =>
    simp only [storeOp, Program.holds_perform, osHandler, diskHandler]
    rcases removePending_trees related.disk with ⟨absent, failed⟩ | ⟨erased, present, ok, rep⟩
    · have unchanged : { m.disk with pending := .absent } = m.disk := by rw [← absent]
      simp only [failed, World.attempt_error, absent, unchanged]
      exact ⟨Passing.before related, Passing.before related, rfl, related⟩
    · simp only [ok, World.attempt_ok]
      exact ⟨Passing.before related, Passing.after (related.change rep), by simp, related.change rep⟩
  | readStatusFile => exact readRecord_holds related rfl fun _ => rfl
  | writeStatusFile status => exact writeStatusFile_holds status related
  | now =>
    have ticked : Related root { w with reads := w.reads + 1 } { m with reads := m.reads + 1 } :=
      ⟨related.disk, related.clock, congrArg (· + 1) related.reads⟩
    refine ⟨Passing.before related, Passing.after ticked, ?_, ticked⟩
    change w.clock w.reads = m.clock m.reads
    rw [related.clock, related.reads]

end Strom.Updates
