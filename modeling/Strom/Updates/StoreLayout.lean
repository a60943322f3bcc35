import Strom.Updates.StoreFiles

/-!
# How a file tree represents the store directory

`Represents root t d`: below `root`, the tree `t` holds the directory state `d`.
Temporary files and links count for nothing.  One lemma per kind of change says
which directory state the changed tree represents.
-/

namespace Strom.Updates

open Strom.FileSystem

/-! ## The directory that a tree represents -/

/-- The node of a record file. -/
def recordNode {α : Type} (encode : α → Content) : RecordFile α → Option (Inode Content)
  | .absent => none
  | .malformed => some (.file none)
  | .stored record => some (.file (some (encode record)))

/-- What is at a place of the store. -/
def Disk.node (d : Disk) (root : Path) : Place → Option (Inode Content)
  | .releases => if d.releasesDir then some .dir else none
  | .releaseDir version => if version ∈ d.dirs then some .dir else none
  | .binary version => (d.binary version).map fun content => .file (some (.executable content))
  | .link l => (d.link l).map fun version => .symlink (Place.path root (.binary version))
  | .pending => recordNode .pending d.pending
  | .status => recordNode .status d.status

structure Represents (root : Path) (t : FileTree Content) (d : Disk) : Prop where
  top : t.node [] = some .dir
  base : ∀ p, p <:+ root → t.node p = none ∨ t.node p = some .dir
  place : ∀ place, t.node (Place.path root place) = d.node root place
  names : d.releasesDir = true → t.names (Place.path root .releases) = d.dirs
  noReleases : d.releasesDir = false → d.dirs = []
  inDir : ∀ version content, d.binary version = some content → version ∈ d.dirs
  /-- A link left behind by a crash. -/
  tempLink : ∀ l, t.node (tempLinkPath root l) = none ∨
    ∃ target, t.node (tempLinkPath root l) = some (.symlink target)

/-! ## Paths are distinct -/

/-- How many directories below the store root a place lies. -/
def Place.depth : Place → Nat
  | .releaseDir _ => 2
  | .binary _ => 3
  | _ => 1

theorem Place.length_path (root : Path) (place : Place) :
    (Place.path root place).length = root.length + place.depth := by
  cases place <;> simp [Place.path, Place.depth]

theorem linkName_injective : Function.Injective linkName := by
  intro first second same
  cases first <;> cases second <;> simp_all [linkName]

theorem Place.path_injective (root : Path) : Function.Injective (Place.path root) := by
  intro first second same
  have depth : first.depth = second.depth := by
    have length := congrArg List.length same
    simpa only [Place.length_path, Nat.add_left_cancel_iff] using length
  cases first with
  | releaseDir v => cases second <;> simp_all [Place.depth, Place.path]
  | binary v => cases second <;> simp_all [Place.depth, Place.path]
  | releases =>
    cases second with
    | link l => cases l <;> simp [Place.path, linkName] at same
    | _ => simp_all [Place.depth, Place.path]
  | link l =>
    cases second with
    | link l' =>
      simp only [Place.path, List.cons.injEq, and_true] at same
      rw [linkName_injective same]
    | _ => cases l <;> simp_all [Place.path, linkName]
  | pending =>
    cases second with
    | link l => cases l <;> simp [Place.path, linkName] at same
    | _ => simp_all [Place.depth, Place.path]
  | status =>
    cases second with
    | link l => cases l <;> simp [Place.path, linkName] at same
    | _ => simp_all [Place.depth, Place.path]

theorem Place.path_not_base {root p : Path} (base : p <:+ root) (place : Place) :
    Place.path root place ≠ p := by
  rintro rfl
  have length := base.length_le
  rw [Place.length_path] at length
  cases place <;> simp [Place.depth] at length

/-- A path that means nothing to the store. -/
structure Aside (root p : Path) : Prop where
  base : ¬ p <:+ root
  place : ∀ place, Place.path root place ≠ p
  tempLink : ∀ l, tempLinkPath root l ≠ p
  parent : Place.path root .releases ≠ p.tail

theorem tempLink_not_base {root p : Path} (base : p <:+ root) (l : Link) :
    tempLinkPath root l ≠ p := by
  rintro rfl
  simpa [tempLinkPath] using base.length_le

theorem tempLink_not_place (root : Path) (l : Link) (place : Place) :
    Place.path root place ≠ tempLinkPath root l := by
  intro same
  have depth : place.depth = 1 := by
    have length := congrArg List.length same
    simpa [Place.length_path, tempLinkPath] using length
  cases l <;> cases place with
  | link l' => cases l' <;> simp [Place.path, tempLinkPath, linkName] at same
  | _ => simp_all [Place.depth, Place.path, tempLinkPath, linkName]

/-! ## How a tree changes with the directory -/

/-- `t'` differs from `t` at `p` only, and lists the releases as `t` does. -/
structure Off (root p : Path) (t t' : FileTree Content) : Prop where
  node : ∀ q, q ≠ p → t'.node q = t.node q
  names : t'.names (Place.path root .releases) = t.names (Place.path root .releases)

theorem off_put {root p : Path} {t : FileTree Content} (parent : Place.path root .releases ≠ p.tail)
    (node : Inode Content) : Off root p t (t.put p node) :=
  ⟨fun _ ne => t.node_put_of_ne node ne, t.names_put_of_ne node parent⟩

theorem off_erase {root p : Path} {t : FileTree Content} (parent : Place.path root .releases ≠ p.tail) :
    Off root p t (t.erase p) :=
  ⟨fun _ ne => t.node_erase_of_ne ne, t.names_erase_of_ne parent⟩

namespace Represents

variable {root p : Path} {t t' : FileTree Content} {d d' : Disk}

theorem aside (rep : Represents root t d) (aside : Aside root p) (off : Off root p t t') :
    Represents root t' d where
  top := (off.node _ fun same => aside.base (by simp [← same])).trans rep.top
  base := fun q base => by
    have ne : q ≠ p := fun same => aside.base (same ▸ base)
    simpa only [off.node q ne] using rep.base q base
  place := fun place => (off.node _ (aside.place place)).trans (rep.place place)
  names := fun made => off.names.trans (rep.names made)
  noReleases := rep.noReleases
  inDir := rep.inDir
  tempLink := fun l => by simpa only [off.node _ (aside.tempLink l)] using rep.tempLink l

theorem at_tempLink {l : Link} (rep : Represents root t d) (off : Off root (tempLinkPath root l) t t')
    (node : t'.node (tempLinkPath root l) = none ∨
      ∃ target, t'.node (tempLinkPath root l) = some (.symlink target)) :
    Represents root t' d where
  top := (off.node _ (List.cons_ne_nil _ _).symm).trans rep.top
  base := fun q base => by
    simpa only [off.node q (tempLink_not_base base l).symm] using rep.base q base
  place := fun place => (off.node _ (tempLink_not_place root l place)).trans (rep.place place)
  names := fun made => off.names.trans (rep.names made)
  noReleases := rep.noReleases
  inDir := rep.inDir
  tempLink := fun l' => by
    by_cases same : l' = l
    · rw [same]; exact node
    · have ne : tempLinkPath root l' ≠ tempLinkPath root l := by
        intro paths
        cases l <;> cases l' <;> simp_all [tempLinkPath, linkName]
      simpa only [off.node _ ne] using rep.tempLink l'

theorem at_place {place : Place} (rep : Represents root t d)
    (off : Off root (Place.path root place) t t')
    (node : t'.node (Place.path root place) = d'.node root place)
    (others : ∀ other, other ≠ place → d'.node root other = d.node root other)
    (releases : d'.releasesDir = d.releasesDir) (dirs : d'.dirs = d.dirs)
    (inDir : ∀ version content, d'.binary version = some content → version ∈ d'.dirs) :
    Represents root t' d' where
  top := (off.node _ (Place.path_not_base List.nil_suffix place).symm).trans rep.top
  base := fun q base => by
    simpa only [off.node q (Place.path_not_base base place).symm] using rep.base q base
  place := fun other => by
    by_cases same : other = place
    · rw [same]; exact node
    · rw [off.node _ ((Place.path_injective root).ne same), rep.place, others other same]
  names := fun made => by
    rw [off.names, dirs]
    exact rep.names (releases ▸ made)
  noReleases := fun missing => by
    rw [dirs]
    exact rep.noReleases (releases ▸ missing)
  inDir := inDir
  tempLink := fun l => by
    simpa only [off.node _ (tempLink_not_place root l place).symm] using rep.tempLink l

theorem mkdir_base (rep : Represents root t d) (base : p <:+ root) :
    Represents root (t.mkdir p) d := by
  have place_ne (place : Place) : Place.path root place ≠ p := Place.path_not_base base place
  have tail_ne : Place.path root .releases ≠ p.tail :=
    Place.path_not_base ((List.tail_suffix p).trans base) .releases
  refine ⟨?_, fun q below => ?_, fun place => ?_, fun made => ?_, rep.noReleases, rep.inDir,
    fun l => ?_⟩
  · by_cases same : [] = p
    · rw [← same]; exact FileTree.node_mkdir_same t
    · rw [FileTree.node_mkdir_of_ne t same]; exact rep.top
  · by_cases same : q = p
    · rw [same]; exact .inr (FileTree.node_mkdir_same t)
    · rw [FileTree.node_mkdir_of_ne t same]; exact rep.base q below
  · rw [FileTree.node_mkdir_of_ne t (place_ne place)]; exact rep.place place
  · rw [FileTree.names_mkdir_of_ne t tail_ne (place_ne _)]; exact rep.names made
  · rw [FileTree.node_mkdir_of_ne t (tempLink_not_base base l)]; exact rep.tempLink l

/-- A new directory at a place of the store. -/
theorem mkdir_place {place : Place} (rep : Represents root t d)
    (node : d'.node root place = some .dir)
    (others : ∀ other, other ≠ place → d'.node root other = d.node root other)
    (names : (t.mkdir (Place.path root place)).names (Place.path root .releases) = d'.dirs)
    (releases : d'.releasesDir = true)
    (inDir : ∀ version content, d'.binary version = some content → version ∈ d'.dirs) :
    Represents root (t.mkdir (Place.path root place)) d' := by
  refine ⟨?_, fun q below => ?_, fun other => ?_, fun _ => names, fun missing => ?_, inDir,
    fun l => ?_⟩
  · rw [FileTree.node_mkdir_of_ne t (Place.path_not_base List.nil_suffix place).symm]; exact rep.top
  · rw [FileTree.node_mkdir_of_ne t (Place.path_not_base below place).symm]; exact rep.base q below
  · by_cases same : other = place
    · rw [same, node]; exact FileTree.node_mkdir_same t
    · rw [FileTree.node_mkdir_of_ne t ((Place.path_injective root).ne same), rep.place,
        others other same]
  · rw [releases] at missing; cases missing
  · rw [FileTree.node_mkdir_of_ne t (tempLink_not_place root l place).symm]; exact rep.tempLink l

theorem mkdir_releases (rep : Represents root t d) (missing : d.releasesDir = false) :
    Represents root (t.mkdir (Place.path root .releases)) { d with releasesDir := true } := by
  refine rep.mkdir_place rfl (fun other ne => ?_) ?_ rfl rep.inDir
  · cases other <;> first | rfl | exact absurd rfl ne
  · rw [FileTree.names_mkdir_same]
    exact (rep.noReleases missing).symm

theorem mkdir_release {version : String} (rep : Represents root t d)
    (releases : d.releasesDir = true) :
    Represents root (t.mkdir (Place.path root (.releaseDir version))) (d.mkdir version) := by
  refine rep.mkdir_place ?_ (fun other ne => ?_) ?_ rfl fun other content stored => ?_
  · simp [Disk.node]
  · cases other with
    | releases => simp [Disk.node, Disk.mkdir, releases]
    | releaseDir other =>
      have different : other ≠ version := fun same => ne (by rw [same])
      simp [Disk.node, different]
    | link l => simp [Disk.node]
    | _ => rfl
  · refine (FileTree.names_mkdir_parent t version (Place.path root .releases)).trans ?_
    rw [rep.names releases]
    rfl
  · exact (d.mem_dirs_mkdir version other).mpr (.inr (rep.inDir other content stored))

/-- What lies at or below the directory of a release: the directory and its binary. -/
theorem below_releaseDir {version : String} {place : Place}
    (below : Place.path root (.releaseDir version) <:+ Place.path root place) :
    place = .releaseDir version ∨ place = .binary version := by
  have length := below.length_le
  simp only [Place.length_path] at length
  cases place with
  | releaseDir other =>
    have same := below.eq_of_length (by simp [Place.length_path, Place.depth])
    exact .inl (Place.path_injective root same).symm
  | binary other =>
    rcases List.suffix_cons_iff.mp below with same | below
    · simpa [Place.path] using congrArg List.length same
    · have same := below.eq_of_length (by simp [Place.path])
      obtain rfl : version = other := by simpa [Place.path] using same
      exact .inr rfl
  | _ => simp [Place.depth] at length

theorem removeAll (version : String) (rep : Represents root t d) :
    Represents root (t.eraseAll (Place.path root (.releaseDir version))) (d.removeDir version) := by
  have outside {q : Path} (short : q.length ≤ root.length + 1) :
      ¬ Place.path root (.releaseDir version) <:+ q := by
    intro below
    have := below.length_le
    rw [Place.length_path, Place.depth] at this
    omega
  refine ⟨?_, fun q below => ?_, fun place => ?_, fun made => ?_, fun missing => ?_, ?_, fun l => ?_⟩
  · rw [FileTree.node_eraseAll_of_not_suffix t (outside (Nat.zero_le _))]; exact rep.top
  · have short := below.length_le
    rw [FileTree.node_eraseAll_of_not_suffix t (outside (by omega))]
    exact rep.base q below
  · by_cases below : Place.path root (.releaseDir version) <:+ Place.path root place
    · rw [FileTree.node_eraseAll_of_suffix t below]
      rcases below_releaseDir below with rfl | rfl <;> simp [Disk.node, Disk.removeDir]
    · rw [FileTree.node_eraseAll_of_not_suffix t below, rep.place]
      cases place with
      | releaseDir other =>
        have ne : other ≠ version := by
          rintro rfl
          exact below List.suffix_rfl
        simp [Disk.node, Disk.removeDir, ne]
      | binary other =>
        have ne : other ≠ version := by
          rintro rfl
          exact below (List.suffix_cons _ _)
        simp [Disk.node, d.binary_removeDir_of_ne ne]
      | link l => simp [Disk.node]
      | _ => rfl
  · refine (FileTree.names_eraseAll_parent t version (Place.path root .releases)).trans ?_
    rw [rep.names made]
    rfl
  · simp [Disk.removeDir, rep.noReleases missing]
  · intro other content stored
    by_cases same : other = version
    · simp [Disk.removeDir, same] at stored
    · rw [d.binary_removeDir_of_ne same] at stored
      simpa [Disk.removeDir, same] using rep.inDir other content stored
  · rw [FileTree.node_eraseAll_of_not_suffix t (outside (by simp [tempLinkPath]))]
    exact rep.tempLink l

end Represents

end Strom.Updates
