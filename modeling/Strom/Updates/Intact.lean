import Strom.Updates.Instants
import Strom.Updates.StoreRefinement

/-!
# Links resolve at every instant

`links_resolve`: whatever calls are made on the store, and wherever they are cut
off between two system calls, `current` and `previous` are absent or resolve to a
release directory with the complete binary that some call of `StageAndActivate`
was given for that version.

The invariant is proved on the store directory, for the phases of each call, and
carried to the file tree by `Program.Holds.expand`.
-/

namespace Strom.Updates

open Strom.Go Strom.Effects Strom.FileSystem

/-! ## The invariant of the store directory -/

/-- Each link names a release whose binary is one of those in `written`. -/
def Intact (written : List (String × Bytes)) (d : Disk) : Prop :=
  ∀ l version, d.link l = some version →
    ∃ content, d.binary version = some content ∧ (version, content) ∈ written

namespace Intact

variable {written : List (String × Bytes)} {d d' : Disk}

theorem of_frame (intact : Intact written d) (link : ∀ l, d'.link l = d.link l)
    (binary : d'.binary = d.binary) : Intact written d' := by
  intro l version links
  rw [binary]
  exact intact l version ((link l).symm.trans links)

theorem cleared (intact : Intact written d) : Intact written d.cleared :=
  intact.of_frame (fun l => by cases l <;> rfl) rfl

theorem writeBinary {version : String} {content : Bytes} (intact : Intact written d)
    (given : (version, content) ∈ written) : Intact written (d.writeBinary version content) := by
  intro l other links
  rw [Disk.link_writeBinary] at links
  by_cases same : other = version
  · subst same
    exact ⟨content, d.binary_writeBinary_same other content, given⟩
  · rw [d.binary_writeBinary_of_ne content same]
    exact intact l other links

theorem setLink {l : Link} {target : Option String} (intact : Intact written d)
    (resolves : ∀ version, target = some version →
      ∃ content, d.binary version = some content ∧ (version, content) ∈ written) :
    Intact written (d.setLink l target) := by
  intro l' version links
  rw [Disk.binary_setLink]
  by_cases same : l' = l
  · rw [same, Disk.link_setLink_same] at links
    exact resolves version links
  · rw [d.link_setLink_of_ne target same] at links
    exact intact l' version links

theorem promoted (intact : Intact written d) : Intact written d.promoted := by
  cases current : d.current with
  | none => rwa [Disk.promoted_of_none current]
  | some target =>
    rw [Disk.promoted_of_some current]
    refine intact.setLink fun version same => ?_
    cases same
    exact intact .current target current

/-- The removal loop keeps what the links name. -/
theorem removeSuperseded (intact : Intact written d) (entries : List String) :
    Intact written (d.removeSuperseded d.linked entries) := by
  have frame := d.removeSuperseded_frame d.linked entries
  have link (l : Link) : (d.removeSuperseded d.linked entries).link l = d.link l := by
    cases l
    · exact frame.1
    · exact frame.2.1
  intro l version links
  rw [link] at links
  have linked : version ∈ d.linked := by
    cases l <;> simp only [Disk.link] at links <;> simp [Disk.linked, links]
  rw [Disk.binary_removeSuperseded, if_neg fun removed => removed.2 linked]
  exact intact l version links

end Intact

/-! ## The phases of each call -/

section Phases

variable {written : List (String × Bytes)} {m t : Machine} {log : List DiskOp}

theorem StageInstant.intact {version : String} {binary : Bytes} (intact : Intact written m.disk)
    (given : (version, binary) ∈ written) (instant : StageInstant version binary m (t, log)) :
    Intact written t.disk := by
  have made : Intact written (m.disk.mkdir version) :=
    intact.of_frame (fun _ => Disk.link_mkdir ..) rfl
  have promoted : Intact written ((m.disk.mkdir version).writeBinary version binary).promoted :=
    (made.writeBinary given).promoted
  have switched : Intact written
      (((m.disk.mkdir version).writeBinary version binary).promoted.setLink .current
        (some version)) := by
    refine promoted.setLink fun other same => ?_
    cases same
    rw [(Disk.promoted_frame _).2.2.2.2.1]
    exact ⟨binary, Disk.binary_writeBinary_same .., given⟩
  cases instant with
  | untouched kept => exact intact
  | made kept => exact made
  | written kept => exact made.writeBinary given
  | promoted disk kept => rw [disk]; exact promoted
  | switched disk moved unrecorded => rw [disk]; exact switched
  | pruning accepted split disk moved recorded =>
    have activated : Intact written (m.disk.activated version binary (m.clock m.reads)) :=
      switched.of_frame (fun l => by cases l <;> rfl) rfl
    rw [disk]
    exact activated.removeSuperseded _

theorem OutcomePhase.intact {succeededVersion failureMessage : String} {before after : Disk}
    (intact : Intact written before)
    (phase : OutcomePhase succeededVersion failureMessage before after) : Intact written after := by
  rcases phase with rfl | ⟨now, status, rfl⟩
  · exact intact
  · exact intact.of_frame (fun l => by cases l <;> rfl) rfl

theorem ReconcileInstant.intact {myVersion : String} (intact : Intact written m.disk)
    (instant : ReconcileInstant myVersion m (t, log)) : Intact written t.disk := by
  cases instant with
  | untouched disk kept => rwa [disk]
  | stale stored other disk kept =>
    rw [disk]
    exact intact.cleared
  | counted stored same few disk kept =>
    rw [disk]
    exact intact.of_frame (fun l => by cases l <;> rfl) rfl
  | rolledBack stored same disk moved =>
    have rolledBack : Intact written m.disk.rolledBack :=
      intact.setLink fun version previous => intact .previous version previous
    rcases disk with disk | ⟨message, phase⟩
    · rwa [disk]
    · exact phase.intact rolledBack.cleared

theorem ConfirmInstant.intact {myVersion : String} (intact : Intact written m.disk)
    (instant : ConfirmInstant myVersion m (t, log)) : Intact written t.disk := by
  cases instant with
  | untouched disk kept => rwa [disk]
  | confirmed stored same phase removed =>
    exact phase.intact intact.cleared

end Phases

/-! ## Calls and crashes -/

/-- A call on the store, by whatever process and in whatever order. -/
inductive StoreCall where
  | stage (version : String) (binary : Bytes)
  | reconcile (myVersion : String)
  | confirm (myVersion : String)
deriving DecidableEq, Repr

namespace StoreCall

/-- The release that the call gives to the store. -/
def release? : StoreCall → Option (String × Bytes)
  | .stage version binary => some (trimSpace version, binary)
  | _ => none

/-- The operations of the call on the store directory. -/
def operations : StoreCall → StoreProgram Unit
  | .stage version binary => (stageAndActivate version binary).toProgram.bind fun _ => .ret ()
  | .reconcile myVersion => (reconcileStartup myVersion).toProgram.bind fun _ => .ret ()
  | .confirm myVersion => (confirmHealthy myVersion).toProgram.bind fun _ => .ret ()

/-- The system calls of the call. -/
def systemCalls (root : Path) (call : StoreCall) : FileProgram Unit :=
  call.operations.expand (storeOp root)

end StoreCall

/-- The calls in turn, each cut off after the given number of system calls. -/
def crashRun (root : Path) (suffix : List String → String) :
    FileWorld → List (StoreCall × Nat) → FileWorld
  | w, [] => w
  | w, (call, ops) :: calls =>
    crashRun root suffix ((call.systemCalls root).cut (osHandler suffix) ops w) calls

/-- The link is absent, or it resolves to a release directory that holds a complete
    binary given for its version. -/
def Resolves (root : Path) (written : List (String × Bytes)) (t : FileTree Content) (l : Link) : Prop :=
  t.node (Place.path root (.link l)) = none ∨ ∃ version content,
    t.node (Place.path root (.link l)) = some (.symlink (Place.path root (.binary version))) ∧
    t.node (Place.path root (.releaseDir version)) = some .dir ∧
    t.node (Place.path root (.binary version)) = some (.file (some (.executable content))) ∧
    (version, content) ∈ written

theorem Instants.holds {α : Type} {I : Machine × List DiskOp → Prop} {x : StoreAction α}
    {m : Machine} (instants : Instants I x m []) :
    (x.toProgram.bind fun _ => .ret ()).Holds diskHandler (fun t => ∃ log, I (t, log))
      (fun _ _ => True) m := by
  have always : x.toProgram.Holds diskHandler (fun t => ∃ log, I (t, log)) (fun _ _ => True) m :=
    (Program.holds_iff _ _ _).mpr ⟨fun ops => ⟨_, instants.interrupt ops⟩, trivial⟩
  exact Program.holds_bind.mpr (always.mono fun _ _ inv _ => ⟨inv, trivial⟩)

/-- Every call keeps the store directory intact, at every instant. -/
theorem StoreCall.operations_intact {written : List (String × Bytes)} {m : Machine}
    (call : StoreCall) (given : ∀ release, call.release? = some release → release ∈ written)
    (intact : Intact written m.disk) :
    call.operations.Holds diskHandler (fun t => Intact written t.disk) (fun _ _ => True) m := by
  cases call with
  | stage version binary =>
    refine (stage_instants version binary m).holds.weaken ?_
    rintro t ⟨log, instant⟩
    exact instant.intact intact (given _ rfl)
  | reconcile myVersion =>
    refine (reconcile_instants myVersion m).holds.weaken ?_
    rintro t ⟨log, instant⟩
    exact instant.intact intact
  | confirm myVersion =>
    refine (confirm_instants myVersion m).holds.weaken ?_
    rintro t ⟨log, instant⟩
    exact instant.intact intact

theorem Similar.intact {written : List (String × Bytes)} {m m' : Machine} (similar : Similar m m')
    (intact : Intact written m.disk) : Intact written m'.disk :=
  intact.of_frame similar.link similar.binary

/-- An intact store directory behind the file tree. -/
def TreeIntact (root : Path) (written : List (String × Bytes)) (w : FileWorld) : Prop :=
  ∃ m, Related root w m ∧ Intact written m.disk

theorem TreeIntact.cut {root : Path} {suffix : List String → String}
    {written : List (String × Bytes)} {w : FileWorld} {call : StoreCall}
    (given : ∀ release, call.release? = some release → release ∈ written)
    (intact : TreeIntact root written w) (ops : Nat) :
    TreeIntact root written ((call.systemCalls root).cut (osHandler suffix) ops w) := by
  obtain ⟨m, related, intact⟩ := intact
  have expanded := (call.operations_intact given intact).expand (storeOp_implements root suffix)
    (fun _ _ similar => similar.intact) related
  exact ((Program.holds_iff _ _ _).mp expanded).1 ops

theorem TreeIntact.crashRun {root : Path} {suffix : List String → String}
    {written : List (String × Bytes)} {w : FileWorld} (calls : List (StoreCall × Nat))
    (given : ∀ call ∈ calls, ∀ release, call.1.release? = some release → release ∈ written)
    (intact : TreeIntact root written w) :
    TreeIntact root written (crashRun root suffix w calls) := by
  induction calls generalizing w with
  | nil => exact intact
  | cons call calls ih =>
    obtain ⟨call, ops⟩ := call
    exact ih (fun later mem => given later (List.mem_cons_of_mem _ mem))
      (intact.cut (given (call, ops) List.mem_cons_self) ops)

theorem TreeIntact.resolves {root : Path} {written : List (String × Bytes)} {w : FileWorld}
    (intact : TreeIntact root written w) (l : Link) : Resolves root written w.tree l := by
  obtain ⟨m, related, intact⟩ := intact
  have place := related.disk.place
  cases link : m.disk.link l with
  | none => exact .inl ((place (.link l)).trans (by simp [Disk.node, link]))
  | some version =>
    obtain ⟨content, stored, given⟩ := intact l version link
    have present := related.disk.inDir version content stored
    exact .inr ⟨version, content, (place (.link l)).trans (by simp [Disk.node, link]),
      (place (.releaseDir version)).trans (if_pos present),
      (place (.binary version)).trans (by simp [Disk.node, stored]), given⟩

theorem represents_empty (root : Path) : Represents root FileTree.empty {} where
  top := rfl
  base := fun p _ => by
    cases p with
    | nil => exact .inr rfl
    | cons name parent => exact .inl rfl
  place := fun place => by
    cases place with
    | link l => cases l <;> rfl
    | _ => rfl
  names := fun made => by cases made
  noReleases := fun _ => rfl
  inDir := fun version content stored => by cases stored
  tempLink := fun l => .inl rfl

theorem treeIntact_empty (root : Path) (written : List (String × Bytes)) (clock : Nat → Time) :
    TreeIntact root written { tree := FileTree.empty, clock } := by
  refine ⟨{ disk := {}, clock }, ⟨represents_empty root, rfl, rfl⟩, fun l version links => ?_⟩
  cases l <;> cases links

/-- At every instant of every run of store calls with crashes, both links are
    absent or resolve to a complete release. -/
theorem links_resolve (root : Path) (suffix : List String → String) (clock : Nat → Time)
    (calls : List (StoreCall × Nat)) (l : Link) :
    Resolves root (calls.filterMap fun call => call.1.release?)
      (crashRun root suffix { tree := FileTree.empty, clock } calls).tree l := by
  refine TreeIntact.resolves (TreeIntact.crashRun calls ?_ (treeIntact_empty root _ clock)) l
  intro call mem release given
  exact List.mem_filterMap.mpr ⟨call, mem, given⟩

end Strom.Updates
