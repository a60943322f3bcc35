import Strom.Updates.Intact

/-!
# Installing only goes up

`stages_upgrade`: on any store that calls of `StageAndActivate`, `ReconcileStartup` and
`ConfirmHealthy` can leave, cut off by crashes or not, a run of `StageAndActivate` calls
moves `current` upwards only, in the numeric order of (major, minor, patch).

What carries the run is `Linked`: the links name stable versions that have a release
directory, and there is no rollback target without an installed version.
-/

namespace Strom.Updates

open Strom.Go Strom.Effects

/-! ## The links of a store -/

structure Linked (d : Disk) : Prop where
  release : ∀ l version, d.link l = some version → Stable version ∧ version ∈ d.dirs
  rollback : d.current = none → d.previous = none

namespace Linked

variable {d d' : Disk}

theorem empty : Linked {} where
  release := fun l _ links => by cases l <;> cases links
  rollback := fun _ => rfl

/-- Release directories may come, and those that no link names may go. -/
theorem of_frame (linked : Linked d) (link : ∀ l, d'.link l = d.link l)
    (dirs : ∀ l version, d.link l = some version → version ∈ d.dirs → version ∈ d'.dirs) :
    Linked d' where
  release := by
    intro l version links
    rw [link] at links
    obtain ⟨stable, kept⟩ := linked.release l version links
    exact ⟨stable, dirs l version links kept⟩
  rollback := by
    intro uninstalled
    have before : d.link .current = none := (link .current).symm.trans uninstalled
    exact (link .previous).trans (linked.rollback before)

theorem of_links (linked : Linked d) (link : ∀ l, d'.link l = d.link l) (dirs : d'.dirs = d.dirs) :
    Linked d' := by
  apply linked.of_frame link
  intro l version links kept
  rwa [dirs]

theorem cleared (linked : Linked d) : Linked d.cleared :=
  linked.of_links (fun l => by cases l <;> rfl) rfl

theorem written (linked : Linked d) (version : String) (content : Bytes) :
    Linked (d.writeBinary version content) := by
  apply linked.of_frame (fun l => Disk.link_writeBinary ..)
  intro l other links kept
  exact (d.mem_dirs_mkdir version other).mpr (.inr kept)

theorem setCurrent {version : String} (linked : Linked d) (stable : Stable version)
    (made : version ∈ d.dirs) : Linked (d.setLink .current (some version)) where
  release := by
    intro l other links
    rw [Disk.dirs_setLink]
    cases l with
    | current => cases links; exact ⟨stable, made⟩
    | previous => exact linked.release .previous other links
  rollback := fun uninstalled => by cases uninstalled

theorem promoted (linked : Linked d) : Linked d.promoted := by
  cases current : d.current with
  | none => rwa [Disk.promoted_of_none current]
  | some target =>
    rw [Disk.promoted_of_some current]
    constructor
    · intro l version links
      rw [Disk.dirs_setLink]
      cases l with
      | current => exact linked.release .current version links
      | previous => cases links; exact linked.release .current target current
    · intro uninstalled
      cases current.symm.trans uninstalled

theorem rolledBack (linked : Linked d) : Linked d.rolledBack where
  release := by
    intro l version links
    rw [Disk.rolledBack, Disk.dirs_setLink]
    -- Both links name the rollback target now.
    cases l <;> exact linked.release .previous version links
  rollback := fun uninstalled => uninstalled

/-- The removal loop keeps what the links name. -/
theorem removeSuperseded (linked : Linked d) (entries : List String) :
    Linked (d.removeSuperseded d.linked entries) := by
  have frame := d.removeSuperseded_frame d.linked entries
  apply linked.of_frame
  · intro l
    cases l
    · exact frame.1
    · exact frame.2.1
  · intro l version links kept
    rw [Disk.mem_dirs_removeSuperseded]
    refine ⟨kept, fun _ => ?_⟩
    cases l <;> simp only [Disk.link] at links <;> simp [Disk.linked, links]

end Linked

/-! ## The phases of each call -/

section Phases

variable {m t : Machine} {log : List DiskOp}

theorem StageInstant.linked {version : String} {binary : Bytes} (linked : Linked m.disk)
    (stable : Stable version) (instant : StageInstant version binary m (t, log)) :
    Linked t.disk := by
  have made : Linked (m.disk.mkdir version) := by
    apply linked.of_frame (fun l => Disk.link_mkdir ..)
    intro l other links kept
    exact (m.disk.mem_dirs_mkdir version other).mpr (.inr kept)
  have written : Linked ((m.disk.mkdir version).writeBinary version binary) :=
    made.written version binary
  have switched : Linked
      (((m.disk.mkdir version).writeBinary version binary).promoted.setLink .current
        (some version)) := by
    apply written.promoted.setCurrent stable
    rw [(Disk.promoted_frame _).2.2.2.2.2.1]
    exact (Disk.mem_dirs_mkdir _ version version).mpr (.inl rfl)
  cases instant with
  | untouched kept => exact linked
  | made kept => exact made
  | written kept => exact written
  | promoted disk kept => rw [disk]; exact written.promoted
  | switched disk moved unrecorded => rw [disk]; exact switched
  | pruning accepted split disk moved recorded =>
    have activated : Linked (m.disk.activated version binary (m.clock m.reads)) :=
      switched.of_links (fun l => by cases l <;> rfl) rfl
    rw [disk]
    exact activated.removeSuperseded _

theorem OutcomePhase.linked {succeededVersion failureMessage : String} {before after : Disk}
    (linked : Linked before)
    (phase : OutcomePhase succeededVersion failureMessage before after) : Linked after := by
  obtain rfl | ⟨now, status, rfl⟩ := phase
  · exact linked
  · exact linked.of_links (fun l => by cases l <;> rfl) rfl

theorem ReconcileInstant.linked {myVersion : String} (linked : Linked m.disk)
    (instant : ReconcileInstant myVersion m (t, log)) : Linked t.disk := by
  cases instant with
  | untouched disk kept => rwa [disk]
  | stale stored other disk kept =>
    rw [disk]
    exact linked.cleared
  | counted stored same few disk kept =>
    rw [disk]
    exact linked.of_links (fun l => by cases l <;> rfl) rfl
  | rolledBack stored same disk moved =>
    obtain disk | ⟨message, phase⟩ := disk
    · rw [disk]
      exact linked.rolledBack
    · exact phase.linked linked.rolledBack.cleared

theorem ConfirmInstant.linked {myVersion : String} (linked : Linked m.disk)
    (instant : ConfirmInstant myVersion m (t, log)) : Linked t.disk := by
  cases instant with
  | untouched disk kept => rwa [disk]
  | confirmed stored same phase removed => exact phase.linked linked.cleared

end Phases

/-- `StageAndActivate` of a version that is not stable performs no operation. -/
theorem refused_stage {version : String} (binary : Bytes) (unstable : ¬ Stable (trimSpace version)) :
    ∃ e, (stageAndActivate version binary).toProgram = .ret (.error e) := by
  unfold stageAndActivate
  cases release : checkRelease (trimSpace version) binary with
  | error e => exact ⟨e, by simp [release]⟩
  | ok checked => exact absurd (checkRelease_ok release).1 unstable

/-- Every call keeps the links in order, at every instant. -/
theorem StoreCall.operations_linked {m : Machine} (call : StoreCall) (linked : Linked m.disk)
    (ops : Nat) : Linked (call.operations.cut diskHandler ops m).disk := by
  have held : call.operations.Holds diskHandler (fun t => Linked t.disk) (fun _ _ => True) m := by
    cases call with
    | stage version binary =>
      by_cases stable : Stable (trimSpace version)
      · refine (stage_instants version binary m).holds.weaken ?_
        rintro t ⟨log, instant⟩
        exact instant.linked linked stable
      · obtain ⟨e, refused⟩ := refused_stage binary stable
        rw [operations, refused]
        exact ⟨linked, trivial⟩
    | reconcile myVersion =>
      refine (reconcile_instants myVersion m).holds.weaken ?_
      rintro t ⟨log, instant⟩
      exact instant.linked linked
    | confirm myVersion =>
      refine (confirm_instants myVersion m).holds.weaken ?_
      rintro t ⟨log, instant⟩
      exact instant.linked linked
  exact ((Program.holds_iff _ _ _).mp held).1 ops

/-- The machine that calls leave in a store directory that was empty, each cut off after
    the given number of operations. -/
def leftBy (clock : Nat → Time) (history : List (StoreCall × Nat)) : Machine :=
  history.foldl (fun m call => call.1.operations.cut diskHandler call.2 m) { disk := {}, clock }

theorem linked_leftBy (clock : Nat → Time) (history : List (StoreCall × Nat)) :
    Linked (leftBy clock history).disk := by
  unfold leftBy
  have run (m : Machine) (linked : Linked m.disk) :
      Linked (history.foldl (fun m call => call.1.operations.cut diskHandler call.2 m) m).disk := by
    induction history generalizing m with
    | nil => exact linked
    | cons call history ih => exact ih _ (call.1.operations_linked linked call.2)
  exact run _ Linked.empty

/-! ## What one call does -/

/-- `candidate` is a stable version above the installed one, if there is one, in the order
    of (major, minor, patch). -/
def Above (candidate : String) (installed : Option String) : Prop :=
  ∃ key, versionKey candidate = some key ∧
    ∀ version, installed = some version → ∃ old, versionKey version = some old ∧ old < key

/-- What a successful `StageAndActivate` of `version` makes of the store directory. -/
structure Upgraded (version : String) (now : Time) (before after : Disk) : Prop where
  above : Above version before.current
  current : after.current = some version
  previous : after.previous = before.current
  pending : after.pending = .stored { version, attempts := 0, firstAttemptAt := now }
  dirs : ∀ name, name ∈ after.dirs ↔ name = version ∨ before.current = some name

theorem above_of_none {candidate : String} (stable : Stable candidate) : Above candidate none := by
  obtain ⟨key, parsed⟩ := (stable_iff_versionKey candidate).mp stable
  refine ⟨key, parsed, ?_⟩
  intro version installed
  cases installed

theorem above_some_iff (candidate installed : String) :
    Above candidate (some installed) ↔ Newer candidate installed := by
  rw [newer_iff]
  constructor
  · rintro ⟨key, parsed, below⟩
    obtain ⟨old, parsedOld, lower⟩ := below installed rfl
    exact ⟨key, old, parsed, parsedOld, lower⟩
  · rintro ⟨key, old, parsed, parsedOld, lower⟩
    refine ⟨key, parsed, ?_⟩
    intro version same
    cases same
    exact ⟨old, parsedOld, lower⟩

/-- Components are compared as numbers, not as texts. -/
example : Above "v1.10.0" (some "v1.9.0") := (above_some_iff _ _).mpr (by decide)

theorem Above.stable {candidate : String} {installed : Option String}
    (above : Above candidate installed) : Stable candidate := by
  obtain ⟨key, parsed, -⟩ := above
  exact (stable_iff_versionKey candidate).mpr ⟨key, parsed⟩

theorem Above.trans {candidate installed : String} {older : Option String}
    (above : Above candidate (some installed)) (below : Above installed older) :
    Above candidate older := by
  obtain ⟨key, parsed, higher⟩ := above
  refine ⟨key, parsed, ?_⟩
  intro version same
  obtain ⟨middle, parsedMiddle, lower⟩ := higher installed rfl
  obtain ⟨middle', parsedAgain, below⟩ := below
  obtain rfl : middle = middle' := Option.some.inj (parsedMiddle.symm.trans parsedAgain)
  obtain ⟨old, parsedOld, lowest⟩ := below version same
  exact ⟨old, parsedOld, lowest.trans lower⟩

/-- The check against the installed version is the order of versions. -/
theorem checkUpgrade_ok_iff {version : String} {installed : Option String} (stable : Stable version)
    (stableInstalled : ∀ v, installed = some v → Stable v) :
    checkUpgrade version installed = .ok () ↔ Above version installed := by
  cases installed with
  | none => simp [checkUpgrade, above_of_none stable]
  | some current =>
    rw [above_some_iff]
    constructor
    · intro ok
      exact checkUpgrade_ok ok stable (stableInstalled current rfl)
    · intro newer
      have accepted : isNewerStableVersion version current = .ok true := newer
      simp [checkUpgrade, newer.ne.symm, accepted]

theorem checkRelease_ok_iff (version : String) (binary : Bytes) :
    checkRelease version binary = .ok () ↔ Stable version ∧ binary ≠ [] := by
  constructor
  · exact checkRelease_ok
  · intro ⟨stable, nonempty⟩
    obtain ⟨parsed, ok⟩ := stable
    have named : version ≠ "" := Stable.ne_empty ⟨parsed, ok⟩
    simp [checkRelease, named, nonempty, ok]

/-- `StageAndActivate` succeeds exactly for a binary of a version above the installed one. -/
theorem stage_succeeds_iff {m : Machine} (linked : Linked m.disk) (version : String)
    (binary : Bytes) :
    (∃ t, exec (stageAndActivate version binary) m = (.ok (), t)) ↔
      Above (trimSpace version) m.disk.current ∧ binary ≠ [] := by
  have installed (v : String) (current : m.disk.current = some v) : Stable v :=
    (linked.release .current v current).1
  constructor
  · rintro ⟨t, ok⟩
    have staged := staged_of_exec ok
    exact ⟨(checkUpgrade_ok_iff staged.stable installed).mp staged.upgrade, staged.nonempty⟩
  · intro ⟨above, nonempty⟩
    have release := (checkRelease_ok_iff _ binary).mpr ⟨above.stable, nonempty⟩
    have upgrade := (checkUpgrade_ok_iff above.stable installed).mpr above
    rw [exec_stageAndActivate, release, upgrade]
    exact ⟨_, rfl⟩

/-- Pruning leaves the directories of what the links name. -/
theorem mem_dirs_staged {d : Disk} (linked : Linked d) (version : String) (content : Bytes)
    (now : Time) (name : String) :
    name ∈ (d.staged version content now).dirs ↔ name = version ∨ d.current = some name := by
  have dirs (other : String) :
      other ∈ (d.activated version content now).dirs ↔ other = version ∨ other ∈ d.dirs := by
    have promoted : (d.activated version content now).dirs = ((d.mkdir version).mkdir version).dirs :=
      (Disk.promoted_frame ((d.mkdir version).writeBinary version content)).2.2.2.2.2.1
    simp [promoted]
  have kept (other : String) : other ∈ (d.activated version content now).linked ↔
      other = version ∨ d.current.or d.previous = some other := by
    obtain ⟨current, previous, -⟩ := d.activated_frame version content now
    rw [Disk.linked, current, previous]
    simp
  have releases : (d.activated version content now).releasesDir = true :=
    (Disk.promoted_frame ((d.mkdir version).writeBinary version content)).2.2.2.2.2.2
  rw [Disk.staged, Disk.pruned, if_pos releases, Disk.mem_dirs_removeSuperseded, kept, dirs]
  cases current : d.current with
  | none =>
    -- Nothing was installed, so there is no rollback target either.
    have unset := linked.rollback current
    simp only [unset, Option.or_none, reduceCtorEq, or_false]
    exact ⟨fun held => held.2 held.1, fun same => ⟨.inl same, fun _ => same⟩⟩
  | some target =>
    have made := (linked.release .current target current).2
    simp only [Option.some_or, Option.some.injEq]
    constructor
    · intro held
      exact held.2 held.1
    · rintro (rfl | rfl)
      · exact ⟨.inl rfl, fun _ => .inl rfl⟩
      · exact ⟨.inr made, fun _ => .inr rfl⟩

theorem Staged.upgraded {version : String} {binary : Bytes} {m t : Machine}
    (linked : Linked m.disk) (staged : Staged version binary m t) :
    Upgraded version (m.clock m.reads) m.disk t.disk where
  above := by
    refine (checkUpgrade_ok_iff staged.stable ?_).mp staged.upgrade
    intro v current
    exact (linked.release .current v current).1
  current := by rw [staged.disk, Disk.staged_current]
  previous := by
    rw [staged.disk, Disk.staged_previous]
    cases current : m.disk.current with
    | none => exact linked.rollback current
    | some target => rfl
  pending := by rw [staged.disk, Disk.staged_pending]
  dirs := by
    rw [staged.disk]
    exact mem_dirs_staged linked version binary _

/-! ## Runs -/

/-- The machine after `StageAndActivate` of each release in turn, whatever each call returns. -/
def stageAll (m : Machine) (releases : List (String × Bytes)) : Machine :=
  releases.foldl (fun m release => (exec (stageAndActivate release.1 release.2) m).2) m

/-- A call of `StageAndActivate` keeps the links in order. -/
theorem linked_stage {m : Machine} (linked : Linked m.disk) (version : String) (binary : Bytes) :
    Linked (exec (stageAndActivate version binary) m).2.disk := by
  cases outcome : exec (stageAndActivate version binary) m with
  | mk result t =>
    cases result with
    | error e => rwa [stageAndActivate_error outcome]
    | ok done =>
      have staged := staged_of_exec outcome
      have upgraded := staged.upgraded linked
      constructor
      · intro l other links
        cases l with
        | current =>
          obtain rfl := Option.some.inj (upgraded.current.symm.trans links)
          exact ⟨staged.stable, (upgraded.dirs _).mpr (.inl rfl)⟩
        | previous =>
          have before : m.disk.current = some other := upgraded.previous.symm.trans links
          exact ⟨(linked.release .current other before).1, (upgraded.dirs other).mpr (.inr before)⟩
      · intro uninstalled
        cases upgraded.current.symm.trans uninstalled

theorem linked_stageAll {m : Machine} (linked : Linked m.disk) (releases : List (String × Bytes)) :
    Linked (stageAll m releases).disk := by
  induction releases generalizing m with
  | nil => exact linked
  | cons release releases ih => exact ih (linked_stage linked release.1 release.2)

/-- After a run `current` is what it was, or a version above it. -/
theorem stageAll_rises {m : Machine} (linked : Linked m.disk) (releases : List (String × Bytes)) :
    (stageAll m releases).disk.current = m.disk.current ∨
      ∃ version, (stageAll m releases).disk.current = some version ∧
        Above version m.disk.current := by
  induction releases generalizing m with
  | nil => exact .inl rfl
  | cons release releases ih =>
    have rest := ih (linked_stage linked release.1 release.2)
    cases outcome : exec (stageAndActivate release.1 release.2) m with
    | mk result t =>
      have run : stageAll m (release :: releases) = stageAll t releases := by
        simp [stageAll, outcome]
      rw [outcome] at rest
      rw [run]
      cases result with
      | error e => rwa [stageAndActivate_error outcome] at rest ⊢
      | ok done =>
        have upgraded := (staged_of_exec outcome).upgraded linked
        obtain same | ⟨version, current, above⟩ := rest
        · exact .inr ⟨_, same.trans upgraded.current, upgraded.above⟩
        · refine .inr ⟨version, current, ?_⟩
          rw [upgraded.current] at above
          exact above.trans upgraded.above

/-- In every run of `StageAndActivate` calls on a store that calls have left, a call succeeds
    exactly for a binary of a version above the installed one; it then makes that version
    `current`, the old `current` the rollback target, records the activation with no attempt
    and leaves the release directories of the two versions only; a call that fails changes
    nothing; and what is `current` later in the run is the same version or one above it. -/
theorem stages_upgrade (clock : Nat → Time) (history : List (StoreCall × Nat))
    (earlier later : List (String × Bytes)) (version : String) (binary : Bytes) :
    let m := stageAll (leftBy clock history) earlier
    ((∃ t, exec (stageAndActivate version binary) m = (.ok (), t)) ↔
      Above (trimSpace version) m.disk.current ∧ binary ≠ []) ∧
    (∀ t, exec (stageAndActivate version binary) m = (.ok (), t) →
      Upgraded (trimSpace version) (m.clock m.reads) m.disk t.disk) ∧
    (∀ e t, exec (stageAndActivate version binary) m = (.error e, t) → t = m) ∧
    ((stageAll m later).disk.current = m.disk.current ∨
      ∃ newer, (stageAll m later).disk.current = some newer ∧ Above newer m.disk.current) := by
  intro m
  have linked : Linked m.disk := linked_stageAll (linked_leftBy clock history) earlier
  refine ⟨stage_succeeds_iff linked version binary, ?_, ?_, stageAll_rises linked later⟩
  · intro t ok
    exact (staged_of_exec ok).upgraded linked
  · intro e t failed
    exact stageAndActivate_error failed

end Strom.Updates
