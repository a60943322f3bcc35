import Strom.Effects.Run
import Strom.Updates.InstallOutcome
import Strom.Updates.Targets

/-!
# What a node offers for installation

The recorded available version is a cache: checks and installations write it, a
confirmation may clear it, and a release that the controller pushes changes `current`
beside it.  `settled_offers_newer`: as long as every pushed release is one the cache
and the published release have not fallen behind, a node without a pending activation
offers nothing but a release newer than the one it runs.
-/

namespace Strom.Updates

open Strom.Go Strom.Effects

structure Site where
  machine : Machine
  /-- The version of the running agent process. -/
  running : Option String := none
  /-- The latest published release. -/
  published : Option String := none

inductive SiteEvent where
  | publish (version : String)
  /-- The settings page asks the running agent to check. -/
  | check (replies : Nat → HttpReply)
  /-- The update timer starts `strom-agent update check`. -/
  | scheduledCheck (replies : Nat → HttpReply)
  | install (requestedVersion : String) (replies : Nat → HttpReply)
  /-- The controller pushes a release. -/
  | push (version : String) (binary : Bytes)
  | start
  | confirm

namespace Site

/-- If the first reply carries a release, it is the latest published one. -/
def servesLatest (p : Platform) (site : Site) (replies : Nat → HttpReply) : Bool :=
  match (replies 0).body? with
  | none => true
  | some body =>
    match p.decodeRelease body with
    | .error _ => true
    | .ok release => site.published = some release.tagName

/-- The version of the agent that the launcher starts. -/
def startVersion (packaged : String) (site : Site) : String :=
  site.machine.disk.current.getD packaged

/-- The node and the server that will answer its next requests. -/
def world (site : Site) (replies : Nat → HttpReply) : CheckerWorld :=
  { machine := site.machine, replies }

/-- The site after the agent of `version` has run an action of its checker. -/
def online {α : Type} (p : Platform) (site : Site) (replies : Nat → HttpReply)
    (x : CheckerAction α) : Option Site :=
  if site.servesLatest p replies then
    some { site with machine := (execOnline x (site.world replies)).2.machine }
  else none

theorem online_eq_some {α : Type} {p : Platform} {site next : Site} {replies : Nat → HttpReply}
    {x : CheckerAction α} (taken : site.online p replies x = some next) :
    site.servesLatest p replies = true ∧
      next = { site with machine := (execOnline x (site.world replies)).2.machine } := by
  unfold online at taken
  split at taken
  · next latest => exact ⟨latest, (Option.some.inj taken).symm⟩
  · cases taken

/-- A publication, a request to the node or a restart; a call that fails is a step, too. -/
def step (p : Platform) (updatesRepo packaged : String) (site : Site) : SiteEvent → Option Site
  | .publish version =>
    if Stable version ∧ ∀ latest ∈ site.published, Newer version latest then
      some { site with published := some version }
    else none
  | .check replies => do
    let version ← site.running
    site.online p replies ((mainChecker updatesRepo version).check p)
  | .scheduledCheck replies =>
    site.online p replies ((mainChecker updatesRepo (site.startVersion packaged)).check p)
  | .install requestedVersion replies => do
    let version ← site.running
    site.online p replies ((mainChecker updatesRepo version).install p requestedVersion)
  | .push version binary => do
    let _ ← site.running
    return { site with machine := (exec (stageAndActivate version binary) site.machine).2 }
  | .start =>
    let version := site.startVersion packaged
    match exec (reconcileStartup version) site.machine with
    | (.ok .rolledBack, machine) => some { site with machine, running := none }
    | (_, machine) => some { site with machine, running := some version }
  | .confirm => do
    let version ← site.running
    return { site with machine := (exec (confirmHealthy version) site.machine).2 }

/-- A node that has just been set up. -/
def fresh (clock : Nat → Time) : Site := { machine := { disk := {}, clock } }

end Site

/-! ## The invariant -/

/-- Nothing is offered, or a release newer than `installed`. -/
def Offers (available installed : String) : Prop := available = "" ∨ Newer available installed

/-- A release at least as new as `version` is published. -/
def Published (site : Site) (version : String) : Prop :=
  ∃ latest, site.published = some latest ∧ (latest = version ∨ Newer latest version)

structure Consistent (site : Site) : Prop where
  readable : ∃ status, site.machine.disk.readableStatus = some status
  wellFormed : site.machine.disk.pending ≠ .malformed
  stable : ∀ latest ∈ site.published, Stable latest
  settled : site.machine.disk.pending = .absent → ∀ installed,
    site.machine.disk.current = some installed →
      Stable installed ∧ Offers site.machine.disk.available installed ∧
        ∀ version ∈ site.running, version = installed
  pending : ∀ pending, site.machine.disk.pending = .stored pending →
    site.machine.disk.current = some pending.version ∧ Stable pending.version ∧
      (site.machine.disk.available = pending.version ∨
        Offers site.machine.disk.available pending.version) ∧
      Published site pending.version ∧
      ∀ previous ∈ site.machine.disk.previous, Newer pending.version previous
  packaged : site.machine.disk.current = none → site.machine.disk.previous = none

/-- A pushed release is not newer than the latest published one, and the available
    version is empty, the release itself or a newer one. -/
def PushesPublished (site : Site) : SiteEvent → Prop
  | .push version _ =>
    (site.machine.disk.available = trimSpace version ∨
      Offers site.machine.disk.available (trimSpace version)) ∧
    ∃ latest ∈ site.published, latest = trimSpace version ∨ Newer latest (trimSpace version)
  | _ => True

instance (available installed : String) : Decidable (Offers available installed) :=
  inferInstanceAs (Decidable (_ ∨ _))

instance (site : Site) (event : SiteEvent) : Decidable (PushesPublished site event) := by
  cases event <;> unfold PushesPublished <;> infer_instance

theorem consistent_fresh (clock : Nat → Time) : Consistent (Site.fresh clock) where
  readable := ⟨_, rfl⟩
  wellFormed := by
    intro malformed
    cases malformed
  stable := by
    intro latest published
    cases published
  settled := by
    intro _ installed current
    cases current
  pending := by
    intro pending stored
    cases stored
  packaged := fun _ => rfl

/-- The two disks differ in their releases and their status at most. -/
structure Disk.SameSlots (d d' : Disk) : Prop where
  current : d'.current = d.current
  previous : d'.previous = d.previous
  pending : d'.pending = d.pending

section Steps

variable {p : Platform} {updatesRepo packaged : String} {site next : Site}

theorem published_of_serves {replies : Nat → HttpReply} {release : Release}
    (latest : site.servesLatest p replies = true) (serves : Serves p (replies 0) release) :
    site.published = some release.tagName := by
  obtain ⟨body, delivered, decoded⟩ := serves
  simpa [Site.servesLatest, delivered, decoded] using latest

/-- Another status, whose offer fits `current` and the pending activation. -/
theorem Consistent.withStatus (consistent : Consistent site) {machine : Machine}
    {status : PersistedStatus} (disk : machine.disk = site.machine.disk.withStatus status)
    (settled : site.machine.disk.pending = .absent → ∀ installed,
      site.machine.disk.current = some installed → Offers status.availableVersion installed)
    (pending : ∀ pending, site.machine.disk.pending = .stored pending →
      status.availableVersion = pending.version ∨
        Offers status.availableVersion pending.version) :
    Consistent { site with machine } where
  readable := ⟨status, by rw [disk]; rfl⟩
  wellFormed := by rw [disk]; exact consistent.wellFormed
  stable := consistent.stable
  settled := by
    rw [disk]
    intro absent installed current
    obtain ⟨stable, -, running⟩ := consistent.settled absent installed current
    exact ⟨stable, settled absent installed current, running⟩
  pending := by
    rw [disk]
    intro activation stored
    obtain ⟨current, stable, -, published, newer⟩ := consistent.pending activation stored
    exact ⟨current, stable, pending activation stored, published, newer⟩
  packaged := by rw [disk]; exact consistent.packaged

/-- What a check by the agent of `version` may record fits the site. -/
theorem Consistent.offer (consistent : Consistent site) {replies : Nat → HttpReply}
    {version : String} {machine : Machine} {status : PersistedStatus}
    (latest : site.servesLatest p replies = true)
    (offer : Offer p (mainChecker updatesRepo version) (replies 0) status.availableVersion)
    (own : site.machine.disk.pending = .absent → ∀ installed,
      site.machine.disk.current = some installed → version = installed)
    (disk : machine.disk = site.machine.disk.withStatus status) :
    Consistent { site with machine } := by
  rcases offer with nothing | ⟨release, serves, available, newer⟩
  · exact consistent.withStatus disk (fun _ _ _ => .inl nothing) fun _ _ => .inr (.inl nothing)
  have published := published_of_serves latest serves
  apply consistent.withStatus disk
  · intro absent installed current
    obtain rfl := own absent installed current
    right
    rw [available]
    exact newer (consistent.settled absent _ current).1
  · intro pending stored
    obtain ⟨-, -, -, ⟨tag, published', fresh⟩, -⟩ := consistent.pending pending stored
    obtain rfl := Option.some.inj (published.symm.trans published')
    rw [available]
    exact fresh.imp id Or.inr

theorem Consistent.check (consistent : Consistent site) {replies : Nat → HttpReply}
    {version : String}
    (taken : site.online p replies ((mainChecker updatesRepo version).check p) = some next)
    (own : site.machine.disk.pending = .absent → ∀ installed,
      site.machine.disk.current = some installed → version = installed) : Consistent next := by
  obtain ⟨latest, rfl⟩ := Site.online_eq_some taken
  obtain ⟨before, readable⟩ := consistent.readable
  obtain ⟨status, disk, offer⟩ :=
    Checker.check_disk p (mainChecker updatesRepo version) (site.world replies) readable
  exact consistent.offer latest offer own disk

/-- A release that has just been staged on the site's slots, before or after its
    status has changed. -/
theorem Consistent.staged (consistent : Consistent site) {version : String} {binary : Bytes}
    {m t machine : Machine} (staged : Staged version binary m t)
    (before : site.machine.disk.SameSlots m.disk) (after : t.disk.SameSlots machine.disk)
    (readable : ∃ status, machine.disk.readableStatus = some status)
    (available : machine.disk.available = version ∨ Offers machine.disk.available version)
    (published : Published site version) : Consistent { site with machine } := by
  have installedStable : ∀ installed, site.machine.disk.current = some installed →
      Stable installed := by
    intro installed linked
    cases pending : site.machine.disk.pending with
    | absent => exact (consistent.settled pending installed linked).1
    | malformed => exact absurd pending consistent.wellFormed
    | stored activation =>
      obtain ⟨same, stable, -⟩ := consistent.pending activation pending
      obtain rfl := Option.some.inj (same.symm.trans linked)
      exact stable
  have pending : machine.disk.pending = .stored
      { version, attempts := 0, firstAttemptAt := m.clock m.reads } := by
    rw [after.pending, staged.disk, Disk.staged_pending]
  have current : machine.disk.current = some version := by
    rw [after.current, staged.disk, Disk.staged_current]
  have previous : machine.disk.previous =
      site.machine.disk.current.or site.machine.disk.previous := by
    rw [after.previous, staged.disk, Disk.staged_previous, before.current, before.previous]
  refine ⟨readable, ?_, consistent.stable, ?_, ?_, ?_⟩
  · intro malformed
    cases pending.symm.trans malformed
  · intro absent
    cases pending.symm.trans absent
  · intro activation stored
    cases pending.symm.trans stored
    refine ⟨current, staged.stable, available, published, ?_⟩
    intro older found
    have found := previous.symm.trans found
    cases linked : site.machine.disk.current with
    | none =>
      rw [linked, consistent.packaged linked] at found
      cases found
    | some installed =>
      rw [linked] at found
      cases found
      exact staged.newer (before.current.trans linked) (installedStable _ linked)
  · intro absent
    cases current.symm.trans absent

theorem Consistent.push (consistent : Consistent site) {version : String} {binary : Bytes}
    (pushable : PushesPublished site (.push version binary)) :
    Consistent { site with machine := (exec (stageAndActivate version binary) site.machine).2 } := by
  cases ran : exec (stageAndActivate version binary) site.machine with
  | mk outcome t =>
    cases outcome with
    | error err =>
      rw [stageAndActivate_error ran]
      exact consistent
    | ok accepted =>
      have staged := staged_of_exec ran
      have status : t.disk.status = site.machine.disk.status := by
        rw [staged.disk, Disk.staged_status]
      refine consistent.staged staged ⟨rfl, rfl, rfl⟩ ⟨rfl, rfl, rfl⟩ ?_ ?_ pushable.2
      · obtain ⟨recorded, readable⟩ := consistent.readable
        exact ⟨recorded, by rw [← readable]; simp only [Disk.readableStatus, status]⟩
      · rw [show t.disk.available = site.machine.disk.available by simp only [Disk.available, status]]
        exact pushable.1

theorem Consistent.installed (consistent : Consistent site) {replies : Nat → HttpReply}
    {version : String} {machine : Machine} (latest : site.servesLatest p replies = true)
    (own : site.machine.disk.pending = .absent → ∀ installed,
      site.machine.disk.current = some installed → version = installed)
    (outcome : Installed p (mainChecker updatesRepo version) (replies 0) site.machine.disk
      machine.disk) : Consistent { site with machine } := by
  generalize disk : machine.disk = d at outcome
  cases outcome with
  | refused offer => exact consistent.offer latest offer own disk
  | @staged status status' release binary m t served checked staged cleared =>
    apply consistent.staged staged
    · rw [checked]; exact ⟨rfl, rfl, rfl⟩
    · rw [disk]; exact ⟨rfl, rfl, rfl⟩
    · exact ⟨status', by rw [disk]; rfl⟩
    · rw [disk]; exact .inr (.inl cleared)
    · exact ⟨release.tagName, published_of_serves latest served, .inl rfl⟩

theorem Consistent.install (consistent : Consistent site) {replies : Nat → HttpReply}
    {version requestedVersion : String}
    (taken : site.online p replies ((mainChecker updatesRepo version).install p requestedVersion) =
      some next)
    (own : site.machine.disk.pending = .absent → ∀ installed,
      site.machine.disk.current = some installed → version = installed) : Consistent next := by
  obtain ⟨latest, rfl⟩ := Site.online_eq_some taken
  obtain ⟨before, readable⟩ := consistent.readable
  exact consistent.installed latest own
    (Checker.install_disk p (mainChecker updatesRepo version) (site.world replies)
      requestedVersion readable)

/-- A restart that leaves the disk to the agent that `current` links to. -/
theorem Consistent.restarted (consistent : Consistent site) :
    Consistent { site with running := some (site.startVersion packaged) } where
  readable := consistent.readable
  wellFormed := consistent.wellFormed
  stable := consistent.stable
  settled := by
    intro absent installed current
    obtain ⟨stable, offers, -⟩ := consistent.settled absent installed current
    refine ⟨stable, offers, ?_⟩
    intro version running
    cases running
    show site.machine.disk.current.getD packaged = installed
    rw [show site.machine.disk.current = some installed from current]
    rfl
  pending := consistent.pending
  packaged := consistent.packaged

/-- A start that is counted: the activation stays pending. -/
theorem Consistent.counted (consistent : Consistent site) {pending : PendingActivation}
    (stored : site.machine.disk.pending = .stored pending) {machine : Machine} {attempts : Nat}
    (disk : machine.disk = { site.machine.disk with pending := .stored { pending with attempts } })
    (running : Option String) : Consistent { site with machine, running } where
  readable := by rw [disk]; exact consistent.readable
  wellFormed := by
    rw [disk]
    intro malformed
    cases malformed
  stable := consistent.stable
  settled := by
    rw [disk]
    intro absent
    cases absent
  pending := by
    rw [disk]
    intro pending' stored'
    cases stored'
    exact consistent.pending pending stored
  packaged := by rw [disk]; exact consistent.packaged

/-- A confirmation withdraws the offer of the confirmed version. -/
theorem installOutcome_available {version : String} (named : version ≠ "") (message : String)
    (now : Time) (status : PersistedStatus) :
    (installOutcome version message now status).availableVersion =
      if status.availableVersion = version then "" else status.availableVersion := by
  unfold installOutcome
  by_cases same : status.availableVersion = version <;> simp [named, same]

theorem Consistent.rolledBack (consistent : Consistent site) {pending : PendingActivation}
    (stored : site.machine.disk.pending = .stored pending) {machine : Machine}
    {status : PersistedStatus} (readable : site.machine.disk.readableStatus = some status)
    {message : String} {now : Time}
    (disk : machine.disk =
      site.machine.disk.rolledBack.cleared.outcomeRecorded "" message now status) :
    Consistent { site with machine, running := none } := by
  obtain ⟨current, stable, available, published, newer⟩ := consistent.pending pending stored
  have same : machine.disk.available = site.machine.disk.available := by
    rw [disk, Disk.available_of_readable readable]
    rfl
  refine ⟨⟨_, by rw [disk]; rfl⟩, ?_, consistent.stable, ?_, ?_, ?_⟩
  · rw [disk]
    intro malformed
    cases malformed
  · intro absent installed linked
    rw [disk] at linked
    have back : Newer pending.version installed := newer installed linked
    refine ⟨back.stable_right, ?_, fun version running => by cases running⟩
    show Offers machine.disk.available installed
    rw [same]
    rcases available with itself | nothing | further
    · exact .inr (itself ▸ back)
    · exact .inl nothing
    · exact .inr (further.trans back)
  · rw [disk]
    intro pending' stored'
    cases stored'
  · rw [disk]
    exact fun absent => absent

/-- The starting process is of the version that `current` links to. -/
theorem Consistent.start (consistent : Consistent site)
    (taken : site.step p updatesRepo packaged .start = some next) : Consistent next := by
  obtain ⟨before, readable⟩ := consistent.readable
  obtain ⟨action, t, ran⟩ := reconcileStartup_succeeds (site.startVersion packaged)
    consistent.wellFormed readable
  simp only [Site.step, ran] at taken
  cases reconciled_of_exec ran with
  | settled absent =>
    cases taken
    exact consistent.restarted
  | stale stored other =>
    refine absurd ?_ other
    simp [Site.startVersion, (consistent.pending _ stored).1]
  | awaitingHealth stored same young few =>
    cases taken
    exact consistent.counted stored rfl _
  | rolledBack stored same exhausted readable =>
    cases taken
    exact consistent.rolledBack stored readable rfl

theorem Consistent.confirm (consistent : Consistent site) {version : String}
    (running : site.running = some version) :
    Consistent { site with machine := (exec (confirmHealthy version) site.machine).2 } := by
  obtain ⟨before, readable⟩ := consistent.readable
  obtain ⟨t, ran⟩ := confirmHealthy_succeeds version consistent.wellFormed readable
  rw [ran]
  cases confirmed_of_exec ran with
  | ignored other => exact consistent
  | @confirmed pending status stored same recorded =>
    obtain ⟨current, stable, available, -, -⟩ := consistent.pending pending stored
    subst same
    refine ⟨⟨_, rfl⟩, ?_, consistent.stable, ?_, ?_, consistent.packaged⟩
    · intro malformed
      cases malformed
    · intro _ installed linked
      obtain rfl : pending.version = installed := Option.some.inj (current.symm.trans linked)
      refine ⟨stable, ?_, ?_⟩
      · show Offers (installOutcome _ _ _ status).availableVersion _
        rw [installOutcome_available stable.ne_empty]
        rw [Disk.available_of_readable recorded] at available
        split
        · exact .inl rfl
        · next different => exact available.resolve_left different
      · intro version running'
        exact Option.some.inj (running'.symm.trans running)
    · intro pending' stored'
      cases stored'

theorem Consistent.publish (consistent : Consistent site) {version : String}
    (stable : Stable version) (newer : ∀ latest ∈ site.published, Newer version latest) :
    Consistent { site with published := some version } where
  readable := consistent.readable
  wellFormed := consistent.wellFormed
  stable := by
    intro latest published
    cases published
    exact stable
  settled := consistent.settled
  pending := by
    intro pending stored
    obtain ⟨current, stable', available, ⟨latest, published, fresh⟩, previous⟩ :=
      consistent.pending pending stored
    have ahead : Newer version pending.version := by
      rcases fresh with rfl | fresh
      · exact newer _ published
      · exact (newer latest published).trans fresh
    exact ⟨current, stable', available, ⟨version, rfl, .inr ahead⟩, previous⟩
  packaged := consistent.packaged

theorem Consistent.step (consistent : Consistent site) {event : SiteEvent}
    (pushable : PushesPublished site event)
    (taken : site.step p updatesRepo packaged event = some next) : Consistent next := by
  cases event with
  | publish version =>
    simp only [Site.step] at taken
    split at taken
    · next newer => cases taken; exact consistent.publish newer.1 newer.2
    · cases taken
  | check replies =>
    obtain ⟨version, running, taken⟩ := Option.bind_eq_some_iff.mp taken
    refine consistent.check taken fun absent installed current => ?_
    exact (consistent.settled absent installed current).2.2 version running
  | scheduledCheck replies =>
    refine consistent.check taken fun _ installed current => ?_
    rw [Site.startVersion, current, Option.getD_some]
  | install requestedVersion replies =>
    obtain ⟨version, running, taken⟩ := Option.bind_eq_some_iff.mp taken
    refine consistent.install taken fun absent installed current => ?_
    exact (consistent.settled absent installed current).2.2 version running
  | push version binary =>
    obtain ⟨_, -, taken⟩ := Option.bind_eq_some_iff.mp taken
    cases taken
    exact consistent.push pushable
  | start => exact consistent.start taken
  | confirm =>
    obtain ⟨version, running, taken⟩ := Option.bind_eq_some_iff.mp taken
    cases taken
    exact consistent.confirm running

end Steps

/-- A node without a pending activation offers nothing, or a release newer than the
    one it runs, in every state of a run whose pushed releases meet the condition. -/
theorem settled_offers_newer {p : Platform} {updatesRepo packaged : String} {clock : Nat → Time}
    {events : List SiteEvent} {site : Site} {installed : String}
    (run : replay (Site.step p updatesRepo packaged) (Site.fresh clock) events = some site)
    (pushable : Guarded (Site.step p updatesRepo packaged) PushesPublished (Site.fresh clock) events)
    (settled : site.machine.disk.pending = .absent)
    (current : site.machine.disk.current = some installed) :
    Offers site.machine.disk.available installed := by
  have consistent : Consistent site :=
    replay_invariant (fun _ _ _ consistent pushable taken => consistent.step pushable taken)
      (consistent_fresh clock) pushable run
  exact (consistent.settled settled installed current).2.1

/-- The version a node runs and the one it offers, once it has settled. -/
def settledOffer (p : Platform) (packaged : String) (clock : Nat → Time) (events : List SiteEvent) :
    Option (String × String) := do
  let site ← replay (Site.step p "" packaged) (Site.fresh clock) events
  let installed ← site.machine.disk.current
  if site.machine.disk.pending = .absent then
    return (installed, site.machine.disk.available)
  else none

theorem settledOffer_eq_some {p : Platform} {packaged : String} {clock : Nat → Time}
    {events : List SiteEvent} {installed available : String}
    (offer : settledOffer p packaged clock events = some (installed, available)) :
    ∃ site, replay (Site.step p "" packaged) (Site.fresh clock) events = some site ∧
      site.machine.disk.pending = .absent ∧ site.machine.disk.current = some installed ∧
      site.machine.disk.available = available := by
  simp only [settledOffer, Option.bind_eq_bind, Option.bind_eq_some_iff] at offer
  obtain ⟨site, run, installed', current, rest⟩ := offer
  split at rest
  · next settled =>
    cases rest
    exact ⟨site, run, settled, current, rfl⟩
  · cases rest

/-- The controller pushes a release older than the latest published one. -/
def pushBehind : List SiteEvent :=
  [.start, .publish "v1.1.0", .push "v1.0.0" [1], .start, .confirm, .check Checker.sampleReplies]

theorem settled_offers_newer_after_push :
    ∃ site, replay (Site.step Checker.samplePlatform "" "v0.9.0") (Site.fresh fun _ => 0)
        pushBehind = some site ∧ Offers site.machine.disk.available "v1.0.0" := by
  have offer : settledOffer Checker.samplePlatform "v0.9.0" (fun _ => 0) pushBehind =
      some ("v1.0.0", "v1.1.0") := by decide +kernel
  obtain ⟨site, run, settled, current, -⟩ := settledOffer_eq_some offer
  exact ⟨site, run, settled_offers_newer run (by decide +kernel) settled current⟩

/-- The controller pushes a release newer than the one that a check has found: the
    older one stays on offer. -/
theorem settled_offers_older :
    ¬ ∀ (p : Platform) (updatesRepo packaged : String) (clock : Nat → Time)
        (events : List SiteEvent) (site : Site) (installed : String),
      replay (Site.step p updatesRepo packaged) (Site.fresh clock) events = some site →
      site.machine.disk.pending = .absent → site.machine.disk.current = some installed →
      Offers site.machine.disk.available installed := by
  intro claim
  have offer : settledOffer Checker.samplePlatform "v0.9.0" (fun _ => 0)
      [.start, .publish "v1.1.0", .check Checker.sampleReplies, .publish "v1.2.0",
        .push "v1.2.0" [1], .start, .confirm] = some ("v1.2.0", "v1.1.0") := by decide +kernel
  obtain ⟨site, run, settled, current, available⟩ := settledOffer_eq_some offer
  have offers := claim _ _ _ _ _ site _ run settled current
  rw [available] at offers
  exact absurd offers (by decide)

end Strom.Updates
