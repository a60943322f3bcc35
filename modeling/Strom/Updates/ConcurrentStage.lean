import Strom.Effects.Pool
import Strom.Updates.StoreSpec

/-!
# `StageAndActivate` calls that run concurrently

`Store` has no lock: calls served by different goroutines interleave at the
directory operations of `Strom.Updates.Disk`.  A call is a thread running
`stageAndActivate`; `Phase` names the point it has reached, and `Phase.program`
is the rest of the program from there, so that a pool of programs and the pool of
their phases move alike (`Phase.program_move`).

`concurrent_stages_whole`: as long as no call replaces `current` between the
moment another call has replaced it and the moment that call has recorded its
activation, or while another call prunes, and no call removes a release that
another one is about to activate, the store ends up whole.
-/

namespace Strom.Updates

open Strom.Go Strom.Effects

/-- The point that a call of `StageAndActivate` has reached, on its way past an
    undisturbed directory operation. -/
inductive Phase where
  /-- About to read the installed version. -/
  | looking (version : String) (binary : Bytes)
  | making (version : String) (binary : Bytes)
  | writing (version : String) (binary : Bytes)
  /-- The binary is written; about to read `current` for the previous slot. -/
  | promoting (version : String)
  | demoting (version existingTarget : String)
  | switching (version : String)
  /-- `current` is replaced; about to read the clock. -/
  | stamping (version : String)
  | recording (version : String) (now : Time)
  /-- Pruning, about to read `current`. -/
  | keepingCurrent
  | keepingPrevious (current : Option String)
  | listing (keep : List String)
  /-- About to remove `entry`, with `entries` left to go through. -/
  | removing (keep : List String) (entry : String) (entries : List String)
  | returned (result : Except GoError Unit)

namespace Phase

/-- The removal loop of `pruneReleases` at its head. -/
def pruning (keep : List String) : List String → Phase
  | [] => .returned (.ok ())
  | entry :: entries => if entry ∈ keep then pruning keep entries else .removing keep entry entries

/-- A call before its first directory operation. -/
def call (version : String) (binary : Bytes) : Phase :=
  match checkRelease (trimSpace version) binary with
  | .error e => .returned (.error e)
  | .ok () => .looking (trimSpace version) binary

/-- Where the call goes from here. -/
def next : Phase → Machine → Phase
  | .looking version binary, m =>
    match checkUpgrade version m.disk.current with
    | .error e => .returned (.error e)
    | .ok () => .making version binary
  | .making version binary, _ => .writing version binary
  | .writing version _, _ => .promoting version
  | .promoting version, m =>
    match m.disk.current with
    | none => .switching version
    | some existingTarget => .demoting version existingTarget
  | .demoting version _, _ => .switching version
  | .switching version, _ => .stamping version
  | .stamping version, m => .recording version (m.clock m.reads)
  | .recording _ _, _ => .keepingCurrent
  | .keepingCurrent, m => .keepingPrevious m.disk.current
  | .keepingPrevious current, m => .listing (current.toList ++ m.disk.previous.toList)
  | .listing keep, m => if m.disk.releasesDir then pruning keep m.disk.dirs else .returned (.ok ())
  | .removing keep _ entries, _ => pruning keep entries
  | .returned result, _ => .returned result

/-- What the operation at this point does to the directory. -/
def change : Phase → Disk → Disk
  | .making version _, d => d.mkdir version
  | .writing version binary, d => d.writeBinary version binary
  | .demoting _ existingTarget, d => d.setLink .previous (some existingTarget)
  | .switching version, d => d.setLink .current (some version)
  | .recording version now, d =>
    { d with pending := .stored { version, attempts := 0, firstAttemptAt := now } }
  | .removing _ entry _, d => d.removeDir entry
  | _, d => d

/-- Clock readings of the operation at this point. -/
def readings : Phase → Nat
  | .stamping _ => 1
  | _ => 0

/-- One directory operation of the call. -/
def move (phase : Phase) (m : Machine) : Option (Phase × Machine) :=
  match phase with
  | .returned _ => none
  | phase => some (phase.next m,
      { m with disk := phase.change m.disk, reads := m.reads + phase.readings })

/-! ## The rest of the program -/

section Rest

variable (version : String) (binary : Bytes)

def restRecording (now : Time) : StoreAction Unit := do
  wrapping "record pending activation"
    (writePending { version, attempts := 0, firstAttemptAt := now })
  wrapping "prune old releases" pruneReleases

def restStamping : StoreAction Unit := do
  let now ← timeNow
  restRecording version now

def restSwitching : StoreAction Unit := do
  wrapping "activate new slot" (atomicSymlink version .current)
  restStamping version

def restPromoting : StoreAction Unit := do
  promoteCurrent
  restSwitching version

def restWriting : StoreAction Unit := do
  wrapping "stage release binary" (atomicWriteExecutable version binary)
  restPromoting version

def restMaking : StoreAction Unit := do
  wrapping "create release directory" (mkdirAll version)
  restWriting version binary

def restLooking : StoreAction Unit := do
  let installed ← Action.always installedVersion
  Action.ofExcept (checkUpgrade version installed)
  restMaking version binary

end Rest

def restListing (keep : List String) : StoreAction Unit := do
  match ← Action.always readReleasesDir with
  | .error e => if e.isNotExist then return () else throw e
  | .ok entries => removeSuperseded keep entries

/-- What the call still has to do. -/
def program : Phase → StoreProgram (Except GoError Unit)
  | .looking version binary => (restLooking version binary).toProgram
  | .making version binary => (restMaking version binary).toProgram
  | .writing version binary => (restWriting version binary).toProgram
  | .promoting version => (restPromoting version).toProgram
  | .demoting version existingTarget => Action.toProgram do
    wrapping "update previous slot" (atomicSymlink existingTarget .previous)
    restSwitching version
  | .switching version => (restSwitching version).toProgram
  | .stamping version => (restStamping version).toProgram
  | .recording version now => (restRecording version now).toProgram
  | .keepingCurrent => (wrapping "prune old releases" pruneReleases).toProgram
  | .keepingPrevious current => Action.toProgram <| wrapping "prune old releases" do
    let previous ← Action.always (versionAtLink .previous)
    restListing (current.toList ++ previous.toList)
  | .listing keep => (wrapping "prune old releases" (restListing keep)).toProgram
  | .removing keep entry entries => Action.toProgram <| wrapping "prune old releases" do
    wrapping ("remove superseded release " ++ entry) (removeAll entry)
    removeSuperseded keep entries
  | .returned result => .ret result

theorem program_call (version : String) (binary : Bytes) :
    (call version binary).program = (stageAndActivate version binary).toProgram := by
  unfold call stageAndActivate
  cases release : checkRelease (trimSpace version) binary with
  | error e => simp [program, release]
  | ok checked => simp only [release, Action.toProgram_bind]; rfl

theorem program_pruning (keep entries : List String) :
    (pruning keep entries).program =
      (wrapping "prune old releases" (removeSuperseded keep entries)).toProgram := by
  induction entries with
  | nil => rfl
  | cons entry entries ih =>
    unfold pruning removeSuperseded
    split
    · exact ih
    · rfl

/-- A call that reads a link goes on with what the link holds. -/
theorem move_readlink {α : Type} (l : Link) (m : Machine)
    (next : Except GoError String → StoreProgram α) :
    ((readlink l).bind next).move diskHandler m = some (next (match m.disk.link l with
      | some version => .ok version
      | none => .error (.os .notExist)), m) := rfl

theorem move_versionAtLink {α : Type} (l : Link) (m : Machine)
    (next : Option String → StoreProgram α) :
    ((versionAtLink l).bind next).move diskHandler m = some (next (m.disk.link l), m) := by
  unfold versionAtLink
  rw [Program.bind_eq, Program.bind_assoc, move_readlink]
  cases m.disk.link l <;> rfl

/-- The phases of a call are the points its program goes through. -/
theorem program_move (phase : Phase) (m : Machine) :
    phase.program.move diskHandler m = (phase.move m).map (Prod.map program id) := by
  cases phase with
  | looking version binary =>
    simp only [program, restLooking, installedVersion, Action.toProgram_bind,
      Action.toProgram_always, Program.bind_assoc, move_versionAtLink, Program.ret_bind,
      Action.toProgram_ofExcept, Disk.link, move, next]
    cases checkUpgrade version m.disk.current <;> rfl
  | making version binary => rfl
  | writing version binary => rfl
  | promoting version =>
    simp only [program, restPromoting, promoteCurrent, Action.toProgram_bind,
      Action.toProgram_always, Program.bind_assoc, move_readlink, Program.ret_bind, Disk.link, move,
      next]
    cases m.disk.current <;> rfl
  | demoting version existingTarget => rfl
  | switching version => rfl
  | stamping version => rfl
  | recording version now => rfl
  | keepingCurrent =>
    simp only [program, pruneReleases, restListing, wrapping, Action.toProgram_mapError,
      Action.toProgram_bind, Action.toProgram_always, Program.bind_assoc, move_versionAtLink,
      Program.ret_bind, move, next, Option.map_some, Prod.map]
    rfl
  | keepingPrevious current =>
    simp only [program, wrapping, Action.toProgram_mapError, Action.toProgram_bind,
      Action.toProgram_always, Program.bind_assoc, move_versionAtLink]
    rfl
  | listing keep =>
    simp only [program, restListing, wrapping, readReleasesDir, Program.perform, Program.move,
      Action.toProgram_mapError, Action.toProgram_bind, Action.toProgram_always, Program.call_bind,
      Program.ret_bind, diskHandler, move, next]
    cases m.disk.releasesDir with
    | false => rfl
    | true => simp [program_pruning, wrapping, change, readings]
  | removing keep entry entries =>
    simp only [move, next, Option.map_some, Prod.map, program_pruning]
    rfl
  | returned result => rfl

theorem returned_of_program {phase : Phase} {result : Except GoError Unit} (m : Machine)
    (ended : phase.program = .ret result) : phase = .returned result := by
  have stuck := phase.program_move m
  rw [ended] at stuck
  cases phase with
  | returned result' => cases ended; rfl
  | _ => cases stuck

theorem move_eq_some {phase phase' : Phase} {m m' : Machine}
    (moved : phase.move m = some (phase', m')) :
    phase' = phase.next m ∧ m'.disk = phase.change m.disk := by
  cases phase with
  | returned result => cases moved
  | _ => cases moved; exact ⟨rfl, rfl⟩

/-! ## What a move changes -/

/-- The call has written the binary of `version` and is about to activate it. -/
def activates (version : String) : Phase → Bool
  | .promoting v => v = version
  | .demoting v _ => v = version
  | .switching v => v = version
  | _ => false

/-- The call has replaced `current` and not yet recorded the activation. -/
def unrecorded : Phase → Bool
  | .stamping _ => true
  | .recording _ _ => true
  | _ => false

/-- The call prunes, and has read `current` for it. -/
def prunes : Phase → Bool
  | .keepingPrevious _ => true
  | .listing _ => true
  | .removing _ _ _ => true
  | _ => false

/-- The call has replaced `current`. -/
def switched : Phase → Bool
  | .keepingCurrent => true
  | .returned result => result.isOk
  | phase => phase.unrecorded || phase.prunes

/-- The call has passed its checks. -/
def underway : Phase → Bool
  | .looking _ _ => false
  | .returned result => result.isOk
  | _ => true

theorem pruning_cases (keep entries : List String) :
    pruning keep entries = .returned (.ok ()) ∨
      ∃ entry rest, entry ∉ keep ∧ pruning keep entries = .removing keep entry rest := by
  induction entries with
  | nil => exact .inl rfl
  | cons entry entries ih =>
    unfold pruning
    split
    · exact ih
    · next superseded => exact .inr ⟨entry, entries, superseded, rfl⟩

theorem next_looking (version : String) (binary : Bytes) (m : Machine) :
    (∃ e, (looking version binary).next m = .returned (.error e)) ∨
      (looking version binary).next m = .making version binary := by
  simp only [next]
  cases checkUpgrade version m.disk.current with
  | error e => exact .inl ⟨e, rfl⟩
  | ok checked => exact .inr rfl

theorem next_looking_of_ok {version : String} {m : Machine} (binary : Bytes)
    (upgrade : checkUpgrade version m.disk.current = .ok ()) :
    (looking version binary).next m = .making version binary := by
  simp only [next, upgrade]

theorem next_promoting (version : String) (m : Machine) :
    (promoting version).next m = .switching version ∨
      ∃ existingTarget, (promoting version).next m = .demoting version existingTarget := by
  simp only [next]
  cases m.disk.current with
  | none => exact .inl rfl
  | some existingTarget => exact .inr ⟨existingTarget, rfl⟩

theorem next_listing (keep : List String) (m : Machine) :
    (listing keep).next m = .returned (.ok ()) ∨
      ∃ entry rest, entry ∉ keep ∧ (listing keep).next m = .removing keep entry rest := by
  simp only [next]
  split
  · exact pruning_cases keep _
  · exact .inl rfl

theorem next_removing (keep entries : List String) (entry : String) (m : Machine) :
    (removing keep entry entries).next m = .returned (.ok ()) ∨
      ∃ entry' rest, entry' ∉ keep ∧
        (removing keep entry entries).next m = .removing keep entry' rest :=
  pruning_cases keep entries

section Moves

variable {phase : Phase} {m : Machine} {d : Disk}

theorem current_change (other : ∀ version, phase ≠ .switching version) :
    (phase.change d).current = d.current := by
  cases phase with
  | switching version => exact absurd rfl (other version)
  | _ => rfl

theorem pending_change (other : ∀ version now, phase ≠ .recording version now) :
    (phase.change d).pending = d.pending := by
  cases phase with
  | recording version now => exact absurd rfl (other version now)
  | _ => rfl

/-- A binary changes only where the call writes or removes it. -/
theorem binary_change (phase : Phase) (d : Disk) (version : String) :
    (phase.change d).binary version = d.binary version ∨
      (∃ binary, phase = .writing version binary ∧
        (phase.change d).binary version = some binary) ∨
      ∃ keep entries, phase = .removing keep version entries := by
  cases phase with
  | writing v binary =>
    by_cases same : version = v
    · subst same
      exact .inr (.inl ⟨binary, rfl, Disk.binary_writeBinary_same ..⟩)
    · exact .inl (Disk.binary_writeBinary_of_ne d binary same)
  | removing keep entry entries =>
    by_cases same : version = entry
    · subst same
      exact .inr (.inr ⟨keep, entries, rfl⟩)
    · exact .inl (Disk.binary_removeDir_of_ne d same)
  | _ => exact .inl rfl

theorem change_of_not_underway (idle : phase.underway = false) : phase.change d = d := by
  cases phase with
  | looking version binary => rfl
  | returned result => rfl
  | _ => cases idle

theorem unrecorded_next :
    (phase.next m).unrecorded = true ↔
      (∃ version, phase = .switching version) ∨ ∃ version, phase = .stamping version := by
  cases phase with
  | looking version binary =>
    rcases next_looking version binary m with ⟨e, refused⟩ | accepted <;> simp [*, unrecorded]
  | promoting version =>
    rcases next_promoting version m with alone | ⟨existingTarget, upgrade⟩ <;> simp [*, unrecorded]
  | listing keep =>
    rcases next_listing keep m with ended | ⟨entry, rest, -, more⟩ <;> simp [*, unrecorded]
  | removing keep entry entries =>
    rcases next_removing keep entries entry m with ended | ⟨entry, rest, -, more⟩ <;>
      simp [*, unrecorded]
  | _ => simp [next, unrecorded]

theorem switched_next :
    (phase.next m).switched = true ↔
      phase.switched = true ∨ ∃ version, phase = .switching version := by
  cases phase with
  | looking version binary =>
    rcases next_looking version binary m with ⟨e, refused⟩ | accepted <;>
      simp [*, switched, unrecorded, prunes, Except.isOk, Except.toBool]
  | promoting version =>
    rcases next_promoting version m with alone | ⟨existingTarget, upgrade⟩ <;>
      simp [*, switched, unrecorded, prunes]
  | listing keep =>
    rcases next_listing keep m with ended | ⟨entry, rest, -, more⟩ <;>
      simp [*, switched, unrecorded, prunes, Except.isOk, Except.toBool]
  | removing keep entry entries =>
    rcases next_removing keep entries entry m with ended | ⟨entry, rest, -, more⟩ <;>
      simp [*, switched, unrecorded, prunes, Except.isOk, Except.toBool]
  | _ => simp [next, switched, unrecorded, prunes]

theorem underway_of_switched (switched : phase.switched = true) : phase.underway = true := by
  cases phase <;> simp_all [Phase.switched, underway, unrecorded, prunes]

theorem underway_next (underway : phase.underway = true) : (phase.next m).underway = true := by
  cases phase with
  | looking version binary => cases underway
  | promoting version =>
    rcases next_promoting version m with alone | ⟨existingTarget, upgrade⟩ <;>
      simp [*, Phase.underway]
  | listing keep => exact underway_of_switched (switched_next.mpr (.inl rfl))
  | removing keep entry entries => exact underway_of_switched (switched_next.mpr (.inl rfl))
  | returned result => exact underway
  | _ => rfl

end Moves

end Phase

/-! ## The invariant of an orderly interleaving -/

/-- The versions and binaries that `calls` deliver. -/
def Delivers (calls : List (String × Bytes)) (version : String) (binary : Bytes) : Prop :=
  ∃ text, (text, binary) ∈ calls ∧ trimSpace text = version

/-- `current` links to a release with the complete binary of one of the calls. -/
def Complete (calls : List (String × Bytes)) (d : Disk) : Prop :=
  ∃ version binary, d.current = some version ∧ d.binary version = some binary ∧
    Delivers calls version binary

/-- The pending record names the version that `current` links to. -/
def Recorded (d : Disk) : Prop := ∃ pending, d.pending = .stored pending ∧
  d.current = some pending.version

/-- What a call at `phase` relies on. -/
def Phase.Sound (calls : List (String × Bytes)) (d : Disk) : Phase → Prop
  | .looking version binary => Delivers calls version binary
  | .making version binary => Delivers calls version binary
  | .writing version binary => Delivers calls version binary
  | .promoting version => ∃ binary, d.binary version = some binary ∧ Delivers calls version binary
  | .demoting version _ => ∃ binary, d.binary version = some binary ∧ Delivers calls version binary
  | .switching version => ∃ binary, d.binary version = some binary ∧ Delivers calls version binary
  | .stamping version => d.current = some version
  | .recording version _ => d.current = some version
  | .keepingCurrent => True
  | .keepingPrevious current => current = d.current
  | .listing keep => ∀ version, d.current = some version → version ∈ keep
  | .removing keep entry _ => entry ∉ keep ∧ ∀ version, d.current = some version → version ∈ keep
  | .returned _ => True

/-- Before any call has passed its checks: the store is as it was, and the calls
    it would accept have yet to look at it. -/
def Untouched (initial : Disk) (calls : List (String × Bytes)) (pool : Pool Machine Phase) : Prop :=
  pool.state.disk = initial ∧ ∀ version binary, (version, binary) ∈ calls →
    checkRelease (trimSpace version) binary = .ok () →
    checkUpgrade (trimSpace version) initial.current = .ok () →
    .looking (trimSpace version) binary ∈ pool.threads

structure SoundPool (initial : Disk) (calls : List (String × Bytes)) (pool : Pool Machine Phase) :
    Prop where
  each : ∀ phase ∈ pool.threads, phase.Sound calls pool.state.disk
  complete : (∃ phase ∈ pool.threads, phase.switched) → Complete calls pool.state.disk
  recorded : (∃ phase ∈ pool.threads, phase.switched) →
    (∃ phase ∈ pool.threads, phase.unrecorded) ∨ Recorded pool.state.disk
  begun : (∃ phase ∈ pool.threads, phase.underway) ∨ Untouched initial calls pool

/-- A call replaces `current` only while no other call has replaced it without
    having recorded its activation, or has read it to prune.  A call removes a
    release only while no other call is about to activate it. -/
def Orderly (pool : Pool Machine Phase) (i : Nat) : Prop :=
  match pool.threads[i]? with
  | some (.switching _) => ∀ other ∈ pool.others i, !other.unrecorded && !other.prunes
  | some (.removing _ entry _) => ∀ other ∈ pool.others i, !other.activates entry
  | _ => True

instance (pool : Pool Machine Phase) (i : Nat) : Decidable (Orderly pool i) := by
  unfold Orderly
  split <;> infer_instance

/-! ## What a move keeps -/

section Keeps

variable {calls : List (String × Bytes)} {phase : Phase} {m : Machine} {d d' : Disk}

/-- The call that moves. -/
theorem Phase.Sound.next (sound : phase.Sound calls m.disk) :
    (phase.next m).Sound calls (phase.change m.disk) := by
  cases phase with
  | looking version binary =>
    rcases Phase.next_looking version binary m with ⟨e, refused⟩ | accepted
    · rw [refused]; trivial
    · rw [accepted]; exact sound
  | making version binary => exact sound
  | writing version binary => exact ⟨binary, Disk.binary_writeBinary_same .., sound⟩
  | promoting version =>
    rcases Phase.next_promoting version m with alone | ⟨existingTarget, upgrade⟩
    · rw [alone]; exact sound
    · rw [upgrade]; exact sound
  | demoting version existingTarget => exact sound
  | switching version => rfl
  | stamping version => exact sound
  | recording version now => trivial
  | keepingCurrent => rfl
  | keepingPrevious current =>
    intro version linked
    have linked : current = some version := sound.trans linked
    simp [linked]
  | listing keep =>
    rcases Phase.next_listing keep m with ended | ⟨entry, rest, superseded, more⟩
    · rw [ended]; trivial
    · rw [more]; exact ⟨superseded, sound⟩
  | removing keep entry entries =>
    rcases Phase.next_removing keep entries entry m with ended | ⟨entry', rest, superseded, more⟩
    · rw [ended]; trivial
    · rw [more]; exact ⟨superseded, sound.2⟩
  | returned result => trivial

/-- A call that another one leaves alone. -/
theorem Phase.Sound.frame (sound : phase.Sound calls d) (current : d'.current = d.current)
    (binary : ∀ version content, phase.activates version = true →
      d.binary version = some content → Delivers calls version content →
      ∃ content', d'.binary version = some content' ∧ Delivers calls version content') :
    phase.Sound calls d' := by
  cases phase with
  | promoting version =>
    obtain ⟨content, written, delivered⟩ := sound
    exact binary version content (by simp [activates]) written delivered
  | demoting version existingTarget =>
    obtain ⟨content, written, delivered⟩ := sound
    exact binary version content (by simp [activates]) written delivered
  | switching version =>
    obtain ⟨content, written, delivered⟩ := sound
    exact binary version content (by simp [activates]) written delivered
  | stamping version => exact current.trans sound
  | recording version now => exact current.trans sound
  | keepingPrevious link => exact Eq.trans sound current.symm
  | listing keep => exact fun version linked => sound version (current ▸ linked)
  | removing keep entry entries =>
    exact ⟨sound.1, fun version linked => sound.2 version (current ▸ linked)⟩
  | _ => exact sound

/-- A call that relies on no reading of `current`. -/
theorem Phase.Sound.switch (sound : phase.Sound calls d) (recorded : phase.unrecorded = false)
    (idle : phase.prunes = false) (target : Option String) :
    phase.Sound calls (d.setLink .current target) := by
  cases phase with
  | stamping version => cases recorded
  | recording version now => cases recorded
  | keepingPrevious link => cases idle
  | listing keep => cases idle
  | removing keep entry entries => cases idle
  | _ => exact sound

end Keeps

section Step

variable {initial : Disk} {calls : List (String × Bytes)} {pool next : Pool Machine Phase} {i : Nat}
  {phase : Phase}

theorem Orderly.switching {version : String} (orderly : Orderly pool i)
    (found : pool.threads[i]? = some (.switching version)) {other : Phase}
    (apart : other ∈ pool.others i) : other.unrecorded = false ∧ other.prunes = false := by
  simp only [Orderly, found, Bool.and_eq_true, Bool.not_eq_true'] at orderly
  exact orderly other apart

theorem Orderly.removing {keep entries : List String} {entry : String} (orderly : Orderly pool i)
    (found : pool.threads[i]? = some (.removing keep entry entries)) {other : Phase}
    (apart : other ∈ pool.others i) : other.activates entry = false := by
  simp only [Orderly, found, Bool.not_eq_true'] at orderly
  exact orderly other apart

theorem SoundPool.others (sound : SoundPool initial calls pool) (orderly : Orderly pool i)
    (found : pool.threads[i]? = some phase) {other : Phase} (apart : other ∈ pool.others i) :
    other.Sound calls (phase.change pool.state.disk) := by
  have own := sound.each phase ((Pool.mem_threads found _).mpr (.inl rfl))
  have relies := sound.each other ((Pool.mem_threads found _).mpr (.inr apart))
  by_cases switches : ∃ version, phase = .switching version
  · obtain ⟨version, rfl⟩ := switches
    obtain ⟨recorded, idle⟩ := orderly.switching found apart
    exact relies.switch recorded idle _
  · apply relies.frame (Phase.current_change (not_exists.mp switches))
    intro version content activates written delivered
    rcases phase.binary_change pool.state.disk version with
      same | ⟨binary, rfl, now⟩ | ⟨keep, entries, rfl⟩
    · exact ⟨content, same.trans written, delivered⟩
    · exact ⟨binary, now, own⟩
    · cases (orderly.removing found apart).symm.trans activates

theorem Complete.change {d : Disk} (complete : Complete calls d) (own : phase.Sound calls d)
    (other : ∀ version, phase ≠ .switching version) : Complete calls (phase.change d) := by
  obtain ⟨version, binary, linked, written, delivered⟩ := complete
  have linked' := (Phase.current_change other).trans linked
  rcases phase.binary_change d version with same | ⟨binary', rfl, now⟩ | ⟨keep, entries, rfl⟩
  · exact ⟨version, binary, linked', same.trans written, delivered⟩
  · exact ⟨version, binary', linked', now, own⟩
  · -- the release behind `current` is kept
    exact absurd (own.2 version linked) own.1

theorem SoundPool.step (sound : SoundPool initial calls pool) (orderly : Orderly pool i)
    (taken : pool.step Phase.move i = some next) : SoundPool initial calls next := by
  obtain ⟨phase, phase', found, moved, before, after⟩ := Pool.mem_of_step taken
  obtain ⟨rfl, disk⟩ := Phase.move_eq_some moved
  have own := sound.each phase ((before _).mpr (.inl rfl))
  -- a call that had replaced `current` had done so before this step, unless this step does
  have earlier : (∃ u ∈ next.threads, u.switched = true) →
      (∀ version, phase ≠ .switching version) → ∃ u ∈ pool.threads, u.switched = true := by
    rintro ⟨u, member, switched⟩ other
    rcases (after u).mp member with rfl | apart
    · rcases Phase.switched_next.mp switched with switched | ⟨version, same⟩
      · exact ⟨phase, (before _).mpr (.inl rfl), switched⟩
      · exact absurd same (other version)
    · exact ⟨u, (before u).mpr (.inr apart), switched⟩
  refine ⟨?each, ?complete, ?recorded, ?begun⟩
  case each =>
    intro u member
    rw [disk]
    rcases (after u).mp member with rfl | apart
    · exact own.next
    · exact sound.others orderly found apart
  case complete =>
    intro switched
    rw [disk]
    by_cases switches : ∃ version, phase = .switching version
    · obtain ⟨version, rfl⟩ := switches
      obtain ⟨binary, written, delivered⟩ := own
      exact ⟨version, binary, rfl, written, delivered⟩
    · have other := not_exists.mp switches
      exact (sound.complete (earlier switched other)).change own other
  case recorded =>
    intro switched
    rw [disk]
    by_cases records : ∃ version now, phase = .recording version now
    · obtain ⟨version, now, rfl⟩ := records
      exact .inr ⟨_, rfl, own⟩
    by_cases switches : ∃ version, phase = .switching version
    · exact .inl ⟨_, (after _).mpr (.inl rfl), Phase.unrecorded_next.mpr (.inl switches)⟩
    have other := not_exists.mp switches
    rcases sound.recorded (earlier switched other) with ⟨u, member, unrecorded⟩ | ⟨pending, stored, named⟩
    · left
      rcases (before u).mp member with rfl | apart
      · refine ⟨_, (after _).mpr (.inl rfl), Phase.unrecorded_next.mpr (.inr ?_)⟩
        cases u with
        | stamping version => exact ⟨version, rfl⟩
        | recording version now => exact absurd ⟨version, now, rfl⟩ records
        | _ => cases unrecorded
      · exact ⟨u, (after u).mpr (.inr apart), unrecorded⟩
    · right
      simp only [not_exists] at records
      exact ⟨pending, (Phase.pending_change records).trans stored,
        (Phase.current_change other).trans named⟩
  case begun =>
    by_cases underway : (phase.next pool.state).underway = true
    · exact .inl ⟨_, (after _).mpr (.inl rfl), underway⟩
    have idle : phase.underway = false := by
      by_contra busy
      exact underway (Phase.underway_next (Bool.not_eq_false _ ▸ busy))
    rcases sound.begun with ⟨u, member, busy⟩ | ⟨same, waiting⟩
    · rcases (before u).mp member with rfl | apart
      · cases idle.symm.trans busy
      · exact .inl ⟨u, (after u).mpr (.inr apart), busy⟩
    · refine .inr ⟨?_, ?_⟩
      · rw [disk, Phase.change_of_not_underway idle, same]
      · intro version binary called release upgrade
        rcases (before _).mp (waiting version binary called release upgrade) with rfl | apart
        · -- the call that looks now is accepted
          rw [Phase.next_looking_of_ok binary (same ▸ upgrade)] at underway
          exact absurd rfl underway
        · exact (after _).mpr (.inr apart)

end Step

/-! ## Every interleaving -/

/-- The calls, each about to start, on a directory. -/
def concurrentCalls (disk : Disk) (clock : Nat → Time) (calls : List (String × Bytes)) :
    Pool Machine (StoreProgram (Except GoError Unit)) :=
  { state := { disk, clock }
    threads := calls.map fun call => (stageAndActivate call.1 call.2).toProgram }

/-- The phases of `concurrentCalls`. -/
def callPhases (disk : Disk) (clock : Nat → Time) (calls : List (String × Bytes)) :
    Pool Machine Phase :=
  { state := { disk, clock }, threads := calls.map fun call => .call call.1 call.2 }

theorem map_callPhases (disk : Disk) (clock : Nat → Time) (calls : List (String × Bytes)) :
    (callPhases disk clock calls).map Phase.program = concurrentCalls disk clock calls := by
  simp [callPhases, concurrentCalls, Pool.map, Function.comp_def, Phase.program_call]

theorem soundPool_callPhases (disk : Disk) (clock : Nat → Time) (calls : List (String × Bytes)) :
    SoundPool disk calls (callPhases disk clock calls) := by
  have fresh : ∀ phase ∈ (callPhases disk clock calls).threads,
      (∃ e, phase = .returned (.error e)) ∨
        ∃ version binary, Delivers calls version binary ∧ phase = .looking version binary := by
    intro phase member
    obtain ⟨⟨text, binary⟩, called, rfl⟩ := List.mem_map.mp member
    unfold Phase.call
    cases checkRelease (trimSpace text) binary with
    | error e => exact .inl ⟨e, rfl⟩
    | ok checked => exact .inr ⟨trimSpace text, binary, ⟨text, called, rfl⟩, rfl⟩
  have unswitched : ¬ ∃ phase ∈ (callPhases disk clock calls).threads, phase.switched = true := by
    rintro ⟨phase, member, switched⟩
    rcases fresh phase member with ⟨e, rfl⟩ | ⟨version, binary, -, rfl⟩ <;> cases switched
  refine ⟨?each, fun switched => absurd switched unswitched,
    fun switched => absurd switched unswitched, .inr ⟨rfl, ?waiting⟩⟩
  case each =>
    intro phase member
    rcases fresh phase member with ⟨e, rfl⟩ | ⟨version, binary, delivered, rfl⟩
    · trivial
    · exact delivered
  case waiting =>
    intro version binary called release upgrade
    refine List.mem_map.mpr ⟨(version, binary), called, ?_⟩
    simp only [Phase.call, release]

/-- `StageAndActivate` accepts the release on the directory. -/
def Acceptable (d : Disk) (version : String) (binary : Bytes) : Prop :=
  checkRelease (trimSpace version) binary = .ok () ∧
    checkUpgrade (trimSpace version) d.current = .ok ()

/-- `current` resolves to a release with the complete binary that one of the calls
    delivered, or that it held before the calls, and the pending record names that
    release. -/
def Whole (initial : Disk) (calls : List (String × Bytes)) (d : Disk) : Prop :=
  ∃ version binary pending, d.current = some version ∧ d.binary version = some binary ∧
    (Delivers calls version binary ∨
      d.current = initial.current ∧ initial.binary version = some binary) ∧
    d.pending = .stored pending ∧ pending.version = version

theorem SoundPool.whole {initial : Disk} {calls : List (String × Bytes)}
    {pool : Pool Machine Phase} (sound : SoundPool initial calls pool)
    (returned : ∀ phase ∈ pool.threads, ∃ result, phase = .returned result)
    (worthwhile : (∃ version binary, (version, binary) ∈ calls ∧ Acceptable initial version binary) ∨
      Whole initial calls initial) : Whole initial calls pool.state.disk := by
  rcases sound.begun with ⟨phase, member, underway⟩ | ⟨same, waiting⟩
  · -- the call that passed its checks has returned without an error
    have switched : phase.switched = true := by
      obtain ⟨result, rfl⟩ := returned phase member
      exact underway
    obtain ⟨version, binary, linked, written, delivered⟩ := sound.complete ⟨phase, member, switched⟩
    rcases sound.recorded ⟨phase, member, switched⟩ with
      ⟨other, member', unrecorded⟩ | ⟨pending, stored, named⟩
    · obtain ⟨result, rfl⟩ := returned other member'
      cases unrecorded
    · refine ⟨version, binary, pending, linked, written, .inl delivered, stored, ?_⟩
      exact Option.some.inj (named.symm.trans linked)
  · rcases worthwhile with ⟨version, binary, called, release, upgrade⟩ | whole
    · obtain ⟨result, looking⟩ := returned _ (waiting version binary called release upgrade)
      cases looking
    · rw [same]; exact whole

/-- Where every interleaved step is orderly, and the store would accept one of the
    calls (or was whole to begin with), the store is whole when all calls have
    returned. -/
theorem concurrent_stages_whole {disk : Disk} {clock : Nat → Time}
    {calls : List (String × Bytes)} {schedule : List Nat}
    {pool : Pool Machine (StoreProgram (Except GoError Unit))}
    (run : replay (Pool.step (Program.move diskHandler)) (concurrentCalls disk clock calls) schedule =
      some pool)
    (orderly : Guarded (Pool.step Phase.move) Orderly (callPhases disk clock calls) schedule)
    (worthwhile : (∃ version binary, (version, binary) ∈ calls ∧ Acceptable disk version binary) ∨
      Whole disk calls disk)
    (returned : ∀ thread ∈ pool.threads, ∃ result, thread = .ret result) :
    Whole disk calls pool.state.disk := by
  rw [← map_callPhases, Pool.replay_map Phase.program_move] at run
  obtain ⟨phases, phasesRun, rfl⟩ := Option.map_eq_some_iff.mp run
  have sound : SoundPool disk calls phases :=
    replay_invariant (fun _ _ _ sound orderly taken => sound.step orderly taken)
      (soundPool_callPhases disk clock calls) orderly phasesRun
  apply sound.whole _ worthwhile
  intro phase member
  obtain ⟨result, ended⟩ := returned phase.program (List.mem_map_of_mem member)
  exact ⟨result, Phase.returned_of_program phases.state ended⟩

/-- What an observer of the store sees when a schedule is through: the version
    behind `current`, its binary, the version in the pending record and whether all
    calls have returned. -/
def concurrentOutcome (disk : Disk) (calls : List (String × Bytes)) (schedule : List Nat) :
    Option (Option String × Option Bytes × Option String × Bool) := do
  let pool ← replay (Pool.step (Program.move diskHandler))
    (concurrentCalls disk (fun _ => 0) calls) schedule
  return (pool.state.disk.current, pool.state.disk.current.bind pool.state.disk.binary,
    pool.state.disk.pending.record?.map (·.version),
    pool.threads.all fun thread => match thread with | .ret _ => true | .call _ _ => false)

theorem concurrentOutcome_eq_some {disk : Disk} {calls : List (String × Bytes)}
    {schedule : List Nat} {current : Option String} {binary : Option Bytes} {pending : Option String}
    (outcome : concurrentOutcome disk calls schedule = some (current, binary, pending, true)) :
    ∃ pool, replay (Pool.step (Program.move diskHandler))
        (concurrentCalls disk (fun _ => 0) calls) schedule = some pool ∧
      (∀ thread ∈ pool.threads, ∃ result, thread = .ret result) ∧
      pool.state.disk.current = current ∧
      pool.state.disk.current.bind pool.state.disk.binary = binary ∧
      pool.state.disk.pending.record?.map (·.version) = pending := by
  simp only [concurrentOutcome, Option.bind_eq_bind, Option.bind_eq_some_iff, Option.pure_def,
    Option.some.injEq, Prod.mk.injEq] at outcome
  obtain ⟨pool, run, seen, content, named, ended⟩ := outcome
  refine ⟨pool, run, ?_, seen, content, named⟩
  intro thread member
  have finished := List.all_eq_true.mp ended thread member
  cases thread with
  | ret result => exact ⟨result, rfl⟩
  | call op next => cases finished

/-- Two installs of different releases. -/
def twoInstalls : List (String × Bytes) := [("v1.0.0", [1]), ("v2.0.0", [2])]

/-- Both installs look at the store and create their directories; the first one
    goes through, removing the still empty directory of the second one. -/
theorem concurrent_stages_whole_of_two :
    ∃ pool, replay (Pool.step (Program.move diskHandler))
        (concurrentCalls {} (fun _ => 0) twoInstalls)
        ([0, 1, 0, 1] ++ List.replicate 9 0 ++ List.replicate 9 1) = some pool ∧
      Whole {} twoInstalls pool.state.disk := by
  have outcome : concurrentOutcome {} twoInstalls
      ([0, 1, 0, 1] ++ List.replicate 9 0 ++ List.replicate 9 1) =
        some (some "v2.0.0", some [2], some "v2.0.0", true) := by decide
  obtain ⟨pool, run, returned, -⟩ := concurrentOutcome_eq_some outcome
  refine ⟨pool, run, concurrent_stages_whole run (by decide) (.inl ?_) returned⟩
  exact ⟨"v1.0.0", [1], by decide, by decide, by decide⟩

/-- The second install has written its binary when the first one prunes: it then
    activates a release that is gone. -/
theorem concurrent_stages_dangling :
    ¬ ∀ (disk : Disk) (clock : Nat → Time) (calls : List (String × Bytes)) (schedule : List Nat)
        (pool : Pool Machine (StoreProgram (Except GoError Unit))),
      replay (Pool.step (Program.move diskHandler)) (concurrentCalls disk clock calls) schedule =
        some pool →
      (∃ version binary, (version, binary) ∈ calls ∧ Acceptable disk version binary) →
      (∀ thread ∈ pool.threads, ∃ result, thread = .ret result) →
      Whole disk calls pool.state.disk := by
  intro claim
  have outcome : concurrentOutcome {} twoInstalls
      ([0, 1, 0, 1, 0, 1] ++ List.replicate 8 0 ++ List.replicate 8 1) =
        some (some "v2.0.0", none, some "v2.0.0", true) := by decide
  obtain ⟨pool, run, returned, current, dangling, -⟩ := concurrentOutcome_eq_some outcome
  obtain ⟨version, binary, pending, linked, written, -⟩ :=
    claim _ _ _ _ pool run ⟨"v1.0.0", [1], by decide, by decide, by decide⟩ returned
  rw [linked, Option.bind_some, written] at dangling
  cases dangling

end Strom.Updates
