import Strom.Agent.Advertiser

/-!
# The phases of an adoption

How far an adoption has come with `adoption.json` and with telling the advertiser.
Every program of the agent goes from phase to phase as `Phase.next` says, and stops
in a phase where nothing is left half done.
-/

namespace Strom.Agent

open Strom.Go Strom.Effects Strom.Nutconf Strom.Adoption

inductive Phase where
  /-- Nothing is known of `adoption.json`. -/
  | asking
  /-- An adoption state has been read. -/
  | known
  /-- `adoption.json` has been emptied, by a first adoption or by a replay. -/
  | opened (first : Bool)
  /-- A first adoption is recorded and not announced. -/
  | recorded
  | finished
deriving DecidableEq

/-- The operations that neither change `adoption.json` nor tell the advertiser. -/
def AgentOp.calm : AgentOp → Bool
  | .truncate .adoption | .write .adoption _ | .rename .adoption _ | .updateAdopted _ => false
  | _ => true

/-- The operations of `announceAdoption` that can make it fail. -/
def AgentOp.announces : AgentOp → Bool
  | .readFile .upsdUsers | .mkdirAll .upsdUsers | .stageTemp .upsdUsers _ | .rename .upsdUsers _
  | .chmod .upsdUsers | .systemctl _ _ => true
  | _ => false

/-- The replies that make it fail. -/
def AgentOp.refused : (op : AgentOp) → op.Reply → Bool
  | .readFile _, .error e => !e.isNotExist
  | .mkdirAll _, .error _ | .stageTemp _ _, .error _ | .rename _ _, .error _ | .chmod _, .error _
  | .systemctl _ _, .error _ => true
  | _, _ => false

def Phase.next : Phase → (op : AgentOp) → op.Reply → Option Phase
  | .asking, .readFile .adoption, reply =>
    match reply with
    | .ok (.adoption _) => some .known
    | _ => some .finished
  | .asking, .truncate .adoption, reply => some (if reply.isOk then .opened true else .finished)
  | .known, .truncate .adoption, reply => some (if reply.isOk then .opened false else .finished)
  | .opened first, .write .adoption (.adoption _), reply =>
    some (if reply.isOk && first then .recorded else .finished)
  | .recorded, .updateAdopted true, _ => some .finished
  | .recorded, .updateNUTCredentials _, _ => some .recorded
  | .recorded, op, reply =>
    if op.announces then some (if op.refused reply then .finished else .recorded) else none
  | .asking, op, _ => if op.calm then some .asking else none
  | .known, op, _ => if op.calm then some .known else none
  | .finished, op, _ => if op.calm then some .finished else none
  | _, _, _ => none

/-- The phases in which an adoption may not stop. -/
def Phase.busy : Phase → Bool
  | .opened _ | .recorded => true
  | _ => false

def Task.phase : Task → Phase
  | .adopt _ => .asking
  | .event => .finished

def Idle (phase : Phase) : Prop := phase.busy = false

/-! ## The program goes through them -/

section Follows

variable {α : Type} {phase : Phase} {ε : Type}

theorem stays (unbusy : phase.busy = false) (op : AgentOp) (reply : op.Reply)
    (calm : op.calm = true) (unread : phase = .asking → op ≠ .readFile .adoption) :
    phase.next op reply = some phase := by
  cases phase with
  | opened first | recorded => cases unbusy
  | asking | known | finished =>
    cases op with
    | readFile file | truncate file | write file content | rename file content =>
      cases file <;> simp_all [Phase.next, AgentOp.calm]
    | _ => simp_all [Phase.next, AgentOp.calm]

theorem follows_calm {x : Action AgentOp AgentOp.Reply ε α} (unbusy : phase.busy = false)
    (only : Action.Only (fun op => op.calm = true ∧ op ≠ .readFile .adoption) x) :
    Action.Follows Phase.next x (fun phase' _ => phase' = phase) phase :=
  Program.Only.follows only fun op reply allowed => stays unbusy op reply allowed.1 fun _ => allowed.2

/-- Failing ends an announcement, and nothing else does. -/
def Ongoing {α : Type} (phase : Phase) (result : Except ε α) : Prop :=
  match result with
  | .ok _ => phase = .recorded
  | .error _ => phase = .finished

theorem recorded_next {op : AgentOp} (reply : op.Reply) (announces : op.announces = true) :
    Phase.recorded.next op reply = some (if op.refused reply then .finished else .recorded) := by
  cases op with
  | readFile file | mkdirAll file | stageTemp file content | rename file content | chmod file =>
    cases file <;> simp_all [Phase.next, AgentOp.announces]
  | systemctl action unit => rfl
  | _ => cases announces

/-- One call of an announcement. -/
theorem follows_announcing {op : AgentOp} (same : op.Reply = Except GoError α)
    (wrapping : GoError → GoError) (announces : op.announces = true)
    (refused : ∀ reply : op.Reply, op.refused reply = !(same ▸ reply : Except GoError α).isOk) :
    Action.Follows Phase.next (call op same wrapping) Ongoing .recorded := by
  intro reply
  refine ⟨_, recorded_next reply announces, ?_⟩
  have ends : ∀ result : Except GoError α, op.refused reply = !result.isOk →
      Ongoing (if op.refused reply then .finished else .recorded) (result.mapError wrapping) := by
    intro result agree
    cases result <;> simp_all [Ongoing, Except.isOk, Except.toBool, Except.mapError]
  exact ends _ (refused reply)

/-- The steps of an announcement in turn. -/
theorem Ongoing.bind {β : Type} {x : Action AgentOp AgentOp.Reply ε α}
    {f : α → Action AgentOp AgentOp.Reply ε β}
    (first : Action.Follows Phase.next x Ongoing .recorded)
    (rest : ∀ value, Action.Follows Phase.next (f value) Ongoing .recorded) :
    Action.Follows Phase.next (x >>= f) Ongoing .recorded := by
  refine Action.Follows.bind first ?_ ?_
  · intro phase value here
    rw [show phase = .recorded from here]
    exact rest value
  · intro phase e here
    exact here

theorem Ongoing.plain {wrapping : GoError → GoError} {x : AgentAction α}
    (follows : Action.Follows Phase.next x Ongoing .recorded) :
    Action.Follows Phase.next (plain wrapping x) Ongoing .recorded := by
  refine (Program.follows_bind _ _ _).mpr (follows.mono ?_)
  intro phase result here
  cases result <;> exact here

theorem follows_writeUsers (content : Content) :
    Action.Follows Phase.next (writeIfChanged .upsdUsers content) Ongoing .recorded := by
  have replaces : Action.Follows Phase.next (writeIfChanged.replaceFile .upsdUsers content)
      Ongoing .recorded := by
    refine Ongoing.bind (follows_announcing rfl _ rfl fun reply => ?_) fun _ => ?_
    · cases reply <;> rfl
    refine Ongoing.bind (follows_announcing rfl _ rfl fun reply => ?_) fun _ => ?_
    · cases reply <;> rfl
    refine Ongoing.bind (follows_announcing rfl _ rfl fun reply => ?_) fun _ => ?_
    · cases reply <;> rfl
    refine Ongoing.bind (follows_announcing rfl _ rfl fun reply => ?_) fun _ => rfl
    cases reply <;> rfl
  unfold writeIfChanged
  refine Action.Follows.bind_always (R := fun phase reply =>
    phase = if AgentOp.refused (.readFile .upsdUsers) reply then .finished else .recorded) ?_ ?_
  · intro reply
    exact ⟨_, recorded_next reply rfl, rfl⟩
  intro phase reply here
  subst here
  cases reply with
  | ok old =>
    simp only [AgentOp.refused, Bool.false_eq_true, if_false]
    split
    · rfl
    · exact replaces
  | error e =>
    by_cases absent : e.isNotExist = true
    · simpa [AgentOp.refused, absent] using replaces
    · simp only [AgentOp.refused, absent]
      rfl

theorem follows_announceAdoption {a : RuntimeAdopter} (req : AdoptRequest) (fingerprint : String) :
    Action.Follows Phase.next (announceAdoption a req fingerprint)
      (fun phase _ => phase = .finished) .recorded := by
  unfold announceAdoption
  refine Action.Follows.bind (Ongoing.plain (follows_writeUsers _)) ?_ fun _ _ here => here
  intro phase _ here
  rw [show phase = .recorded from here]
  have reloads : Action.Follows Phase.next (reload true []) Ongoing .recorded := by
    refine follows_announcing rfl _ rfl fun reply => ?_
    cases reply <;> rfl
  refine Action.Follows.bind (Ongoing.plain reloads) ?_ fun _ _ here => here
  intro phase _ here
  rw [show phase = .recorded from here]
  -- from here on nothing fails
  exact fun _ => ⟨.recorded, rfl, fun _ => ⟨.finished, rfl, rfl⟩⟩

/-- `os.WriteFile` of `adoption.json`. -/
theorem follows_write (first : Bool) (state : AdoptionState)
    (opens : ∀ reply, phase.next (.truncate .adoption) reply =
      some (if reply.isOk then .opened first else .finished)) (wrapping : GoError → GoError) :
    Action.Follows Phase.next (plain wrapping (writeAdoptionState state))
      (fun phase result => match result with
        | .ok _ => phase = if first then .recorded else .finished
        | .error _ => phase = .finished) phase := by
  refine (Program.follows_bind _ _ _).mpr ?_
  intro opened
  refine ⟨_, opens opened, ?_⟩
  cases opened with
  | error e => rfl
  | ok _ =>
    intro written
    refine ⟨_, rfl, ?_⟩
    cases written <;> rfl

end Follows

/-! ## All of an adoption -/

section Adoption

variable {a : RuntimeAdopter} {req : AdoptRequest} {α : Type}

theorem calm_of_certificate {op : AgentOp} (about : op.onCertificate) :
    op.calm = true ∧ op ≠ .readFile .adoption := by
  obtain certificate | key | rfl := about
  · cases op <;> simp_all [AgentOp.file?, AgentOp.calm]
  · cases op <;> simp_all [AgentOp.file?, AgentOp.calm]
  · simp [AgentOp.calm]

theorem follows_ensureNodeCertificate {phase : Phase} (unbusy : phase.busy = false)
    (wrapping : GoError → GoError) :
    Action.Follows Phase.next (plain wrapping (ensureNodeCertificate a))
      (fun phase' _ => phase' = phase) phase :=
  follows_calm unbusy (only_plain (only_ensureNodeCertificate a fun _ => calm_of_certificate))

/-- Every part of an adoption ends where it may. -/
def Rests {β : Type} (phase : Phase) (_ : β) : Prop := phase.busy = false

theorem Rests.bind {β ε : Type} {phase : Phase} {x : Action AgentOp AgentOp.Reply ε α}
    {f : α → Action AgentOp AgentOp.Reply ε β} (unbusy : phase.busy = false)
    (first : Action.Follows Phase.next x (fun phase' _ => phase' = phase) phase)
    (rest : ∀ value, Action.Follows Phase.next (f value) Rests phase) :
    Action.Follows Phase.next (x >>= f) Rests phase := by
  refine Action.Follows.bind first ?_ ?_
  · intro phase' value here
    rw [here]
    exact rest value
  · intro phase' e here
    rw [here]
    exact unbusy

theorem follows_firstAdoption_phases :
    Action.Follows Phase.next (firstAdoption a req) Rests .asking := by
  unfold firstAdoption
  refine Rests.bind rfl (follows_calm rfl (only_always ⟨rfl, by simp⟩)) fun now => ?_
  refine Rests.bind rfl (follows_ensureNodeCertificate rfl _) fun fingerprint => ?_
  refine Rests.bind rfl (follows_calm rfl (only_plain (only_call rfl id ⟨rfl, by simp⟩))) fun _ => ?_
  refine Action.Follows.bind (follows_write true _ (fun _ => rfl) _) ?_ ?_
  · intro phase _ here
    rw [show phase = .recorded from here]
    refine (follows_announceAdoption req fingerprint).mono ?_
    intro phase _ here
    rw [here]
    rfl
  · intro phase e here
    rw [show phase = .finished from here]
    rfl

theorem follows_replayAdoption_phases :
    Action.Follows Phase.next (replayAdoption a req) Rests .asking := by
  unfold replayAdoption
  refine Action.Follows.bind (R := fun phase result => match result with
    | .ok _ => phase = .known
    | .error _ => phase = .finished) ?_ ?_ ?_
  · intro reply
    match reply with
    | .ok (.adoption state) => exact ⟨.known, rfl, rfl⟩
    | .ok (.text _) | .ok (.upsConf _ _) | .ok (.nameMap _) | .ok (.agentConfig _)
    | .ok (.certificate _) | .ok (.key _) | .error _ => exact ⟨.finished, rfl, rfl⟩
  · intro phase existing here
    rw [show phase = .known from here]
    have unbusy : Phase.known.busy = false := rfl
    have rewrites : ∀ (state : AdoptionState) (response : AdoptResponse),
        Action.Follows Phase.next (plain (.wrap "write adoption config") (writeAdoptionState state) >>=
          fun _ => pure response) Rests .known := by
      intro state response
      refine Action.Follows.bind (follows_write false _ (fun _ => rfl) _) ?_ ?_
      · intro phase _ here
        rw [show phase = .finished from here]
        rfl
      · intro phase e here
        rw [show phase = .finished from here]
        rfl
    dsimp only
    generalize (if existing.tlsPort = 0 then a.tlsPort else existing.tlsPort) = tlsPort
    split
    · split
      · refine Rests.bind unbusy (follows_ensureNodeCertificate unbusy _) fun fingerprint => ?_
        split
        · exact rewrites _ _
        · rfl
      · refine Rests.bind unbusy rfl fun fingerprint => ?_
        split
        · exact rewrites _ _
        · rfl
    · rfl
  · intro phase e here
    rw [show phase = .finished from here]
    rfl

theorem follows_applyAdoption_phases :
    Action.Follows Phase.next (applyAdoption a req) Rests .asking := by
  unfold applyAdoption
  refine Rests.bind rfl (follows_calm rfl (only_always ⟨rfl, by simp⟩)) fun found => ?_
  cases found with
  | ok _ => exact follows_replayAdoption_phases
  | error e =>
    dsimp only
    split
    · exact follows_firstAdoption_phases
    · rfl

theorem follows_adopt_phases {program : AgentProgram Unit} (code : (Task.adopt req).code a = program) :
    program.Follows Phase.next (fun phase _ => phase.busy = false) .asking := by
  subst code
  have handled : (handleAdopt a req).Follows Phase.next Rests .asking := by
    unfold handleAdopt
    cases validateAdoptRequest req with
    | error e => rfl
    | ok _ =>
      refine (Program.follows_bind _ _ _).mpr (Program.Follows.mono follows_applyAdoption_phases ?_)
      intro phase result rests
      cases result <;> exact rests
  rw [Task.code, Program.follows_bind]
  refine handled.mono ?_
  intro phase answer rests
  rw [Program.follows_perform]
  exact fun reply => ⟨phase, stays rests _ reply rfl (by simp), rests⟩

end Adoption

def Task.turns : Task → Phase → (op : AgentOp) → op.Reply → Option Phase
  | .adopt _ => Phase.next
  | .event => fun phase op _ => if phase = .finished ∧ op.calm then some .finished else none

theorem follows_code_phases (a : RuntimeAdopter) (task : Task) :
    (task.code a).Follows task.turns (fun phase _ => Idle phase) task.phase := by
  cases task with
  | adopt req =>
    generalize code : (Task.adopt req).code a = program
    exact follows_adopt_phases code
  | event =>
    have only : iteration.Only fun op => op.calm = true := by
      apply only_iteration
      · intro op reading
        cases op <;> simp_all [AgentOp.isReading, AgentOp.calm]
      · intro op file about generated
        cases op <;> simp_all [AgentOp.file?, AgentOp.calm] <;> cases file <;>
          simp_all [AgentFile.isGenerated]
      · intro op service
        cases op <;> simp_all [AgentOp.isService, AgentOp.calm]
      · exact fun _ _ => ⟨rfl, rfl⟩
    change iteration.Follows _ _ _
    generalize iteration = program at only ⊢
    refine (Program.Only.follows only ?_).mono ?_
    · exact fun op reply calm => if_pos ⟨rfl, calm⟩
    · intro phase _ here
      rw [here]
      rfl

/-! ## What a turn does -/

/-- Every way to go from one phase to the next. -/
inductive Moves : Phase → (op : AgentOp) → op.Reply → Phase → Prop where
  | stay (phase : Phase) (op : AgentOp) (reply : op.Reply) (calm : op.calm = true) :
      Moves phase op reply phase
  | read (state : AdoptionState) :
      Moves .asking (.readFile .adoption) (.ok (.adoption state)) .known
  | drop (reply : Except GoError Content) : Moves .asking (.readFile .adoption) reply .finished
  | opens (phase : Phase) (first : Bool) (knows : first = false → phase = .known)
      (unbusy : phase.busy = false) : Moves phase (.truncate .adoption) (.ok ()) (.opened first)
  | unopened (phase : Phase) (unbusy : phase.busy = false) (e : GoError) :
      Moves phase (.truncate .adoption) (.error e) .finished
  | wrote (first : Bool) (state : AdoptionState) :
      Moves (.opened first) (.write .adoption (.adoption state)) (.ok ())
        (if first then .recorded else .finished)
  | unwritten (first : Bool) (state : AdoptionState) (e : GoError) :
      Moves (.opened first) (.write .adoption (.adoption state)) (.error e) .finished
  | announce : Moves .recorded (.updateAdopted true) () .finished
  | fail (op : AgentOp) (reply : op.Reply) (announces : op.announces = true)
      (refused : op.refused reply = true) : Moves .recorded op reply .finished

theorem calm_of_announces {op : AgentOp} (announces : op.announces = true) : op.calm = true := by
  cases op with
  | rename file content => cases file <;> simp_all [AgentOp.announces, AgentOp.calm]
  | _ => simp_all [AgentOp.announces, AgentOp.calm]

theorem moves_of_next {phase phase' : Phase} {op : AgentOp} {reply : op.Reply}
    (reached : phase.next op reply = some phase') : Moves phase op reply phase' := by
  by_cases calm : op.calm = true ∧ phase.busy = false ∧ (phase = .asking → op ≠ .readFile .adoption)
  · obtain ⟨calm, unbusy, unread⟩ := calm
    rw [stays unbusy op reply calm unread] at reached
    cases reached
    exact .stay _ _ _ calm
  cases phase with
  | asking =>
    cases op with
    | readFile file =>
      cases file <;> simp [AgentOp.calm, Phase.busy] at calm
      match reply with
      | .ok (.adoption state) => cases reached; exact .read state
      | .ok (.text _) | .ok (.upsConf _ _) | .ok (.nameMap _) | .ok (.agentConfig _)
      | .ok (.certificate _) | .ok (.key _) | .error _ => cases reached; exact .drop _
    | truncate file =>
      cases file <;> simp [AgentOp.calm, Phase.busy] at calm
      cases reply with
      | ok _ => cases reached; exact .opens _ true (by simp) rfl
      | error e => cases reached; exact .unopened _ rfl e
    | write file content | rename file content =>
      cases file <;> simp_all [AgentOp.calm, Phase.busy, Phase.next]
    | _ => simp_all [AgentOp.calm, Phase.busy, Phase.next]
  | known =>
    cases op with
    | truncate file =>
      cases file <;> simp [AgentOp.calm, Phase.busy] at calm
      cases reply with
      | ok _ => cases reached; exact .opens _ false (fun _ => rfl) rfl
      | error e => cases reached; exact .unopened _ rfl e
    | write file content | rename file content =>
      cases file <;> simp_all [AgentOp.calm, Phase.busy, Phase.next]
    | _ => simp_all [AgentOp.calm, Phase.busy, Phase.next]
  | opened first =>
    cases op with
    | write file content =>
      cases file <;> cases content <;> simp only [Phase.next, reduceCtorEq] at reached
      cases reply with
      | ok _ => cases first <;> cases reached <;> exact .wrote _ _
      | error e => cases reached; exact .unwritten _ _ e
    | _ => cases reached
  | recorded =>
    by_cases announces : op.announces = true
    · rw [recorded_next reply announces] at reached
      cases refused : op.refused reply with
      | false =>
        simp only [refused, Bool.false_eq_true, if_false, Option.some.injEq] at reached
        rw [← reached]
        exact .stay _ _ _ (calm_of_announces announces)
      | true =>
        simp only [refused, if_true, Option.some.injEq] at reached
        rw [← reached]
        exact .fail _ _ announces refused
    · cases op with
      | updateAdopted adopted =>
        cases adopted
        · simp [Phase.next, AgentOp.announces] at reached
        · cases reached
          exact .announce
      | updateNUTCredentials user =>
        cases reached
        exact .stay _ _ _ rfl
      | _ => simp_all [Phase.next]
  | finished =>
    cases op with
    | truncate file | write file content | rename file content =>
      cases file <;> simp_all [AgentOp.calm, Phase.busy, Phase.next]
    | _ => simp_all [AgentOp.calm, Phase.busy, Phase.next]

end Strom.Agent
