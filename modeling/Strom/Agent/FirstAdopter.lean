import Strom.Agent.Adopt

/-!
# The first adopter wins

Adopt requests as threads over the agent's files.  A request that finds no
`adoption.json` goes on to create it, however long that takes.  If the file is still
missing by then, at most one request succeeds and it is the one that is recorded
(`first_adopter_wins`).
-/

namespace Strom.Agent

open Strom.Go Strom.Effects Strom.Nutconf Strom.Adoption

/-! ## Stages -/

/-- Where a request stands with `adoption.json`. -/
inductive AdoptStage where
  | asking
  /-- The file is there and about to be read. -/
  | existing
  /-- The file holds this very request. -/
  | replaying
  /-- The file was not there. -/
  | missing
  /-- The file has been opened. -/
  | creating
  | stored (state : AdoptionState)
  | failed
  /-- An error was answered. -/
  | refused
  | succeeded (state : AdoptionState)
deriving DecidableEq

/-- The operations that neither write `adoption.json` nor answer. -/
def AgentOp.harmless : AgentOp → Bool
  | .truncate .adoption | .write .adoption _ | .rename .adoption _ | .respond _ _ => false
  | _ => true

/-- What the first adoption by a request writes. -/
def AdoptionState.records (state : AdoptionState) (a : RuntimeAdopter) (req : AdoptRequest) : Bool :=
  state = adoptionStateOf a req state.tlsFingerprint state.adoptedAt

variable (a : RuntimeAdopter)

def adoptNext (req : AdoptRequest) : AdoptStage → (op : AgentOp) → op.Reply → Option AdoptStage
  | .asking, .stat .adoption, reply =>
    match reply with
    | .ok _ => some .existing
    | .error e => some (if e.isNotExist then .missing else .failed)
  | .asking, .respond _ answer, _ => if answer.isOk then none else some .refused
  | .existing, .readFile .adoption, reply =>
    match reply with
    | .ok (.adoption state) => some (if state.isFor a req then .replaying else .failed)
    | _ => some .failed
  | .replaying, _, _ => some .replaying
  | .missing, .truncate .adoption, reply =>
    match reply with
    | .ok _ => some .creating
    | .error _ => some .failed
  | .missing, .respond _ answer, _ => if answer.isOk then none else some .refused
  | .missing, op, _ => if op.harmless then some .missing else none
  | .creating, .write .adoption (.adoption state), reply =>
    if state.records a req then
      match reply with
      | .ok _ => some (.stored state)
      | .error _ => some .failed
    else none
  | .stored state, .respond req' answer, _ =>
    if req' = req then some (if answer.isOk then .succeeded state else .refused) else none
  | .stored state, op, _ => if op.harmless then some (.stored state) else none
  | .failed, .respond _ answer, _ => if answer.isOk then none else some .refused
  | _, _, _ => none

def AdoptEnded (stage : AdoptStage) : Prop :=
  stage = .refused ∨ stage = .replaying ∨ ∃ state, stage = .succeeded state

/-! ## The program follows them -/

section Follows

variable {a} {req : AdoptRequest} {α β : Type}

theorem missing_stays (op : AgentOp) (reply : op.Reply) (harmless : op.harmless = true) :
    adoptNext a req .missing op reply = some .missing := by
  cases op with
  | truncate file | write file content | rename file content =>
    cases file <;> simp_all [adoptNext, AgentOp.harmless]
  | _ => simp_all [adoptNext, AgentOp.harmless]

theorem stored_stays {state : AdoptionState} (op : AgentOp) (reply : op.Reply)
    (harmless : op.harmless = true) :
    adoptNext a req (.stored state) op reply = some (.stored state) := by
  cases op <;> simp_all [adoptNext, AgentOp.harmless]

theorem harmless_of_file {op : AgentOp} {file : AgentFile} (about : op.file? = some file)
    (other : file ≠ .adoption) : op.harmless = true := by
  cases op with
  | truncate file' | write file' content | rename file' content =>
    simp only [AgentOp.file?, Option.some.injEq] at about
    subst about
    cases file' <;> simp_all [AgentOp.harmless]
  | _ => simp_all [AgentOp.file?, AgentOp.harmless]

theorem harmless_of_service {op : AgentOp} (service : op.isService = true) : op.harmless = true := by
  cases op <;> simp_all [AgentOp.isService, AgentOp.harmless]

theorem harmless_of_certificate {op : AgentOp} (about : op.onCertificate) : op.harmless = true := by
  rcases about with certificate | key | rfl
  · exact harmless_of_file certificate (by decide)
  · exact harmless_of_file key (by decide)
  · rfl

theorem follows_missing {ε : Type} {x : Action AgentOp AgentOp.Reply ε α}
    (only : Action.Only (fun op => op.harmless = true) x) :
    Action.Follows (adoptNext a req) x (fun stage _ => stage = .missing) .missing :=
  Program.Only.follows only missing_stays

theorem follows_stored {ε : Type} {x : Action AgentOp AgentOp.Reply ε α} {state : AdoptionState}
    (only : Action.Only (fun op => op.harmless = true) x) :
    Action.Follows (adoptNext a req) x (fun stage _ => stage = .stored state) (.stored state) :=
  Program.Only.follows only stored_stays

/-- Where `ApplyAdoption` can stand at its end: a success has stored its state. -/
def Concluded (stage : AdoptStage) (result : Except AdoptionError AdoptResponse) : Prop :=
  (∃ state, stage = .stored state) ∨
    result.isOk = false ∧ (stage = .missing ∨ stage = .failed)

/-- The state is written between the two halves of `os.WriteFile`. -/
theorem follows_writeAdoptionState {state : AdoptionState} (records : state.records a req = true) :
    Action.Follows (adoptNext a req) (plain (.wrap "write adoption config") (writeAdoptionState state))
      (fun stage result => match result with
        | .ok _ => stage = .stored state
        | .error _ => stage = .failed) .missing := by
  refine (Program.follows_bind _ _ _).mpr ?_
  intro opened
  cases opened with
  | error e => exact ⟨.failed, rfl, rfl⟩
  | ok _ =>
    refine ⟨.creating, rfl, ?_⟩
    intro written
    cases written with
    | error e => exact ⟨.failed, by simp [adoptNext, records], rfl⟩
    | ok _ => exact ⟨.stored state, by simp [adoptNext, records], rfl⟩

theorem follows_firstAdoption :
    Action.Follows (adoptNext a req) (firstAdoption a req) Concluded .missing := by
  have missing : ∀ {β : Type} {x : AdoptionAction β} {f : β → AdoptionAction AdoptResponse},
      Action.Only (fun op => op.harmless = true) x →
      (∀ value, Action.Follows (adoptNext a req) (f value) Concluded .missing) →
      Action.Follows (adoptNext a req) (x >>= f) Concluded .missing := by
    intro β x f only rest
    refine Action.Follows.bind (follows_missing only) ?_ ?_
    · intro stage value here
      subst here
      exact rest value
    · intro stage e here
      exact .inr ⟨rfl, .inl here⟩
  refine missing (only_always rfl) fun now => ?_
  refine missing (only_plain (only_ensureNodeCertificate a fun op => harmless_of_certificate)) ?_
  intro fingerprint
  refine missing (only_plain (only_call rfl id rfl)) fun _ => ?_
  have records : (adoptionStateOf a req fingerprint now).records a req = true := by
    simp [AdoptionState.records, adoptionStateOf]
  refine Action.Follows.bind (follows_writeAdoptionState records) ?_ ?_
  · intro stage _ here
    subst here
    -- what follows leaves the recorded state alone, whether or not it succeeds
    have only : Action.Only (fun op => op.harmless = true) (announceAdoption a req fingerprint) :=
      only_announceAdoption a req fingerprint (fun op about => harmless_of_file about (by decide))
        (fun op => harmless_of_service) (fun _ _ => ⟨rfl, rfl⟩)
    exact (follows_stored only).mono fun stage _ here => .inl ⟨_, here⟩
  · intro stage e here
    exact .inr ⟨rfl, .inr here⟩

/-- A request that is replayed may do anything. -/
theorem follows_replaying (p : AgentProgram α) :
    p.Follows (adoptNext a req) (fun stage _ => stage = .replaying) .replaying := by
  induction p with
  | ret value => rfl
  | call op next ih => exact fun reply => ⟨.replaying, rfl, ih reply⟩

/-- Where the handler can stand when it answers. -/
def Answers (stage : AdoptStage) (answer : AdoptAnswer) : Prop :=
  stage = .replaying ∨ (∃ state, stage = .stored state) ∨
    answer.isOk = false ∧ (stage = .asking ∨ stage = .missing ∨ stage = .failed)

theorem follows_replayAdoption : Action.Follows (adoptNext a req) (replayAdoption a req)
    (fun stage result => stage = .replaying ∨ result.isOk = false ∧ stage = .failed) .existing := by
  unfold replayAdoption
  refine Action.Follows.bind (R := fun stage result => match result with
    | .ok existing => stage = if existing.isFor a req then .replaying else .failed
    | .error _ => stage = .failed) ?_ ?_ ?_
  · intro reply
    match reply with
    | .ok (.adoption state) =>
      refine ⟨_, rfl, ?_⟩
      exact rfl
    | .ok (.text _) | .ok (.upsConf _ _) | .ok (.nameMap _) | .ok (.agentConfig _)
    | .ok (.certificate _) | .ok (.key _) | .error _ => exact ⟨.failed, rfl, rfl⟩
  · intro stage existing here
    by_cases same : existing.isFor a req
    · simp only [same, if_true] at here ⊢
      subst here
      exact (follows_replaying _).mono fun stage _ here => .inl here
    · simp only [same, Bool.false_eq_true, if_false] at here ⊢
      exact .inr ⟨rfl, here⟩
  · intro stage e here
    exact .inr ⟨rfl, here⟩

/-- The program is given by an equation, so that its uses need not unfold the handler. -/
theorem follows_handleAdopt {program : AgentProgram AdoptAnswer} (handler : handleAdopt a req = program) :
    program.Follows (adoptNext a req) Answers .asking := by
  subst handler
  unfold handleAdopt
  cases validateAdoptRequest req with
  | error e => exact .inr (.inr ⟨rfl, .inl rfl⟩)
  | ok _ =>
    refine (Program.follows_bind _ _ _).mpr ?_
    have applies : Action.Follows (adoptNext a req) (applyAdoption a req)
        (fun stage result => stage = .replaying ∨ (∃ state, stage = .stored state) ∨
          result.isOk = false ∧ (stage = .missing ∨ stage = .failed)) .asking := by
      unfold applyAdoption
      refine Action.Follows.bind_always (R := fun stage reply =>
        adoptNext a req .asking (.stat .adoption) reply = some stage) ?_ ?_
      · intro found
        cases found <;> exact ⟨_, rfl, rfl⟩
      intro stage found here
      cases found with
      | ok _ =>
        cases here
        refine Program.Follows.mono follows_replayAdoption ?_
        rintro stage result (here | ⟨failed, here⟩)
        · exact .inl here
        · exact .inr (.inr ⟨failed, .inr here⟩)
      | error e =>
        cases here
        by_cases absent : e.isNotExist
        · simp only [absent, if_true]
          refine Program.Follows.mono follows_firstAdoption ?_
          rintro stage result (here | here)
          · exact .inr (.inl here)
          · exact .inr (.inr here)
        · simp only [absent, Bool.false_eq_true, if_false]
          exact .inr (.inr ⟨rfl, .inr rfl⟩)
    refine Program.Follows.mono applies ?_
    rintro stage result (here | stored | ⟨failed, here⟩)
    · cases result <;> exact .inl here
    · cases result <;> exact .inr (.inl stored)
    · cases result with
      | ok response => cases failed
      | error e => exact .inr (.inr ⟨rfl, .inr here⟩)

theorem follows_adopt {program : AgentProgram Unit} (code : (Task.adopt req).code a = program) :
    program.Follows (adoptNext a req) (fun stage _ => AdoptEnded stage) .asking := by
  subst code
  rw [Task.code, Program.follows_bind]
  generalize handler : handleAdopt a req = program
  refine (follows_handleAdopt handler).mono ?_
  intro stage answer here
  rw [Program.follows_perform]
  intro reply
  rcases here with rfl | ⟨state, rfl⟩ | ⟨refused, rfl | rfl | rfl⟩
  · exact ⟨.replaying, rfl, .inr (.inl rfl)⟩
  · refine ⟨_, if_pos rfl, ?_⟩
    split
    · exact .inr (.inr ⟨state, rfl⟩)
    · exact .inl rfl
  · exact ⟨.refused, by simp [adoptNext, refused], .inl rfl⟩
  · exact ⟨.refused, by simp [adoptNext, refused], .inl rfl⟩
  · exact ⟨.refused, by simp [adoptNext, refused], .inl rfl⟩

end Follows

/-! ## All threads -/

def Task.next : Task → AdoptStage → (op : AgentOp) → op.Reply → Option AdoptStage
  | .adopt req => adoptNext a req
  | .event => fun stage op _ => if stage = .asking ∧ op.harmless then some .asking else none

def Task.ended : Task → AdoptStage → Prop
  | .adopt _ => AdoptEnded
  | .event => fun _ => True

theorem follows_code (task : Task) :
    (task.code a).Follows (task.next a) (fun stage _ => task.ended stage) .asking := by
  cases task with
  | adopt req =>
    generalize code : (Task.adopt req).code a = program
    exact follows_adopt code
  | event =>
    have only : iteration.Only fun op => op.harmless = true := by
      apply only_iteration
      · intro op reading
        cases op <;> simp_all [AgentOp.isReading, AgentOp.harmless]
      · intro op file about generated
        exact harmless_of_file about (by rintro rfl; simp [AgentFile.isGenerated] at generated)
      · exact fun op => harmless_of_service
      · exact fun _ _ => ⟨rfl, rfl⟩
    change iteration.Follows _ _ _
    generalize iteration = program at only ⊢
    refine (Program.Only.follows only ?_).mono fun _ _ _ => trivial
    intro op reply harmless
    exact if_pos ⟨rfl, harmless⟩

/-- The request has opened `adoption.json` and has not failed since. -/
def AdoptStage.owns : AdoptStage → Bool
  | .creating | .stored _ | .succeeded _ => true
  | _ => false

/-- The request is beyond asking whether the file exists and reading it. -/
def AdoptStage.past : AdoptStage → Bool
  | .asking | .existing | .replaying | .missing => false
  | _ => true

def AdoptStage.state? : AdoptStage → Option AdoptionState
  | .stored state | .succeeded state => some state
  | _ => none

/-- The requests that were answered with success. -/
def Node.successes (node : Node) : List (AdoptRequest × AdoptAnswer) :=
  node.answers.filter fun answer => answer.2.isOk

/-- Only the owner has written `adoption.json`, and only it has succeeded. -/
structure Claimed (places : List (Task × AdoptStage)) (node : Node) (owner : Option Nat) : Prop where
  unopened : node.files .adoption = none → owner = none
  owns : ∀ (i : Nat) (task : Task) (stage : AdoptStage), places[i]? = some (task, stage) → stage.owns = true → owner = some i
  file : node.files .adoption = none ∨ node.files .adoption = some .empty ∨
    ∃ state, node.files .adoption = some (.adoption state) ∧ ∃ (i : Nat) (req : AdoptRequest) (stage : AdoptStage),
      places[i]? = some (Task.adopt req, stage) ∧ stage.past = true ∧ state.records a req = true
  creating : ∀ (i : Nat) (task : Task), places[i]? = some (task, AdoptStage.creating) →
    node.files .adoption = some .empty
  mine : ∀ (i : Nat) (task : Task) (stage : AdoptStage) (state : AdoptionState),
    places[i]? = some (task, stage) → stage.state? = some state →
    node.files .adoption = some (.adoption state) ∧ ∃ req, task = .adopt req ∧
      state.records a req = true
  fresh : ∀ (i : Nat) (task : Task), places[i]? ≠ some (task, AdoptStage.replaying)
  successes : node.successes = [] ∨ ∃ (i : Nat) (req : AdoptRequest) (state : AdoptionState) (response : AdoptResponse),
    places[i]? = some (Task.adopt req, AdoptStage.succeeded state) ∧ node.successes = [(req, .ok response)]

variable {a} {places : List (Task × AdoptStage)} {node node' : Node} {owner : Option Nat} {i : Nat}
  {task : Task} {stage stage' : AdoptStage}

theorem getElem?_set_cases {α : Type} {l : List α} {i j : Nat} {x y : α}
    (found : (l.set i x)[j]? = some y) : i = j ∧ y = x ∨ i ≠ j ∧ l[j]? = some y := by
  by_cases same : i = j
  · subst same
    rw [List.getElem?_set_self'] at found
    cases inside : l[i]? <;> simp_all
  · rw [List.getElem?_set_ne same] at found
    exact .inr ⟨same, found⟩

/-- A step that changes neither the file nor who succeeded. -/
theorem Claimed.silent (claimed : Claimed a places node owner)
    (found : places[i]? = some (task, stage))
    (file : node'.files .adoption = node.files .adoption)
    (successes : node'.successes = node.successes)
    (owns : stage'.owns = true → stage.owns = true)
    (creating : stage' = .creating → stage = .creating)
    (state : ∀ state, stage'.state? = some state → stage.state? = some state)
    (past : stage.past = true → stage'.past = true) (fresh : stage' ≠ .replaying)
    (unsuccessful : ∀ state, stage ≠ .succeeded state) :
    Claimed a (places.set i (task, stage')) node' owner := by
  have inside : i < places.length := (List.getElem?_eq_some_iff.mp found).1
  have kept : ∀ j entry, i ≠ j → places[j]? = some entry →
      (places.set i (task, stage'))[j]? = some entry := by
    intro j entry apart here
    rw [List.getElem?_set_ne apart]
    exact here
  constructor
  · rw [file]
    exact claimed.unopened
  · intro j task' stage'' here ownsIt
    rcases getElem?_set_cases here with ⟨rfl, same⟩ | ⟨-, here⟩
    · cases same
      exact claimed.owns i task stage found (owns ownsIt)
    · exact claimed.owns j task' stage'' here ownsIt
  · rw [file]
    rcases claimed.file with absent | empty | ⟨st, holds, j, req, stage'', here, beyond, records⟩
    · exact .inl absent
    · exact .inr (.inl empty)
    · refine .inr (.inr ⟨st, holds, j, req, ?_⟩)
      by_cases same : i = j
      · subst same
        rw [found] at here
        cases here
        exact ⟨stage', by rw [List.getElem?_set_self inside], past beyond, records⟩
      · exact ⟨stage'', kept j _ same here, beyond, records⟩
  · intro j task' here
    rw [file]
    rcases getElem?_set_cases here with ⟨rfl, same⟩ | ⟨-, here⟩
    · simp only [Prod.mk.injEq] at same
      exact claimed.creating i task (creating same.2.symm ▸ found)
    · exact claimed.creating j task' here
  · intro j task' stage'' st here has
    rw [file]
    rcases getElem?_set_cases here with ⟨rfl, same⟩ | ⟨-, here⟩
    · cases same
      exact claimed.mine i task stage st found (state st has)
    · exact claimed.mine j task' stage'' st here has
  · intro j task' here
    rcases getElem?_set_cases here with ⟨rfl, same⟩ | ⟨-, here⟩
    · simp only [Prod.mk.injEq] at same
      exact fresh same.2.symm
    · exact claimed.fresh j task' here
  · rw [successes]
    rcases claimed.successes with none_ | ⟨j, req, st, response, here, only⟩
    · exact .inl none_
    · refine .inr ⟨j, req, st, response, kept j _ ?_ here, only⟩
      rintro rfl
      rw [found] at here
      cases here
      exact unsuccessful st rfl

/-- The file is opened while nobody owns it; the request owns it if that went well. -/
theorem Claimed.opened (claimed : Claimed a places node owner) (absent : node.files .adoption = none)
    (file : node'.files .adoption = some .empty) (successes : node'.successes = node.successes)
    (went : stage' = .creating ∨ stage' = .failed) :
    Claimed a (places.set i (task, stage')) node' (some i) := by
  have nobody : owner = none := claimed.unopened absent
  have free : ∀ (j : Nat) (task : Task) (stage : AdoptStage), places[j]? = some (task, stage) →
      stage.owns = false := by
    intro j task stage here
    by_contra owning
    have mine := claimed.owns j task stage here (by simpa using owning)
    simp [nobody] at mine
  have stateless : ∀ state, stage'.state? ≠ some state := by
    rcases went with rfl | rfl <;> simp [AdoptStage.state?]
  constructor
  · simp [file]
  · intro j task' stage'' here owning
    rcases getElem?_set_cases here with ⟨rfl, -⟩ | ⟨-, here⟩
    · rfl
    · simp [free j task' stage'' here] at owning
  · exact .inr (.inl file)
  · exact fun _ _ _ => file
  · intro j task' stage'' state here has
    rcases getElem?_set_cases here with ⟨rfl, same⟩ | ⟨-, here⟩
    · cases same
      exact absurd has (stateless state)
    · have idle := free j task' stage'' here
      cases stage'' <;> simp_all [AdoptStage.owns, AdoptStage.state?]
  · intro j task' here
    rcases getElem?_set_cases here with ⟨rfl, same⟩ | ⟨-, here⟩
    · simp only [Prod.mk.injEq] at same
      rcases went with rfl | rfl <;> simp at same
    · exact claimed.fresh j task' here
  · rw [successes]
    rcases claimed.successes with none_ | ⟨j, req, state, response, here, -⟩
    · exact .inl none_
    · simpa [AdoptStage.owns] using free j _ _ here

/-- The owner writes its state, or fails to. -/
theorem Claimed.wrote {req : AdoptRequest} {state : AdoptionState}
    (claimed : Claimed a places node owner)
    (found : places[i]? = some (.adopt req, .creating)) (records : state.records a req = true)
    (file : node'.files .adoption = some (.adoption state))
    (successes : node'.successes = node.successes)
    (went : stage' = .stored state ∨ stage' = .failed) :
    Claimed a (places.set i (.adopt req, stage')) node' owner := by
  have inside : i < places.length := (List.getElem?_eq_some_iff.mp found).1
  have mine : owner = some i := claimed.owns i _ _ found rfl
  -- nobody else owns the file
  have free : ∀ (j : Nat) (task : Task) (stage : AdoptStage), i ≠ j →
      places[j]? = some (task, stage) → stage.owns = false := by
    intro j task stage apart here
    by_contra owning
    have other := claimed.owns j task stage here (by simpa using owning)
    simp only [mine, Option.some.injEq] at other
    exact apart other
  constructor
  · simp [file]
  · intro j task' stage'' here owning
    rcases getElem?_set_cases here with ⟨rfl, -⟩ | ⟨-, here⟩
    · exact mine
    · exact claimed.owns j task' stage'' here owning
  · refine .inr (.inr ⟨state, file, i, req, stage', List.getElem?_set_self inside, ?_, records⟩)
    rcases went with rfl | rfl <;> rfl
  · intro j task' here
    rcases getElem?_set_cases here with ⟨rfl, same⟩ | ⟨apart, here⟩
    · simp only [Prod.mk.injEq] at same
      rcases went with rfl | rfl <;> simp at same
    · simpa [AdoptStage.owns] using free j task' _ apart here
  · intro j task' stage'' state' here has
    rcases getElem?_set_cases here with ⟨rfl, same⟩ | ⟨apart, here⟩
    · cases same
      rcases went with rfl | rfl
      · cases has
        exact ⟨file, req, rfl, records⟩
      · cases has
    · have idle := free j task' stage'' apart here
      cases stage'' <;> simp_all [AdoptStage.owns, AdoptStage.state?]
  · intro j task' here
    rcases getElem?_set_cases here with ⟨rfl, same⟩ | ⟨-, here⟩
    · simp only [Prod.mk.injEq] at same
      rcases went with rfl | rfl <;> simp at same
    · exact claimed.fresh j task' here
  · rw [successes]
    rcases claimed.successes with none_ | ⟨j, req', state', response, here, -⟩
    · exact .inl none_
    · by_cases same : i = j
      · subst same
        rw [found] at here
        simp at here
      · simpa [AdoptStage.owns] using free j _ _ same here

/-- The owner answers with success, the first one to do so. -/
theorem Claimed.answered {req : AdoptRequest} {state : AdoptionState} {response : AdoptResponse}
    (claimed : Claimed a places node owner)
    (found : places[i]? = some (.adopt req, .stored state))
    (file : node'.files .adoption = node.files .adoption)
    (successes : node'.successes = node.successes ++ [(req, .ok response)]) :
    Claimed a (places.set i (.adopt req, .succeeded state)) node' owner := by
  have inside : i < places.length := (List.getElem?_eq_some_iff.mp found).1
  have mine : owner = some i := claimed.owns i _ _ found rfl
  have none_ : node.successes = [] := by
    rcases claimed.successes with none_ | ⟨j, req', state', response', here, -⟩
    · exact none_
    · have other := claimed.owns j _ _ here rfl
      rw [mine] at other
      cases other
      rw [found] at here
      simp at here
  have silent : Claimed a (places.set i (.adopt req, .succeeded state))
      { node' with answers := node.answers } owner := by
    refine claimed.silent found file rfl (fun _ => rfl) (by simp) ?_ (fun _ => rfl) (by simp) (by simp)
    intro state' has
    exact has
  refine { silent with successes := .inr ⟨i, req, state, response, List.getElem?_set_self inside, ?_⟩ }
  rw [successes, none_, List.nil_append]

/-! ## One step -/

theorem harmless_keeps {op : AgentOp} (harmless : op.harmless = true) (chance : Chance) (node : Node) :
    (perform op chance node).2.files .adoption = node.files .adoption ∧
      (perform op chance node).2.answers = node.answers := by
  constructor
  · apply perform_keeps_file
    cases op with
    | truncate file | write file content | rename file content =>
      cases file <;> simp_all [AgentOp.changes?, AgentOp.harmless]
    | _ => simp [AgentOp.changes?]
  · cases op with
    | log failed => rfl
    | respond request answer => cases harmless
    | _ => exact (perform_keeps_reports rfl chance node).2

theorem harmless_keeps_successes {op : AgentOp} (harmless : op.harmless = true) {chance : Chance}
    {reply : op.Reply} (performed : perform op chance node = (reply, node')) :
    node'.files .adoption = node.files .adoption ∧ node'.successes = node.successes := by
  have kept := harmless_keeps harmless chance node
  rw [performed] at kept
  exact ⟨kept.1, congrArg (List.filter _) kept.2⟩

/-- An answer that is an error is no success. -/
theorem refusal_keeps {request : AdoptRequest} {answer : AdoptAnswer} {chance : Chance} {reply : Unit}
    (refusal : answer.isOk = false)
    (performed : perform (.respond request answer) chance node = (reply, node')) :
    node'.files .adoption = node.files .adoption ∧ node'.successes = node.successes := by
  cases performed
  simp [Node.successes, refusal]

/-- The moves of a request. -/
inductive AdoptMoves (a : RuntimeAdopter) (req : AdoptRequest) :
    AdoptStage → (op : AgentOp) → op.Reply → AdoptStage → Prop
  | look (op : AgentOp) (reply : op.Reply) (stage' : AdoptStage) (harmless : op.harmless = true)
      (next : stage' = .existing ∨ stage' = .missing ∨ stage' = .failed) :
      AdoptMoves a req .asking op reply stage'
  | recognise (state : AdoptionState) (same : state.isFor a req = true) :
      AdoptMoves a req .existing (.readFile .adoption) (.ok (.adoption state)) .replaying
  | reject (reply : Except GoError Content) :
      AdoptMoves a req .existing (.readFile .adoption) reply .failed
  | wait (op : AgentOp) (reply : op.Reply) (harmless : op.harmless = true) :
      AdoptMoves a req .missing op reply .missing
  | opened : AdoptMoves a req .missing (.truncate .adoption) (.ok ()) .creating
  | unopened (e : GoError) : AdoptMoves a req .missing (.truncate .adoption) (.error e) .failed
  | wrote (state : AdoptionState) (records : state.records a req = true) :
      AdoptMoves a req .creating (.write .adoption (.adoption state)) (.ok ()) (.stored state)
  | unwritten (state : AdoptionState) (records : state.records a req = true) (e : GoError) :
      AdoptMoves a req .creating (.write .adoption (.adoption state)) (.error e) .failed
  | keep (state : AdoptionState) (op : AgentOp) (reply : op.Reply) (harmless : op.harmless = true) :
      AdoptMoves a req (.stored state) op reply (.stored state)
  | refuse (stage : AdoptStage) (req' : AdoptRequest) (answer : AdoptAnswer)
      (refusal : answer.isOk = false)
      (from_ : stage = .asking ∨ stage = .missing ∨ stage = .failed ∨ ∃ state, stage = .stored state) :
      AdoptMoves a req stage (.respond req' answer) () .refused
  | succeed (state : AdoptionState) (response : AdoptResponse) :
      AdoptMoves a req (.stored state) (.respond req (.ok response)) () (.succeeded state)
  | replay (op : AgentOp) (reply : op.Reply) : AdoptMoves a req .replaying op reply .replaying

theorem adoptMoves_of_next {req : AdoptRequest} {op : AgentOp} {reply : op.Reply}
    (reached : adoptNext a req stage op reply = some stage') : AdoptMoves a req stage op reply stage' := by
  cases stage with
  | asking =>
    cases op with
    | stat file =>
      cases file <;> simp [adoptNext] at reached
      cases reply with
      | ok _ => cases reached; exact .look _ _ _ rfl (.inl rfl)
      | error e =>
        simp only [Option.some.injEq] at reached
        split_ifs at reached <;> subst reached
        · exact .look _ _ _ rfl (.inr (.inl rfl))
        · exact .look _ _ _ rfl (.inr (.inr rfl))
    | respond req' answer =>
      simp only [adoptNext] at reached
      split_ifs at reached with ok
      cases reached
      exact .refuse _ _ _ (by simpa using ok) (.inl rfl)
    | _ => cases reached
  | existing =>
    cases op with
    | readFile file =>
      cases file <;> simp [adoptNext] at reached
      match reply with
      | .ok (.adoption state) =>
        simp only [Option.some.injEq] at reached
        split_ifs at reached with same <;> subst reached
        · exact .recognise state same
        · exact .reject _
      | .ok (.text _) | .ok (.upsConf _ _) | .ok (.nameMap _) | .ok (.agentConfig _)
      | .ok (.certificate _) | .ok (.key _) | .error _ => cases reached; exact .reject _
    | _ => cases reached
  | replaying => cases reached; exact .replay _ _
  | missing =>
    by_cases harmless : op.harmless = true
    · rw [missing_stays op reply harmless] at reached
      cases reached
      exact .wait _ _ harmless
    · cases op with
      | truncate file =>
        cases file <;> simp [adoptNext, AgentOp.harmless] at reached harmless
        cases reply with
        | ok _ => cases reached; exact .opened
        | error e => cases reached; exact .unopened e
      | respond req' answer =>
        simp only [adoptNext] at reached
        split_ifs at reached with ok
        cases reached
        exact .refuse _ _ _ (by simpa using ok) (.inr (.inl rfl))
      | write file content | rename file content =>
        cases file <;> simp [adoptNext, AgentOp.harmless] at reached harmless
      | _ => simp [AgentOp.harmless] at harmless
  | creating =>
    cases op with
    | write file content =>
      cases file <;> cases content <;> simp [adoptNext] at reached
      obtain ⟨records, reached⟩ := reached
      cases reply with
      | ok _ => cases reached; exact .wrote _ records
      | error e => cases reached; exact .unwritten _ records e
    | _ => cases reached
  | stored state =>
    by_cases harmless : op.harmless = true
    · rw [stored_stays op reply harmless] at reached
      cases reached
      exact .keep _ _ _ harmless
    · cases op with
      | respond req' answer =>
        simp only [adoptNext] at reached
        cases answer with
        | ok response =>
          simp only [Except.isOk, Except.toBool, if_true] at reached
          split_ifs at reached with same
          subst same
          cases reached
          exact .succeed _ _
        | error e =>
          simp only [Except.isOk, Except.toBool, Bool.false_eq_true, if_false] at reached
          split_ifs at reached
          cases reached
          exact .refuse _ req' (.error e) rfl (.inr (.inr (.inr ⟨_, rfl⟩)))
      | truncate file | write file content | rename file content =>
        cases file <;> simp [adoptNext, AgentOp.harmless] at reached harmless
      | _ => simp [AgentOp.harmless] at harmless
  | failed =>
    cases op with
    | respond req' answer =>
      simp only [adoptNext] at reached
      split_ifs at reached with ok
      cases reached
      exact .refuse _ _ _ (by simpa using ok) (.inr (.inr (.inl rfl)))
    | _ => cases reached
  | refused => cases op <;> cases reached
  | succeeded state => cases op <;> cases reached

theorem claimed_step {op : AgentOp} {chance : Chance} {reply : op.Reply}
    (claimed : Claimed a places node owner) (found : places[i]? = some (task, stage))
    (reached : task.next a stage op reply = some stage')
    (performed : perform op chance node = (reply, node'))
    (unclaimed : op = .truncate .adoption → node.files .adoption = none)
    (apart : ∀ (j : Nat) (req req' : AdoptRequest) (stage : AdoptStage) (state : AdoptionState),
      task = .adopt req → places[j]? = some (.adopt req', stage) → j ≠ i →
      state.records a req' = true → state.isFor a req = false) :
    ∃ owner, Claimed a (places.set i (task, stage')) node' owner := by
  cases task with
  | event =>
    simp only [Task.next] at reached
    split_ifs at reached with asking
    cases reached
    obtain ⟨rfl, harmless⟩ := asking
    obtain ⟨file, successes⟩ := harmless_keeps_successes harmless performed
    exact ⟨owner, claimed.silent found file successes id (by simp) (fun _ => id) id (by simp) (by simp)⟩
  | adopt req =>
    cases adoptMoves_of_next reached with
    | look _ _ _ harmless next =>
      obtain ⟨file, successes⟩ := harmless_keeps_successes harmless performed
      refine ⟨owner, claimed.silent found file successes ?_ ?_ ?_ ?_ ?_ (by simp)⟩ <;>
        rcases next with rfl | rfl | rfl <;> simp [AdoptStage.owns, AdoptStage.state?, AdoptStage.past]
    | recognise state same =>
      -- the state is recorded by another request, whose secrets differ
      obtain ⟨holds, -⟩ := readFile_ok performed
      rcases claimed.file with absent | empty | ⟨st, recorded, j, req', stage, here, past, records⟩
      · simp [holds] at absent
      · simp [holds, Content.empty] at empty
      · rw [holds] at recorded
        cases recorded
        have other : j ≠ i := by
          rintro rfl
          rw [found] at here
          cases here
          cases past
        rw [apart j req req' stage state rfl here other records] at same
        cases same
    | reject =>
      obtain ⟨file, successes⟩ := harmless_keeps_successes rfl performed
      exact ⟨owner, claimed.silent found file successes (by simp [AdoptStage.owns]) (by simp)
        (by simp [AdoptStage.state?]) (fun _ => rfl) (by simp) (by simp)⟩
    | wait _ _ harmless =>
      obtain ⟨file, successes⟩ := harmless_keeps_successes harmless performed
      exact ⟨owner, claimed.silent found file successes id id (fun _ => id) id (by simp) (by simp)⟩
    | keep state _ _ harmless =>
      obtain ⟨file, successes⟩ := harmless_keeps_successes harmless performed
      exact ⟨owner, claimed.silent found file successes id id (fun _ => id) id (by simp) (by simp)⟩
    | opened =>
      cases fault : chance.fault with
      | none =>
        simp only [perform_truncate, Chance.call_of_none fault, Prod.mk.injEq] at performed
        obtain ⟨-, rfl⟩ := performed
        exact ⟨some i, claimed.opened (unclaimed rfl) (by simp [Node.put]) rfl (.inl rfl)⟩
      | some f => simp [fault] at performed
    | unopened e =>
      cases fault : chance.fault with
      | none => simp [fault] at performed
      | some f =>
        simp only [perform_truncate, Chance.call_of_some fault, Prod.mk.injEq] at performed
        obtain ⟨-, rfl⟩ := performed
        cases applied : f.applied with
        | true => exact ⟨some i, claimed.opened (unclaimed rfl) (by simp [Node.put]) rfl (.inr rfl)⟩
        | false =>
          exact ⟨owner, claimed.silent found rfl rfl (by simp [AdoptStage.owns]) (by simp)
            (by simp [AdoptStage.state?]) (fun _ => rfl) (by simp) (by simp)⟩
    | wrote state records =>
      have empty := claimed.creating i _ found
      cases fault : chance.fault with
      | none =>
        simp only [perform_write, Chance.call_of_none fault, Prod.mk.injEq] at performed
        obtain ⟨-, rfl⟩ := performed
        exact ⟨owner, claimed.wrote found records (by simp [Node.put, Chance.written, empty]) rfl
          (.inl rfl)⟩
      | some f => simp [fault] at performed
    | unwritten state records e =>
      have empty := claimed.creating i _ found
      cases fault : chance.fault with
      | none => simp [fault] at performed
      | some f =>
        simp only [perform_write, Chance.call_of_some fault, Prod.mk.injEq] at performed
        obtain ⟨-, rfl⟩ := performed
        cases applied : f.applied with
        | true =>
          exact ⟨owner, claimed.wrote found records (by simp [Node.put, Chance.written, empty]) rfl
            (.inr rfl)⟩
        | false =>
          exact ⟨owner, claimed.silent found rfl rfl (by simp [AdoptStage.owns]) (by simp)
            (by simp [AdoptStage.state?]) (fun _ => rfl) (by simp) (by simp)⟩
    | refuse _ _ answer refusal from_ =>
      obtain ⟨file, successes⟩ := refusal_keeps refusal performed
      refine ⟨owner, claimed.silent found file successes (by simp [AdoptStage.owns]) (by simp)
        (by simp [AdoptStage.state?]) (fun _ => rfl) (by simp) ?_⟩
      rcases from_ with rfl | rfl | rfl | ⟨state, rfl⟩ <;> simp
    | succeed state response =>
      cases performed
      have successes : Node.successes { node with answers := node.answers ++ [(req, .ok response)] } =
          node.successes ++ [(req, .ok response)] := by
        simp [Node.successes, Except.isOk, Except.toBool]
      exact ⟨owner, claimed.answered found rfl successes⟩
    | replay => exact absurd found (claimed.fresh i _)

/-! ## All interleavings -/

/-- The requests carry different credentials. -/
def Differ (req req' : AdoptRequest) : Prop :=
  req.apiToken ≠ req'.apiToken ∨ req.nutUser ≠ req'.nutUser ∨ req.nutPassword ≠ req'.nutPassword

theorem Differ.symm {req req' : AdoptRequest} (differ : Differ req req') : Differ req' req := by
  rcases differ with token | user | password
  · exact .inl (Ne.symm token)
  · exact .inr (.inl (Ne.symm user))
  · exact .inr (.inr (Ne.symm password))

/-- A state of one request is not the other's. -/
theorem isFor_of_differ {req req' : AdoptRequest} {state : AdoptionState} (differ : Differ req req')
    (collisionFree : a.digests.token req.apiToken = a.digests.token req'.apiToken →
      req.apiToken = req'.apiToken)
    (records : state.records a req' = true) : state.isFor a req = false := by
  simp only [AdoptionState.records, decide_eq_true_eq] at records
  by_contra same
  simp only [AdoptionState.isFor, Bool.not_eq_false, Bool.and_eq_true, decide_eq_true_eq] at same
  obtain ⟨⟨⟨token, user⟩, password⟩, -⟩ := same
  rw [records] at token user password
  rcases differ with differs | differs | differs
  · exact differs (collisionFree token.symm)
  · exact differs user.symm
  · exact differs password.symm

/-- `adoption.json` is still missing when a request comes to create it. -/
def Unclaimed (pool : AgentPool) (turn : Turn Chance) : Bool :=
  match Runtime.opOf pool turn with
  | some (.truncate .adoption) => (pool.state.files .adoption).isNone
  | _ => true

theorem claimed_run {node : Node} {tasks : List Task} {schedule : List (Turn Chance)}
    {pool : AgentPool} (absent : node.files .adoption = none) (unanswered : node.answers = [])
    (apart : ∀ (i j : Nat) (req req' : AdoptRequest) (state : AdoptionState),
      tasks[i]? = some (.adopt req) → tasks[j]? = some (.adopt req') → j ≠ i →
      state.records a req' = true → state.isFor a req = false)
    (run : replay (runtime a).step ((runtime a).start node tasks) schedule = some pool)
    (guarded : Guarded (runtime a).step (fun pool turn => Unclaimed pool turn = true)
      ((runtime a).start node tasks) schedule) :
    ∃ places owner, Claimed a places pool.state owner := by
  have kept := replay_invariant (I := fun pool => ∃ places owner,
    Runtime.Staged (Task.next a) Task.ended places pool.threads ∧ places.map Prod.fst = tasks ∧
      Claimed a places pool.state owner) ?_ ?_ guarded run
  · obtain ⟨places, owner, -, -, claimed⟩ := kept
    exact ⟨places, owner, claimed⟩
  · intro pool turn next ⟨places, owner, staged, same, claimed⟩ unclaimed taken
    obtain ⟨task, stage, op, reply, stage', found, issues, reached, performed, staged'⟩ :=
      Runtime.step_staged (follows_code a) staged taken
    have started : Runtime.places (fun _ => AdoptStage.asking) ((runtime a).starts op) = [] := rfl
    rw [started, List.append_nil] at staged'
    have taskAt : ∀ {j : Nat} {entry : Task × AdoptStage}, places[j]? = some entry →
        tasks[j]? = some entry.1 := by
      intro j entry here
      rw [← same, List.getElem?_map, here]
      rfl
    obtain ⟨owner', claimed'⟩ := claimed_step claimed found reached (Option.some.inj performed)
      (by
        rintro rfl
        simpa [Unclaimed, issues] using unclaimed)
      (by
        rintro j req req' stage'' state rfl here other records
        exact apart turn.thread j req req' state (taskAt found) (taskAt here) other records)
    refine ⟨_, owner', staged', ?_, claimed'⟩
    obtain ⟨inside, taskThere⟩ := List.getElem?_eq_some_iff.mp (taskAt found)
    change tasks[turn.thread] = task at taskThere
    rw [List.map_set, same, ← taskThere, List.set_getElem_self]
  · refine ⟨_, none, Runtime.staged_launch (follows_code a) tasks, ?_, ?_⟩
    · simp [Runtime.places, Function.comp_def]
    have asking : ∀ (i : Nat) (task : Task) (stage : AdoptStage),
        (Runtime.places (fun _ => AdoptStage.asking) tasks)[i]? = some (task, stage) →
        stage = .asking := by
      intro i task stage here
      simp only [Runtime.places, List.getElem?_map, Option.map_eq_some_iff, Prod.mk.injEq] at here
      obtain ⟨_, _, _, rfl⟩ := here
      rfl
    constructor
    · exact fun _ => rfl
    · intro i task stage here owning
      rw [asking i task stage here] at owning
      cases owning
    · exact .inl absent
    · intro i task here
      cases asking i task _ here
    · intro i task stage state here has
      rw [asking i task stage here] at has
      cases has
    · intro i task here
      cases asking i task _ here
    · exact .inl (by simp [Node.successes, Runtime.start, unanswered])

/-- Whatever the interleaving of adopt requests with different credentials and of the
    main loop's events: if a request that found no `adoption.json` creates it only while
    it is still missing, at most one request succeeds, and the adoption that is stored is
    the one of that request. -/
theorem first_adopter_wins {node : Node} {tasks : List Task} {schedule : List (Turn Chance)}
    {pool : AgentPool} (absent : node.files .adoption = none) (unanswered : node.answers = [])
    (differ : tasks.Pairwise fun task task' => ∀ req req',
      task = .adopt req → task' = .adopt req' → Differ req req')
    (collisionFree : ∀ req req', Task.adopt req ∈ tasks → Task.adopt req' ∈ tasks →
      a.digests.token req.apiToken = a.digests.token req'.apiToken → req.apiToken = req'.apiToken)
    (run : replay (runtime a).step ((runtime a).start node tasks) schedule = some pool)
    (guarded : Guarded (runtime a).step (fun pool turn => Unclaimed pool turn = true)
      ((runtime a).start node tasks) schedule) :
    pool.state.successes.length ≤ 1 ∧ ∀ req response,
      (req, .ok response) ∈ pool.state.answers → ∃ state,
        pool.state.files .adoption = some (.adoption state) ∧ state.records a req = true := by
  have apart : ∀ (i j : Nat) (req req' : AdoptRequest) (state : AdoptionState),
      tasks[i]? = some (.adopt req) → tasks[j]? = some (.adopt req') → j ≠ i →
      state.records a req' = true → state.isFor a req = false := by
    intro i j req req' state here there other
    have differs : Differ req req' := by
      obtain ⟨inside, at_⟩ := List.getElem?_eq_some_iff.mp here
      obtain ⟨inside', at'⟩ := List.getElem?_eq_some_iff.mp there
      have pairs := List.pairwise_iff_getElem.mp differ
      rcases Nat.lt_or_gt_of_ne other with before | after
      · exact (pairs j i inside' inside before req' req at' at_).symm
      · exact pairs i j inside inside' after req req' at_ at'
    exact isFor_of_differ differs (collisionFree req req' (List.mem_of_getElem? here)
      (List.mem_of_getElem? there))
  obtain ⟨places, owner, claimed⟩ := claimed_run absent unanswered apart run guarded
  constructor
  · rcases claimed.successes with none_ | ⟨_, _, _, _, _, only⟩
    · simp [none_]
    · simp [only]
  · intro req response member
    have succeeded : (req, Except.ok response) ∈ pool.state.successes :=
      List.mem_filter.mpr ⟨member, rfl⟩
    rcases claimed.successes with none_ | ⟨i, req', state, response', here, only⟩
    · simp [none_] at succeeded
    · rw [only, List.mem_singleton] at succeeded
      cases succeeded
      obtain ⟨holds, req', same, records⟩ := claimed.mine i _ _ state here rfl
      cases same
      exact ⟨state, holds, records⟩

/-! ## Two requests -/

def adoptTasks : List Task := [.adopt (requestOf "t1"), .adopt (requestOf "t2")]

theorem first_adopter_wins_of_two : ∃ pool,
    replay (runtime adopter1).step ((runtime adopter1).start {} adoptTasks)
        (calmTurns 0 22 ++ calmTurns 1 3) = some pool ∧
      pool.state.successes.length ≤ 1 := by
  have run : (replay (runtime adopter1).step ((runtime adopter1).start {} adoptTasks)
      (calmTurns 0 22 ++ calmTurns 1 3)).isSome := by decide +kernel
  obtain ⟨pool, run⟩ := Option.isSome_iff_exists.mp run
  refine ⟨pool, run, (first_adopter_wins rfl rfl ?_ ?_ run (by decide +kernel)).1⟩
  · simp [adoptTasks, Differ, requestOf]
  · simp [adoptTasks, adopter1, requestOf]

/-- How many requests have succeeded when a schedule is through. -/
def successCount (node : Node) (tasks : List Task) (schedule : List (Turn Chance)) : Option Nat :=
  (replay (runtime adopter1).step ((runtime adopter1).start node tasks) schedule).map fun pool =>
    pool.state.successes.length

/-- Both requests find no `adoption.json`, and both create it and succeed. -/
theorem two_adopters_succeed :
    ¬ ∀ (a : RuntimeAdopter) (node : Node) (tasks : List Task) (schedule : List (Turn Chance))
        (pool : AgentPool), node.files .adoption = none → node.answers = [] →
      (tasks.Pairwise fun task task' => ∀ req req',
        task = .adopt req → task' = .adopt req' → Differ req req') →
      (∀ req req', Task.adopt req ∈ tasks → Task.adopt req' ∈ tasks →
        a.digests.token req.apiToken = a.digests.token req'.apiToken → req.apiToken = req'.apiToken) →
      replay (runtime a).step ((runtime a).start node tasks) schedule = some pool →
      pool.state.successes.length ≤ 1 := by
  intro claim
  have outcome : successCount {} adoptTasks
      (calmTurns 0 1 ++ calmTurns 1 1 ++ calmTurns 0 13 ++ calmTurns 1 16 ++ calmTurns 0 8) = some 2 := by
    decide +kernel
  obtain ⟨pool, run, two⟩ := Option.map_eq_some_iff.mp outcome
  have one := claim adopter1 {} adoptTasks _ pool rfl rfl (by simp [adoptTasks, Differ, requestOf])
    (by simp [adoptTasks, adopter1, requestOf]) run
  omega

end Strom.Agent
