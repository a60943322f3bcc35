import Strom.Agent.FirstAdopter
import Strom.Handshake.Model

/-!
# Stages of an adoption

What an attempt of the controller and a handler of the agent have done so far.  An attempt succeeds
only as `trusted`: its request was answered with 200, its token was sealed, and the sealed token
was stored.  A handler answers with success only where `adoption.json` holds its request, because
the handler has written it (`stored`) or read it (`replaying`).
-/

namespace Strom.Handshake

open Strom.Go Strom.Effects Strom.Registry Strom.Adoption Strom.Agent

/-! ## Attempts -/

inductive AttemptStage where
  | drawing
  | drawn (nutPassword : String)
  /-- The request is fixed, and is sent until it is answered. -/
  | asking (body : AdoptRequest)
  | accepted (body : AdoptRequest)
  | tokenSealed (body : AdoptRequest) (text : String)
  | trusted
  | failed
deriving DecidableEq

/-- The body that `adoptNode` sends. -/
def bodyOf (call : Call) (nutPassword apiToken : String) : AdoptRequest where
  caPEM := call.caPEM
  nutUser := "controller"
  nutPassword := nutPassword
  apiToken := apiToken
  controllerURL := controllerURLFromRequest call.host

/-- What an attempt does beside sending and receiving, until its request is answered. -/
def isWaiting : ControllerOp → Bool
  | .newRequest _ | .contextErr | .waitForRetry _ => true
  | _ => false

/-- What an attempt does once the trust is stored. -/
def Finishing : ControllerOp → Prop
  | .setNodeAdopted _ _ | .listNodes | .snapshot | .upsertDiscoveredNode _ | .getNode _
  | .listNodeUPSSummaries _ => True
  | _ => False

instance : (op : ControllerOp) → Decidable (Finishing op)
  | .setNodeAdopted _ _ | .listNodes | .snapshot | .upsertDiscoveredNode _ | .getNode _
  | .listNodeUPSSummaries _ => .isTrue trivial
  | .randomSecret _ | .newRequest _ | .send _ _ | .receive | .contextErr | .waitForRetry _ | .health _ _ _ _
  | .sealString _ | .saveNodeTrust _ _ | .deleteNode _ => .isFalse id

/-- The operations that leave the trust of every row as it is. -/
def KeepsTrust : ControllerOp → Prop
  | .saveNodeTrust _ _ | .deleteNode _ | .send _ _ | .receive => False
  | _ => True

theorem keepsTrust_of_finishing {op : ControllerOp} (finishing : Finishing op) : KeepsTrust op := by
  cases op <;> simp_all [Finishing, KeepsTrust]

def attemptNext (call : Call) : AttemptStage → (op : ControllerOp) → op.Reply → Option AttemptStage
  | .drawing, .randomSecret _, reply =>
    match reply with
    | .ok nutPassword => some (.drawn nutPassword)
    | .error _ => some .failed
  | .drawn nutPassword, .randomSecret _, reply =>
    match reply with
    | .ok apiToken => some (.asking (bodyOf call nutPassword apiToken))
    | .error _ => some .failed
  | .asking body, .send _ body', _ => if body' = body then some (.asking body) else none
  | .asking body, .receive, reply =>
    match reply with
    | .ok answer => some (if answer.status = 200 then .accepted body else .asking body)
    | .error _ => some (.asking body)
  | .asking body, op, _ => if isWaiting op then some (.asking body) else none
  | .accepted body, .health _ _ _ _, _ => some (.accepted body)
  | .accepted body, .sealString value, reply =>
    if value = body.apiToken then
      match reply with
      | .ok sealedToken => some (.tokenSealed body sealedToken.text)
      | .error _ => some .failed
    else none
  | .tokenSealed body text, .sealString _, _ => some (.tokenSealed body text)
  | .tokenSealed _ text, .saveNodeTrust id trust, reply =>
    if id = call.node.id ∧ trust.apiTokenEnc = text then
      match reply with
      | .ok _ => some .trusted
      | .error _ => some .failed
    else none
  | .trusted, op, _ => if Finishing op then some .trusted else none
  | _, _, _ => none

section Attempts

variable {call : Call} {α β : Type}

/-- A success has stored the trust. -/
def OnlyTrusted (stage : AttemptStage) (result : Except AdoptError α) : Prop :=
  result.isOk = true → stage = .trusted

theorem trusted_stays (op : ControllerOp) (reply : op.Reply) (finishing : Finishing op) :
    attemptNext call .trusted op reply = some .trusted := by
  simp [attemptNext, finishing]

theorem asking_stays {body : AdoptRequest} (op : ControllerOp) (reply : op.Reply) (waiting : isWaiting op = true) :
    attemptNext call (.asking body) op reply = some (.asking body) := by
  cases op <;> simp_all [attemptNext, isWaiting]

/-- A part that cannot fail without the whole failing. -/
theorem follows_part {stage : AttemptStage} {x : ControllerAction α} {f : α → ControllerAction β}
    {R : AttemptStage → α → Prop}
    (first : Action.Follows (attemptNext call) x (fun stage result => ∀ value, result = .ok value → R stage value) stage)
    (rest : ∀ stage value, R stage value → Action.Follows (attemptNext call) (f value) OnlyTrusted stage) :
    Action.Follows (attemptNext call) (x >>= f) OnlyTrusted stage := by
  refine Action.Follows.bind first ?_ ?_
  · exact fun stage value post => rest stage value (post value rfl)
  · exact fun stage e _ ok => by cases ok

theorem follows_adoptAttempt (url : String) (body : AdoptRequest) (last : Bool) :
    Action.Follows (attemptNext call) (adoptAttempt url body last)
      (fun stage result => match result with
        | .ok (.accepted _) => stage = .accepted body
        | _ => stage = .asking body) (.asking body) := by
  unfold adoptAttempt
  refine Action.Follows.bind (R := fun stage _ => stage = .asking body) ?_ ?_ ?_
  · exact fun reply => ⟨.asking body, asking_stays _ _ rfl, rfl⟩
  · rintro stage _ rfl
    refine Action.Follows.bind_always (R := fun stage _ => stage = .asking body) ?_ ?_
    · exact fun _ => ⟨.asking body, if_pos rfl, rfl⟩
    rintro stage _ rfl
    refine Action.Follows.bind_always (R := fun stage reply => stage = match reply with
      | .ok answer => if answer.status = 200 then .accepted body else .asking body
      | .error _ => .asking body) ?_ ?_
    · intro reply
      cases reply <;> exact ⟨_, rfl, rfl⟩
    · intro stage reply here
      cases reply with
      | error e =>
        subst here
        cases last with
        | true => exact rfl
        | false =>
          refine Action.Follows.bind_always (R := fun stage _ => stage = .asking body) ?_ ?_
          · exact fun _ => ⟨.asking body, asking_stays _ _ rfl, rfl⟩
          rintro stage _ rfl
          exact rfl
      | ok answer =>
        simp only at here
        dsimp only
        split_ifs at here ⊢ <;> exact here
  · rintro stage e rfl
    rfl

theorem follows_adoptExchange (url : String) (body : AdoptRequest) (left : Nat) :
    Action.Follows (attemptNext call) (adoptExchange url body left)
      (fun stage result => result.isOk = true → stage = .accepted body) (.asking body) := by
  induction left with
  | zero =>
    refine Action.Follows.bind (follows_adoptAttempt url body true) ?_ ?_
    · intro stage attempt here
      cases attempt with
      | accepted reply => exact fun _ => here
      | rejected e again => exact fun ok => by cases ok
    · exact fun stage e _ ok => by cases ok
  | succ left ih =>
    refine Action.Follows.bind (follows_adoptAttempt url body false) ?_ ?_
    · intro stage attempt here
      match attempt with
      | .accepted reply => exact fun _ => here
      | .rejected e false => exact fun ok => by cases ok
      | .rejected e true =>
        -- the request is sent again, unless the wait is cut short
        cases here
        refine Action.Follows.bind_always (R := fun stage _ => stage = .asking body) ?_ ?_
        · exact fun _ => ⟨.asking body, asking_stays _ _ rfl, rfl⟩
        rintro stage waited rfl
        cases waited with
        | ok _ => exact ih
        | error _ => exact fun ok => by cases ok
    · exact fun stage e _ ok => by cases ok

theorem follows_trusted {x : ControllerAction α} (only : Action.Only Finishing x) :
    Action.Follows (attemptNext call) x OnlyTrusted .trusted :=
  (Program.Only.follows only trusted_stays).mono fun _ _ here _ => here

theorem finishing_upsertAll (lives : List LiveNode) :
    Action.Only Finishing (upsertAll lives) := by
  induction lives with
  | nil => exact Action.only_pure ()
  | cons live rest ih => exact Action.Only.bind (only_statement rfl trivial) fun _ => ih

theorem finishing_buildNodeResponse (id : String) :
    Action.Only Finishing (buildNodeResponse id) := by
  apply Action.Only.bind
  · apply Action.Only.bind (only_statement rfl trivial)
    intro _
    apply Action.Only.bind (Adoption.only_always trivial)
    intro lives
    exact finishing_upsertAll lives
  · intro _
    apply Action.Only.bind (only_statement rfl trivial)
    intro row
    apply Action.Only.bind (Adoption.only_always trivial)
    intro lives
    exact Action.Only.bind (only_statement rfl trivial) fun _ => Action.only_pure _

/-- What `adoptNode` does once the trust is stored. -/
theorem finishing_flagged (id : String) (f : NodeResponse → AdoptNodeResponse) :
    Action.Only Finishing
      (do
        statement (.setNodeAdopted id true) rfl
        let updated ← buildNodeResponse id
        return f updated : ControllerAction AdoptNodeResponse) := by
  apply Action.Only.bind (only_statement rfl trivial)
  intro _
  exact Action.Only.bind (finishing_buildNodeResponse id) fun _ => Action.only_pure _

theorem follows_adoptNode (call : Call) :
    Action.Follows (attemptNext call) (adoptNode call.caPEM call.host call.node) OnlyTrusted .drawing := by
  unfold adoptNode
  refine follows_part (R := fun stage nutPassword => stage = .drawn nutPassword) ?_ ?_
  · intro reply
    cases reply with
    | ok nutPassword => exact ⟨_, rfl, fun value same => by cases same; rfl⟩
    | error e => exact ⟨.failed, rfl, fun value same => by cases same⟩
  rintro stage nutPassword rfl
  refine follows_part (R := fun stage apiToken => stage = .asking (bodyOf call nutPassword apiToken)) ?_ ?_
  · intro reply
    cases reply with
    | ok apiToken => exact ⟨_, rfl, fun value same => by cases same; rfl⟩
    | error e => exact ⟨.failed, rfl, fun value same => by cases same⟩
  rintro stage apiToken rfl
  refine follows_part (R := fun stage _ => stage = .accepted (bodyOf call nutPassword apiToken)) ?_ ?_
  · exact (follows_adoptExchange _ _ _).mono fun stage result here value same => here (by rw [same]; rfl)
  rintro stage reply rfl
  refine follows_part (R := fun stage _ => stage = .accepted (bodyOf call nutPassword apiToken)) ?_ ?_
  · exact fun value _ => rfl
  rintro stage response rfl
  refine follows_part (R := fun stage _ => stage = .accepted (bodyOf call nutPassword apiToken)) ?_ ?_
  · unfold verifyPinnedNodeHealth
    split
    · exact fun value same => by cases same
    · exact fun reply => ⟨_, rfl, fun _ _ => rfl⟩
  rintro stage _ rfl
  refine follows_part (R := fun stage sealedToken =>
    stage = .tokenSealed (bodyOf call nutPassword apiToken) sealedToken.text) ?_ ?_
  · intro reply
    cases reply with
    | ok sealedToken => exact ⟨_, if_pos rfl, fun value same => by cases same; rfl⟩
    | error e => exact ⟨.failed, if_pos rfl, fun value same => by cases same⟩
  rintro stage sealedToken rfl
  refine follows_part (R := fun stage _ =>
    stage = .tokenSealed (bodyOf call nutPassword apiToken) sealedToken.text) ?_ ?_
  · exact fun reply => ⟨_, rfl, fun _ _ => rfl⟩
  rintro stage sealedPassword rfl
  refine follows_part (R := fun stage _ => stage = .trusted) ?_ ?_
  · intro reply
    cases reply with
    | ok _ => exact ⟨.trusted, if_pos ⟨rfl, rfl⟩, fun _ _ => rfl⟩
    | error e => exact ⟨.failed, if_pos ⟨rfl, rfl⟩, fun value same => by cases same⟩
  rintro stage _ rfl
  exact follows_trusted (finishing_flagged _ _)

end Attempts

/-! ## Requests -/

/-- Where a request stands with `adoption.json`. -/
inductive RequestStage where
  | sent
  | asking
  /-- The file is there and about to be read. -/
  | existing
  /-- The file holds this very request. -/
  | replaying
  /-- The file holds this very request and is written once more. -/
  | rewriting
  /-- The file was not there. -/
  | missing
  /-- The file has been opened. -/
  | creating
  | stored
  | failed
  | ended
deriving DecidableEq

/-- The stages from which a handler may answer with success. -/
def RequestStage.holds : RequestStage → Bool
  | .replaying | .rewriting | .stored => true
  | _ => false

/-- Success is answered from these stages only, and an error under a status of its own. -/
def RequestStage.answers (stage : RequestStage) : AdoptAnswer → Bool
  | .ok _ => stage.holds
  | .error (status, _) => status ≠ 200

def requestNext (a : RuntimeAdopter) (body : AdoptRequest) :
    RequestStage → (op : AgentOp) → op.Reply → Option RequestStage
  | .asking, .stat .adoption, reply =>
    match reply with
    | .ok _ => some .existing
    | .error e => some (if e.isNotExist then .missing else .failed)
  | .existing, .readFile .adoption, reply =>
    match reply with
    | .ok (.adoption state) => some (if state.isFor a body then .replaying else .failed)
    | _ => some .failed
  | .replaying, .truncate .adoption, _ => some .rewriting
  | .replaying, op, _ => if op.harmless then some .replaying else none
  | .rewriting, _, _ => some .rewriting
  | .missing, .truncate .adoption, reply =>
    match reply with
    | .ok _ => some .creating
    | .error _ => some .failed
  | .missing, op, _ => if op.harmless then some .missing else none
  | .creating, .write .adoption (.adoption state), reply =>
    if state.isFor a body then
      match reply with
      | .ok _ => some .stored
      | .error _ => some .failed
    else none
  | .stored, op, _ => if op.harmless then some .stored else none
  | _, _, _ => none

section Requests

variable {a : RuntimeAdopter} {body : AdoptRequest} {α : Type}

/-- The stages that harmless operations leave. -/
theorem request_stays {stage : RequestStage} (waits : stage = .replaying ∨ stage = .missing ∨ stage = .stored)
    (op : AgentOp) (reply : op.Reply) (harmless : op.harmless = true) :
    requestNext a body stage op reply = some stage := by
  cases op with
  | truncate file | write file content | rename file content =>
    cases file <;> rcases waits with rfl | rfl | rfl <;> simp_all [requestNext, AgentOp.harmless]
  | _ => rcases waits with rfl | rfl | rfl <;> simp_all [requestNext, AgentOp.harmless]

theorem follows_harmless {ε : Type} {stage : RequestStage} {x : Action AgentOp AgentOp.Reply ε α}
    (waits : stage = .replaying ∨ stage = .missing ∨ stage = .stored)
    (only : Action.Only (fun op => op.harmless = true) x) :
    Action.Follows (requestNext a body) x (fun stage' _ => stage' = stage) stage :=
  Program.Only.follows only (request_stays waits)

/-- Nothing is out of place while the file is written once more. -/
theorem follows_rewriting (p : AgentProgram α) :
    p.Follows (requestNext a body) (fun stage _ => stage = .rewriting) .rewriting := by
  induction p with
  | ret value => rfl
  | call op next ih => exact fun reply => ⟨.rewriting, rfl, ih reply⟩

/-- A success is one that `adoption.json` holds. -/
def OnlyHeld {ε : Type} (stage : RequestStage) (result : Except ε α) : Prop :=
  result.isOk = true → stage.holds = true

theorem isFor_adoptionStateOf (fingerprint : String) (now : Int) :
    (adoptionStateOf a body fingerprint now).isFor a body = true := by
  simp [AdoptionState.isFor, adoptionStateOf]

theorem follows_write_first {state : AdoptionState} (same : state.isFor a body = true) :
    Action.Follows (requestNext a body) (plain (.wrap "write adoption config") (writeAdoptionState state))
      (fun stage result => result.isOk = true → stage = .stored) .missing := by
  refine (Program.follows_bind _ _ _).mpr ?_
  intro opened
  cases opened with
  | error e => exact ⟨.failed, rfl, fun ok => by cases ok⟩
  | ok _ =>
    refine ⟨.creating, rfl, ?_⟩
    intro written
    cases written with
    | error e => exact ⟨.failed, by simp [requestNext, same], fun ok => by cases ok⟩
    | ok _ => exact ⟨.stored, by simp [requestNext, same], fun _ => rfl⟩

theorem follows_first : Action.Follows (requestNext a body) (firstAdoption a body) OnlyHeld .missing := by
  have missing : ∀ {β : Type} {x : AdoptionAction β} {f : β → AdoptionAction AdoptResponse},
      Action.Only (fun op => op.harmless = true) x →
      (∀ value, Action.Follows (requestNext a body) (f value) OnlyHeld .missing) →
      Action.Follows (requestNext a body) (x >>= f) OnlyHeld .missing := by
    intro β x f only rest
    refine Action.Follows.bind (follows_harmless (.inr (.inl rfl)) only) ?_ ?_
    · rintro stage value rfl
      exact rest value
    · exact fun stage e _ ok => by cases ok
  refine missing (Agent.only_always rfl) fun now => ?_
  refine missing (only_plain (only_ensureNodeCertificate a fun op => harmless_of_certificate)) fun fingerprint => ?_
  refine missing (only_plain (only_call rfl id rfl)) fun _ => ?_
  refine Action.Follows.bind (follows_write_first (isFor_adoptionStateOf fingerprint now)) ?_ ?_
  · intro stage _ here
    cases here rfl
    have only : Action.Only (fun op => op.harmless = true) (announceAdoption a body fingerprint) :=
      only_announceAdoption a body fingerprint (fun op about => harmless_of_file about (by decide))
        (fun op => harmless_of_service) (fun _ _ => ⟨rfl, rfl⟩)
    refine (follows_harmless (.inr (.inr rfl)) only).mono ?_
    rintro stage _ rfl _
    rfl
  · exact fun stage e _ ok => by cases ok

variable (body) in
/-- The end of a replay, where the record is written anew if the port or the fingerprint has changed. -/
theorem follows_rewrite (differs : Prop) [Decidable differs] (state : AdoptionState) (response : AdoptResponse) :
    Action.Follows (requestNext a body) (do
        if differs then plain (.wrap "write adoption config") (writeAdoptionState state)
        return response : AdoptionAction AdoptResponse)
      OnlyHeld .replaying := by
  dsimp only
  split
  · refine Action.Follows.bind (R := fun stage _ => stage = .rewriting) ?_ ?_ ?_
    · refine (Program.follows_bind _ _ _).mpr ?_
      intro opened
      exact ⟨.rewriting, rfl, follows_rewriting _⟩
    · rintro stage _ rfl
      exact fun _ => rfl
    · exact fun stage e _ ok => by cases ok
  · exact fun _ => rfl

theorem follows_replay : Action.Follows (requestNext a body) (replayAdoption a body) OnlyHeld .existing := by
  unfold replayAdoption
  refine Action.Follows.bind (R := fun stage result => ∀ existing, result = .ok existing →
    stage = if existing.isFor a body then .replaying else .failed) ?_ ?_ ?_
  · intro reply
    match reply with
    | .ok (.adoption state) => exact ⟨_, rfl, fun existing same => by cases same; rfl⟩
    | .ok (.text _) | .ok (.upsConf _ _) | .ok (.nameMap _) | .ok (.agentConfig _)
    | .ok (.certificate _) | .ok (.key _) | .error _ => exact ⟨.failed, rfl, fun existing same => by cases same⟩
  · intro stage existing here
    cases here existing rfl
    have answers (tlsPort : Int) (fingerprint : String) :=
      follows_rewrite (a := a) body (existing.tlsPort ≠ tlsPort ∨ existing.tlsFingerprint ≠ fingerprint)
        { existing with tlsPort, tlsFingerprint := fingerprint }
    dsimp only
    split
    · split
      · refine Action.Follows.bind (follows_harmless (.inl rfl)
          (only_plain (only_ensureNodeCertificate a fun op => harmless_of_certificate))) ?_ ?_
        · rintro stage fingerprint rfl
          exact answers _ fingerprint _
        · exact fun stage e _ ok => by cases ok
      · exact answers _ existing.tlsFingerprint _
    · exact fun ok => by cases ok
  · exact fun stage e _ ok => by cases ok

theorem follows_apply : Action.Follows (requestNext a body) (applyAdoption a body) OnlyHeld .asking := by
  unfold applyAdoption
  refine Action.Follows.bind_always (R := fun stage reply =>
    requestNext a body .asking (.stat .adoption) reply = some stage) ?_ ?_
  · intro found
    cases found <;> exact ⟨_, rfl, rfl⟩
  intro stage found here
  cases found with
  | ok _ =>
    cases here
    exact follows_replay
  | error e =>
    cases here
    by_cases absent : e.isNotExist = true
    · simp only [absent, if_true]
      exact follows_first
    · simp only [absent]
      exact fun ok => by cases ok

theorem follows_handle {program : AgentProgram AdoptAnswer} (handler : handleAdopt a body = program) :
    program.Follows (requestNext a body) (fun stage answer => stage.answers answer = true) .asking := by
  subst handler
  unfold handleAdopt
  cases validateAdoptRequest body with
  | error e => exact rfl
  | ok _ =>
    refine (Program.follows_bind _ _ _).mpr (Program.Follows.mono follows_apply ?_)
    intro stage result held
    cases result with
    | error e => cases e <;> exact rfl
    | ok response => exact held rfl

end Requests

/-! ## Both -/

inductive LinkStage where
  | attempt (stage : AttemptStage)
  | finished
  | request (stage : RequestStage)
deriving DecidableEq

def Task.next (p : Parties) : Task → LinkStage → (op : LinkOp) → op.Reply → Option LinkStage
  | .attempt id call, .attempt stage, .attempt id' _ op, reply =>
    if id' = id then (attemptNext call stage op reply).map .attempt else none
  | .attempt id _, .attempt stage, .finish id' result, _ =>
    if id' = id ∧ (result.isOk = true → stage = .trusted) then some .finished else none
  | .handle _ _ _, .request stage, .arrive, arrived =>
    if stage = .sent then some (.request (if arrived then .asking else .ended)) else none
  | .handle _ _ body, .request stage, .agent op, reply =>
    (requestNext p.adopter body stage op reply).map .request
  | .handle id number _, .request stage, .answer id' number' answer, _ =>
    if id' = id ∧ number' = number ∧ stage.answers answer = true then some (.request .ended) else none
  | _, _, _, _ => none

def Task.first : Task → LinkStage
  | .attempt _ _ => .attempt .drawing
  | .handle _ _ _ => .request .sent

def Task.ended : Task → LinkStage → Prop
  | .attempt _ _ => (· = .finished)
  | .handle _ _ _ => (· = .request .ended)

theorem follows_handleRequest {p : Parties} {id number : Nat} {body : AdoptRequest}
    {program : LinkProgram AdoptAnswer} (handled : handleRequest p body = program) :
    program.Follows ((Task.handle id number body).next p)
      (fun stage answer => ∃ held, stage = .request held ∧ held.answers answer = true) (.request .asking) := by
  subst handled
  unfold handleRequest
  generalize handler : handleAdopt p.adopter body = program
  refine (Program.follows_bind _ _ _).mpr ?_
  refine (Program.Follows.relabel (f := LinkStage.request) (follows_handle handler) ?_).mono ?_
  · intro _ stage op reply stage' reached
    exact congrArg (Option.map LinkStage.request) reached
  · rintro _ answered ⟨stage, rfl, held⟩
    exact ⟨stage, rfl, held⟩

theorem follows_code (p : Parties) (task : Task) :
    (task.code p).Follows (task.next p) (fun stage _ => task.ended stage) task.first := by
  cases task with
  | attempt id call =>
    refine (Program.follows_bind _ _ _).mpr ?_
    refine (Program.Follows.relabel (f := LinkStage.attempt) (follows_adoptNode call) ?_).mono ?_
    · intro sent stage op reply stage' reached
      exact (if_pos rfl).trans (congrArg (Option.map LinkStage.attempt) reached)
    · rintro _ returned ⟨stage, rfl, trusted⟩
      exact fun _ => ⟨.finished, if_pos ⟨rfl, trusted⟩, rfl⟩
  | handle id number body =>
    refine (Program.follows_bind _ _ _).mpr ?_
    intro arrived
    cases arrived with
    | false => exact ⟨.request .ended, rfl, rfl⟩
    | true =>
      refine ⟨.request .asking, rfl, ?_⟩
      generalize handled : handleRequest p body = program
      refine (Program.follows_bind _ _ _).mpr ((follows_handleRequest handled).mono ?_)
      rintro _ answer ⟨stage, rfl, held⟩
      exact fun _ => ⟨_, if_pos ⟨rfl, rfl, held⟩, rfl⟩

end Strom.Handshake
