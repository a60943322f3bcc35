import Strom.Agent.Adopt

/-!
# Two writers of `upsd.users`

The main loop renders `upsd.users` with the credentials that it has read some time
before, an adoption with those that it has recorded in `adoption.json`.  Whichever comes
last must have been the recorded ones (`credentials_agree`).
-/

namespace Strom.Agent

open Strom.Go Strom.Effects Strom.Nutconf Strom.Adoption

def AdoptionState.nutAccount (state : AdoptionState) : UPSDUser where
  username := state.nutUser
  password := state.nutPassword

/-- What `upsd.users` holds is as rendered for the account. -/
def Grants (users : Option Content) (account : UPSDUser) : Prop :=
  ∃ content, users = some content ∧ content.same (usersContent account) = true

/-! ## Stages -/

/-- Where a thread stands with the credentials. -/
inductive CredentialStage where
  /-- The main loop has not read any. -/
  | reading
  /-- The main loop found no `adoption.json`. -/
  | unadopted
  /-- The request has not asked for `adoption.json`. -/
  | asking
  | existing
  /-- `adoption.json` was there, with this account. -/
  | replaying (account : UPSDUser)
  | rewriting (account : UPSDUser)
  | missing
  | creating
  /-- The thread has the account and has yet to bring `upsd.users` up to it. -/
  | loaded (account : UPSDUser)
  | settled (account : UPSDUser)
  | finished (account : UPSDUser)
  | failed

def CredentialStage.isFinished : CredentialStage → Bool
  | .finished _ => true
  | _ => false

/-- The operations that neither ask for credentials nor write them nor report. -/
def AgentOp.idle : AgentOp → Bool
  | .mkdirAll .adoption | .chmod .upsdUsers => true
  | .log _ | .respond _ _ => false
  | op => op.file? ≠ some .adoption && op.file? ≠ some .upsdUsers && op.file? ≠ some .agentConfig

/-- `WriteIfChanged` of `upsd.users`, up to its `chmod`. -/
def usersNext (account : UPSDUser) : (op : AgentOp) → op.Reply → Option CredentialStage
  | .readFile .upsdUsers, reply =>
    match reply with
    | .ok old => some (if old.same (usersContent account) then .settled account else .loaded account)
    | .error _ => some (.loaded account)
  | .mkdirAll .upsdUsers, _ => some (.loaded account)
  | .stageTemp .upsdUsers _, _ => some (.loaded account)
  | .rename .upsdUsers content, reply =>
    if content = usersContent account then
      match reply with
      | .ok _ => some (.settled account)
      | .error _ => some .failed
    else none
  | _, _ => none

/-- The moves of `WriteIfChanged`. -/
inductive UsersMoves (account : UPSDUser) : (op : AgentOp) → op.Reply → CredentialStage → Prop
  | same (old : Content) (same : old.same (usersContent account) = true) :
      UsersMoves account (.readFile .upsdUsers) (.ok old) (.settled account)
  | differs (reply : Except GoError Content) :
      UsersMoves account (.readFile .upsdUsers) reply (.loaded account)
  | mkdirs (reply : Except GoError Unit) :
      UsersMoves account (.mkdirAll .upsdUsers) reply (.loaded account)
  | stages (content : Content) (reply : Except GoError Unit) :
      UsersMoves account (.stageTemp .upsdUsers content) reply (.loaded account)
  | replaced (content : Content) (rendered : content = usersContent account) :
      UsersMoves account (.rename .upsdUsers content) (.ok ()) (.settled account)
  | unreplaced (content : Content) (e : GoError) :
      UsersMoves account (.rename .upsdUsers content) (.error e) .failed

theorem usersMoves_of_next {account : UPSDUser} {op : AgentOp} {reply : op.Reply}
    {stage' : CredentialStage} (reached : usersNext account op reply = some stage') :
    UsersMoves account op reply stage' := by
  cases op with
  | readFile file =>
    cases file <;> simp only [usersNext, reduceCtorEq] at reached
    cases reply with
    | ok old =>
      obtain rfl := Option.some.inj reached
      split
      · exact .same old ‹_›
      · exact .differs _
    | error e =>
      obtain rfl := Option.some.inj reached
      exact .differs _
  | mkdirAll file =>
    cases file <;> simp only [usersNext, reduceCtorEq] at reached
    obtain rfl := Option.some.inj reached
    exact .mkdirs reply
  | stageTemp file content =>
    cases file <;> simp only [usersNext, reduceCtorEq] at reached
    obtain rfl := Option.some.inj reached
    exact .stages content reply
  | rename file content =>
    cases file <;> simp only [usersNext, reduceCtorEq] at reached
    split_ifs at reached with rendered
    cases reply with
    | ok _ =>
      obtain rfl := Option.some.inj reached
      exact .replaced content rendered
    | error e =>
      obtain rfl := Option.some.inj reached
      exact .unreplaced content e
  | _ => cases reached

/-- The stages of an iteration of the main loop. -/
def eventNext (stage : CredentialStage) (op : AgentOp) (reply : op.Reply) : Option CredentialStage :=
  if op.idle then some stage
  else match stage, op, reply with
    | .finished _, _, _ => none
    | _, .log (some _), _ => some .failed
    | .settled account, .log none, _ => some (.finished account)
    | .loaded account, op, reply => usersNext account op reply
    | .reading, .readFile .adoption, reply =>
      match reply with
      | .ok (.adoption state) => some (.loaded state.nutAccount)
      | .ok _ => some .failed
      | .error e => some (if e.isNotExist then .unadopted else .failed)
    | .unadopted, .readFile .agentConfig, reply =>
      match reply with
      | .ok (.agentConfig user) => some (.loaded user)
      | _ => some .failed
    | _, _, _ => none

/-- The stages of a request. -/
def requestNext (stage : CredentialStage) (op : AgentOp) (reply : op.Reply) : Option CredentialStage :=
  if op.idle then some stage
  else match stage, op, reply with
    | .finished _, _, _ => none
    | _, .respond _ (.error _), _ => some .failed
    | .settled account, .respond _ (.ok _), _ => some (.finished account)
    | .loaded account, op, reply => usersNext account op reply
    | .asking, .stat .adoption, reply =>
      match reply with
      | .ok _ => some .existing
      | .error e => some (if e.isNotExist then .missing else .failed)
    | .existing, .readFile .adoption, reply =>
      match reply with
      | .ok (.adoption state) => some (.replaying state.nutAccount)
      | _ => some .failed
    | .replaying account, .truncate .adoption, reply =>
      match reply with
      | .ok _ => some (.rewriting account)
      | .error _ => some .failed
    | .rewriting account, .write .adoption (.adoption state), reply =>
      if state.nutAccount = account then
        match reply with
        | .ok _ => some (.replaying account)
        | .error _ => some .failed
      else none
    | .replaying account, .respond _ (.ok _), _ => some (.finished account)
    | .missing, .truncate .adoption, reply =>
      match reply with
      | .ok _ => some .creating
      | .error _ => some .failed
    | .creating, .write .adoption (.adoption state), reply =>
      match reply with
      | .ok _ => some (.loaded state.nutAccount)
      | .error _ => some .failed
    | _, _, _ => none

/-! ## The programs follow them -/

section Follows

variable {next : CredentialStage → (op : AgentOp) → op.Reply → Option CredentialStage}
  {stage : CredentialStage} {ε α β : Type}

theorem eventNext_idle {op : AgentOp} (reply : op.Reply) (idle : op.idle = true) :
    eventNext stage op reply = some stage := if_pos idle

theorem requestNext_idle {op : AgentOp} (reply : op.Reply) (idle : op.idle = true) :
    requestNext stage op reply = some stage := if_pos idle

/-- A success is at `good`, and a failure has reporting nothing. -/
def Leads (good : α → CredentialStage) (stage : CredentialStage) (result : Except ε α) : Prop :=
  match result with
  | .ok value => stage = good value
  | .error _ => stage.isFinished = false

/-- One part after another. -/
theorem Leads.bind {x : Action AgentOp AgentOp.Reply ε α} {f : α → Action AgentOp AgentOp.Reply ε β}
    {good : α → CredentialStage} {final : β → CredentialStage}
    (first : Action.Follows next x (Leads good) stage)
    (rest : ∀ value, Action.Follows next (f value) (Leads final) (good value)) :
    Action.Follows next (x >>= f) (Leads final) stage := by
  apply Action.Follows.bind first
  · intro stage value here
    obtain rfl : stage = good value := here
    exact rest value
  · intro stage e here
    exact here

/-- What is idle leaves the stage as it is. -/
theorem leads_of_idle {x : Action AgentOp AgentOp.Reply ε α}
    (stays : ∀ (op : AgentOp) (reply : op.Reply), op.idle = true → next stage op reply = some stage)
    (unfinished : stage.isFinished = false) (only : Action.Only (fun op => op.idle = true) x) :
    Action.Follows next x (Leads fun _ => stage) stage := by
  apply Program.Follows.mono (Program.Only.follows only stays)
  intro stage' result here
  subst here
  cases result with
  | ok value => rfl
  | error e => exact unfinished

theorem Leads.mapError {ε' : Type} {wrapping : ε → ε'} {x : Action AgentOp AgentOp.Reply ε α}
    {good : α → CredentialStage} (follows : Action.Follows next x (Leads good) stage) :
    Action.Follows next (Action.mapError wrapping x) (Leads good) stage := by
  apply (Program.follows_bind _ _ _).mpr
  apply Program.Follows.mono follows
  intro stage result here
  cases result <;> exact here

/-- `WriteIfChanged` of `upsd.users`. -/
theorem leads_writeUsers (account : UPSDUser)
    (stays : ∀ stage (op : AgentOp) (reply : op.Reply), op.idle = true →
      next stage op reply = some stage)
    (users : ∀ (op : AgentOp) (reply : op.Reply) stage',
      usersNext account op reply = some stage' → next (.loaded account) op reply = some stage') :
    Action.Follows next (writeIfChanged .upsdUsers (usersContent account))
      (Leads fun _ => .settled account) (.loaded account) := by
  -- the parts of the replacement that leave the file alone
  have prepares : ∀ {op : AgentOp} (same : op.Reply = Except GoError Unit) (wrapping : GoError → GoError),
      (∀ reply : op.Reply, usersNext account op reply = some (.loaded account)) →
      Action.Follows next (call op same wrapping) (Leads fun _ => .loaded account) (.loaded account) := by
    intro op same wrapping keeps reply
    refine ⟨_, users op reply _ (keeps reply), ?_⟩
    change Leads _ _ ((same ▸ reply : Except GoError Unit).mapError wrapping)
    cases (same ▸ reply : Except GoError Unit) with
    | ok _ => exact rfl
    | error e => exact rfl
  have replaces : Action.Follows next (writeIfChanged.replaceFile .upsdUsers (usersContent account))
      (Leads fun _ => .settled account) (.loaded account) := by
    apply Leads.bind (prepares rfl _ fun _ => rfl)
    intro _
    apply Leads.bind (prepares rfl _ fun _ => rfl)
    intro _
    have renames : Action.Follows next
        (call (.rename .upsdUsers (usersContent account)) rfl (.wrap "rename temp file"))
        (Leads fun _ => .settled account) (.loaded account) := by
      intro reply
      cases reply with
      | ok _ => exact ⟨.settled account, users _ _ _ (by simp [usersNext]), rfl⟩
      | error e => exact ⟨.failed, users _ _ _ (by simp [usersNext]), rfl⟩
    apply Leads.bind renames
    intro _
    apply Leads.bind (leads_of_idle (stays _) rfl (only_call rfl _ rfl))
    intro _
    exact rfl
  apply Action.Follows.bind_always (R := fun stage reply =>
    usersNext account (.readFile .upsdUsers) reply = some stage)
  · intro reply
    cases reply with
    | ok old => exact ⟨_, users _ _ _ rfl, rfl⟩
    | error e => exact ⟨_, users _ _ _ rfl, rfl⟩
  intro stage reply here
  cases reply with
  | ok old =>
    obtain rfl : (if old.same (usersContent account) then .settled account else .loaded account) = stage :=
      Option.some.inj here
    dsimp only
    split
    · exact rfl
    · exact replaces
  | error e =>
    obtain rfl : .loaded account = stage := Option.some.inj here
    dsimp only
    split
    · exact replaces
    · exact rfl

theorem idle_of_file {op : AgentOp} {file : AgentFile} (about : op.file? = some file)
    (other : file ≠ .adoption ∧ file ≠ .upsdUsers ∧ file ≠ .agentConfig) : op.idle = true := by
  unfold AgentOp.idle
  split
  · rfl
  · rfl
  · cases about
  · cases about
  · simp [about, other]

theorem idle_of_service {op : AgentOp} (service : op.isService = true) : op.idle = true := by
  cases op with
  | loadState unit | systemctl action unit => rfl
  | _ => cases service

/-- `WriteIfChanged` of another file. -/
theorem leads_writeOther {file : AgentFile} (content : Content) (wrapping : GoError → GoError)
    (other : file ≠ .adoption ∧ file ≠ .upsdUsers ∧ file ≠ .agentConfig)
    (unfinished : stage.isFinished = false) :
    Action.Follows eventNext (Action.mapError wrapping (writeIfChanged file content))
      (Leads fun _ => stage) stage :=
  leads_of_idle (fun _ reply => eventNext_idle reply) unfinished
    (Action.Only.mapError (only_writeIfChanged content fun _ about => idle_of_file about other))

/-- The stage after the read of the agent configuration. -/
def afterUser : Except GoError Content → CredentialStage
  | .ok (.agentConfig user) => .loaded user
  | _ => .failed

theorem leads_loadAgentUser :
    Action.Follows eventNext loadAgentUser (Leads .loaded) .unadopted := by
  apply Action.Follows.bind (R := fun stage (result : Except GoError Content) => stage = afterUser result)
  · intro reply
    cases reply with
    | error e => exact ⟨.failed, rfl, rfl⟩
    | ok content => cases content <;> exact ⟨_, rfl, rfl⟩
  · intro stage content here
    cases content with
    | agentConfig user =>
      obtain rfl : stage = .loaded user := here
      dsimp only
      split
      · exact rfl
      · exact rfl
    | _ =>
      obtain rfl : stage = .failed := here
      exact rfl
  · intro stage e here
    obtain rfl : stage = .failed := here
    exact rfl

theorem leads_loadRuntimeNUTUser :
    Action.Follows eventNext loadRuntimeNUTUser (Leads .loaded) .reading := by
  apply Action.Follows.bind_always (R := fun stage reply =>
    eventNext .reading (.readFile .adoption) reply = some stage)
  · intro reply
    match reply with
    | .ok (.adoption state) => exact ⟨_, rfl, rfl⟩
    | .ok (.text _) | .ok (.upsConf _ _) | .ok (.nameMap _) | .ok (.agentConfig _)
    | .ok (.certificate _) | .ok (.key _) => exact ⟨.failed, rfl, rfl⟩
    | .error e => exact ⟨_, rfl, rfl⟩
  intro stage reply here
  cases reply with
  | ok content =>
    cases content with
    | adoption state =>
      obtain rfl : .loaded state.nutAccount = stage := Option.some.inj here
      dsimp only
      split
      · exact rfl
      · exact rfl
    | _ =>
      obtain rfl : .failed = stage := Option.some.inj here
      exact rfl
  | error e =>
    obtain rfl : (if e.isNotExist then .unadopted else .failed) = stage := Option.some.inj here
    by_cases absent : e.isNotExist
    · simp only [absent, if_true]
      exact leads_loadAgentUser
    · simp only [absent, Bool.false_eq_true, if_false]
      exact rfl

theorem leads_apply (devices : List DetectedUPS) : Action.Follows eventNext (apply devices)
    (Leads fun applied => .settled applied.user) .reading := by
  apply Leads.bind leads_loadRuntimeNUTUser
  intro user
  apply Leads.bind (leads_of_idle (fun _ reply => eventNext_idle reply) rfl (only_loadNameMap rfl))
  intro persistedNames
  obtain ⟨namedDevices, nextMap⟩ := assignStableNames devices persistedNames
  apply Leads.bind (leads_writeOther _ _ (by decide) rfl)
  intro namesChanged
  apply Leads.bind (leads_writeOther _ _ (by decide) rfl)
  intro upsChanged
  have users : Action.Follows eventNext (writeIfChanged .upsdUsers (usersContent user))
      (Leads fun _ => .settled user) (.loaded user) := by
    apply leads_writeUsers user fun _ _ reply => eventNext_idle reply
    intro op reply stage' reached
    cases usersMoves_of_next reached <;> exact reached
  have files : Action.Follows eventNext (writeFiles (otherFiles user) (namesChanged || upsChanged))
      (Leads fun _ => .settled user) (.loaded user) := by
    apply Leads.bind (leads_writeOther _ _ (by decide) rfl)
    intro nutChanged
    apply Leads.bind (leads_writeOther _ _ (by decide) rfl)
    intro upsdChanged
    apply Leads.bind (Leads.mapError users)
    intro usersChanged
    exact rfl
  apply Leads.bind files
  intro changed
  exact rfl

theorem leads_handleEvent : Action.Follows eventNext handleEvent
    (Leads fun applied => .settled applied.user) .reading := by
  apply Leads.bind (leads_of_idle (fun _ reply => eventNext_idle reply) rfl (only_call rfl _ rfl))
  intro current
  apply Leads.bind (leads_apply current)
  intro applied
  apply Leads.bind (leads_of_idle (fun _ reply => eventNext_idle reply) rfl (only_always rfl))
  intro _
  apply Leads.bind (leads_of_idle (fun _ reply => eventNext_idle reply) rfl
    (only_reload _ _ fun _ => idle_of_service))
  intro _
  exact rfl

theorem eventNext_failed (unfinished : stage.isFinished = false) (e : GoError) :
    eventNext stage (.log (some e)) () = some .failed := by
  cases stage with
  | finished account => cases unfinished
  | _ => rfl

theorem follows_iteration {program : AgentProgram Unit} (code : iteration = program) :
    program.Follows eventNext (fun _ _ => True) .reading := by
  subst code
  unfold iteration
  apply (Program.follows_bind _ _ _).mpr
  apply Program.Follows.mono leads_handleEvent
  intro stage result here
  cases result with
  | ok applied =>
    obtain rfl : stage = .settled applied.user := here
    exact fun _ => ⟨.finished applied.user, rfl, trivial⟩
  | error e => exact fun _ => ⟨.failed, eventNext_failed here e, trivial⟩

/-! ### Requests -/

variable {a : RuntimeAdopter} {req : AdoptRequest}

/-- A request that succeeds has replayed an adoption or brought `upsd.users` up to its own. -/
def Accepts (stage : CredentialStage) (result : Except ε α) : Prop :=
  match result with
  | .ok _ => ∃ account, stage = .replaying account ∨ stage = .settled account
  | .error _ => stage.isFinished = false

theorem Accepts.bind {x : Action AgentOp AgentOp.Reply ε α}
    {f : α → Action AgentOp AgentOp.Reply ε β} {good : α → CredentialStage}
    (first : Action.Follows next x (Leads good) stage)
    (rest : ∀ value, Action.Follows next (f value) Accepts (good value)) :
    Action.Follows next (x >>= f) Accepts stage := by
  apply Action.Follows.bind first
  · intro stage value here
    obtain rfl : stage = good value := here
    exact rest value
  · intro stage e here
    exact here

theorem idle_of_certificate {op : AgentOp} (about : op.onCertificate) : op.idle = true := by
  rcases about with certificate | key | rfl
  · exact idle_of_file certificate (by decide)
  · exact idle_of_file key (by decide)
  · rfl

theorem leads_ensureNodeCertificate (wrapping : GoError → GoError)
    (unfinished : stage.isFinished = false) :
    Action.Follows requestNext (plain wrapping (ensureNodeCertificate a)) (Leads fun _ => stage) stage :=
  leads_of_idle (fun _ reply => requestNext_idle reply) unfinished
    (only_plain (only_ensureNodeCertificate a fun _ => idle_of_certificate))

theorem leads_writeAdoptionState {state : AdoptionState} (wrapping : GoError → GoError) :
    Action.Follows requestNext (plain wrapping (writeAdoptionState state))
      (Leads fun _ => .loaded state.nutAccount) .missing := by
  have created : Action.Follows requestNext (call (.truncate .adoption) rfl id)
      (Leads fun _ => .creating) .missing := by
    intro reply
    cases reply with
    | ok _ => exact ⟨.creating, rfl, rfl⟩
    | error e => exact ⟨.failed, rfl, rfl⟩
  apply Leads.mapError
  apply Leads.bind created
  intro _ reply
  cases reply with
  | ok _ => exact ⟨.loaded state.nutAccount, rfl, rfl⟩
  | error e => exact ⟨.failed, rfl, rfl⟩

theorem leads_rewriteAdoptionState {state : AdoptionState} (wrapping : GoError → GoError) :
    Action.Follows requestNext (plain wrapping (writeAdoptionState state))
      (Leads fun _ => .replaying state.nutAccount) (.replaying state.nutAccount) := by
  have emptied : Action.Follows requestNext (call (.truncate .adoption) rfl id)
      (Leads fun _ => .rewriting state.nutAccount) (.replaying state.nutAccount) := by
    intro reply
    cases reply with
    | ok _ => exact ⟨.rewriting state.nutAccount, rfl, rfl⟩
    | error e => exact ⟨.failed, rfl, rfl⟩
  apply Leads.mapError
  apply Leads.bind emptied
  intro _ reply
  cases reply with
  | ok _ => exact ⟨.replaying state.nutAccount, if_pos rfl, rfl⟩
  | error e => exact ⟨.failed, if_pos rfl, rfl⟩

/-- The stage after the read of the adoption state. -/
def afterAdoption : Except GoError Content → CredentialStage
  | .ok (.adoption state) => .replaying state.nutAccount
  | _ => .failed

theorem leads_readAdoptionState (wrapping : GoError → GoError) :
    Action.Follows requestNext (plain wrapping readAdoptionState)
      (Leads fun existing => .replaying existing.nutAccount) .existing := by
  apply Leads.mapError
  apply Action.Follows.bind (R := fun stage (result : Except GoError Content) => stage = afterAdoption result)
  · intro reply
    cases reply with
    | error e => exact ⟨.failed, rfl, rfl⟩
    | ok content => cases content <;> exact ⟨_, rfl, rfl⟩
  · intro stage content here
    cases content with
    | adoption state =>
      obtain rfl : stage = .replaying state.nutAccount := here
      exact rfl
    | _ =>
      obtain rfl : stage = .failed := here
      exact rfl
  · intro stage e here
    obtain rfl : stage = .failed := here
    exact rfl

/-- A replay records the state again if its port or fingerprint was missing. -/
theorem accepts_amend {state : AdoptionState} {response : AdoptResponse} (amend : Prop)
    [Decidable amend] (wrapping : GoError → GoError) :
    Action.Follows requestNext
      (if amend then do
        plain wrapping (writeAdoptionState state)
        pure response
      else pure response) Accepts (.replaying state.nutAccount) := by
  split
  · apply Accepts.bind (leads_rewriteAdoptionState _)
    intro _
    exact ⟨state.nutAccount, .inl rfl⟩
  · exact ⟨state.nutAccount, .inl rfl⟩

theorem accepts_replayAdoption : Action.Follows requestNext (replayAdoption a req) Accepts .existing := by
  apply Accepts.bind (leads_readAdoptionState _)
  intro existing
  dsimp only
  split
  · split
    · apply Accepts.bind (leads_ensureNodeCertificate _ rfl)
      intro fingerprint
      exact accepts_amend _ _
    · exact accepts_amend _ _
  · exact rfl

theorem accepts_firstAdoption : Action.Follows requestNext (firstAdoption a req) Accepts .missing := by
  apply Accepts.bind (leads_of_idle (fun _ reply => requestNext_idle reply) rfl (only_always rfl))
  intro now
  apply Accepts.bind (leads_ensureNodeCertificate _ rfl)
  intro fingerprint
  apply Accepts.bind (leads_of_idle (fun _ reply => requestNext_idle reply) rfl
    (only_plain (only_call rfl id rfl)))
  intro _
  apply Accepts.bind (leads_writeAdoptionState _)
  intro _
  have users : Action.Follows requestNext
      (writeIfChanged .upsdUsers (usersContent (AdoptRequest.nutAccount req)))
      (Leads fun _ => .settled (AdoptRequest.nutAccount req)) (.loaded (AdoptRequest.nutAccount req)) := by
    apply leads_writeUsers _ fun _ _ reply => requestNext_idle reply
    intro op reply stage' reached
    cases usersMoves_of_next reached <;> exact reached
  apply Accepts.bind (Leads.mapError users)
  intro _
  apply Accepts.bind (leads_of_idle (fun _ reply => requestNext_idle reply) rfl
    (only_plain (only_reload _ _ fun _ => idle_of_service)))
  intro _
  apply Accepts.bind (leads_of_idle (fun _ reply => requestNext_idle reply) rfl (only_always rfl))
  intro _
  apply Accepts.bind (leads_of_idle (fun _ reply => requestNext_idle reply) rfl (only_always rfl))
  intro _
  exact ⟨AdoptRequest.nutAccount req, .inr rfl⟩

theorem accepts_applyAdoption : Action.Follows requestNext (applyAdoption a req) Accepts .asking := by
  apply Action.Follows.bind_always (R := fun stage reply =>
    requestNext .asking (.stat .adoption) reply = some stage)
  · intro reply
    cases reply <;> exact ⟨_, rfl, rfl⟩
  intro stage reply here
  cases reply with
  | ok _ =>
    obtain rfl : .existing = stage := Option.some.inj here
    exact accepts_replayAdoption
  | error e =>
    obtain rfl : (if e.isNotExist then .missing else .failed) = stage := Option.some.inj here
    by_cases absent : e.isNotExist
    · simp only [absent, if_true]
      exact accepts_firstAdoption
    · simp only [absent, Bool.false_eq_true, if_false]
      exact rfl

theorem accepts_handleAdopt {program : AgentProgram AdoptAnswer}
    (handler : handleAdopt a req = program) :
    program.Follows requestNext (fun stage answer => Accepts stage answer) .asking := by
  subst handler
  unfold handleAdopt
  cases validateAdoptRequest req with
  | error e => exact rfl
  | ok _ =>
    apply (Program.follows_bind _ _ _).mpr
    apply Program.Follows.mono accepts_applyAdoption
    intro stage result here
    cases result <;> exact here

theorem requestNext_failed (unfinished : stage.isFinished = false) (request : AdoptRequest)
    (e : Nat × String) : requestNext stage (.respond request (.error e)) () = some .failed := by
  cases stage with
  | finished account => cases unfinished
  | _ => rfl

theorem follows_request {program : AgentProgram Unit} (code : (Task.adopt req).code a = program) :
    program.Follows requestNext (fun _ _ => True) .asking := by
  subst code
  rw [Task.code, Program.follows_bind]
  generalize handler : handleAdopt a req = program
  apply (accepts_handleAdopt handler).mono
  intro stage answer here
  rw [Program.follows_perform]
  intro reply
  cases answer with
  | ok response =>
    obtain ⟨account, rfl | rfl⟩ := here
    · exact ⟨.finished account, rfl, trivial⟩
    · exact ⟨.finished account, rfl, trivial⟩
  | error e => exact ⟨.failed, requestNext_failed here req e, trivial⟩

end Follows

/-! ## What a thread does -/

/-- The moves of an iteration. -/
inductive EventMoves : CredentialStage → (op : AgentOp) → op.Reply → CredentialStage → Prop
  | idle (stage : CredentialStage) (op : AgentOp) (reply : op.Reply) (idle : op.idle = true) :
      EventMoves stage op reply stage
  | load (state : AdoptionState) :
      EventMoves .reading (.readFile .adoption) (.ok (.adoption state)) (.loaded state.nutAccount)
  | unadopted (e : GoError) (absent : e.isNotExist = true) :
      EventMoves .reading (.readFile .adoption) (.error e) .unadopted
  | unread (stage : CredentialStage) (unfinished : stage.isFinished = false) (file : AgentFile)
      (reply : Except GoError Content) : EventMoves stage (.readFile file) reply .failed
  | preset (account : UPSDUser) :
      EventMoves .unadopted (.readFile .agentConfig) (.ok (.agentConfig account)) (.loaded account)
  | users (account : UPSDUser) (op : AgentOp) (reply : op.Reply) (stage' : CredentialStage)
      (moves : UsersMoves account op reply stage') : EventMoves (.loaded account) op reply stage'
  | finish (account : UPSDUser) : EventMoves (.settled account) (.log none) () (.finished account)
  | fail (stage : CredentialStage) (unfinished : stage.isFinished = false) (e : GoError) :
      EventMoves stage (.log (some e)) () .failed

theorem eventMoves_of_next {stage stage' : CredentialStage} {op : AgentOp} {reply : op.Reply}
    (reached : eventNext stage op reply = some stage') : EventMoves stage op reply stage' := by
  by_cases idle : op.idle = true
  · obtain rfl : stage = stage' := Option.some.inj ((if_pos idle).symm.trans reached)
    exact .idle _ _ _ idle
  unfold eventNext at reached
  rw [if_neg idle] at reached
  split at reached
  · cases reached
  · obtain rfl := Option.some.inj reached
    exact .fail _ (by cases stage <;> simp_all [CredentialStage.isFinished]) _
  · obtain rfl := Option.some.inj reached
    exact .finish _
  · exact .users _ _ _ _ (usersMoves_of_next reached)
  · split at reached
    · obtain rfl := Option.some.inj reached
      exact .load _
    · obtain rfl := Option.some.inj reached
      exact .unread _ rfl _ _
    · obtain rfl := Option.some.inj reached
      split
      · exact .unadopted _ ‹_›
      · exact .unread _ rfl _ _
  · split at reached
    · obtain rfl := Option.some.inj reached
      exact .preset _
    · obtain rfl := Option.some.inj reached
      exact .unread _ rfl _ _
  · cases reached

/-- The moves of a request. -/
inductive RequestMoves : CredentialStage → (op : AgentOp) → op.Reply → CredentialStage → Prop
  | idle (stage : CredentialStage) (op : AgentOp) (reply : op.Reply) (idle : op.idle = true) :
      RequestMoves stage op reply stage
  | found : RequestMoves .asking (.stat .adoption) (.ok ()) .existing
  | notFound (e : GoError) (absent : e.isNotExist = true) :
      RequestMoves .asking (.stat .adoption) (.error e) .missing
  | recognise (state : AdoptionState) :
      RequestMoves .existing (.readFile .adoption) (.ok (.adoption state)) (.replaying state.nutAccount)
  | unread (stage : CredentialStage) (unfinished : stage.isFinished = false) (op : AgentOp)
      (reply : op.Reply) (reads : op = .stat .adoption ∨ op = .readFile .adoption) :
      RequestMoves stage op reply .failed
  | reopen (account : UPSDUser) :
      RequestMoves (.replaying account) (.truncate .adoption) (.ok ()) (.rewriting account)
  | create : RequestMoves .missing (.truncate .adoption) (.ok ()) .creating
  | rewrite (state : AdoptionState) : RequestMoves (.rewriting state.nutAccount)
      (.write .adoption (.adoption state)) (.ok ()) (.replaying state.nutAccount)
  | record (state : AdoptionState) : RequestMoves .creating
      (.write .adoption (.adoption state)) (.ok ()) (.loaded state.nutAccount)
  | unopened (stage : CredentialStage) (unfinished : stage.isFinished = false) (e : GoError) :
      RequestMoves stage (.truncate .adoption) (.error e) .failed
  | unamended (state : AdoptionState) (e : GoError) : RequestMoves (.rewriting state.nutAccount)
      (.write .adoption (.adoption state)) (.error e) .failed
  | unrecorded (state : AdoptionState) (e : GoError) : RequestMoves .creating
      (.write .adoption (.adoption state)) (.error e) .failed
  | users (account : UPSDUser) (op : AgentOp) (reply : op.Reply) (stage' : CredentialStage)
      (moves : UsersMoves account op reply stage') : RequestMoves (.loaded account) op reply stage'
  | replay (account : UPSDUser) (request : AdoptRequest) (response : AdoptResponse) :
      RequestMoves (.replaying account) (.respond request (.ok response)) () (.finished account)
  | finish (account : UPSDUser) (request : AdoptRequest) (response : AdoptResponse) :
      RequestMoves (.settled account) (.respond request (.ok response)) () (.finished account)
  | fail (stage : CredentialStage) (unfinished : stage.isFinished = false) (request : AdoptRequest)
      (e : Nat × String) : RequestMoves stage (.respond request (.error e)) () .failed

theorem requestMoves_of_next {stage stage' : CredentialStage} {op : AgentOp} {reply : op.Reply}
    (reached : requestNext stage op reply = some stage') : RequestMoves stage op reply stage' := by
  by_cases idle : op.idle = true
  · obtain rfl : stage = stage' := Option.some.inj ((if_pos idle).symm.trans reached)
    exact .idle _ _ _ idle
  unfold requestNext at reached
  rw [if_neg idle] at reached
  split at reached
  · cases reached
  · obtain rfl := Option.some.inj reached
    exact .fail _ (by cases stage <;> simp_all [CredentialStage.isFinished]) _ _
  · obtain rfl := Option.some.inj reached
    exact .finish _ _ _
  · exact .users _ _ _ _ (usersMoves_of_next reached)
  · split at reached
    · obtain rfl := Option.some.inj reached
      exact .found
    · obtain rfl := Option.some.inj reached
      split
      · exact .notFound _ ‹_›
      · exact .unread _ rfl _ _ (.inl rfl)
  · split at reached
    · obtain rfl := Option.some.inj reached
      exact .recognise _
    · obtain rfl := Option.some.inj reached
      exact .unread _ rfl _ _ (.inr rfl)
  · split at reached
    · obtain rfl := Option.some.inj reached
      exact .reopen _
    · obtain rfl := Option.some.inj reached
      exact .unopened _ rfl _
  · split_ifs at reached with same
    subst same
    split at reached
    · obtain rfl := Option.some.inj reached
      exact .rewrite _
    · obtain rfl := Option.some.inj reached
      exact .unamended _ _
  · obtain rfl := Option.some.inj reached
    exact .replay _ _ _
  · split at reached
    · obtain rfl := Option.some.inj reached
      exact .create
    · obtain rfl := Option.some.inj reached
      exact .unopened _ rfl _
  · split at reached
    · obtain rfl := Option.some.inj reached
      exact .record _
    · obtain rfl := Option.some.inj reached
      exact .unrecorded _ _
  · cases reached

/-! ## Both threads -/

def Task.credentials : Task → CredentialStage → (op : AgentOp) → op.Reply → Option CredentialStage
  | .event => eventNext
  | .adopt _ => requestNext

/-- Where a thread begins. -/
def Task.beginning : Task → CredentialStage
  | .event => .reading
  | .adopt _ => .asking

theorem follows_credentials (a : RuntimeAdopter) (task : Task) :
    (task.code a).Follows task.credentials (fun _ _ => True) task.beginning := by
  generalize code : task.code a = program
  cases task with
  | event => exact follows_iteration code
  | adopt req => exact follows_request code

/-! ## A node that was adopted before

Its credentials stay the same, and only the main loop writes `upsd.users`. -/

inductive EventReplays (account : UPSDUser) (users : Option Content) : CredentialStage → Prop
  | reading : EventReplays account users .reading
  | loaded : EventReplays account users (.loaded account)
  | settled (grants : Grants users account) : EventReplays account users (.settled account)
  | finished (grants : Grants users account) : EventReplays account users (.finished account)
  | failed : EventReplays account users .failed

inductive RequestReplays (account : UPSDUser) (recorded : Option Content) : CredentialStage → Prop
  | asking : RequestReplays account recorded .asking
  | existing : RequestReplays account recorded .existing
  | replaying (state : AdoptionState) (complete : recorded = some (.adoption state)) :
      RequestReplays account recorded (.replaying account)
  | rewriting (emptied : recorded = some .empty) : RequestReplays account recorded (.rewriting account)
  | finished (state : AdoptionState) (complete : recorded = some (.adoption state)) :
      RequestReplays account recorded (.finished account)
  | failed : RequestReplays account recorded .failed

structure Replaying (account : UPSDUser) (event request : CredentialStage)
    (recorded users : Option Content) : Prop where
  present : recorded ≠ none
  same : ∀ state, recorded = some (.adoption state) → state.nutAccount = account
  event : EventReplays account users event
  request : RequestReplays account recorded request

variable {account : UPSDUser} {event request stage' : CredentialStage} {op : AgentOp} {reply : op.Reply}
  {chance : Chance} {node node' : Node}

/-- Neither of the two files changes. -/
theorem files_kept (performed : perform op chance node = (reply, node'))
    (apart : op.changes? ≠ some .adoption ∧ op.changes? ≠ some .upsdUsers) :
    node'.files .adoption = node.files .adoption ∧ node'.files .upsdUsers = node.files .upsdUsers :=
  ⟨keeps_of_performed performed apart.1, keeps_of_performed performed apart.2⟩

theorem apart_of_idle (idle : op.idle = true) :
    op.changes? ≠ some .adoption ∧ op.changes? ≠ some .upsdUsers := by
  cases op with
  | truncate file | write file content | rename file content =>
    cases file <;> simp_all [AgentOp.idle, AgentOp.file?, AgentOp.changes?]
  | _ => simp [AgentOp.changes?]

theorem grants_of_rendered {content : Content} (rendered : content = usersContent account) :
    Grants (some content) account := by
  subst rendered
  exact ⟨usersContent account, rfl, by simp [usersContent, Content.same, Content.bytes?]⟩

/-- How the steps of `WriteIfChanged` leave the two files. -/
inductive UsersLeft (account : UPSDUser) (node node' : Node) : CredentialStage → Prop
  | kept (users : node'.files .upsdUsers = node.files .upsdUsers) :
      UsersLeft account node node' (.loaded account)
  | granted (grants : Grants (node'.files .upsdUsers) account) :
      UsersLeft account node node' (.settled account)
  | failed (users : node'.files .upsdUsers = node.files .upsdUsers) : UsersLeft account node node' .failed

theorem usersLeft_of_moves (moves : UsersMoves account op reply stage')
    (performed : perform op chance node = (reply, node')) :
    node'.files .adoption = node.files .adoption ∧ UsersLeft account node node' stage' := by
  cases moves with
  | same old equal =>
    obtain ⟨holds, rfl⟩ := readFile_ok performed
    exact ⟨rfl, .granted ⟨old, holds, equal⟩⟩
  | differs reply | mkdirs reply | stages content reply =>
    obtain ⟨adoption, users⟩ := files_kept performed (by simp [AgentOp.changes?])
    exact ⟨adoption, .kept users⟩
  | replaced content rendered =>
    have adoption : node'.files .adoption = node.files .adoption :=
      keeps_of_performed performed (by simp [AgentOp.changes?])
    refine ⟨adoption, .granted ?_⟩
    rw [rename_ok performed]
    exact grants_of_rendered rendered
  | unreplaced content e =>
    obtain rfl := rename_error performed
    exact ⟨rfl, .failed rfl⟩

theorem Replaying.event_step
    (replaying : Replaying account event request (node.files .adoption) (node.files .upsdUsers))
    (moves : EventMoves event op reply stage') (performed : perform op chance node = (reply, node')) :
    Replaying account stage' request (node'.files .adoption) (node'.files .upsdUsers) := by
  obtain ⟨present, same, here, other⟩ := replaying
  -- where neither file changes, only the stage counts
  have quiet : op.changes? ≠ some .adoption ∧ op.changes? ≠ some .upsdUsers →
      EventReplays account (node.files .upsdUsers) stage' →
      Replaying account stage' request (node'.files .adoption) (node'.files .upsdUsers) := by
    intro apart next
    obtain ⟨adoption, users⟩ := files_kept performed apart
    rw [adoption, users]
    exact ⟨present, same, next, other⟩
  cases moves with
  | idle _ _ _ idle => exact quiet (apart_of_idle idle) here
  | load state =>
    obtain ⟨holds, -⟩ := readFile_ok performed
    rw [same state holds] at quiet ⊢
    exact quiet (by simp [AgentOp.changes?]) .loaded
  | unadopted e absent =>
    -- the file is there
    exact absurd (readFile_notExist performed absent) present
  | unread => exact quiet (by simp [AgentOp.changes?]) .failed
  | preset user => cases here
  | users user _ _ _ moves =>
    obtain rfl : user = account := by
      cases here
      rfl
    obtain ⟨adoption, left⟩ := usersLeft_of_moves moves performed
    rw [adoption]
    cases left with
    | kept users => exact ⟨present, same, .loaded, other⟩
    | granted grants => exact ⟨present, same, .settled grants, other⟩
    | failed users => exact ⟨present, same, .failed, other⟩
  | finish user =>
    cases here with
    | settled grants => exact quiet (by simp [AgentOp.changes?]) (.finished grants)
  | fail => exact quiet (by simp [AgentOp.changes?]) .failed

theorem Replaying.request_step
    (replaying : Replaying account event request (node.files .adoption) (node.files .upsdUsers))
    (moves : RequestMoves request op reply stage') (performed : perform op chance node = (reply, node')) :
    Replaying account event stage' (node'.files .adoption) (node'.files .upsdUsers) := by
  obtain ⟨present, same, other, here⟩ := replaying
  have quiet : op.changes? ≠ some .adoption ∧ op.changes? ≠ some .upsdUsers →
      RequestReplays account (node.files .adoption) stage' →
      Replaying account event stage' (node'.files .adoption) (node'.files .upsdUsers) := by
    intro apart next
    obtain ⟨adoption, users⟩ := files_kept performed apart
    rw [adoption, users]
    exact ⟨present, same, other, next⟩
  -- a change of `adoption.json` leaves the other file alone
  have changed : op.changes? = some .adoption → node'.files .upsdUsers = node.files .upsdUsers := by
    intro about
    exact keeps_of_performed performed (by simp [about])
  cases moves with
  | idle _ _ _ idle => exact quiet (apart_of_idle idle) here
  | found => exact quiet (by simp [AgentOp.changes?]) .existing
  | notFound e absent => exact absurd (stat_notExist performed absent) present
  | recognise state =>
    obtain ⟨holds, -⟩ := readFile_ok performed
    rw [same state holds] at quiet ⊢
    exact quiet (by simp [AgentOp.changes?]) (.replaying state holds)
  | unread _ _ _ _ reads =>
    obtain rfl | rfl := reads <;> exact quiet (by simp [AgentOp.changes?]) .failed
  | reopen user =>
    cases here
    rw [truncate_ok performed, changed rfl]
    exact ⟨by simp, by simp [Content.empty], other, .rewriting rfl⟩
  | create => cases here
  | rewrite state =>
    cases here with
    | rewriting emptied =>
      rw [write_ok performed emptied, changed rfl]
      exact ⟨by simp, by simp, other, .replaying state rfl⟩
  | record state => cases here
  | unopened _ _ e =>
    rw [changed rfl]
    obtain emptied | kept := truncate_error performed
    · rw [emptied]
      exact ⟨by simp, by simp [Content.empty], other, .failed⟩
    · rw [kept]
      exact ⟨present, same, other, .failed⟩
  | unamended state e =>
    cases here with
    | rewriting emptied =>
      rw [changed rfl]
      obtain written | kept := write_error performed emptied
      · rw [written]
        exact ⟨by simp, by simp, other, .failed⟩
      · rw [kept]
        exact ⟨by simp, by simp [Content.empty], other, .failed⟩
  | unrecorded state e => cases here
  | users user _ _ _ moves => cases here
  | replay user =>
    cases here with
    | replaying state complete => exact quiet (by simp [AgentOp.changes?]) (.finished state complete)
  | finish user => cases here
  | fail => exact quiet (by simp [AgentOp.changes?]) .failed

/-! ## A node that is being adopted

Only the request writes `adoption.json`; both threads write `upsd.users`. -/

inductive RequestAdopts (recorded users : Option Content) : CredentialStage → Prop
  | asking (absent : recorded = none) : RequestAdopts recorded users .asking
  | missing (absent : recorded = none) : RequestAdopts recorded users .missing
  | creating (emptied : recorded = some .empty) : RequestAdopts recorded users .creating
  | loaded (state : AdoptionState) (complete : recorded = some (.adoption state)) :
      RequestAdopts recorded users (.loaded state.nutAccount)
  | settled (state : AdoptionState) (complete : recorded = some (.adoption state))
      (grants : Grants users state.nutAccount) : RequestAdopts recorded users (.settled state.nutAccount)
  | finished (state : AdoptionState) (complete : recorded = some (.adoption state))
      (grants : Grants users state.nutAccount) : RequestAdopts recorded users (.finished state.nutAccount)
  | failed : RequestAdopts recorded users .failed

/-- A replacement of `upsd.users` is with the recorded credentials, or the request has
    yet to compare or replace the file. -/
def Fresh (request : CredentialStage) (recorded : Option Content) (op : AgentOp) : Prop :=
  ∀ content, op = .rename .upsdUsers content → (∃ account, request = .loaded account) ∨
    ∀ state, recorded = some (.adoption state) → content.same (usersContent state.nutAccount) = true

theorem RequestAdopts.event_step
    (adopts : RequestAdopts (node.files .adoption) (node.files .upsdUsers) request)
    (moves : EventMoves event op reply stage') (performed : perform op chance node = (reply, node'))
    (fresh : Fresh request (node.files .adoption) op) :
    RequestAdopts (node'.files .adoption) (node'.files .upsdUsers) request := by
  have quiet : op.changes? ≠ some .adoption ∧ op.changes? ≠ some .upsdUsers →
      RequestAdopts (node'.files .adoption) (node'.files .upsdUsers) request := by
    intro apart
    obtain ⟨adoption, users⟩ := files_kept performed apart
    rw [adoption, users]
    exact adopts
  cases moves with
  | idle _ _ _ idle => exact quiet (apart_of_idle idle)
  | load | unadopted | unread | preset | finish | fail => exact quiet (by simp [AgentOp.changes?])
  | users user _ _ _ moves =>
    cases moves with
    | same | differs | mkdirs | stages => exact quiet (by simp [AgentOp.changes?])
    | unreplaced content e =>
      obtain rfl := rename_error performed
      exact adopts
    | replaced content rendered =>
      have adoption : node'.files .adoption = node.files .adoption :=
        keeps_of_performed performed (by simp [AgentOp.changes?])
      rw [adoption, rename_ok performed]
      -- what the file held before does not count for the request that has yet to replace it
      cases adopts with
      | asking absent => exact .asking absent
      | missing absent => exact .missing absent
      | creating emptied => exact .creating emptied
      | loaded state complete => exact .loaded state complete
      | failed => exact .failed
      | settled state complete _ =>
        obtain ⟨account, pending⟩ | same := fresh content rfl
        · cases pending
        · exact .settled state complete ⟨content, rfl, same state complete⟩
      | finished state complete _ =>
        obtain ⟨account, pending⟩ | same := fresh content rfl
        · cases pending
        · exact .finished state complete ⟨content, rfl, same state complete⟩

theorem RequestAdopts.request_step
    (adopts : RequestAdopts (node.files .adoption) (node.files .upsdUsers) request)
    (moves : RequestMoves request op reply stage') (performed : perform op chance node = (reply, node')) :
    RequestAdopts (node'.files .adoption) (node'.files .upsdUsers) stage' := by
  have quiet : op.changes? ≠ some .adoption ∧ op.changes? ≠ some .upsdUsers →
      RequestAdopts (node.files .adoption) (node.files .upsdUsers) stage' →
      RequestAdopts (node'.files .adoption) (node'.files .upsdUsers) stage' := by
    intro apart next
    obtain ⟨adoption, users⟩ := files_kept performed apart
    rw [adoption, users]
    exact next
  cases moves with
  | idle _ _ _ idle => exact quiet (apart_of_idle idle) adopts
  | found =>
    cases adopts with
    | asking absent => exact absurd absent (stat_ok performed)
  | notFound e absent =>
    exact quiet (by simp [AgentOp.changes?]) (.missing (stat_notExist performed absent))
  | recognise state => cases adopts
  | reopen user => cases adopts
  | create => exact .creating (truncate_ok performed)
  | rewrite state => cases adopts
  | record state =>
    cases adopts with
    | creating emptied => exact .loaded state (write_ok performed emptied)
  | unread | unopened | unamended | unrecorded | fail => exact .failed
  | users user _ _ _ moves =>
    cases adopts with
    | loaded state complete =>
      obtain ⟨adoption, left⟩ := usersLeft_of_moves moves performed
      rw [adoption]
      cases left with
      | kept users => exact .loaded state complete
      | granted grants => exact .settled state complete grants
      | failed users => exact .failed
  | replay user => cases adopts
  | finish user =>
    cases adopts with
    | settled state complete grants =>
      exact quiet (by simp [AgentOp.changes?]) (.finished state complete grants)

/-! ## Who has reporting success -/

/-- Only a thread that has finished says that all went well. -/
structure Reporting (event request : CredentialStage) (node : Node) : Prop where
  logged : none ∈ node.logged → event.isFinished = true
  answered : ∀ req response, (req, .ok response) ∈ node.answers → request.isFinished = true

/-- A thread that has finished does nothing more that counts. -/
theorem EventMoves.finished (moves : EventMoves event op reply stage')
    (finished : event.isFinished = true) : stage' = event ∧ op.idle = true := by
  cases moves with
  | idle _ _ _ idle => exact ⟨rfl, idle⟩
  | unread _ unfinished | fail _ unfinished => simp [unfinished] at finished
  | _ => cases finished

theorem RequestMoves.finished (moves : RequestMoves request op reply stage')
    (finished : request.isFinished = true) : stage' = request ∧ op.idle = true := by
  cases moves with
  | idle _ _ _ idle => exact ⟨rfl, idle⟩
  | unread _ unfinished | unopened _ unfinished | fail _ unfinished => simp [unfinished] at finished
  | _ => cases finished

theorem Reporting.event_step (reporting : Reporting event request node)
    (moves : EventMoves event op reply stage') (performed : perform op chance node = (reply, node')) :
    Reporting stage' request node' := by
  have answers : node'.answers = node.answers ∧ (none ∈ node'.logged →
      none ∈ node.logged ∨ stage'.isFinished = true) := by
    by_cases silent : op.isReport = false
    · have kept := perform_keeps_reports silent chance node
      rw [performed] at kept
      rw [kept.1, kept.2]
      exact ⟨rfl, .inl⟩
    cases moves with
    | finish account =>
      cases performed
      exact ⟨rfl, fun _ => .inr rfl⟩
    | fail _ _ e =>
      cases performed
      exact ⟨rfl, fun logged => .inl (by simpa using logged)⟩
    | idle _ _ _ idle => cases op <;> simp_all [AgentOp.isReport, AgentOp.idle]
    | users _ _ _ _ moves => cases moves <;> simp [AgentOp.isReport] at silent
    | _ => simp [AgentOp.isReport] at silent
  constructor
  · intro logged
    obtain before | now := answers.2 logged
    · rw [(moves.finished (reporting.logged before)).1]
      exact reporting.logged before
    · exact now
  · rw [answers.1]
    exact reporting.answered

theorem Reporting.request_step (reporting : Reporting event request node)
    (moves : RequestMoves request op reply stage') (performed : perform op chance node = (reply, node')) :
    Reporting event stage' node' := by
  have logged : node'.logged = node.logged ∧ ((∃ req response, (req, .ok response) ∈ node'.answers) →
      (∃ req response, (req, .ok response) ∈ node.answers) ∨ stage'.isFinished = true) := by
    by_cases silent : op.isReport = false
    · have kept := perform_keeps_reports silent chance node
      rw [performed] at kept
      rw [kept.1, kept.2]
      exact ⟨rfl, .inl⟩
    cases moves with
    | finish account | replay account =>
      cases performed
      exact ⟨rfl, fun _ => .inr rfl⟩
    | fail _ _ request e =>
      cases performed
      exact ⟨rfl, fun answered => .inl (by simpa using answered)⟩
    | idle _ _ _ idle => cases op <;> simp_all [AgentOp.isReport, AgentOp.idle]
    | users _ _ _ _ moves => cases moves <;> simp [AgentOp.isReport] at silent
    | unread _ _ _ _ reads => obtain rfl | rfl := reads <;> simp [AgentOp.isReport] at silent
    | _ => simp [AgentOp.isReport] at silent
  constructor
  · rw [logged.1]
    exact reporting.logged
  · intro req response answered
    obtain ⟨req', response', before⟩ | now := logged.2 ⟨req, response, answered⟩
    · have finished := reporting.answered req' response' before
      rw [(moves.finished finished).1]
      exact finished
    · exact now

/-! ## All interleavings -/

/-- The operations from the comparison of `upsd.users` to its replacement. -/
def AgentOp.replacesUsers : AgentOp → Bool
  | .readFile .upsdUsers | .mkdirAll .upsdUsers | .stageTemp .upsdUsers _ | .rename .upsdUsers _ => true
  | _ => false

theorem busy_of_replacesUsers (replaces : op.replacesUsers = true) : op.idle = false := by
  unfold AgentOp.replacesUsers at replaces
  split at replaces <;> first | rfl | cases replaces

/-- The request is about to compare or to replace `upsd.users`. -/
def replacementPending (pool : AgentPool) : Bool :=
  pool.threads.any fun thread => thread.task ≠ .event && thread.op?.any AgentOp.replacesUsers

/-- Once an adoption is recorded, `upsd.users` is replaced by a file with its credentials,
    unless the request has yet to compare or to replace it. -/
def UpToDate (pool : AgentPool) (turn : Turn Chance) : Bool :=
  match Runtime.opOf pool turn, pool.state.files .adoption with
  | some (.rename .upsdUsers content), some (.adoption state) =>
    replacementPending pool || content.same (usersContent state.nutAccount)
  | _, _ => true

/-- What the two threads have reached, on a node that was adopted or on one that was not. -/
def Agreeing (event request : CredentialStage) (node : Node) : Prop :=
  Reporting event request node ∧
    ((∃ account, Replaying account event request (node.files .adoption) (node.files .upsdUsers)) ∨
      RequestAdopts (node.files .adoption) (node.files .upsdUsers) request)

/-- The two threads at their stages. -/
abbrev BothStaged (req : AdoptRequest) (event request : CredentialStage)
    (threads : List (Thread Task AgentOp AgentOp.Reply)) : Prop :=
  Runtime.Staged Task.credentials (fun _ _ => True) [(.event, event), (.adopt req, request)] threads

variable {a : RuntimeAdopter} {req : AdoptRequest} {pool next : AgentPool} {turn : Turn Chance}

theorem loaded_of_pending (staged : BothStaged req event request pool.threads)
    (pending : replacementPending pool = true) : ∃ account, request = .loaded account := by
  obtain ⟨thread, member, waits⟩ := List.any_eq_true.mp pending
  simp only [Bool.and_eq_true, decide_eq_true_eq] at waits
  obtain ⟨other, replaces⟩ := waits
  obtain ⟨i, found⟩ := List.getElem?_of_mem member
  obtain ⟨place, placed, here⟩ := Runtime.staged_getElem? staged i found
  -- it is not the thread of the main loop
  obtain rfl : place = (.adopt req, request) := by
    match i with
    | 0 =>
      cases placed
      exact absurd here.task other
    | 1 =>
      cases placed
      rfl
    | i + 2 => simp at placed
  cases issues : thread.op? with
  | none => simp [issues] at replaces
  | some op =>
    simp only [issues, Option.any_some] at replaces
    obtain ⟨stage', reached⟩ := Option.isSome_iff_exists.mp (here.op?_eq_some issues default)
    cases requestMoves_of_next reached with
    | users account => exact ⟨account, rfl⟩
    | idle _ _ _ idle => simp [busy_of_replacesUsers replaces] at idle
    | unread _ _ _ _ reads => obtain rfl | rfl := reads <;> simp [AgentOp.replacesUsers] at replaces
    | _ => simp [AgentOp.replacesUsers] at replaces

theorem fresh_of_upToDate (staged : BothStaged req event request pool.threads)
    (upToDate : UpToDate pool turn = true) (issues : Runtime.opOf pool turn = some op) :
    Fresh request (pool.state.files .adoption) op := by
  rintro content rfl
  by_cases pending : replacementPending pool = true
  · exact .inl (loaded_of_pending staged pending)
  · right
    intro state complete
    simpa [UpToDate, issues, complete, pending] using upToDate

/-- One turn of either thread. -/
theorem agreeing_step (staged : BothStaged req event request pool.threads)
    (agreeing : Agreeing event request pool.state) (upToDate : UpToDate pool turn = true)
    (taken : (runtime a).step pool turn = some next) :
    ∃ event' request', BothStaged req event' request' next.threads ∧
      Agreeing event' request' next.state := by
  obtain ⟨reporting, world⟩ := agreeing
  obtain ⟨task, stage, op, reply, stage', placed, issues, reached, performed, staged'⟩ :=
    Runtime.step_staged (follows_credentials a) staged taken
  have started : Runtime.places Task.beginning ((runtime a).starts op) = [] := rfl
  rw [started, List.append_nil] at staged'
  have performed := Option.some.inj performed
  generalize turn.thread = i at placed staged'
  match i with
  | 0 =>
    cases placed
    have moves := eventMoves_of_next reached
    refine ⟨stage', request, staged', reporting.event_step moves performed, ?_⟩
    obtain ⟨account, replaying⟩ | adopts := world
    · exact .inl ⟨account, replaying.event_step moves performed⟩
    · exact .inr (adopts.event_step moves performed (fresh_of_upToDate staged upToDate issues))
  | 1 =>
    cases placed
    have moves := requestMoves_of_next reached
    refine ⟨event, stage', staged', reporting.request_step moves performed, ?_⟩
    obtain ⟨account, replaying⟩ | adopts := world
    · exact .inl ⟨account, replaying.request_step moves performed⟩
    · exact .inr (adopts.request_step moves performed)
  | i + 2 => simp at placed

theorem agreeing_run {schedule : List (Turn Chance)}
    (unreported : node.logged = [] ∧ node.answers = [])
    (run : replay (runtime a).step ((runtime a).start node [.event, .adopt req]) schedule = some pool)
    (guarded : Guarded (runtime a).step (fun pool turn => UpToDate pool turn = true)
      ((runtime a).start node [.event, .adopt req]) schedule) :
    ∃ event request, Agreeing event request pool.state := by
  have kept := replay_invariant (I := fun pool => ∃ event request,
    BothStaged req event request pool.threads ∧ Agreeing event request pool.state) ?_ ?_ guarded run
  · obtain ⟨event, request, -, agreeing⟩ := kept
    exact ⟨event, request, agreeing⟩
  · intro pool turn next ⟨event, request, staged, agreeing⟩ upToDate taken
    exact agreeing_step staged agreeing upToDate taken
  · refine ⟨.reading, .asking, ?_, ⟨?_, ?_⟩, ?_⟩
    · show Runtime.Staged _ _ (Runtime.places Task.beginning [Task.event, .adopt req])
        ([Task.event, .adopt req].map (runtime a).launch)
      exact Runtime.staged_launch (follows_credentials a) _
    · simp [Runtime.start, unreported.1]
    · simp [Runtime.start, unreported.2]
    · change (∃ account, Replaying account _ _ (node.files .adoption) (node.files .upsdUsers)) ∨
        RequestAdopts (node.files .adoption) (node.files .upsdUsers) _
      cases recorded : node.files .adoption with
      | none => exact .inr (.asking rfl)
      | some content =>
        left
        cases content with
        | adoption state =>
          refine ⟨state.nutAccount, by simp, ?_, .reading, .asking⟩
          intro state' complete
          cases complete
          rfl
        | _ => exact ⟨{ username := "", password := "" }, by simp, by simp, .reading, .asking⟩

/-- A node with `agent.yaml`. -/
def configured : Node where
  files := fun file =>
    match file with
    | .agentConfig => some (.agentConfig { username := "local", password := "pw" })
    | _ => none

/-- An event and a request on that node. -/
def eventAndRequest (schedule : List (Turn Chance)) : Option AgentPool :=
  replay (runtime adopter1).step ((runtime adopter1).start configured [.event, .adopt (requestOf "t1")])
    schedule

/-- Both threads have succeeded. -/
def Node.succeeded (node : Node) : Bool :=
  match node.logged, node.answers with
  | [none], [(_, .ok _)] => true
  | _, _ => false

theorem reports_of_succeeded (succeeded : node.succeeded = true) :
    none ∈ node.logged ∧ ∃ request response, (request, .ok response) ∈ node.answers := by
  unfold Node.succeeded at succeeded
  split at succeeded
  · rename_i logged answers
    exact ⟨by simp [logged], by simp [answers]⟩
  · cases succeeded

/-- The length of a text. -/
def Content.length? : Content → Option Nat
  | .text bytes => some bytes.length
  | _ => none

/-- The account that an adoption records. -/
def Content.account? : Content → Option UPSDUser
  | .adoption state => some state.nutAccount
  | _ => none

/-- An account has no file of another length. -/
theorem length_of_grants {users : Option Content} {length : Nat}
    (text : users.bind Content.length? = some length) (grants : Grants users account) :
    (utf8 (renderUPSDUsers account)).length = length := by
  obtain ⟨content, rfl, same⟩ := grants
  cases content with
  | text bytes =>
    simp only [Content.same, Content.bytes?, usersContent, decide_eq_true_eq] at same
    rw [← same]
    exact Option.some.inj text
  | _ => cases text

end Strom.Agent
