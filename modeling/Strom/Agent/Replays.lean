import Strom.Agent.Credentials
import Strom.Agent.Reloads

/-!
# What a successful adoption has done

The first adoption is recorded in `adoption.json` before it is carried out, and a replay of the
same credentials is answered from the record.  `adoption_in_force`: a success means that the
credentials are in force as long as no call fails between the record and the rest.
-/

namespace Strom.Agent

open Strom.Go Strom.Effects Strom.Nutconf Strom.Adoption

/-! ## Credentials in force -/

/-- The account is in `upsd.users`, the server has been reloaded since, and the agent knows and
    advertises it. -/
structure InForce (account : UPSDUser) (node : Node) : Prop where
  users : Grants (node.files .upsdUsers) account
  reloaded : node.serverStale = false
  known : node.credentials = some account
  advertised : node.advertised = true

/-- What `adoption.json` records, if it is an adoption, is in force. -/
def CarriedOut (node : Node) : Prop :=
  ∀ state, node.files .adoption = some (.adoption state) → InForce state.nutAccount node

instance (account : UPSDUser) (node : Node) : Decidable (InForce account node) :=
  decidable_of_iff ((node.files .upsdUsers).any (·.same (usersContent account)) = true ∧
      node.serverStale = false ∧ node.credentials = some account ∧ node.advertised = true)
    ⟨fun ⟨users, reloaded, known, advertised⟩ =>
        ⟨by simpa [Grants, Option.any_eq_true] using users, reloaded, known, advertised⟩,
      fun ⟨users, reloaded, known, advertised⟩ =>
        ⟨by simpa [Grants, Option.any_eq_true] using users, reloaded, known, advertised⟩⟩

instance (node : Node) : Decidable (CarriedOut node) :=
  match recorded : node.files .adoption with
  | some (.adoption state) =>
    decidable_of_iff (InForce state.nutAccount node) (by simp [CarriedOut, recorded])
  | none => .isTrue (by simp [CarriedOut, recorded])
  | some (.text _) | some (.upsConf _ _) | some (.nameMap _) | some (.agentConfig _)
  | some (.certificate _) | some (.key _) => .isTrue (by simp [CarriedOut, recorded])

/-- A call that fails leaves a recorded adoption in force. -/
def Safely (op : AgentOp) (w : EventWorld) : Prop :=
  w.choice.fault.isNone ∨ CarriedOut (perform op w.choice w.state).2

instance (op : AgentOp) (w : EventWorld) : Decidable (Safely op w) :=
  inferInstanceAs (Decidable (_ ∨ _))

/-- `Action.Ends` for runs whose failing calls are safe. -/
abbrev SafelyEnds {ε α : Type} (x : Action AgentOp AgentOp.Reply ε α) (Q : Except ε α → Node → Prop)
    (w : EventWorld) : Prop :=
  Action.Ends (guide perform) Safely x (fun r t => Q r t.state) w

/-- A success leaves a node of which `P` holds, a failure one with its adoption in force. -/
def Reaches {ε α : Type} (P : α → Node → Prop) : Except ε α → Node → Prop
  | .ok value, node => P value node
  | .error _, node => CarriedOut node

/-! ## What is apart from adoptions -/

/-- All that `CarriedOut` depends on. -/
def Node.adoptionView (node : Node) :
    Option Content × Option Content × Bool × Option UPSDUser × Bool :=
  (node.files .adoption, node.files .upsdUsers, node.serverStale, node.credentials, node.advertised)

section Views

variable {node node' : Node}

theorem inForce_of_view {account : UPSDUser} (same : node'.adoptionView = node.adoptionView)
    (held : InForce account node) : InForce account node' := by
  simp only [Node.adoptionView, Prod.mk.injEq] at same
  obtain ⟨-, users, stale, credentials, advertised⟩ := same
  exact ⟨users ▸ held.users, stale ▸ held.reloaded, credentials ▸ held.known, advertised ▸ held.advertised⟩

theorem carriedOut_of_view (same : node'.adoptionView = node.adoptionView) (held : CarriedOut node) :
    CarriedOut node' := by
  intro state recorded
  have adoption : node'.files .adoption = node.files .adoption := congrArg Prod.fst same
  exact inForce_of_view same (held state (adoption ▸ recorded))

theorem carriedOut_of_unrecorded (none_ : ∀ state, node.files .adoption ≠ some (.adoption state)) :
    CarriedOut node := by
  intro state recorded
  exact absurd recorded (none_ state)

end Views

theorem files_put (node : Node) (file : AgentFile) (content : Content) :
    (node.put file content).files file = some content := Function.update_self ..

/-- A file other than these two is none of their business. -/
theorem view_put {file : AgentFile} (content : Content) (node : Node) (other : file ≠ .adoption)
    (other' : file ≠ .upsdUsers) : (node.put file content).adoptionView = node.adoptionView := by
  simp [Node.adoptionView, Node.put, Function.update_of_ne other.symm, Function.update_of_ne other'.symm]

theorem view_of_onCertificate {op : AgentOp} (about : op.onCertificate) (chance : Chance) (node : Node) :
    (perform op chance node).2.adoptionView = node.adoptionView := by
  have apart : ∀ file, op.file? = some file → file = .certificate ∨ file = .key := by
    intro file on
    obtain certificate | key | rfl := about
    · exact .inl (Option.some.inj (on.symm.trans certificate))
    · exact .inr (Option.some.inj (on.symm.trans key))
    · cases on
  cases op with
  | truncate file | write file content =>
    have kept (content : Content) : (node.put file content).adoptionView = node.adoptionView := by
      apply view_put
      · rintro rfl
        simpa using apart _ rfl
      · rintro rfl
        simpa using apart _ rfl
    cases fault : chance.fault with
    | none => simp [fault, kept]
    | some f => cases applied : f.applied <;> simp [fault, applied, kept]
  | rename file content =>
    cases fault : chance.fault with
    | none =>
      obtain rfl | rfl := apart _ rfl <;>
        simp [fault, Node.replace, Node.adoptionView, Node.put, AgentFile.isNUTFile]
    | some f => simp [fault]
  | generateCertificate =>
    cases fault : chance.fault with
    | none => simp [fault, Node.adoptionView]
    | some f => cases applied : f.applied <;> simp [fault, applied, Node.adoptionView]
  | stat file | readFile file | mkdirAll file | stageTemp file content | chmod file =>
    cases fault : chance.fault <;> simp [fault]
  | _ => simp [AgentOp.onCertificate, AgentOp.file?] at about

/-! ## Parts of an adoption -/

section Parts

variable {w : EventWorld} {α : Type}

/-- Where a call fails, what it leaves is safe; where it does not, nothing from outside failed. -/
theorem safely_call (op : AgentOp) (same : op.Reply = Except GoError α) (wrapping : GoError → GoError)
    {P : α → Node → Prop}
    (works : w.choice.fault = none → Reaches P ((same ▸ (perform op w.choice w.state).1 : Except GoError α))
      (perform op w.choice w.state).2)
    (fails : ∀ fault, w.choice.fault = some fault → ∃ e,
      (same ▸ (perform op w.choice w.state).1 : Except GoError α) = .error e) :
    SafelyEnds (call op same wrapping) (Reaches P) w := by
  intro safely
  change Reaches _ ((same ▸ (perform op w.choice w.state).1 : Except GoError α).mapError wrapping)
    (perform op w.choice w.state).2
  cases fault : w.choice.fault with
  | none =>
    have reached := works fault
    cases reply : (same ▸ (perform op w.choice w.state).1 : Except GoError α) with
    | ok value => rwa [reply] at reached
    | error e => rwa [reply] at reached
  | some f =>
    obtain ⟨e, reply⟩ := fails f fault
    rw [reply]
    obtain free | held := safely
    · simp [fault] at free
    · exact held

/-- A part that keeps the view keeps the record in force. -/
theorem safely_kept {ε : Type} {x : Action AgentOp AgentOp.Reply ε α} (only : Action.Only AgentOp.onCertificate x) :
    SafelyEnds x (fun _ node => node.adoptionView = w.state.adoptionView) w :=
  Program.Only.ends (f := fun w : EventWorld => w.state.adoptionView) only
    fun _ _ about => view_of_onCertificate about _ _

theorem safely_plain {x : AgentAction α} {wrapping : GoError → GoError} {P : α → Node → Prop}
    (ends : SafelyEnds x (Reaches P) w) : SafelyEnds (plain wrapping x) (Reaches P) w := by
  apply Action.Ends.mapError ends
  intro r t reached
  cases r <;> exact reached

theorem safely_mkdirAll (file : AgentFile) (wrapping : GoError → GoError) :
    SafelyEnds (call (.mkdirAll file) rfl wrapping) (Reaches fun _ node => node = w.state) w :=
  safely_call (.mkdirAll file) rfl wrapping (by simp_all [Reaches]) (by simp_all)

theorem safely_stageTemp (file : AgentFile) (content : Content) (wrapping : GoError → GoError) :
    SafelyEnds (call (.stageTemp file content) rfl wrapping) (Reaches fun _ node => node = w.state) w :=
  safely_call (.stageTemp file content) rfl wrapping (by simp_all [Reaches]) (by simp_all)

theorem safely_chmod (file : AgentFile) (wrapping : GoError → GoError) :
    SafelyEnds (call (.chmod file) rfl wrapping) (Reaches fun _ node => node = w.state) w :=
  safely_call (.chmod file) rfl wrapping (by simp_all [Reaches]) (by simp_all)

theorem safely_rename (file : AgentFile) (content : Content) (wrapping : GoError → GoError) :
    SafelyEnds (call (.rename file content) rfl wrapping)
      (Reaches fun _ node => node = w.state.replace file content) w :=
  safely_call (.rename file content) rfl wrapping (by simp_all [Reaches]) (by simp_all)

theorem safely_truncate (file : AgentFile) (wrapping : GoError → GoError) :
    SafelyEnds (call (.truncate file) rfl wrapping)
      (Reaches fun _ node => node = w.state.put file .empty) w :=
  safely_call (.truncate file) rfl wrapping (by simp_all [Reaches]) (by simp_all)

/-- The file is empty, so that the write leaves nothing behind. -/
theorem safely_write (file : AgentFile) (content : Content) (wrapping : GoError → GoError)
    (emptied : w.state.files file = some .empty) :
    SafelyEnds (call (.write file content) rfl wrapping)
      (Reaches fun _ node => node = w.state.put file content) w :=
  safely_call (.write file content) rfl wrapping (by simp_all [Reaches, Chance.written]) (by simp_all)

/-- `os.WriteFile`. -/
theorem safely_writeFile (file : AgentFile) (content : Content) :
    SafelyEnds (writeFile file content) (Reaches fun _ node => node = w.state.put file content) w := by
  apply Action.Ends.bind (safely_truncate file _)
  · intro _ t emptied
    have empty : t.state.files file = some .empty := by
      rw [emptied]
      simp [Node.put]
    have twice : t.state.put file content = w.state.put file content := by
      rw [emptied]
      simp [Node.put]
    rw [← twice]
    exact safely_write file content _ empty
  · intro _ _ held
    exact held

theorem safely_replaceFile (file : AgentFile) (content : Content) :
    SafelyEnds (writeIfChanged.replaceFile file content)
      (Reaches fun _ node => node = w.state.replace file content) w := by
  apply Action.Ends.bind (safely_mkdirAll file _)
  · intro _ t made
    apply Action.Ends.bind (safely_stageTemp file content _)
    · intro _ t' written
      apply Action.Ends.bind (safely_rename file content _)
      · intro _ u renamed
        apply Action.Ends.bind (safely_chmod file _)
        · intro _ v kept
          change v.state = w.state.replace file content
          rw [kept, renamed, written, made]
        · intro _ _ held
          exact held
      · intro _ _ held
        exact held
    · intro _ _ held
      exact held
  · intro _ _ held
    exact held

/-- A success brings `upsd.users` up to the account and leaves `adoption.json` alone. -/
theorem safely_writeUsers (account : UPSDUser) :
    SafelyEnds (writeIfChanged .upsdUsers (usersContent account)) (Reaches fun _ node =>
      Grants (node.files .upsdUsers) account ∧ node.files .adoption = w.state.files .adoption) w := by
  have reads : (Program.perform (AgentOp.readFile .upsdUsers) : AgentProgram _).Ends (guide perform)
      Safely (fun reply (t : EventWorld) => t.state = w.state ∧
        (∀ old, reply = .ok old → w.state.files .upsdUsers = some old) ∧
        ∀ e, reply = .error e → e.isNotExist = false → CarriedOut w.state) w := by
    intro safely
    have kept : (perform (.readFile .upsdUsers) w.choice w.state).2 = w.state := by
      cases fault : w.choice.fault <;> simp [fault]
    refine ⟨kept, ?_, ?_⟩
    · intro old found
      exact (readFile_ok (Prod.ext found kept)).1
    · intro e failed other
      obtain free | held := safely
      · change (perform (.readFile .upsdUsers) w.choice w.state).1 = .error e at failed
        cases found : w.state.files .upsdUsers <;> simp_all [GoError.isNotExist]
        subst failed
        simp at other
      · rwa [kept] at held
  apply Action.Ends.bind_always reads
  rintro existing t ⟨same, found, failed⟩
  have replaces : SafelyEnds (writeIfChanged.replaceFile .upsdUsers (usersContent account))
      (Reaches fun _ node => Grants (node.files .upsdUsers) account ∧
        node.files .adoption = w.state.files .adoption) t := by
    apply (safely_replaceFile .upsdUsers (usersContent account)).mono
    intro r node reached
    cases r with
    | error e => exact reached
    | ok changed =>
      have replaced : node.state = t.state.replace .upsdUsers (usersContent account) := reached
      rw [Reaches, replaced, same]
      refine ⟨⟨usersContent account, by simp [Node.replace, Node.put], ?_⟩, ?_⟩
      · simp [Content.same, usersContent, Content.bytes?]
      · simp [Node.replace, Node.put]
  cases existing with
  | ok old =>
    dsimp only
    split
    · next equal =>
      change Grants (t.state.files .upsdUsers) account ∧ t.state.files .adoption = _
      rw [same]
      exact ⟨⟨old, found old rfl, equal⟩, rfl⟩
    · exact replaces
  | error e =>
    dsimp only
    split
    · exact replaces
    · next other =>
      change CarriedOut t.state
      rw [same]
      exact failed e rfl (by simpa using other)

theorem safely_reload :
    SafelyEnds (reload true []) (Reaches fun _ node => node = { w.state with serverStale := false }) w :=
  safely_call (.systemctl .reloadOrRestart .server) rfl _ (by simp_all [Reaches, Node.restarted])
    (by simp_all)

end Parts

/-! ## `ApplyAdoption` -/

section Adopts

variable (a : RuntimeAdopter) (req : AdoptRequest) {w : EventWorld}

/-- What a success of `ApplyAdoption` leaves. -/
def Adopted (node : Node) : Prop := InForce (AdoptRequest.nutAccount req) node ∧ CarriedOut node

/-- Once the adoption is recorded, a success has carried it out. -/
theorem safely_announce (fingerprint : String) {state : AdoptionState}
    (recorded : w.state.files .adoption = some (.adoption state))
    (account : state.nutAccount = AdoptRequest.nutAccount req) :
    SafelyEnds (announceAdoption a req fingerprint) (Reaches fun _ node => Adopted req node) w := by
  apply Action.Ends.bind (safely_plain (safely_writeUsers (AdoptRequest.nutAccount req)))
  · intro _ t ⟨users, adoption⟩
    apply Action.Ends.bind (safely_plain safely_reload)
    · intro _ t' reloaded
      have informs : (Program.perform (AgentOp.updateNUTCredentials (AdoptRequest.nutAccount req)) :
          AgentProgram _).Ends (guide perform) Safely (fun _ (u : EventWorld) => u.state =
            { t'.state with credentials := some (AdoptRequest.nutAccount req) }) t' := fun _ => rfl
      apply Action.Ends.bind_always informs
      intro _ u informed
      have advertises : (Program.perform (AgentOp.updateAdopted true) : AgentProgram _).Ends
          (guide perform) Safely (fun _ (v : EventWorld) => v.state =
            { u.state with advertised := true }) u := fun _ => rfl
      apply Action.Ends.bind_always advertises
      intro _ v advertised
      have node : v.state = { t.state with
          serverStale := false
          credentials := some (AdoptRequest.nutAccount req)
          advertised := true } := by
        rw [advertised, informed, reloaded]
      have inForce : InForce (AdoptRequest.nutAccount req) v.state := by
        rw [node]
        exact ⟨users, rfl, rfl, rfl⟩
      refine ⟨inForce, ?_⟩
      intro other there
      rw [node] at there
      cases (adoption.trans recorded).symm.trans there
      rwa [account]
    · intro _ _ held
      exact held
  · intro _ _ held
    exact held

/-- The record is written; a success has carried it out. -/
theorem safely_firstAdoption (unadopted : w.state.files .adoption = none) :
    SafelyEnds (firstAdoption a req) (Reaches fun _ node => Adopted req node) w := by
  have asks : (Program.perform AgentOp.now : AgentProgram _).Ends (guide perform) Safely
      (fun _ (t : EventWorld) => t.state = w.state) w := fun _ => rfl
  apply Action.Ends.bind_always asks
  intro now t same
  have certifies : SafelyEnds (plain (.wrap "ensure node TLS certificate") (ensureNodeCertificate a))
      (fun _ node => node.files .adoption = none) t := by
    apply (safely_kept (only_plain (only_ensureNodeCertificate a fun _ about => about))).mono
    intro _ node kept
    have adoption : node.state.files .adoption = t.state.files .adoption := congrArg Prod.fst kept
    rw [same] at adoption
    exact adoption.trans unadopted
  apply Action.Ends.bind certifies
  · intro fingerprint t' unrecorded
    apply Action.Ends.bind (safely_plain (safely_mkdirAll .adoption _))
    · intro _ u made
      apply Action.Ends.bind (safely_plain (safely_writeFile .adoption _))
      · intro _ v written
        have recorded : v.state.files .adoption =
            some (.adoption (adoptionStateOf a req fingerprint now)) := by
          rw [written]
          exact files_put ..
        exact safely_announce a req fingerprint recorded rfl
      · intro _ _ held
        exact held
    · intro _ _ held
      exact held
  · intro _ t' unrecorded
    apply carriedOut_of_unrecorded
    intro state
    simp [unrecorded]

theorem safely_readAdoptionState :
    SafelyEnds readAdoptionState (fun r node => node = w.state ∧
      ∀ state, r = .ok state → w.state.files .adoption = some (.adoption state)) w := by
  have reads : SafelyEnds (call (.readFile .adoption) rfl id : AgentAction Content)
      (fun r node => node = w.state ∧
        ∀ content, r = .ok content → w.state.files .adoption = some content) w := by
    intro _
    have kept : (perform (.readFile .adoption) w.choice w.state).2 = w.state := by
      cases fault : w.choice.fault <;> simp [fault]
    refine ⟨kept, ?_⟩
    intro content found
    change ((perform (.readFile .adoption) w.choice w.state).1.mapError id) = .ok content at found
    cases reply : (perform (.readFile .adoption) w.choice w.state).1 with
    | error e =>
      rw [reply] at found
      cases found
    | ok content' =>
      rw [reply] at found
      cases found
      exact (readFile_ok (Prod.ext reply kept)).1
  apply Action.Ends.bind reads
  · intro content t ⟨same, found⟩
    cases content with
    | adoption state =>
      refine ⟨same, ?_⟩
      intro state' is
      cases is
      exact found _ rfl
    | _ => exact ⟨same, fun _ impossible => by cases impossible⟩
  · intro e t ⟨same, found⟩
    exact ⟨same, fun _ impossible => by cases impossible⟩

/-- The end of a replay, where the record is written anew if the port or the fingerprint has
    changed. -/
theorem safely_answer (adopted : Adopted req w.state) (differs : Prop) [Decidable differs]
    (state : AdoptionState) (account : state.nutAccount = AdoptRequest.nutAccount req)
    (response : AdoptResponse) :
    SafelyEnds (do
        if differs then plain (.wrap "write adoption config") (writeAdoptionState state)
        return response : AdoptionAction AdoptResponse)
      (Reaches fun _ node => Adopted req node) w := by
  dsimp only
  split
  · apply Action.Ends.bind (safely_plain (safely_writeFile .adoption (.adoption state)))
    · intro _ t written
      have inForce : InForce (AdoptRequest.nutAccount req) t.state := by
        rw [written]
        exact ⟨adopted.1.users, adopted.1.reloaded, adopted.1.known, adopted.1.advertised⟩
      refine ⟨inForce, ?_⟩
      intro other there
      rw [written] at there
      have same : some (Content.adoption state) = some (.adoption other) :=
        (files_put w.state .adoption (.adoption state)).symm.trans there
      cases same
      rwa [account]
    · intro _ _ held
      exact held
  · exact adopted

/-- A replay writes at most the certificate and the record anew. -/
theorem safely_replayAdoption (held : CarriedOut w.state) :
    SafelyEnds (replayAdoption a req) (Reaches fun _ node => Adopted req node) w := by
  apply Action.Ends.bind (Action.Ends.mapError (Q := fun r node => node.state = w.state ∧
      ∀ state, r = .ok state → w.state.files .adoption = some (.adoption state))
    safely_readAdoptionState ?_)
  · intro existing t ⟨same, found⟩
    have inForce := held existing (found existing rfl)
    split
    · next replayed =>
      have account : existing.nutAccount = AdoptRequest.nutAccount req := by
        simp only [AdoptionState.isFor, Bool.and_eq_true, decide_eq_true_eq] at replayed
        obtain ⟨⟨⟨-, user⟩, password⟩, -⟩ := replayed
        simp [AdoptionState.nutAccount, AdoptRequest.nutAccount, user, password]
      have kept {t' : EventWorld} (view : t'.state.adoptionView = w.state.adoptionView) :
          Adopted req t'.state :=
        ⟨account ▸ inForce_of_view view inForce, carriedOut_of_view view held⟩
      have view : t.state.adoptionView = w.state.adoptionView := congrArg Node.adoptionView same
      have answers (tlsPort : Int) (fingerprint : String) {t' : EventWorld}
          (view : t'.state.adoptionView = w.state.adoptionView) :=
        safely_answer req (kept view) (existing.tlsPort ≠ tlsPort ∨ existing.tlsFingerprint ≠ fingerprint)
          { existing with tlsPort, tlsFingerprint := fingerprint } account
      dsimp only
      split
      · have certifies : SafelyEnds (plain (.wrap "ensure node TLS certificate") (ensureNodeCertificate a))
            (fun _ node => node.adoptionView = t.state.adoptionView) t :=
          safely_kept (only_plain (only_ensureNodeCertificate a fun _ about => about))
        apply Action.Ends.bind certifies
        · intro fingerprint t' certified
          exact answers _ fingerprint (certified.trans view) _
        · intro _ t' certified
          exact (kept (certified.trans view)).2
      · exact answers _ existing.tlsFingerprint view _
    · change CarriedOut t.state
      rwa [same]
  · intro _ t ⟨same, _⟩
    change CarriedOut t.state
    rwa [same]
  · intro r t ⟨same, found⟩
    refine ⟨same, ?_⟩
    intro state is
    cases r with
    | error e => cases is
    | ok existing =>
      cases is
      exact found _ rfl

theorem safely_applyAdoption (held : CarriedOut w.state) :
    SafelyEnds (applyAdoption a req) (Reaches fun _ node => Adopted req node) w := by
  have asks : (Program.perform (AgentOp.stat .adoption) : AgentProgram _).Ends (guide perform) Safely
      (fun reply (t : EventWorld) => t.state = w.state ∧
        ∀ e, reply = .error e → e.isNotExist = true → w.state.files .adoption = none) w := by
    intro _
    have kept : (perform (.stat .adoption) w.choice w.state).2 = w.state := by
      cases fault : w.choice.fault <;> simp [fault]
    refine ⟨kept, ?_⟩
    intro e failed absent
    exact stat_notExist (Prod.ext failed kept) absent
  apply Action.Ends.bind_always asks
  intro reply t ⟨same, missing⟩
  rw [← same] at held missing
  cases reply with
  | ok _ => exact safely_replayAdoption a req held
  | error e =>
    dsimp only
    split
    · next absent => exact safely_firstAdoption a req (missing e rfl absent)
    · exact held

end Adopts

/-! ## Histories of calls -/

/-- A call of `ApplyAdoption`, whatever it returns. -/
def adoptStep (a : RuntimeAdopter) (w : EventWorld) (req : AdoptRequest) : Option EventWorld :=
  some (Action.exec (guide perform) (applyAdoption a req) w).2

/-- No call of the operating system that the adoption makes fails between the record of the
    adoption and the rest. -/
def AdoptsSafely (a : RuntimeAdopter) (w : EventWorld) (req : AdoptRequest) : Prop :=
  (Action.toProgram (applyAdoption a req)).Meets (guide perform) Safely w

instance (a : RuntimeAdopter) (w : EventWorld) (req : AdoptRequest) : Decidable (AdoptsSafely a w req) :=
  inferInstanceAs (Decidable (Program.Meets _ _ _ _))

theorem carriedOut_after {a : RuntimeAdopter} {w : EventWorld} {req : AdoptRequest}
    (held : CarriedOut w.state) (safely : AdoptsSafely a w req) :
    CarriedOut (Action.exec (guide perform) (applyAdoption a req) w).2.state := by
  have reached := (Program.ends_iff _ _).mp (safely_applyAdoption a req held) safely
  unfold Action.exec
  cases outcome : ((Action.toProgram (applyAdoption a req)).run (guide perform) w).1 with
  | error e =>
    rw [outcome] at reached
    exact reached
  | ok response =>
    rw [outcome] at reached
    exact reached.2

/-- After any history of calls, on a node without a record or with one that is in force, a
    success means that the credentials of the request are in force. -/
theorem adoption_in_force (a : RuntimeAdopter) {w w' : EventWorld} {history : List AdoptRequest}
    {req : AdoptRequest} {response : AdoptResponse} (held : CarriedOut w.state)
    (safely : Guarded (adoptStep a) (AdoptsSafely a) w (history ++ [req]))
    (run : replay (adoptStep a) w history = some w')
    (answered : (Action.exec (guide perform) (applyAdoption a req) w').1 = .ok response) :
    InForce (AdoptRequest.nutAccount req) (Action.exec (guide perform) (applyAdoption a req) w').2.state := by
  obtain ⟨earlier, last⟩ := safely.append run
  have before : CarriedOut w'.state := by
    apply replay_invariant (I := fun w => CarriedOut w.state) ?_ held earlier run
    intro w req next held safely taken
    cases taken
    exact carriedOut_after held safely
  have reached := (Program.ends_iff _ _).mp (safely_applyAdoption a req before) last.1
  unfold Action.exec at answered ⊢
  rw [answered] at reached
  exact reached.1

/-- A node that has not been adopted, and the turn at which a call fails. -/
def unadopted (failing : Option Nat) : EventWorld where
  state := {}
  choices := fun i => { fault := if some i = failing then some { reason := "no space left on device" } else none }

theorem adoption_in_force_of_replay : ∃ w response,
    replay (adoptStep adopter1) (unadopted (some 3)) [requestOf "a", requestOf "a"] = some w ∧
      (Action.exec (guide perform) (applyAdoption adopter1 (requestOf "a")) w).1 = .ok response ∧
      InForce (AdoptRequest.nutAccount (requestOf "a"))
        (Action.exec (guide perform) (applyAdoption adopter1 (requestOf "a")) w).2.state := by
  have held : CarriedOut (unadopted (some 3)).state := by decide
  have safely : Guarded (adoptStep adopter1) (AdoptsSafely adopter1) (unadopted (some 3))
      ([requestOf "a", requestOf "a"] ++ [requestOf "a"]) := by decide +kernel
  -- The first call fails before the record, the second adopts, the third is a replay.
  have outcome : (replay (adoptStep adopter1) (unadopted (some 3)) [requestOf "a", requestOf "a"]).map
      (fun w => (Action.exec (guide perform) (applyAdoption adopter1 (requestOf "a")) w).1.isOk) =
        some true := by decide +kernel
  obtain ⟨w, run, succeeds⟩ := Option.map_eq_some_iff.mp outcome
  cases answered : (Action.exec (guide perform) (applyAdoption adopter1 (requestOf "a")) w).1 with
  | error e =>
    rw [answered] at succeeds
    cases succeeds
  | ok response =>
    exact ⟨w, response, run, answered, adoption_in_force adopter1 held safely run answered⟩

/-- The first attempt fails when it replaces `upsd.users`; the second is answered from the record. -/
theorem replay_without_credentials :
    let first := Action.exec (guide perform) (applyAdoption adopter1 (requestOf "a")) (unadopted (some 16))
    let second := Action.exec (guide perform) (applyAdoption adopter1 (requestOf "a")) first.2
    first.1.isOk = false ∧ second.1.isOk = true ∧ second.2.state.files .upsdUsers = none ∧
      second.2.state.credentials = none ∧ second.2.state.advertised = false := by
  decide +kernel

end Strom.Agent
