import Strom.Api.Encodings
import Strom.Api.HealthProbe
import Strom.Api.Roles

/-!
# What replaces the agent

`Upgraded` lists what a request can do to the installed release: nothing, one update that the adopting
controller has signed, or one install by a session.  The agent restarts only once the release is in place.
-/

namespace Strom.Api

open Strom.Go Strom.Effects Strom.WebAuth Strom.Adoption Strom.Agent

variable {s : Service} {r : Request} {g₀ g t : ApiTrial} {α β : Type}

/-! ## Signed updates -/

/-- The body describes the binary: both texts decode, and the digest is the one of the binary. -/
structure OtaUpdateRequest.Describes (request : OtaUpdateRequest) (p : Signatures) (version : String)
    (binary signature : Bytes) : Prop where
  versionIs : trimSpace request.version = version
  versionGiven : version ≠ ""
  binaryIs : base64Decode (trimSpace request.binaryBase64) = .ok binary
  binaryGiven : binary ≠ []
  signatureIs : base64Decode (trimSpace request.signatureBase64) = .ok signature
  signatureGiven : trimSpace request.signatureBase64 ≠ ""
  digest : hexDecode (toLower (trimSpace request.sha256)).toList = some (p.sha256 binary)
  size : (p.sha256 binary).length = 32

/-- The key of the certificate verifies the signature. -/
def Vouches (p : Signatures) (caPEM : String) (digest signature : Bytes) : Prop :=
  ∃ publicKey, p.publicKey caPEM = .ok publicKey ∧ p.verifyASN1 publicKey digest signature = true

/-- The request carries the token of the adoption, and the update in its body is signed under the certificate of
    the adoption. -/
def ControllerSigned (s : Service) (r : Request) (g : ApiTrial) (version : String) (binary : Bytes) : Prop :=
  HasControllerToken s r g ∧ ∃ adoption request signature, g.state.adoption = .stored adoption ∧
    r.body.otaUpdate = .ok request ∧ request.Describes s.signatures version binary signature ∧
    trimSpace adoption.caPEM ≠ "" ∧ Vouches s.signatures adoption.caPEM (s.signatures.sha256 binary) signature

theorem verifySignedUpdate_ok_iff {p : Signatures} {caPEM : String} {digest signature : Bytes} {u : Unit} :
    verifySignedUpdate p caPEM digest signature = .ok u ↔ digest.length = 32 ∧ Vouches p caPEM digest signature := by
  unfold verifySignedUpdate Vouches
  simp only [except_bind_eq_ok, rejectIf_eq_ok, Decidable.not_not, Bool.not_eq_true', Bool.not_eq_false]
  constructor
  · intro ⟨_, size, publicKey, key, valid⟩
    exact ⟨size, publicKey, key, by simpa using valid⟩
  · intro ⟨size, publicKey, key, valid⟩
    exact ⟨(), size, publicKey, key, by simpa using valid⟩

theorem mapError_eq_ok {ε ε' : Type} {f : ε → ε'} {x : Except ε α} {a : α} :
    x.mapError f = .ok a ↔ x = .ok a := by
  cases x <;> simp [Except.mapError]

theorem decodeUpdate_ok {p : Signatures} {request : OtaUpdateRequest} {binary signature : Bytes}
    (decoded : decodeUpdate p request = .ok (binary, signature)) :
    request.Describes p (trimSpace request.version) binary signature := by
  unfold decodeUpdate at decoded
  split at decoded
  · cases decoded
  · next given =>
    simp only [not_or] at given
    obtain ⟨binary', read, decoded⟩ := except_bind_eq_ok.mp decoded
    split at decoded
    · cases decoded
    · next nonempty =>
      obtain ⟨signature', read', decoded⟩ := except_bind_eq_ok.mp decoded
      split at decoded
      · cases decoded
      · next digest hex =>
        split at decoded
        · cases decoded
        · next size =>
          split at decoded
          · cases decoded
          · next same =>
            cases decoded
            obtain rfl := Decidable.not_not.mp same
            exact {
              versionIs := rfl
              versionGiven := given.1
              binaryIs := mapError_eq_ok.mp read
              binaryGiven := fun empty => nonempty (by rw [empty]; rfl)
              signatureIs := mapError_eq_ok.mp read'
              signatureGiven := given.2.2.2
              digest := hex
              size := Decidable.not_not.mp size }

theorem OtaUpdateRequest.Describes.decoded {p : Signatures} {request : OtaUpdateRequest} {version : String}
    {binary signature : Bytes} (describes : request.Describes p version binary signature) :
    decodeUpdate p request = .ok (binary, signature) := by
  obtain ⟨versionIs, versionGiven, binaryIs, binaryGiven, signatureIs, signatureGiven, digest, size⟩ := describes
  have binaryText : trimSpace request.binaryBase64 ≠ "" := by
    intro empty
    rw [empty] at binaryIs
    exact binaryGiven (Except.ok.inj binaryIs).symm
  have digestText : trimSpace request.sha256 ≠ "" := by
    intro empty
    rw [empty] at digest
    rw [← Option.some.inj digest] at size
    cases size
  have some_ : ¬ binary.length = 0 := fun none => binaryGiven (List.length_eq_zero_iff.mp none)
  unfold decodeUpdate
  rw [if_neg (by simp [versionIs, versionGiven, binaryText, digestText, signatureGiven]), binaryIs, signatureIs, digest]
  simp [Except.mapError, some_, size, bind, Except.bind]

/-! ## What a request does to the release -/

/-- The operations of a request that replace the agent. -/
abbrev upgradesOf (s : Service) (x : ApiAction α) (g : ApiTrial) : List ApiOp :=
  Action.selected (handler s) ApiOp.upgrades x g

/-- What a request can do to the release, from the state it came in. -/
inductive Upgraded (s : Service) (r : Request) (g : ApiTrial) : List ApiOp → Prop where
  | untouched : Upgraded s r g []
  /-- The store did not take the update. -/
  | notStaged {version : String} {binary : Bytes} (signed : ControllerSigned s r g version binary) :
    Upgraded s r g [.stageAndActivate version binary]
  | staged {version : String} {binary : Bytes} (signed : ControllerSigned s r g version binary) (turn : Nat)
    (taken : (g.choices turn).answer (.stageAndActivate version binary) = .ok ()) :
    Upgraded s r g [.stageAndActivate version binary, .restartAgentAsync]
  | notInstalled {version : String} (session : HasSession r g) : Upgraded s r g [.install version]
  | installed {version : String} (session : HasSession r g) (turn : Nat)
    (taken : (g.choices turn).answer (.install version) = .ok ()) :
    Upgraded s r g [.install version, .restartAgentAsync]

theorem exec_orAnswer_ok {ε : Type} {answer : ε → Response} {result : Except ε α} {a : α}
    (passed : Action.exec (handler s) (orAnswer answer result) g = (.ok a, t)) : result = .ok a ∧ t = g := by
  cases result with
  | ok value => cases passed; exact ⟨rfl, rfl⟩
  | error e => cases passed

theorem exec_answerIf_ok {condition : Prop} [Decidable condition] {answer : Response} {u : Unit}
    (passed : Action.exec (handler s) (answerIf condition answer) g = (.ok u, t)) : ¬ condition ∧ t = g := by
  unfold answerIf at passed
  split at passed
  · cases passed
  · next isFalse => cases passed; exact ⟨isFalse, rfl⟩

theorem exec_ask (op : ApiOp) : Action.exec (handler s) (ask op) g = (.ok (handler s op g).1, (handler s op g).2) :=
  rfl

variable {Q : List ApiOp → Prop}

/-- A result that is used where it is no error. -/
theorem upgrades_orAnswer {ε : Type} {answer : ε → Response} {result : Except ε α} {f : α → ApiAction β}
    (none : Q []) (rest : ∀ a, result = .ok a → Q (upgradesOf s (f a) g)) :
    Q (upgradesOf s (orAnswer answer result >>= f) g) := by
  apply Action.selected_bind (only_orAnswer _ _) none
  intro a t passed
  obtain ⟨same, rfl⟩ := exec_orAnswer_ok passed
  exact rest a same

theorem upgrades_answerIf {condition : Prop} [Decidable condition] {answer : Response} {x : ApiAction β}
    (none : Q []) (rest : ¬ condition → Q (upgradesOf s x g)) :
    Q (upgradesOf s (answerIf condition answer >>= fun _ => x) g) := by
  apply Action.selected_bind (only_answerIf _ _) none
  intro u t passed
  obtain ⟨isFalse, rfl⟩ := exec_answerIf_ok passed
  exact rest isFalse

/-- What only reads may come first, and leaves the credentials as they are. -/
theorem Reading.upgrades {x : ApiAction α} {f : α → ApiAction β} (reading : Reading x) (since : Since g₀ g)
    (none : Q []) (rest : ∀ a t, Action.exec (handler s) x g = (.ok a, t) → Since g₀ t →
      Q (upgradesOf s (f a) t)) : Q (upgradesOf s (x >>= f) g) := by
  apply Action.selected_bind reading.plain.staying none
  intro a t passed
  exact rest a t passed (reading.since since passed)

theorem upgradesOf_ask {op : ApiOp} (upgrade : op.upgrades = true) {f : op.Reply → ApiAction β} :
    upgradesOf s (ask op >>= f) g = op :: upgradesOf s (f (handler s op g).1) (handler s op g).2 := by
  show ((op :: (Action.toProgram (f (handler s op g).1)).trace (handler s) (handler s op g).2).filter _) = _
  rw [List.filter_cons_of_pos upgrade]
  rfl

/-- The last steps of an upgrade: the agent restarts if the release is in place. -/
theorem upgradesOf_restart (answer : GoError → Response) (result : Except GoError Unit) :
    upgradesOf s (orAnswer answer result >>= fun _ => ask .restartAgentAsync >>= fun _ => pure ok) g =
      match result with
      | .ok _ => [.restartAgentAsync]
      | .error _ => [] := by
  cases result <;> rfl

theorem upgraded_handleUpdatesInstall (enabled : s.auth.enabled = true) :
    Upgraded s r g (upgradesOf s (handleUpdatesInstall s r) g) := by
  apply (reading_requireMethod _).upgrades (Since.refl g) .untouched
  intro _ t _ since
  apply reading_checkPageCSRF.upgrades since .untouched
  intro _ u _ since
  apply reading_requireSession.upgrades since .untouched
  intro username v passed since'
  have session : HasSession r g := requireSession_secures enabled since passed
  apply upgrades_answerIf .untouched
  intro _
  apply upgrades_orAnswer .untouched
  intro version _
  apply upgrades_answerIf .untouched
  intro _
  rw [upgradesOf_ask rfl, upgradesOf_restart]
  have answered : (handler s (.install (trimSpace version)) v).1 =
      (g.choices v.turn).answer (.install (trimSpace version)) := by
    rw [← since'.choices]
    rfl
  rw [answered]
  cases reply : (g.choices v.turn).answer (.install (trimSpace version)) with
  | error e => exact .notInstalled session
  | ok u => exact .installed session v.turn reply

/-- The adoption that is read is the one when the request came. -/
theorem loadAdoption_ok {adoption : Option StoredAdoption} {u : Service} (since : Since g₀ g)
    (loaded : (handler u .loadAdoption g).1 = .ok adoption) :
    adoption = none ∨ ∃ stored, adoption = some stored ∧ g₀.state.adoption = .stored stored := by
  have read : (handler u .loadAdoption g).1 = g₀.state.adoption.load g.choice.fault := by
    rw [← since.adoption]
    rfl
  rw [read] at loaded
  unfold AdoptionFile.load at loaded
  split at loaded
  · cases loaded
  · exact .inl (Except.ok.inj loaded).symm
  · cases loaded
  · next stored _ file =>
    exact .inr ⟨stored, (Except.ok.inj loaded).symm, file⟩

theorem upgraded_handleAgentUpdate (enabled : s.auth.enabled = true) :
    Upgraded s r g (upgradesOf s (handleAgentUpdate s r) g) := by
  apply (reading_requireMethod _).upgrades (Since.refl g) .untouched
  intro _ t _ since
  apply reading_requireControllerToken.upgrades since .untouched
  intro _ u passed since'
  have token : HasControllerToken s r g := requireControllerToken_secures enabled since passed
  apply upgrades_orAnswer .untouched
  intro request body
  apply upgrades_orAnswer .untouched
  intro (binary, signature) decoded
  have describes := decodeUpdate_ok decoded
  apply Reading.upgrades (only_ask (show ApiOp.Reads .loadAdoption from trivial)) since' .untouched
  intro loaded v asked since''
  have reply : loaded = (handler s .loadAdoption u).1 := (Except.ok.inj (congrArg Prod.fst asked)).symm
  apply upgrades_orAnswer .untouched
  intro adoption read
  apply upgrades_answerIf .untouched
  intro given
  apply upgrades_orAnswer .untouched
  intro _ verified
  have vouches := (verifySignedUpdate_ok_iff.mp verified).2
  have signed : ControllerSigned s r g (trimSpace request.version) binary := by
    rcases loadAdoption_ok since' (reply.symm.trans read) with rfl | ⟨stored, rfl, file⟩
    · exact absurd rfl given
    · exact ⟨token, stored, request, signature, file, wrapError_eq_ok.mp body, describes, given, vouches⟩
  rw [upgradesOf_ask rfl, upgradesOf_restart]
  have answered : (handler s (.stageAndActivate (trimSpace request.version) binary) v).1 =
      (g.choices v.turn).answer (.stageAndActivate (trimSpace request.version) binary) := by
    rw [← since''.choices]
    rfl
  rw [answered]
  cases reply : (g.choices v.turn).answer (.stageAndActivate (trimSpace request.version) binary) with
  | error e => exact .notStaged signed
  | ok u => exact .staged signed v.turn reply

theorem HasRole.upgraded (enabled : s.auth.enabled = true) {x : ApiAction Response} (role : HasRole s r x) :
    Upgraded s r g (upgradesOf s x g) := by
  have none : ∀ {y : ApiAction Response}, Staying y → Upgraded s r g (upgradesOf s y g) := by
    intro y staying
    have empty : upgradesOf s y g = [] := Action.selected_of_only staying g
    rw [empty]
    exact .untouched
  cases role with
  | plain plain => exact none plain.staying
  | login => exact none staying_handleLogin
  | bootstrap => exact none staying_handleBootstrap
  | update => exact upgraded_handleAgentUpdate enabled
  | install => exact upgraded_handleUpdatesInstall enabled

/-! ## A signed update is staged -/

theorem serve_update (path : r.rawPath = utf8 "/api/agent/update") : serve s r = handleAgentUpdate s r := by
  have segments : (splitPath (utf8 "/api/agent/update")).mapM pathUnescape =
      some [[], utf8 "api", utf8 "agent", utf8 "update"] := by decide +kernel
  have clean : Routes.isUnclean (utf8 "/api/agent/update") = false := by decide +kernel
  have best : mostSpecific [[], utf8 "api", utf8 "agent", utf8 "update"] patterns =
      some ("/api/agent/update", 22) := by decide +kernel
  have found : mostSpecific [[], utf8 "api", utf8 "agent", utf8 "update"] (routes s r) =
      some ("/api/agent/update", handleAgentUpdate s r) := by
    rw [routes_eq, mostSpecific_map, best]
    rfl
  have same : splitPath (utf8 "/api/agent/update") = [[], utf8 "api", utf8 "agent", utf8 "update"] := by decide +kernel
  unfold serve
  rw [path, segments]
  simp only [clean, found, same]
  simp

/-- The adoption file is read without an error. -/
theorem load_of_stored {adoption : StoredAdoption} (file : g.state.adoption = .stored adoption)
    (fault : g.choice.fault = none) : handler s .loadAdoption g = (.ok (some adoption), g.next g.state) := by
  have read : (handler s .loadAdoption g).1 = g.state.adoption.load g.choice.fault := rfl
  rw [file, fault] at read
  exact Prod.ext read rfl

theorem exec_requireControllerToken (enabled : s.auth.enabled = true) (located : s.adoptionPath ≠ "")
    (fault : g.choice.fault = none) (token : HasControllerToken s r g) :
    Action.exec (handler s) (requireControllerToken s r) g = (.ok (), g.next g.state) := by
  obtain ⟨adoption, file, given, stored, same⟩ := token
  have matched : Action.exec (handler s) (controllerTokenMatches s r) g = (.ok (.ok true), g.next g.state) := by
    unfold controllerTokenMatches
    rw [if_neg located, if_neg given, exec_asked, load_of_stored file fault]
    simp [stored, ← same]
  unfold requireControllerToken
  rw [if_neg (by simp [enabled]), Action.exec_bind, matched]
  simp

theorem orAnswer_ok_bind {ε : Type} {answer : ε → Response} {a : α} {f : α → ApiAction β} :
    orAnswer answer (.ok a) >>= f = f a := rfl

theorem answerIf_bind {condition : Prop} [Decidable condition] (isFalse : ¬ condition) {answer : Response}
    {f : Unit → ApiAction β} : answerIf condition answer >>= f = f () := by
  unfold answerIf
  rw [if_neg isFalse]
  rfl

/-- The last steps of an update. -/
def activate (version : String) (binary : Bytes) : ApiAction Response := do
  let staged ← ask (.stageAndActivate version binary)
  orAnswer internalServerError staged
  ask .restartAgentAsync
  return ok

/-- What the handler does with the adoption that it has read. -/
def verifyAndActivate (p : Signatures) (version : String) (binary signature : Bytes)
    (loaded : Except GoError (Option StoredAdoption)) : ApiAction Response := do
  let adoption ← orAnswer internalServerError loaded
  let caPEM := (adoption.map (·.caPEM)).getD ""
  answerIf (trimSpace caPEM = "") ⟨409, "node adoption CA is unavailable for signature verification"⟩
  orAnswer (fun e => ⟨401, e.message⟩) (verifySignedUpdate p caPEM (p.sha256 binary) signature)
  activate version binary

theorem verifyAndActivate_of_vouches {p : Signatures} {version : String} {binary signature : Bytes}
    {adoption : StoredAdoption} (size : (p.sha256 binary).length = 32) (given : trimSpace adoption.caPEM ≠ "")
    (vouches : Vouches p adoption.caPEM (p.sha256 binary) signature) :
    verifyAndActivate p version binary signature (.ok (some adoption)) = activate version binary := by
  have verified : verifySignedUpdate p adoption.caPEM (p.sha256 binary) signature = .ok () :=
    verifySignedUpdate_ok_iff.mpr ⟨size, vouches⟩
  unfold verifyAndActivate
  rw [orAnswer_ok_bind]
  dsimp only [Option.map_some, Option.getD_some]
  rw [answerIf_bind given, verified, orAnswer_ok_bind]

/-- The handler, for a body that describes an update. -/
theorem handleAgentUpdate_of_describes {request : OtaUpdateRequest} {version : String} {binary signature : Bytes}
    (post : r.method = "POST") (body : r.body.otaUpdate = .ok request)
    (describes : request.Describes s.signatures version binary signature) :
    handleAgentUpdate s r = requireControllerToken s r >>= fun _ =>
      ask .loadAdoption >>= verifyAndActivate s.signatures version binary signature := by
  unfold handleAgentUpdate requireMethod
  rw [answerIf_bind (by simp [post]), body]
  congr 1
  funext _
  rw [wrapError, Except.mapError, orAnswer_ok_bind, describes.decoded, orAnswer_ok_bind]
  dsimp only
  rw [describes.versionIs]
  rfl

/-- What the handler does with an update that is signed: it puts it in place, and answers accordingly. -/
theorem handleAgentUpdate_of_signed {version : String} {binary : Bytes} (enabled : s.auth.enabled = true)
    (post : r.method = "POST") (located : s.adoptionPath ≠ "") (faultless : ∀ n, (g.choices n).fault = none)
    (signed : ControllerSigned s r g version binary) : ∃ turn,
      upgradesOf s (handleAgentUpdate s r) g = .stageAndActivate version binary ::
        (match (g.choices turn).answer (.stageAndActivate version binary) with
          | .ok _ => [.restartAgentAsync]
          | .error _ => []) ∧
      (Action.exec (handler s) (handleAgentUpdate s r) g).1 =
        (match (g.choices turn).answer (.stageAndActivate version binary) with
          | .ok _ => .ok ok
          | .error e => .error (internalServerError e)) := by
  obtain ⟨token, adoption, request, signature, file, body, describes, given, vouches⟩ := signed
  have gate := exec_requireControllerToken (g := g) enabled located (faultless _) token
  have load : handler s .loadAdoption (g.next g.state) = (.ok (some adoption), (g.next g.state).next g.state) :=
    load_of_stored (g := g.next g.state) file (faultless _)
  have loaded : Action.exec (handler s) (ask .loadAdoption) (g.next g.state) =
      (.ok (.ok (some adoption)), (g.next g.state).next g.state) := by
    rw [exec_ask, load]
  have staged : (handler s (.stageAndActivate version binary) ((g.next g.state).next g.state)).1 =
      (g.choices (g.turn + 2)).answer (.stageAndActivate version binary) := rfl
  have last : verifyAndActivate s.signatures version binary signature (.ok (some adoption)) = activate version binary :=
    verifyAndActivate_of_vouches describes.size given vouches
  rw [handleAgentUpdate_of_describes post body describes]
  refine ⟨g.turn + 2, ?_, ?_⟩
  · rw [upgradesOf, Action.selected_bind_ok reading_requireControllerToken.plain.staying gate,
      Action.selected_bind_ok (only_ask (P := fun op => op.upgrades = false) rfl) loaded, last]
    show upgradesOf s (ask (.stageAndActivate version binary) >>= _) _ = _
    rw [upgradesOf_ask rfl, staged]
    cases (g.choices (g.turn + 2)).answer (.stageAndActivate version binary) <;> rfl
  · rw [Action.exec_bind, gate]
    dsimp only
    rw [Action.exec_bind, loaded]
    dsimp only
    rw [last, activate, exec_asked, staged]
    cases (g.choices (g.turn + 2)).answer (.stageAndActivate version binary) <;> rfl

/-! ## What the answer says -/

/-- An early answer is that of an error. -/
def Refuses (x : ApiAction α) : Prop :=
  ∀ (s : Service) (g t : ApiTrial) (e : Response), Action.exec (handler s) x g = (.error e, t) → 400 ≤ e.status

theorem refuses_orAnswer {ε : Type} {answer : ε → Response} (result : Except ε α)
    (refusal : ∀ e, result = .error e → 400 ≤ (answer e).status) : Refuses (orAnswer answer result) := by
  intro s g t e failed
  cases result with
  | ok a => cases failed
  | error e' =>
    cases failed
    exact refusal e' rfl

theorem refuses_answerIf {condition : Prop} [Decidable condition] {answer : Response} (refusal : 400 ≤ answer.status) :
    Refuses (answerIf condition answer) := by
  intro s g t e failed
  unfold answerIf at failed
  split at failed
  · cases failed
    exact refusal
  · cases failed

theorem refuses_requireControllerToken : Refuses (requireControllerToken s r) := by
  intro s' g t e failed
  unfold requireControllerToken at failed
  split at failed
  · cases failed
    decide
  · have matched : ∃ a u, Action.exec (handler s') (controllerTokenMatches s r) g = (.ok a, u) := by
      unfold controllerTokenMatches
      split
      · exact ⟨_, _, rfl⟩
      · split
        · exact ⟨_, _, rfl⟩
        · rw [exec_asked]
          cases (handler s' .loadAdoption g).1 with
          | error e => exact ⟨_, _, rfl⟩
          | ok adoption => cases adoption <;> exact ⟨_, _, rfl⟩
    obtain ⟨a, u, matched⟩ := matched
    rw [Action.exec_bind, matched] at failed
    dsimp only at failed
    split at failed
    · cases failed
    · cases failed
      decide

theorem except_bind_eq_error {ε : Type} {x : Except ε α} {f : α → Except ε β} {e : ε}
    (failed : (x >>= f) = .error e) : x = .error e ∨ ∃ a, x = .ok a ∧ f a = .error e := by
  cases x with
  | error e' =>
    cases failed
    exact .inl rfl
  | ok a => exact .inr ⟨a, rfl, failed⟩

theorem mapError_eq_error {ε ε' : Type} {f : ε → ε'} {x : Except ε α} {e : ε'} (failed : x.mapError f = .error e) :
    ∃ cause, e = f cause := by
  cases x with
  | error cause => exact ⟨cause, (Except.error.inj failed).symm⟩
  | ok a => cases failed

theorem decodeUpdate_error {p : Signatures} {request : OtaUpdateRequest} {answer : Response}
    (refused : decodeUpdate p request = .error answer) : answer.status = 400 := by
  unfold decodeUpdate at refused
  split at refused
  · cases refused
    rfl
  · rcases except_bind_eq_error refused with unread | ⟨binary, -, refused⟩
    · obtain ⟨cause, rfl⟩ := mapError_eq_error unread
      rfl
    · split at refused
      · cases refused
        rfl
      · rcases except_bind_eq_error refused with unread | ⟨signature, -, refused⟩
        · obtain ⟨cause, rfl⟩ := mapError_eq_error unread
          rfl
        · split at refused
          · cases refused
            rfl
          · split at refused
            · cases refused
              rfl
            · split at refused
              · cases refused
                rfl
              · cases refused

/-- What the answer to a controller's update says: either the update is in place and the agent restarts, or it is
    that of an error. -/
def Answered (replaced : List ApiOp) (result : Except Response Response) : Prop :=
  (∃ version binary, replaced = [.stageAndActivate version binary, .restartAgentAsync] ∧ result = .ok ok) ∨
    ∃ answer, result = .error answer ∧ 400 ≤ answer.status

theorem answered_bind {x : ApiAction α} {f : α → ApiAction Response} (staying : Staying x) (refuses : Refuses x)
    (rest : ∀ a t, Action.exec (handler s) x g = (.ok a, t) →
      Answered (upgradesOf s (f a) t) (Action.exec (handler s) (f a) t).1) :
    Answered (upgradesOf s (x >>= f) g) (Action.exec (handler s) (x >>= f) g).1 :=
  Action.selected_exec_bind (Q := Answered) staying (fun e t failed => .inr ⟨e, rfl, refuses s g t e failed⟩) rest

theorem answered_handleAgentUpdate :
    Answered (upgradesOf s (handleAgentUpdate s r) g) (Action.exec (handler s) (handleAgentUpdate s r) g).1 := by
  apply answered_bind (reading_requireMethod _).plain.staying (refuses_answerIf (by decide))
  intro _ _ _
  apply answered_bind reading_requireControllerToken.plain.staying refuses_requireControllerToken
  intro _ _ _
  apply answered_bind (only_orAnswer _ _) (refuses_orAnswer _ fun _ _ => (by decide : 400 ≤ 400))
  intro request _ _
  apply answered_bind (only_orAnswer _ _) (refuses_orAnswer _ fun e refused => (decodeUpdate_error refused).ge)
  intro (binary, signature) _ _
  apply answered_bind (only_ask rfl) (fun _ _ _ _ failed => by cases failed)
  intro loaded _ _
  apply answered_bind (only_orAnswer _ _) (refuses_orAnswer _ fun _ _ => (by decide : 400 ≤ 500))
  intro adoption _ _
  apply answered_bind (only_answerIf _ _) (refuses_answerIf (by decide))
  intro _ _ _
  apply answered_bind (only_orAnswer _ _) (refuses_orAnswer _ fun _ _ => (by decide : 400 ≤ 401))
  intro _ t _
  rw [upgradesOf_ask rfl, exec_asked]
  cases (handler s (.stageAndActivate (trimSpace request.version) binary) t).1 with
  | error e => exact .inr ⟨_, rfl, (by decide : 400 ≤ 500)⟩
  | ok u => exact .inl ⟨_, _, rfl, rfl⟩

/-- The least that an agent may be sent. -/
def elf : Bytes := [0x7f, 0x45, 0x4c, 0x46]

def elfDigest : Bytes :=
  [0x3b, 0xdb, 0xb4, 0xfe, 0x83, 0x97, 0xcd, 0x2b, 0x84, 0x24, 0x30, 0xb3, 0x9c, 0xcf, 0xf0, 0x1a,
    0x86, 0x63, 0xc7, 0x51, 0x94, 0x5e, 0xf5, 0xe9, 0xa0, 0x9e, 0x26, 0x7f, 0xb8, 0xb1, 0xd3, 0x59]

/-- The digest of `token`. -/
def tokenDigest : Bytes :=
  [0x3c, 0x46, 0x9e, 0x9d, 0x6c, 0x58, 0x75, 0xd3, 0x7a, 0x43, 0xf3, 0x53, 0xd4, 0xf8, 0x8e, 0x61,
    0xfc, 0xf8, 0x12, 0xc6, 0x6e, 0xee, 0x34, 0x57, 0x46, 0x5a, 0x40, 0xb0, 0xda, 0x41, 0x53, 0xe0]

def adoptedService : Service where
  auth := readKeyService.auth
  adoptionPath := "/var/lib/strom/adoption.json"
  signatures :=
    { sha256 := fun data => if data = elf then elfDigest else tokenDigest
      publicKey := fun _ => .ok [4]
      verifyASN1 := fun _ digest signature => digest = elfDigest ∧ signature = [0x30] }

def elfAdoption : StoredAdoption where
  tokenSHA256 := hexEncode tokenDigest
  caPEM := "-----BEGIN CERTIFICATE-----"

def adoptedTrial : ApiTrial where
  state := { adoption := .stored elfAdoption }
  choices := fun _ => { answer := quietReply }

def elfUpdate : OtaUpdateRequest where
  version := "v1.2.0"
  binaryBase64 := base64Encode elf
  sha256 := hexEncode elfDigest
  signatureBase64 := base64Encode [0x30]

def elfRequest : Request where
  method := "POST"
  rawPath := utf8 "/api/agent/update"
  authorization := "Bearer token"
  body := { otaUpdate := .ok elfUpdate }

theorem describes_elfUpdate : elfUpdate.Describes adoptedService.signatures "v1.2.0" elf [0x30] where
  versionIs := by decide +kernel
  versionGiven := by decide
  binaryIs := by rw [elfUpdate, trimSpace_base64Encode, base64Decode_encode]
  binaryGiven := by decide
  signatureIs := by rw [elfUpdate, trimSpace_base64Encode, base64Decode_encode]
  signatureGiven := by decide +kernel
  digest := by decide +kernel
  size := by decide +kernel

end Strom.Api
