import Strom.Agent.Adopt
import Strom.Nutconf.Users

/-!
# The user of an adopted node

`ApplyAdoption` writes the account of the request to `upsd.users`.  `adopted_user_iff`: whatever it
puts there is read as this one user, with this password and the two rights, if and only if the name
and the password are plain.
-/

namespace Strom.Agent

open Strom.Go Strom.Effects Strom.Nutconf Strom.Nutconf.Grammar Strom.Adoption

/-- NUT reads this user and nothing else. -/
def Content.definesOnly (content : Content) (user : UPSDUser) : Prop :=
  ∃ text, content = .text text ∧ readConf text = ([], [wantedUser user])

theorem definesOnly_text {text : Bytes} {user : UPSDUser} :
    (Content.text text).definesOnly user ↔ readConf text = ([], [wantedUser user]) := by
  constructor
  · rintro ⟨text', same, read⟩
    cases same
    exact read
  · intro read
    exact ⟨text, rfl, read⟩

/-- An operation that puts a content at `upsd.users` puts this one there. -/
def PutsUsers (content : Content) (op : AgentOp) : Prop :=
  ∀ other, op = .rename .upsdUsers other → other = content

section Puts

variable {content : Content}

theorem putsUsers_of_file {file : AgentFile} (elsewhere : file ≠ .upsdUsers) (op : AgentOp)
    (about : op.file? = some file) : PutsUsers content op := by
  rintro other rfl
  cases about
  exact absurd rfl elsewhere

theorem only_writeIfChanged_users :
    Action.Only (PutsUsers content) (writeIfChanged .upsdUsers content) := by
  have silent : ∀ op : AgentOp, (∀ other, op ≠ .rename .upsdUsers other) → PutsUsers content op :=
    fun op never other same => absurd same (never other)
  have replaces : Action.Only (PutsUsers content) (writeIfChanged.replaceFile .upsdUsers content) := by
    apply Action.Only.bind (only_call rfl _ (silent _ (by simp)))
    intro _
    apply Action.Only.bind (only_call rfl _ (silent _ (by simp)))
    intro _
    apply Action.Only.bind
    · apply only_call rfl
      intro other same
      cases same
      rfl
    · intro _
      apply Action.Only.bind (only_call rfl _ (silent _ (by simp)))
      intro _
      exact Action.only_pure _
  apply Action.Only.bind (only_always (silent _ (by simp)))
  intro existing
  cases existing with
  | ok old =>
    dsimp only
    split
    · exact Action.only_pure _
    · exact replaces
  | error e =>
    dsimp only
    split
    · exact replaces
    · exact Action.only_throw _

end Puts

section Adopting

variable (a : RuntimeAdopter) (req : AdoptRequest)

-- otherwise the unifier evaluates the rendered text
attribute [local irreducible] usersContent

/-- The only content that `ApplyAdoption` puts at `upsd.users` is the account of the request. -/
theorem only_applyAdoption_users :
    Action.Only (PutsUsers (usersContent (AdoptRequest.nutAccount req))) (applyAdoption a req) := by
  have elsewhere : ∀ op : AgentOp, op.file? = some .adoption →
      PutsUsers (usersContent (AdoptRequest.nutAccount req)) op :=
    putsUsers_of_file (by decide)
  have silent : ∀ op : AgentOp, (∀ other, op ≠ .rename .upsdUsers other) →
      PutsUsers (usersContent (AdoptRequest.nutAccount req)) op :=
    fun op never other same => absurd same (never other)
  have certificate : ∀ op : AgentOp, op.onCertificate →
      PutsUsers (usersContent (AdoptRequest.nutAccount req)) op := by
    rintro op (about | about | rfl)
    · exact putsUsers_of_file (by decide) op about
    · exact putsUsers_of_file (by decide) op about
    · exact silent _ (by simp)
  have services : ∀ op : AgentOp, op.isService = true →
      PutsUsers (usersContent (AdoptRequest.nutAccount req)) op := by
    rintro op service other rfl
    cases service
  have records : ∀ state,
      Action.Only (PutsUsers (usersContent (AdoptRequest.nutAccount req))) (writeAdoptionState state) :=
    fun state => only_writeFile _ _ elsewhere
  have first : Action.Only (PutsUsers (usersContent (AdoptRequest.nutAccount req))) (firstAdoption a req) := by
    apply Action.Only.bind (only_always (silent _ (by simp)))
    intro now
    apply Action.Only.bind (only_plain (only_ensureNodeCertificate a certificate))
    intro fingerprint
    apply Action.Only.bind (only_plain (only_call rfl _ (elsewhere _ rfl)))
    intro _
    apply Action.Only.bind (only_plain (records _))
    intro _
    apply Action.Only.bind (only_plain only_writeIfChanged_users)
    intro _
    apply Action.Only.bind (only_plain (only_reload _ _ services))
    intro _
    apply Action.Only.bind (only_always (silent _ (by simp)))
    intro _
    apply Action.Only.bind (only_always (silent _ (by simp)))
    intro _
    exact Action.only_pure _
  have again : Action.Only (PutsUsers (usersContent (AdoptRequest.nutAccount req))) (replayAdoption a req) := by
    have reads : Action.Only (PutsUsers (usersContent (AdoptRequest.nutAccount req))) readAdoptionState := by
      apply Action.Only.bind (only_call rfl _ (elsewhere _ rfl))
      intro content
      cases content with
      | adoption state => exact Action.only_pure _
      | _ => exact Action.only_throw _
    apply Action.Only.bind (only_plain reads)
    intro existing
    split
    · have answers : ∀ (differs : Prop) [Decidable differs] state (response : AdoptResponse),
          Action.Only (PutsUsers (usersContent (AdoptRequest.nutAccount req))) (do
            if differs then plain (.wrap "write adoption config") (writeAdoptionState state)
            return response) := by
        intro differs _ state response
        dsimp only
        split
        · exact Action.Only.bind (only_plain (records _)) fun _ => Action.only_pure _
        · exact Action.only_pure _
      dsimp only
      split
      · exact Action.Only.bind (only_plain (only_ensureNodeCertificate a certificate)) fun _ => answers _ _ _
      · exact Action.Only.bind (Action.only_pure _) fun _ => answers _ _ _
    · exact Action.only_throw _
  apply Action.Only.bind (only_always (elsewhere _ rfl))
  intro existing
  cases existing with
  | ok u => exact again
  | error e =>
    dsimp only
    split
    · exact first
    · exact Action.only_throw _

end Adopting

variable {a : RuntimeAdopter} {req : AdoptRequest}

theorem password_ne_empty (accepted : validateAdoptRequest req = .ok ()) : req.nutPassword ≠ "" := by
  intro empty
  have blank : trimSpace "" = "" := by decide
  simp only [validateAdoptRequest, rejectIf, empty, blank, if_true] at accepted
  split_ifs at accepted <;> cases accepted

/-- What `ApplyAdoption` puts at `upsd.users` for a request that is accepted is read as the one user
    of the request if and only if its name and its password are plain. -/
theorem adopted_user_iff {σ : Type} {h : Handler AgentOp AgentOp.Reply σ} {s : σ} {content : Content}
    (accepted : validateAdoptRequest req = .ok ())
    (put : .rename .upsdUsers content ∈ Action.trace h (applyAdoption a req) s) :
    content.definesOnly (AdoptRequest.nutAccount req) ↔ PlainUser (AdoptRequest.nutAccount req) := by
  obtain rfl : content = usersContent (AdoptRequest.nutAccount req) :=
    (only_applyAdoption_users a req).trace s _ put content rfl
  rw [usersContent, definesOnly_text]
  exact readConf_users_iff (password_ne_empty accepted)

/-- A rename that puts a users file in place. -/
def AgentOp.putsUsers : AgentOp → Bool
  | .rename .upsdUsers _ => true
  | _ => false

/-- A first adoption on a node without files. -/
theorem adopted_user_of_plain : ∃ content,
    .rename .upsdUsers content ∈ Action.trace (fun op node => perform op {} node)
      (applyAdoption adopter1 (requestOf "a")) {} ∧
    content.definesOnly (AdoptRequest.nutAccount (requestOf "a")) := by
  have puts : (Action.trace (fun op node => perform op {} node) (applyAdoption adopter1 (requestOf "a")) {}).any
      AgentOp.putsUsers = true := by
    decide +kernel
  obtain ⟨op, put, which⟩ := List.any_eq_true.mp puts
  have accepted : validateAdoptRequest (requestOf "a") = .ok () := by decide +kernel
  have plain : PlainUser (AdoptRequest.nutAccount (requestOf "a")) := by decide +kernel
  unfold AgentOp.putsUsers at which
  split at which
  · rename_i content
    exact ⟨content, put, (adopted_user_iff accepted put).mpr plain⟩
  · cases which

/-- A password with a line break defines a right of its own and another password. -/
theorem injected_user :
    validateAdoptRequest { requestOf "a" with nutPassword := "x\n[admin]\n  password = y" } = .ok () ∧
    readConf (utf8 (renderUPSDUsers
      (AdoptRequest.nutAccount { requestOf "a" with nutPassword := "x\n[admin]\n  password = y" }))) =
      ([], [{ name := utf8 "controller", settings := [(utf8 "password", some (utf8 "x"))] },
        { name := utf8 "admin", settings := [(utf8 "password", some (utf8 "y")),
          (utf8 "actions", some (utf8 "SET")), (utf8 "instcmds", some (utf8 "ALL"))] }]) := by
  constructor
  · decide +kernel
  · decide +kernel

end Strom.Agent
