import Strom.Nutconf.Readback
import Strom.WebAuth.SshRuns

/-!
# What `chpasswd` is told (`ssh_access.go`)

`chpasswd` takes a line for each account, the name before the first colon and the password behind
it.  `fed_password_iff`: the input that a handler gives to it sets the password of `admin` to the
one of the request, and does nothing else, if and only if the password has no line feed.
-/

namespace Strom.WebAuth

open Strom.Go Strom.Effects

/-- The name in a line, and the password behind the first colon. -/
def passwordPair (line : List Char) : String × Option String :=
  (String.ofList (line.takeWhile (· ≠ ':')), (line.dropWhile (· ≠ ':')).tail?.map String.ofList)

/-- The changes that an input asks for, line by line. -/
def passwordPairs (input : String) : List (String × Option String) :=
  (Nutconf.scanLines input.toList).map passwordPair

theorem scanLines_of_inLine {line : List Char} (inLine : '\n' ∉ line) :
    Nutconf.scanLines (line ++ ['\n']) = [line] := by
  induction line with
  | nil => rfl
  | cons c line ih =>
    rw [List.mem_cons, not_or] at inLine
    rw [List.cons_append, Nutconf.scanLines, if_neg (Ne.symm inLine.1), ih inLine.2]

theorem passwordPair_admin (rest : List Char) :
    passwordPair ("admin:".toList ++ rest) = (defaultAdminUsername, some (String.ofList rest)) := by
  simp [passwordPair, defaultAdminUsername]

theorem passwordLine_toList (password : String) :
    (SshAccess.passwordLine password).toList = ("admin:".toList ++ password.toList) ++ ['\n'] := by
  simp [SshAccess.passwordLine, defaultAdminUsername]

theorem passwordPairs_passwordLine_iff {password : String} :
    passwordPairs (SshAccess.passwordLine password) = [(defaultAdminUsername, some password)] ↔
      '\n' ∉ password.toList := by
  have prefix_ : '\n' ∉ "admin:".toList := by decide
  rw [passwordPairs, passwordLine_toList]
  constructor
  · intro same inside
    obtain ⟨line, lines, pair⟩ := List.map_eq_singleton_iff.mp same
    -- the one line that was read holds the whole password
    obtain ⟨behind, found, rfl⟩ := Option.map_eq_some_iff.mp (congrArg Prod.snd pair)
    rw [String.toList_ofList] at inside
    have inLine : '\n' ∉ line := by
      apply Nutconf.scanLines_inLine _ line
      rw [lines]
      exact List.mem_singleton.mpr rfl
    cases cut : line.dropWhile (· ≠ ':') with
    | nil =>
      rw [cut] at found
      cases found
    | cons colon rest =>
      rw [cut, List.tail?_cons, Option.some.injEq] at found
      obtain rfl := found
      apply inLine
      apply (List.dropWhile_suffix (· ≠ ':')).subset
      rw [cut]
      exact List.mem_cons_of_mem _ inside
  · intro inLine
    have all : '\n' ∉ "admin:".toList ++ password.toList := by
      rw [List.mem_append, not_or]
      exact ⟨prefix_, inLine⟩
    rw [scanLines_of_inLine all, List.map_singleton, passwordPair_admin, String.ofList_toList]

/-! ## The handlers -/

/-- If the operation runs `chpasswd`, then for this password. -/
def Feeds (password : String) (op : AccessOp) : Prop :=
  ∀ input, op = .chpasswd input → input = SshAccess.passwordLine password

/-- The password that a request is about. -/
def AccessRequest.password : AccessRequest → String
  | changePassword _ _ newPassword _ => newPassword
  | sshSetting _ _ password => password

section Feeding

variable {password : String}

theorem feeds_silent {op : AccessOp} (silent : ∀ input, op ≠ .chpasswd input) : Feeds password op :=
  fun input same => absurd same (silent input)

theorem only_liftAuth {α : Type} (p : AuthProgram α) : (liftAuth p).Only (Feeds password) := by
  induction p with
  | ret value => trivial
  | call op next ih => exact ⟨feeds_silent (by simp), ih⟩

theorem only_ofAuth {α : Type} (x : AuthAction α) : Action.Only (Feeds password) (ofAuth x) := only_liftAuth _

theorem only_refuse {α : Type} {answer : GoError → Refusal} {x : AccessAction α}
    (only : Action.Only (Feeds password) x) : Action.Only (Feeds password) (refuse answer x) :=
  Action.Only.mapError only

theorem only_run (context : String) (step : SystemStep) :
    Action.Only (Feeds password) (SshAccess.run context step) :=
  Action.Only.mapError (Program.only_perform (feeds_silent (by simp)))

theorem only_syncPassword : Action.Only (Feeds password) (SshAccess.syncPassword password) := by
  apply Action.Only.bind
  · apply Action.Only.mapError
    apply Program.only_perform
    intro input same
    cases same
    rfl
  · intro _
    apply Action.Only.bind
    · exact Action.Only.mapError (Program.only_perform (feeds_silent (by simp)))
    · exact fun _ => Action.only_ofExcept _

theorem only_validateAndRestart : Action.Only (Feeds password) SshAccess.validateAndRestart :=
  Action.Only.bind (only_run _ _) fun _ => only_run _ _

theorem only_enable : Action.Only (Feeds password) (SshAccess.enable password) := by
  apply Action.Only.bind
  · apply Action.Only.bind (Action.Only.always (Program.only_perform (feeds_silent (by simp))))
    intro existing
    cases existing <;> exact only_run _ _
  · intro _
    apply Action.Only.bind only_syncPassword
    intro hash
    apply Action.Only.bind (Action.Only.bind (only_run _ _) fun _ => only_run _ _)
    intro _
    apply Action.Only.bind only_validateAndRestart
    exact fun _ => Action.only_pure _

theorem only_disable : Action.Only (Feeds password) SshAccess.disable := by
  have locks : Action.Only (Feeds password) SshAccess.disable.lock :=
    Action.Only.bind (only_run _ _) fun _ => only_validateAndRestart
  apply Action.Only.bind (Action.Only.always (Program.only_perform (feeds_silent (by simp))))
  intro removed
  cases removed with
  | ok u => exact locks
  | error e =>
    dsimp only
    split
    · exact locks
    · exact Action.only_throw _

theorem only_requireSession (a : AuthManager) (cookie : Option String) :
    Action.Only (Feeds password) (requireSession a cookie) := by
  unfold requireSession
  split
  · exact Action.only_pure _
  · apply Action.Only.bind (Action.Only.always (only_liftAuth _))
    intro bootstrapped
    split
    · exact Action.only_throw _
    · exact only_refuse (only_ofAuth _)

/-- A handler runs `chpasswd` for the password of its request only. -/
theorem only_handle (a : AuthManager) (request : AccessRequest) :
    (request.handle a).Only (Feeds request.password) := by
  cases request with
  | changePassword cookie currentPassword newPassword confirmPassword =>
    apply Action.Only.bind (only_requireSession a cookie)
    intro username
    split
    · exact Action.only_throw _
    · apply Action.Only.bind (only_refuse (only_ofAuth _))
      intro sshEnabled
      apply Action.Only.bind
      · unfold syncIfEnabled
        split
        · exact Action.Only.bind (only_refuse only_syncPassword) fun _ => only_refuse (only_ofAuth _)
        · exact Action.only_pure _
      · exact fun _ => only_refuse (only_ofAuth _)
  | sshSetting cookie enabled password =>
    apply Action.Only.bind (only_requireSession a cookie)
    intro username
    split
    · apply Action.Only.bind (only_refuse (only_ofAuth _))
      intro _
      apply Action.Only.bind (only_refuse only_enable)
      exact fun _ => only_refuse (only_ofAuth _)
    · apply Action.Only.bind (only_refuse only_disable)
      exact fun _ => only_refuse (only_ofAuth _)

end Feeding

/-- What a handler gives to `chpasswd` sets the password of `admin` to the one of the request, and
    nothing else, if and only if the password has no line feed. -/
theorem fed_password_iff {a : AuthManager} {request : AccessRequest} {σ : Type}
    {h : Handler AccessOp AccessOp.Reply σ} {s : σ} {input : String}
    (fed : .chpasswd input ∈ (request.handle a).trace h s) :
    passwordPairs input = [(defaultAdminUsername, some request.password)] ↔
      '\n' ∉ request.password.toList := by
  obtain rfl : input = SshAccess.passwordLine request.password := (only_handle a request).trace s _ fed input rfl
  exact passwordPairs_passwordLine_iff

/-- An account without SSH access, and with it. -/
def sshAccount (sshEnabled : Option Bool) : Machine where
  auth := {
    file := .stored { username := "admin", passwordHash := "$2a$10$old-password", createdAt := ⟨0⟩, sshEnabled }
    sessions := [{ token := "t", username := "admin", csrfToken := "c", expiresAt := ⟨1⟩ }] }
  linux := { account := true, password := some "old-password", config := true }

/-- The commands succeed, and `getent` prints a hash. -/
def succeeding : Handler AccessOp AccessOp.Reply Machine := fun op m =>
  performAccess { enabled := true, bcrypt := readable } firstLine op { output := "admin:$y$hash:19000:0" } m

def AccessOp.feeds : AccessOp → Bool
  | .chpasswd _ => true
  | _ => false

theorem fed_password_of_plain : ∃ input,
    .chpasswd input ∈ ((AccessRequest.changePassword (some "t") "old-password" "new:password"
      "new:password").handle { enabled := true, bcrypt := readable }).trace succeeding (sshAccount (some true)) ∧
    passwordPairs input = [("admin", some "new:password")] := by
  have feeds : (((AccessRequest.changePassword (some "t") "old-password" "new:password" "new:password").handle
      { enabled := true, bcrypt := readable }).trace succeeding (sshAccount (some true))).any
        AccessOp.feeds = true := by
    decide +kernel
  obtain ⟨op, fed, which⟩ := List.any_eq_true.mp feeds
  unfold AccessOp.feeds at which
  split at which
  · rename_i input
    exact ⟨input, fed, (fed_password_iff fed).mpr (by decide)⟩
  · cases which

/-- A change that is accepted sets the password of another account too. -/
theorem fed_password_of_two_lines :
    let request : AccessRequest :=
      .changePassword (some "t") "old-password" "new-password\nroot:owned" "new-password\nroot:owned"
    let program := request.handle { enabled := true, bcrypt := readable }
    (program.run succeeding (sshAccount (some true))).1 = .ok () ∧
      .chpasswd "admin:new-password\nroot:owned\n" ∈ program.trace succeeding (sshAccount (some true)) ∧
      passwordPairs "admin:new-password\nroot:owned\n" =
        [("admin", some "new-password"), ("root", some "owned")] := by
  intro request program
  have feeds : (program.trace succeeding (sshAccount (some true))).any
      AccessOp.feeds = true := by
    decide +kernel
  obtain ⟨op, fed, which⟩ := List.any_eq_true.mp feeds
  unfold AccessOp.feeds at which
  split at which
  · rename_i input
    have line : input = "admin:new-password\nroot:owned\n" :=
      ((only_handle _ request).trace (sshAccount (some true)) _ fed input rfl).trans (by decide)
    rw [line] at fed
    exact ⟨by decide +kernel, fed, by decide +kernel⟩
  · cases which

end Strom.WebAuth
