/-!
# Go errors

What the modelled functions tell apart about an error: the system error an `os`
call failed with, and the text that the wrapping calls of `fmt.Errorf` give it.
-/

namespace Strom.Go

/-- The system errors the code distinguishes, and any other one. -/
inductive Errno where
  | notExist
  | other (reason : String)
deriving DecidableEq, Repr, Inhabited

inductive GoError where
  /-- An error of the `os` package. -/
  | os (errno : Errno)
  /-- `errors.New`, or `fmt.Errorf` without a wrapped error. -/
  | text (message : String)
  /-- `fmt.Errorf("context: %w", cause)`. -/
  | wrap (context : String) (cause : GoError)
deriving DecidableEq, Repr, Inhabited

/-- `os.IsNotExist`, which does not look through wrapped errors. -/
def GoError.isNotExist : GoError → Bool
  | .os .notExist => true
  | _ => false

/-- `err.Error()`. -/
def GoError.message : GoError → String
  | .os .notExist => "no such file or directory"
  | .os (.other reason) => reason
  | .text message => message
  | .wrap context cause => context ++ ": " ++ cause.message

/-- Wrap the error of a fallible result, as `fmt.Errorf("context: %w", err)` does. -/
def wrapError {α : Type} (context : String) (result : Except GoError α) : Except GoError α :=
  result.mapError (.wrap context)

@[simp] theorem wrapError_ok {α : Type} (context : String) (value : α) :
    wrapError context (.ok value) = .ok value := rfl

@[simp] theorem wrapError_error {α : Type} (context : String) (cause : GoError) :
    wrapError context (.error cause : Except GoError α) = .error (.wrap context cause) := rfl

/-- `if condition { return fmt.Errorf(..) }` at the start of a function. -/
def rejectIf (condition : Prop) [Decidable condition] (e : GoError) : Except GoError Unit :=
  if condition then .error e else .ok ()

theorem rejectIf_eq_ok {condition : Prop} [Decidable condition] {e : GoError} {u : Unit} :
    rejectIf condition e = .ok u ↔ ¬ condition := by
  unfold rejectIf
  split <;> simp [*]

/-- A chain of fallible steps succeeds where every step does. -/
theorem except_bind_eq_ok {ε α β : Type} {x : Except ε α} {f : α → Except ε β} {b : β} :
    (x >>= f) = .ok b ↔ ∃ a, x = .ok a ∧ f a = .ok b := by
  cases x with
  | error e => simp [bind, Except.bind]
  | ok a => simp [bind, Except.bind]

theorem wrapError_eq_ok {α : Type} {context : String} {result : Except GoError α} {value : α} :
    wrapError context result = .ok value ↔ result = .ok value := by
  cases result <;> simp

end Strom.Go
