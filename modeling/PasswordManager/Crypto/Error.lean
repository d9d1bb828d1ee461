import PasswordManager.Interaction.Prog
import PasswordManager.Store.Db

/-!
# Errors

`AppError` with the response that it turns into, and the fallible steps of a handler. A
`Failure` also records which kind of step failed, which the response does not show.
-/

namespace PasswordManager
open Interaction

inductive AppError where
  | identityNotFound
  | notFound (message : String)
  | unauthorized (message : String)
  | conflict (message : String)
  | preconditionFailed (message : String)
  | database (error : DbError)
  | pool (message : String)
  | crypto (message : String)
  | internal (message : String)
  | validation (message : String)
  deriving DecidableEq

namespace AppError

def text : AppError → String
  | identityNotFound => "identity not found"
  | notFound m => "not found: " ++ m
  | unauthorized m => "unauthorized: " ++ m
  | conflict m => "conflict: " ++ m
  | preconditionFailed m => "precondition failed: " ++ m
  | database e => "database error: " ++ e.text
  | pool m => "connection pool error: " ++ m
  | crypto m => "crypto error: " ++ m
  | internal m => "internal error: " ++ m
  | validation m => "validation error: " ++ m

/-- The status of `AppError::into_response`. -/
def status : AppError → Nat
  | identityNotFound | notFound _ => 404
  | unauthorized _ => 401
  | conflict _ => 409
  | preconditionFailed _ => 412
  | validation _ => 400
  | database _ | pool _ | crypto _ | internal _ => 500

end AppError

/-- `AppError::Unauthorized("unauthorized")`, the answer to every authentication failure. -/
def unauthorized : AppError := .unauthorized "unauthorized"

/-- The kind of step that failed: `request` for a check of what the request carries or asks
for, `stored` for reading back a secret that the server stored, `sealing` for encrypting,
and `backend` for the pool, the database and the file system. -/
inductive Origin where
  | request | stored | sealing | backend
  deriving DecidableEq

structure Failure where
  error : AppError
  origin : Origin
  deriving DecidableEq

section
variable {Act : Type} {Ans : Act → Type} {α β : Type}

def fail (origin : Origin) (error : AppError) : Fallible Ans Failure α := throw ⟨error, origin⟩

/-- `result?` -/
def attempt (origin : Origin) : Except AppError α → Fallible Ans Failure α
  | .ok v => pure v
  | .error e => fail origin e

/-- `option.ok_or(error)?` -/
def okOr (value : Option α) (error : AppError) : Fallible Ans Failure α :=
  match value with
  | some v => pure v
  | none => fail .request error

/-- `if condition { return Err(error) }` -/
def refuseIf (condition : Prop) [Decidable condition] (error : AppError) :
    Fallible Ans Failure Unit :=
  if condition then fail .request error else pure ()

variable {may : History Ans → Act → Prop} {bad : History Ans → Failure → Prop} {h : History Ans}

@[simp] theorem spec_fail {good : History Ans → α → Prop} {origin : Origin} {error : AppError} :
    Fallible.Spec may bad good h (fail origin error) ↔ bad h ⟨error, origin⟩ := Iff.rfl

theorem spec_attempt {good : History Ans → α → Prop} {origin : Origin} {r : Except AppError α} :
    Fallible.Spec may bad good h (attempt origin r) ↔
      (∀ v, r = .ok v → good h v) ∧ ∀ e, r = .error e → bad h ⟨e, origin⟩ := by
  cases r <;> simp [attempt]

theorem spec_okOr {good : History Ans → α → Prop} {value : Option α} {error : AppError} :
    Fallible.Spec may bad good h (okOr value error) ↔
      (∀ v, value = some v → good h v) ∧ (value = none → bad h ⟨error, .request⟩) := by
  cases value <;> simp [okOr]

theorem spec_refuseIf {good : History Ans → Unit → Prop} {condition : Prop} [Decidable condition]
    {error : AppError} :
    Fallible.Spec may bad good h (refuseIf condition error) ↔
      (¬condition → good h ()) ∧ (condition → bad h ⟨error, .request⟩) := by
  unfold refuseIf
  split <;> simp_all

/-- No step of the program reads a stored secret or seals one. -/
def Plain (p : Fallible Ans Failure α) : Prop :=
  ∀ h, Fallible.Spec (fun _ _ => True)
    (fun _ f => f.origin = .request ∨ f.origin = .backend) (fun _ _ => True) h p

theorem plain_pure {v : α} : Plain (pure v : Fallible Ans Failure α) := fun _ => trivial

theorem plain_bind {p : Fallible Ans Failure α} {f : α → Fallible Ans Failure β} (first : Plain p)
    (next : ∀ v, Plain (f v)) : Plain (p >>= f) := by
  intro h
  rw [Fallible.spec_bind]
  exact Fallible.spec_mono (fun h v _ => next v h) (first h)

theorem plain_perform {x : Act} :
    Plain (ExceptT.lift (Prog.perform x) : Fallible Ans Failure (Ans x)) :=
  fun _ => ⟨trivial, fun _ => trivial⟩

theorem plain_attempt {r : Except AppError α} :
    Plain (attempt .request r : Fallible Ans Failure α) := by
  intro h
  rw [spec_attempt]
  exact ⟨fun _ _ => trivial, fun _ _ => .inl rfl⟩

theorem plain_refuseIf {condition : Prop} [Decidable condition] {error : AppError} :
    Plain (refuseIf condition error : Fallible Ans Failure Unit) := by
  intro h
  rw [spec_refuseIf]
  exact ⟨fun _ => trivial, fun _ => .inl rfl⟩

end

/-- `validate_length`, which measures the text in bytes. -/
def validateLength (name field : String) (max : Nat) : Except AppError Unit :=
  if field.utf8ByteSize > max then
    .error (.validation (name ++ " exceeds " ++ toString max ++ " characters"))
  else .ok ()

end PasswordManager
