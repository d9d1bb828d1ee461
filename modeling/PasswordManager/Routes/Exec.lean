import PasswordManager.Interaction.Run
import PasswordManager.Routes.Action

/-!
# Running a handler's steps

The result of each kind of step when a program is run with `Fallible.exec`, in any environment.
-/

namespace PasswordManager
open Interaction

section
variable {Act : Type} {Ans : Act → Type} {ι σ α : Type} {answer : ι → σ → (x : Act) → Ans x × σ}
  {w rest : (Nat → ι) × σ}

theorem exec_attempt {origin : Origin} {r : Except AppError α} :
    Fallible.exec answer (attempt origin r : Fallible Ans Failure α) w =
      (r.mapError fun e => ⟨e, origin⟩, w) := by
  cases r <;> rfl

theorem attempt_ok {origin : Origin} {r : Except AppError α} {v : α}
    (h : Fallible.exec answer (attempt origin r : Fallible Ans Failure α) w = (.ok v, rest)) :
    r = .ok v ∧ rest = w := by
  cases r with
  | error e => cases h
  | ok v =>
    cases h
    exact ⟨rfl, rfl⟩

theorem exec_okOr {value : Option α} {error : AppError} :
    Fallible.exec answer (okOr value error : Fallible Ans Failure α) w =
      match value with
      | some v => (.ok v, w)
      | none => (.error ⟨error, .request⟩, w) := by
  cases value <;> rfl

theorem okOr_ok {value : Option α} {error : AppError} {v : α}
    (h : Fallible.exec answer (okOr value error : Fallible Ans Failure α) w = (.ok v, rest)) :
    value = some v ∧ rest = w := by
  cases value with
  | none => cases h
  | some v =>
    cases h
    exact ⟨rfl, rfl⟩

theorem exec_refuseIf {condition : Prop} [Decidable condition] {error : AppError} :
    Fallible.exec answer (refuseIf condition error : Fallible Ans Failure Unit) w =
      if condition then (.error ⟨error, .request⟩, w) else (.ok (), w) := by
  unfold refuseIf
  split <;> rfl

theorem refuseIf_ok {condition : Prop} [Decidable condition] {error : AppError} {v : Unit}
    (h : Fallible.exec answer (refuseIf condition error : Fallible Ans Failure Unit) w = (.ok v, rest)) :
    ¬condition ∧ rest = w := by
  unfold refuseIf at h
  split at h
  · cases h
  · cases h
    exact ⟨‹_›, rfl⟩

end

variable {ι σ α : Type} {answer : ι → σ → (x : Action) → x.Answer × σ} {w : (Nat → ι) × σ}

theorem handler_effect {x : Effect} :
    Fallible.exec answer (liftM (effect x) : Handler x.Answer) w =
      (.ok (answer (w.1 0) w.2 (.effect x)).1, fun n => w.1 (n + 1),
        (answer (w.1 0) w.2 (.effect x)).2) := rfl

theorem handler_file {x : FileAction} :
    Fallible.exec answer (liftM (file x) : Handler x.Answer) w =
      (.ok (answer (w.1 0) w.2 (.file x)).1, fun n => w.1 (n + 1),
        (answer (w.1 0) w.2 (.file x)).2) := rfl

theorem handler_sql {conn : Conn} {q : Query} :
    Fallible.exec answer (liftM (sql conn q) : Handler q.Answer) w =
      match answer (w.1 0) w.2 (.effect (.sql conn q)) with
      | (.ok a, after) => (.ok a, fun n => w.1 (n + 1), after)
      | (.error e, after) => (.error ⟨.database e, .backend⟩, fun n => w.1 (n + 1), after) := by
  unfold sql query
  rw [lift_bind, Fallible.exec_bind, handler_effect]
  rcases answer (w.1 0) w.2 (.effect (.sql conn q)) with ⟨e | a, after⟩ <;> rfl

theorem lift_file_bind {β : Type} (p : Files α) (f : α → Files β) :
    (liftM (p >>= f) : Handler β) = liftM p >>= fun v => liftM (f v) :=
  Fallible.embed_bind p f

theorem handler_conn :
    Fallible.exec answer (liftM stateConn : Handler Conn) w =
      match answer (w.1 1) (answer (w.1 0) w.2 (.file .clonePool)).2
        (.file (.poolGet (answer (w.1 0) w.2 (.file .clonePool)).1)) with
      | (.ok conn, after) => (.ok conn, fun n => w.1 (n + 2), after)
      | (.error message, after) =>
        (.error ⟨.pool message, .backend⟩, fun n => w.1 (n + 2), after) := by
  unfold stateConn poolGet fileOr
  rw [lift_file_bind, Fallible.exec_bind, handler_file]
  generalize answer (w.1 0) w.2 (.file .clonePool) = cloned
  simp only
  rw [lift_file_bind, Fallible.exec_bind, handler_file]
  rcases answer (w.1 1) cloned.2 (.file (.poolGet cloned.1)) with ⟨e | a, after⟩ <;> rfl

end PasswordManager
