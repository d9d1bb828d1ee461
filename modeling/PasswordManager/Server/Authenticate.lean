import PasswordManager.Server.System

/-!
# validate_auth among other requests

When `validate_auth` accepts, in terms of the database at the moment of each of its two lookups.
-/

namespace PasswordManager
open Interaction

variable [Crypto]

/-- The environment of a handler that other requests interleave with: each action meets the
database, and what the environment chooses, of its own moment. -/
def momentary (m : Choice × Db) (_ : Unit) (x : Action) : x.Answer × Unit :=
  ((Action.answer m.1 m.2 x).1, ())

/-- `validate_auth` while other requests go on. -/
def authenticate (moments : Nat → Choice × Db) (headers : HeaderMap) (ip : String) :
    Except Failure Identity :=
  (Fallible.exec momentary (validateAuth headers ip) (moments, ())).1

/-- The pool and the database serve `validate_auth`, which looks up the identity in the first
database and the user in the second. -/
structure Serving (moments : Nat → Choice × Db) (lookup later : Db) : Prop where
  pool : ∃ conn, (moments 1).1.conn = .ok conn
  identity : ((moments 2).1.chance 0).failure = none ∧ (moments 2).2 = lookup
  user : ((moments 3).1.chance 0).failure = none ∧ (moments 3).2 = later

theorem momentary_sql {w : (Nat → Choice × Db) × Unit} {conn : Conn} {q : Query} {a : q.Answer}
    (served : ((w.1 0).1.chance 0).failure = none)
    (done : ((w.1 0).2.exec ((w.1 0).1.chance 0).toMoment q).1 = .ok a) :
    Fallible.exec momentary (liftM (sql conn q) : Handler q.Answer) w =
      (.ok a, fun n => w.1 (n + 1), ()) := by
  have answered : momentary (w.1 0) w.2 (.effect (.sql conn q)) = (.ok a, ()) := by
    simp only [momentary, Action.answer, Effect.answer, served, done]
  rw [handler_sql, answered]

theorem authenticate_ok {moments : Nat → Choice × Db} {lookup later : Db}
    (serving : Serving moments lookup later) {headers : HeaderMap} {ip : String} {d : Identity} :
    authenticate moments headers ip = .ok d ↔ ∃ token user,
      headers.getStr "device-token" = some token ∧
      Table.find (·.deviceToken) lookup.identities (some (hashToken token)) = some d ∧
      d.ipAddress = ip ∧ d.isConfirmed = true ∧ d.userId = some user.uuid ∧
      Table.find (·.uuid) later.users user.uuid = some user ∧ user.isDeleted = false := by
  obtain ⟨⟨conn, pool⟩, ⟨served, rfl⟩, served', rfl⟩ := serving
  have pooled : Fallible.exec momentary (liftM stateConn : Handler Conn) (moments, ()) =
      (.ok conn, fun n => moments (n + 2), ()) := by
    have answered : ∀ p, momentary (moments 1) () (.file (.poolGet p)) = (.ok conn, ()) :=
      fun _ => Prod.ext pool rfl
    simp only [handler_conn, answered]
  have identity : ∀ token, Fallible.exec momentary
      (liftM (Identity.findByDeviceToken conn (hashToken token)) : Handler (Option Identity))
      (fun n => moments (n + 2), ()) =
        (.ok (Table.find (·.deviceToken) (moments 2).2.identities (some (hashToken token))),
          fun n => moments (n + 3), ()) := fun token => momentary_sql served rfl
  have user : ∀ u, Fallible.exec momentary
      (liftM (User.findByUuid conn u) : Handler (Option User)) (fun n => moments (n + 3), ()) =
        (.ok (Table.find (·.uuid) (moments 3).2.users u), fun n => moments (n + 4), ()) :=
    fun u => momentary_sql served' rfl
  constructor
  · intro accepted
    obtain ⟨rest, h⟩ : ∃ rest, Fallible.exec momentary (validateAuth headers ip) (moments, ()) =
      (.ok d, rest) := ⟨_, Prod.ext accepted rfl⟩
    unfold validateAuth at h
    obtain ⟨token, _, sent, h⟩ := Fallible.bind_ok h
    obtain ⟨header, rfl⟩ := okOr_ok sent
    obtain ⟨_, _, step, h⟩ := Fallible.bind_ok h
    cases pooled.symm.trans step
    obtain ⟨_, _, step, h⟩ := Fallible.bind_ok h
    cases (identity token).symm.trans step
    obtain ⟨row, _, lookup, h⟩ := Fallible.bind_ok h
    obtain ⟨found, rfl⟩ := okOr_ok lookup
    obtain ⟨_, _, check, h⟩ := Fallible.bind_ok h
    obtain ⟨address, rfl⟩ := refuseIf_ok check
    obtain ⟨_, _, check, h⟩ := Fallible.bind_ok h
    obtain ⟨confirmed, rfl⟩ := refuseIf_ok check
    obtain ⟨u, _, link, h⟩ := Fallible.bind_ok h
    obtain ⟨linked, rfl⟩ := okOr_ok link
    obtain ⟨_, _, step, h⟩ := Fallible.bind_ok h
    cases (user u).symm.trans step
    obtain ⟨v, _, lookup, h⟩ := Fallible.bind_ok h
    obtain ⟨found', rfl⟩ := okOr_ok lookup
    obtain ⟨_, _, check, h⟩ := Fallible.bind_ok h
    obtain ⟨active, rfl⟩ := refuseIf_ok check
    cases h
    obtain rfl := (Table.find_some found').2
    exact ⟨token, v, header, found, not_not.mp address, by simpa using confirmed, linked, found',
      by simpa using active⟩
  · rintro ⟨token, u, header, found, address, confirmed, linked, found', active⟩
    unfold authenticate validateAuth
    simp only [Fallible.exec_bind, exec_okOr, exec_refuseIf, header, pooled, identity, found, address,
      confirmed, linked]
    simp only [ne_eq, not_true, Bool.true_eq_false, if_false, user, found', active, Bool.false_eq_true,
      Fallible.exec_pure]

end PasswordManager
