import PasswordManager.Store.Rows

/-!
# The database

The four tables with the constraints that the migrations declare. A `Db` carries the
constraints with it: a statement whose result would break one has no effect.
-/

namespace PasswordManager

inductive DatabaseErrorKind where
  | uniqueViolation | foreignKeyViolation | unknown
  deriving DecidableEq

/-- `diesel::result::Error` -/
inductive DbError where
  | databaseError (kind : DatabaseErrorKind) (message : String)
  | notFound
  deriving DecidableEq

def DbError.text : DbError → String
  | .databaseError _ message => message
  | .notFound => "Record not found"

structure Tables where
  users : List User := []
  identities : List Identity := []
  groups : List Group := []
  passwords : List Password := []
  deriving DecidableEq

/-- The PRIMARY KEY, UNIQUE and REFERENCES constraints of the current schema. -/
structure Tables.Valid (t : Tables) : Prop where
  userUuid : (t.users.map (·.uuid)).Nodup
  userName : (t.users.map (·.name)).Nodup
  identityUuid : (t.identities.map (·.uuid)).Nodup
  identityIp : (t.identities.map (·.ipAddress)).Nodup
  identityToken : (t.identities.filterMap (·.deviceToken)).Nodup
  identityUser : ∀ d ∈ t.identities, ∀ u ∈ d.userId, u ∈ t.users.map (·.uuid)
  groupUuid : (t.groups.map (·.uuid)).Nodup
  groupUser : ∀ g ∈ t.groups, g.userId ∈ t.users.map (·.uuid)
  passwordUuid : (t.passwords.map (·.uuid)).Nodup
  passwordGroup : ∀ p ∈ t.passwords, p.groupId ∈ t.groups.map (·.uuid)

instance (t : Tables) : Decidable t.Valid :=
  decidable_of_iff
    ((t.users.map (·.uuid)).Nodup ∧ (t.users.map (·.name)).Nodup ∧
      (t.identities.map (·.uuid)).Nodup ∧ (t.identities.map (·.ipAddress)).Nodup ∧
      (t.identities.filterMap (·.deviceToken)).Nodup ∧
      (∀ d ∈ t.identities, ∀ u ∈ d.userId, u ∈ t.users.map (·.uuid)) ∧
      (t.groups.map (·.uuid)).Nodup ∧ (∀ g ∈ t.groups, g.userId ∈ t.users.map (·.uuid)) ∧
      (t.passwords.map (·.uuid)).Nodup ∧
      (∀ p ∈ t.passwords, p.groupId ∈ t.groups.map (·.uuid)))
    ⟨fun ⟨a, b, c, d, e, f, g, h, i, j⟩ => ⟨a, b, c, d, e, f, g, h, i, j⟩,
      fun ⟨a, b, c, d, e, f, g, h, i, j⟩ => ⟨a, b, c, d, e, f, g, h, i, j⟩⟩

/-- The error SQLite reports for tables that break a constraint. -/
def Tables.violation (t : Tables) : DbError :=
  let unique (column : String) : DbError :=
    .databaseError .uniqueViolation ("UNIQUE constraint failed: " ++ column)
  if ¬(t.users.map (·.uuid)).Nodup then unique "users.uuid"
  else if ¬(t.users.map (·.name)).Nodup then unique "users.name"
  else if ¬(t.identities.map (·.uuid)).Nodup then unique "identities.uuid"
  else if ¬(t.identities.map (·.ipAddress)).Nodup then unique "identities.ip_address"
  else if ¬(t.identities.filterMap (·.deviceToken)).Nodup then unique "identities.device_token"
  else if ¬(t.groups.map (·.uuid)).Nodup then unique "groups.uuid"
  else if ¬(t.passwords.map (·.uuid)).Nodup then unique "passwords.uuid"
  else .databaseError .foreignKeyViolation "FOREIGN KEY constraint failed"

structure Db extends Tables where
  valid : toTables.Valid

namespace Db

/-- The migrated database without any row. -/
def empty : Db where
  valid := by decide

@[ext] theorem ext {a b : Db} (tables : a.toTables = b.toTables) : a = b := by
  cases a; cases b; cases tables; rfl

instance : DecidableEq Db := fun a b => decidable_of_iff (a.toTables = b.toTables)
  ⟨Db.ext, congrArg _⟩

/-- A statement's answer and effect, unless its result breaks a constraint. -/
def commit {α : Type} (db : Db) (t : Tables) (answer : α) : Except DbError α × Db :=
  if valid : t.Valid then (.ok answer, ⟨t, valid⟩) else (.error t.violation, db)

theorem commit_ok {α : Type} {db after : Db} {t : Tables} {answer a : α}
    (h : db.commit t answer = (.ok a, after)) : a = answer ∧ after.toTables = t := by
  unfold commit at h
  split at h
  · cases h
    exact ⟨rfl, rfl⟩
  · cases h

theorem commit_error {α : Type} {db after : Db} {t : Tables} {answer : α} {e : DbError}
    (h : db.commit t answer = (.error e, after)) : after = db := by
  unfold commit at h
  split at h
  · cases h
  · cases h
    rfl

end Db

end PasswordManager
