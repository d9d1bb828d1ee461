import PasswordManager.Store.Db
import PasswordManager.Store.Table

/-!
# SQL statements

One constructor for each statement that the domain layer issues, the type of its result,
and its effect on the database. SQLite's clock, and the order of the rows that it returns where
none is asked for, are up to the environment.
-/

namespace PasswordManager

inductive Query where
  | userFindByUuid (uuid : String)
  | userFindByName (name : String)
  | userFindAll
  | userCreate (new : NewUser)
  | userUpdate (uuid : String) (changes : UpdateUser) (now : NaiveDateTime)
  | identityFindByIp (ip : String)
  | identityFindByDeviceToken (token : String)
  | identityFindByUuid (uuid : String)
  | identityFindAll
  | identityFindPending
  | identityCreate (new : NewIdentity)
  | identityUpdate (uuid : String) (changes : UpdateIdentity) (now : NaiveDateTime)
  | identityDelete (uuid : String)
  | groupFindByUuid (uuid : String)
  | groupFindByUser (userId : String)
  | groupCreate (new : NewGroup)
  | passwordFindByUuid (uuid : String)
  | passwordFindByGroups (groupIds : List String)
  | passwordCreate (new : NewPassword)
  | passwordUpdate (uuid : String) (changes : UpdatePassword) (now : NaiveDateTime)

@[reducible] def Query.Answer : Query → Type
  | userFindByUuid _ | userFindByName _ => Option User
  | userFindAll => List User
  | userCreate _ | userUpdate _ _ _ => User
  | identityFindByIp _ | identityFindByDeviceToken _ | identityFindByUuid _ => Option Identity
  | identityFindAll | identityFindPending => List Identity
  | identityCreate _ | identityUpdate _ _ _ => Identity
  | identityDelete _ => Nat
  | groupFindByUuid _ => Option Group
  | groupFindByUser _ => List Group
  | groupCreate _ => Group
  | passwordFindByUuid _ => Option Password
  | passwordFindByGroups _ => List Password
  | passwordCreate _ | passwordUpdate _ _ _ => Password

/-- A statement that can change a row. -/
def Query.isWrite : Query → Bool
  | userCreate _ | userUpdate _ _ _ | identityCreate _ | identityUpdate _ _ _ | identityDelete _
  | groupCreate _ | passwordCreate _ | passwordUpdate _ _ _ => true
  | _ => false

/-- The most parameters that a statement can have. -/
def SQLITE_MAX_VARIABLE_NUMBER : Nat := 32766

def DbError.tooManyVariables : DbError := .databaseError .unknown "too many SQL variables"

/-- An order of the rows that a query without ORDER BY returns. -/
structure RowOrder where
  arrange : List Password → List Password
  perm : ∀ rows, (arrange rows).Perm rows

def RowOrder.byRowid : RowOrder := ⟨id, fun _ => .refl _⟩

/-- What is up to the environment when a statement is carried out. -/
structure Moment where
  clock : NaiveDateTime := 0
  order : RowOrder := .byRowid

namespace Db

/-- The answer and the effect of a statement that SQLite carries out. -/
def exec (m : Moment) (db : Db) : (q : Query) → Except DbError q.Answer × Db
  | .userFindByUuid uuid => (.ok (Table.find (·.uuid) db.users uuid), db)
  | .userFindByName name => (.ok (Table.find (·.name) db.users name), db)
  | .userFindAll => (.ok db.users, db)
  | .userCreate new =>
    db.commit { db.toTables with users := db.users ++ [new.row m.clock] } (new.row m.clock)
  | .userUpdate uuid changes now =>
    match Table.find (·.uuid) db.users uuid with
    | none => (.error .notFound, db)
    | some row =>
      db.commit { db.toTables with
        users := Table.update (·.uuid) db.users uuid (changes.apply now) } (changes.apply now row)
  | .identityFindByIp ip => (.ok (Table.find (·.ipAddress) db.identities ip), db)
  | .identityFindByDeviceToken token =>
    (.ok (Table.find (·.deviceToken) db.identities (some token)), db)
  | .identityFindByUuid uuid => (.ok (Table.find (·.uuid) db.identities uuid), db)
  | .identityFindAll => (.ok db.identities, db)
  | .identityFindPending => (.ok (db.identities.filter fun d => d.isConfirmed = false), db)
  | .identityCreate new =>
    db.commit { db.toTables with identities := db.identities ++ [new.row m.clock] } (new.row m.clock)
  | .identityUpdate uuid changes now =>
    match Table.find (·.uuid) db.identities uuid with
    | none => (.error .notFound, db)
    | some row =>
      db.commit { db.toTables with
        identities := Table.update (·.uuid) db.identities uuid (changes.apply now) }
        (changes.apply now row)
  | .identityDelete uuid =>
    db.commit { db.toTables with
      identities := db.identities.filter fun d => d.uuid ≠ uuid }
      (db.identities.countP fun d => d.uuid = uuid)
  | .groupFindByUuid uuid => (.ok (Table.find (·.uuid) db.groups uuid), db)
  | .groupFindByUser userId => (.ok (db.groups.filter fun g => g.userId = userId), db)
  | .groupCreate new =>
    db.commit { db.toTables with groups := db.groups ++ [new.row m.clock] } (new.row m.clock)
  | .passwordFindByUuid uuid => (.ok (Table.find (·.uuid) db.passwords uuid), db)
  | .passwordFindByGroups groupIds =>
    -- Each group is bound as one parameter.
    if groupIds.length ≤ SQLITE_MAX_VARIABLE_NUMBER then
      (.ok (m.order.arrange (db.passwords.filter fun p => p.groupId ∈ groupIds)), db)
    else (.error .tooManyVariables, db)
  | .passwordCreate new =>
    db.commit { db.toTables with passwords := db.passwords ++ [new.row m.clock] } (new.row m.clock)
  | .passwordUpdate uuid changes now =>
    match Table.find (·.uuid) db.passwords uuid with
    | none => (.error .notFound, db)
    | some row =>
      db.commit { db.toTables with
        passwords := Table.update (·.uuid) db.passwords uuid (changes.apply now) }
        (changes.apply now row)

variable {m : Moment} {db after : Db}

/-- A statement that fails has no effect, and neither has a query. -/
theorem exec_error {q : Query} {e : DbError} (h : db.exec m q = (.error e, after)) :
    after = db := by
  cases q with
  | userCreate | identityCreate | identityDelete | groupCreate | passwordCreate => exact commit_error h
  | userUpdate | identityUpdate | passwordUpdate =>
    simp only [exec] at h
    split at h
    · cases h
      rfl
    · exact commit_error h
  | passwordFindByGroups =>
    simp only [exec] at h
    split at h
    · cases h
    · cases h
      rfl
  | _ => cases h

theorem exec_read (db : Db) (m : Moment) {q : Query} (read : q.isWrite = false) :
    (db.exec m q).2 = db := by
  cases q with
  | passwordFindByGroups groupIds =>
    simp only [exec]
    split <;> rfl
  | _ => first | rfl | cases read

end Db

end PasswordManager
