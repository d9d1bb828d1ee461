import PasswordManager.Crypto.Keys
import PasswordManager.Store.Query

/-!
# Effects of the domain layer

The atomic effects that the domain functions are built from: one SQL statement on a
connection, and reading the random source or the clock. The environment decides random
values, the time, and whether a statement fails.
-/

namespace PasswordManager
open Interaction

/-- A connection pool, named by the database file that it was built on. -/
structure DbPool where
  file : Nat
  deriving DecidableEq

/-- A pooled connection, named by the database file that it has open. -/
structure Conn where
  file : Nat
  deriving DecidableEq

inductive Effect where
  | sql (conn : Conn) (query : Query)
  | uuid
  | random
  | nonce
  | now

@[reducible] def Effect.Answer : Effect → Type
  | sql _ q => Except DbError q.Answer
  | uuid => Uuid
  | random => BytesN 32
  | nonce => BytesN 12
  | now => NaiveDateTime

/-- What the environment decides for one effect. -/
structure Chance extends Moment where
  uuid : Uuid := ⟨List.replicate 16 0, by decide⟩
  random : BytesN 32 := ⟨List.replicate 32 0, by decide⟩
  nonce : BytesN 12 := ⟨List.replicate 12 0, by decide⟩
  failure : Option String := none

/-- A statement that fails for a reason of its own, such as a busy database, has no effect. -/
def Effect.answer (c : Chance) (db : Db) : (x : Effect) → x.Answer × Db
  | sql _ q =>
    match c.failure with
    | some message => (.error (.databaseError .unknown message), db)
    | none => db.exec c.toMoment q
  | uuid => (c.uuid, db)
  | random => (c.random, db)
  | nonce => (c.nonce, db)
  | now => (c.clock, db)

abbrev Domain := Fallible Effect.Answer Failure

def effect (x : Effect) : Domain x.Answer := ExceptT.lift (Prog.perform x)

/-- A statement whose `QueryResult` the caller inspects. -/
def query (conn : Conn) (q : Query) : Domain (Except DbError q.Answer) := effect (.sql conn q)

/-- A statement followed by `?`. -/
def sql (conn : Conn) (q : Query) : Domain q.Answer := do
  match ← query conn q with
  | .ok answer => pure answer
  | .error e => fail .backend (.database e)

/-- `Uuid::new_v4().to_string()` -/
def newUuid : Domain String := do
  let uuid ← effect .uuid
  return Uuid.toString uuid

def randomBytes : Domain (BytesN 32) := effect .random

def generateNonce : Domain (BytesN 12) := effect .nonce

/-- `chrono::Utc::now().naive_utc()` -/
def utcNow : Domain NaiveDateTime := effect .now

namespace User

def findByUuid (conn : Conn) (uuid : String) : Domain (Option User) :=
  sql conn (.userFindByUuid uuid)

def findByName (conn : Conn) (name : String) : Domain (Option User) :=
  sql conn (.userFindByName name)

def findAll (conn : Conn) : Domain (List User) := sql conn .userFindAll

def create (conn : Conn) (new : NewUser) : Domain User := sql conn (.userCreate new)

def update (conn : Conn) (uuid : String) (changes : UpdateUser) : Domain User := do
  let now ← utcNow
  sql conn (.userUpdate uuid changes now)

end User

namespace Identity

def findByIp (conn : Conn) (ip : String) : Domain (Option Identity) :=
  sql conn (.identityFindByIp ip)

def findByDeviceToken (conn : Conn) (token : String) : Domain (Option Identity) :=
  sql conn (.identityFindByDeviceToken token)

def findByUuid (conn : Conn) (uuid : String) : Domain (Option Identity) :=
  sql conn (.identityFindByUuid uuid)

def findAll (conn : Conn) : Domain (List Identity) := sql conn .identityFindAll

def findPending (conn : Conn) : Domain (List Identity) := sql conn .identityFindPending

def create (conn : Conn) (new : NewIdentity) : Domain (Except DbError Identity) :=
  query conn (.identityCreate new)

def update (conn : Conn) (uuid : String) (changes : UpdateIdentity) : Domain Identity := do
  let now ← utcNow
  sql conn (.identityUpdate uuid changes now)

def delete (conn : Conn) (uuid : String) : Domain Nat := sql conn (.identityDelete uuid)

end Identity

namespace Group

def findByUuid (conn : Conn) (uuid : String) : Domain (Option Group) :=
  sql conn (.groupFindByUuid uuid)

def findByUser (conn : Conn) (userId : String) : Domain (List Group) :=
  sql conn (.groupFindByUser userId)

def create (conn : Conn) (new : NewGroup) : Domain Group := sql conn (.groupCreate new)

end Group

namespace Password

def findByUuid (conn : Conn) (uuid : String) : Domain (Option Password) :=
  sql conn (.passwordFindByUuid uuid)

def findByGroups (conn : Conn) (groupIds : List String) : Domain (List Password) :=
  sql conn (.passwordFindByGroups groupIds)

def create (conn : Conn) (new : NewPassword) : Domain Password := sql conn (.passwordCreate new)

def update (conn : Conn) (uuid : String) (changes : UpdatePassword) : Domain Password := do
  let now ← utcNow
  sql conn (.passwordUpdate uuid changes now)

end Password

section
variable [Crypto]

/-- `encrypt_with_shared_key`, also under the name `encrypt_db`. -/
def encryptWithSharedKey (data : Bytes) (key : BytesN 32) : Domain Bytes := do
  let nonce ← generateNonce
  attempt .sealing (sealWith nonce data key)

/-- `generate_identity_keys` -/
def generateIdentityKeys : Domain IdentityKeys := do
  let random ← randomBytes
  return identityKeys random

/-- `link_device`, whose `state` parameter the source does not use. -/
def linkDevice (conn : Conn) (identityUuid userId : String) : Domain String := do
  let token ← newUuid
  let _ ← Identity.update conn identityUuid {
    userId := some userId
    ipAddress := none
    deviceToken := some (hashToken token)
    clientPublicKey := none
    extra := none
    isConfirmed := some false }
  return token

/-- The closure that `sign_up_handler` runs in a transaction, by the values that it captures. -/
structure SignUpTransaction where
  name : String
  ehloSecret : String
  identityUuid : String

def SignUpTransaction.body (t : SignUpTransaction) (conn : Conn) : Domain (String × String) := do
  refuseIf ((← User.findByName conn t.name).isSome) (.conflict "name already taken")
  let user ← User.create conn {
    uuid := ← newUuid
    name := t.name
    ehloSecret := t.ehloSecret
    isDeleted := false
    extra := "{}" }
  let token ← linkDevice conn t.identityUuid user.uuid
  return (user.uuid, token)

end

end PasswordManager
