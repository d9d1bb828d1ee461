import PasswordManager.Store.Db
import PasswordManager.Store.Table

/-!
# Migrations

The version 1 schema and what the up and down scripts of the three later migrations do to the
tables. The scripts run with reference checks off, so the only errors are those of UNIQUE and
NOT NULL columns. A row keeps its rowid through every statement here.
-/

namespace PasswordManager

namespace V1

structure Identity where
  uuid : String
  ipAddress : String
  deviceToken : Option String
  ehloSecret : String
  serverPrivateKey : Bytes
  serverPublicKey : Bytes
  clientPublicKey : Bytes
  extra : String
  isConfirmed : Bool
  createdAt : NaiveDateTime
  updatedAt : NaiveDateTime
  deriving DecidableEq

structure Group where
  uuid : String
  identityId : String
  name : String
  extra : String
  createdAt : NaiveDateTime
  updatedAt : NaiveDateTime
  deriving DecidableEq

structure Password where
  uuid : String
  groupId : String
  pwd : String
  name : String
  extra : String
  validSinceDays : Int
  createdAt : NaiveDateTime
  updatedAt : NaiveDateTime
  deriving DecidableEq

structure Tables where
  identities : List Identity := []
  groups : List Group := []
  passwords : List Password := []
  deriving DecidableEq

/-- The constraints of `create_all_tables`. -/
structure Tables.Valid (t : Tables) : Prop where
  identityUuid : (t.identities.map (·.uuid)).Nodup
  identityToken : (t.identities.filterMap (·.deviceToken)).Nodup
  groupUuid : (t.groups.map (·.uuid)).Nodup
  groupIdentity : ∀ g ∈ t.groups, g.identityId ∈ t.identities.map (·.uuid)
  passwordUuid : (t.passwords.map (·.uuid)).Nodup
  passwordGroup : ∀ p ∈ t.passwords, p.groupId ∈ t.groups.map (·.uuid)

/-- A version 1 database, with the rowid of the identity that has a uuid. -/
structure Db extends Tables where
  valid : toTables.Valid
  rowid : String → Int
  rowidUnique : ∀ a ∈ identities, ∀ b ∈ identities, rowid a.uuid = rowid b.uuid → a = b

end V1

/-- The tables once users own the data, before passwords have a `valid_since`. -/
structure V2.Tables where
  users : List User := []
  identities : List Identity := []
  groups : List Group := []
  passwords : List V1.Password := []
  deriving DecidableEq

namespace Migration

/-- What an INSERT or a CREATE UNIQUE INDEX checks of a UNIQUE column. -/
def requireUnique (column : String) (values : List String) : Except String Unit :=
  if values.Nodup then .ok () else .error ("UNIQUE constraint failed: " ++ column)

theorem requireUnique_ok {column : String} {values : List String} (unique : values.Nodup) :
    requireUnique column values = .ok () := if_pos unique

/-! ## Up -/

/-- The placeholder user that is backfilled for an identity. -/
def user (clock : NaiveDateTime) (d : V1.Identity) : User where
  uuid := d.uuid
  name := "migrated-" ++ d.uuid
  ehloSecret := d.ehloSecret
  isDeleted := false
  extra := "{}"
  createdAt := clock.toSecond
  updatedAt := clock.toSecond

/-- `UPDATE identities SET user_id = uuid`, and without the `ehlo_secret`. -/
def device (d : V1.Identity) : Identity where
  uuid := d.uuid
  userId := some d.uuid
  ipAddress := d.ipAddress
  deviceToken := d.deviceToken
  serverPrivateKey := d.serverPrivateKey
  serverPublicKey := d.serverPublicKey
  clientPublicKey := d.clientPublicKey
  extra := d.extra
  isConfirmed := d.isConfirmed
  createdAt := d.createdAt
  updatedAt := d.updatedAt

/-- A row of `groups_new`. -/
def ownedByUser (g : V1.Group) : Group where
  uuid := g.uuid
  userId := g.identityId
  name := g.name
  extra := g.extra
  createdAt := g.createdAt
  updatedAt := g.updatedAt

def addUsersTable (clock : NaiveDateTime) (t : V1.Tables) : Except String V2.Tables := do
  let users := t.identities.map (user clock)
  requireUnique "users.uuid" (users.map (·.uuid))
  requireUnique "users.name" (users.map (·.name))
  let groups := t.groups.map ownedByUser
  requireUnique "groups_new.uuid" (groups.map (·.uuid))
  return { users, identities := t.identities.map device, groups, passwords := t.passwords }

def uniqueIdentityIp (rowid : String → Int) (t : V2.Tables) : Except String V2.Tables := do
  let identities := Table.latest (fun d => rowid d.uuid) (·.ipAddress) t.identities
  requireUnique "identities.ip_address" (identities.map (·.ipAddress))
  return { t with identities }

/-- `ADD COLUMN valid_since`, with its placeholder default. -/
def addValidSince (p : V1.Password) : Password where
  uuid := p.uuid
  groupId := p.groupId
  pwd := p.pwd
  name := p.name
  extra := p.extra
  validSinceDays := p.validSinceDays
  createdAt := p.createdAt
  updatedAt := p.updatedAt
  validSince := 0

def passwordValidSince (t : V2.Tables) : Tables where
  users := t.users
  identities := t.identities
  groups := t.groups
  passwords := (t.passwords.map addValidSince).map fun p => { p with validSince := p.createdAt }

/-- The three pending migrations of a version 1 database. -/
def upgrade (clock : NaiveDateTime) (db : V1.Db) : Except String Tables := do
  let t ← addUsersTable clock db.toTables
  let t ← uniqueIdentityIp db.rowid t
  return passwordValidSince t

/-! ## Down -/

def dropValidSince (p : Password) : V1.Password where
  uuid := p.uuid
  groupId := p.groupId
  pwd := p.pwd
  name := p.name
  extra := p.extra
  validSinceDays := p.validSinceDays
  createdAt := p.createdAt
  updatedAt := p.updatedAt

def revertPasswordValidSince (t : Tables) : V2.Tables where
  users := t.users
  identities := t.identities
  groups := t.groups
  passwords := t.passwords.map dropValidSince

/-- Only the index on `ip_address` changes. -/
def revertUniqueIdentityIp (t : V2.Tables) : V2.Tables := t

/-- The identity without its `user_id`, with an `ehlo_secret`. -/
def terminal (ehloSecret : String) (d : Identity) : V1.Identity where
  uuid := d.uuid
  ipAddress := d.ipAddress
  deviceToken := d.deviceToken
  ehloSecret := ehloSecret
  serverPrivateKey := d.serverPrivateKey
  serverPublicKey := d.serverPublicKey
  clientPublicKey := d.clientPublicKey
  extra := d.extra
  isConfirmed := d.isConfirmed
  createdAt := d.createdAt
  updatedAt := d.updatedAt

/-- An unlinked identity keeps the default. The sub-select of a linked one is NULL where it
finds no user. -/
def restoreEhlo (users : List User) (d : Identity) : Except String V1.Identity :=
  match d.userId with
  | none => .ok (terminal "" d)
  | some userId =>
    match Table.find (·.uuid) users userId with
    | none => .error "NOT NULL constraint failed: identities.ehlo_secret"
    | some user => .ok (terminal user.ehloSecret d)

/-- A row of `groups_old`. -/
def ownedByIdentity (g : Group) : V1.Group where
  uuid := g.uuid
  identityId := g.userId
  name := g.name
  extra := g.extra
  createdAt := g.createdAt
  updatedAt := g.updatedAt

def revertUsersTable (t : V2.Tables) : Except String V1.Tables := do
  let identities ← t.identities.mapM (restoreEhlo t.users)
  let groups := t.groups.map ownedByIdentity
  requireUnique "groups_old.uuid" (groups.map (·.uuid))
  return { identities, groups, passwords := t.passwords }

/-- The last three migrations, reverted in order. -/
def revert (t : Tables) : Except String V1.Tables :=
  revertUsersTable (revertUniqueIdentityIp (revertPasswordValidSince t))

end Migration

end PasswordManager
