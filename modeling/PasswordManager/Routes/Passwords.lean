import PasswordManager.Routes.Devices

/-!
# Passwords and groups

`/pwd/*` and `/group/*`. A password crosses the wire sealed under the device's shared key
and is stored sealed under the database key.
-/

namespace PasswordManager
open Interaction

structure ListParams where
  expired : Option Bool
  take : Option Int
  size : Option Int
  deriving DecidableEq

structure PasswordEntry where
  uuid : String
  pwd : String
  expires : Int
  createdAt : String
  updatedAt : String
  validSinceDays : Int
  deriving DecidableEq

structure GroupInfo where
  name : String
  extra : String
  deriving DecidableEq

structure PasswordDetail where
  uuid : String
  pwd : String
  name : String
  extra : String
  expires : Int
  createdAt : String
  updatedAt : String
  validSinceDays : Int
  group : GroupInfo
  deriving DecidableEq

structure CreatePasswordRequest where
  pwd : String
  groupId : String
  extra : Option String
  name : Option String
  validSinceDays : Option Int
  deriving DecidableEq

structure UpdatePasswordRequest where
  pwd : String
  groupId : String
  extra : Option String
  name : Option String
  deriving DecidableEq

structure GroupResponse where
  uuid : String
  name : String
  extra : String
  deriving DecidableEq

structure CreateGroupRequest where
  name : String
  extra : Option String
  deriving DecidableEq

/-- `i64::clamp` -/
def clampInt (low high n : Int) : Int := max low (min n high)

/-- `days_remaining`, given the time. -/
def daysRemainingAt (now validSince : NaiveDateTime) (validSinceDays : Int) : Int :=
  if now < validSince then validSinceDays
  else max (validSinceDays - now.numDays validSince) 0

def daysRemaining (validSince : NaiveDateTime) (validSinceDays : Int) : Domain Int := do
  let now ← utcNow
  return daysRemainingAt now validSince validSinceDays

def isExpired (validSince : NaiveDateTime) (validSinceDays : Int) : Domain Bool := do
  return (← daysRemaining validSince validSinceDays) ≤ 0

section
variable [Crypto]

/-- The plaintext of a password, read back from its row. -/
def openPwd (hexData : String) (config : Config) : Except AppError Bytes := do
  let data ← (Hex.decode hexData).elim (.error (.validation "invalid hex")) .ok
  decryptDb data config

def encryptForClient (hexData : String) (identity : Identity) (config : Config) :
    Domain String := do
  let dbDecrypted ← attempt .stored (openPwd hexData config)
  let sharedKey ← attempt .stored (openSharedKey identity config)
  let clientEncrypted ← encryptWithSharedKey dbDecrypted sharedKey
  return Hex.encode clientEncrypted

def decryptFromClient (hexData : String) (identity : Identity) (config : Config) :
    Domain Bytes := do
  let encrypted ← okOr (Hex.decode hexData) (.validation "invalid hex")
  let sharedKey ← attempt .stored (openSharedKey identity config)
  attempt .request (decryptWithSharedKey encrypted sharedKey)

/-- The entries of one page: the filter, `skip` and `take` of the source's iterator, which
reads the clock as it goes and stops at the first entry that it cannot seal. -/
def listEntries (config : Config) (identity : Identity) (expired : Bool) :
    List Password → Nat → Nat → Domain (List PasswordEntry)
  | [], _, _ | _ :: _, _, 0 => return []
  | p :: rest, skip, take + 1 => do
    if (← isExpired p.validSince p.validSinceDays) = expired then
      match skip with
      | skip + 1 => listEntries config identity expired rest skip (take + 1)
      | 0 =>
        let pwdHex ← encryptForClient p.pwd identity config
        let expires ← if expired then pure 0 else daysRemaining p.validSince p.validSinceDays
        let entry : PasswordEntry := {
          uuid := p.uuid
          pwd := pwdHex
          expires
          createdAt := p.createdAt.display
          updatedAt := p.updatedAt.display
          validSinceDays := p.validSinceDays }
        let entries ← listEntries config identity expired rest 0 take
        return entry :: entries
    else listEntries config identity expired rest skip (take + 1)

/-! ## passwords.rs -/

def listHandler (config : Config) (headers : HeaderMap) (ip : String) (params : ListParams) :
    Handler (List PasswordEntry) := do
  let expired := params.expired.getD false
  let identity ← validateAuth headers ip
  let userId ← okOr identity.userId unauthorized
  let conn ← stateConn
  let groups ← Group.findByUser conn userId
  let passwords ← Password.findByGroups conn (groups.map (·.uuid))
  let size := clampInt 1 200 (params.size.getD 50)
  let take := max (params.take.getD 0) 0
  listEntries config identity expired passwords take.toNat size.toNat

/-- The length checks that create and update begin with. -/
def checkLengths (name extra : Option String) : Except AppError Unit := do
  validateLength "password name" (name.getD "") 256
  match extra with
  | some extra => validateLength "password extra" extra 4096
  | none => .ok ()

def createHandler (config : Config) (headers : HeaderMap) (ip : String)
    (req : CreatePasswordRequest) : Handler PasswordEntry := do
  attempt .request (checkLengths req.name req.extra)
  let identity ← validateAuth headers ip
  let userId ← okOr identity.userId unauthorized
  let conn ← stateConn
  let decryptedPwd ← decryptFromClient req.pwd identity config
  let dbEncrypted ← encryptWithSharedKey decryptedPwd config.databaseEncryptSecret
  let group ← okOr (← Group.findByUuid conn req.groupId) unauthorized
  refuseIf (group.userId ≠ userId) unauthorized
  let uuid ← newUuid
  let now ← utcNow
  let password ← Password.create conn {
    uuid
    groupId := req.groupId
    pwd := Hex.encode dbEncrypted
    name := req.name.getD ""
    extra := req.extra.getD "{}"
    validSinceDays := (req.validSinceDays.map (clampInt 1 365)).getD 30
    validSince := now }
  let pwdForClient ← encryptForClient password.pwd identity config
  let expires ← daysRemaining password.validSince password.validSinceDays
  return {
    uuid := password.uuid
    pwd := pwdForClient
    expires
    createdAt := password.createdAt.display
    updatedAt := password.updatedAt.display
    validSinceDays := password.validSinceDays }

def updateHandler (config : Config) (headers : HeaderMap) (ip : String) (uuid : Uuid)
    (req : UpdatePasswordRequest) : Handler Unit := do
  attempt .request (checkLengths req.name req.extra)
  let identity ← validateAuth headers ip
  let userId ← okOr identity.userId unauthorized
  let conn ← stateConn
  let uuidStr := uuid.toString
  let existing ← okOr (← Password.findByUuid conn uuidStr) unauthorized
  let group ← okOr (← Group.findByUuid conn existing.groupId) unauthorized
  refuseIf (group.userId ≠ userId) unauthorized
  let targetGroup ← okOr (← Group.findByUuid conn req.groupId) unauthorized
  refuseIf (targetGroup.userId ≠ userId) unauthorized
  let decryptedPwd ← decryptFromClient req.pwd identity config
  let dbEncrypted ← encryptWithSharedKey decryptedPwd config.databaseEncryptSecret
  let _ ← Password.update conn uuidStr {
    pwd := some (Hex.encode dbEncrypted)
    groupId := some req.groupId
    name := req.name
    extra := req.extra
    validSinceDays := none }

def getHandler (config : Config) (headers : HeaderMap) (ip : String) (uuid : Uuid) :
    Handler PasswordDetail := do
  let identity ← validateAuth headers ip
  let userId ← okOr identity.userId unauthorized
  let conn ← stateConn
  let uuidStr := uuid.toString
  let password ← okOr (← Password.findByUuid conn uuidStr) unauthorized
  let group ← okOr (← Group.findByUuid conn password.groupId) unauthorized
  refuseIf (group.userId ≠ userId) unauthorized
  let pwdForClient ← encryptForClient password.pwd identity config
  let expires ← daysRemaining password.validSince password.validSinceDays
  return {
    uuid := password.uuid
    pwd := pwdForClient
    name := password.name
    extra := password.extra
    expires
    createdAt := password.createdAt.display
    updatedAt := password.updatedAt.display
    validSinceDays := password.validSinceDays
    group := { name := group.name, extra := group.extra } }

/-! ## group.rs -/

def groupCreateHandler (headers : HeaderMap) (ip : String) (req : CreateGroupRequest) :
    Handler GroupResponse := do
  attempt .request (validateLength "group name" req.name 128)
  let identity ← validateAuth headers ip
  let userId ← okOr identity.userId unauthorized
  let conn ← stateConn
  let uuid ← newUuid
  let group ← Group.create conn {
    uuid
    userId
    name := req.name
    extra := req.extra.getD "{}" }
  return { uuid := group.uuid, name := group.name, extra := group.extra }

def groupListHandler (headers : HeaderMap) (ip : String) : Handler (List GroupResponse) := do
  let identity ← validateAuth headers ip
  let userId ← okOr identity.userId unauthorized
  let conn ← stateConn
  let groups ← Group.findByUser conn userId
  return groups.map fun g => { uuid := g.uuid, name := g.name, extra := g.extra }

end

end PasswordManager
