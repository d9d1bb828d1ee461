import PasswordManager.Routes.Session

/-!
# Administration

The admin endpoints that work on the tables.
-/

namespace PasswordManager
open Interaction

structure IdentityResponse where
  uuid : String
  userId : Option String
  ipAddress : String
  deviceToken : Option String
  isConfirmed : Bool
  createdAt : String
  updatedAt : String
  deriving DecidableEq

structure UserResponse where
  uuid : String
  name : String
  isDeleted : Bool
  identityCount : Nat
  createdAt : String
  updatedAt : String
  deriving DecidableEq

structure PendingIdentity where
  uuid : String
  ipAddress : String
  deriving DecidableEq

def listIdentities (config : Config) (headers : HeaderMap) (addr : IpAddr) :
    Handler (List IdentityResponse) := do
  attempt .request (checkAdmin headers addr config)
  let conn ← stateConn
  let all ← Identity.findAll conn
  return all.map fun i => {
    uuid := i.uuid
    userId := i.userId
    ipAddress := i.ipAddress
    deviceToken := i.deviceToken
    isConfirmed := i.isConfirmed
    createdAt := i.createdAt.display
    updatedAt := i.updatedAt.display }

def setConfirm (uuidStr : String) (confirmed : Bool) : Handler Unit := do
  let conn ← stateConn
  let _ ← okOr (← Identity.findByUuid conn uuidStr) .identityNotFound
  let _ ← Identity.update conn uuidStr {
    userId := none
    ipAddress := none
    deviceToken := none
    clientPublicKey := none
    extra := none
    isConfirmed := some confirmed }

def deleteIdentity (config : Config) (headers : HeaderMap) (addr : IpAddr) (uuid : Uuid) :
    Handler Unit := do
  attempt .request (checkAdmin headers addr config)
  let uuidStr := uuid.toString
  let conn ← stateConn
  let _ ← okOr (← Identity.findByUuid conn uuidStr) .identityNotFound
  let _ ← Identity.delete conn uuidStr

/-- The answer counts each user's devices, which the source does in a hash map. -/
def listUsers (config : Config) (headers : HeaderMap) (addr : IpAddr) :
    Handler (List UserResponse) := do
  attempt .request (checkAdmin headers addr config)
  let conn ← stateConn
  let users ← User.findAll conn
  let identities ← Identity.findAll conn
  return users.map fun u => {
    uuid := u.uuid
    name := u.name
    isDeleted := u.isDeleted
    identityCount := identities.countP fun i => i.userId = some u.uuid
    createdAt := u.createdAt.display
    updatedAt := u.updatedAt.display }

def toggleUser (config : Config) (headers : HeaderMap) (addr : IpAddr) (uuid : Uuid)
    (action : String) : Handler Unit := do
  attempt .request (checkAdmin headers addr config)
  let uuidStr := uuid.toString
  let isDeleted ← match action with
    | "delete" => pure true
    | "restore" => pure false
    | _ => fail .request (.validation "action must be delete or restore")
  let conn ← stateConn
  let _ ← okOr (← User.findByUuid conn uuidStr) (.notFound "user not found")
  let _ ← User.update conn uuidStr { isDeleted := some isDeleted, extra := none }

def toggleIdentity (config : Config) (headers : HeaderMap) (addr : IpAddr) (uuid : Uuid)
    (action : String) : Handler Unit := do
  attempt .request (checkAdmin headers addr config)
  let uuidStr := uuid.toString
  let confirmed ← match action with
    | "confirm" => pure true
    | "unconfirm" => pure false
    | _ => fail .request (.validation "action must be confirm or unconfirm")
  setConfirm uuidStr confirmed

/-! ## The admin endpoints of group.rs -/

def pendingHandler (config : Config) (headers : HeaderMap) (addr : IpAddr) :
    Handler (List PendingIdentity) := do
  attempt .request (checkAdmin headers addr config)
  let conn ← stateConn
  let pending ← Identity.findPending conn
  return pending.map fun i => { uuid := i.uuid, ipAddress := i.ipAddress }

def approveHandler (config : Config) (headers : HeaderMap) (addr : IpAddr) (uuid : Uuid) :
    Handler Unit := do
  attempt .request (checkAdmin headers addr config)
  setConfirm uuid.toString true

end PasswordManager
