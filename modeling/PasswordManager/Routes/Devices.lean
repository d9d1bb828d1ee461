import PasswordManager.Routes.Session

/-!
# Enrolling and recovering devices

`/greet`, `/sign-up`, `/sign-in`, `/refresh`, `/re-sign` and `/verify`.
-/

namespace PasswordManager
open Interaction

variable [Crypto]

/-- `decrypt_db`, the alias of `decrypt_with_shared_key` for data at rest. -/
def decryptDb (data : Bytes) (config : Config) : Except AppError Bytes :=
  decryptWithSharedKey data config.databaseEncryptSecret

/-- The shared key of a device, read back from its row as every handler does. -/
def openSharedKey (identity : Identity) (config : Config) : Except AppError (BytesN 32) := do
  let serverPrivate ← decryptDb identity.serverPrivateKey config
  deriveSharedKey serverPrivate identity.clientPublicKey

/-- The plaintext of a user's ehlo, read back from its row. -/
def openEhlo (user : User) (config : Config) : Except AppError Bytes := do
  let storedEhloBytes ← (Hex.decode user.ehloSecret).elim
    (.error (.crypto "invalid ehlo storage format")) .ok
  decryptDb storedEhloBytes config

/-! ## greet.rs -/

structure GreetRequest where
  pubKey : String
  deriving DecidableEq

def greetHandler (config : Config) (ip : String) (req : GreetRequest) : Handler String := do
  let conn ← stateConn
  let clientKeyBytes ← okOr (Hex.decode req.pubKey) (.validation "invalid pub_key hex encoding")
  refuseIf (clientKeyBytes.length ≠ 32)
    (.validation "pub_key must be exactly 32 bytes (64 hex chars)")
  refuseIf ((← Identity.findByIp conn ip).isSome) (.preconditionFailed "precondition failed")
  let identityKeys ← generateIdentityKeys
  let uuid ← newUuid
  let serverPrivateKey ←
    encryptWithSharedKey identityKeys.serverPrivateKey config.databaseEncryptSecret
  match ← Identity.create conn {
    uuid
    userId := none
    ipAddress := ip
    deviceToken := none
    serverPrivateKey
    serverPublicKey := identityKeys.serverPublicKey
    clientPublicKey := clientKeyBytes
    extra := "{}"
    isConfirmed := false } with
  | .ok _ => return Hex.encode identityKeys.serverPublicKey
  | .error (.databaseError .uniqueViolation _) =>
    fail .request (.preconditionFailed "precondition failed")
  | .error e => fail .backend (.database e)

/-! ## signin.rs -/

structure SignRequest where
  name : String
  ehlo : String
  deriving DecidableEq

def maxNameLen : Nat := 64

def decodeRequest (config : Config) (conn : Conn) (ip : String) (req : SignRequest) :
    Handler (Identity × String × Bytes) := do
  let identity ← okOr (← Identity.findByIp conn ip) unauthorized
  let sharedKey ← attempt .stored (openSharedKey identity config)
  let nameBytes ← okOr (Hex.decode req.name) (.validation "invalid name hex")
  let ehloBytes ← okOr (Hex.decode req.ehlo) (.validation "invalid ehlo hex")
  let decryptedName ← attempt .request (decryptWithSharedKey nameBytes sharedKey)
  let decryptedEhlo ← attempt .request (decryptWithSharedKey ehloBytes sharedKey)
  let name ← okOr (fromUtf8 decryptedName) (.validation "name must be valid utf8")
  return (identity, name, decryptedEhlo)

def validateName (name : String) : Except AppError Unit :=
  if name.isEmpty then .error (.validation "name must not be empty")
  else validateLength "name" name maxNameLen

def signUpHandler (config : Config) (ip : String) (req : SignRequest) : Handler String := do
  let conn ← stateConn
  let (identity, name, ehloBytes) ← decodeRequest config conn ip req
  attempt .request (validateName name)
  let ehloSecret ← encryptWithSharedKey ehloBytes config.databaseEncryptSecret
  let (_, token) ← transaction conn {
    name
    ehloSecret := Hex.encode ehloSecret
    identityUuid := identity.uuid }
  return token

def signInHandler (config : Config) (ip : String) (req : SignRequest) : Handler String := do
  let conn ← stateConn
  let (identity, name, ehloBytes) ← decodeRequest config conn ip req
  let user ← okOr (← User.findByName conn name) unauthorized
  refuseIf (user.isDeleted = true) unauthorized
  let decryptedStoredEhlo ← attempt .stored (openEhlo user config)
  refuseIf (ehloBytes ≠ decryptedStoredEhlo) unauthorized
  linkDevice conn identity.uuid user.uuid

/-! ## refresh.rs -/

/-- The body of `/refresh` and of `/re-sign`. -/
structure TokenRequest where
  token : String
  ehlo : String
  deriving DecidableEq

def refreshHandler (config : Config) (ip : String) (req : TokenRequest) : Handler String := do
  let conn ← stateConn
  let identity ← okOr (← Identity.findByIp conn ip) unauthorized
  let sharedKey ← attempt .stored (openSharedKey identity config)
  let tokenBytes ← okOr (Hex.decode req.token) (.validation "invalid token hex")
  let ehloBytes ← okOr (Hex.decode req.ehlo) (.validation "invalid ehlo hex")
  let decryptedToken ← attempt .request (decryptWithSharedKey tokenBytes sharedKey)
  let decryptedEhlo ← attempt .request (decryptWithSharedKey ehloBytes sharedKey)
  let deviceTokenStr ← okOr (fromUtf8 decryptedToken) (.validation "token must be valid utf8")
  let storedToken := identity.deviceToken.getD ""
  refuseIf (asBytes (hashToken deviceTokenStr) ≠ asBytes storedToken) unauthorized
  let userId ← okOr identity.userId unauthorized
  let user ← okOr (← User.findByUuid conn userId) unauthorized
  refuseIf (user.isDeleted = true) unauthorized
  let decryptedStoredEhlo ← attempt .stored (openEhlo user config)
  refuseIf (decryptedEhlo ≠ decryptedStoredEhlo) unauthorized
  let newToken ← newUuid
  let _ ← Identity.update conn identity.uuid {
    userId := none
    ipAddress := none
    deviceToken := some (hashToken newToken)
    clientPublicKey := none
    extra := none
    isConfirmed := none }
  return newToken

/-! ## resign.rs -/

def resignHandler (config : Config) (ip : String) (req : TokenRequest) : Handler Unit := do
  let conn ← stateConn
  let tokenBytes ← okOr (Hex.decode req.token) (.validation "invalid token hex")
  let deviceTokenStr ← okOr (fromUtf8 tokenBytes) unauthorized
  let identity ← okOr (← Identity.findByDeviceToken conn (hashToken deviceTokenStr)) unauthorized
  let sharedKey ← attempt .stored (openSharedKey identity config)
  let ehloBytes ← okOr (Hex.decode req.ehlo) (.validation "invalid ehlo hex")
  let decryptedEhlo ← attempt .request (decryptWithSharedKey ehloBytes sharedKey)
  let userId ← okOr identity.userId unauthorized
  let user ← okOr (← User.findByUuid conn userId) unauthorized
  refuseIf (user.isDeleted = true) unauthorized
  let decryptedStoredEhlo ← attempt .stored (openEhlo user config)
  refuseIf (decryptedEhlo ≠ decryptedStoredEhlo) unauthorized
  let _ ← Identity.update conn identity.uuid {
    userId := none
    ipAddress := some ip
    deviceToken := none
    clientPublicKey := none
    extra := none
    isConfirmed := some false }

/-! ## verify.rs -/

def verifyHandler (headers : HeaderMap) (ip : String) : Handler Unit := do
  let _ ← validateAuth headers ip

end PasswordManager
