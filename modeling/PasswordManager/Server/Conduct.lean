import PasswordManager.Server.System

/-!
# What the handlers do

`Write` says once, for every statement that changes a row, which request issues it and what
that request has checked before. `Outcome` says the same for successful replies and `Blame`
for errors. `Specs` proves that every handler keeps to them, and later modules argue about
runs from these facts alone.
-/

namespace PasswordManager
open Interaction

variable [Crypto]

/-! ## Rows that can be read back -/

/-- The server key of a device opens under the database key and belongs to its public key. -/
def Identity.Usable (config : Config) (d : Identity) : Prop :=
  ∃ scalar : BytesN 32, decryptDb d.serverPrivateKey config = .ok scalar.val ∧
    d.serverPublicKey = (Crypto.x25519 scalar x25519Basepoint).val ∧
    d.clientPublicKey.length = 32

def User.Usable (config : Config) (u : User) : Prop := ∃ ehlo, openEhlo u config = .ok ehlo

def Password.Usable (config : Config) (p : Password) : Prop :=
  ∃ plain, openPwd p.pwd config = .ok plain

/-- The rows in a statement's result can be read back. -/
def Query.Readable (config : Config) : (q : Query) → q.Answer → Prop
  | .userFindByUuid _, a | .userFindByName _, a => ∀ u ∈ a, u.Usable config
  | .identityFindByIp _, a | .identityFindByDeviceToken _, a | .identityFindByUuid _, a =>
    ∀ d ∈ a, d.Usable config
  | .passwordFindByUuid _, a => ∀ p ∈ a, p.Usable config
  | .passwordFindByGroups _, a => ∀ p ∈ a, p.Usable config
  | .passwordCreate _, a => a.Usable config
  | _, _ => True

/-- The request was given a row that cannot be read back. -/
def Corrupt (config : Config) (h : History Action.Answer) : Prop :=
  ∃ conn q a, answered conn q a ∈ h ∧ ¬q.Readable config a

/-! ## What a request has checked -/

/-- No statement that writes has been issued. -/
def Quiet (h : History Action.Answer) : Prop := ∀ e ∈ h, e.action.isWrite = false

/-- No row has been changed. -/
def Unwritten (h : History Action.Answer) : Prop := ∀ e ∈ h, wrote e = false

/-- The last uuid that the request has drawn. -/
def drawnUuid (h : History Action.Answer) : Option Uuid :=
  h.findSome? fun
    | ⟨.effect .uuid, u⟩ => some u
    | _ => none

/-- `validate_auth` accepted the request for a device of the user. -/
structure Accepted (h : History Action.Answer) (headers : HeaderMap) (ip : String)
    (identity : Identity) (userId : String) : Prop where
  device : ∃ token conn, headers.getStr "device-token" = some token ∧
    answered conn (.identityFindByDeviceToken (hashToken token)) (some identity) ∈ h
  address : identity.ipAddress = ip
  confirmed : identity.isConfirmed = true
  linked : identity.userId = some userId
  active : ∃ conn user, answered conn (.userFindByUuid userId) (some user) ∈ h ∧
    user.isDeleted = false

/-- A hex field of a request opens under the device's shared key. -/
def Opens (config : Config) (identity : Identity) (field : String) (plain : Bytes) : Prop :=
  ∃ blob key, Hex.decode field = some blob ∧ openSharedKey identity config = .ok key ∧
    decryptWithSharedKey blob key = .ok plain

theorem Opens.unique {identity : Identity} {field : String} {a b : Bytes}
    (one : Opens config identity field a) (two : Opens config identity field b) : a = b := by
  obtain ⟨blob, key, decoded, derived, opened⟩ := one
  obtain ⟨blob', key', decoded', derived', opened'⟩ := two
  obtain rfl := Option.some.inj (decoded.symm.trans decoded')
  obtain rfl := Except.ok.inj (derived.symm.trans derived')
  exact Except.ok.inj (opened.symm.trans opened')

/-- A sign-up or sign-in request was decoded for the device at its address. -/
structure Decoded (config : Config) (h : History Action.Answer) (ip : String) (req : SignRequest)
    (identity : Identity) (name : String) (ehlo : Bytes) : Prop where
  device : ∃ conn, answered conn (.identityFindByIp ip) (some identity) ∈ h
  name : Opens config identity req.name (asBytes name)
  ehlo : Opens config identity req.ehlo ehlo

/-- The request knows the ehlo of the active user that the device is linked to. -/
structure KnowsEhlo (config : Config) (h : History Action.Answer) (identity : Identity)
    (field : String) (userId : String) : Prop where
  linked : identity.userId = some userId
  proof : ∃ conn user ehlo, answered conn (.userFindByUuid userId) (some user) ∈ h ∧
    user.isDeleted = false ∧ openEhlo user config = .ok ehlo ∧ Opens config identity field ehlo

/-- `check_admin_key` and `check_admin_ip` accepted the request. -/
def Admin (config : Config) (headers : HeaderMap) (addr : IpAddr) : Prop :=
  checkAdmin headers addr config = .ok ()

/-- The action words of the two toggle endpoints. -/
def confirmWord : Bool → String
  | true => "confirm"
  | false => "unconfirm"

def deleteWord : Bool → String
  | true => "delete"
  | false => "restore"

/-! ## The changes that the handlers make -/

abbrev linkChanges (userId token : String) : UpdateIdentity where
  userId := some userId
  ipAddress := none
  deviceToken := some (hashToken token)
  clientPublicKey := none
  extra := none
  isConfirmed := some false

abbrev refreshChanges (token : String) : UpdateIdentity where
  userId := none
  ipAddress := none
  deviceToken := some (hashToken token)
  clientPublicKey := none
  extra := none
  isConfirmed := none

abbrev resignChanges (ip : String) : UpdateIdentity where
  userId := none
  ipAddress := some ip
  deviceToken := none
  clientPublicKey := none
  extra := none
  isConfirmed := some false

abbrev confirmChanges (confirmed : Bool) : UpdateIdentity where
  userId := none
  ipAddress := none
  deviceToken := none
  clientPublicKey := none
  extra := none
  isConfirmed := some confirmed

abbrev greetRow (ip : String) (random : BytesN 32) (uuid : Uuid) (blob key : Bytes) :
    NewIdentity where
  uuid := uuid.toString
  userId := none
  ipAddress := ip
  deviceToken := none
  serverPrivateKey := blob
  serverPublicKey := (identityKeys random).serverPublicKey
  clientPublicKey := key
  extra := "{}"
  isConfirmed := false

abbrev createRow (body : CreatePasswordRequest) (uuid : Uuid) (blob : Bytes)
    (now : NaiveDateTime) : NewPassword where
  uuid := uuid.toString
  groupId := body.groupId
  pwd := Hex.encode blob
  name := body.name.getD ""
  extra := body.extra.getD "{}"
  validSinceDays := (body.validSinceDays.map (clampInt 1 365)).getD 30
  validSince := now

abbrev updateChanges (body : UpdatePasswordRequest) (blob : Bytes) : UpdatePassword where
  pwd := some (Hex.encode blob)
  groupId := some body.groupId
  name := body.name
  extra := body.extra
  validSinceDays := none

/-- The statements that change rows, each with the request that issues it and what that
request has learned before it does. -/
inductive Write (config : Config) : Request → History Action.Answer → Action → Prop where
  | greet {ip body h conn key random uuid blob}
      (decoded : Hex.decode body.pubKey = some key) (size : key.length = 32)
      (drew : drawnUuid h = some uuid)
      (sealed : ∃ nonce, sealWith nonce (clamp random).val config.databaseEncryptSecret = .ok blob) :
      Write config (.greet ip body) h
        (.effect (.sql conn (.identityCreate (greetRow ip random uuid blob key))))
  | signUp {ip body h conn identity name ehlo blob}
      (decoded : Decoded config h ip body identity name ehlo)
      (valid : validateName name = .ok ())
      (sealed : ∃ nonce, sealWith nonce ehlo config.databaseEncryptSecret = .ok blob) :
      Write config (.signUp ip body) h (.transaction conn ⟨name, Hex.encode blob, identity.uuid⟩)
  | signIn {ip body h conn identity name ehlo user token now}
      (decoded : Decoded config h ip body identity name ehlo)
      (found : ∃ conn, answered conn (.userFindByName name) (some user) ∈ h)
      (active : user.isDeleted = false) (known : openEhlo user config = .ok ehlo)
      (drew : drawnUuid h = some token) :
      Write config (.signIn ip body) h
        (.effect (.sql conn (.identityUpdate identity.uuid (linkChanges user.uuid token.toString) now)))
  | refresh {ip body h conn identity old userId token now}
      (device : ∃ conn, answered conn (.identityFindByIp ip) (some identity) ∈ h)
      (opened : Opens config identity body.token (asBytes old))
      (holds : hashToken old = identity.deviceToken.getD "")
      (knows : KnowsEhlo config h identity body.ehlo userId) (drew : drawnUuid h = some token) :
      Write config (.refresh ip body) h
        (.effect (.sql conn (.identityUpdate identity.uuid (refreshChanges token.toString) now)))
  | resign {ip body h conn identity token userId now}
      (decoded : Hex.decode body.token = some (asBytes token))
      (device : ∃ conn, answered conn (.identityFindByDeviceToken (hashToken token)) (some identity) ∈ h)
      (knows : KnowsEhlo config h identity body.ehlo userId) :
      Write config (.resign ip body) h
        (.effect (.sql conn (.identityUpdate identity.uuid (resignChanges ip) now)))
  | approve {headers addr uuid h conn now} (admin : Admin config headers addr) :
      Write config (.adminApprove headers addr uuid) h
        (.effect (.sql conn (.identityUpdate uuid.toString (confirmChanges true) now)))
  | toggleIdentity {headers addr uuid h conn confirmed now} (admin : Admin config headers addr) :
      Write config (.adminToggleIdentity headers addr uuid (confirmWord confirmed)) h
        (.effect (.sql conn (.identityUpdate uuid.toString (confirmChanges confirmed) now)))
  | deleteIdentity {headers addr uuid h conn} (admin : Admin config headers addr) :
      Write config (.adminDelete headers addr uuid) h
        (.effect (.sql conn (.identityDelete uuid.toString)))
  | toggleUser {headers addr uuid h conn isDeleted now} (admin : Admin config headers addr) :
      Write config (.adminToggleUser headers addr uuid (deleteWord isDeleted)) h
        (.effect (.sql conn (.userUpdate uuid.toString ⟨some isDeleted, none⟩ now)))
  | groupCreate {headers ip body h conn identity userId uuid}
      (accepted : Accepted h headers ip identity userId) (drew : drawnUuid h = some uuid) :
      Write config (.groupCreate headers ip body) h
        (.effect (.sql conn (.groupCreate ⟨uuid.toString, userId, body.name, body.extra.getD "{}"⟩)))
  | pwdCreate {headers ip body h conn identity userId plain blob group uuid now}
      (accepted : Accepted h headers ip identity userId)
      (opened : Opens config identity body.pwd plain)
      (sealed : ∃ nonce, sealWith nonce plain config.databaseEncryptSecret = .ok blob)
      (target : ∃ conn, answered conn (.groupFindByUuid body.groupId) (some group) ∈ h)
      (owned : group.userId = userId) (drew : drawnUuid h = some uuid) (time : readClock now ∈ h) :
      Write config (.pwdCreate headers ip body) h
        (.effect (.sql conn (.passwordCreate (createRow body uuid blob now))))
  | pwdUpdate {headers ip body h conn identity userId plain blob existing group targetGroup uuid now}
      (accepted : Accepted h headers ip identity userId)
      (found : ∃ conn, answered conn (.passwordFindByUuid uuid.toString) (some existing) ∈ h)
      (current : ∃ conn, answered conn (.groupFindByUuid existing.groupId) (some group) ∈ h)
      (owned : group.userId = userId)
      (target : ∃ conn, answered conn (.groupFindByUuid body.groupId) (some targetGroup) ∈ h)
      (targetOwned : targetGroup.userId = userId)
      (opened : Opens config identity body.pwd plain)
      (sealed : ∃ nonce, sealWith nonce plain config.databaseEncryptSecret = .ok blob)
      (time : readClock now ∈ h) :
      Write config (.pwdUpdate headers ip uuid body) h
        (.effect (.sql conn (.passwordUpdate uuid.toString (updateChanges body blob) now)))

/-- What a request may do next: it identifies its device once, and writes once, as `Write`
says. -/
structure Justified (config : Config) (req : Request) (h : History Action.Answer) (x : Action) :
    Prop where
  once : x.identifies = true → ∀ e ∈ h, e.action.identifies = false
  write : x.isWrite = true → Quiet h ∧ Write config req h x

/-! ## Replies -/

/-- What an error says about the request that it answers. -/
inductive Blame (config : Config) (h : History Action.Answer) (f : Failure) : Prop where
  | refused (origin : f.origin = .request ∨ f.origin = .backend) (unwritten : Unwritten h)
  | stored (origin : f.origin = .stored) (corrupt : Corrupt config h)
  | sealing (origin : f.origin = .sealing) (failed : ¬Seals)
  | rolledBack (transaction : ∃ conn t, rolledBack conn t f ∈ h) (unwritten : Unwritten h)

/-- A stored password, sealed again for the device. -/
def ForClient (config : Config) (identity : Identity) (stored sent : String) : Prop :=
  ∃ plain key nonce blob, openPwd stored config = .ok plain ∧
    openSharedKey identity config = .ok key ∧ sealWith nonce plain key = .ok blob ∧
    sent = Hex.encode blob

/-- Each entry of a list was sealed for the device from one of the rows. -/
def Entries (config : Config) (identity : Identity) (rows : List Password)
    (entries : List PasswordEntry) : Prop :=
  ∀ entry ∈ entries, ∃ row ∈ rows, entry.uuid = row.uuid ∧
    ForClient config identity row.pwd entry.pwd

/-- What a successful reply says about the request that it answers. -/
def Outcome (config : Config) : Request → History Action.Answer → Reply → Prop
  | .greet _ _, h, .greet key => ∃ conn new row,
    answered conn (.identityCreate new) row ∈ h ∧ key = Hex.encode new.serverPublicKey
  | .signUp _ _, h, .token token => ∃ conn t user, committed conn t (user, token) ∈ h
  | .signIn _ _, h, .token token => ∃ conn uuid user now row,
    answered conn (.identityUpdate uuid (linkChanges user token) now) row ∈ h
  | .refresh _ _, h, .token token => ∃ conn uuid now row,
    answered conn (.identityUpdate uuid (refreshChanges token) now) row ∈ h
  | .verify headers ip, h, .null => ∃ identity userId, Accepted h headers ip identity userId
  | .pwdCreate headers ip _, h, .password entry => ∃ identity userId conn new row,
    Accepted h headers ip identity userId ∧ answered conn (.passwordCreate new) row ∈ h ∧
      entry.uuid = row.uuid ∧ ForClient config identity row.pwd entry.pwd
  | .pwdUpdate _ _ uuid _, h, .null => ∃ conn changes now row,
    answered conn (.passwordUpdate uuid.toString changes now) row ∈ h
  | .pwdGet headers ip uuid, h, .detail detail => ∃ identity userId conn row,
    Accepted h headers ip identity userId ∧
      answered conn (.passwordFindByUuid uuid.toString) (some row) ∈ h ∧
      detail.uuid = row.uuid ∧ detail.name = row.name ∧ detail.extra = row.extra ∧
      ForClient config identity row.pwd detail.pwd
  | .pwdList headers ip _, h, .passwords entries => ∃ identity userId conn groupIds rows,
    Accepted h headers ip identity userId ∧
      answered conn (.passwordFindByGroups groupIds) rows ∈ h ∧
      Entries config identity rows entries
  | .greet _ _, _, _ | .signUp _ _, _, _ | .signIn _ _, _, _ | .refresh _ _, _, _
  | .verify _ _, _, _ | .pwdCreate _ _ _, _, _ | .pwdUpdate _ _ _ _, _, _ | .pwdGet _ _ _, _, _
  | .pwdList _ _ _, _, _ => False
  | _, _, _ => True

def Settled (config : Config) (req : Request) (h : History Action.Answer) : Result → Prop
  | .ok reply => Outcome config req h reply
  | .error f => Blame config h f

end PasswordManager
