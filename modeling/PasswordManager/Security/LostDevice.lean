import PasswordManager.Security.Reading
import PasswordManager.Security.SameProof

/-!
# Replacing a lost device

An admin deletes the device, a new one greets from its address and signs in with the user's name
and ehlo, and is confirmed. It reads what the old one read, and nothing else has changed.
-/

namespace PasswordManager
open Interaction

/-! ## Tokens in headers -/

/-- The headers that carry a device token. -/
def tokenHeaders (token : String) : HeaderMap := [("device-token", asBytes token)]

/-- A token can be sent back in a header. -/
theorem tokenHeaders_uuid (u : Uuid) :
    (tokenHeaders u.toString).getStr "device-token" = some u.toString :=
  headerToStr_asBytes (Uuid.toString_visible u)

variable [Crypto] {config : Config} {db after : Db} {d : Identity} {user : User} {ehlo : Bytes}

/-! ## The keys of a new device -/

/-- The server reads from a row that it has just created the key that the client derives from the
answer. -/
theorem greeted_key (opens : OpensSealed) (agree : KeysAgree) (priv : BytesN 32) {nonce : BytesN 12}
    {random : BytesN 32} {blob : Bytes}
    (sealed : sealWith nonce (clamp random).val config.databaseEncryptSecret = .ok blob)
    (ip : String) (uuid : Uuid) (clock : NaiveDateTime) :
    ∃ key, openSharedKey ((greetRow ip random uuid blob (clientPublicKey priv).val).row clock) config = .ok key ∧
      clientSharedKey priv (Hex.encode (identityKeys random).serverPublicKey) = some key := by
  refine ⟨Crypto.x25519 (clamp random) (clientPublicKey priv), ?_, ?_⟩
  · show (decryptDb blob config).bind (fun opened => deriveSharedKey opened (clientPublicKey priv).val) = _
    rw [opens_sealed opens sealed]
    exact deriveSharedKey_sized _ _
  · show clientSharedKey priv (Hex.encode (Crypto.x25519 (clamp random) x25519Basepoint).val) = _
    rw [clientSharedKey_encode, agree]
    rfl

theorem clientSeal_sealed {nonce : BytesN 12} {plain : Bytes} {key : BytesN 32} {field : String}
    (shared : openSharedKey d config = .ok key) (sent : clientSeal nonce plain key = .ok field) :
    SealedFor config d field plain := by
  unfold clientSeal at sent
  cases done : sealWith nonce plain key with
  | error e =>
    rw [done] at sent
    cases sent
  | ok blob =>
    rw [done] at sent
    cases sent
    exact ⟨key, nonce, blob, shared, done, rfl⟩

theorem clientSeal_isOk (seals : Seals) (nonce : BytesN 12) (plain : Bytes) (key : BytesN 32) :
    ∃ field, clientSeal nonce plain key = .ok field := by
  obtain ⟨blob, sealed⟩ := sealWith_isOk seals nonce plain key
  exact ⟨Hex.encode blob, by rw [clientSeal, sealed]; rfl⟩

/-! ## The requests -/

/-- The admin's credentials, what the client chooses, and what the environment chooses while each of
the four requests is served. -/
structure Replacement where
  headers : HeaderMap
  addr : IpAddr
  priv : BytesN 32
  nameNonce : BytesN 12
  ehloNonce : BytesN 12
  choices : Fin 4 → Nat → Choice

/-- The requests by which an admin confirms a device. -/
inductive Confirms (headers : HeaderMap) (addr : IpAddr) (uuid : Uuid) : Request → Prop where
  | approve : Confirms headers addr uuid (.adminApprove headers addr uuid)
  | toggle : Confirms headers addr uuid (.adminToggleIdentity headers addr uuid "confirm")

/-- The requests succeed one after another. The client has the key, the token and the device. -/
inductive Replaces [Archive] (config : Config) (r : Replacement) (db : Db) (d : Identity) (name : String)
    (ehlo : Bytes) : BytesN 32 → String → Identity → Db → Prop where
  | intro {old uuid serverKey key nameField ehloField token deleted greeted signedIn new after}
      (lost : d.uuid = Uuid.toString old)
      (deletes : served config (r.choices 0) (.adminDelete r.headers r.addr old) db = (.ok .null, deleted))
      (greets : served config (r.choices 1)
        (.greet d.ipAddress ⟨Hex.encode (clientPublicKey r.priv).val⟩) deleted =
          (.ok (.greet serverKey), greeted))
      (derives : clientSharedKey r.priv serverKey = some key)
      (sealsName : clientSeal r.nameNonce (asBytes name) key = .ok nameField)
      (sealsEhlo : clientSeal r.ehloNonce ehlo key = .ok ehloField)
      (signsIn : served config (r.choices 2) (.signIn d.ipAddress ⟨nameField, ehloField⟩) greeted =
        (.ok (.token token), signedIn))
      (found : new.uuid = Uuid.toString uuid)
      (confirms : ∀ req, Confirms r.headers r.addr uuid req →
        served config (r.choices 3) req signedIn = (.ok .null, after)) :
      Replaces config r db d name ehlo key token new after

/-- The row of the new device stands in the place of the old one's. -/
structure InPlace (db after : Db) (d new : Identity) : Prop where
  users : after.users = db.users
  identities : after.identities = (db.identities.filter fun row => row.uuid ≠ d.uuid) ++ [new]
  groups : after.groups = db.groups
  passwords : after.passwords = db.passwords

/-! ## One request after another -/

section
variable [Archive] {choices : Nat → Choice} (calm : Calm choices)
include calm

theorem lost_deleted {headers : HeaderMap} {addr : IpAddr} (admin : Admin config headers addr)
    (device : d ∈ db.identities) {old : Uuid} (lost : d.uuid = old.toString) :
    ∃ after, served config choices (.adminDelete headers addr old) db = (.ok .null, after) ∧
      after.toTables = { db.toTables with
        identities := db.identities.filter fun row => row.uuid ≠ d.uuid } := by
  obtain ⟨count, after, removed, tables⟩ :=
    exec_removeDevice db ((choices 3).chance 0).toMoment old.toString
  have found := (Table.find_eq_some_iff db.valid.identityUuid).mpr ⟨device, lost⟩
  refine ⟨after, ?_, lost ▸ tables⟩
  unfold served serve
  rw [exec_map (exec_deleteIdentity calm admin found removed)]
  rfl

theorem new_greets (config : Config) (opens : OpensSealed) (agree : KeysAgree) (seals : Seals) (priv : BytesN 32)
    {ip : String} (free : ip ∉ db.identities.map (·.ipAddress))
    (unused : ((choices 4).chance 0).uuid.toString ∉ db.identities.map (·.uuid)) :
    ∃ serverKey key row after, served config choices
        (.greet ip ⟨Hex.encode (clientPublicKey priv).val⟩) db = (.ok (.greet serverKey), after) ∧
      clientSharedKey priv serverKey = some key ∧ openSharedKey row config = .ok key ∧
      row.uuid = ((choices 4).chance 0).uuid.toString ∧ row.ipAddress = ip ∧ row.deviceToken = none ∧
      after.toTables = { db.toTables with identities := db.identities ++ [row] } := by
  obtain ⟨blob, sealed⟩ := sealWith_isOk seals ((choices 5).chance 0).nonce
    (clamp ((choices 3).chance 0).random).val config.databaseEncryptSecret
  obtain ⟨key, opened, derived⟩ := greeted_key opens agree priv sealed ip
    ((choices 4).chance 0).uuid ((choices 6).chance 0).clock
  have new : (greetRow ip ((choices 3).chance 0).random ((choices 4).chance 0).uuid blob
      (clientPublicKey priv).val).uuid ∉ db.identities.map (·.uuid) := unused
  obtain ⟨after, created, tables⟩ := exec_newDevice ((choices 6).chance 0).toMoment new free rfl rfl
  have unknown : Table.find (·.ipAddress) db.identities ip = none := by
    refine List.find?_eq_none.mpr fun row member same => free ?_
    exact List.mem_map.mpr ⟨row, member, of_decide_eq_true same⟩
  refine ⟨_, key, _, after, ?_, derived, opened, rfl, rfl, rfl, tables⟩
  unfold served serve
  rw [exec_map (exec_greet calm unknown sealed created)]
  rfl

theorem new_signs_in (opens : OpensSealed) {key : BytesN 32} {nonce nonce' : BytesN 12} {name ehlo' : String}
    (device : d ∈ db.identities) (shared : openSharedKey d config = .ok key)
    (present : user ∈ db.users) (active : user.isDeleted = false)
    (stored : openEhlo user config = .ok ehlo) (named : clientSeal nonce (asBytes user.name) key = .ok name)
    (known : clientSeal nonce' ehlo key = .ok ehlo')
    (unused : ∀ row ∈ db.identities,
      row.deviceToken ≠ some (hashToken ((choices 4).chance 0).uuid.toString)) :
    ∃ now after, served config choices (.signIn d.ipAddress ⟨name, ehlo'⟩) db =
        (.ok (.token ((choices 4).chance 0).uuid.toString), after) ∧
      after.toTables = { db.toTables with
        identities := Table.update (·.uuid) db.identities d.uuid
          ((linkChanges user.uuid ((choices 4).chance 0).uuid.toString).apply now) } := by
  have found := (Table.find_eq_some_iff db.valid.identityIp).mpr ⟨device, rfl⟩
  have uuid := (Table.find_eq_some_iff db.valid.identityUuid).mpr ⟨device, rfl⟩
  have owner := (Table.find_eq_some_iff db.valid.userName).mpr ⟨present, rfl⟩
  have distinct : ∀ t ∈ (linkChanges user.uuid ((choices 4).chance 0).uuid.toString).deviceToken,
      ∀ row ∈ db.identities, row.uuid ≠ d.uuid → row.deviceToken ≠ some t := by
    rintro _ ⟨⟩ row member -
    exact unused row member
  have linked : ∀ u ∈ (linkChanges user.uuid ((choices 4).chance 0).uuid.toString).userId,
      u ∈ db.users.map (·.uuid) := by
    rintro _ ⟨⟩
    exact List.mem_map_of_mem present
  have stays : ∀ ip ∈ (linkChanges user.uuid ((choices 4).chance 0).uuid.toString).ipAddress,
      ∀ row ∈ db.identities, row.uuid ≠ d.uuid → row.ipAddress ≠ ip := nofun
  obtain ⟨after, updated, tables⟩ := exec_changeDevice ((choices 6).chance 0).toMoment
    ((choices 5).chance 0).clock uuid stays distinct linked
  refine ⟨_, after, ?_, tables⟩
  have sent : Opens config d (SignRequest.mk name ehlo').name (asBytes user.name) :=
    (clientSeal_sealed shared named).opens opens
  have proved : Opens config d (SignRequest.mk name ehlo').ehlo ehlo :=
    (clientSeal_sealed shared known).opens opens
  unfold served serve
  rw [exec_map (exec_signIn calm found sent proved owner active stored updated)]
  rfl

theorem admin_confirms {headers : HeaderMap} {addr : IpAddr} (admin : Admin config headers addr)
    (device : d ∈ db.identities) {uuid : Uuid} (same : d.uuid = uuid.toString) :
    ∃ now after, (∀ req, Confirms headers addr uuid req →
        served config choices req db = (.ok .null, after)) ∧
      after.toTables = { db.toTables with
        identities := Table.update (·.uuid) db.identities d.uuid ((confirmChanges true).apply now) } := by
  have found := (Table.find_eq_some_iff db.valid.identityUuid).mpr ⟨device, same⟩
  have stays : ∀ ip ∈ (confirmChanges true).ipAddress, ∀ row ∈ db.identities,
      row.uuid ≠ uuid.toString → row.ipAddress ≠ ip := nofun
  obtain ⟨after, updated, tables⟩ := exec_changeDevice ((choices 4).chance 0).toMoment
    ((choices 3).chance 0).clock found stays nofun nofun
  have accepted : checkAdmin headers addr config = .ok () := admin
  refine ⟨_, after, ?_, same ▸ tables⟩
  intro req confirms
  cases confirms with
  | approve =>
    have done : Fallible.exec Action.answer (approveHandler config headers addr uuid) (choices, db) =
        (.ok (), fun n => choices (n + 5), after) := by
      unfold approveHandler
      rw [Fallible.exec_bind, exec_attempt, accepted]
      exact exec_setConfirm calm found updated
    unfold served serve
    rw [exec_map done]
    rfl
  | toggle =>
    have done : Fallible.exec Action.answer (toggleIdentity config headers addr uuid "confirm")
        (choices, db) = (.ok (), fun n => choices (n + 5), after) := by
      unfold toggleIdentity
      rw [Fallible.exec_bind, exec_attempt, accepted]
      exact exec_setConfirm calm found updated
    unfold served serve
    rw [exec_map done]
    rfl

end

/-! ## The replacement -/

/-- With the token a device reads what every device of the user reads from the same passwords, at the
same times and in the same order. -/
def ReadsAlike [Archive] (config : Config) (user : String) (db after : Db) (ip token : String)
    (key : BytesN 32) : Prop :=
  ∀ before headers ip' old oldKey choices choices', SamePasswords db before →
    Access before headers ip' old user → openSharedKey old config = .ok oldKey →
    Calm choices → Calm choices' → SameMoments choices choices' →
      (∀ params, ∃ r r', AnsweredAlike (List.Forall₂ (SameEntry oldKey key)) r r' ∧
        ((before.groupsOf user).length ≤ SQLITE_MAX_VARIABLE_NUMBER → ∃ entries, r = .ok entries) ∧
        served config choices (.pwdList headers ip' params) before = (r.map .passwords, before) ∧
        served config choices' (.pwdList (tokenHeaders token) ip params) after =
          (r'.map .passwords, after)) ∧
      ∀ uuid, ∃ r r', AnsweredAlike (SameDetail oldKey key) r r' ∧
        served config choices (.pwdGet headers ip' uuid) before = (r.map .detail, before) ∧
        served config choices' (.pwdGet (tokenHeaders token) ip uuid) after = (r'.map .detail, after)

variable [Archive]

theorem run_uuid {tr : Journal} (run : Run config tr db) (device : d ∈ db.identities) :
    ∃ uuid : Uuid, d.uuid = uuid.toString := by
  obtain ⟨rid, row, born, same⟩ := run_born run d device
  obtain ⟨uuid, text, -⟩ := born_drew run born
  exact ⟨uuid, same.uuid.trans text⟩

/-- A device that is lost can always be replaced. -/
theorem lost_device_replaced (opens : OpensSealed) (agree : KeysAgree) (seals : Seals) {c : ServerState}
    (reached : (server config).Reachable c) (present : user ∈ c.world.users)
    (active : user.isDeleted = false) (stored : openEhlo user config = .ok ehlo)
    (device : d ∈ c.world.identities) (linked : d.userId = some user.uuid) (r : Replacement)
    (admin : Admin config r.headers r.addr) (calm : ∀ i, Calm (r.choices i))
    (newUuid : ((r.choices 1 4).chance 0).uuid.toString ∉ c.world.identities.map (·.uuid))
    (newToken : ∀ row ∈ c.world.identities,
      row.deviceToken ≠ some (hashToken ((r.choices 2 4).chance 0).uuid.toString)) :
    ∃ key token new after, Replaces config r c.world d user.name ehlo key token new after ∧
      InPlace c.world after d new ∧ new.ipAddress = d.ipAddress ∧ new.userId = d.userId ∧
      Access after (tokenHeaders token) d.ipAddress new user.uuid ∧
      ReadsAlike config user.uuid c.world after d.ipAddress token key := by
  have run := reachable_run reached
  obtain ⟨old, lost⟩ := run_uuid run device
  obtain ⟨deleted, deletes, tables₁⟩ := lost_deleted (calm 0) admin device lost
  have users₁ : deleted.users = c.world.users := by rw [tables₁]
  have rows₁ : deleted.identities = c.world.identities.filter fun row => row.uuid ≠ d.uuid := by
    rw [tables₁]
  have others : ∀ row ∈ deleted.identities, row ∈ c.world.identities ∧ row.uuid ≠ d.uuid := by
    intro row member
    rw [rows₁] at member
    exact ⟨List.mem_of_mem_filter member, of_decide_eq_true (List.mem_filter.mp member).2⟩
  have free : d.ipAddress ∉ deleted.identities.map (·.ipAddress) := by
    intro taken
    obtain ⟨row, member, same⟩ := List.mem_map.mp taken
    obtain ⟨there, other⟩ := others row member
    exact other (congrArg _ (Table.key_unique c.world.valid.identityIp there device same))
  have unused : ((r.choices 1 4).chance 0).uuid.toString ∉ deleted.identities.map (·.uuid) := by
    intro used
    obtain ⟨row, member, same⟩ := List.mem_map.mp used
    exact newUuid (List.mem_map.mpr ⟨row, (others row member).1, same⟩)
  obtain ⟨serverKey, key, row, greeted, greets, derives, shared, uuid, address, tokenless, tables₂⟩ :=
    new_greets (calm 1) config opens agree seals r.priv free unused
  have users₂ : greeted.users = c.world.users := by rw [tables₂, users₁]
  have rows₂ : greeted.identities = deleted.identities ++ [row] := by rw [tables₂]
  have newest : row ∈ greeted.identities := by
    rw [rows₂]
    exact List.mem_append_right _ (List.mem_singleton.mpr rfl)
  have apart : ∀ other ∈ deleted.identities, other.uuid ≠ row.uuid := by
    intro other member same
    exact unused (List.mem_map.mpr ⟨other, member, same.trans uuid⟩)
  have unheld : ∀ other ∈ greeted.identities,
      other.deviceToken ≠ some (hashToken ((r.choices 2 4).chance 0).uuid.toString) := by
    intro other member
    rw [rows₂] at member
    rcases List.mem_append.mp member with earlier | here
    · exact newToken other (others other earlier).1
    · rw [List.mem_singleton.mp here, tokenless]
      nofun
  obtain ⟨nameField, sealsName⟩ := clientSeal_isOk seals r.nameNonce (asBytes user.name) key
  obtain ⟨ehloField, sealsEhlo⟩ := clientSeal_isOk seals r.ehloNonce ehlo key
  obtain ⟨now, signedIn, signsIn, tables₃⟩ := new_signs_in (calm 2) opens newest shared (users₂ ▸ present)
    active stored sealsName sealsEhlo unheld
  rw [address] at signsIn
  rw [rows₂, Table.update_last apart rfl] at tables₃
  generalize linkRow : (linkChanges user.uuid ((r.choices 2 4).chance 0).uuid.toString).apply now row =
    linkedRow at tables₃
  have rows₃ : signedIn.identities = deleted.identities ++ [linkedRow] := by rw [tables₃]
  have linkedUuid : linkedRow.uuid = row.uuid := by rw [← linkRow]; rfl
  have there : linkedRow ∈ signedIn.identities := by
    rw [rows₃]
    exact List.mem_append_right _ (List.mem_singleton.mpr rfl)
  obtain ⟨now', after, confirms, tables₄⟩ := admin_confirms (calm 3) admin there (linkedUuid.trans uuid)
  rw [rows₃, Table.update_last (fun other member => linkedUuid ▸ apart other member) rfl] at tables₄
  have place : InPlace c.world after d ((confirmChanges true).apply now' linkedRow) := by
    constructor
    · rw [tables₄, tables₃]
      exact users₂
    · rw [tables₄]
      exact congrArg (· ++ _) rows₁
    · rw [tables₄, tables₃, tables₂, tables₁]
    · rw [tables₄, tables₃, tables₂, tables₁]
  have sameKey : openSharedKey ((confirmChanges true).apply now' linkedRow) config = .ok key := by
    rw [← linkRow]
    exact shared
  have access : Access after (tokenHeaders ((r.choices 2 4).chance 0).uuid.toString) d.ipAddress
      ((confirmChanges true).apply now' linkedRow) user.uuid := by
    constructor
    · exact ⟨_, tokenHeaders_uuid _, by rw [← linkRow]; rfl⟩
    · rw [place.identities]
      exact List.mem_append_right _ (List.mem_singleton.mpr rfl)
    · rw [← linkRow]
      exact address
    · rfl
    · rw [← linkRow]
      rfl
    · exact ⟨user, place.users ▸ present, rfl, active⟩
  refine ⟨key, _, (confirmChanges true).apply now' linkedRow, after, .intro lost deletes greets derives sealsName sealsEhlo signsIn
    (linkedUuid.trans uuid) confirms, place, access.address, access.linked.trans linked.symm, access, ?_⟩
  intro before headers ip' old' oldKey choices choices' same reads opened calm₁ calm₂ times
  have passwords : SamePasswords before after :=
    ⟨place.groups.trans same.groups.symm, place.passwords.trans same.passwords.symm⟩
  have usable : ∀ p ∈ before.passwords, p.Usable config :=
    same.passwords ▸ (run_atRest opens run).passwords
  exact ⟨pages_alike opens seals calm₁ calm₂ times reads access opened sameKey passwords usable,
    fetched_alike opens seals calm₁ calm₂ times reads access opened sameKey passwords usable⟩

/-! ## A device that is replaced -/

def plainReplacement : Replacement where
  headers := adminHeaders
  addr := localhost
  priv := zeroKey
  nameNonce := ⟨List.replicate 12 0, rfl⟩
  ehloNonce := ⟨List.replicate 12 0, rfl⟩
  choices i := turn (20 + i)

omit [Crypto] [Archive] in
theorem deviceRun_unused :
    ((plainReplacement.choices 1 4).chance 0).uuid.toString ∉ deviceRun.world.identities.map (·.uuid) ∧
      ∀ row ∈ deviceRun.world.identities, row.deviceToken ≠
        some (Hex.encode (asBytes ((plainReplacement.choices 2 4).chance 0).uuid.toString)) := by
  decide +kernel

omit [Crypto] [Archive] in
/-- The device in use is lost and replaced. -/
theorem lost_device_replaced_device :
    letI := plainCrypto
    letI := plainArchive
    ∃ d ∈ deviceRun.world.identities, ∃ user ∈ deviceRun.world.users, d.userId = some user.uuid ∧
      ∃ key token new after,
        Replaces plainConfig plainReplacement deviceRun.world d user.name (asBytes "secret") key token new
          after ∧
        InPlace deviceRun.world after d new ∧ new.ipAddress = d.ipAddress ∧ new.userId = d.userId ∧
        Access after (tokenHeaders token) d.ipAddress new user.uuid ∧
        ReadsAlike plainConfig user.uuid deviceRun.world after d.ipAddress token key := by
  let _ := plainCrypto
  let _ := plainArchive
  obtain ⟨d, device, user, owner, uses⟩ := deviceRun_inUse
  obtain ⟨newUuid, newToken⟩ := deviceRun_unused
  have calm : ∀ i, Calm (plainReplacement.choices i) := fun i => ⟨fun _ => ⟨⟨0⟩, rfl⟩, fun _ => rfl⟩
  refine ⟨d, device, user, owner, uses.linked, ?_⟩
  exact lost_device_replaced plain_opens plain_agrees plain_seals deviceRun_reachable owner uses.active
    (toOption_ok uses.ehlo) device uses.linked plainReplacement plain_admin calm newUuid newToken

end PasswordManager
