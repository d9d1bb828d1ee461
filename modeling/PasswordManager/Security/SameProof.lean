import PasswordManager.Security.AtRest
import PasswordManager.Security.Enrollment
import PasswordManager.Server.Alone
import PasswordManager.Store.Accept

/-!
# One proof for two endpoints

`/refresh` and `/re-sign` take the same body: the token and the ehlo of a device. The first opens
both under the key of the device, the second only the ehlo.
-/

namespace PasswordManager
open Interaction

/-- What AES-GCM seals does not get shorter. -/
def SealingGrows [Crypto] : Prop :=
  ∀ key nonce data sealed, Crypto.encrypt key nonce data = some sealed → data.length ≤ sealed.length

theorem plain_grows : @SealingGrows plainCrypto := by
  intro key nonce data sealed encrypted
  cases encrypted
  simp

variable [Crypto] {config : Config} {choices : Nat → Choice} {db : Db} {d : Identity} {user : User}
  {token : String} {ehlo : Bytes} {body : TokenRequest}

/-- The device is linked to an active user and holds the token. -/
structure Holder (config : Config) (db : Db) (d : Identity) (token : String) (user : User)
    (ehlo : Bytes) : Prop where
  device : d ∈ db.identities
  holds : d.deviceToken = some (hashToken token)
  linked : d.userId = some user.uuid
  owner : user ∈ db.users
  active : user.isDeleted = false
  stored : openEhlo user config = .ok ehlo

/-- A field that the device has sealed. -/
def SealedFor (config : Config) (d : Identity) (field : String) (plain : Bytes) : Prop :=
  ∃ key nonce blob, openSharedKey d config = .ok key ∧ sealWith nonce plain key = .ok blob ∧
    field = Hex.encode blob

/-- The body that the documentation gives for both endpoints. -/
structure Documented (config : Config) (d : Identity) (token : String) (ehlo : Bytes)
    (body : TokenRequest) : Prop where
  token : SealedFor config d body.token (asBytes token)
  ehlo : SealedFor config d body.ehlo ehlo

/-- The re-sign request has bound the device to the address and taken its confirmation. -/
structure Rebinds [Archive] (config : Config) (choices : Nat → Choice) (ip : String)
    (body : TokenRequest) (d : Identity) (db : Db) : Prop where
  accepted : (served config choices (.resign ip body) db).1 = .ok .null
  bound : ∃ row ∈ (served config choices (.resign ip body) db).2.identities, SameDevice row d ∧
    row.ipAddress = ip ∧ row.isConfirmed = false ∧ row.deviceToken = d.deviceToken ∧
    row.userId = d.userId

theorem SealedFor.opens (opens : OpensSealed) {field : String} {plain : Bytes}
    (sent : SealedFor config d field plain) : Opens config d field plain := by
  obtain ⟨key, nonce, blob, derived, sealed, rfl⟩ := sent
  exact ⟨blob, key, Hex.decode_encode blob, derived, decrypt_sealed opens sealed⟩

/-! ## Tokens are texts of uuids -/

section
variable [Archive] {tr : Journal}

theorem run_tokenTexts (run : Run config tr db) :
    ∀ d ∈ db.identities, ∀ t ∈ d.deviceToken, ∃ u : Uuid, t = hashToken u.toString := by
  induction run using Run.induction with
  | nil => nofun
  | start tr db rid req before run ih | reply tr db rid req res before run ih => exact ih
  | act tr rid req e pre post before run change ih =>
    have updated : ∀ {uuid : String} {changes : UpdateIdentity} {now : NaiveDateTime},
        (∀ t ∈ changes.deviceToken, ∃ u : Uuid, t = hashToken u.toString) →
        ∀ d ∈ Table.update (·.uuid) pre.identities uuid (changes.apply now),
          ∀ t ∈ d.deviceToken, ∃ u : Uuid, t = hashToken u.toString := by
      intro uuid changes now text d member t holds
      rcases Table.mem_update.mp member with ⟨old, present, -, rfl⟩ | ⟨present, -⟩
      · have kept : (changes.apply now old).deviceToken = changes.deviceToken.or old.deviceToken := rfl
        rw [kept] at holds
        cases given : changes.deviceToken with
        | none =>
          rw [given] at holds
          exact ih old present t holds
        | some t' =>
          rw [given] at holds
          obtain rfl := Option.some.inj holds
          exact text t' given
      · exact ih d present t holds
    rcases change.identities with same | ⟨conn, new, clock, rfl, write, created⟩ |
      ⟨_, t, user, token, _, now, old, rfl, write, -, -, linked⟩ |
      ⟨_, uuid, changes, now, old, -, write, -, changed⟩ | ⟨_, uuid, _, -, -, deleted⟩
    · exact same ▸ ih
    · rw [created]
      refine List.forall_mem_append.mpr ⟨ih, List.forall_mem_singleton.mpr ?_⟩
      cases write with
      | greet => nofun
    · rw [linked]
      obtain ⟨choice, happened⟩ := run.newest.2.2.1
      obtain ⟨u, rfl⟩ := transaction_token happened
      exact updated fun t given => ⟨u, (Option.some.inj given).symm⟩
    · rw [changed]
      refine updated fun t given => ?_
      cases write with
      | signIn => exact ⟨_, (Option.some.inj given).symm⟩
      | refresh => exact ⟨_, (Option.some.inj given).symm⟩
      | resign => cases given
      | approve => cases given
      | toggleIdentity => cases given
    · rw [deleted]
      exact fun d member => ih d (List.mem_of_mem_filter member)

/-- A token that was sealed is not the token of any device as it is. -/
theorem sealed_unknown (injective : HashInjective) (grows : SealingGrows) (run : Run config tr db)
    (device : d ∈ db.identities) (holds : d.deviceToken = some (hashToken token))
    {nonce : BytesN 12} {key : BytesN 32} {blob : Bytes}
    (sealed : sealWith nonce (asBytes token) key = .ok blob) {other : String}
    (same : asBytes other = blob) :
    Table.find (·.deviceToken) db.identities (some (hashToken other)) = none := by
  cases found : Table.find (·.deviceToken) db.identities (some (hashToken other)) with
  | none => rfl
  | some d' =>
    obtain ⟨member, holds'⟩ := Table.find_some found
    obtain ⟨u, text⟩ := run_tokenTexts run d device _ holds
    obtain ⟨u', text'⟩ := run_tokenTexts run d' member _ holds'
    have short : (asBytes token).length = 36 := by
      rw [injective text, Uuid.length_toString]
    have short' : blob.length = 36 := by
      rw [← same, injective text', Uuid.length_toString]
    obtain ⟨sealed, encrypted, rfl⟩ := sealWith_ok sealed
    have long := grows _ _ _ _ encrypted
    have sized := nonce.property
    rw [List.length_append] at short'
    omega

/-! ## The two endpoints -/

omit [Archive] in
theorem Holder.found (holder : Holder config db d token user ehlo) :
    Table.find (·.uuid) db.identities d.uuid = some d ∧
      Table.find (·.ipAddress) db.identities d.ipAddress = some d ∧
      Table.find (·.deviceToken) db.identities (some (hashToken token)) = some d ∧
      Table.find (·.uuid) db.users user.uuid = some user := by
  have valid := db.valid
  refine ⟨?_, ?_, ?_, ?_⟩
  · exact (Table.find_eq_some_iff valid.identityUuid).mpr ⟨holder.device, rfl⟩
  · exact (Table.find_eq_some_iff valid.identityIp).mpr ⟨holder.device, rfl⟩
  · exact Table.find_column valid.identityToken holder.device holder.holds
  · exact (Table.find_eq_some_iff valid.userUuid).mpr ⟨holder.owner, rfl⟩

theorem refresh_accepts (opens : OpensSealed) (calm : Calm choices)
    (holder : Holder config db d token user ehlo) (proof : Documented config d token ehlo body)
    (unused : ∀ d' ∈ db.identities,
      d'.deviceToken ≠ some (hashToken ((choices 4).chance 0).uuid.toString)) :
    (served config choices (.refresh d.ipAddress body) db).1 =
      .ok (.token ((choices 4).chance 0).uuid.toString) := by
  obtain ⟨uuid, address, -, owner⟩ := holder.found
  have free : ∀ ip ∈ (refreshChanges ((choices 4).chance 0).uuid.toString).ipAddress,
      ∀ d' ∈ db.identities, d'.uuid ≠ d.uuid → d'.ipAddress ≠ ip := nofun
  have distinct : ∀ t ∈ (refreshChanges ((choices 4).chance 0).uuid.toString).deviceToken,
      ∀ d' ∈ db.identities, d'.uuid ≠ d.uuid → d'.deviceToken ≠ some t := by
    rintro _ ⟨⟩ d' member -
    exact unused d' member
  obtain ⟨after, updated, -⟩ := exec_changeDevice ((choices 6).chance 0).toMoment
    ((choices 5).chance 0).clock uuid free distinct nofun
  have done := exec_refresh calm address (proof.token.opens opens) holder.holds holder.linked owner
    holder.active holder.stored (proof.ehlo.opens opens) updated
  show (Fallible.exec Action.answer (Reply.token <$> refreshHandler config d.ipAddress body)
    (choices, db)).1 = _
  rw [exec_map done]
  rfl

theorem resign_rejects (injective : HashInjective) (grows : SealingGrows) (run : Run config tr db)
    (holder : Holder config db d token user ehlo) (sent : SealedFor config d body.token (asBytes token))
    (choices : Nat → Choice) (ip : String) :
    ¬Rebinds config choices ip body d db ∧
      (Calm choices → served config choices (.resign ip body) db =
        (.error ⟨unauthorized, .request⟩, db)) := by
  obtain ⟨key, nonce, blob, derived, sealed, hex⟩ := sent
  have decoded : Hex.decode body.token = some blob := by
    rw [hex, Hex.decode_encode]
  have unknown : ∀ other, asBytes other = blob →
      Table.find (·.deviceToken) db.identities (some (hashToken other)) = none :=
    fun _ => sealed_unknown injective grows run holder.device holder.holds sealed
  constructor
  · intro rebinds
    have accepted := rebinds.accepted
    unfold served serve at accepted
    cases ended : Fallible.exec Action.answer (resignHandler config ip body) (choices, db) with
    | mk result rest =>
      simp only [exec_map ended] at accepted
      cases result with
      | error e => cases accepted
      | ok v =>
        obtain ⟨other, d', decoded', found⟩ := resign_found ended
        have same := Option.some.inj (decoded'.symm.trans decoded)
        cases (unknown other same).symm.trans found
  · intro calm
    obtain ⟨rest, done⟩ := exec_resign_unknown config ip calm decoded unknown
    unfold served serve
    rw [exec_map done]
    rfl

/-- What `/re-sign` accepts is the token itself beside the sealed ehlo. -/
theorem bare_token_rebinds (opens : OpensSealed) (calm : Calm choices) {ip : String}
    (holder : Holder config db d token user ehlo) (sent : body.token = Hex.encode (asBytes token))
    (known : SealedFor config d body.ehlo ehlo)
    (free : ∀ d' ∈ db.identities, d'.uuid ≠ d.uuid → d'.ipAddress ≠ ip) :
    Rebinds config choices ip body d db := by
  obtain ⟨uuid, -, holds, owner⟩ := holder.found
  have decoded : Hex.decode body.token = some (asBytes token) := by
    rw [sent, Hex.decode_encode]
  have vacant : ∀ ip' ∈ (resignChanges ip).ipAddress, ∀ d' ∈ db.identities, d'.uuid ≠ d.uuid →
      d'.ipAddress ≠ ip' := by
    rintro _ ⟨⟩
    exact free
  obtain ⟨after, updated, tables⟩ := exec_changeDevice ((choices 5).chance 0).toMoment
    ((choices 4).chance 0).clock uuid vacant nofun nofun
  have done := exec_resign ip calm decoded holds holder.linked owner holder.active
    holder.stored (known.opens opens)
  simp only [updated] at done
  have ended : served config choices (.resign ip body) db = (.ok .null, after) := by
    unfold served serve
    rw [exec_map done]
    rfl
  refine ⟨by rw [ended], ?_⟩
  rw [ended]
  refine ⟨(resignChanges ip).apply ((choices 4).chance 0).clock d, ?_, ?_, rfl, rfl, rfl, rfl⟩
  · rw [tables]
    exact Table.mem_update.mpr (.inl ⟨d, holder.device, rfl, rfl⟩)
  · exact ⟨rfl, rfl, rfl, rfl⟩

variable (config) in
/-- Every documented body moves its device to every free address. -/
def SameProof : Prop :=
  ∀ c, (server config).Reachable c → ∀ d token user ehlo body,
    Holder config c.world d token user ehlo → Documented config d token ehlo body →
    ∀ choices ip, Calm choices → (∀ d' ∈ c.world.identities, d'.uuid ≠ d.uuid → d'.ipAddress ≠ ip) →
      Rebinds config choices ip body d c.world

/-- The documented body is accepted by `/refresh` and never by `/re-sign`, which takes the sealed
token for the token. -/
theorem sealed_proof_rejected (injective : HashInjective) (opens : OpensSealed)
    (grows : SealingGrows) {c : ServerState} (reached : (server config).Reachable c)
    (holder : Holder config c.world d token user ehlo)
    (proof : Documented config d token ehlo body) :
    (∀ choices, Calm choices → (∀ d' ∈ c.world.identities,
        d'.deviceToken ≠ some (hashToken ((choices 4).chance 0).uuid.toString)) →
      ∃ new, (served config choices (.refresh d.ipAddress body) c.world).1 = .ok (.token new)) ∧
    ∀ choices ip, ¬Rebinds config choices ip body d c.world ∧
      (Calm choices → served config choices (.resign ip body) c.world =
        (.error ⟨unauthorized, .request⟩, c.world)) :=
  ⟨fun _ calm unused => ⟨_, refresh_accepts opens calm holder proof unused⟩,
    resign_rejects injective grows (reachable_run reached) holder proof.token⟩

end

/-! ## A device that moves with the documented body -/

omit [Crypto] in
theorem deviceRun_holder :
    letI := plainCrypto
    ∃ d user, Holder plainConfig deviceRun.world d (numbered 2064).toString user (asBytes "secret") ∧
      openSharedKey d plainConfig = .ok deviceKey := by
  let _ := plainCrypto
  obtain ⟨d, device, user, owner, uses⟩ := deviceRun_inUse
  exact ⟨d, user, ⟨device, uses.token, uses.linked, owner, uses.active, toOption_ok uses.ehlo⟩,
    toOption_ok uses.key⟩

def documentedBody : TokenRequest :=
  ⟨hidden (asBytes (numbered 2064).toString), hidden (asBytes "secret")⟩

omit [Crypto] in
theorem hidden_sealed {d : Identity} (plain : Bytes) :
    letI := plainCrypto
    openSharedKey d plainConfig = .ok deviceKey → SealedFor plainConfig d (hidden plain) plain := by
  let _ := plainCrypto
  exact fun derived => ⟨deviceKey, ⟨List.replicate 12 0, rfl⟩, _, derived, rfl, rfl⟩

omit [Crypto] in
theorem sealed_proof_rejected_device :
    letI := plainCrypto
    letI := plainArchive
    ∃ d, (∀ choices, Calm choices → (∀ d' ∈ deviceRun.world.identities,
        d'.deviceToken ≠ some (hashToken ((choices 4).chance 0).uuid.toString)) →
      ∃ new, (served plainConfig choices (.refresh d.ipAddress documentedBody) deviceRun.world).1 =
        .ok (.token new)) ∧
    ∀ choices ip, ¬Rebinds plainConfig choices ip documentedBody d deviceRun.world ∧
      (Calm choices → served plainConfig choices (.resign ip documentedBody) deviceRun.world =
        (.error ⟨unauthorized, .request⟩, deviceRun.world)) := by
  let _ := plainCrypto
  let _ := plainArchive
  obtain ⟨d, user, holder, derived⟩ := deviceRun_holder
  exact ⟨d, sealed_proof_rejected plain_hash plain_opens plain_grows deviceRun_reachable holder
    ⟨hidden_sealed _ derived, hidden_sealed _ derived⟩⟩

omit [Crypto] in
theorem proofs_differ :
    letI := plainCrypto
    letI := plainArchive
    ¬SameProof plainConfig := by
  let _ := plainCrypto
  let _ := plainArchive
  intro same
  obtain ⟨d, user, holder, derived⟩ := deviceRun_holder
  have proof : Documented plainConfig d (numbered 2064).toString (asBytes "secret") documentedBody :=
    ⟨hidden_sealed _ derived, hidden_sealed _ derived⟩
  let choices : Nat → Choice := fun _ => {}
  have calm : Calm choices := calm_default
  have free : ∀ d' ∈ deviceRun.world.identities, d'.uuid ≠ d.uuid → d'.ipAddress ≠ d.ipAddress := by
    intro d' member other address
    rw [Table.key_unique deviceRun.world.valid.identityIp member holder.device address] at other
    exact other rfl
  have rebinds := same _ deviceRun_reachable d _ user _ documentedBody holder proof choices
    d.ipAddress calm free
  exact (resign_rejects plain_hash plain_grows (reachable_run deviceRun_reachable) holder proof.token
    choices d.ipAddress).1 rebinds

end PasswordManager
