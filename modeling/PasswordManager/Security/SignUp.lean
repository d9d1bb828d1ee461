import PasswordManager.Security.AtRest
import PasswordManager.Security.SameProof
import PasswordManager.Server.Alone
import PasswordManager.Server.Births
import PasswordManager.Server.Plain
import PasswordManager.Store.Accept

/-!
# Which sign-ups are accepted

`/sign-up` accepts what its documentation says and does what it says, but for the length of a name:
the documentation counts characters, and the server bytes.
-/

namespace PasswordManager
open Interaction Fallible

variable [Crypto] {config : Config} {choices : Nat → Choice} {db after : Db} {ip : String}
  {body : SignRequest} {d : Identity} {name : String} {ehlo : Bytes}

/-- What the documentation asks of a sign-up. -/
structure Acceptable (config : Config) (db : Db) (ip : String) (body : SignRequest) (d : Identity)
    (name : String) (ehlo : Bytes) : Prop where
  device : d ∈ db.identities
  address : d.ipAddress = ip
  named : Opens config d body.name (asBytes name)
  sent : Opens config d body.ehlo ehlo
  nonempty : 1 ≤ name.length
  short : name.length ≤ 64
  vacant : ∀ user ∈ db.users, user.name ≠ name

/-- What the documentation says that a sign-up leaves: one more user, and the device linked to it. -/
structure Joined (config : Config) (db after : Db) (d : Identity) (name : String) (ehlo : Bytes)
    (token : String) (user : User) (linked : Identity) : Prop where
  tables : after.toTables = { db.toTables with
    users := db.users ++ [user]
    identities := Table.update (·.uuid) db.identities d.uuid fun _ => linked }
  named : user.name = name
  secret : openEhlo user config = .ok ehlo
  device : SameDevice linked d
  address : linked.ipAddress = d.ipAddress
  owner : linked.userId = some user.uuid
  token : linked.deviceToken = some (hashToken token)
  unconfirmed : linked.isConfirmed = false

/-- The request is answered as documented, and done as documented. -/
structure AsDocumented [Archive] (config : Config) (choices : Nat → Choice) (db : Db) (ip : String)
    (body : SignRequest) : Prop where
  accepted : (∃ reply, (served config choices (.signUp ip body) db).1 = .ok reply) ↔
    ∃ d name ehlo, Acceptable config db ip body d name ehlo
  done : ∀ reply, (served config choices (.signUp ip body) db).1 = .ok reply →
    ∃ token d name ehlo user linked, reply = .token token ∧ Acceptable config db ip body d name ehlo ∧
      Joined config db (served config choices (.signUp ip body) db).2 d name ehlo token user linked

/-- The pool and the database serve the request, and what it draws is new. -/
structure Favourable (choices : Nat → Choice) (db : Db) : Prop extends Calm choices where
  inside : ∀ i, ((choices 4).chance i).failure = none
  user : ((choices 4).chance 2).uuid.toString ∉ db.users.map (·.uuid)
  token : ∀ d ∈ db.identities, d.deviceToken ≠ some (hashToken ((choices 4).chance 4).uuid.toString)

/-! ## The name -/

omit [Crypto] in
theorem validateName_iff : validateName name = .ok () ↔ 1 ≤ name.length ∧ name.utf8ByteSize ≤ 64 := by
  have positive : 1 ≤ name.length ↔ name.isEmpty = false := by
    rw [Nat.one_le_iff_ne_zero, ne_eq, String.length_eq_zero_iff, ← String.isEmpty_iff, Bool.not_eq_true]
  rw [positive]
  unfold validateName validateLength maxNameLen
  cases empty : name.isEmpty with
  | true => simp
  | false =>
    by_cases long : name.utf8ByteSize > 64
    · simp [long]
    · simp [long]
      omega

/-! ## The request's fields -/

theorem decodeRequest_ok {conn : Conn} {w rest : (Nat → Choice) × Db}
    (done : exec Action.answer (decodeRequest config conn ip body) w = (.ok (d, name, ehlo), rest)) :
    Table.find (·.ipAddress) w.2.identities ip = some d ∧ Opens config d body.name (asBytes name) ∧
      Opens config d body.ehlo ehlo ∧ rest.2 = w.2 := by
  unfold decodeRequest at done
  obtain ⟨found, looked, lookup, checking⟩ := bind_ok done
  obtain ⟨d', _, present, deriving'⟩ := bind_ok checking
  obtain ⟨rfl, rfl⟩ := okOr_ok present
  obtain ⟨key, _, derive, decoding⟩ := bind_ok deriving'
  obtain ⟨derived, rfl⟩ := attempt_ok derive
  obtain ⟨nameBytes, _, decode, decoding'⟩ := bind_ok decoding
  obtain ⟨nameHex, rfl⟩ := okOr_ok decode
  obtain ⟨ehloBytes, _, decode', opening⟩ := bind_ok decoding'
  obtain ⟨ehloHex, rfl⟩ := okOr_ok decode'
  obtain ⟨plainName, _, openName, opening'⟩ := bind_ok opening
  obtain ⟨nameOpened, rfl⟩ := attempt_ok openName
  obtain ⟨plainEhlo, _, openEhlo, reading⟩ := bind_ok opening'
  obtain ⟨ehloOpened, rfl⟩ := attempt_ok openEhlo
  obtain ⟨name', _, read, returned⟩ := bind_ok reading
  obtain ⟨text, rfl⟩ := okOr_ok read
  cases returned
  obtain ⟨moment, answer⟩ := statement_ok lookup
  obtain ⟨answer, same⟩ := Prod.mk.inj answer
  refine ⟨Except.ok.inj answer, ⟨nameBytes, key, nameHex, derived, ?_⟩,
    ⟨ehloBytes, key, ehloHex, derived, ehloOpened⟩, same.symm⟩
  rw [nameOpened, fromUtf8_eq_some text]

theorem exec_decodeRequest (calm : Calm choices) (conn : Conn)
    (found : Table.find (·.ipAddress) db.identities ip = some d)
    (named : Opens config d body.name (asBytes name)) (sent : Opens config d body.ehlo ehlo) :
    exec Action.answer (decodeRequest config conn ip body) (choices, db) =
      (.ok (d, name, ehlo), fun n => choices (n + 1), db) := by
  obtain ⟨blob, key, decoded, derived, opened⟩ := named
  obtain ⟨blob', key', decoded', derived', opened'⟩ := sent
  obtain rfl := Except.ok.inj (derived.symm.trans derived')
  have device : exec Action.answer (liftM (Identity.findByIp conn ip) : Handler (Option Identity))
      (choices, db) = (.ok (some d), fun n => choices (n + 1), db) :=
    exec_statement (calm.statements 0) (by rw [← found]; rfl)
  unfold decodeRequest
  simp only [exec_bind, device, exec_okOr, exec_attempt, derived, decoded, decoded', opened, opened',
    Except.mapError, fromUtf8_asBytes, exec_pure]

/-! ## The transaction -/

theorem exec_transaction {conn : Conn} {t : SignUpTransaction} {w : (Nat → Choice) × Db} :
    exec Action.answer (transaction conn t) w =
      ((t.run conn (w.1 0).chance w.2).1, fun n => w.1 (n + 1), (t.run conn (w.1 0).chance w.2).2) := by
  unfold transaction
  rw [exec_bind]
  have ran : exec Action.answer (act (.transaction conn t) : Handler (Except Failure (String × String))) w =
      (.ok (t.run conn (w.1 0).chance w.2).1, fun n => w.1 (n + 1), (t.run conn (w.1 0).chance w.2).2) := rfl
  rw [ran]
  rcases t.run conn (w.1 0).chance w.2 with ⟨_ | _, after⟩ <;> rfl

omit [Crypto] in
theorem exec_drawn {w : (Nat → Chance) × Db} :
    exec Effect.answer newUuid w = (.ok (w.1 0).uuid.toString, fun n => w.1 (n + 1), w.2) := rfl

omit [Crypto] in
theorem exec_utcNow {w : (Nat → Chance) × Db} :
    exec Effect.answer utcNow w = (.ok (w.1 0).clock, fun n => w.1 (n + 1), w.2) := rfl

omit [Crypto] in
theorem exec_inside {w : (Nat → Chance) × Db} {conn : Conn} {q : Query} {a : q.Answer}
    (calm : (w.1 0).failure = none) (done : w.2.exec (w.1 0).toMoment q = (.ok a, after)) :
    exec Effect.answer (sql conn q) w = (.ok a, fun n => w.1 (n + 1), after) := by
  rw [exec_sql]
  simp only [Effect.answer, calm, done]

/-- The transaction commits where the name is not taken and what it draws is new. -/
theorem transaction_commits (conn : Conn) {t : SignUpTransaction} {chance : Nat → Chance}
    (calm : ∀ i, (chance i).failure = none) (vacant : Table.find (·.name) db.users t.name = none)
    (device : Table.find (·.uuid) db.identities t.identityUuid = some d)
    (unused : (chance 2).uuid.toString ∉ db.users.map (·.uuid))
    (unknown : ∀ d ∈ db.identities, d.deviceToken ≠ some (hashToken (chance 4).uuid.toString)) :
    ∃ after, t.run conn chance db =
      (.ok ((chance 2).uuid.toString, (chance 4).uuid.toString), after) := by
  let new : NewUser := ⟨(chance 2).uuid.toString, t.name, t.ehloSecret, false, "{}"⟩
  have free : new.name ∉ db.users.map (·.name) := by
    intro taken
    obtain ⟨user, member, same⟩ := List.mem_map.mp taken
    exact Table.find_none vacant member same
  have fresh : new.uuid ∉ db.users.map (·.uuid) := unused
  obtain ⟨created, creates, tables⟩ := exec_newUser (chance 3).toMoment fresh free
  have present : Table.find (·.uuid) created.identities t.identityUuid = some d := by
    rw [tables]
    exact device
  have distinct : ∀ hash ∈ (linkChanges new.uuid (chance 4).uuid.toString).deviceToken,
      ∀ d ∈ created.identities, d.uuid ≠ t.identityUuid → d.deviceToken ≠ some hash := by
    rintro _ ⟨⟩ d member -
    rw [tables] at member
    exact unknown d member
  have owned : ∀ u ∈ (linkChanges new.uuid (chance 4).uuid.toString).userId,
      u ∈ created.users.map (·.uuid) := by
    rintro _ ⟨⟩
    rw [tables, List.map_append]
    exact List.mem_append_right _ (List.mem_singleton.mpr rfl)
  have stays : ∀ ip ∈ (linkChanges new.uuid (chance 4).uuid.toString).ipAddress,
      ∀ d ∈ created.identities, d.uuid ≠ t.identityUuid → d.ipAddress ≠ ip := nofun
  obtain ⟨linked, links, -⟩ := exec_changeDevice (chance 6).toMoment (chance 5).clock present stays distinct
    owned
  have lookup : exec Effect.answer (User.findByName conn t.name) (fun n => chance (n + 1), db) =
      (.ok none, fun n => chance (n + 2), db) :=
    exec_inside (calm 1) (by rw [← vacant]; rfl)
  have insert : exec Effect.answer (User.create conn ⟨(chance 2).uuid.toString, t.name, t.ehloSecret, false, "{}"⟩)
      (fun n => chance (n + 3), db) = (.ok (new.row (chance 3).clock), fun n => chance (n + 4), created) :=
    exec_inside (calm 3) creates
  have update : exec Effect.answer (sql conn (.identityUpdate t.identityUuid
      (linkChanges new.uuid (chance 4).uuid.toString) (chance 5).clock)) (fun n => chance (n + 6), created) =
        (.ok _, fun n => chance (n + 7), linked) := exec_inside (calm 6) links
  have link : exec Effect.answer (linkDevice conn t.identityUuid new.uuid)
      (fun n => chance (n + 4), created) =
        (.ok (chance 4).uuid.toString, fun n => chance (n + 7), linked) := by
    unfold linkDevice Identity.update
    simp only [exec_bind, exec_drawn, exec_utcNow, Nat.zero_add, update, exec_pure]
  have body : exec Effect.answer (t.body conn) (fun n => chance (n + 1), db) =
      (.ok ((chance 2).uuid.toString, (chance 4).uuid.toString), fun n => chance (n + 7), linked) := by
    unfold SignUpTransaction.body
    simp only [exec_bind, lookup, exec_refuseIf, Option.isSome_none, Bool.false_eq_true, if_false, exec_drawn,
      Nat.zero_add, insert]
    rw [show (new.row (chance 3).clock).uuid = new.uuid from rfl, link]
    rfl
  refine ⟨linked, ?_⟩
  unfold SignUpTransaction.run
  simp only [calm, body]

/-! ## The request -/

/-- What a sign-up that succeeds has found, and what it has done. -/
theorem signUp_ok (opens : OpensSealed) {w rest : (Nat → Choice) × Db} {token : String}
    (done : exec Action.answer (signUpHandler config ip body) w = (.ok token, rest)) :
    ∃ d name ehlo user linked, Acceptable config w.2 ip body d name ehlo ∧ name.utf8ByteSize ≤ 64 ∧
      Joined config w.2 rest.2 d name ehlo token user linked := by
  unfold signUpHandler at done
  obtain ⟨conn, connected, got, decoding⟩ := bind_ok done
  obtain ⟨⟨d, name, ehlo⟩, _, decode, checking⟩ := bind_ok decoding
  obtain ⟨found, named, sent, kept⟩ := decodeRequest_ok decode
  obtain ⟨_, decoded, check, sealing'⟩ := bind_ok checking
  obtain ⟨valid, rfl⟩ := attempt_ok check
  obtain ⟨nonempty, short⟩ := validateName_iff.mp valid
  obtain ⟨blob, _, sealing'', committing⟩ := bind_ok sealing'
  rw [exec_encrypt_nonce] at sealing''
  obtain ⟨sealed, rfl⟩ := Prod.mk.inj sealing''
  obtain ⟨⟨uuid, token'⟩, after, commit, returned⟩ := bind_ok committing
  cases returned
  rw [exec_transaction] at commit
  obtain ⟨ran, rfl⟩ := Prod.mk.inj commit
  obtain ⟨clock, now, old, vacant, present, tables⟩ := transaction_ok (Prod.ext ran rfl)
  have unchanged : decoded.2 = w.2 := kept.trans (conn_ok got)
  rw [conn_ok got] at found
  rw [unchanged] at vacant present tables
  obtain ⟨device, address⟩ := Table.find_some found
  obtain ⟨member, same⟩ := Table.find_some present
  obtain rfl := Table.key_unique w.2.valid.identityUuid member device same
  rw [Table.update_row w.2.valid.identityUuid device] at tables
  have blobSealed : sealWith ((decoded.1 0).chance 0).nonce ehlo config.databaseEncryptSecret = .ok blob := by
    cases result : sealWith ((decoded.1 0).chance 0).nonce ehlo config.databaseEncryptSecret with
    | error e =>
      rw [result] at sealed
      cases sealed
    | ok blob' =>
      rw [result] at sealed
      exact congrArg _ (Except.ok.inj sealed)
  have characters := length_le_utf8ByteSize name
  simp only [unchanged]
  refine ⟨old, name, ehlo, _, _, ⟨device, address, named, sent, nonempty, by omega,
    fun user there => Table.find_none vacant there⟩, short, tables, rfl, openEhlo_sealed opens blobSealed rfl,
    ⟨rfl, rfl, rfl, rfl⟩, rfl, rfl, rfl, rfl⟩

/-- A sign-up succeeds where the name has at most 64 bytes. -/
theorem signUp_accepted (seals : Seals) (favourable : Favourable choices db)
    (acceptable : Acceptable config db ip body d name ehlo) (short : name.utf8ByteSize ≤ 64) :
    ∃ token rest, exec Action.answer (signUpHandler config ip body) (choices, db) = (.ok token, rest) := by
  have calm : Calm choices := favourable.toCalm
  obtain ⟨conn, connected⟩ := exec_conn db calm
  have found : Table.find (·.ipAddress) db.identities ip = some d :=
    (Table.find_eq_some_iff db.valid.identityIp).mpr ⟨acceptable.device, acceptable.address⟩
  have present : Table.find (·.uuid) db.identities d.uuid = some d :=
    (Table.find_eq_some_iff db.valid.identityUuid).mpr ⟨acceptable.device, rfl⟩
  have vacant : Table.find (·.name) db.users name = none := by
    cases taken : Table.find (·.name) db.users name with
    | none => rfl
    | some user =>
      obtain ⟨member, same⟩ := Table.find_some taken
      exact absurd same (acceptable.vacant user member)
  have decoded := exec_decodeRequest (calm.shift 2) conn found acceptable.named acceptable.sent
  have valid := validateName_iff.mpr ⟨acceptable.nonempty, short⟩
  obtain ⟨blob, sealed⟩ := sealWith_isOk seals ((choices 3).chance 0).nonce ehlo config.databaseEncryptSecret
  obtain ⟨after, ran⟩ := transaction_commits (t := ⟨name, Hex.encode blob, d.uuid⟩) conn favourable.inside
    vacant present favourable.user favourable.token
  unfold signUpHandler
  simp only [exec_bind, connected, decoded, exec_attempt, valid, Except.mapError, exec_encrypt_nonce, Nat.zero_add,
    sealed, exec_transaction, ran, exec_pure]
  exact ⟨_, _, rfl⟩

/-! ## The documentation -/

theorem served_signUp [Archive] (choices : Nat → Choice) (db : Db) (ip : String) (body : SignRequest) :
    served config choices (.signUp ip body) db =
      ((exec Action.answer (signUpHandler config ip body) (choices, db)).1.map Reply.token,
        (exec Action.answer (signUpHandler config ip body) (choices, db)).2.2) := by
  unfold served serve
  rw [exec_map rfl]
  rfl

/-- A sign-up is answered and done as documented exactly if not more than 64 bytes make up the name of
an acceptable request. -/
theorem asDocumented_iff [Archive] (opens : OpensSealed) (seals : Seals)
    (favourable : Favourable choices db) :
    AsDocumented config choices db ip body ↔
      ∀ d name ehlo, Acceptable config db ip body d name ehlo → name.utf8ByteSize ≤ 64 := by
  have done : ∀ {reply}, (served config choices (.signUp ip body) db).1 = .ok reply →
      ∃ token d name ehlo user linked, reply = .token token ∧ Acceptable config db ip body d name ehlo ∧
        name.utf8ByteSize ≤ 64 ∧
        Joined config db (served config choices (.signUp ip body) db).2 d name ehlo token user linked := by
    intro reply accepted
    rw [served_signUp] at accepted ⊢
    cases ended : exec Action.answer (signUpHandler config ip body) (choices, db) with
    | mk result rest =>
      rw [ended] at accepted
      cases result with
      | error e => cases accepted
      | ok token =>
        cases accepted
        obtain ⟨d, name, ehlo, user, linked, acceptable, short, left⟩ := signUp_ok opens ended
        exact ⟨token, d, name, ehlo, user, linked, rfl, acceptable, short, left⟩
  constructor
  · intro documented d name ehlo acceptable
    obtain ⟨reply, accepted⟩ := documented.accepted.mpr ⟨d, name, ehlo, acceptable⟩
    obtain ⟨token, d', name', ehlo', user, linked, -, acceptable', short, -⟩ := done accepted
    obtain rfl := Table.key_unique db.valid.identityIp acceptable.device acceptable'.device
      (acceptable.address.trans acceptable'.address.symm)
    rw [asBytes_injective (acceptable.named.unique acceptable'.named)]
    exact short
  · intro short
    refine ⟨⟨?_, ?_⟩, ?_⟩
    · rintro ⟨reply, accepted⟩
      obtain ⟨token, d, name, ehlo, user, linked, -, acceptable, -⟩ := done accepted
      exact ⟨d, name, ehlo, acceptable⟩
    · rintro ⟨d, name, ehlo, acceptable⟩
      obtain ⟨token, rest, ended⟩ := signUp_accepted seals favourable acceptable (short d name ehlo acceptable)
      rw [served_signUp, ended]
      exact ⟨_, rfl⟩
    · intro reply accepted
      obtain ⟨token, d, name, ehlo, user, linked, same, acceptable, -, left⟩ := done accepted
      exact ⟨token, d, name, ehlo, user, linked, same, acceptable, left⟩

/-! ## A name of 64 letters -/

def greetedRun : ServerState :=
  letI := plainCrypto
  letI := plainArchive
  (server plainConfig).play (alone 0 8 greetRequest) { world := Db.empty }

/-- A sign-up of the device that has greeted. -/
def signUpAs (name : String) : SignRequest := ⟨hidden (asBytes name), hidden (asBytes "secret")⟩

/-- What the examples need to know about the state. -/
structure Greeted (db : Db) : Prop where
  user : db.users = []
  device : letI := plainCrypto
    ∃ d ∈ db.identities, d.ipAddress = deviceIp ∧ (openSharedKey d plainConfig).toOption = some deviceKey
  keys : letI := plainCrypto
    ∀ d ∈ db.identities, d.deviceToken = none ∧ (openSharedKey d plainConfig).toOption = some deviceKey

instance (db : Db) : Decidable (Greeted db) :=
  decidable_of_iff (_ ∧ _ ∧ _) ⟨fun ⟨a, b, c⟩ => ⟨a, b, c⟩, fun ⟨a, b, c⟩ => ⟨a, b, c⟩⟩

omit [Crypto] in
theorem greetedRun_checked : Greeted greetedRun.world := by
  decide +kernel

omit [Crypto] in
theorem greetedRun_favourable : letI := plainCrypto; Favourable (fun _ => {}) greetedRun.world := by
  let _ := plainCrypto
  have greeted := greetedRun_checked
  refine { calm_default with inside := fun _ => rfl, user := ?_, token := ?_ }
  · rw [greeted.user]
    exact List.not_mem_nil
  · intro d member holds
    cases (greeted.keys d member).1.symm.trans holds

omit [Crypto] in
theorem asDocumented_alice :
    letI := plainCrypto
    letI := plainArchive
    AsDocumented plainConfig (fun _ => {}) greetedRun.world deviceIp (signUpAs "alice") := by
  let _ := plainCrypto
  let _ := plainArchive
  refine (asDocumented_iff plain_opens plain_seals greetedRun_favourable).mpr ?_
  intro d name ehlo acceptable
  have key := toOption_ok (greetedRun_checked.keys d acceptable.device).2
  have sent := (hidden_sealed (asBytes "alice") key).opens plain_opens
  rw [asBytes_injective (acceptable.named.unique sent)]
  decide

variable (config) in
/-- Every sign-up is answered and done as documented. -/
def AllAsDocumented [Archive] : Prop :=
  ∀ c, (server config).Reachable c → ∀ ip body choices, Favourable choices c.world →
    AsDocumented config choices c.world ip body

def longName : String := String.ofList (List.replicate 64 'é')

omit [Crypto] in
theorem long_name_refused :
    letI := plainCrypto
    letI := plainArchive
    ¬AllAsDocumented plainConfig := by
  let _ := plainCrypto
  let _ := plainArchive
  intro all
  have documented := all greetedRun (Machine.play_reachable _ _) deviceIp (signUpAs longName) _ greetedRun_favourable
  obtain ⟨d, device, address, key⟩ := greetedRun_checked.device
  have sent := fun plain => (hidden_sealed plain (toOption_ok key)).opens plain_opens
  have acceptable : Acceptable plainConfig greetedRun.world deviceIp (signUpAs longName) d longName
      (asBytes "secret") := by
    refine ⟨device, address, sent _, sent _, by decide +kernel, by decide +kernel, fun user member => ?_⟩
    rw [greetedRun_checked.user] at member
    cases member
  obtain ⟨reply, accepted⟩ := documented.accepted.mpr ⟨d, longName, _, acceptable⟩
  have status : (respond (served plainConfig (fun _ => {}) (.signUp deviceIp (signUpAs longName))
      greetedRun.world).1).1 = 400 := by
    decide +kernel
  rw [accepted] at status
  cases status

end PasswordManager
