import PasswordManager.Server.Change

/-!
# Requests that nothing interrupts

What the handlers answer, and what they leave in the database, when they run alone and the pool
and the database serve them.
-/

namespace PasswordManager
open Interaction

/-- The pool hands out connections, and no statement fails of itself. -/
structure Calm (choices : Nat → Choice) : Prop where
  pool : ∀ n, ∃ conn, (choices n).conn = .ok conn
  statements : ∀ n, ((choices n).chance 0).failure = none

theorem Calm.shift {choices : Nat → Choice} (calm : Calm choices) (k : Nat) :
    Calm fun n => choices (n + k) :=
  ⟨fun n => calm.pool (n + k), fun n => calm.statements (n + k)⟩

theorem calm_default : Calm fun _ => {} :=
  ⟨fun _ => ⟨⟨0⟩, rfl⟩, fun _ => rfl⟩

variable [Crypto]

/-- The result of a request and the database after it, when nothing interrupts it. -/
def served [Archive] (config : Config) (choices : Nat → Choice) (req : Request) (db : Db) :
    Result × Db :=
  let ended := Fallible.exec Action.answer (serve config req) (choices, db)
  (ended.1, ended.2.2)

variable {config : Config} {choices : Nat → Choice} {db after : Db} {ip : String} {d : Identity}
  {user : User} {ehlo : Bytes}

omit [Crypto] in
theorem exec_map {ι σ ε α β : Type} {Act : Type} {Ans : Act → Type}
    {answer : ι → σ → (x : Act) → Ans x × σ} {p : Fallible Ans ε α} {f : α → β}
    {w rest : (Nat → ι) × σ} {r : Except ε α} (done : Fallible.exec answer p w = (r, rest)) :
    Fallible.exec answer (f <$> p) w = (r.map f, rest) := by
  rw [← bind_pure_comp, Fallible.exec_bind, done]
  cases r <;> rfl

theorem exec_conn (db : Db) (calm : Calm choices) : ∃ conn,
    Fallible.exec Action.answer (liftM stateConn : Handler Conn) (choices, db) =
      (.ok conn, fun n => choices (n + 2), db) := by
  obtain ⟨conn, connected⟩ := calm.pool 1
  exact ⟨conn, exec_stateConn connected⟩

theorem exec_update (choices : Nat → Choice) (db : Db) (conn : Conn) (uuid : String)
    (changes : UpdateIdentity)
    (calm : ((choices 1).chance 0).failure = none) :
    Fallible.exec Action.answer (liftM (Identity.update conn uuid changes) : Handler Identity)
      (choices, db) =
      match db.exec ((choices 1).chance 0).toMoment
        (.identityUpdate uuid changes ((choices 0).chance 0).clock) with
      | (.ok row, after) => (.ok row, fun n => choices (n + 2), after)
      | (.error e, after) => (.error ⟨.database e, .backend⟩, fun n => choices (n + 2), after) := by
  unfold Identity.update
  rw [lift_bind, Fallible.exec_bind]
  show Fallible.exec Action.answer (liftM (sql conn (.identityUpdate uuid changes
    ((choices 0).chance 0).clock)) : Handler Identity) (fun n => choices (n + 1), db) = _
  rw [handler_sql]
  simp only [Action.answer, Effect.answer, Nat.zero_add, calm]
  rcases db.exec ((choices 1).chance 0).toMoment (.identityUpdate uuid changes
    ((choices 0).chance 0).clock) with ⟨e | row, after⟩ <;> rfl

theorem update_done {conn : Conn} {uuid : String} {changes : UpdateIdentity} {row : Identity}
    (calm : ((choices 1).chance 0).failure = none)
    (updated : db.exec ((choices 1).chance 0).toMoment
      (.identityUpdate uuid changes ((choices 0).chance 0).clock) = (.ok row, after)) :
    Fallible.exec Action.answer (liftM (Identity.update conn uuid changes) : Handler Identity)
      (choices, db) = (.ok row, fun n => choices (n + 2), after) := by
  rw [exec_update choices db conn uuid changes calm, updated]

theorem exec_newUuid :
    Fallible.exec Action.answer (liftM newUuid : Handler String) (choices, db) =
      (.ok ((choices 0).chance 0).uuid.toString, fun n => choices (n + 1), db) := rfl

/-! ## Enrolling a device -/

theorem exec_encrypt_nonce {data : Bytes} {key : BytesN 32} {w : (Nat → Choice) × Db} :
    Fallible.exec Action.answer (liftM (encryptWithSharedKey data key) : Handler Bytes) w =
      ((sealWith ((w.1 0).chance 0).nonce data key).mapError fun e => ⟨e, .sealing⟩,
        fun n => w.1 (n + 1), w.2) := by
  unfold encryptWithSharedKey
  rw [lift_bind, Fallible.exec_bind]
  show Fallible.exec Action.answer (liftM (attempt .sealing (sealWith _ _ _) : Domain Bytes)) _ = _
  rw [lift_attempt, exec_attempt]

theorem exec_encrypt {nonce : BytesN 12} {data blob : Bytes} {key : BytesN 32}
    (drawn : ((choices 0).chance 0).nonce = nonce) (sealed : sealWith nonce data key = .ok blob) :
    Fallible.exec Action.answer (liftM (encryptWithSharedKey data key) : Handler Bytes) (choices, db) =
      (.ok blob, fun n => choices (n + 1), db) := by
  subst drawn
  rw [exec_encrypt_nonce, sealed]
  rfl

/-- `/greet` answers a new address with the public key of the row that it inserts. -/
theorem exec_greet (calm : Calm choices) {key : BytesN 32} {blob : Bytes} {row : Identity}
    (unknown : Table.find (·.ipAddress) db.identities ip = none)
    (sealed : sealWith ((choices 5).chance 0).nonce (clamp ((choices 3).chance 0).random).val
      config.databaseEncryptSecret = .ok blob)
    (created : db.exec ((choices 6).chance 0).toMoment (.identityCreate
      (greetRow ip ((choices 3).chance 0).random ((choices 4).chance 0).uuid blob key.val)) =
        (.ok row, after)) :
    Fallible.exec Action.answer (greetHandler config ip ⟨Hex.encode key.val⟩) (choices, db) =
      (.ok (Hex.encode (identityKeys ((choices 3).chance 0).random).serverPublicKey),
        fun n => choices (n + 7), after) := by
  obtain ⟨conn, connected⟩ := exec_conn db calm
  have lookup : Fallible.exec Action.answer
      (liftM (Identity.findByIp conn ip) : Handler (Option Identity)) (fun n => choices (n + 2), db) =
        (.ok none, fun n => choices (n + 3), db) :=
    exec_statement (calm.statements 2) (by rw [← unknown]; rfl)
  have keys : Fallible.exec Action.answer (liftM generateIdentityKeys : Handler IdentityKeys)
      (fun n => choices (n + 3), db) =
        (.ok (identityKeys ((choices 3).chance 0).random), fun n => choices (n + 4), db) := rfl
  have uuid : Fallible.exec Action.answer (liftM newUuid : Handler String)
      (fun n => choices (n + 4), db) =
        (.ok ((choices 4).chance 0).uuid.toString, fun n => choices (n + 5), db) := rfl
  have encrypted : Fallible.exec Action.answer
      (liftM (encryptWithSharedKey (identityKeys ((choices 3).chance 0).random).serverPrivateKey
        config.databaseEncryptSecret) : Handler Bytes)
      (fun n => choices (n + 5), db) = (.ok blob, fun n => choices (n + 6), db) :=
    exec_encrypt rfl sealed
  have inserted : Fallible.exec Action.answer
      (liftM (Identity.create conn (greetRow ip ((choices 3).chance 0).random
        ((choices 4).chance 0).uuid blob key.val)) : Handler (Except DbError Identity))
      (fun n => choices (n + 6), db) = (.ok (.ok row), fun n => choices (n + 7), after) := by
    have answered : Action.answer (choices 6) db (.effect (.sql conn (.identityCreate (greetRow ip
        ((choices 3).chance 0).random ((choices 4).chance 0).uuid blob key.val)))) =
          (.ok row, after) := by
      simp only [Action.answer, Effect.answer, calm.statements, created]
    unfold Identity.create query
    rw [handler_effect]
    simp only [Nat.zero_add, answered]
  unfold greetHandler
  rw [Fallible.exec_bind, connected]
  simp only [Hex.decode_encode, Fallible.exec_bind, exec_okOr, exec_refuseIf, key.property, ne_eq,
    not_true_eq_false, if_false, lookup, Option.isSome_none, Bool.false_eq_true, keys, uuid,
    encrypted, inserted, Fallible.exec_pure]

/-- `/sign-in` links the device at the address to the active user whose name and ehlo it was sent. -/
theorem exec_signIn (calm : Calm choices) {body : SignRequest} {row : Identity}
    (found : Table.find (·.ipAddress) db.identities ip = some d)
    (named : Opens config d body.name (asBytes user.name)) (known : Opens config d body.ehlo ehlo)
    (owner : Table.find (·.name) db.users user.name = some user) (active : user.isDeleted = false)
    (stored : openEhlo user config = .ok ehlo)
    (updated : db.exec ((choices 6).chance 0).toMoment (.identityUpdate d.uuid
      (linkChanges user.uuid ((choices 4).chance 0).uuid.toString) ((choices 5).chance 0).clock) =
        (.ok row, after)) :
    Fallible.exec Action.answer (signInHandler config ip body) (choices, db) =
      (.ok ((choices 4).chance 0).uuid.toString, fun n => choices (n + 7), after) := by
  obtain ⟨conn, connected⟩ := exec_conn db calm
  obtain ⟨blob, key, decoded, derived, opened⟩ := named
  obtain ⟨blob', key', decoded', derived', opened'⟩ := known
  obtain rfl := Except.ok.inj (derived.symm.trans derived')
  have device : Fallible.exec Action.answer
      (liftM (Identity.findByIp conn ip) : Handler (Option Identity)) (fun n => choices (n + 2), db) =
        (.ok (some d), fun n => choices (n + 3), db) :=
    exec_statement (calm.statements 2) (by rw [← found]; rfl)
  have owned : Fallible.exec Action.answer
      (liftM (User.findByName conn user.name) : Handler (Option User)) (fun n => choices (n + 3), db) =
        (.ok (some user), fun n => choices (n + 4), db) :=
    exec_statement (calm.statements 3) (by rw [← owner]; rfl)
  have linked : Fallible.exec Action.answer
      (liftM (linkDevice conn d.uuid user.uuid) : Handler String) (fun n => choices (n + 4), db) =
        (.ok ((choices 4).chance 0).uuid.toString, fun n => choices (n + 7), after) := by
    have written : Fallible.exec Action.answer
        (liftM (Identity.update conn d.uuid (linkChanges user.uuid ((choices 4).chance 0).uuid.toString)) :
          Handler Identity) (fun n => choices (n + 5), db) = (.ok row, fun n => choices (n + 7), after) :=
      update_done (calm.statements 6) updated
    unfold linkDevice
    rw [lift_bind, Fallible.exec_bind, exec_newUuid]
    simp only [Nat.zero_add]
    rw [lift_bind, Fallible.exec_bind, written]
    rfl
  unfold signInHandler decodeRequest
  simp only [Fallible.exec_bind, connected, device, exec_okOr, exec_attempt, derived, decoded,
    decoded', opened, opened', Except.mapError, fromUtf8_asBytes, owned, exec_refuseIf, active,
    Bool.false_eq_true, if_false, stored, ne_eq, not_true_eq_false, Fallible.exec_pure, linked]

/-! ## Administration -/

theorem exec_deleteIdentity (calm : Calm choices) {headers : HeaderMap} {addr : IpAddr} {uuid : Uuid}
    {count : Nat} (admin : Admin config headers addr)
    (found : Table.find (·.uuid) db.identities uuid.toString = some d)
    (removed : db.exec ((choices 3).chance 0).toMoment (.identityDelete uuid.toString) = (.ok count, after)) :
    Fallible.exec Action.answer (deleteIdentity config headers addr uuid) (choices, db) =
      (.ok (), fun n => choices (n + 4), after) := by
  obtain ⟨conn, connected⟩ := exec_conn db calm
  have device : Fallible.exec Action.answer
      (liftM (Identity.findByUuid conn uuid.toString) : Handler (Option Identity))
      (fun n => choices (n + 2), db) = (.ok (some d), fun n => choices (n + 3), db) :=
    exec_statement (calm.statements 2) (by rw [← found]; rfl)
  have deleted : Fallible.exec Action.answer
      (liftM (Identity.delete conn uuid.toString) : Handler Nat)
      (fun n => choices (n + 3), db) = (.ok count, fun n => choices (n + 4), after) :=
    exec_statement (calm.statements 3) removed
  unfold deleteIdentity
  simp only [Fallible.exec_bind, exec_attempt, show checkAdmin headers addr config = .ok () from admin,
    Except.mapError, connected, device, exec_okOr, deleted, Fallible.exec_pure]

theorem exec_setConfirm (calm : Calm choices) {uuid : String} {confirmed : Bool} {row : Identity}
    (found : Table.find (·.uuid) db.identities uuid = some d)
    (updated : db.exec ((choices 4).chance 0).toMoment
      (.identityUpdate uuid (confirmChanges confirmed) ((choices 3).chance 0).clock) = (.ok row, after)) :
    Fallible.exec Action.answer (setConfirm uuid confirmed) (choices, db) =
      (.ok (), fun n => choices (n + 5), after) := by
  obtain ⟨conn, connected⟩ := exec_conn db calm
  have device : Fallible.exec Action.answer
      (liftM (Identity.findByUuid conn uuid) : Handler (Option Identity))
      (fun n => choices (n + 2), db) = (.ok (some d), fun n => choices (n + 3), db) :=
    exec_statement (calm.statements 2) (by rw [← found]; rfl)
  have written : Fallible.exec Action.answer
      (liftM (Identity.update conn uuid (confirmChanges confirmed)) : Handler Identity)
      (fun n => choices (n + 3), db) = (.ok row, fun n => choices (n + 5), after) :=
    update_done (calm.statements 4) updated
  unfold setConfirm
  simp only [Fallible.exec_bind, connected, device, exec_okOr]
  rw [written]
  rfl

/-! ## Recovering a device -/

theorem exec_refresh (calm : Calm choices) {body : TokenRequest} {token : String} {row : Identity}
    (found : Table.find (·.ipAddress) db.identities ip = some d)
    (proved : Opens config d body.token (asBytes token))
    (holds : d.deviceToken = some (hashToken token)) (linked : d.userId = some user.uuid)
    (owner : Table.find (·.uuid) db.users user.uuid = some user) (active : user.isDeleted = false)
    (stored : openEhlo user config = .ok ehlo) (known : Opens config d body.ehlo ehlo)
    (updated : db.exec ((choices 6).chance 0).toMoment (.identityUpdate d.uuid
      (refreshChanges ((choices 4).chance 0).uuid.toString) ((choices 5).chance 0).clock) =
        (.ok row, after)) :
    Fallible.exec Action.answer (refreshHandler config ip body) (choices, db) =
      (.ok ((choices 4).chance 0).uuid.toString, fun n => choices (n + 7), after) := by
  obtain ⟨conn, connected⟩ := exec_conn db calm
  obtain ⟨blob, key, decoded, derived, opened⟩ := proved
  obtain ⟨blob', key', decoded', derived', opened'⟩ := known
  obtain rfl := Except.ok.inj (derived.symm.trans derived')
  have device : Fallible.exec Action.answer
      (liftM (Identity.findByIp conn ip) : Handler (Option Identity)) (fun n => choices (n + 2), db) =
        (.ok (some d), fun n => choices (n + 3), db) :=
    exec_statement (calm.statements 2) (by rw [← found]; rfl)
  have owned : Fallible.exec Action.answer
      (liftM (User.findByUuid conn user.uuid) : Handler (Option User)) (fun n => choices (n + 3), db) =
        (.ok (some user), fun n => choices (n + 4), db) :=
    exec_statement (calm.statements 3) (by rw [← owner]; rfl)
  have drawn : Fallible.exec Action.answer (liftM newUuid : Handler String)
      (fun n => choices (n + 4), db) =
        (.ok ((choices 4).chance 0).uuid.toString, fun n => choices (n + 5), db) := rfl
  have written : Fallible.exec Action.answer
      (liftM (Identity.update conn d.uuid (refreshChanges ((choices 4).chance 0).uuid.toString)) :
        Handler Identity) (fun n => choices (n + 5), db) = (.ok row, fun n => choices (n + 7), after) :=
    update_done (calm.statements 6) updated
  unfold refreshHandler
  simp only [Fallible.exec_bind, connected, device, exec_okOr, exec_attempt, derived, decoded,
    decoded', opened, opened', Except.mapError, fromUtf8_asBytes, exec_refuseIf, holds,
    Option.getD_some, ne_eq, not_true_eq_false, if_false, linked, owned, active,
    Bool.false_eq_true, stored, drawn]
  rw [written]
  rfl

/-- `/re-sign` looks the token up as it is sent, and answers what the UPDATE does. -/
theorem exec_resign (ip : String) (calm : Calm choices) {body : TokenRequest} {token : String}
    (proved : Hex.decode body.token = some (asBytes token))
    (found : Table.find (·.deviceToken) db.identities (some (hashToken token)) = some d)
    (linked : d.userId = some user.uuid)
    (owner : Table.find (·.uuid) db.users user.uuid = some user) (active : user.isDeleted = false)
    (stored : openEhlo user config = .ok ehlo) (known : Opens config d body.ehlo ehlo) :
    Fallible.exec Action.answer (resignHandler config ip body) (choices, db) =
      match db.exec ((choices 5).chance 0).toMoment
        (.identityUpdate d.uuid (resignChanges ip) ((choices 4).chance 0).clock) with
      | (.ok _, after) => (.ok (), fun n => choices (n + 6), after)
      | (.error e, after) => (.error ⟨.database e, .backend⟩, fun n => choices (n + 6), after) := by
  obtain ⟨conn, connected⟩ := exec_conn db calm
  obtain ⟨blob, key, decoded, derived, opened⟩ := known
  have device : Fallible.exec Action.answer
      (liftM (Identity.findByDeviceToken conn (hashToken token)) : Handler (Option Identity))
      (fun n => choices (n + 2), db) = (.ok (some d), fun n => choices (n + 3), db) :=
    exec_statement (calm.statements 2) (by rw [← found]; rfl)
  have owned : Fallible.exec Action.answer
      (liftM (User.findByUuid conn user.uuid) : Handler (Option User)) (fun n => choices (n + 3), db) =
        (.ok (some user), fun n => choices (n + 4), db) :=
    exec_statement (calm.statements 3) (by rw [← owner]; rfl)
  have written := exec_update (fun n => choices (n + 4)) db conn d.uuid (resignChanges ip)
    (calm.statements 5)
  unfold resignHandler
  simp only [Fallible.exec_bind, connected, proved, exec_okOr, fromUtf8_asBytes, device, exec_attempt,
    derived, decoded, opened, Except.mapError, linked, owned, exec_refuseIf, active,
    Bool.false_eq_true, if_false, stored, ne_eq, not_true_eq_false]
  rw [written]
  rcases db.exec ((choices 5).chance 0).toMoment (.identityUpdate d.uuid (resignChanges ip)
    ((choices 4).chance 0).clock) with ⟨e | row, after⟩ <;> rfl

/-- `/re-sign` refuses a field that is not the token of a device. -/
theorem exec_resign_unknown (config : Config) (ip : String) (calm : Calm choices) {body : TokenRequest} {sent : Bytes}
    (decoded : Hex.decode body.token = some sent)
    (unknown : ∀ token, asBytes token = sent →
      Table.find (·.deviceToken) db.identities (some (hashToken token)) = none) :
    ∃ rest, Fallible.exec Action.answer (resignHandler config ip body) (choices, db) =
      (.error ⟨unauthorized, .request⟩, rest, db) := by
  obtain ⟨conn, connected⟩ := exec_conn db calm
  unfold resignHandler
  cases text : fromUtf8 sent with
  | none =>
    simp only [Fallible.exec_bind, connected, decoded, exec_okOr, text]
    exact ⟨_, rfl⟩
  | some token =>
    have missing : Fallible.exec Action.answer
        (liftM (Identity.findByDeviceToken conn (hashToken token)) : Handler (Option Identity))
        (fun n => choices (n + 2), db) = (.ok none, fun n => choices (n + 3), db) :=
      exec_statement (calm.statements 2) (by rw [← unknown token (fromUtf8_eq_some text)]; rfl)
    simp only [Fallible.exec_bind, connected, decoded, exec_okOr, text, missing]
    exact ⟨_, rfl⟩

/-! ## What a handler that succeeds has found -/

theorem conn_ok {conn : Conn} {w rest : (Nat → Choice) × Db}
    (h : Fallible.exec Action.answer (liftM stateConn : Handler Conn) w = (.ok conn, rest)) :
    rest.2 = w.2 := by
  rw [handler_conn] at h
  simp only [Action.answer, FileAction.answer] at h
  split at h
  · rename_i found
    cases h
    exact (Prod.mk.inj found).2.symm
  · cases h

theorem statement_ok {conn : Conn} {q : Query} {a : q.Answer} {w rest : (Nat → Choice) × Db}
    (h : Fallible.exec Action.answer (liftM (sql conn q) : Handler q.Answer) w = (.ok a, rest)) :
    ∃ moment, w.2.exec moment q = (.ok a, rest.2) := by
  rw [handler_sql] at h
  split at h
  · rename_i b after done
    cases h
    have ran : (Effect.sql conn q).answer ((w.1 0).chance 0) w.2 = (.ok a, after) := done
    exact ⟨_, answer_ok ran⟩
  · cases h

/-- A re-sign request that succeeds has sent the token of a device, not sealed. -/
theorem resign_found {body : TokenRequest} {v : Unit} {w rest : (Nat → Choice) × Db}
    (h : Fallible.exec Action.answer (resignHandler config ip body) w = (.ok v, rest)) :
    ∃ token d, Hex.decode body.token = some (asBytes token) ∧
      Table.find (·.deviceToken) w.2.identities (some (hashToken token)) = some d := by
  unfold resignHandler at h
  obtain ⟨conn, connected, got, decoding⟩ := Fallible.bind_ok h
  obtain ⟨sent, _, decode, reading⟩ := Fallible.bind_ok decoding
  obtain ⟨decoded, rfl⟩ := okOr_ok decode
  obtain ⟨token, _, read, looking⟩ := Fallible.bind_ok reading
  obtain ⟨text, rfl⟩ := okOr_ok read
  obtain ⟨found, looked, lookup, checking⟩ := Fallible.bind_ok looking
  obtain ⟨d, _, present, -⟩ := Fallible.bind_ok checking
  obtain ⟨rfl, rfl⟩ := okOr_ok present
  obtain ⟨moment, answer⟩ := statement_ok lookup
  refine ⟨token, d, ?_, ?_⟩
  · rw [decoded, fromUtf8_eq_some text]
  · rw [← conn_ok got]
    exact Except.ok.inj (Prod.mk.inj answer).1

end PasswordManager
