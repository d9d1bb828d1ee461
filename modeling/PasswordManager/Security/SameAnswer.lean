import PasswordManager.Security.Isolation
import PasswordManager.Security.SameProof
import PasswordManager.Security.SoftDelete

/-!
# Answers that tell nothing apart

A sign-in that proves nothing is answered alike whatever users there are. A re-sign is not: where
the ehlo does not open under the key of a device, the answer shows that its token was known.
-/

namespace PasswordManager
open Interaction Fallible

/-- Two runs in the same environment, each on its own database, which it has not changed. -/
structure Paired (a b : Db) (w w' : World) : Prop where
  choices : w.1 = w'.1
  left : w.2 = a
  right : w'.2 = b

variable [Crypto]

section
variable {α β : Type} {a b : Db} {pre : World → World → Prop} {good : β → World → World → Prop}

theorem paired_blind {p : Handler α} (blind : Blind Action.answer p) :
    Alike Action.answer (Paired a b) (fun _ => Paired a b) (Paired a b) p :=
  blind_alike blind (fun _ _ paired => paired.choices)
    (fun _ _ _ _ paired => ⟨rfl, paired.left, paired.right⟩) fun _ _ => id

/-- A step that cannot fail but for the value that it is given, which both runs have in common. -/
theorem paired_value {value : Option α} {error : AppError} {f : α → Handler β}
    (next : ∀ v, value = some v → Alike Action.answer (Paired a b) good (Paired a b) (f v)) :
    Alike Action.answer (Paired a b) good (Paired a b) ((okOr value error : Handler α) >>= f) := by
  cases value with
  | some v => exact next v rfl
  | none => exact alike_throw fun _ _ => id

theorem paired_attempt {origin : Origin} {r : Except AppError α} {f : α → Handler β}
    (next : ∀ v, r = .ok v → Alike Action.answer (Paired a b) good (Paired a b) (f v)) :
    Alike Action.answer (Paired a b) good (Paired a b) ((attempt origin r : Handler α) >>= f) := by
  cases r with
  | ok v => exact next v rfl
  | error e => exact alike_throw fun _ _ => id

/-- A query after which both runs end alike, whatever it finds in each. -/
theorem paired_query {conn : Conn} {q : Query} {f : q.Answer → Handler β} (x y : q.Answer)
    (read : ∀ moment, a.exec moment q = (.ok x, a)) (read' : ∀ moment, b.exec moment q = (.ok y, b))
    (next : ∀ c, (∃ v u u', exec Action.answer (f x) (c, a) = (.ok v, u) ∧
          exec Action.answer (f y) (c, b) = (.ok v, u') ∧ good v u u') ∨
        ∃ e u u', exec Action.answer (f x) (c, a) = (.error e, u) ∧
          exec Action.answer (f y) (c, b) = (.error e, u') ∧ Paired a b u u') :
    Alike Action.answer (Paired a b) good (Paired a b)
      ((liftM (sql conn q) : Handler q.Answer) >>= f) := by
  rintro ⟨c, s⟩ ⟨c', s'⟩ paired
  obtain rfl : c = c' := paired.choices
  obtain rfl : s = a := paired.left
  obtain rfl : s' = b := paired.right
  rw [exec_bind, exec_bind, handler_sql, handler_sql]
  simp only [Action.answer, Effect.answer]
  cases ((c 0).chance 0).failure with
  | some message => exact .inr ⟨_, _, _, rfl, rfl, rfl, rfl, rfl⟩
  | none =>
    simp only [read, read']
    exact next fun n => c (n + 1)

theorem paired_same {conn : Conn} {q : Query} {f : q.Answer → Handler β} (x : q.Answer)
    (read : ∀ moment, a.exec moment q = (.ok x, a)) (read' : ∀ moment, b.exec moment q = (.ok x, b))
    (next : Alike Action.answer (Paired a b) good (Paired a b) (f x)) :
    Alike Action.answer (Paired a b) good (Paired a b)
      ((liftM (sql conn q) : Handler q.Answer) >>= f) :=
  paired_query x x read read' fun c => next (c, a) (c, b) ⟨rfl, rfl, rfl⟩

end

variable {config : Config} {ip : String} {db : Db}

/-! ## Sign-in -/

/-- The request does not prove to be an active user, at the device of its address. -/
def NoCredential (config : Config) (db : Db) (ip : String) (body : SignRequest) : Prop :=
  ∀ d name ehlo, Table.find (·.ipAddress) db.identities ip = some d →
    Opens config d body.name (asBytes name) → Opens config d body.ehlo ehlo →
      ∀ user ∈ db.users, user.name = name → user.isDeleted = false → openEhlo user config ≠ .ok ehlo

/-- What `sign_in_handler` does with the user of the name. -/
def signInAs (config : Config) (conn : Conn) (identity : Identity) (ehlo : Bytes) (found : Option User) :
    Handler String := do
  let user ← okOr found unauthorized
  refuseIf (user.isDeleted = true) unauthorized
  let stored ← attempt .stored (openEhlo user config)
  refuseIf (ehlo ≠ stored) unauthorized
  linkDevice conn identity.uuid user.uuid

/-- Without a credential every user is refused, with the same error as none. -/
theorem signInAs_refused {body : SignRequest} {d : Identity} {name : String} {ehlo : Bytes}
    (atRest : AtRest config db) (wrong : NoCredential config db ip body)
    (device : Table.find (·.ipAddress) db.identities ip = some d)
    (named : Opens config d body.name (asBytes name)) (sent : Opens config d body.ehlo ehlo)
    (conn : Conn) (w : World) :
    exec Action.answer (signInAs config conn d ehlo (Table.find (·.name) db.users name)) w =
      (.error ⟨unauthorized, .request⟩, w) := by
  unfold signInAs
  cases found : Table.find (·.name) db.users name with
  | none => rfl
  | some user =>
    obtain ⟨member, same⟩ := Table.find_some found
    simp only [exec_bind, exec_okOr, exec_refuseIf]
    cases active : user.isDeleted with
    | true => rfl
    | false =>
      obtain ⟨stored, opened⟩ := atRest.users user member
      have other : ehlo ≠ stored := by
        rintro rfl
        exact wrong d name ehlo device named sent user member same active opened
      simp only [Bool.false_eq_true, if_false, exec_attempt, opened, Except.mapError, other, ne_eq,
        not_false_eq_true, if_true]

/-- Two sign-ins that prove nothing end alike. -/
theorem signIn_alike {a b : Db} {body : SignRequest} (atRest : AtRest config a) (atRest' : AtRest config b)
    (same : Table.find (·.ipAddress) a.identities ip = Table.find (·.ipAddress) b.identities ip)
    (wrong : NoCredential config a ip body) (wrong' : NoCredential config b ip body) :
    Alike Action.answer (Paired a b) (fun _ _ _ => False) (Paired a b) (signInHandler config ip body) := by
  unfold signInHandler decodeRequest
  refine alike_bind _ (paired_blind blind_stateConn) fun conn => ?_
  simp only [bind_assoc, pure_bind]
  refine paired_same (Table.find (·.ipAddress) a.identities ip) (fun _ => rfl) (fun _ => by rw [same]; rfl) ?_
  refine paired_value fun d device => ?_
  refine paired_attempt fun key derived => ?_
  refine paired_value fun nameBytes nameHex => ?_
  refine paired_value fun ehloBytes ehloHex => ?_
  refine paired_attempt fun plainName nameOpened => ?_
  refine paired_attempt fun ehlo ehloOpened => ?_
  refine paired_value fun name text => ?_
  have named : Opens config d body.name (asBytes name) :=
    ⟨nameBytes, key, nameHex, derived, by rw [nameOpened, fromUtf8_eq_some text]⟩
  have sent : Opens config d body.ehlo ehlo := ⟨ehloBytes, key, ehloHex, derived, ehloOpened⟩
  refine paired_query _ _ (fun _ => rfl) (fun _ => rfl) fun c => .inr ?_
  exact ⟨_, _, _, signInAs_refused atRest wrong device named sent conn (c, a),
    signInAs_refused atRest' wrong' (same ▸ device) named sent conn (c, b), rfl, rfl, rfl⟩

/-- A sign-in that proves nothing is answered alike, and changes nothing, whatever the users are. -/
theorem signIn_unrevealing [Archive] (opens : OpensSealed) {c c' : ServerState}
    (reached : (server config).Reachable c) (reached' : (server config).Reachable c')
    (body : SignRequest) (choices : Nat → Choice)
    (same : Table.find (·.ipAddress) c.world.identities ip =
      Table.find (·.ipAddress) c'.world.identities ip)
    (wrong : NoCredential config c.world ip body) (wrong' : NoCredential config c'.world ip body) :
    respond (served config choices (.signIn ip body) c.world).1 =
        respond (served config choices (.signIn ip body) c'.world).1 ∧
      (served config choices (.signIn ip body) c.world).2 = c.world ∧
      (served config choices (.signIn ip body) c'.world).2 = c'.world := by
  have atRest := run_atRest opens (reachable_run reached)
  have atRest' := run_atRest opens (reachable_run reached')
  have alike := signIn_alike atRest atRest' same wrong wrong'
  rcases alike (choices, c.world) (choices, c'.world) ⟨rfl, rfl, rfl⟩ with
    ⟨_, _, _, -, -, impossible⟩ | ⟨e, u, u', left, right, paired⟩
  · exact impossible.elim
  · have one := exec_map (f := Reply.token) left
    have two := exec_map (f := Reply.token) right
    unfold served serve
    rw [one, two]
    exact ⟨rfl, paired.left, paired.right⟩

/-! ## A wrong ehlo and a deleted user -/

/-- The name of the user of the example with another ehlo. -/
def guess : SignRequest := ⟨hidden (asBytes "alice"), hidden (asBytes "wrong")⟩

/-- What the example needs to know about a state. -/
structure Guessable (db : Db) : Prop where
  key : letI := plainCrypto
    ∀ d ∈ db.identities, (openSharedKey d plainConfig).toOption = some deviceKey
  other : letI := plainCrypto
    ∀ user ∈ db.users, (openEhlo user plainConfig).toOption ≠ some (asBytes "wrong")

instance (db : Db) : Decidable (Guessable db) :=
  decidable_of_iff (_ ∧ _) ⟨fun ⟨a, b⟩ => ⟨a, b⟩, fun ⟨a, b⟩ => ⟨a, b⟩⟩

omit [Crypto] in
theorem Guessable.wrong :
    letI := plainCrypto
    Guessable db → NoCredential plainConfig db deviceIp guess := by
  let _ := plainCrypto
  intro guessable d name ehlo device named sent user member _ _ stored
  have derived := toOption_ok (guessable.key d (Table.find_some device).1)
  have real := (hidden_sealed (asBytes "wrong") derived).opens plain_opens
  apply guessable.other user member
  rw [stored, Opens.unique sent real]
  rfl

omit [Crypto] in
theorem guessable_runs :
    Guessable deviceRun.world ∧ Guessable deletedRun.world ∧
      Table.find (·.ipAddress) deviceRun.world.identities deviceIp =
        Table.find (·.ipAddress) deletedRun.world.identities deviceIp := by
  decide +kernel

omit [Crypto] in
/-- Whether the user has been deleted makes no difference to who guesses. -/
theorem signIn_unrevealing_guess :
    letI := plainCrypto
    letI := plainArchive
    respond (served plainConfig (fun _ => {}) (.signIn deviceIp guess) deviceRun.world).1 =
        respond (served plainConfig (fun _ => {}) (.signIn deviceIp guess) deletedRun.world).1 ∧
      (served plainConfig (fun _ => {}) (.signIn deviceIp guess) deviceRun.world).2 = deviceRun.world ∧
      (served plainConfig (fun _ => {}) (.signIn deviceIp guess) deletedRun.world).2 =
        deletedRun.world := by
  let _ := plainCrypto
  let _ := plainArchive
  obtain ⟨before, after, same⟩ := guessable_runs
  have deleted : (server plainConfig).Reachable deletedRun :=
    deviceRun_reachable.trans (Machine.play_steps _ _)
  exact signIn_unrevealing plain_opens deviceRun_reachable deleted guess (fun _ => {}) same before.wrong
    after.wrong

/-! ## Re-sign -/

/-- The device holds the token that the body presents. -/
def BearsToken (db : Db) (body : TokenRequest) (d : Identity) : Prop :=
  ∃ token, Hex.decode body.token = some (asBytes token) ∧ d ∈ db.identities ∧
    d.deviceToken = some (hashToken token)

/-- The request does not prove to be the active user of a device that holds the presented token. -/
def Unproved (config : Config) (db : Db) (body : TokenRequest) : Prop :=
  ∀ d ehlo user, BearsToken db body d → Opens config d body.ehlo ehlo → user ∈ db.users →
    d.userId = some user.uuid → user.isDeleted = false → openEhlo user config ≠ .ok ehlo

/-- The ehlo does not even open under the key of a device that holds the presented token. -/
def Unopened (config : Config) (db : Db) (body : TokenRequest) : Prop :=
  ∃ d, BearsToken db body d ∧ ∀ plain, ¬Opens config d body.ehlo plain

/-- The answer where the token was not found, or what it leads to does not prove anything. -/
def tokenError (body : TokenRequest) : AppError :=
  if (Hex.decode body.token).isSome then unauthorized else .validation "invalid token hex"

/-- The answer where the token was found and the ehlo does not open. -/
def ehloError (body : TokenRequest) : AppError :=
  match Hex.decode body.ehlo with
  | none => .validation "invalid ehlo hex"
  | some blob =>
    if blob.length < 12 then .crypto "encrypted data too short"
    else .crypto "decryption failed: aead::Error"

theorem decrypt_error {blob : Bytes} {key : BytesN 32}
    (closed : ∀ plain, decryptWithSharedKey blob key ≠ .ok plain) :
    decryptWithSharedKey blob key = .error (if blob.length < 12 then .crypto "encrypted data too short"
      else .crypto "decryption failed: aead::Error") := by
  unfold decryptWithSharedKey at closed ⊢
  split
  · rfl
  · split
    · rfl
    · rename_i plain opened
      simp_all

section
variable {choices : Nat → Choice} {body : TokenRequest} {d : Identity} {token : String}

/-- The ehlo field where it does not open. -/
theorem resign_unopened (ip : String) (calm : Calm choices) (atRest : AtRest config db)
    (decoded : Hex.decode body.token = some (asBytes token))
    (found : Table.find (·.deviceToken) db.identities (some (hashToken token)) = some d)
    (closed : ∀ plain, ¬Opens config d body.ehlo plain) :
    ∃ origin rest, exec Action.answer (resignHandler config ip body) (choices, db) =
      (.error ⟨ehloError body, origin⟩, rest) := by
  obtain ⟨conn, connected⟩ := exec_conn db calm
  obtain ⟨key, derived⟩ := openSharedKey_usable (atRest.identities d (Table.find_some found).1)
  have device : exec Action.answer
      (liftM (Identity.findByDeviceToken conn (hashToken token)) : Handler (Option Identity))
      (fun n => choices (n + 2), db) = (.ok (some d), fun n => choices (n + 3), db) :=
    exec_statement (calm.statements 2) (by rw [← found]; rfl)
  unfold resignHandler
  simp only [exec_bind, connected, decoded, exec_okOr, fromUtf8_asBytes, device, exec_attempt, derived,
    Except.mapError]
  cases sent : Hex.decode body.ehlo with
  | none =>
    unfold ehloError
    rw [sent]
    exact ⟨_, _, rfl⟩
  | some blob =>
    have failed := decrypt_error fun plain opened => closed plain ⟨blob, key, sent, derived, opened⟩
    unfold ehloError
    simp only [sent, failed]
    exact ⟨_, _, rfl⟩

/-- Where the ehlo field opens, it is refused like a token that was not found. -/
theorem resign_opened (ip : String) (calm : Calm choices) (atRest : AtRest config db) {ehlo : Bytes}
    (decoded : Hex.decode body.token = some (asBytes token))
    (found : Table.find (·.deviceToken) db.identities (some (hashToken token)) = some d)
    (sent : Opens config d body.ehlo ehlo)
    (wrong : ∀ user ∈ db.users, d.userId = some user.uuid → user.isDeleted = false →
      openEhlo user config ≠ .ok ehlo) :
    ∃ origin rest, exec Action.answer (resignHandler config ip body) (choices, db) =
      (.error ⟨unauthorized, origin⟩, rest) := by
  obtain ⟨conn, connected⟩ := exec_conn db calm
  obtain ⟨blob, key, hex, derived, opened⟩ := sent
  have device : exec Action.answer
      (liftM (Identity.findByDeviceToken conn (hashToken token)) : Handler (Option Identity))
      (fun n => choices (n + 2), db) = (.ok (some d), fun n => choices (n + 3), db) :=
    exec_statement (calm.statements 2) (by rw [← found]; rfl)
  unfold resignHandler
  simp only [exec_bind, connected, decoded, exec_okOr, fromUtf8_asBytes, device, exec_attempt, derived,
    Except.mapError, hex, opened]
  cases linked : d.userId with
  | none => exact ⟨_, _, rfl⟩
  | some uuid =>
    have lookup : exec Action.answer (liftM (User.findByUuid conn uuid) : Handler (Option User))
        (fun n => choices (n + 3), db) =
          (.ok (Table.find (·.uuid) db.users uuid), fun n => choices (n + 4), db) :=
      exec_statement (calm.statements 3) rfl
    simp only [lookup]
    cases owner : Table.find (·.uuid) db.users uuid with
    | none => exact ⟨_, _, rfl⟩
    | some user =>
      obtain ⟨member, rfl⟩ := Table.find_some owner
      simp only [exec_refuseIf]
      cases active : user.isDeleted with
      | true => exact ⟨_, _, rfl⟩
      | false =>
        obtain ⟨stored, known⟩ := atRest.users user member
        have other : ehlo ≠ stored := by
          rintro rfl
          exact wrong user member linked active known
        simp only [Bool.false_eq_true, if_false, known, other, ne_eq, not_false_eq_true, if_true]
        exact ⟨_, _, rfl⟩

/-- Every re-sign request that proves nothing has one of two answers. -/
theorem resign_refused (ip : String) (calm : Calm choices) (atRest : AtRest config db)
    (wrong : Unproved config db body) :
    ∃ origin rest, (Unopened config db body ∧ exec Action.answer (resignHandler config ip body) (choices, db) =
        (.error ⟨ehloError body, origin⟩, rest)) ∨
      (¬Unopened config db body ∧ exec Action.answer (resignHandler config ip body) (choices, db) =
        (.error ⟨tokenError body, origin⟩, rest)) := by
  cases decoded : Hex.decode body.token with
  | none =>
    obtain ⟨conn, connected⟩ := exec_conn db calm
    refine ⟨.request, (fun n => choices (n + 2), db), .inr ⟨?_, ?_⟩⟩
    · rintro ⟨d, ⟨token, sent, -⟩, -⟩
      cases decoded.symm.trans sent
    · unfold resignHandler tokenError
      simp only [exec_bind, connected, decoded, exec_okOr]
      rfl
  | some sent =>
    have generic : tokenError body = unauthorized := by
      unfold tokenError
      rw [decoded]
      rfl
    by_cases presented : ∃ d, BearsToken db body d
    · obtain ⟨d, token, same, member, holds⟩ := presented
      have found := Table.find_column db.valid.identityToken member holds
      by_cases opened : ∃ plain, Opens config d body.ehlo plain
      · obtain ⟨ehlo, opened⟩ := opened
        obtain ⟨origin, rest, done⟩ := resign_opened ip calm atRest same found opened
          fun user owner => wrong d ehlo user ⟨token, same, member, holds⟩ opened owner
        refine ⟨origin, rest, .inr ⟨?_, generic ▸ done⟩⟩
        rintro ⟨d', ⟨token', same', member', holds'⟩, closed⟩
        obtain rfl := asBytes_injective (Option.some.inj (same.symm.trans same'))
        obtain rfl := Table.column_unique db.valid.identityToken member member' holds holds'
        exact closed ehlo opened
      · have closed : ∀ plain, ¬Opens config d body.ehlo plain := not_exists.mp opened
        obtain ⟨origin, rest, done⟩ := resign_unopened ip calm atRest same found closed
        exact ⟨origin, rest, .inl ⟨⟨d, ⟨token, same, member, holds⟩, closed⟩, done⟩⟩
    · have unknown : ∀ token, asBytes token = sent →
          Table.find (·.deviceToken) db.identities (some (hashToken token)) = none := by
        rintro token rfl
        cases found : Table.find (·.deviceToken) db.identities (some (hashToken token)) with
        | none => rfl
        | some d => exact absurd ⟨d, token, decoded, Table.find_some found⟩ presented
      obtain ⟨rest, done⟩ := exec_resign_unknown config ip calm decoded unknown
      refine ⟨.request, (rest, db), .inr ⟨?_, generic ▸ done⟩⟩
      rintro ⟨d, there, -⟩
      exact presented ⟨d, there⟩

end

omit [Crypto] in
theorem ehloError_differs {body : TokenRequest} (sent : (Hex.decode body.token).isSome) :
    (ehloError body).status ≠ (tokenError body).status := by
  unfold tokenError ehloError
  rw [if_pos sent]
  split
  · decide
  · split <;> decide

/-- Two re-sign requests that prove nothing are answered alike exactly when the ehlo fails to open
under the key of a device that holds the token in both states or in neither. -/
theorem resign_unrevealing_iff [Archive] (opens : OpensSealed) {c c' : ServerState}
    (reached : (server config).Reachable c) (reached' : (server config).Reachable c')
    (body : TokenRequest) {choices choices' : Nat → Choice} (calm : Calm choices) (calm' : Calm choices')
    (wrong : Unproved config c.world body) (wrong' : Unproved config c'.world body) :
    respond (served config choices (.resign ip body) c.world).1 =
        respond (served config choices' (.resign ip body) c'.world).1 ↔
      (Unopened config c.world body ↔ Unopened config c'.world body) := by
  obtain ⟨o, rest, one⟩ := resign_refused ip calm (run_atRest opens (reachable_run reached)) wrong
  obtain ⟨o', rest', two⟩ := resign_refused ip calm' (run_atRest opens (reachable_run reached')) wrong'
  have decoded : ∀ {db : Db}, Unopened config db body → (Hex.decode body.token).isSome := by
    rintro db ⟨d, ⟨token, sent, -⟩, -⟩
    rw [sent]
    rfl
  unfold served serve
  rcases one with ⟨closed, done⟩ | ⟨notClosed, done⟩ <;>
    rcases two with ⟨closed', done'⟩ | ⟨notClosed', done'⟩
  · rw [exec_map done, exec_map done']
    exact iff_of_true rfl (iff_of_true closed closed')
  · rw [exec_map done, exec_map done']
    refine iff_of_false (fun same => ?_) fun both => notClosed' (both.mp closed)
    exact ehloError_differs (decoded closed) (congrArg Prod.fst same)
  · rw [exec_map done, exec_map done']
    refine iff_of_false (fun same => ?_) fun both => notClosed (both.mpr closed')
    exact ehloError_differs (decoded closed') (congrArg Prod.fst same).symm
  · rw [exec_map done, exec_map done']
    exact iff_of_true rfl (iff_of_false notClosed notClosed')

/-! ## A known token beside an empty ehlo -/

/-- The token of the example, and an ehlo that opens to a wrong one. -/
def probe : TokenRequest := ⟨Hex.encode (asBytes (numbered 2064).toString), hidden (asBytes "wrong")⟩

omit [Crypto] in
/-- An ehlo that opens is refused like an unknown token. -/
theorem resign_unrevealing_probe :
    letI := plainCrypto
    letI := plainArchive
    respond (served plainConfig (fun _ => {}) (.resign deviceIp probe) deviceRun.world).1 =
        respond (served plainConfig (fun _ => {}) (.resign deviceIp probe) Db.empty).1 ↔
      (Unopened plainConfig deviceRun.world probe ↔ Unopened plainConfig Db.empty probe) := by
  let _ := plainCrypto
  let _ := plainArchive
  obtain ⟨guessable, -, -⟩ := guessable_runs
  have wrong : Unproved plainConfig deviceRun.world probe := by
    intro d ehlo user bears sent member _ _ stored
    obtain ⟨_, -, device, -⟩ := bears
    have real := (hidden_sealed (asBytes "wrong") (toOption_ok (guessable.key d device))).opens plain_opens
    apply guessable.other user member
    rw [stored, Opens.unique sent real]
    rfl
  have nobody : Unproved plainConfig Db.empty probe := by
    rintro d ehlo user ⟨token, -, member, -⟩
    cases member
  have start : (server plainConfig).Reachable { world := Db.empty } := .refl
  exact resign_unrevealing_iff plain_opens deviceRun_reachable start probe calm_default calm_default wrong nobody

variable (config) in
/-- All re-sign requests that prove nothing are answered alike. -/
def NoOracle [Archive] : Prop :=
  ∀ c c', (server config).Reachable c → (server config).Reachable c' → ∀ ip body choices, Calm choices →
    Unproved config c.world body → Unproved config c'.world body →
      respond (served config choices (.resign ip body) c.world).1 =
        respond (served config choices (.resign ip body) c'.world).1

omit [Crypto] in
theorem token_oracle :
    letI := plainCrypto
    letI := plainArchive
    ¬NoOracle plainConfig := by
  let _ := plainCrypto
  let _ := plainArchive
  intro alike
  let body : TokenRequest := ⟨Hex.encode (asBytes (numbered 2064).toString), ""⟩
  have closed : ∀ db, Unproved plainConfig db body := by
    rintro db d ehlo user - ⟨blob, key, decoded, derived, opened⟩
    obtain rfl : [] = blob := Option.some.inj decoded
    cases opened
  have same := alike deviceRun { world := Db.empty } deviceRun_reachable .refl deviceIp body _ calm_default
    (closed _) (closed _)
  have known : (respond (served plainConfig (fun _ => {}) (.resign deviceIp body) deviceRun.world).1).1 = 500 := by
    decide +kernel
  have unknown : (respond (served plainConfig (fun _ => {}) (.resign deviceIp body) Db.empty).1).1 = 401 := by
    decide +kernel
  rw [same, unknown] at known
  cases known

end PasswordManager
