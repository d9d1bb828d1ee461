import Mathlib.Algebra.Order.Group.Multiset
import PasswordManager.Interaction.Budget
import PasswordManager.Server.Importer
import PasswordManager.Server.RowFile
import PasswordManager.Server.Specs

/-!
# Nonces

AES-GCM under one key is broken by a nonce that is used twice. The server seals private keys, ehlos
and passwords for its database and passwords for the devices, and never two of them with one drawn
nonce.
-/

namespace PasswordManager
open Interaction Budget

/-! ## What is sealed -/

/-- The blob of a hex column or field. -/
def hexBlob (text : String) : List Bytes := (Hex.decode text).toList

/-- The sealed columns that a statement writes. -/
def Query.sealed : Query → List Bytes
  | .userCreate new => hexBlob new.ehloSecret
  | .identityCreate new => [new.serverPrivateKey]
  | .passwordCreate new => hexBlob new.pwd
  | .passwordUpdate _ changes _ => (changes.pwd.map hexBlob).getD []
  | _ => []

def Action.sealed : Action → List Bytes
  | .effect (.sql _ q) => q.sealed
  | .transaction _ t => hexBlob t.ehloSecret
  | _ => []

/-- The sealed fields of a response. An archive holds columns that were sealed before. -/
def Reply.sealed : Reply → List Bytes
  | .passwords entries => entries.flatMap fun e => hexBlob e.pwd
  | .password e => hexBlob e.pwd
  | .detail d => hexBlob d.pwd
  | _ => []

def nonceOf (blob : Bytes) : Bytes := blob.take 12

def nonces (blobs : List Bytes) : Multiset Bytes := (blobs.map nonceOf : List Bytes)

def drawnNonce : Exchange Action.Answer → Option Bytes
  | ⟨.effect .nonce, n⟩ => some (n : BytesN 12).val
  | _ => none

def nonceBudget : Budget Action.Answer Result (Multiset Bytes) where
  drawn e := (drawnNonce e).toList
  spent x := nonces x.sealed
  paid r := (r.toOption.map fun reply => nonces reply.sealed).getD 0

/-! ## Programs that seal nothing -/

@[simp] theorem nonces_nil : nonces [] = 0 := rfl

theorem nonces_append (a b : List Bytes) : nonces (a ++ b) = nonces a + nonces b := by
  simp only [nonces, List.map_append, Multiset.coe_add]

/-- The program seals nothing that leaves it, whatever it holds. -/
def Mute {α : Type} (p : Handler α) : Prop := ∀ m, nonceBudget.Thrifty m p fun _ => m

section
variable {α β : Type} {p : Handler α} {f : α → Handler β} {m : Multiset Bytes}

theorem Mute.bind (first : Mute p) (next : ∀ v, Mute (f v)) : Mute (p >>= f) :=
  fun m => (first m).bind fun v => next v m

theorem mute_pure {v : α} : Mute (pure v : Handler α) := fun _ => thrifty_pure le_rfl

theorem mute_fail {origin : Origin} {error : AppError} : Mute (fail origin error : Handler α) :=
  fun _ => thrifty_throw

theorem mute_attempt {origin : Origin} {r : Except AppError α} :
    Mute (attempt origin r : Handler α) := by
  cases r with
  | ok v => exact mute_pure
  | error e => exact mute_fail

theorem mute_okOr {value : Option α} {error : AppError} : Mute (okOr value error : Handler α) := by
  cases value with
  | some v => exact mute_pure
  | none => exact mute_fail

theorem mute_refuseIf {condition : Prop} [Decidable condition] {error : AppError} :
    Mute (refuseIf condition error : Handler Unit) := by
  unfold refuseIf
  split
  · exact mute_fail
  · exact mute_pure

theorem mute_act {x : Action} (unsealed : x.sealed = []) : Mute (act x) := by
  intro m
  have free : nonceBudget.spent x = 0 := congrArg nonces unsealed
  refine thrifty_perform (n := fun _ => m) ?_ fun a => ?_
  · rw [free]
    exact zero_le
  · rw [free, add_zero]
    exact le_self_add

theorem mute_query {conn : Conn} {q : Query} (unsealed : q.sealed = []) :
    Mute (liftM (query conn q) : Handler (Except DbError q.Answer)) :=
  mute_act (x := .effect (.sql conn q)) unsealed

theorem mute_sql {conn : Conn} {q : Query} (unsealed : q.sealed = []) :
    Mute (liftM (sql conn q) : Handler q.Answer) := by
  unfold sql
  rw [lift_bind]
  refine (mute_query unsealed).bind fun r => ?_
  cases r with
  | ok a => exact mute_pure
  | error e => exact mute_fail

theorem mute_stateConn : Mute (liftM stateConn : Handler Conn) := by
  refine (mute_act (x := .file .clonePool) rfl).bind fun pool => ?_
  refine (mute_act (x := .file (.poolGet pool)) rfl).bind fun r => ?_
  cases r with
  | ok conn => exact mute_pure
  | error e => exact mute_fail

theorem mute_newUuid : Mute (liftM newUuid : Handler String) :=
  (mute_act (x := .effect .uuid) rfl).bind fun _ => mute_pure

theorem mute_utcNow : Mute (liftM utcNow : Handler NaiveDateTime) := mute_act (x := .effect .now) rfl

theorem mute_daysRemaining {validSince : NaiveDateTime} {days : Int} :
    Mute (liftM (daysRemaining validSince days) : Handler Int) := by
  unfold daysRemaining
  rw [lift_bind]
  exact mute_utcNow.bind fun _ => mute_pure

theorem mute_isExpired {validSince : NaiveDateTime} {days : Int} :
    Mute (liftM (isExpired validSince days) : Handler Bool) := by
  unfold isExpired
  rw [lift_bind]
  exact mute_daysRemaining.bind fun _ => mute_pure

section
variable [Crypto] {config : Config}

theorem mute_validateAuth {headers : HeaderMap} {ip : String} : Mute (validateAuth headers ip) := by
  unfold validateAuth
  refine mute_okOr.bind fun token => mute_stateConn.bind fun conn => ?_
  refine (mute_sql rfl).bind fun found => mute_okOr.bind fun identity => ?_
  refine mute_refuseIf.bind fun _ => mute_refuseIf.bind fun _ => mute_okOr.bind fun userId => ?_
  refine (mute_sql rfl).bind fun found => mute_okOr.bind fun user => ?_
  exact mute_refuseIf.bind fun _ => mute_pure

theorem mute_decodeRequest {conn : Conn} {ip : String} {body : SignRequest} :
    Mute (decodeRequest config conn ip body) := by
  unfold decodeRequest
  refine (mute_sql rfl).bind fun found => mute_okOr.bind fun identity => ?_
  refine mute_attempt.bind fun key => mute_okOr.bind fun name => mute_okOr.bind fun ehlo => ?_
  refine mute_attempt.bind fun name => mute_attempt.bind fun ehlo => ?_
  exact mute_okOr.bind fun name => mute_pure

theorem mute_decryptFromClient {field : String} {identity : Identity} :
    Mute (liftM (decryptFromClient field identity config) : Handler Bytes) := by
  unfold decryptFromClient
  simp only [lift_bind, lift_okOr, lift_attempt]
  exact mute_okOr.bind fun blob => mute_attempt.bind fun key => mute_attempt

end

/-! ## Sealing -/

theorem hexBlob_encode (blob : Bytes) : hexBlob (Hex.encode blob) = [blob] := by
  rw [hexBlob, Hex.decode_encode]
  rfl

/-- A statement or a transaction uses up the nonces of what it stores. -/
theorem thrifty_stores {x : Action} {blobs : List Bytes} (stores : x.sealed = blobs) :
    nonceBudget.Thrifty (nonces blobs + m) (act x) fun _ => m := by
  subst stores
  refine thrifty_perform le_self_add fun a => ?_
  show m + nonces x.sealed ≤ _
  rw [add_comm m]
  exact le_self_add

theorem thrifty_query {conn : Conn} {q : Query} {blobs : List Bytes} (stores : q.sealed = blobs) :
    nonceBudget.Thrifty (nonces blobs + m)
      (liftM (query conn q) : Handler (Except DbError q.Answer)) fun _ => m :=
  thrifty_stores (x := .effect (.sql conn q)) stores

theorem thrifty_sql {conn : Conn} {q : Query} {blobs : List Bytes} (stores : q.sealed = blobs) :
    nonceBudget.Thrifty (nonces blobs + m) (liftM (sql conn q) : Handler q.Answer) fun _ => m := by
  unfold sql
  rw [lift_bind]
  refine (thrifty_query stores).bind fun r => ?_
  cases r with
  | ok a => exact mute_pure m
  | error e => exact thrifty_throw

theorem thrifty_transaction {conn : Conn} {s : SignUpTransaction} {blobs : List Bytes}
    (stores : hexBlob s.ehloSecret = blobs) :
    nonceBudget.Thrifty (nonces blobs + m) (transaction conn s) fun _ => m := by
  unfold transaction
  refine (thrifty_stores (x := .transaction conn s) stores).bind fun r => ?_
  cases r with
  | ok done => exact mute_pure m
  | error e => exact thrifty_throw

theorem thrifty_identityCreate {conn : Conn} {new : NewIdentity} {blob : Bytes}
    (stores : new.serverPrivateKey = blob) :
    nonceBudget.Thrifty (nonces [blob] + m)
      (liftM (Identity.create conn new) : Handler (Except DbError Identity)) fun _ => m :=
  thrifty_query (q := .identityCreate new) (congrArg (fun key => [key]) stores)

theorem thrifty_passwordCreate {conn : Conn} {new : NewPassword} {blobs : List Bytes}
    (stores : hexBlob new.pwd = blobs) :
    nonceBudget.Thrifty (nonces blobs + m) (liftM (Password.create conn new) : Handler Password)
      fun _ => m :=
  thrifty_sql (q := .passwordCreate new) stores

theorem thrifty_passwordUpdate {conn : Conn} {uuid text : String} {changes : UpdatePassword}
    {blobs : List Bytes} (sets : changes.pwd = some text) (stores : hexBlob text = blobs) :
    nonceBudget.Thrifty (nonces blobs + m)
      (liftM (Password.update conn uuid changes) : Handler Password) fun _ => m := by
  unfold Password.update
  rw [lift_bind]
  refine (mute_utcNow _).bind fun now => thrifty_sql (q := .passwordUpdate uuid changes now) ?_
  show (changes.pwd.map hexBlob).getD [] = blobs
  rw [sets]
  exact stores

variable [Crypto] {config : Config}

theorem nonceOf_sealed {nonce : BytesN 12} {data blob : Bytes} {key : BytesN 32}
    (sealed : sealWith nonce data key = .ok blob) : nonceOf blob = nonce.val := by
  obtain ⟨ciphertext, -, rfl⟩ := sealWith_ok sealed
  exact List.take_left' nonce.property

/-- Who seals holds the nonce of the blob, and nobody else has it. -/
theorem thrifty_encrypt {data : Bytes} {key : BytesN 32} :
    nonceBudget.Thrifty m (liftM (encryptWithSharedKey data key) : Handler Bytes) fun blob =>
      nonces [blob] + m := by
  unfold encryptWithSharedKey
  simp only [lift_bind, lift_attempt]
  have draws : nonceBudget.Thrifty m (act (.effect .nonce)) fun nonce =>
      {(nonce : BytesN 12).val} + m := by
    refine thrifty_perform zero_le fun nonce => ?_
    show {nonce.val} + m + 0 ≤ m + {nonce.val}
    rw [add_zero, add_comm]
  refine draws.bind fun nonce => ?_
  cases sealed : sealWith nonce data key with
  | error e => exact thrifty_throw
  | ok blob =>
    refine thrifty_pure ?_
    rw [← nonceOf_sealed sealed]
    exact le_rfl

theorem thrifty_encryptForClient {stored : String} {identity : Identity} :
    nonceBudget.Thrifty m (liftM (encryptForClient stored identity config) : Handler String)
      fun sent => nonces (hexBlob sent) + m := by
  unfold encryptForClient
  simp only [lift_bind, lift_attempt]
  refine (mute_attempt m).bind fun plain => (mute_attempt m).bind fun key => ?_
  refine thrifty_encrypt.bind fun blob => thrifty_pure ?_
  rw [hexBlob_encode]

theorem thrifty_listEntries {identity : Identity} {expired : Bool} {rows : List Password}
    {skip take : Nat} :
    nonceBudget.Thrifty m
      (liftM (listEntries config identity expired rows skip take) : Handler (List PasswordEntry))
      fun entries => nonces (entries.flatMap fun e => hexBlob e.pwd) + m := by
  induction rows generalizing skip take m with
  | nil =>
    unfold listEntries
    refine thrifty_pure ?_
    exact (zero_add m).le
  | cons row rest ih =>
    cases take with
    | zero =>
      unfold listEntries
      refine thrifty_pure ?_
      exact (zero_add m).le
    | succ take =>
      unfold listEntries
      rw [lift_bind]
      refine (mute_isExpired m).bind fun old => ?_
      split
      · cases skip with
        | succ skip => exact ih
        | zero =>
          simp only [lift_bind]
          refine thrifty_encryptForClient.bind fun sent => ?_
          -- The clock is read once more for an entry that is still valid.
          have add : ∀ expires : Int, nonceBudget.Thrifty (nonces (hexBlob sent) + m)
              (do
                let entries ← (liftM (listEntries config identity expired rest 0 take) :
                  Handler (List PasswordEntry))
                pure ({
                  uuid := row.uuid
                  pwd := sent
                  expires
                  createdAt := row.createdAt.display
                  updatedAt := row.updatedAt.display
                  validSinceDays := row.validSinceDays } :: entries))
              fun entries => nonces (entries.flatMap fun e => hexBlob e.pwd) + m := by
            intro expires
            refine ih.bind fun entries => thrifty_pure ?_
            rw [List.flatMap_cons, nonces_append, add_assoc, add_left_comm]
          split
          · simp only [pure_bind, lift_bind]
            exact add 0
          · simp only [lift_bind]
            exact (mute_daysRemaining _).bind add
      · exact ih

end

/-! ## The handlers that seal -/

section
variable [Crypto] {config : Config} {headers : HeaderMap} {ip : String}

theorem thrifty_greet {body : GreetRequest} :
    nonceBudget.Thrifty 0 (greetHandler config ip body) fun _ => 0 := by
  unfold greetHandler
  refine (mute_stateConn 0).bind fun conn => (mute_okOr 0).bind fun key => ?_
  refine (mute_refuseIf 0).bind fun _ => (mute_sql (q := .identityFindByIp ip) rfl 0).bind fun found => ?_
  refine (mute_refuseIf 0).bind fun _ => (mute_act (x := .effect .random) rfl 0).bind fun random => ?_
  refine (mute_newUuid 0).bind fun uuid => thrifty_encrypt.bind fun blob => ?_
  refine (thrifty_identityCreate (by rfl)).bind fun stored => ?_
  split
  · exact mute_pure 0
  · exact thrifty_throw
  · exact thrifty_throw

theorem thrifty_signUp {body : SignRequest} :
    nonceBudget.Thrifty 0 (signUpHandler config ip body) fun _ => 0 := by
  unfold signUpHandler
  refine (mute_stateConn 0).bind fun conn => (mute_decodeRequest 0).bind fun decoded => ?_
  refine (mute_attempt 0).bind fun _ => thrifty_encrypt.bind fun blob => ?_
  exact (thrifty_transaction (hexBlob_encode blob)).bind fun _ => mute_pure 0

theorem thrifty_pwdCreate {body : CreatePasswordRequest} :
    nonceBudget.Thrifty 0 (createHandler config headers ip body) fun entry =>
      nonces (hexBlob entry.pwd) := by
  unfold createHandler
  refine (mute_attempt 0).bind fun _ => (mute_validateAuth 0).bind fun identity => ?_
  refine (mute_okOr 0).bind fun userId => (mute_stateConn 0).bind fun conn => ?_
  refine (mute_decryptFromClient 0).bind fun plain => thrifty_encrypt.bind fun blob => ?_
  refine (mute_sql (q := .groupFindByUuid body.groupId) rfl _).bind fun found => ?_
  refine (mute_okOr _).bind fun group => (mute_refuseIf _).bind fun _ => ?_
  refine (mute_newUuid _).bind fun uuid => (mute_utcNow _).bind fun now => ?_
  refine (thrifty_passwordCreate (hexBlob_encode blob)).bind fun row => ?_
  refine thrifty_encryptForClient.bind fun sent => (mute_daysRemaining _).bind fun expires => ?_
  refine thrifty_pure ?_
  exact (add_zero _).ge

theorem thrifty_pwdUpdate {uuid : Uuid} {body : UpdatePasswordRequest} :
    nonceBudget.Thrifty 0 (updateHandler config headers ip uuid body) fun _ => 0 := by
  unfold updateHandler
  refine (mute_attempt 0).bind fun _ => (mute_validateAuth 0).bind fun identity => ?_
  refine (mute_okOr 0).bind fun userId => (mute_stateConn 0).bind fun conn => ?_
  refine (mute_sql (q := .passwordFindByUuid uuid.toString) rfl 0).bind fun found => ?_
  refine (mute_okOr 0).bind fun existing => ?_
  refine (mute_sql (q := .groupFindByUuid existing.groupId) rfl 0).bind fun found => ?_
  refine (mute_okOr 0).bind fun group => (mute_refuseIf 0).bind fun _ => ?_
  refine (mute_sql (q := .groupFindByUuid body.groupId) rfl 0).bind fun found => ?_
  refine (mute_okOr 0).bind fun target => (mute_refuseIf 0).bind fun _ => ?_
  refine (mute_decryptFromClient 0).bind fun plain => thrifty_encrypt.bind fun blob => ?_
  exact (thrifty_passwordUpdate rfl (hexBlob_encode blob)).bind fun row => mute_pure 0

theorem thrifty_pwdGet {uuid : Uuid} :
    nonceBudget.Thrifty 0 (getHandler config headers ip uuid) fun detail =>
      nonces (hexBlob detail.pwd) := by
  unfold getHandler
  refine (mute_validateAuth 0).bind fun identity => (mute_okOr 0).bind fun userId => ?_
  refine (mute_stateConn 0).bind fun conn => ?_
  refine (mute_sql (q := .passwordFindByUuid uuid.toString) rfl 0).bind fun found => ?_
  refine (mute_okOr 0).bind fun row => ?_
  refine (mute_sql (q := .groupFindByUuid row.groupId) rfl 0).bind fun found => ?_
  refine (mute_okOr 0).bind fun group => (mute_refuseIf 0).bind fun _ => ?_
  refine thrifty_encryptForClient.bind fun sent => (mute_daysRemaining _).bind fun expires => ?_
  refine thrifty_pure ?_
  exact (add_zero _).ge

theorem thrifty_pwdList {params : ListParams} :
    nonceBudget.Thrifty 0 (listHandler config headers ip params) fun entries =>
      nonces (entries.flatMap fun e => hexBlob e.pwd) := by
  unfold listHandler
  refine (mute_validateAuth 0).bind fun identity => (mute_okOr 0).bind fun userId => ?_
  refine (mute_stateConn 0).bind fun conn => ?_
  refine (mute_sql (q := .groupFindByUser userId) rfl 0).bind fun groups => ?_
  refine (mute_sql (q := .passwordFindByGroups (groups.map (·.uuid))) rfl 0).bind fun rows => ?_
  have listed : ∀ expired skip take, nonceBudget.Thrifty 0
      (liftM (listEntries config identity expired rows skip take) : Handler (List PasswordEntry))
      fun entries => nonces (entries.flatMap fun e => hexBlob e.pwd) + 0 := fun _ _ _ =>
    thrifty_listEntries
  simp only [add_zero] at listed
  exact listed _ _ _

end

/-! ## Every request -/

theorem holds_nothing : nonceBudget.Holds 0 [] := le_rfl

/-- The requests that seal something. -/
def Request.seals : Request → Bool
  | greet _ _ | signUp _ _ | pwdCreate _ _ _ | pwdUpdate _ _ _ _ | pwdGet _ _ _ | pwdList _ _ _ => true
  | _ => false

theorem sealed_read {x : Action} (read : x.isWrite = false) : x.sealed = [] := by
  cases x with
  | transaction conn s => cases read
  | file x => rfl
  | effect x =>
    cases x with
    | sql conn q => cases q <;> first | rfl | cases read
    | _ => rfl

theorem spec_seals {α : Type} {p : Handler α} (wrap : α → Reply)
    (thrifty : nonceBudget.Thrifty 0 p fun v => nonces (wrap v).sealed) :
    Prog.Spec nonceBudget.May nonceBudget.Pays [] (wrap <$> p : Handler Reply).run := by
  have mapped : nonceBudget.Thrifty 0 (wrap <$> p) fun reply => nonces reply.sealed :=
    Thrifty.map (k := fun reply : Reply => nonces reply.sealed) thrifty
  refine Prog.spec_mono (fun _ _ may => may) (fun h r met => ?_) (mapped [] holds_nothing)
  cases r with
  | ok reply => exact met
  | error e => exact met

section
variable [Crypto] [Archive] {config : Config}

theorem spec_plain {req : Request} {α : Type} {p : Handler α} {wrap : α → Reply}
    (plain : req.seals = false) (serves : serve config req = wrap <$> p)
    (shape : ∀ v, (wrap v).sealed = []) :
    Prog.Spec nonceBudget.May nonceBudget.Pays [] (serve config req).run := by
  have shaped : Fallible.Spec (fun _ _ => True) (fun _ _ => True) (fun _ r => r.sealed = []) []
      (serve config req) := by
    rw [serves, Fallible.spec_map]
    refine Prog.spec_mono (fun _ _ _ => trivial) (fun h r _ => ?_) (Prog.spec_trivial p.run)
    cases r with
    | ok v => exact shape v
    | error e => trivial
  refine spec_free holds_nothing (Prog.spec_mono ?_ ?_ (Prog.spec_and (serve_spec config req) shaped))
  · rintro h x ⟨justified, -⟩
    have unsealed : x.sealed = [] := by
      by_cases writes : x.isWrite = true
      · have write := (justified.write writes).2
        cases write with
        | greet | signUp | pwdCreate | pwdUpdate => cases plain
        | _ => rfl
      · exact sealed_read (Bool.eq_false_iff.mpr writes)
    exact congrArg nonces unsealed
  · rintro h r ⟨-, met⟩
    cases r with
    | ok reply =>
      have unsealed : reply.sealed = [] := met
      exact congrArg nonces unsealed
    | error e => rfl

theorem serve_thrifty (config : Config) (req : Request) :
    Prog.Spec nonceBudget.May nonceBudget.Pays [] (serve config req).run := by
  cases req with
  | greet ip body => exact spec_seals .greet thrifty_greet
  | signUp ip body => exact spec_seals .token thrifty_signUp
  | pwdList headers ip params => exact spec_seals .passwords thrifty_pwdList
  | pwdCreate headers ip body => exact spec_seals .password thrifty_pwdCreate
  | pwdUpdate headers ip uuid body => exact spec_seals (fun _ => .null) thrifty_pwdUpdate
  | pwdGet headers ip uuid => exact spec_seals .detail thrifty_pwdGet
  | signIn ip body => exact spec_plain rfl rfl fun _ => rfl
  | refresh ip body => exact spec_plain rfl rfl fun _ => rfl
  | resign ip body => exact spec_plain rfl rfl fun _ => rfl
  | verify headers ip => exact spec_plain rfl rfl fun _ => rfl
  | groupCreate headers ip body => exact spec_plain rfl rfl fun _ => rfl
  | groupList headers ip => exact spec_plain rfl rfl fun _ => rfl
  | adminPending headers addr => exact spec_plain rfl rfl fun _ => rfl
  | adminApprove headers addr uuid => exact spec_plain rfl rfl fun _ => rfl
  | adminIdentities headers addr => exact spec_plain rfl rfl fun _ => rfl
  | adminDelete headers addr uuid => exact spec_plain rfl rfl fun _ => rfl
  | adminToggleIdentity headers addr uuid action => exact spec_plain rfl rfl fun _ => rfl
  | adminUsers headers addr => exact spec_plain rfl rfl fun _ => rfl
  | adminToggleUser headers addr uuid action => exact spec_plain rfl rfl fun _ => rfl
  | adminExport headers addr => exact spec_plain rfl rfl fun _ => rfl

theorem demand_thrifty (config : Config) (demand : Demand) :
    Prog.Spec nonceBudget.May nonceBudget.Pays [] (demandHandler config demand).run := by
  cases demand with
  | request req => exact serve_thrifty config req
  | «import» headers addr body =>
    have shaped : Fallible.Spec (fun _ _ => True) (fun _ _ => True) (fun _ r => r.sealed = []) []
        (demandHandler config (.import headers addr body)) := by
      refine Fallible.spec_map.mpr (Prog.spec_mono (fun _ _ _ => trivial) (fun h r _ => ?_) (Prog.spec_trivial _))
      cases r <;> trivial
    refine spec_free holds_nothing
      (Prog.spec_mono ?_ ?_ (Prog.spec_and (demand_spec config (.import headers addr body)) shaped))
    · rintro h x ⟨conduct, -⟩
      obtain ⟨y, rfl, -⟩ := conduct
      rfl
    · rintro h r ⟨-, met⟩
      cases r with
      | ok reply =>
        have unsealed : reply.sealed = [] := met
        exact congrArg nonces unsealed
      | error e => rfl

end

/-! ## A whole life -/

/-- The blobs that an event puts into the database or hands to a device. -/
def sealedBlobs : Event Action.Answer Demand Result Backend → List Bytes
  | .act _ _ e _ _ => e.action.sealed
  | .reply _ _ (.ok reply) => reply.sealed
  | _ => []

def usedNonces (tr : BackendTrace) : List Bytes := (tr.flatMap sealedBlobs).map nonceOf

def drawnNonces (tr : BackendTrace) : List Bytes :=
  tr.flatMap fun
    | .act _ _ e _ _ => (drawnNonce e).toList
    | _ => []

theorem owed_used (tr : BackendTrace) : nonceBudget.owed tr = (usedNonces tr : Multiset Bytes) := by
  induction tr with
  | nil => rfl
  | cons e tr ih =>
    have here : nonceBudget.debit e = nonces (sealedBlobs e) := by
      cases e with
      | start rid demand => rfl
      | act rid demand e pre post => rfl
      | reply rid demand r => cases r <;> rfl
    rw [owed_cons, ih, here]
    simp only [usedNonces, nonces, List.flatMap_cons, List.map_append, Multiset.coe_add]

theorem earned_drawn (tr : BackendTrace) :
    nonceBudget.earned tr = (drawnNonces tr : Multiset Bytes) := by
  induction tr with
  | nil => rfl
  | cons e tr ih =>
    rw [earned_cons, ih]
    unfold drawnNonces
    rw [List.flatMap_cons, ← Multiset.coe_add]
    cases e <;> rfl

section
variable [Crypto] [Archive] [Engine] {config : Config} {s : Storage} {c : BackendState}

theorem lives_solvent (life : Lives config { world := { storage := s } } c) : nonceBudget.Solvent c := by
  induction life with
  | refl => exact .initial _
  | step _ step ih => exact ih.step (demand_thrifty config) step
  | restart _ _ ih => exact ih.crash _

/-- No nonce is used twice. Through crashes, restarts and imports, and however the requests interleave,
each request seals only with nonces that it drew itself, and with each of them once. -/
theorem nonces_once (life : Lives config { world := { storage := s } } c) :
    (∀ rid, (usedNonces (ofRequest rid c.trace)).Subperm (drawnNonces (ofRequest rid c.trace))) ∧
      ((drawnNonces c.trace).Nodup → (usedNonces c.trace).Nodup) := by
  have solvent := lives_solvent life
  constructor
  · intro rid
    have covered := solvent.covered rid
    rw [owed_used, earned_drawn] at covered
    exact Multiset.coe_le.mp covered
  · intro distinct
    have total := solvent.total
    rw [owed_used, earned_drawn] at total
    exact Multiset.coe_nodup.mp (Multiset.nodup_of_le total (Multiset.coe_nodup.mpr distinct))

end

def numberedNonce (n : Nat) : BytesN 12 := ⟨List.replicate 10 0 ++ word n, rfl⟩

/-- A turn whose nonce is its own. -/
def freshTurn (rid k : Nat) : Choice :=
  { turn rid k with
    chance := fun i => { (turn rid k).chance i with nonce := numberedNonce (1000 * rid + 16 * k + i) } }

/-- The device enrolls, and the process stops when it has drawn the nonce for a sign-up. -/
def drawnProcess : BackendState :=
  process emptyDisk [] (Move.alone 0 greetRequest ((List.range 8).map (freshTurn 0)) ++
    .start 1 signUpRequest :: (List.range 4).map fun k => .step 1 (freshTurn 1 k))

def sealedProcess : BackendState :=
  process drawnProcess.world.storage drawnProcess.trace
    (Move.alone 2 signUpRequest ((List.range 6).map (freshTurn 2)))

theorem nonces_once_restarted :
    (drawnNonces sealedProcess.trace).length = 3 ∧ (usedNonces sealedProcess.trace).length = 2 ∧
      (usedNonces sealedProcess.trace).Nodup := by
  let _ := plainCrypto
  let _ := plainArchive
  let _ := rowEngine
  have checked : (drawnNonces sealedProcess.trace).length = 3 ∧
      (usedNonces sealedProcess.trace).length = 2 ∧ (drawnNonces sealedProcess.trace).Nodup ∧
      (starting drawnProcess.world.storage).1.toOption.isSome := by
    decide +kernel
  obtain ⟨drawn, used, distinct, ok⟩ := checked
  have first : Lives plainConfig { world := { storage := (starting emptyDisk).2 } } drawnProcess :=
    process_lives .refl
  have life : Lives plainConfig { world := { storage := (starting emptyDisk).2 } } sealedProcess :=
    process_lives (.restart first (starting_ok ok))
  exact ⟨drawn, used, (nonces_once life).2 distinct⟩

end PasswordManager
