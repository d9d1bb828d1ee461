import PasswordManager.Routes.Exec
import PasswordManager.Server.Rules

/-!
# Where errors come from

Every error of a handler comes from one of its steps, and `Fault` says which steps there are.
-/

namespace PasswordManager
open Interaction

/-- The fields of a request that its device has sealed. -/
def Request.sealedFields : Request → List String
  | .signUp _ body | .signIn _ body => [body.name, body.ehlo]
  | .refresh _ body => [body.token, body.ehlo]
  | .resign _ body => [body.ehlo]
  | .pwdCreate _ _ body => [body.pwd]
  | .pwdUpdate _ _ _ body => [body.pwd]
  | _ => []

/-- What the two admin checks look at. -/
def Request.admin : Request → Option (HeaderMap × IpAddr)
  | .adminPending headers addr | .adminApprove headers addr _ | .adminIdentities headers addr
  | .adminDelete headers addr _ | .adminToggleIdentity headers addr _ _ | .adminUsers headers addr
  | .adminToggleUser headers addr _ _ | .adminExport headers addr => some (headers, addr)
  | _ => none

/-- The request has found the row of a device, and this uuid is its key. -/
inductive Found (h : History Action.Answer) : Identity → String → Prop where
  | byIp {conn ip d} (found : answered conn (.identityFindByIp ip) (some d) ∈ h) : Found h d d.uuid
  | byToken {conn token d}
      (found : answered conn (.identityFindByDeviceToken token) (some d) ∈ h) : Found h d d.uuid
  | byUuid {conn uuid d} (found : answered conn (.identityFindByUuid uuid) (some d) ∈ h) :
      Found h d uuid

/-- The row that an UPDATE of a device or a user is about has been looked up. -/
def Query.Prepared (h : History Action.Answer) : Query → Prop
  | .identityUpdate uuid _ _ => ∃ d, Found h d uuid
  | .userUpdate uuid _ _ => ∃ conn u, answered conn (.userFindByUuid uuid) (some u) ∈ h
  | _ => True

/-- The step that an error comes from. -/
inductive Fault [Crypto] [Archive] (config : Config) (req : Request) (h : History Action.Answer) :
    Failure → Prop where
  | refusal {e} (client : e.status < 500) : Fault config req h ⟨e, .request⟩
  | connection {pool message} (failed : gotConn pool (.error message) ∈ h) :
      Fault config req h ⟨.pool message, .backend⟩
  | statement {conn q e before} (newest : h = refused conn q e :: before)
      (prepared : q.Prepared before) : Fault config req h ⟨.database e, .backend⟩
  | transaction {conn t f d before} (newest : h = rolledBack conn t f :: before)
      (found : Found before d t.identityUuid) : Fault config req h f
  | openFile {path message} (failed : ⟨.file (.openFile path), Except.error message⟩ ∈ h) :
      Fault config req h ⟨.internal ("failed to open db: " ++ message), .backend⟩
  | readFile {message} (failed : ⟨.file .readToEnd, Except.error message⟩ ∈ h) :
      Fault config req h ⟨.internal ("failed to read db: " ++ message), .backend⟩
  | pack {now content message} (read : ⟨.file .readToEnd, Except.ok content⟩ ∈ h)
      (failed : Archive.pack (exportFiles config now content) = .error message) :
      Fault config req h ⟨.internal message, .backend⟩
  | sealing {nonce data key e} (drew : drewNonce nonce ∈ h)
      (failed : sealWith nonce data key = .error e) : Fault config req h ⟨e, .sealing⟩
  | stored {e} : Fault config req h ⟨e, .stored⟩
  | field {d uuid text blob key e} (found : Found h d uuid) (sent : text ∈ req.sealedFields)
      (decoded : Hex.decode text = some blob) (derived : openSharedKey d config = .ok key)
      (failed : decryptWithSharedKey blob key = .error e) : Fault config req h ⟨e, .request⟩
  | admin {headers addr e} (checked : req.admin = some (headers, addr))
      (failed : checkAdmin headers addr config = .error e) : Fault config req h ⟨e, .request⟩

section
variable {h h' : History Action.Answer}

theorem Found.mono {d : Identity} {uuid : String} (sub : h ⊆ h') (found : Found h d uuid) :
    Found h' d uuid := by
  cases found with
  | byIp found => exact .byIp (sub found)
  | byToken found => exact .byToken (sub found)
  | byUuid found => exact .byUuid (sub found)

theorem Found.cons {d : Identity} {uuid : String} (e : Exchange Action.Answer)
    (found : Found h d uuid) : Found (e :: h) d uuid :=
  found.mono (List.subset_cons_self e h)

end

/-! ## Rules -/

section
variable [Crypto] [Archive] {config : Config} {req : Request} {h : History Action.Answer}
  {α β : Type}

/-- Every error of the handler is explained. -/
abbrev Faults (config : Config) (req : Request) (h : History Action.Answer) (p : Handler α) : Prop :=
  Fallible.Spec (fun _ _ => True) (Fault config req) (fun _ _ => True) h p

theorem faults_okOr {value : Option α} {error : AppError} {f : α → Handler β}
    (client : error.status < 500) (next : ∀ v, value = some v → Faults config req h (f v)) :
    Faults config req h (okOr value error >>= f) :=
  Fallible.spec_bind.mpr (spec_okOr.mpr ⟨next, fun _ => .refusal client⟩)

theorem faults_refuseIf {condition : Prop} [Decidable condition] {error : AppError}
    {f : Unit → Handler β} (client : error.status < 500) (next : Faults config req h (f ())) :
    Faults config req h (refuseIf condition error >>= f) :=
  Fallible.spec_bind.mpr (spec_refuseIf.mpr ⟨fun _ => next, fun _ => .refusal client⟩)

theorem faults_attempt {origin : Origin} {r : Except AppError α} {f : α → Handler β}
    (failed : ∀ e, r = .error e → Fault config req h ⟨e, origin⟩)
    (next : ∀ v, r = .ok v → Faults config req h (f v)) :
    Faults config req h (attempt origin r >>= f) :=
  Fallible.spec_bind.mpr (spec_attempt.mpr ⟨next, failed⟩)

theorem faults_stateConn {f : Conn → Handler β}
    (next : ∀ pool conn, Faults config req (gotConn pool (.ok conn) :: clonedPool pool :: h) (f conn)) :
    Faults config req h ((liftM stateConn : Handler Conn) >>= f) := by
  rw [Faults, Fallible.spec_bind, spec_stateConn]
  exact ⟨trivial, fun pool => ⟨trivial, next pool, fun m => .connection List.mem_cons_self⟩⟩

theorem faults_sql {conn : Conn} {q : Query} {f : q.Answer → Handler β} (prepared : q.Prepared h)
    (next : ∀ a, Faults config req (answered conn q a :: h) (f a)) :
    Faults config req h ((liftM (sql conn q) : Handler q.Answer) >>= f) := by
  rw [Faults, Fallible.spec_bind, spec_sql]
  exact ⟨trivial, next, fun e => .statement rfl prepared⟩

theorem faults_newUuid {f : String → Handler β}
    (next : ∀ u, Faults config req (drewUuid u :: h) (f u.toString)) :
    Faults config req h ((liftM newUuid : Handler String) >>= f) := by
  rw [Faults, Fallible.spec_bind, spec_newUuid]
  exact ⟨trivial, next⟩

theorem faults_utcNow {f : NaiveDateTime → Handler β}
    (next : ∀ now, Faults config req (readClock now :: h) (f now)) :
    Faults config req h ((liftM utcNow : Handler NaiveDateTime) >>= f) := by
  rw [Faults, Fallible.spec_bind, spec_utcNow]
  exact ⟨trivial, next⟩

theorem faults_encrypt {data : Bytes} {key : BytesN 32} {f : Bytes → Handler β}
    (next : ∀ nonce blob, Faults config req (drewNonce nonce :: h) (f blob)) :
    Faults config req h ((liftM (encryptWithSharedKey data key) : Handler Bytes) >>= f) := by
  rw [Faults, Fallible.spec_bind, spec_encrypt]
  refine ⟨trivial, fun nonce => ⟨fun blob _ => next nonce blob, fun e failed => ?_⟩⟩
  exact .sealing List.mem_cons_self failed

theorem faults_identityUpdate {conn : Conn} {uuid : String} {changes : UpdateIdentity}
    {f : Identity → Handler β} (found : ∃ d, Found h d uuid)
    (next : ∀ now row, Faults config req
      (answered conn (.identityUpdate uuid changes now) row :: readClock now :: h) (f row)) :
    Faults config req h
      ((liftM (Identity.update conn uuid changes) : Handler Identity) >>= f) := by
  rw [Faults, Fallible.spec_bind, spec_identityUpdate]
  obtain ⟨d, found⟩ := found
  refine ⟨trivial, fun now => ⟨trivial, next now, fun e => ?_⟩⟩
  exact .statement rfl ⟨d, found.cons _⟩

theorem faults_daysRemaining {validSince : NaiveDateTime} {days : Int} {f : Int → Handler β}
    (next : ∀ now left, Faults config req (readClock now :: h) (f left)) :
    Faults config req h ((liftM (daysRemaining validSince days) : Handler Int) >>= f) := by
  unfold daysRemaining
  rw [lift_bind, bind_assoc]
  exact faults_utcNow fun now => next now _

theorem faults_encryptForClient {stored : String} {identity : Identity} {f : String → Handler β}
    (next : ∀ nonce sent, Faults config req (drewNonce nonce :: h) (f sent)) :
    Faults config req h
      ((liftM (encryptForClient stored identity config) : Handler String) >>= f) := by
  unfold encryptForClient
  simp only [lift_bind, lift_pure, lift_attempt, bind_assoc, pure_bind]
  refine faults_attempt (fun _ _ => .stored) fun plain opened => ?_
  refine faults_attempt (fun _ _ => .stored) fun key derived => ?_
  exact faults_encrypt fun nonce blob => next nonce _

theorem faults_decryptFromClient {text uuid : String} {identity : Identity} {f : Bytes → Handler β}
    (found : Found h identity uuid) (sent : text ∈ req.sealedFields)
    (next : ∀ plain, Faults config req h (f plain)) :
    Faults config req h
      ((liftM (decryptFromClient text identity config) : Handler Bytes) >>= f) := by
  unfold decryptFromClient
  simp only [lift_bind, lift_okOr, lift_attempt, bind_assoc]
  refine faults_okOr (by decide) fun blob decoded => ?_
  refine faults_attempt (fun _ _ => .stored) fun key derived => ?_
  exact faults_attempt (fun e failed => .field found sent decoded derived failed) fun plain _ =>
    next plain

theorem faults_validateAuth {headers : HeaderMap} {ip : String} {f : Identity → Handler β}
    (next : ∀ h identity, Found h identity identity.uuid → Faults config req h (f identity)) :
    Faults config req [] (validateAuth headers ip >>= f) := by
  unfold validateAuth
  simp only [bind_assoc, pure_bind]
  refine faults_okOr (by decide) fun token header => ?_
  refine faults_stateConn fun pool conn => ?_
  refine faults_sql trivial fun found => ?_
  refine faults_okOr (by decide) fun identity present => ?_
  subst present
  refine faults_refuseIf (by decide) ?_
  refine faults_refuseIf (by decide) ?_
  refine faults_okOr (by decide) fun user linked => ?_
  refine faults_sql trivial fun found => ?_
  refine faults_okOr (by decide) fun active present => ?_
  refine faults_refuseIf (by decide) ?_
  exact next _ identity (Found.cons _ (.byToken List.mem_cons_self))

theorem faults_admin {headers : HeaderMap} {addr : IpAddr} {f : Unit → Handler β}
    (checked : req.admin = some (headers, addr)) (next : Faults config req h (f ())) :
    Faults config req h (attempt .request (checkAdmin headers addr config) >>= f) :=
  faults_attempt (fun _ failed => .admin checked failed) fun _ _ => next

theorem faults_map {p : Handler α} {f : α → β} (spec : Faults config req h p) :
    Faults config req h (f <$> p) := Fallible.spec_map.mpr spec

/-! ## Devices -/

theorem faults_greet {ip : String} {body : GreetRequest} :
    Faults config (.greet ip body) [] (greetHandler config ip body) := by
  unfold greetHandler Identity.create
  refine faults_stateConn fun pool conn => ?_
  refine faults_okOr (by decide) fun key decoded => ?_
  refine faults_refuseIf (by decide) ?_
  refine faults_sql trivial fun existing => ?_
  refine faults_refuseIf (by decide) ?_
  rw [Faults, Fallible.spec_bind, spec_generateIdentityKeys]
  refine ⟨trivial, fun random => ?_⟩
  refine faults_newUuid fun uuid => ?_
  refine faults_encrypt fun nonce blob => ?_
  refine spec_inspected (fun e => ?_) fun row => trivial
  cases e with
  | notFound => exact .statement rfl trivial
  | databaseError kind message =>
    cases kind with
    | uniqueViolation => exact .refusal (by decide)
    | foreignKeyViolation => exact .statement rfl trivial
    | unknown => exact .statement rfl trivial

theorem faults_decodeRequest {conn : Conn} {ip : String} {body : SignRequest}
    {f : Identity × String × Bytes → Handler β} (fields : req.sealedFields = [body.name, body.ehlo])
    (next : ∀ identity name ehlo, Faults config req
      (answered conn (.identityFindByIp ip) (some identity) :: h) (f (identity, name, ehlo))) :
    Faults config req h (decodeRequest config conn ip body >>= f) := by
  unfold decodeRequest
  simp only [bind_assoc, pure_bind]
  refine faults_sql trivial fun found => ?_
  refine faults_okOr (by decide) fun identity present => ?_
  subst present
  have found : Found (answered conn (.identityFindByIp ip) (some identity) :: h) identity
      identity.uuid := .byIp List.mem_cons_self
  refine faults_attempt (fun _ _ => .stored) fun key derived => ?_
  refine faults_okOr (by decide) fun nameBytes nameHex => ?_
  refine faults_okOr (by decide) fun ehloBytes ehloHex => ?_
  refine faults_attempt (fun e failed => ?_) fun nameText _ => ?_
  · exact .field found (by simp [fields]) nameHex derived failed
  refine faults_attempt (fun e failed => ?_) fun ehlo _ => ?_
  · exact .field found (by simp [fields]) ehloHex derived failed
  exact faults_okOr (by decide) fun name utf8 => next identity name ehlo

omit [Crypto] [Archive] in
theorem validateLength_client {name field : String} {max : Nat} {e : AppError}
    (failed : validateLength name field max = .error e) : e.status < 500 := by
  unfold validateLength at failed
  split at failed
  · cases failed
    show 400 < 500
    omega
  · cases failed

omit [Crypto] [Archive] in
theorem validateName_client {name : String} {e : AppError} (failed : validateName name = .error e) :
    e.status < 500 := by
  unfold validateName at failed
  split at failed
  · cases failed
    decide
  · exact validateLength_client failed

theorem faults_signUp {ip : String} {body : SignRequest} :
    Faults config (.signUp ip body) [] (signUpHandler config ip body) := by
  unfold signUpHandler
  refine faults_stateConn fun pool conn => ?_
  refine faults_decodeRequest rfl fun identity name ehlo => ?_
  refine faults_attempt (fun e failed => .refusal (validateName_client failed)) fun _ _ => ?_
  refine faults_encrypt fun nonce blob => ?_
  rw [Faults, Fallible.spec_bind, spec_transaction]
  refine ⟨trivial, fun done => trivial, fun e => ?_⟩
  exact .transaction rfl (.cons _ (.byIp List.mem_cons_self))

theorem faults_signIn {ip : String} {body : SignRequest} :
    Faults config (.signIn ip body) [] (signInHandler config ip body) := by
  unfold signInHandler
  refine faults_stateConn fun pool conn => ?_
  refine faults_decodeRequest rfl fun identity name ehlo => ?_
  refine faults_sql trivial fun found => ?_
  refine faults_okOr (by decide) fun user present => ?_
  refine faults_refuseIf (by decide) ?_
  refine faults_attempt (fun _ _ => .stored) fun stored opened => ?_
  refine faults_refuseIf (by decide) ?_
  unfold linkDevice
  simp only [lift_bind]
  refine faults_newUuid fun token => ?_
  refine faults_identityUpdate ⟨identity, ?_⟩ fun now row => trivial
  exact .cons _ (.cons _ (.byIp List.mem_cons_self))

theorem faults_refresh {ip : String} {body : TokenRequest} :
    Faults config (.refresh ip body) [] (refreshHandler config ip body) := by
  unfold refreshHandler
  refine faults_stateConn fun pool conn => ?_
  refine faults_sql trivial fun found => ?_
  refine faults_okOr (by decide) fun identity present => ?_
  subst present
  refine faults_attempt (fun _ _ => .stored) fun key derived => ?_
  refine faults_okOr (by decide) fun tokenBytes tokenHex => ?_
  refine faults_okOr (by decide) fun ehloBytes ehloHex => ?_
  refine faults_attempt (fun e failed => ?_) fun token _ => ?_
  · exact .field (.byIp List.mem_cons_self) List.mem_cons_self tokenHex derived failed
  refine faults_attempt (fun e failed => ?_) fun ehlo _ => ?_
  · exact .field (.byIp List.mem_cons_self) (List.mem_cons_of_mem _ List.mem_cons_self) ehloHex
      derived failed
  refine faults_okOr (by decide) fun old utf8 => ?_
  refine faults_refuseIf (by decide) ?_
  refine faults_okOr (by decide) fun user linked => ?_
  refine faults_sql trivial fun found => ?_
  refine faults_okOr (by decide) fun active present => ?_
  refine faults_refuseIf (by decide) ?_
  refine faults_attempt (fun _ _ => .stored) fun stored opened => ?_
  refine faults_refuseIf (by decide) ?_
  refine faults_newUuid fun new => ?_
  refine faults_identityUpdate ⟨identity, ?_⟩ fun now row => trivial
  exact .cons _ (.cons _ (.byIp List.mem_cons_self))

theorem faults_resign {ip : String} {body : TokenRequest} :
    Faults config (.resign ip body) [] (resignHandler config ip body) := by
  unfold resignHandler
  refine faults_stateConn fun pool conn => ?_
  refine faults_okOr (by decide) fun tokenBytes tokenHex => ?_
  refine faults_okOr (by decide) fun token utf8 => ?_
  refine faults_sql trivial fun found => ?_
  refine faults_okOr (by decide) fun identity present => ?_
  subst present
  refine faults_attempt (fun _ _ => .stored) fun key derived => ?_
  refine faults_okOr (by decide) fun ehloBytes ehloHex => ?_
  refine faults_attempt (fun e failed => ?_) fun ehlo _ => ?_
  · exact .field (.byToken List.mem_cons_self) List.mem_cons_self ehloHex derived failed
  refine faults_okOr (by decide) fun user linked => ?_
  refine faults_sql trivial fun found => ?_
  refine faults_okOr (by decide) fun active present => ?_
  refine faults_refuseIf (by decide) ?_
  refine faults_attempt (fun _ _ => .stored) fun stored opened => ?_
  refine faults_refuseIf (by decide) ?_
  refine faults_identityUpdate ⟨identity, ?_⟩ fun now row => trivial
  exact .cons _ (.byToken List.mem_cons_self)

theorem faults_verify {headers : HeaderMap} {ip : String} :
    Faults config (.verify headers ip) [] (verifyHandler headers ip) := by
  unfold verifyHandler
  exact faults_validateAuth fun h identity found => trivial

/-! ## Passwords and groups -/

omit [Crypto] [Archive] in
theorem checkLengths_client {name extra : Option String} {e : AppError}
    (failed : checkLengths name extra = .error e) : e.status < 500 := by
  unfold checkLengths at failed
  cases named : validateLength "password name" (name.getD "") 256 with
  | error e' =>
    rw [named] at failed
    obtain rfl := Except.error.inj failed
    exact validateLength_client named
  | ok _ =>
    rw [named] at failed
    cases extra with
    | none => cases failed
    | some extra => exact validateLength_client failed

theorem faults_listEntries {identity : Identity} {expired : Bool} {rows : List Password}
    {skip take : Nat} : Faults config req h
      (liftM (listEntries config identity expired rows skip take) : Handler _) := by
  induction rows generalizing h skip take with
  | nil =>
    unfold listEntries
    exact trivial
  | cons p rest ih =>
    cases take with
    | zero =>
      unfold listEntries
      exact trivial
    | succ take =>
      unfold listEntries isExpired
      simp only [lift_bind, bind_assoc]
      refine faults_daysRemaining fun now left => ?_
      simp only [lift_pure, pure_bind]
      split
      · cases skip with
        | succ skip => exact ih
        | zero =>
          simp only [lift_bind]
          refine faults_encryptForClient fun nonce sent => ?_
          cases expired with
          | true =>
            simp only [if_true, lift_bind]
            exact Fallible.spec_bind.mpr (Fallible.spec_mono (fun h entries _ => trivial) ih)
          | false =>
            simp only [Bool.false_eq_true, if_false, lift_bind]
            refine faults_daysRemaining fun now left => ?_
            exact Fallible.spec_bind.mpr (Fallible.spec_mono (fun h entries _ => trivial) ih)
      · exact ih

theorem faults_pwdList {headers : HeaderMap} {ip : String} {params : ListParams} :
    Faults config (.pwdList headers ip params) [] (listHandler config headers ip params) := by
  unfold listHandler
  refine faults_validateAuth fun h identity found => ?_
  refine faults_okOr (by decide) fun user linked => ?_
  refine faults_stateConn fun pool conn => ?_
  refine faults_sql trivial fun groups => ?_
  refine faults_sql trivial fun rows => ?_
  exact faults_listEntries

theorem faults_pwdCreate {headers : HeaderMap} {ip : String} {body : CreatePasswordRequest} :
    Faults config (.pwdCreate headers ip body) [] (createHandler config headers ip body) := by
  unfold createHandler
  refine faults_attempt (fun e failed => .refusal (checkLengths_client failed)) fun _ _ => ?_
  refine faults_validateAuth fun h identity found => ?_
  refine faults_okOr (by decide) fun user linked => ?_
  refine faults_stateConn fun pool conn => ?_
  refine faults_decryptFromClient (.cons _ (.cons _ found)) List.mem_cons_self fun plain => ?_
  refine faults_encrypt fun nonce blob => ?_
  refine faults_sql trivial fun target => ?_
  refine faults_okOr (by decide) fun group present => ?_
  refine faults_refuseIf (by decide) ?_
  refine faults_newUuid fun uuid => ?_
  refine faults_utcNow fun now => ?_
  refine faults_sql trivial fun row => ?_
  refine faults_encryptForClient fun nonce sent => ?_
  exact faults_daysRemaining fun now left => trivial

theorem faults_pwdUpdate {headers : HeaderMap} {ip : String} {uuid : Uuid}
    {body : UpdatePasswordRequest} :
    Faults config (.pwdUpdate headers ip uuid body) []
      (updateHandler config headers ip uuid body) := by
  unfold updateHandler
  refine faults_attempt (fun e failed => .refusal (checkLengths_client failed)) fun _ _ => ?_
  refine faults_validateAuth fun h identity found => ?_
  refine faults_okOr (by decide) fun user linked => ?_
  refine faults_stateConn fun pool conn => ?_
  refine faults_sql trivial fun row => ?_
  refine faults_okOr (by decide) fun existing present => ?_
  refine faults_sql trivial fun row => ?_
  refine faults_okOr (by decide) fun group present => ?_
  refine faults_refuseIf (by decide) ?_
  refine faults_sql trivial fun row => ?_
  refine faults_okOr (by decide) fun target present => ?_
  refine faults_refuseIf (by decide) ?_
  refine faults_decryptFromClient (found.mono fun e member => by simp [member]) List.mem_cons_self
    fun plain => ?_
  refine faults_encrypt fun nonce blob => ?_
  unfold Password.update
  simp only [lift_bind, bind_assoc]
  refine faults_utcNow fun now => ?_
  exact faults_sql trivial fun row => trivial

theorem faults_pwdGet {headers : HeaderMap} {ip : String} {uuid : Uuid} :
    Faults config (.pwdGet headers ip uuid) [] (getHandler config headers ip uuid) := by
  unfold getHandler
  refine faults_validateAuth fun h identity found => ?_
  refine faults_okOr (by decide) fun user linked => ?_
  refine faults_stateConn fun pool conn => ?_
  refine faults_sql trivial fun row => ?_
  refine faults_okOr (by decide) fun password present => ?_
  refine faults_sql trivial fun row => ?_
  refine faults_okOr (by decide) fun group present => ?_
  refine faults_refuseIf (by decide) ?_
  refine faults_encryptForClient fun nonce sent => ?_
  exact faults_daysRemaining fun now left => trivial

theorem faults_groupCreate {headers : HeaderMap} {ip : String} {body : CreateGroupRequest} :
    Faults config (.groupCreate headers ip body) [] (groupCreateHandler headers ip body) := by
  unfold groupCreateHandler
  refine faults_attempt (fun e failed => .refusal (validateLength_client failed)) fun _ _ => ?_
  refine faults_validateAuth fun h identity found => ?_
  refine faults_okOr (by decide) fun user linked => ?_
  refine faults_stateConn fun pool conn => ?_
  refine faults_newUuid fun uuid => ?_
  exact faults_sql trivial fun row => trivial

theorem faults_groupList {headers : HeaderMap} {ip : String} :
    Faults config (.groupList headers ip) [] (groupListHandler headers ip) := by
  unfold groupListHandler
  refine faults_validateAuth fun h identity found => ?_
  refine faults_okOr (by decide) fun user linked => ?_
  refine faults_stateConn fun pool conn => ?_
  exact faults_sql trivial fun groups => trivial

/-! ## Administration -/

theorem faults_setConfirm {uuid : String} {confirmed : Bool} :
    Faults config req h (setConfirm uuid confirmed) := by
  unfold setConfirm
  refine faults_stateConn fun pool conn => ?_
  refine faults_sql trivial fun found => ?_
  refine faults_okOr (by decide) fun identity present => ?_
  subst present
  exact faults_identityUpdate ⟨identity, .byUuid List.mem_cons_self⟩ fun now row => trivial

theorem faults_adminApprove {headers : HeaderMap} {addr : IpAddr} {uuid : Uuid} :
    Faults config (.adminApprove headers addr uuid) []
      (approveHandler config headers addr uuid) := by
  unfold approveHandler
  exact faults_admin rfl faults_setConfirm

theorem faults_adminToggleIdentity {headers : HeaderMap} {addr : IpAddr} {uuid : Uuid}
    {action : String} : Faults config (.adminToggleIdentity headers addr uuid action) []
      (toggleIdentity config headers addr uuid action) := by
  unfold toggleIdentity
  refine faults_admin rfl ?_
  split
  · exact faults_setConfirm
  · exact faults_setConfirm
  · exact .refusal (by decide)

theorem faults_adminDelete {headers : HeaderMap} {addr : IpAddr} {uuid : Uuid} :
    Faults config (.adminDelete headers addr uuid) []
      (deleteIdentity config headers addr uuid) := by
  unfold deleteIdentity
  refine faults_admin rfl ?_
  refine faults_stateConn fun pool conn => ?_
  refine faults_sql trivial fun found => ?_
  refine faults_okOr (by decide) fun identity present => ?_
  exact faults_sql trivial fun count => trivial

theorem faults_adminToggleUser {headers : HeaderMap} {addr : IpAddr} {uuid : Uuid}
    {action : String} : Faults config (.adminToggleUser headers addr uuid action) []
      (toggleUser config headers addr uuid action) := by
  have toggle : ∀ isDeleted h, Faults config (.adminToggleUser headers addr uuid action) h (do
        let conn ← stateConn
        let _ ← okOr (← User.findByUuid conn uuid.toString) (.notFound "user not found")
        let _ ← User.update conn uuid.toString { isDeleted := some isDeleted, extra := none }) := by
    intro isDeleted h
    refine faults_stateConn fun pool conn => ?_
    refine faults_sql trivial fun found => ?_
    refine faults_okOr (by decide) fun user present => ?_
    subst present
    unfold User.update
    simp only [lift_bind, bind_assoc]
    refine faults_utcNow fun now => ?_
    exact faults_sql ⟨conn, user, by simp⟩ fun row => trivial
  unfold toggleUser
  refine faults_admin rfl ?_
  split
  · exact toggle true []
  · exact toggle false []
  · exact .refusal (by decide)

theorem faults_adminPending {headers : HeaderMap} {addr : IpAddr} :
    Faults config (.adminPending headers addr) [] (pendingHandler config headers addr) := by
  unfold pendingHandler
  refine faults_admin rfl ?_
  refine faults_stateConn fun pool conn => ?_
  exact faults_sql trivial fun found => trivial

theorem faults_adminIdentities {headers : HeaderMap} {addr : IpAddr} :
    Faults config (.adminIdentities headers addr) [] (listIdentities config headers addr) := by
  unfold listIdentities
  refine faults_admin rfl ?_
  refine faults_stateConn fun pool conn => ?_
  exact faults_sql trivial fun found => trivial

theorem faults_adminUsers {headers : HeaderMap} {addr : IpAddr} :
    Faults config (.adminUsers headers addr) [] (listUsers config headers addr) := by
  unfold listUsers
  refine faults_admin rfl ?_
  refine faults_stateConn fun pool conn => ?_
  refine faults_sql trivial fun users => ?_
  exact faults_sql trivial fun identities => trivial

theorem faults_adminExport {headers : HeaderMap} {addr : IpAddr} :
    Faults config (.adminExport headers addr) []
      (liftM (exportHandler config headers addr) : Handler Bytes) := by
  unfold exportHandler
  simp only [lift_file_bind]
  refine Fallible.spec_bind.mpr ?_
  cases checked : checkAdmin headers addr config with
  | error e => exact .admin rfl checked
  | ok _ =>
    refine Fallible.spec_bind.mpr ⟨trivial, fun opened => ?_⟩
    cases opened with
    | error message => exact .openFile List.mem_cons_self
    | ok _ =>
      refine Fallible.spec_bind.mpr ⟨trivial, fun content => ?_⟩
      cases content with
      | error message => exact .readFile List.mem_cons_self
      | ok dbData =>
        refine Fallible.spec_bind.mpr ⟨trivial, fun now => ?_⟩
        change Faults config (.adminExport headers addr) _ (liftM (_ : Files Bytes) : Handler Bytes)
        split
        · trivial
        · rename_i message failed
          exact .pack (by simp) failed

/-! ## Every request -/

theorem serve_faults (config : Config) (req : Request) : Faults config req [] (serve config req) := by
  cases req with
  | greet ip body => exact faults_map faults_greet
  | signUp ip body => exact faults_map faults_signUp
  | signIn ip body => exact faults_map faults_signIn
  | refresh ip body => exact faults_map faults_refresh
  | resign ip body => exact faults_map faults_resign
  | verify headers ip => exact faults_map faults_verify
  | pwdList headers ip params => exact faults_map faults_pwdList
  | pwdCreate headers ip body => exact faults_map faults_pwdCreate
  | pwdUpdate headers ip uuid body => exact faults_map faults_pwdUpdate
  | pwdGet headers ip uuid => exact faults_map faults_pwdGet
  | groupCreate headers ip body => exact faults_map faults_groupCreate
  | groupList headers ip => exact faults_map faults_groupList
  | adminPending headers addr => exact faults_map faults_adminPending
  | adminApprove headers addr uuid => exact faults_map faults_adminApprove
  | adminIdentities headers addr => exact faults_map faults_adminIdentities
  | adminDelete headers addr uuid => exact faults_map faults_adminDelete
  | adminToggleIdentity headers addr uuid action => exact faults_map faults_adminToggleIdentity
  | adminUsers headers addr => exact faults_map faults_adminUsers
  | adminToggleUser headers addr uuid action => exact faults_map faults_adminToggleUser
  | adminExport headers addr => exact faults_map faults_adminExport

end

end PasswordManager
