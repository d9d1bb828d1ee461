import PasswordManager.Server.Backend

/-!
# Ordinary requests

No request but an import writes a file, takes the pool's write lock or replaces the pool, and a
request takes its connections only from pools that it has cloned.
-/

namespace PasswordManager
open Interaction

/-- What a request other than an import may do next. -/
def Usual (h : History Action.Answer) : Action → Prop
  | .file (.poolGet pool) => clonedPool pool ∈ h
  | .file .clonePool | .file .now | .file (.openFile _) | .file .readToEnd => True
  | .file _ => False
  | _ => True

def Ordinary {α : Type} (p : Handler α) : Prop :=
  ∀ h, Fallible.Spec Usual (fun _ _ => True) (fun _ _ => True) h p

section
variable {α β : Type}

theorem ordinary_pure {v : α} : Ordinary (pure v) := fun _ => trivial

theorem ordinary_fail {origin : Origin} {error : AppError} : Ordinary (fail origin error : Handler α) :=
  fun _ => trivial

theorem ordinary_bind {p : Handler α} {f : α → Handler β} (first : Ordinary p)
    (next : ∀ v, Ordinary (f v)) : Ordinary (p >>= f) := by
  intro h
  rw [Fallible.spec_bind]
  exact Fallible.spec_mono (fun h v _ => next v h) (first h)

theorem ordinary_map {p : Handler α} {f : α → β} (spec : Ordinary p) : Ordinary (f <$> p) := by
  rw [← bind_pure_comp]
  exact ordinary_bind spec fun _ => ordinary_pure

theorem ordinary_attempt {origin : Origin} {r : Except AppError α} :
    Ordinary (attempt origin r) := by
  cases r with
  | ok v => exact ordinary_pure
  | error e => exact ordinary_fail

theorem ordinary_okOr {value : Option α} {error : AppError} : Ordinary (okOr value error) := by
  cases value with
  | some v => exact ordinary_pure
  | none => exact ordinary_fail

theorem ordinary_refuseIf {condition : Prop} [Decidable condition] {error : AppError} :
    Ordinary (refuseIf condition error) := by
  unfold refuseIf
  split
  · exact ordinary_fail
  · exact ordinary_pure

theorem ordinary_domain (p : Domain α) : Ordinary (liftM p) := by
  intro h
  refine Prog.spec_embed (fun _ => True) [] (fun _ _ _ _ => trivial) (fun _ _ _ => trivial) ?_ trivial
  refine Prog.spec_mono (fun _ _ allowed => allowed) (fun _ r _ _ _ => ?_) (Prog.spec_trivial p.run)
  cases r <;> trivial

theorem ordinary_transaction [Crypto] {conn : Conn} {t : SignUpTransaction} :
    Ordinary (transaction conn t) := by
  intro h
  rw [spec_transaction]
  exact ⟨trivial, fun _ => trivial, fun _ => trivial⟩

theorem ordinary_stateConn : Ordinary (liftM stateConn) := by
  intro h
  rw [spec_stateConn]
  exact ⟨trivial, fun pool => ⟨List.mem_cons_self, fun _ => trivial, fun _ => trivial⟩⟩

end

/-! ## The handlers -/

variable {config : Config} {headers : HeaderMap} {ip : String} {addr : IpAddr} {uuid : Uuid}

section
variable [Crypto]

theorem ordinary_validateAuth : Ordinary (validateAuth headers ip) := by
  refine ordinary_bind ordinary_okOr fun deviceToken => ?_
  refine ordinary_bind ordinary_stateConn fun conn => ?_
  refine ordinary_bind (ordinary_domain _) fun found => ?_
  refine ordinary_bind ordinary_okOr fun identity => ?_
  refine ordinary_bind ordinary_refuseIf fun _ => ?_
  refine ordinary_bind ordinary_refuseIf fun _ => ?_
  refine ordinary_bind ordinary_okOr fun userId => ?_
  refine ordinary_bind (ordinary_domain _) fun owner => ?_
  refine ordinary_bind ordinary_okOr fun user => ?_
  exact ordinary_bind ordinary_refuseIf fun _ => ordinary_pure

theorem ordinary_decodeRequest {conn : Conn} {body : SignRequest} :
    Ordinary (decodeRequest config conn ip body) := by
  refine ordinary_bind (ordinary_domain _) fun found => ?_
  refine ordinary_bind ordinary_okOr fun identity => ?_
  refine ordinary_bind ordinary_attempt fun sharedKey => ?_
  refine ordinary_bind ordinary_okOr fun nameBytes => ?_
  refine ordinary_bind ordinary_okOr fun ehloBytes => ?_
  refine ordinary_bind ordinary_attempt fun decryptedName => ?_
  refine ordinary_bind ordinary_attempt fun decryptedEhlo => ?_
  exact ordinary_bind ordinary_okOr fun name => ordinary_pure

theorem ordinary_greet {body : GreetRequest} : Ordinary (greetHandler config ip body) := by
  refine ordinary_bind ordinary_stateConn fun conn => ?_
  refine ordinary_bind ordinary_okOr fun key => ?_
  refine ordinary_bind ordinary_refuseIf fun _ => ?_
  refine ordinary_bind (ordinary_domain _) fun found => ?_
  refine ordinary_bind ordinary_refuseIf fun _ => ?_
  refine ordinary_bind (ordinary_domain _) fun keys => ?_
  refine ordinary_bind (ordinary_domain _) fun uuid => ?_
  refine ordinary_bind (ordinary_domain _) fun blob => ?_
  refine ordinary_bind (ordinary_domain _) fun stored => ?_
  split
  · exact ordinary_pure
  · exact ordinary_fail
  · exact ordinary_fail

theorem ordinary_signUp {body : SignRequest} : Ordinary (signUpHandler config ip body) := by
  refine ordinary_bind ordinary_stateConn fun conn => ?_
  refine ordinary_bind ordinary_decodeRequest fun ⟨identity, name, ehlo⟩ => ?_
  refine ordinary_bind ordinary_attempt fun _ => ?_
  refine ordinary_bind (ordinary_domain _) fun blob => ?_
  exact ordinary_bind ordinary_transaction fun done => ordinary_pure

theorem ordinary_signIn {body : SignRequest} : Ordinary (signInHandler config ip body) := by
  refine ordinary_bind ordinary_stateConn fun conn => ?_
  refine ordinary_bind ordinary_decodeRequest fun ⟨identity, name, ehlo⟩ => ?_
  refine ordinary_bind (ordinary_domain _) fun found => ?_
  refine ordinary_bind ordinary_okOr fun user => ?_
  refine ordinary_bind ordinary_refuseIf fun _ => ?_
  refine ordinary_bind ordinary_attempt fun stored => ?_
  exact ordinary_bind ordinary_refuseIf fun _ => ordinary_domain _

/-- `/refresh` and `/re-sign` end alike: the device's user must know the ehlo. -/
theorem ordinary_proof {conn : Conn} {identity : Identity} {ehlo : Bytes} {β : Type} {f : Handler β}
    (next : Ordinary f) :
    Ordinary (do
      let userId ← okOr identity.userId unauthorized
      let user ← okOr (← User.findByUuid conn userId) unauthorized
      refuseIf (user.isDeleted = true) unauthorized
      let decryptedStoredEhlo ← attempt .stored (openEhlo user config)
      refuseIf (ehlo ≠ decryptedStoredEhlo) unauthorized
      f) := by
  refine ordinary_bind ordinary_okOr fun userId => ?_
  refine ordinary_bind (ordinary_domain _) fun found => ?_
  refine ordinary_bind ordinary_okOr fun user => ?_
  refine ordinary_bind ordinary_refuseIf fun _ => ?_
  refine ordinary_bind ordinary_attempt fun stored => ?_
  exact ordinary_bind ordinary_refuseIf fun _ => next

theorem ordinary_refresh {body : TokenRequest} : Ordinary (refreshHandler config ip body) := by
  refine ordinary_bind ordinary_stateConn fun conn => ?_
  refine ordinary_bind (ordinary_domain _) fun found => ?_
  refine ordinary_bind ordinary_okOr fun identity => ?_
  refine ordinary_bind ordinary_attempt fun sharedKey => ?_
  refine ordinary_bind ordinary_okOr fun tokenBytes => ?_
  refine ordinary_bind ordinary_okOr fun ehloBytes => ?_
  refine ordinary_bind ordinary_attempt fun token => ?_
  refine ordinary_bind ordinary_attempt fun ehlo => ?_
  refine ordinary_bind ordinary_okOr fun text => ?_
  refine ordinary_bind ordinary_refuseIf fun _ => ordinary_proof ?_
  refine ordinary_bind (ordinary_domain _) fun newToken => ?_
  exact ordinary_bind (ordinary_domain _) fun row => ordinary_pure

theorem ordinary_resign {body : TokenRequest} : Ordinary (resignHandler config ip body) := by
  refine ordinary_bind ordinary_stateConn fun conn => ?_
  refine ordinary_bind ordinary_okOr fun tokenBytes => ?_
  refine ordinary_bind ordinary_okOr fun text => ?_
  refine ordinary_bind (ordinary_domain _) fun found => ?_
  refine ordinary_bind ordinary_okOr fun identity => ?_
  refine ordinary_bind ordinary_attempt fun sharedKey => ?_
  refine ordinary_bind ordinary_okOr fun ehloBytes => ?_
  refine ordinary_bind ordinary_attempt fun ehlo => ordinary_proof ?_
  exact ordinary_bind (ordinary_domain _) fun row => ordinary_pure

/-- The protected endpoints begin alike. -/
theorem ordinary_session {β : Type} {f : Identity → String → Conn → Handler β}
    (next : ∀ identity userId conn, Ordinary (f identity userId conn)) :
    Ordinary (do
      let identity ← validateAuth headers ip
      let userId ← okOr identity.userId unauthorized
      let conn ← stateConn
      f identity userId conn) := by
  refine ordinary_bind ordinary_validateAuth fun identity => ?_
  refine ordinary_bind ordinary_okOr fun userId => ?_
  exact ordinary_bind ordinary_stateConn fun conn => next identity userId conn

theorem ordinary_list {params : ListParams} : Ordinary (listHandler config headers ip params) := by
  refine ordinary_session fun identity userId conn => ?_
  refine ordinary_bind (ordinary_domain _) fun groups => ?_
  exact ordinary_bind (ordinary_domain _) fun passwords => ordinary_domain _

theorem ordinary_create {body : CreatePasswordRequest} :
    Ordinary (createHandler config headers ip body) := by
  refine ordinary_bind ordinary_attempt fun _ => ordinary_session fun identity userId conn => ?_
  refine ordinary_bind (ordinary_domain _) fun plain => ?_
  refine ordinary_bind (ordinary_domain _) fun blob => ?_
  refine ordinary_bind (ordinary_domain _) fun found => ?_
  refine ordinary_bind ordinary_okOr fun group => ?_
  refine ordinary_bind ordinary_refuseIf fun _ => ?_
  refine ordinary_bind (ordinary_domain _) fun uuid => ?_
  refine ordinary_bind (ordinary_domain _) fun now => ?_
  refine ordinary_bind (ordinary_domain _) fun password => ?_
  refine ordinary_bind (ordinary_domain _) fun pwd => ?_
  exact ordinary_bind (ordinary_domain _) fun expires => ordinary_pure

theorem ordinary_update {body : UpdatePasswordRequest} :
    Ordinary (updateHandler config headers ip uuid body) := by
  refine ordinary_bind ordinary_attempt fun _ => ordinary_session fun identity userId conn => ?_
  refine ordinary_bind (ordinary_domain _) fun found => ?_
  refine ordinary_bind ordinary_okOr fun existing => ?_
  refine ordinary_bind (ordinary_domain _) fun current => ?_
  refine ordinary_bind ordinary_okOr fun group => ?_
  refine ordinary_bind ordinary_refuseIf fun _ => ?_
  refine ordinary_bind (ordinary_domain _) fun target => ?_
  refine ordinary_bind ordinary_okOr fun targetGroup => ?_
  refine ordinary_bind ordinary_refuseIf fun _ => ?_
  refine ordinary_bind (ordinary_domain _) fun plain => ?_
  refine ordinary_bind (ordinary_domain _) fun blob => ?_
  exact ordinary_bind (ordinary_domain _) fun row => ordinary_pure

theorem ordinary_get : Ordinary (getHandler config headers ip uuid) := by
  refine ordinary_session fun identity userId conn => ?_
  refine ordinary_bind (ordinary_domain _) fun found => ?_
  refine ordinary_bind ordinary_okOr fun password => ?_
  refine ordinary_bind (ordinary_domain _) fun owner => ?_
  refine ordinary_bind ordinary_okOr fun group => ?_
  refine ordinary_bind ordinary_refuseIf fun _ => ?_
  refine ordinary_bind (ordinary_domain _) fun pwd => ?_
  exact ordinary_bind (ordinary_domain _) fun expires => ordinary_pure

theorem ordinary_groupCreate {body : CreateGroupRequest} :
    Ordinary (groupCreateHandler headers ip body) := by
  refine ordinary_bind ordinary_attempt fun _ => ordinary_session fun identity userId conn => ?_
  refine ordinary_bind (ordinary_domain _) fun uuid => ?_
  exact ordinary_bind (ordinary_domain _) fun group => ordinary_pure

theorem ordinary_groupList : Ordinary (groupListHandler headers ip) := by
  refine ordinary_session fun identity userId conn => ?_
  exact ordinary_bind (ordinary_domain _) fun groups => ordinary_pure

end

theorem ordinary_setConfirm {text : String} {confirmed : Bool} : Ordinary (setConfirm text confirmed) := by
  refine ordinary_bind ordinary_stateConn fun conn => ?_
  refine ordinary_bind (ordinary_domain _) fun found => ?_
  refine ordinary_bind ordinary_okOr fun identity => ?_
  exact ordinary_bind (ordinary_domain _) fun row => ordinary_pure

theorem ordinary_toggleIdentity {action : String} :
    Ordinary (toggleIdentity config headers addr uuid action) := by
  unfold toggleIdentity
  refine ordinary_bind ordinary_attempt fun _ => ?_
  dsimp only
  split
  · exact ordinary_bind ordinary_pure fun _ => ordinary_setConfirm
  · exact ordinary_bind ordinary_pure fun _ => ordinary_setConfirm
  · exact ordinary_bind ordinary_fail fun _ => ordinary_setConfirm

theorem ordinary_toggleUser {action : String} :
    Ordinary (toggleUser config headers addr uuid action) := by
  have toggle : ∀ isDeleted, Ordinary (do
      let conn ← stateConn
      let _ ← okOr (← User.findByUuid conn uuid.toString) (.notFound "user not found")
      let _ ← User.update conn uuid.toString { isDeleted := some isDeleted, extra := none }) := by
    intro isDeleted
    refine ordinary_bind ordinary_stateConn fun conn => ?_
    refine ordinary_bind (ordinary_domain _) fun found => ?_
    refine ordinary_bind ordinary_okOr fun user => ?_
    exact ordinary_bind (ordinary_domain _) fun row => ordinary_pure
  unfold toggleUser
  refine ordinary_bind ordinary_attempt fun _ => ?_
  dsimp only
  split
  · exact ordinary_bind ordinary_pure toggle
  · exact ordinary_bind ordinary_pure toggle
  · exact ordinary_bind ordinary_fail toggle

theorem ordinary_delete : Ordinary (deleteIdentity config headers addr uuid) := by
  refine ordinary_bind ordinary_attempt fun _ => ?_
  refine ordinary_bind ordinary_stateConn fun conn => ?_
  refine ordinary_bind (ordinary_domain _) fun found => ?_
  refine ordinary_bind ordinary_okOr fun identity => ?_
  exact ordinary_bind (ordinary_domain _) fun count => ordinary_pure

/-- The other admin endpoints check the request and take a connection. -/
theorem ordinary_admin {β : Type} {f : Conn → Handler β} (next : ∀ conn, Ordinary (f conn)) :
    Ordinary (do
      attempt .request (checkAdmin headers addr config)
      let conn ← stateConn
      f conn) :=
  ordinary_bind ordinary_attempt fun _ => ordinary_bind ordinary_stateConn next

/-- What export does with files: it only reads the database. -/
def Reading : FileAction → Prop
  | .now | .openFile _ | .readToEnd => True
  | _ => False

theorem ordinary_export [Archive] : Ordinary (liftM (exportHandler config headers addr)) := by
  have reading : Storage.Only Reading (exportHandler config headers addr) := by
    refine Storage.only_bind Storage.only_attempt fun _ => ?_
    refine Storage.only_bind (Storage.only_fileOr (Storage.only_file trivial)) fun _ => ?_
    refine Storage.only_bind (Storage.only_fileOr (Storage.only_file trivial)) fun dbData => ?_
    refine Storage.only_bind (Storage.only_file trivial) fun now h => ?_
    split <;> trivial
  intro h
  refine spec_files (fun h x allowed => ?_) (reading (files h))
  cases x <;> trivial

variable [Crypto] [Archive]

/-- No request of `serve` works on the files or the pool. -/
theorem ordinary_serve (config : Config) (req : Request) : Ordinary (serve config req) := by
  cases req with
  | greet ip body => exact ordinary_map ordinary_greet
  | signUp ip body => exact ordinary_map ordinary_signUp
  | signIn ip body => exact ordinary_map ordinary_signIn
  | refresh ip body => exact ordinary_map ordinary_refresh
  | resign ip body => exact ordinary_map ordinary_resign
  | verify headers ip => exact ordinary_map (ordinary_bind ordinary_validateAuth fun _ => ordinary_pure)
  | pwdList headers ip params => exact ordinary_map ordinary_list
  | pwdCreate headers ip body => exact ordinary_map ordinary_create
  | pwdUpdate headers ip uuid body => exact ordinary_map ordinary_update
  | pwdGet headers ip uuid => exact ordinary_map ordinary_get
  | groupCreate headers ip body => exact ordinary_map ordinary_groupCreate
  | groupList headers ip => exact ordinary_map ordinary_groupList
  | adminPending headers addr =>
    exact ordinary_map (ordinary_admin fun _ => ordinary_bind (ordinary_domain _) fun _ => ordinary_pure)
  | adminApprove headers addr uuid =>
    exact ordinary_map (ordinary_bind ordinary_attempt fun _ => ordinary_setConfirm)
  | adminIdentities headers addr =>
    exact ordinary_map (ordinary_admin fun _ => ordinary_bind (ordinary_domain _) fun _ => ordinary_pure)
  | adminDelete headers addr uuid => exact ordinary_map ordinary_delete
  | adminToggleIdentity headers addr uuid action => exact ordinary_map ordinary_toggleIdentity
  | adminUsers headers addr =>
    exact ordinary_map (ordinary_admin fun _ => ordinary_bind (ordinary_domain _) fun _ =>
      ordinary_bind (ordinary_domain _) fun _ => ordinary_pure)
  | adminToggleUser headers addr uuid action => exact ordinary_map ordinary_toggleUser
  | adminExport headers addr => exact ordinary_map ordinary_export

end PasswordManager
