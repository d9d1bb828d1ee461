import PasswordManager.Interaction.Simulation
import PasswordManager.Server.System

/-!
# The name of the database file

A handler sends its statements over the connection that the pool gave it, and looks at neither. It
acts the same whichever file the server's pool is on; `server` calls that file 0.
-/

namespace PasswordManager
open Interaction

/-- The action names neither a pool nor a connection, and no answer to it does. -/
def Action.nameless : Action → Bool
  | .effect (.sql _ _) | .transaction _ _ => false
  | .effect _ => true
  | .file .now | .file (.openFile _) | .file .readToEnd => true
  | .file _ => false

/-- An action on the database in the file, and the action of `server`. -/
inductive SameAction (file : Nat) : Action → Action → Prop where
  | clonePool : SameAction file (.file .clonePool) (.file .clonePool)
  | poolGet : SameAction file (.file (.poolGet ⟨file⟩)) (.file (.poolGet ⟨0⟩))
  | sql (q : Query) : SameAction file (.effect (.sql ⟨file⟩ q)) (.effect (.sql ⟨0⟩ q))
  | transaction (t : SignUpTransaction) :
      SameAction file (.transaction ⟨file⟩ t) (.transaction ⟨0⟩ t)
  | plain {x : Action} (nameless : x.nameless) : SameAction file x x

inductive SameExchange (file : Nat) : Exchange Action.Answer → Exchange Action.Answer → Prop where
  | clonePool : SameExchange file (clonedPool ⟨file⟩) (clonedPool ⟨0⟩)
  | got : SameExchange file (gotConn ⟨file⟩ (.ok ⟨file⟩)) (gotConn ⟨0⟩ (.ok ⟨0⟩))
  | noConn (message : String) :
      SameExchange file (gotConn ⟨file⟩ (.error message)) (gotConn ⟨0⟩ (.error message))
  | sql (q : Query) (a : Except DbError q.Answer) :
      SameExchange file ⟨.effect (.sql ⟨file⟩ q), a⟩ ⟨.effect (.sql ⟨0⟩ q), a⟩
  | transaction (t : SignUpTransaction) (a : Except Failure (String × String)) :
      SameExchange file ⟨.transaction ⟨file⟩ t, a⟩ ⟨.transaction ⟨0⟩ t, a⟩
  | plain {x : Action} (nameless : x.nameless) (a : x.Answer) : SameExchange file ⟨x, a⟩ ⟨x, a⟩

/-- The handler acts on the database in the file as the other acts on that of `server`. -/
def Homed (file : Nat) {α : Type} (p p' : Handler α) : Prop :=
  Prog.Follows (SameAction file) (SameExchange file) Eq p.run p'.run

section
variable {file : Nat} {α β : Type} {p p' : Handler α} {f f' : α → Handler β}

theorem homed_pure {v : α} : Homed file (pure v) (pure v) := .done rfl

theorem homed_fail {origin : Origin} {error : AppError} :
    Homed file (fail origin error : Handler α) (fail origin error) := .done rfl

theorem homed_bind (first : Homed file p p') (next : ∀ v, Homed file (f v) (f' v)) :
    Homed file (p >>= f) (p' >>= f') := by
  unfold Homed
  rw [ExceptT.run_bind, ExceptT.run_bind]
  refine first.bind fun r r' same => ?_
  subst same
  cases r with
  | ok v => exact next v
  | error e => exact .done rfl

theorem homed_map {g : α → β} (homed : Homed file p p') : Homed file (g <$> p) (g <$> p') := by
  rw [← bind_pure_comp, ← bind_pure_comp]
  exact homed_bind homed fun _ => homed_pure

theorem homed_attempt {origin : Origin} {r : Except AppError α} :
    Homed file (attempt origin r) (attempt origin r) := by
  cases r with
  | ok v => exact homed_pure
  | error e => exact homed_fail

theorem homed_okOr {value : Option α} {error : AppError} :
    Homed file (okOr value error) (okOr value error) := by
  cases value with
  | some v => exact homed_pure
  | none => exact homed_fail

theorem homed_refuseIf {condition : Prop} [Decidable condition] {error : AppError} :
    Homed file (refuseIf condition error) (refuseIf condition error) := by
  unfold refuseIf
  split
  · exact homed_fail
  · exact homed_pure

/-- Every pool that is cloned is on the file, and so is every connection. -/
theorem homed_conn {g g' : Conn → Handler β} (next : Homed file (g ⟨file⟩) (g' ⟨0⟩)) :
    Homed file ((liftM stateConn : Handler Conn) >>= g) (liftM stateConn >>= g') := by
  refine .act .clonePool fun pool pool' same => ?_
  cases same with
  | clonePool =>
    refine .act .poolGet fun r r' same => ?_
    cases same with
    | got => exact next
    | noConn message => exact .done rfl
    | plain nameless => cases nameless
  | plain nameless => cases nameless

theorem homed_query (q : Query) :
    Homed file (liftM (query ⟨file⟩ q) : Handler (Except DbError q.Answer)) (liftM (query ⟨0⟩ q)) := by
  refine .act (.sql q) fun a a' same => ?_
  cases same with
  | sql q a => exact .done rfl
  | plain nameless => cases nameless

theorem homed_sql (q : Query) :
    Homed file (liftM (sql ⟨file⟩ q) : Handler q.Answer) (liftM (sql ⟨0⟩ q)) := by
  unfold sql
  rw [lift_bind, lift_bind]
  refine homed_bind (homed_query q) fun r => ?_
  cases r with
  | ok a => exact homed_pure
  | error e => exact homed_fail

theorem homed_effect {x : Effect} (nameless : Action.nameless (.effect x)) :
    Homed file (liftM (effect x) : Handler x.Answer) (liftM (effect x)) := by
  refine .act (.plain nameless) fun a a' same => ?_
  cases same with
  | sql => cases nameless
  | plain _ a => exact .done rfl

theorem homed_transaction [Crypto] (t : SignUpTransaction) :
    Homed file (transaction ⟨file⟩ t) (transaction ⟨0⟩ t) := by
  refine .act (.transaction t) fun a a' same => ?_
  cases same with
  | transaction t a =>
    cases a with
    | ok done => exact .done rfl
    | error e => exact .done rfl
  | plain nameless => cases nameless

theorem homed_lift {q q' : Domain α} {g g' : α → Domain β}
    (first : Homed file (liftM q) (liftM q')) (next : ∀ v, Homed file (liftM (g v)) (liftM (g' v))) :
    Homed file (liftM (q >>= g) : Handler β) (liftM (q' >>= g')) := by
  rw [lift_bind, lift_bind]
  exact homed_bind first next

theorem homed_now : Homed file (liftM utcNow : Handler NaiveDateTime) (liftM utcNow) := homed_effect rfl

theorem homed_uuid : Homed file (liftM newUuid : Handler String) (liftM newUuid) :=
  homed_lift (homed_effect rfl) fun _ => homed_pure

theorem homed_liftAttempt {origin : Origin} {r : Except AppError α} :
    Homed file (liftM (attempt origin r : Domain α) : Handler α) (liftM (attempt origin r : Domain α)) := by
  rw [lift_attempt]
  exact homed_attempt

theorem homed_identityUpdate {uuid : String} {changes : UpdateIdentity} :
    Homed file (liftM (Identity.update ⟨file⟩ uuid changes)) (liftM (Identity.update ⟨0⟩ uuid changes)) :=
  homed_lift homed_now fun _ => homed_sql _

theorem homed_userUpdate {uuid : String} {changes : UpdateUser} :
    Homed file (liftM (User.update ⟨file⟩ uuid changes)) (liftM (User.update ⟨0⟩ uuid changes)) :=
  homed_lift homed_now fun _ => homed_sql _

theorem homed_passwordUpdate {uuid : String} {changes : UpdatePassword} :
    Homed file (liftM (Password.update ⟨file⟩ uuid changes)) (liftM (Password.update ⟨0⟩ uuid changes)) :=
  homed_lift homed_now fun _ => homed_sql _

theorem homed_daysRemaining {since : NaiveDateTime} {days : Int} :
    Homed file (liftM (daysRemaining since days)) (liftM (daysRemaining since days)) :=
  homed_lift homed_now fun _ => homed_pure

variable [Crypto]

theorem homed_encrypt {data : Bytes} {key : BytesN 32} :
    Homed file (liftM (encryptWithSharedKey data key)) (liftM (encryptWithSharedKey data key)) :=
  homed_lift (homed_effect rfl) fun _ => homed_liftAttempt

theorem homed_keys : Homed file (liftM generateIdentityKeys) (liftM generateIdentityKeys) :=
  homed_lift (homed_effect rfl) fun _ => homed_pure

theorem homed_linkDevice {device user : String} :
    Homed file (liftM (linkDevice ⟨file⟩ device user)) (liftM (linkDevice ⟨0⟩ device user)) :=
  homed_lift homed_uuid fun _ => homed_lift homed_identityUpdate fun _ => homed_pure

variable {config : Config} {identity : Identity}

theorem homed_encryptForClient {text : String} :
    Homed file (liftM (encryptForClient text identity config))
      (liftM (encryptForClient text identity config)) :=
  homed_lift homed_liftAttempt fun _ => homed_lift homed_liftAttempt fun _ =>
    homed_lift homed_encrypt fun _ => homed_pure

theorem homed_decryptFromClient {text : String} :
    Homed file (liftM (decryptFromClient text identity config))
      (liftM (decryptFromClient text identity config)) := by
  refine homed_lift ?_ fun _ => homed_lift homed_liftAttempt fun _ => homed_liftAttempt
  rw [lift_okOr]
  exact homed_okOr

theorem homed_listEntries {expired : Bool} (rows : List Password) (skip take : Nat) :
    Homed file (liftM (listEntries config identity expired rows skip take))
      (liftM (listEntries config identity expired rows skip take)) := by
  induction rows generalizing skip take with
  | nil => exact homed_pure
  | cons p rest ih =>
    cases take with
    | zero => exact homed_pure
    | succ take =>
      unfold listEntries
      refine homed_lift (homed_lift homed_daysRemaining fun _ => homed_pure) fun flag => ?_
      split
      · cases skip with
        | succ skip => exact ih skip (take + 1)
        | zero =>
          refine homed_lift homed_encryptForClient fun pwd => ?_
          dsimp only
          split
          · exact homed_lift homed_pure fun expires =>
              homed_lift (ih 0 take) fun entries => homed_pure
          · exact homed_lift homed_daysRemaining fun expires =>
              homed_lift (ih 0 take) fun entries => homed_pure
      · exact ih skip (take + 1)

end

/-! ## The handlers -/

variable {file : Nat} {config : Config} {headers : HeaderMap} {ip : String} {addr : IpAddr} {uuid : Uuid}

section
variable [Crypto]

theorem homed_validateAuth : Homed file (validateAuth headers ip) (validateAuth headers ip) := by
  refine homed_bind homed_okOr fun deviceToken => ?_
  refine homed_conn (homed_bind (homed_sql _) fun found => ?_)
  refine homed_bind homed_okOr fun identity => ?_
  refine homed_bind homed_refuseIf fun _ => ?_
  refine homed_bind homed_refuseIf fun _ => ?_
  refine homed_bind homed_okOr fun userId => ?_
  refine homed_bind (homed_sql _) fun owner => ?_
  refine homed_bind homed_okOr fun user => ?_
  exact homed_bind homed_refuseIf fun _ => homed_pure

theorem homed_decodeRequest {body : SignRequest} :
    Homed file (decodeRequest config ⟨file⟩ ip body) (decodeRequest config ⟨0⟩ ip body) := by
  refine homed_bind (homed_sql _) fun found => ?_
  refine homed_bind homed_okOr fun identity => ?_
  refine homed_bind homed_attempt fun sharedKey => ?_
  refine homed_bind homed_okOr fun nameBytes => ?_
  refine homed_bind homed_okOr fun ehloBytes => ?_
  refine homed_bind homed_attempt fun decryptedName => ?_
  refine homed_bind homed_attempt fun decryptedEhlo => ?_
  exact homed_bind homed_okOr fun name => homed_pure

theorem homed_greet {body : GreetRequest} :
    Homed file (greetHandler config ip body) (greetHandler config ip body) := by
  refine homed_conn (homed_bind homed_okOr fun key => ?_)
  refine homed_bind homed_refuseIf fun _ => ?_
  refine homed_bind (homed_sql _) fun found => ?_
  refine homed_bind homed_refuseIf fun _ => ?_
  refine homed_bind homed_keys fun keys => ?_
  refine homed_bind homed_uuid fun uuid => ?_
  refine homed_bind homed_encrypt fun blob => ?_
  refine homed_bind (homed_query _) fun stored => ?_
  split
  · exact homed_pure
  · exact homed_fail
  · exact homed_fail

theorem homed_signUp {body : SignRequest} :
    Homed file (signUpHandler config ip body) (signUpHandler config ip body) := by
  refine homed_conn (homed_bind homed_decodeRequest fun decoded => ?_)
  refine homed_bind homed_attempt fun _ => ?_
  refine homed_bind homed_encrypt fun blob => ?_
  exact homed_bind (homed_transaction _) fun done => homed_pure

theorem homed_signIn {body : SignRequest} :
    Homed file (signInHandler config ip body) (signInHandler config ip body) := by
  refine homed_conn (homed_bind homed_decodeRequest fun decoded => ?_)
  refine homed_bind (homed_sql _) fun found => ?_
  refine homed_bind homed_okOr fun user => ?_
  refine homed_bind homed_refuseIf fun _ => ?_
  refine homed_bind homed_attempt fun stored => ?_
  exact homed_bind homed_refuseIf fun _ => homed_linkDevice

/-- `/refresh` and `/re-sign` end alike: the device's user must know the ehlo. -/
theorem homed_proof {identity : Identity} {ehlo : Bytes} {β : Type} {f f' : Handler β}
    (next : Homed file f f') :
    Homed file (do
      let userId ← okOr identity.userId unauthorized
      let user ← okOr (← User.findByUuid ⟨file⟩ userId) unauthorized
      refuseIf (user.isDeleted = true) unauthorized
      let decryptedStoredEhlo ← attempt .stored (openEhlo user config)
      refuseIf (ehlo ≠ decryptedStoredEhlo) unauthorized
      f) (do
      let userId ← okOr identity.userId unauthorized
      let user ← okOr (← User.findByUuid ⟨0⟩ userId) unauthorized
      refuseIf (user.isDeleted = true) unauthorized
      let decryptedStoredEhlo ← attempt .stored (openEhlo user config)
      refuseIf (ehlo ≠ decryptedStoredEhlo) unauthorized
      f') := by
  refine homed_bind homed_okOr fun userId => ?_
  refine homed_bind (homed_sql _) fun found => ?_
  refine homed_bind homed_okOr fun user => ?_
  refine homed_bind homed_refuseIf fun _ => ?_
  refine homed_bind homed_attempt fun stored => ?_
  exact homed_bind homed_refuseIf fun _ => next

theorem homed_refresh {body : TokenRequest} :
    Homed file (refreshHandler config ip body) (refreshHandler config ip body) := by
  refine homed_conn (homed_bind (homed_sql _) fun found => ?_)
  refine homed_bind homed_okOr fun identity => ?_
  refine homed_bind homed_attempt fun sharedKey => ?_
  refine homed_bind homed_okOr fun tokenBytes => ?_
  refine homed_bind homed_okOr fun ehloBytes => ?_
  refine homed_bind homed_attempt fun token => ?_
  refine homed_bind homed_attempt fun ehlo => ?_
  refine homed_bind homed_okOr fun text => ?_
  refine homed_bind homed_refuseIf fun _ => homed_proof ?_
  refine homed_bind homed_uuid fun newToken => ?_
  exact homed_bind homed_identityUpdate fun row => homed_pure

theorem homed_resign {body : TokenRequest} :
    Homed file (resignHandler config ip body) (resignHandler config ip body) := by
  refine homed_conn (homed_bind homed_okOr fun tokenBytes => ?_)
  refine homed_bind homed_okOr fun text => ?_
  refine homed_bind (homed_sql _) fun found => ?_
  refine homed_bind homed_okOr fun identity => ?_
  refine homed_bind homed_attempt fun sharedKey => ?_
  refine homed_bind homed_okOr fun ehloBytes => ?_
  refine homed_bind homed_attempt fun ehlo => homed_proof ?_
  exact homed_bind homed_identityUpdate fun row => homed_pure

/-- The protected endpoints begin alike. -/
theorem homed_session {β : Type} {f : Identity → String → Conn → Handler β}
    (next : ∀ identity userId, Homed file (f identity userId ⟨file⟩) (f identity userId ⟨0⟩)) :
    Homed file (do
      let identity ← validateAuth headers ip
      let userId ← okOr identity.userId unauthorized
      let conn ← stateConn
      f identity userId conn) (do
      let identity ← validateAuth headers ip
      let userId ← okOr identity.userId unauthorized
      let conn ← stateConn
      f identity userId conn) := by
  refine homed_bind homed_validateAuth fun identity => ?_
  refine homed_bind homed_okOr fun userId => ?_
  exact homed_conn (next identity userId)

theorem homed_list {params : ListParams} :
    Homed file (listHandler config headers ip params) (listHandler config headers ip params) := by
  refine homed_session fun identity userId => ?_
  refine homed_bind (homed_sql _) fun groups => ?_
  exact homed_bind (homed_sql _) fun passwords => homed_listEntries _ _ _

theorem homed_create {body : CreatePasswordRequest} :
    Homed file (createHandler config headers ip body) (createHandler config headers ip body) := by
  refine homed_bind homed_attempt fun _ => homed_session fun identity userId => ?_
  refine homed_bind homed_decryptFromClient fun plain => ?_
  refine homed_bind homed_encrypt fun blob => ?_
  refine homed_bind (homed_sql _) fun found => ?_
  refine homed_bind homed_okOr fun group => ?_
  refine homed_bind homed_refuseIf fun _ => ?_
  refine homed_bind homed_uuid fun uuid => ?_
  refine homed_bind homed_now fun now => ?_
  refine homed_bind (homed_sql _) fun password => ?_
  refine homed_bind homed_encryptForClient fun pwd => ?_
  exact homed_bind homed_daysRemaining fun expires => homed_pure

theorem homed_update {body : UpdatePasswordRequest} :
    Homed file (updateHandler config headers ip uuid body) (updateHandler config headers ip uuid body) := by
  refine homed_bind homed_attempt fun _ => homed_session fun identity userId => ?_
  refine homed_bind (homed_sql _) fun found => ?_
  refine homed_bind homed_okOr fun existing => ?_
  refine homed_bind (homed_sql _) fun current => ?_
  refine homed_bind homed_okOr fun group => ?_
  refine homed_bind homed_refuseIf fun _ => ?_
  refine homed_bind (homed_sql _) fun target => ?_
  refine homed_bind homed_okOr fun targetGroup => ?_
  refine homed_bind homed_refuseIf fun _ => ?_
  refine homed_bind homed_decryptFromClient fun plain => ?_
  refine homed_bind homed_encrypt fun blob => ?_
  exact homed_bind homed_passwordUpdate fun row => homed_pure

theorem homed_get : Homed file (getHandler config headers ip uuid) (getHandler config headers ip uuid) := by
  refine homed_session fun identity userId => ?_
  refine homed_bind (homed_sql _) fun found => ?_
  refine homed_bind homed_okOr fun password => ?_
  refine homed_bind (homed_sql _) fun owner => ?_
  refine homed_bind homed_okOr fun group => ?_
  refine homed_bind homed_refuseIf fun _ => ?_
  refine homed_bind homed_encryptForClient fun pwd => ?_
  exact homed_bind homed_daysRemaining fun expires => homed_pure

theorem homed_groupCreate {body : CreateGroupRequest} :
    Homed file (groupCreateHandler headers ip body) (groupCreateHandler headers ip body) := by
  refine homed_bind homed_attempt fun _ => homed_session fun identity userId => ?_
  refine homed_bind homed_uuid fun uuid => ?_
  exact homed_bind (homed_sql _) fun group => homed_pure

theorem homed_groupList : Homed file (groupListHandler headers ip) (groupListHandler headers ip) := by
  refine homed_session fun identity userId => ?_
  exact homed_bind (homed_sql _) fun groups => homed_pure

end

theorem homed_setConfirm {text : String} {confirmed : Bool} :
    Homed file (setConfirm text confirmed) (setConfirm text confirmed) := by
  refine homed_conn (homed_bind (homed_sql _) fun found => ?_)
  refine homed_bind homed_okOr fun identity => ?_
  exact homed_bind homed_identityUpdate fun row => homed_pure

theorem homed_toggleIdentity {action : String} :
    Homed file (toggleIdentity config headers addr uuid action)
      (toggleIdentity config headers addr uuid action) := by
  unfold toggleIdentity
  refine homed_bind homed_attempt fun _ => ?_
  dsimp only
  split
  · exact homed_bind homed_pure fun _ => homed_setConfirm
  · exact homed_bind homed_pure fun _ => homed_setConfirm
  · exact homed_bind homed_fail fun _ => homed_setConfirm

theorem homed_toggleUser {action : String} :
    Homed file (toggleUser config headers addr uuid action)
      (toggleUser config headers addr uuid action) := by
  let toggle : Bool → Handler Unit := fun isDeleted => do
    let conn ← stateConn
    let _ ← okOr (← User.findByUuid conn uuid.toString) (.notFound "user not found")
    let _ ← User.update conn uuid.toString { isDeleted := some isDeleted, extra := none }
  have homed : ∀ isDeleted, Homed file (toggle isDeleted) (toggle isDeleted) := by
    intro isDeleted
    refine homed_conn (homed_bind (homed_sql _) fun found => ?_)
    refine homed_bind homed_okOr fun user => ?_
    exact homed_bind homed_userUpdate fun row => homed_pure
  unfold toggleUser
  refine homed_bind homed_attempt fun _ => ?_
  dsimp only
  split
  · exact homed_bind homed_pure homed
  · exact homed_bind homed_pure homed
  · exact homed_bind homed_fail homed

theorem homed_delete :
    Homed file (deleteIdentity config headers addr uuid) (deleteIdentity config headers addr uuid) := by
  refine homed_bind homed_attempt fun _ => ?_
  refine homed_conn (homed_bind (homed_sql _) fun found => ?_)
  refine homed_bind homed_okOr fun identity => ?_
  exact homed_bind (homed_sql _) fun count => homed_pure

/-- The other admin endpoints check the request and read. -/
theorem homed_admin {β : Type} {q : Query} {g : Conn → q.Answer → Handler β}
    (next : ∀ a, Homed file (g ⟨file⟩ a) (g ⟨0⟩ a)) :
    Homed file (do
      attempt .request (checkAdmin headers addr config)
      let conn ← stateConn
      let a ← sql conn q
      g conn a) (do
      attempt .request (checkAdmin headers addr config)
      let conn ← stateConn
      let a ← sql conn q
      g conn a) :=
  homed_bind homed_attempt fun _ => homed_conn (homed_bind (homed_sql q) next)

theorem homed_file {x : FileAction} (nameless : Action.nameless (.file x)) :
    Homed file (liftM (PasswordManager.file x) : Handler x.Answer) (liftM (PasswordManager.file x)) := by
  refine .act (.plain nameless) fun a a' same => ?_
  cases same with
  | clonePool | got | noConn => cases nameless
  | plain _ a => exact .done rfl

theorem homed_fileOr {α : Type} {error : String → AppError} {p : Files (Except String α)}
    (homed : Homed file (liftM p) (liftM p)) :
    Homed file (liftM (fileOr error p) : Handler α) (liftM (fileOr error p)) := by
  unfold fileOr
  rw [lift_file_bind]
  refine homed_bind homed fun r => ?_
  cases r with
  | ok v => exact homed_pure
  | error message => exact homed_fail

/-- Export reads the file at `database_url`, which the environment of `server` decides. -/
theorem homed_export [Archive] :
    Homed file (liftM (exportHandler config headers addr)) (liftM (exportHandler config headers addr)) := by
  unfold exportHandler
  rw [lift_file_bind]
  refine homed_bind ?_ fun _ => ?_
  · cases checkAdmin headers addr config <;> exact .done rfl
  rw [lift_file_bind]
  refine homed_bind (homed_fileOr (homed_file rfl)) fun _ => ?_
  rw [lift_file_bind]
  refine homed_bind (homed_fileOr (homed_file rfl)) fun dbData => ?_
  rw [lift_file_bind]
  refine homed_bind (homed_file rfl) fun now => ?_
  split
  · exact homed_pure
  · exact homed_fail

variable [Crypto] [Archive]

/-- No request of `serve` looks at the name of the file. -/
theorem homed_serve (config : Config) (req : Request) : Homed file (serve config req) (serve config req) := by
  cases req with
  | greet ip body => exact homed_map homed_greet
  | signUp ip body => exact homed_map homed_signUp
  | signIn ip body => exact homed_map homed_signIn
  | refresh ip body => exact homed_map homed_refresh
  | resign ip body => exact homed_map homed_resign
  | verify headers ip => exact homed_map (homed_bind homed_validateAuth fun _ => homed_pure)
  | pwdList headers ip params => exact homed_map homed_list
  | pwdCreate headers ip body => exact homed_map homed_create
  | pwdUpdate headers ip uuid body => exact homed_map homed_update
  | pwdGet headers ip uuid => exact homed_map homed_get
  | groupCreate headers ip body => exact homed_map homed_groupCreate
  | groupList headers ip => exact homed_map homed_groupList
  | adminPending headers addr => exact homed_map (homed_admin fun _ => homed_pure)
  | adminApprove headers addr uuid =>
    exact homed_map (homed_bind homed_attempt fun _ => homed_setConfirm)
  | adminIdentities headers addr => exact homed_map (homed_admin fun _ => homed_pure)
  | adminDelete headers addr uuid => exact homed_map homed_delete
  | adminToggleIdentity headers addr uuid action => exact homed_map homed_toggleIdentity
  | adminUsers headers addr =>
    exact homed_map (homed_admin fun _ => homed_bind (homed_sql _) fun _ => homed_pure)
  | adminToggleUser headers addr uuid action => exact homed_map homed_toggleUser
  | adminExport headers addr => exact homed_map homed_export

end PasswordManager
