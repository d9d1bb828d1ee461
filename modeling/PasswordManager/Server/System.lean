import PasswordManager.Routes.Admin
import PasswordManager.Routes.Backup
import PasswordManager.Routes.Exec
import PasswordManager.Routes.Passwords

/-!
# The server

The requests that the router serves, except `/admin/import`, and the system that runs their
handlers concurrently over one database. SQLite serialises transactions, so the sign-up
transaction is one step.
-/

namespace PasswordManager
open Interaction

inductive Request where
  | greet (ip : String) (body : GreetRequest)
  | signUp (ip : String) (body : SignRequest)
  | signIn (ip : String) (body : SignRequest)
  | refresh (ip : String) (body : TokenRequest)
  | resign (ip : String) (body : TokenRequest)
  | verify (headers : HeaderMap) (ip : String)
  | pwdList (headers : HeaderMap) (ip : String) (params : ListParams)
  | pwdCreate (headers : HeaderMap) (ip : String) (body : CreatePasswordRequest)
  | pwdUpdate (headers : HeaderMap) (ip : String) (uuid : Uuid) (body : UpdatePasswordRequest)
  | pwdGet (headers : HeaderMap) (ip : String) (uuid : Uuid)
  | groupCreate (headers : HeaderMap) (ip : String) (body : CreateGroupRequest)
  | groupList (headers : HeaderMap) (ip : String)
  | adminPending (headers : HeaderMap) (addr : IpAddr)
  | adminApprove (headers : HeaderMap) (addr : IpAddr) (uuid : Uuid)
  | adminIdentities (headers : HeaderMap) (addr : IpAddr)
  | adminDelete (headers : HeaderMap) (addr : IpAddr) (uuid : Uuid)
  | adminToggleIdentity (headers : HeaderMap) (addr : IpAddr) (uuid : Uuid) (action : String)
  | adminUsers (headers : HeaderMap) (addr : IpAddr)
  | adminToggleUser (headers : HeaderMap) (addr : IpAddr) (uuid : Uuid) (action : String)
  | adminExport (headers : HeaderMap) (addr : IpAddr)
  deriving DecidableEq

/-- The headers and the address that `validate_auth` checks, for the protected endpoints. -/
def Request.session : Request → Option (HeaderMap × String)
  | verify headers ip | pwdList headers ip _ | pwdCreate headers ip _ | pwdUpdate headers ip _ _
  | pwdGet headers ip _ | groupCreate headers ip _ | groupList headers ip => some (headers, ip)
  | _ => none

/-- The body of a successful response. -/
inductive Reply where
  | greet (serverPublicKey : String)
  | token (token : String)
  | null
  | passwords (entries : List PasswordEntry)
  | password (entry : PasswordEntry)
  | detail (detail : PasswordDetail)
  | group (group : GroupResponse)
  | groups (groups : List GroupResponse)
  | pending (identities : List PendingIdentity)
  | identities (identities : List IdentityResponse)
  | users (users : List UserResponse)
  | archive (content : Bytes)
  deriving DecidableEq

variable [Crypto] [Archive]

/-- The routing table of `build_router`. -/
def serve (config : Config) : Request → Handler Reply
  | .greet ip body => .greet <$> greetHandler config ip body
  | .signUp ip body => .token <$> signUpHandler config ip body
  | .signIn ip body => .token <$> signInHandler config ip body
  | .refresh ip body => .token <$> refreshHandler config ip body
  | .resign ip body => (fun _ => .null) <$> resignHandler config ip body
  | .verify headers ip => (fun _ => .null) <$> verifyHandler headers ip
  | .pwdList headers ip params => .passwords <$> listHandler config headers ip params
  | .pwdCreate headers ip body => .password <$> createHandler config headers ip body
  | .pwdUpdate headers ip uuid body => (fun _ => .null) <$> updateHandler config headers ip uuid body
  | .pwdGet headers ip uuid => .detail <$> getHandler config headers ip uuid
  | .groupCreate headers ip body => .group <$> groupCreateHandler headers ip body
  | .groupList headers ip => .groups <$> groupListHandler headers ip
  | .adminPending headers addr => .pending <$> pendingHandler config headers addr
  | .adminApprove headers addr uuid => (fun _ => .null) <$> approveHandler config headers addr uuid
  | .adminIdentities headers addr => .identities <$> listIdentities config headers addr
  | .adminDelete headers addr uuid => (fun _ => .null) <$> deleteIdentity config headers addr uuid
  | .adminToggleIdentity headers addr uuid action =>
    (fun _ => .null) <$> toggleIdentity config headers addr uuid action
  | .adminUsers headers addr => .users <$> listUsers config headers addr
  | .adminToggleUser headers addr uuid action =>
    (fun _ => .null) <$> toggleUser config headers addr uuid action
  | .adminExport headers addr => .archive <$> (liftM (exportHandler config headers addr) : Handler Bytes)

abbrev Result := Except Failure Reply

/-- What the client sees: the status, and the body or the error text. -/
def respond : Result → Nat × (Reply ⊕ String)
  | .ok reply => (200, .inl reply)
  | .error f => (f.error.status, .inr f.error.text)

/-- What the environment decides for one action: a stream, of which a transaction uses one
element for each effect of its body. -/
structure Choice where
  chance : Nat → Chance := fun _ => {}
  conn : Except String Conn := .ok ⟨0⟩
  opened : Except String Unit := .ok ()
  content : Except String Bytes := .ok []

/-- The server's database is the only one, so its pool and connections have one name; what
export reads from the disk is left to the environment. -/
def FileAction.answer (c : Choice) : (x : FileAction) → x.Answer
  | now => (c.chance 0).clock
  | clonePool => ⟨0⟩
  | poolGet _ => c.conn
  | readToEnd | readTemp _ => c.content
  | lockPool | unlockPool => ()
  | openFile _ | tempdir | unpack _ | write _ _ | establish _ | rename _ _ | initPool _ _
  | runPendingMigrations _ => c.opened

/-- Runs a transaction: its effect remains only if the body succeeds and COMMIT does. -/
def SignUpTransaction.run (t : SignUpTransaction) (conn : Conn) (chance : Nat → Chance) (db : Db) :
    Except Failure (String × String) × Db :=
  match (chance 0).failure, ((t.body conn).exec Effect.answer (fun n => chance (n + 1), db)) with
  | none, (.ok done, _, after) => (.ok done, after)
  | none, (.error e, _) => (.error e, db)
  | some message, _ => (.error ⟨.database (.databaseError .unknown message), .backend⟩, db)

def Action.answer (c : Choice) (db : Db) : (x : Action) → x.Answer × Db
  | effect x => x.answer (c.chance 0) db
  | transaction conn t => t.run conn c.chance db
  | file x => (x.answer c, db)

omit [Archive] in
/-- A statement that does not fail of itself. -/
theorem exec_statement {w : (Nat → Choice) × Db} {conn : Conn} {q : Query} {a : q.Answer} {after : Db}
    (calm : ((w.1 0).chance 0).failure = none)
    (done : w.2.exec ((w.1 0).chance 0).toMoment q = (.ok a, after)) :
    Fallible.exec Action.answer (liftM (sql conn q) : Handler q.Answer) w =
      (.ok a, fun n => w.1 (n + 1), after) := by
  have answered : Action.answer (w.1 0) w.2 (.effect (.sql conn q)) = (.ok a, after) := by
    simp only [Action.answer, Effect.answer, calm, done]
  rw [handler_sql, answered]

omit [Archive] in
theorem exec_stateConn {w : (Nat → Choice) × Db} {conn : Conn} (connected : (w.1 1).conn = .ok conn) :
    Fallible.exec Action.answer (liftM stateConn : Handler Conn) w =
      (.ok conn, fun n => w.1 (n + 2), w.2) := by
  rw [handler_conn]
  simp only [Action.answer, FileAction.answer, connected]

/-- The server from an empty migrated database. -/
def server (config : Config) : System Action.Answer Request Result Db Choice where
  handler req := (serve config req).run
  answer := Action.answer
  initial := Db.empty

end PasswordManager
