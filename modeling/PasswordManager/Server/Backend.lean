import PasswordManager.Interaction.Machine
import PasswordManager.Server.Storage

/-!
# Requests and imports

The machine that serves requests and imports concurrently over the files and the pool. A
statement acts on the file of its connection, and the pool's write lock makes others wait.
-/

namespace PasswordManager
open Interaction

/-- What SQLite makes of a file. -/
class Engine where
  /-- The rows of a database in which no migration is pending. -/
  load : Bytes → Option Db
  /-- The file's content after a statement that leaves these rows. -/
  store : Bytes → Db → Bytes
  /-- `run_pending_migrations` -/
  migrate : Bytes → Bytes

instance [Engine] : Sqlite where
  Holds content db := Engine.load content = some db
  migrate := Engine.migrate

/-- No migration is pending in the file's content. -/
abbrev Current [Engine] (content : Bytes) : Prop := (Engine.load content).isSome

/-- A statement leaves no migration pending where none was. -/
def StaysCurrent [Engine] : Prop :=
  ∀ content db, Current content → Current (Engine.store content db)

/-! ## A file that has been renamed over

SQLite refuses to write on a connection whose file is no longer at the path that it was opened by. -/

def DbError.readonly : DbError := .databaseError .unknown "attempt to write a readonly database"

/-- A statement that succeeds has written, also where it leaves the rows as they were, unless it
finds no row to delete. -/
def Query.hasWritten : (q : Query) → q.Answer → Bool
  | .identityDelete _, deleted => deleted != 0
  | q, _ => q.isWrite

def Db.execMoved (m : Moment) (db : Db) (q : Query) : Except DbError q.Answer :=
  match (db.exec m q).1 with
  | .ok a => if q.hasWritten a then .error .readonly else .ok a
  | .error e => .error e

def Effect.answerMoved (c : Chance) (db : Db) : (x : Effect) → x.Answer
  | .sql _ q =>
    match c.failure with
    | some message => .error (.databaseError .unknown message)
    | none => db.execMoved c.toMoment q
  | x => (x.answer c db).1

def SignUpTransaction.runMoved [Crypto] (t : SignUpTransaction) (conn : Conn) (chance : Nat → Chance)
    (db : Db) : Except Failure (String × String) :=
  match (chance 0).failure with
  | none =>
    ((t.body conn).exec (fun c db x => (x.answerMoved c db, db)) (fun n => chance (n + 1), db)).1
  | some message => .error ⟨.database (.databaseError .unknown message), .backend⟩

def Action.answerMoved [Crypto] (c : Choice) (db : Db) : (x : Action) → x.Answer
  | .effect x => x.answerMoved (c.chance 0) db
  | .transaction conn t => t.runMoved conn c.chance db
  | .file x => x.answer c

/-! ## The machine -/

/-- The files and the pool, with what each handler has for itself. -/
structure Backend where
  storage : Storage
  opened : Nat → Nat := fun _ => 0
  temp : Nat → List (String × Bytes) := fun _ => []
  /-- The request that holds the pool's write lock. -/
  holder : Option Nat := none

/-- What the environment decides for one action. -/
structure Turn where
  env : Environment := {}
  choice : Choice := {}
  /-- What a statement answers and leaves in a file in which a migration is pending. -/
  pending : (x : Action) → x.Answer
  left : Bytes := []

namespace Backend

def overwrite (b : Backend) (file : Nat) (content : Bytes) : Backend :=
  { b with storage := b.storage.overwrite file content }

/-- The file is at the path that the connections are opened by. -/
def inPlace (databaseUrl : String) (b : Backend) (file : Nat) : Bool :=
  b.storage.directory databaseUrl = some file

section
variable [Crypto] [Engine]

/-- A statement or a transaction on the file of its connection. -/
def statement (databaseUrl : String) (t : Turn) (b : Backend) (file : Nat) (x : Action) :
    x.Answer × Backend :=
  let content := b.storage.content file
  match Engine.load content, b.inPlace databaseUrl file with
  | some db, true =>
    let done := x.answer t.choice db
    (done.1, b.overwrite file (Engine.store content done.2))
  | some db, false => (x.answerMoved t.choice db, b)
  | none, true => (t.pending x, b.overwrite file t.left)
  | none, false => (t.pending x, b)

variable [Archive]

/-- The handler's own open file and temporary directory take part in its operations. -/
def fileAction (env : Environment) (rid : Nat) (b : Backend) (x : FileAction) : x.Answer × Backend :=
  let done := Storage.answer env { b.storage with opened := b.opened rid, temp := b.temp rid } x
  (done.1, {
    storage := done.2
    opened := Function.update b.opened rid done.2.opened
    temp := Function.update b.temp rid done.2.temp
    holder := match x with
      | .lockPool => some rid
      | .unlockPool => none
      | _ => b.holder })

def answer (databaseUrl : String) (t : Turn) (rid : Nat) (b : Backend) :
    (x : Action) → x.Answer × Backend
  | .effect (.sql conn q) => b.statement databaseUrl t conn.file (.effect (.sql conn q))
  | .transaction conn s => b.statement databaseUrl t conn.file (.transaction conn s)
  | .effect x => ((x.answer (t.choice.chance 0) Db.empty).1, b)
  | .file x => b.fileAction t.env rid x

end

/-- While the write lock is held, both locking and cloning the pool wait for it. -/
def unlocked (b : Backend) : Action → Bool
  | .file .clonePool | .file .lockPool => b.holder.isNone
  | _ => true

/-- Migrations that succeed leave none pending, and nothing else applies or undoes one. They write
nothing to a file that has been renamed over. -/
def credible [Engine] (databaseUrl : String) (t : Turn) (b : Backend) : Action → Bool
  | .file (.runPendingMigrations conn) =>
    let content := b.storage.content conn.file
    let left (content' : Bytes) := b.inPlace databaseUrl conn.file || content' == content
    match t.env.failure (.runPendingMigrations conn) with
    | none => decide (Current (Engine.migrate content)) && left (Engine.migrate content)
    | some _ => decide (Current t.env.torn ↔ Current content) && left t.env.torn
  | .effect (.sql conn _) | .transaction conn _ =>
    decide (Current t.left → Current (b.storage.content conn.file))
  | _ => true

end Backend

/-- The requests of `serve`, and `/admin/import`. -/
inductive Demand where
  | request (req : Request)
  | import (headers : HeaderMap) (addr : IpAddr) (body : Bytes)
  deriving DecidableEq

variable [Crypto] [Archive]

def demandHandler (config : Config) : Demand → Handler Reply
  | .request req => serve config req
  | .import headers addr body =>
    (fun _ => .null) <$> (liftM (importHandler config headers addr body) : Handler Unit)

def backend [Engine] (config : Config) : Machine Action.Answer Demand Result Backend Turn where
  handler demand := (demandHandler config demand).run
  ready t _ b x := b.unlocked x && b.credible config.databaseUrl t x
  answer := Backend.answer config.databaseUrl
  background _ _ := none

abbrev BackendState := RunState Action.Answer Demand Result Backend

abbrev BackendTrace := Trace Action.Answer Demand Result Backend

/-- What `main` leaves when the server starts to serve: the pool is on the file at
`database_url`, in which no migration is pending. -/
structure Deployed [Engine] (config : Config) (s : Storage) : Prop where
  live : s.directory config.databaseUrl = some s.pool.file
  current : Current (s.content s.pool.file)
  alone : s.directory (config.databaseUrl ++ ".importing") ≠ some s.pool.file

/-! ## What one action changes -/

/-- Neither a path nor a file nor the pool has changed. -/
structure SameFiles (s s' : Storage) : Prop where
  directory : s'.directory = s.directory
  content : s'.content = s.content
  next : s'.next = s.next
  pool : s'.pool = s.pool

/-- The path has been given a new file. -/
structure Created (s s' : Storage) (path : String) (content : Bytes) : Prop where
  directory : s'.directory = Function.update s.directory path (some s.next)
  content : s'.content = Function.update s.content s.next content
  next : s'.next = s.next + 1
  pool : s'.pool = s.pool

structure Moved (s s' : Storage) (source target : String) (file : Nat) : Prop where
  named : s.directory source = some file
  directory : s'.directory = Function.update (Function.update s.directory source none) target (some file)
  content : s'.content = s.content
  next : s'.next = s.next
  pool : s'.pool = s.pool

structure Connected (s s' : Storage) (file : Nat) : Prop where
  directory : s'.directory = s.directory
  content : s'.content = s.content
  next : s'.next = s.next
  pool : s'.pool = ⟨file⟩

/-- One file has another content. -/
structure Rewritten (s s' : Storage) (file : Nat) (content : Bytes) : Prop where
  directory : s'.directory = s.directory
  content : s'.content = Function.update s.content file content
  next : s'.next = s.next
  pool : s'.pool = s.pool

/-- The operation changes neither paths nor files nor the pool. -/
def FileAction.idle : FileAction → Bool
  | .write _ _ | .establish _ | .rename _ _ | .initPool _ _ | .runPendingMigrations _ => false
  | _ => true

namespace Backend

variable [Engine] (env : Environment) (rid : Nat) (b : Backend)

omit [Crypto] in
theorem fileAction_idle {x : FileAction} (idle : x.idle) :
    SameFiles b.storage (b.fileAction env rid x).2.storage := by
  cases x with
  | write | establish | rename | initPool | runPendingMigrations => cases idle
  | openFile path =>
    simp only [fileAction, Storage.answer, Storage.perform, Storage.refuse]
    split
    · split <;> exact ⟨rfl, rfl, rfl, rfl⟩
    · exact ⟨rfl, rfl, rfl, rfl⟩
  | unpack archive =>
    simp only [fileAction, Storage.answer, Storage.perform, Storage.refuse]
    split
    · split <;> exact ⟨rfl, rfl, rfl, rfl⟩
    · exact ⟨rfl, rfl, rfl, rfl⟩
  | readTemp name =>
    simp only [fileAction, Storage.answer, Storage.perform, Storage.refuse]
    split
    · split <;> exact ⟨rfl, rfl, rfl, rfl⟩
    · exact ⟨rfl, rfl, rfl, rfl⟩
  | _ =>
    simp only [fileAction, Storage.answer, Storage.perform, Storage.refuse]
    split <;> exact ⟨rfl, rfl, rfl, rfl⟩

omit [Crypto] in
theorem fileAction_write (path : String) (content : Bytes) :
    ((b.fileAction env rid (.write path content)).1 = .ok () ∧
        Created b.storage (b.fileAction env rid (.write path content)).2.storage path content) ∨
      ∃ m torn, (b.fileAction env rid (.write path content)).1 = .error m ∧
        Created b.storage (b.fileAction env rid (.write path content)).2.storage path torn := by
  simp only [fileAction, Storage.answer, Storage.perform, Storage.refuse]
  split
  · exact .inl ⟨rfl, rfl, rfl, rfl, rfl⟩
  · exact .inr ⟨_, _, rfl, rfl, rfl, rfl, rfl⟩

omit [Crypto] in
theorem fileAction_establish {path : String} {file : Nat} (named : b.storage.directory path = some file) :
    SameFiles b.storage (b.fileAction env rid (.establish path)).2.storage := by
  simp only [fileAction, Storage.answer, Storage.perform, Storage.refuse, Storage.touch]
  split
  · split
    · exact ⟨rfl, rfl, rfl, rfl⟩
    · rename_i missing
      cases named.symm.trans missing
  · exact ⟨rfl, rfl, rfl, rfl⟩

omit [Crypto] in
theorem fileAction_rename (source target : String) :
    ((b.fileAction env rid (.rename source target)).1 = .ok () ∧
        ∃ file, Moved b.storage (b.fileAction env rid (.rename source target)).2.storage source target file) ∨
      ∃ m, (b.fileAction env rid (.rename source target)).1 = .error m ∧
        SameFiles b.storage (b.fileAction env rid (.rename source target)).2.storage := by
  simp only [fileAction, Storage.answer, Storage.perform, Storage.refuse]
  split
  · split
    · exact .inl ⟨rfl, _, ‹_›, rfl, rfl, rfl, rfl⟩
    · exact .inr ⟨_, rfl, rfl, rfl, rfl, rfl⟩
  · exact .inr ⟨_, rfl, rfl, rfl, rfl, rfl⟩

omit [Crypto] in
theorem fileAction_initPool {databaseUrl : String} (size : Nat) {file : Nat}
    (named : b.storage.directory databaseUrl = some file) :
    ((b.fileAction env rid (.initPool databaseUrl size)).1 = .ok () ∧
        Connected b.storage (b.fileAction env rid (.initPool databaseUrl size)).2.storage file) ∨
      ∃ m, (b.fileAction env rid (.initPool databaseUrl size)).1 = .error m ∧
        SameFiles b.storage (b.fileAction env rid (.initPool databaseUrl size)).2.storage := by
  simp only [fileAction, Storage.answer, Storage.perform, Storage.refuse]
  split
  · split
    · rename_i found here
      obtain rfl := Option.some.inj (named.symm.trans here)
      exact .inl ⟨rfl, rfl, rfl, rfl, rfl⟩
    · rename_i missing
      cases named.symm.trans missing
  · exact .inr ⟨_, rfl, rfl, rfl, rfl, rfl⟩

omit [Crypto] in
theorem fileAction_migrate (conn : Conn) :
    (env.failure (.runPendingMigrations conn) = none ∧
        (b.fileAction env rid (.runPendingMigrations conn)).1 = .ok () ∧
        Rewritten b.storage (b.fileAction env rid (.runPendingMigrations conn)).2.storage conn.file
          (Engine.migrate (b.storage.content conn.file))) ∨
      ∃ m, env.failure (.runPendingMigrations conn) = some m ∧
        (b.fileAction env rid (.runPendingMigrations conn)).1 = .error m ∧
        Rewritten b.storage (b.fileAction env rid (.runPendingMigrations conn)).2.storage conn.file
          env.torn := by
  simp only [fileAction, Storage.answer, Storage.perform, Storage.refuse]
  split
  · exact .inl ⟨‹_›, rfl, rfl, rfl, rfl, rfl⟩
  · exact .inr ⟨_, ‹_›, rfl, rfl, rfl, rfl, rfl⟩

variable {env rid b}

omit [Crypto] in
theorem fileAction_clonePool : (b.fileAction env rid .clonePool).1 = b.storage.pool := by
  simp only [fileAction, Storage.answer, Storage.perform, Storage.refuse]
  split <;> rfl

omit [Crypto] in
theorem fileAction_poolGet {pool : DbPool} {conn : Conn}
    (got : (b.fileAction env rid (.poolGet pool)).1 = .ok conn) : conn = ⟨pool.file⟩ := by
  simp only [fileAction, Storage.answer, Storage.perform, Storage.refuse] at got
  split at got
  · exact (Except.ok.inj got).symm
  · cases got

omit [Archive] in
theorem statement_holder {url : String} {t : Turn} {file : Nat} {x : Action} :
    (b.statement url t file x).2.holder = b.holder := by
  unfold statement
  dsimp only
  split <;> rfl

omit [Archive] in
/-- Nothing is written on a connection whose file has been renamed over. -/
theorem statement_moved {url : String} {t : Turn} {file : Nat} (x : Action)
    (moved : b.inPlace url file = false) : (b.statement url t file x).2 = b := by
  unfold statement
  cases loaded : Engine.load (b.storage.content file) <;> simp only [loaded, moved]

omit [Archive] in
/-- A statement changes its own file only, and applies no migration. -/
theorem statement_rewrites (stays : StaysCurrent) {url : String} {t : Turn} {file : Nat} (x : Action)
    (kept : Current t.left → Current (b.storage.content file)) :
    ∃ content, Rewritten b.storage (b.statement url t file x).2.storage file content ∧
      (Current content ↔ Current (b.storage.content file)) := by
  cases place : b.inPlace url file with
  | false =>
    rw [statement_moved x place]
    exact ⟨_, ⟨rfl, (Function.update_eq_self ..).symm, rfl, rfl⟩, .rfl⟩
  | true =>
    unfold statement
    cases loaded : Engine.load (b.storage.content file) with
    | some db =>
      have current : Current (b.storage.content file) := by rw [Current, loaded]; rfl
      simp only [loaded, place]
      exact ⟨_, ⟨rfl, rfl, rfl, rfl⟩, iff_of_true (stays _ _ current) current⟩
    | none =>
      have pending : ¬Current (b.storage.content file) := by rw [Current, loaded]; simp
      simp only [loaded, place]
      exact ⟨t.left, ⟨rfl, rfl, rfl, rfl⟩, iff_of_false (fun left => pending (kept left)) pending⟩

end Backend

end PasswordManager
