import PasswordManager.Server.System

/-!
# Files and the pool

What the operations of the backup endpoints do to the file system and to the shared pool while
one request runs alone. Any of them may fail.
-/

namespace PasswordManager
open Interaction

/-- What SQLite and the migrations make of a file's content. -/
class Sqlite where
  /-- The file is a database of the current schema that holds these rows. -/
  Holds : Bytes → Db → Prop
  /-- `run_pending_migrations` -/
  migrate : Bytes → Bytes

/-- No migration is pending on a database of the current schema. -/
def NonePending [Sqlite] : Prop :=
  ∀ content db, Sqlite.Holds content db → Sqlite.migrate content = content

abbrev stagedPath (config : Config) : String := config.databaseUrl ++ ".importing"

theorem stagedPath_ne (config : Config) : config.databaseUrl ≠ stagedPath config := by
  intro same
  have := congrArg String.length same
  rw [String.length_append] at this
  simp at this

/-- Files are numbered in the order in which they were created, so that a file that was replaced
is told from the one that replaced it. -/
structure Storage where
  directory : String → Option Nat
  content : Nat → Bytes
  /-- The number of the next file. -/
  next : Nat
  pool : DbPool
  /-- The file that a handler has open. -/
  opened : Nat := 0
  /-- The files in the handler's temporary directory. -/
  temp : List (String × Bytes) := []
  named_exists : ∀ path file, directory path = some file → file < next
  pool_exists : pool.file < next

/-- What the environment decides while a request runs, in which no operation occurs twice. -/
structure Environment where
  clock : NaiveDateTime := 0
  failure : FileAction → Option String := fun _ => none
  /-- What an operation that fails half-way leaves in the file that it was writing. -/
  torn : Bytes := []

namespace Storage

/-- Gives the path a new file; nothing else refers to the file that it replaces. -/
def create (s : Storage) (path : String) (content : Bytes) : Storage :=
  { s with
    directory := Function.update s.directory path (some s.next)
    content := Function.update s.content s.next content
    next := s.next + 1
    named_exists := by
      intro other file named
      rw [Function.update_apply] at named
      split at named
      · have := Option.some.inj named
        omega
      · exact Nat.lt_succ_of_lt (s.named_exists other file named)
    pool_exists := Nat.lt_succ_of_lt s.pool_exists }

/-- Opening a database file creates one that is missing. -/
def touch (s : Storage) (path : String) : Storage :=
  match s.directory path with
  | some _ => s
  | none => s.create path []

def move (s : Storage) (source target : String) (file : Nat) (named : s.directory source = some file) :
    Storage :=
  { s with
    directory := Function.update (Function.update s.directory source none) target (some file)
    named_exists := by
      intro other found here
      rw [Function.update_apply, Function.update_apply] at here
      split at here
      · exact Option.some.inj here ▸ s.named_exists source file named
      · split at here
        · cases here
        · exact s.named_exists other found here }

def connect (s : Storage) (path : String) (file : Nat) (named : s.directory path = some file) :
    Storage :=
  { s with
    pool := ⟨file⟩
    pool_exists := s.named_exists path file named }

def overwrite (s : Storage) (file : Nat) (content : Bytes) : Storage :=
  { s with content := Function.update s.content file content }

theorem touch_create {s : Storage} {path : String} {content : Bytes} :
    (s.create path content).touch path = s.create path content := by
  have named : (s.create path content).directory path = some s.next := Function.update_self ..
  unfold touch
  rw [named]

def missing : String := "No such file or directory (os error 2)"

section
variable {α β : Type} {allowed : FileAction → Prop}

/-- Every operation of the program is allowed. -/
def Only (allowed : FileAction → Prop) (p : Files α) : Prop :=
  ∀ h, Fallible.Spec (fun _ => allowed) (fun _ _ => True) (fun _ _ => True) h p

theorem only_bind {p : Files α} {f : α → Files β} (first : Only allowed p)
    (next : ∀ v, Only allowed (f v)) : Only allowed (p >>= f) := by
  intro h
  rw [Fallible.spec_bind]
  exact Fallible.spec_mono (fun h v _ => next v h) (first h)

theorem only_attempt {origin : Origin} {r : Except AppError α} :
    Only allowed (attempt origin r : Files α) := by
  intro h
  rw [spec_attempt]
  exact ⟨fun _ _ => trivial, fun _ _ => trivial⟩

theorem only_file {x : FileAction} (here : allowed x) : Only allowed (file x) :=
  fun _ => ⟨here, fun _ => trivial⟩

theorem only_fileOr {error : String → AppError} {p : Files (Except String α)}
    (first : Only allowed p) : Only allowed (fileOr error p) := by
  refine only_bind first fun r h => ?_
  cases r <;> trivial

end

variable [Archive] [Sqlite]

/-- The effect of an operation that the environment lets succeed. -/
def perform (env : Environment) (s : Storage) : (x : FileAction) → x.Answer × Storage
  | .now => (env.clock, s)
  | .clonePool => (s.pool, s)
  | .poolGet pool => (.ok ⟨pool.file⟩, s)
  | .openFile path =>
    match s.directory path with
    | some file => (.ok (), { s with opened := file })
    | none => (.error missing, s)
  | .readToEnd => (.ok (s.content s.opened), s)
  | .tempdir => (.ok (), { s with temp := [] })
  | .unpack archive =>
    match Archive.unpack archive with
    | .ok files => (.ok (), { s with temp := files })
    | .error message => (.error message, s)
  | .readTemp name =>
    match s.temp.lookup name with
    | some content => (.ok content, s)
    | none => (.error missing, s)
  | .write path content => (.ok (), s.create path content)
  | .establish path => (.ok (), s.touch path)
  | .lockPool => ((), s)
  | .unlockPool => ((), s)
  | .rename source target =>
    match named : s.directory source with
    | some file => (.ok (), s.move source target file named)
    | none => (.error missing, s)
  | .initPool databaseUrl _ =>
    match named : s.directory databaseUrl with
    | some file => (.ok (), s.connect databaseUrl file named)
    | none => (.ok (), (s.create databaseUrl []).connect databaseUrl s.next (Function.update_self ..))
  | .runPendingMigrations conn =>
    (.ok (), s.overwrite conn.file (Sqlite.migrate (s.content conn.file)))

/-- An operation that fails; reading the clock and the pool's lock cannot. -/
def refuse (env : Environment) (s : Storage) (message : String) : (x : FileAction) → x.Answer × Storage
  | .now => (env.clock, s)
  | .clonePool => (s.pool, s)
  | .lockPool => ((), s)
  | .unlockPool => ((), s)
  | .poolGet _ => (.error message, s)
  | .readToEnd => (.error message, s)
  | .readTemp _ => (.error message, s)
  | .openFile _ => (.error message, s)
  | .tempdir => (.error message, s)
  | .unpack _ => (.error message, s)
  | .write path _ => (.error message, s.create path env.torn)
  | .establish _ => (.error message, s)
  | .rename _ _ => (.error message, s)
  | .initPool _ _ => (.error message, s)
  | .runPendingMigrations conn => (.error message, s.overwrite conn.file env.torn)

def answer (env : Environment) (s : Storage) (x : FileAction) : x.Answer × Storage :=
  match env.failure x with
  | none => s.perform env x
  | some message => s.refuse env message x

/-- Runs the file operations of one request. -/
def run {α : Type} (env : Environment) (p : Files α) (s : Storage) : Except Failure α × Storage :=
  let ended := Fallible.exec answer p (fun _ => env, s)
  (ended.1, ended.2.2)

section
variable {α β : Type} {env : Environment} {s after : Storage}

theorem run_bind {p : Files α} {f : α → Files β} :
    s.run env (p >>= f) =
      match s.run env p with
      | (.ok v, middle) => middle.run env (f v)
      | (.error e, middle) => (.error e, middle) := by
  have constant := Prog.run_constant answer p.run env s
  unfold run
  rw [Fallible.exec_bind]
  unfold Fallible.exec at constant ⊢
  rcases ended : p.run.run answer (fun _ => env, s) with ⟨_ | v, choices, middle⟩
  · rfl
  · rw [ended] at constant
    cases constant
    rfl

theorem run_bind_ok {p : Files α} {f : α → Files β} {v : β} :
    s.run env (p >>= f) = (.ok v, after) ↔
      ∃ a middle, s.run env p = (.ok a, middle) ∧ middle.run env (f a) = (.ok v, after) := by
  rw [run_bind]
  rcases s.run env p with ⟨_ | a, middle⟩ <;> simp

theorem run_file {x : FileAction} : s.run env (file x) = (.ok (s.answer env x).1, (s.answer env x).2) := rfl

theorem run_file_ok {x : FileAction} {a : x.Answer} :
    s.run env (file x) = (.ok a, after) ↔ s.answer env x = (a, after) := by
  rw [run_file]
  simp [Prod.ext_iff]

theorem run_attempt_ok {origin : Origin} {r : Except AppError α} {v : α} :
    s.run env (attempt origin r) = (.ok v, after) ↔ r = .ok v ∧ after = s := by
  unfold run
  rw [exec_attempt]
  cases r <;> simp [Except.mapError, eq_comm]

theorem run_fileOr {error : String → AppError} {p : Files (Except String α)} :
    s.run env (fileOr error p) =
      match s.run env p with
      | (.ok (.ok v), after) => (.ok v, after)
      | (.ok (.error message), after) => (.error ⟨error message, .backend⟩, after)
      | (.error e, after) => (.error e, after) := by
  unfold fileOr
  rw [run_bind]
  rcases s.run env p with ⟨_ | _ | _, after⟩ <;> rfl

theorem run_fileOr_ok {error : String → AppError} {p : Files (Except String α)} {v : α} :
    s.run env (fileOr error p) = (.ok v, after) ↔ s.run env p = (.ok (.ok v), after) := by
  rw [run_fileOr]
  rcases s.run env p with ⟨_ | _ | _, after⟩ <;> simp

/-- Running a part whose error is looked at before it is passed on. -/
theorem run_caught {p : Files α} :
    s.run env (ExceptT.lift p.run) = (.ok (s.run env p).1, (s.run env p).2) := by
  unfold run Fallible.exec
  rw [ExceptT.run_lift, ← bind_pure_comp, Prog.run_bind]
  rfl

theorem run_keeps {allowed : FileAction → Prop} (kept : Storage → Prop) {p : Files α} (only : Only allowed p)
    (step : ∀ s x, allowed x → kept s → kept (s.answer env x).2) (start : kept s) :
    kept (s.run env p).2 := by
  let still : (Nat → Environment) × Storage → Prop := fun w => w.1 = (fun _ => env) ∧ kept w.2
  have ended : still (p.run.run answer (fun _ => env, s)).2 := by
    refine Prog.run_keeps (only []) ?_ ⟨rfl, start⟩
    rintro - c s x may ⟨same, holds⟩
    obtain rfl : c = fun _ => env := same
    exact ⟨rfl, step s x may holds⟩
  exact ended.2

theorem run_lockPool : s.run env (file .lockPool) = (.ok (), s) := by
  rw [run_file]
  unfold answer
  split <;> rfl

theorem run_unlockPool : s.run env (file .unlockPool) = (.ok (), s) := by
  rw [run_file]
  unfold answer
  split <;> rfl

theorem run_clonePool {f : DbPool → Files α} :
    s.run env (file .clonePool >>= f) = s.run env (f s.pool) := by
  rw [run_bind, run_file]
  rcases h : env.failure .clonePool with _ | message
  · simp only [answer, h, perform]
  · simp only [answer, h, refuse]

theorem run_now {f : NaiveDateTime → Files α} :
    s.run env (file .now >>= f) = s.run env (f env.clock) := by
  rw [run_bind, run_file]
  rcases h : env.failure .now with _ | message
  · simp only [answer, h, perform]
  · simp only [answer, h, refuse]

/-! ## Operations that succeed -/

variable {error : String → AppError} {v : Unit}

theorem openFile_ok {path : String} :
    s.run env (fileOr error (file (.openFile path))) = (.ok v, after) ↔
      env.failure (.openFile path) = none ∧
        ∃ file, s.directory path = some file ∧ after = { s with opened := file } := by
  refine run_fileOr_ok.trans (run_file_ok.trans ?_)
  rcases h : env.failure (.openFile path) with _ | message
  · rcases named : s.directory path with _ | file
    · simp [answer, h, perform, named]
    · simp [answer, h, perform, named, @eq_comm _ after]
  · simp [answer, h, refuse]

theorem readToEnd_ok {content : Bytes} :
    s.run env (fileOr error (file .readToEnd)) = (.ok content, after) ↔
      env.failure .readToEnd = none ∧ content = s.content s.opened ∧ after = s := by
  refine run_fileOr_ok.trans (run_file_ok.trans ?_)
  rcases h : env.failure .readToEnd with _ | message
  · simp [answer, h, perform, @eq_comm _ after, @eq_comm _ content]
  · simp [answer, h, refuse]

theorem tempdir_ok : s.run env (fileOr error (file .tempdir)) = (.ok v, after) ↔
    env.failure .tempdir = none ∧ after = { s with temp := [] } := by
  refine run_fileOr_ok.trans (run_file_ok.trans ?_)
  rcases h : env.failure .tempdir with _ | message
  · simp [answer, h, perform, @eq_comm _ after]
  · simp [answer, h, refuse]

theorem unpack_ok {archive : Bytes} :
    s.run env (fileOr error (file (.unpack archive))) = (.ok v, after) ↔
      env.failure (.unpack archive) = none ∧
        ∃ files, Archive.unpack archive = .ok files ∧ after = { s with temp := files } := by
  refine run_fileOr_ok.trans (run_file_ok.trans ?_)
  rcases h : env.failure (.unpack archive) with _ | message
  · rcases unpacked : Archive.unpack archive with message | files
    · simp [answer, h, perform, unpacked]
    · simp [answer, h, perform, unpacked, @eq_comm _ after]
  · simp [answer, h, refuse]

theorem readTemp_ok {name : String} {content : Bytes} :
    s.run env (fileOr error (file (.readTemp name))) = (.ok content, after) ↔
      env.failure (.readTemp name) = none ∧ s.temp.lookup name = some content ∧ after = s := by
  refine run_fileOr_ok.trans (run_file_ok.trans ?_)
  rcases h : env.failure (.readTemp name) with _ | message
  · rcases found : s.temp.lookup name with _ | file
    · simp [answer, h, perform, found]
    · simp [answer, h, perform, found, @eq_comm _ after]
  · simp [answer, h, refuse]

theorem write_ok {path : String} {content : Bytes} :
    s.run env (fileOr error (file (.write path content))) = (.ok v, after) ↔
      env.failure (.write path content) = none ∧ after = s.create path content := by
  refine run_fileOr_ok.trans (run_file_ok.trans ?_)
  rcases h : env.failure (.write path content) with _ | message
  · simp [answer, h, perform, @eq_comm _ after]
  · simp [answer, h, refuse]

theorem establish_ok {path : String} :
    s.run env (fileOr error (file (.establish path))) = (.ok v, after) ↔
      env.failure (.establish path) = none ∧ after = s.touch path := by
  refine run_fileOr_ok.trans (run_file_ok.trans ?_)
  rcases h : env.failure (.establish path) with _ | message
  · simp [answer, h, perform, @eq_comm _ after]
  · simp [answer, h, refuse]

theorem rename_ok {source target : String} :
    s.run env (fileOr error (file (.rename source target))) = (.ok v, after) ↔
      env.failure (.rename source target) = none ∧
        ∃ file, ∃ named : s.directory source = some file, after = s.move source target file named := by
  refine run_fileOr_ok.trans (run_file_ok.trans ?_)
  rcases h : env.failure (.rename source target) with _ | message
  · simp only [answer, h, perform]
    split
    · rename_i file named
      simp [named, @eq_comm _ after]
    · rename_i unnamed
      simp [unnamed]
  · simp [answer, h, refuse]

theorem rename_error {source target message : String}
    (failed : env.failure (.rename source target) = some message) :
    s.run env (fileOr error (file (.rename source target))) = (.error ⟨error message, .backend⟩, s) := by
  rw [run_fileOr, run_file]
  simp only [answer, failed, refuse]

theorem initPool_ok {databaseUrl : String} {size file : Nat}
    (named : s.directory databaseUrl = some file) :
    s.run env (fileOr error (PasswordManager.file (.initPool databaseUrl size))) = (.ok v, after) ↔
      env.failure (.initPool databaseUrl size) = none ∧ after = s.connect databaseUrl file named := by
  refine run_fileOr_ok.trans (run_file_ok.trans ?_)
  rcases h : env.failure (.initPool databaseUrl size) with _ | message
  · simp only [answer, h, perform]
    split
    · rename_i found here
      obtain rfl := Option.some.inj (named.symm.trans here)
      simp [@eq_comm _ after]
    · rename_i unnamed
      cases named.symm.trans unnamed
  · simp [answer, h, refuse]

theorem poolGet_ok {pool : DbPool} {conn : Conn} :
    s.run env (fileOr error (file (.poolGet pool))) = (.ok conn, after) ↔
      env.failure (.poolGet pool) = none ∧ conn = ⟨pool.file⟩ ∧ after = s := by
  refine run_fileOr_ok.trans (run_file_ok.trans ?_)
  rcases h : env.failure (.poolGet pool) with _ | message
  · simp [answer, h, perform, @eq_comm _ after, @eq_comm _ conn]
  · simp [answer, h, refuse]

theorem runPendingMigrations_ok {conn : Conn} :
    s.run env (fileOr error (file (.runPendingMigrations conn))) = (.ok v, after) ↔
      env.failure (.runPendingMigrations conn) = none ∧
        after = s.overwrite conn.file (Sqlite.migrate (s.content conn.file)) := by
  refine run_fileOr_ok.trans (run_file_ok.trans ?_)
  rcases h : env.failure (.runPendingMigrations conn) with _ | message
  · simp [answer, h, perform, @eq_comm _ after]
  · simp [answer, h, refuse]

end

end Storage

end PasswordManager
