import PasswordManager.Server.Plain

/-!
# Importing a database

`import_handler` checks the archive and stages its database beside the live file, then renames it
over the live file. An error before the rename leaves everything as it was; the pool rebuild and the
migrations come after it, and can still fail.
-/

namespace PasswordManager
open Interaction

/-- The part of `import_handler` that leaves the live database alone. -/
def stageImport (config : Config) (headers : HeaderMap) (addr : IpAddr) (body : Bytes) :
    Files Unit := do
  attempt .request (checkAdmin headers addr config)
  fileOr (fun e => .internal ("tempdir failed: " ++ e)) (file .tempdir)
  fileOr (fun e => .internal ("tar unpack failed: " ++ e)) (file (.unpack body))
  let dotenv ← fileOr (fun _ => .validation "missing .env in archive") (file (.readTemp ".env"))
  attempt .request (checkSecrets config dotenv)
  let importedDb ← fileOr (fun _ => .validation "missing pwd_manager.db in archive")
    (file (.readTemp "pwd_manager.db"))
  fileOr (fun e => .internal ("write temp db failed: " ++ e))
    (file (.write (stagedPath config) importedDb))
  fileOr (fun _ => .validation "imported db is not a valid SQLite database")
    (file (.establish (stagedPath config)))

/-- The part of `import_handler` that replaces the live database. -/
def replaceLive (config : Config) : Files Unit := do
  swapDatabase config (stagedPath config)
  let pool ← file .clonePool
  runMigrations pool

theorem importHandler_eq (config : Config) (headers : HeaderMap) (addr : IpAddr) (body : Bytes) :
    importHandler config headers addr body =
      stageImport config headers addr body >>= fun _ => replaceLive config := by
  simp only [importHandler, stageImport, replaceLive, bind_assoc]

/-- The file at `database_url` and the database that the pool serves are the ones from before. -/
structure LiveKept (config : Config) (before after : Storage) : Prop where
  file : after.directory config.databaseUrl = before.directory config.databaseUrl
  pool : after.pool = before.pool
  content : ∀ file, before.directory config.databaseUrl = some file ∨ before.pool.file = file →
    after.content file = before.content file
  together : before.directory config.databaseUrl = some before.pool.file →
    after.directory config.databaseUrl = some after.pool.file

theorem LiveKept.create {config : Config} {before s : Storage} {content : Bytes}
    (kept : LiveKept config before s) (old : before.next ≤ s.next) :
    LiveKept config before (s.create (stagedPath config) content) := by
  have unnamed : (s.create (stagedPath config) content).directory config.databaseUrl =
      s.directory config.databaseUrl := Function.update_of_ne (stagedPath_ne config) ..
  constructor
  · exact unnamed.trans kept.file
  · exact kept.pool
  · intro file live
    have existed : file < before.next := by
      rcases live with named | rfl
      · exact before.named_exists _ _ named
      · exact before.pool_exists
    have other : file ≠ s.next := by omega
    exact (Function.update_of_ne other ..).trans (kept.content file live)
  · intro together
    exact unnamed.trans (kept.together together)

variable [Archive] [Sqlite] {config : Config} {env : Environment} {headers : HeaderMap} {addr : IpAddr}
  {body : Bytes} {s after : Storage}

/-! ## Staging -/

/-- An operation of staging; it writes no file but the staged one. -/
def Beside (config : Config) : FileAction → Prop
  | .tempdir | .unpack _ | .readTemp _ => True
  | .write path _ | .establish path => path = stagedPath config
  | _ => False

omit [Archive] [Sqlite] in
theorem stageImport_beside :
    Storage.Only (Beside config) (stageImport config headers addr body) := by
  refine Storage.only_bind Storage.only_attempt fun _ => ?_
  refine Storage.only_bind (Storage.only_fileOr (Storage.only_file trivial)) fun _ => ?_
  refine Storage.only_bind (Storage.only_fileOr (Storage.only_file trivial)) fun _ => ?_
  refine Storage.only_bind (Storage.only_fileOr (Storage.only_file trivial)) fun dotenv => ?_
  refine Storage.only_bind Storage.only_attempt fun _ => ?_
  refine Storage.only_bind (Storage.only_fileOr (Storage.only_file trivial)) fun db => ?_
  refine Storage.only_bind (Storage.only_fileOr (Storage.only_file rfl)) fun _ => ?_
  exact Storage.only_fileOr (Storage.only_file rfl)

theorem Beside.answer (s : Storage) (env : Environment) {x : FileAction} (beside : Beside config x) :
    (∃ files, (s.answer env x).2 = { s with temp := files }) ∨
      ∃ content, (s.answer env x).2 = s.create (stagedPath config) content := by
  unfold Storage.answer
  cases x with
  | tempdir =>
    split
    · exact .inl ⟨[], rfl⟩
    · exact .inl ⟨s.temp, rfl⟩
  | unpack archive =>
    split
    · simp only [Storage.perform]
      split
      · exact .inl ⟨_, rfl⟩
      · exact .inl ⟨s.temp, rfl⟩
    · exact .inl ⟨s.temp, rfl⟩
  | readTemp name =>
    split
    · simp only [Storage.perform]
      split <;> exact .inl ⟨s.temp, rfl⟩
    · exact .inl ⟨s.temp, rfl⟩
  | write path content =>
    obtain rfl : path = stagedPath config := beside
    split
    · exact .inr ⟨content, rfl⟩
    · exact .inr ⟨env.torn, rfl⟩
  | establish path =>
    obtain rfl : path = stagedPath config := beside
    split
    · simp only [Storage.perform, Storage.touch]
      split
      · exact .inl ⟨s.temp, rfl⟩
      · exact .inr ⟨[], rfl⟩
    · exact .inl ⟨s.temp, rfl⟩
  | _ => contradiction

theorem stageImport_kept : LiveKept config s (s.run env (stageImport config headers addr body)).2 := by
  let kept : Storage → Prop := fun after => LiveKept config s after ∧ s.next ≤ after.next
  have start : kept s := ⟨⟨rfl, rfl, fun _ _ => rfl, id⟩, Nat.le_refl _⟩
  have ended : kept (s.run env (stageImport config headers addr body)).2 := by
    refine Storage.run_keeps kept stageImport_beside ?_ start
    rintro middle x beside ⟨here, old⟩
    rcases beside.answer middle env with ⟨files, same⟩ | ⟨content, staged⟩
    · rw [same]
      exact ⟨⟨here.file, here.pool, here.content, here.together⟩, old⟩
    · rw [staged]
      exact ⟨here.create old, Nat.le_succ_of_le old⟩
  exact ended.1

/-- The request and the archive pass every check, and the operations on them succeed. -/
structure Stages (config : Config) (env : Environment) (headers : HeaderMap) (addr : IpAddr)
    (body : Bytes) (db : Bytes) : Prop where
  admin : checkAdmin headers addr config = .ok ()
  tempdir : env.failure .tempdir = none
  unpack : env.failure (.unpack body) = none
  readEnv : env.failure (.readTemp ".env") = none
  readDb : env.failure (.readTemp "pwd_manager.db") = none
  archive : ∃ files dotenv, Archive.unpack body = .ok files ∧ files.lookup ".env" = some dotenv ∧
    checkSecrets config dotenv = .ok () ∧ files.lookup "pwd_manager.db" = some db
  write : env.failure (.write (stagedPath config) db) = none
  establish : env.failure (.establish (stagedPath config)) = none

theorem stageImport_ok {v : Unit} :
    s.run env (stageImport config headers addr body) = (.ok v, after) ↔
      ∃ db files, Stages config env headers addr body db ∧ Archive.unpack body = .ok files ∧
        after = Storage.create { s with temp := files } (stagedPath config) db := by
  simp only [stageImport, Storage.run_bind_ok, Storage.run_attempt_ok, Storage.tempdir_ok,
    Storage.unpack_ok, Storage.readTemp_ok, Storage.write_ok, Storage.establish_ok]
  constructor
  · rintro ⟨_, _, ⟨admin, rfl⟩, _, _, ⟨tempdir, rfl⟩, _, _, ⟨unpack, files, unpacked, rfl⟩,
      dotenv, _, ⟨readEnv, named, rfl⟩, _, _, ⟨secrets, rfl⟩, db, _, ⟨readDb, found, rfl⟩,
      _, _, ⟨write, rfl⟩, establish, rfl⟩
    exact ⟨db, files, ⟨admin, tempdir, unpack, readEnv, readDb,
      ⟨files, dotenv, unpacked, named, secrets, found⟩, write, establish⟩, unpacked, Storage.touch_create⟩
  · rintro ⟨db, files, stages, unpacked, rfl⟩
    obtain ⟨files', dotenv, unpacked', named, secrets, found⟩ := stages.archive
    obtain rfl := Except.ok.inj (unpacked.symm.trans unpacked')
    exact ⟨(), _, ⟨stages.admin, rfl⟩, (), _, ⟨stages.tempdir, rfl⟩, (), _,
      ⟨stages.unpack, files, unpacked, rfl⟩, dotenv, _, ⟨stages.readEnv, named, rfl⟩, (), _,
      ⟨secrets, rfl⟩, db, _, ⟨stages.readDb, found, rfl⟩, (), _, ⟨stages.write, rfl⟩,
      stages.establish, Storage.touch_create.symm⟩

/-! ## Replacing the live file -/

/-- What is left to do once the staged file has been renamed. -/
def reopen (config : Config) : Files Unit := do
  fileOr .pool (file (.initPool config.databaseUrl config.dbPoolSize))
  let pool ← file .clonePool
  runMigrations pool

theorem swapDatabase_run {staged : String} :
    s.run env (swapDatabase config staged) = s.run env (do
      fileOr (fun e => .internal ("rename db failed: " ++ e))
        (file (.rename staged config.databaseUrl))
      fileOr .pool (file (.initPool config.databaseUrl config.dbPoolSize))) := by
  unfold swapDatabase
  rw [Storage.run_bind, Storage.run_lockPool]
  simp only
  rw [Storage.run_bind, Storage.run_caught]
  simp only
  rw [Storage.run_bind, Storage.run_unlockPool]
  rcases s.run env _ with ⟨_ | _, after⟩ <;> rfl

theorem replaceLive_run :
    s.run env (replaceLive config) = s.run env (do
      fileOr (fun e => .internal ("rename db failed: " ++ e))
        (file (.rename (stagedPath config) config.databaseUrl))
      reopen config) := by
  unfold replaceLive reopen
  rw [Storage.run_bind, swapDatabase_run, ← Storage.run_bind, bind_assoc]

/-- The pool is rebuilt on the file, gives a connection, and the migrations succeed. -/
structure Reopens (config : Config) (env : Environment) (file : Nat) : Prop where
  initPool : env.failure (.initPool config.databaseUrl config.dbPoolSize) = none
  poolGet : env.failure (.poolGet ⟨file⟩) = none
  migrations : env.failure (.runPendingMigrations ⟨file⟩) = none

theorem migrate_ok {v : Unit} :
    s.run env (do
      let pool ← file .clonePool
      runMigrations pool) = (.ok v, after) ↔
      env.failure (.poolGet s.pool) = none ∧ env.failure (.runPendingMigrations ⟨s.pool.file⟩) = none ∧
        after = s.overwrite s.pool.file (Sqlite.migrate (s.content s.pool.file)) := by
  rw [Storage.run_clonePool]
  simp only [runMigrations, poolGet, Storage.run_bind_ok, Storage.poolGet_ok,
    Storage.runPendingMigrations_ok]
  constructor
  · rintro ⟨_, _, ⟨poolGet, rfl, rfl⟩, migrations, rfl⟩
    exact ⟨poolGet, migrations, rfl⟩
  · rintro ⟨poolGet, migrations, rfl⟩
    exact ⟨_, _, ⟨poolGet, rfl, rfl⟩, migrations, rfl⟩

theorem reopen_ok {file : Nat} (named : s.directory config.databaseUrl = some file) {v : Unit} :
    s.run env (reopen config) = (.ok v, after) ↔ Reopens config env file ∧
      after = (s.connect config.databaseUrl file named).overwrite file
        (Sqlite.migrate (s.content file)) := by
  unfold reopen
  rw [Storage.run_bind_ok]
  constructor
  · rintro ⟨_, middle, connected, migrated⟩
    obtain ⟨initPool, rfl⟩ := (Storage.initPool_ok named).mp connected
    obtain ⟨poolGet, migrations, rfl⟩ := migrate_ok.mp migrated
    exact ⟨⟨initPool, poolGet, migrations⟩, rfl⟩
  · rintro ⟨opens, rfl⟩
    exact ⟨(), _, (Storage.initPool_ok named).mpr ⟨opens.initPool, rfl⟩,
      migrate_ok.mpr ⟨opens.poolGet, opens.migrations, rfl⟩⟩

/-- An operation of reopening; it renames no file. -/
def Reopening (config : Config) : FileAction → Prop
  | .clonePool | .poolGet _ | .runPendingMigrations _ => True
  | .initPool path _ => path = config.databaseUrl
  | _ => False

omit [Archive] [Sqlite] in
theorem reopen_only : Storage.Only (Reopening config) (reopen config) := by
  refine Storage.only_bind (Storage.only_fileOr (Storage.only_file rfl)) fun _ => ?_
  refine Storage.only_bind (Storage.only_file trivial) fun pool => ?_
  refine Storage.only_bind (Storage.only_fileOr (Storage.only_file trivial)) fun conn => ?_
  exact Storage.only_fileOr (Storage.only_file trivial)

/-- Whether or not reopening succeeds, the renamed file stays the live one. -/
theorem reopen_stays {file : Nat} (named : s.directory config.databaseUrl = some file) :
    (s.run env (reopen config)).2.directory config.databaseUrl = some file := by
  let kept : Storage → Prop := fun s => s.directory config.databaseUrl = some file
  refine Storage.run_keeps kept reopen_only ?_ named
  intro s x reopening here
  unfold Storage.answer
  cases x with
  | clonePool => split <;> exact here
  | poolGet pool => split <;> exact here
  | runPendingMigrations conn => split <;> exact here
  | initPool path size =>
    obtain rfl : path = config.databaseUrl := reopening
    split
    · simp only [Storage.perform]
      split
      · exact here
      · rename_i unnamed
        cases unnamed.symm.trans here
    · exact here
  | _ => contradiction

/-! ## The whole import -/

/-- The live file is replaced, and after that the pool or the migrations fail. -/
structure FailsLate (config : Config) (env : Environment) (headers : HeaderMap) (addr : IpAddr)
    (body : Bytes) (file : Nat) : Prop where
  stages : ∃ db, Stages config env headers addr body db
  rename : env.failure (.rename (stagedPath config) config.databaseUrl) = none
  stuck : ¬Reopens config env file

/-- A staged import whose rename fails ends with that error, and otherwise goes on to reopen the
live database, which is the staged file now. -/
theorem replaceLive_staged {file : Nat} (named : s.directory (stagedPath config) = some file) :
    (env.failure (.rename (stagedPath config) config.databaseUrl) ≠ none ∧
      ∃ e, s.run env (replaceLive config) = (.error e, s)) ∨
    (env.failure (.rename (stagedPath config) config.databaseUrl) = none ∧
      s.run env (replaceLive config) =
        (s.move (stagedPath config) config.databaseUrl file named).run env (reopen config)) := by
  rw [replaceLive_run, Storage.run_bind]
  rcases renamed : env.failure (.rename (stagedPath config) config.databaseUrl) with _ | message
  · right
    rw [(Storage.rename_ok (v := ())).mpr ⟨renamed, file, named, rfl⟩]
    exact ⟨rfl, rfl⟩
  · left
    rw [Storage.rename_error renamed]
    exact ⟨nofun, _, rfl⟩

/-- An import that is not staged fails with the database and the pool left alone. -/
theorem importHandler_unstaged (unstaged : ¬∃ db, Stages config env headers addr body db) :
    ∃ e after, s.run env (importHandler config headers addr body) = (.error e, after) ∧
      LiveKept config s after := by
  have kept : LiveKept config s (s.run env (stageImport config headers addr body)).2 := stageImport_kept
  rw [importHandler_eq, Storage.run_bind]
  rcases staging : s.run env (stageImport config headers addr body) with ⟨e | v, after⟩
  · rw [staging] at kept
    exact ⟨e, after, rfl, kept⟩
  · obtain ⟨db, files, stages, -⟩ := stageImport_ok.mp staging
    exact absurd ⟨db, stages⟩ unstaged

theorem importHandler_staged {db : Bytes} (stages : Stages config env headers addr body db) :
    ∃ staged : Storage, staged.directory (stagedPath config) = some s.next ∧
      staged.content s.next = db ∧ LiveKept config s staged ∧
      s.run env (importHandler config headers addr body) = staged.run env (replaceLive config) := by
  have kept : LiveKept config s (s.run env (stageImport config headers addr body)).2 := stageImport_kept
  obtain ⟨files, dotenv, unpacked, -⟩ := stages.archive
  have staging := (stageImport_ok (v := ()) (s := s)).mpr ⟨db, files, stages, unpacked, rfl⟩
  rw [importHandler_eq, Storage.run_bind, staging]
  rw [staging] at kept
  exact ⟨_, Function.update_self .., Function.update_self .., kept, rfl⟩

theorem import_fails_late (late : FailsLate config env headers addr body s.next) :
    (∃ e, (s.run env (importHandler config headers addr body)).1 = .error e) ∧
      ¬LiveKept config s (s.run env (importHandler config headers addr body)).2 := by
  obtain ⟨⟨db, stages⟩, renamed, stuck⟩ := late
  obtain ⟨staged, named, -, -, same⟩ := importHandler_staged (s := s) stages
  rcases replaceLive_staged named with ⟨failed, -⟩ | ⟨-, reopening⟩
  · exact absurd renamed failed
  · have live : (staged.move (stagedPath config) config.databaseUrl s.next named).directory
        config.databaseUrl = some s.next := Function.update_self ..
    rw [same, reopening]
    constructor
    · rcases reopened : Storage.run env (reopen config) _ with ⟨e | v, after⟩
      · exact ⟨e, rfl⟩
      · exact absurd ((reopen_ok live).mp reopened).1 stuck
    · -- The live file is one that did not exist before the request.
      intro kept
      have file := kept.file
      rw [reopen_stays live] at file
      exact absurd (s.named_exists _ _ file.symm) (Nat.lt_irrefl _)

theorem import_fails_early (early : ¬FailsLate config env headers addr body s.next)
    (failed : ∃ e, (s.run env (importHandler config headers addr body)).1 = .error e) :
    LiveKept config s (s.run env (importHandler config headers addr body)).2 := by
  by_cases stages : ∃ db, Stages config env headers addr body db
  · obtain ⟨db, stages⟩ := stages
    obtain ⟨staged, named, -, kept, same⟩ := importHandler_staged (s := s) stages
    rw [same] at failed ⊢
    rcases replaceLive_staged named with ⟨-, e, ended⟩ | ⟨renamed, reopening⟩
    · rw [ended]
      exact kept
    · have live : (staged.move (stagedPath config) config.databaseUrl s.next named).directory
          config.databaseUrl = some s.next := Function.update_self ..
      refine absurd ⟨⟨db, stages⟩, renamed, fun opens => ?_⟩ early
      obtain ⟨e, failed⟩ := failed
      rw [reopening, (reopen_ok live (v := ())).mpr ⟨opens, rfl⟩] at failed
      cases failed
  · obtain ⟨e, after, ended, kept⟩ := importHandler_unstaged (s := s) stages
    rw [ended]
    exact kept

/-- An import that fails leaves the database and the pool as they were, exactly if it does not fail
after the live file was replaced. -/
theorem import_all_or_nothing :
    ((∃ e, (s.run env (importHandler config headers addr body)).1 = .error e) →
      LiveKept config s (s.run env (importHandler config headers addr body)).2) ↔
      ¬FailsLate config env headers addr body s.next := by
  refine ⟨fun allOrNothing late => ?_, fun early failed => import_fails_early early failed⟩
  obtain ⟨failed, replaced⟩ := import_fails_late late
  exact replaced (allOrNothing failed)

omit [Sqlite] in
/-- The archive of an export passes every check of an import, and the database that it was made
from is staged. -/
theorem exported_stages (lossless : Lossless) {now : NaiveDateTime} {db archive : Bytes}
    (packed : Archive.pack (exportFiles config now db) = .ok archive)
    (admin : checkAdmin headers addr config = .ok ())
    (calm : ∀ x, Beside config x → env.failure x = none) :
    Stages config env headers addr archive db where
  admin := admin
  tempdir := calm _ trivial
  unpack := calm _ trivial
  readEnv := calm _ trivial
  readDb := calm _ trivial
  archive := ⟨_, _, lossless _ _ packed, rfl, checkSecrets_envContent config, rfl⟩
  write := calm _ rfl
  establish := calm _ rfl

/-- Everything works but the migrations. -/
def rejects : Environment where
  failure
    | .runPendingMigrations _ => some "table identities already exists"
    | _ => none

omit [Archive] [Sqlite] in
/-- An exported archive whose database the migrations reject: the request is answered with an error,
and the live database is the one of the archive. -/
theorem import_error_replaces :
    letI := plainArchive
    letI := plainSqlite
    ∃ (config : Config) (env : Environment) (headers : HeaderMap) (addr : IpAddr) (body : Bytes)
      (s : Storage),
      (∃ e, (s.run env (importHandler config headers addr body)).1 = .error e) ∧
        ¬LiveKept config s (s.run env (importHandler config headers addr body)).2 := by
  let _ := plainArchive
  let _ := plainSqlite
  let body : Bytes := (exportFiles plainConfig 0 [1]).flatMap frameFile
  have stages : Stages plainConfig rejects adminHeaders localhost body [1] :=
    exported_stages plain_lossless rfl plain_admin fun x beside => by
      cases x <;> first | rfl | contradiction
  have late : FailsLate plainConfig rejects adminHeaders localhost body (plainStorage []).next :=
    ⟨⟨[1], stages⟩, rfl, fun opens => Option.some_ne_none _ opens.migrations⟩
  exact ⟨_, _, _, _, _, _, import_fails_late late⟩

end PasswordManager
