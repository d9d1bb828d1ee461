import PasswordManager.Security.Import
import PasswordManager.Server.Crowd

/-!
# Restoring a backup

What is exported can be imported again as long as the archive fits the router's body limit. Nothing
bounds the database, so there are servers whose own backups are refused.
-/

namespace PasswordManager
open Interaction

/-- The file at `database_url` has the content, and the pool serves that file. -/
def Storage.Live (s : Storage) (config : Config) (content : Bytes) : Prop :=
  ∃ file, s.directory config.databaseUrl = some file ∧ s.pool = ⟨file⟩ ∧ s.content file = content

variable [Archive] [Sqlite] {config : Config} {env : Environment} {headers : HeaderMap} {addr : IpAddr}
  {body : Bytes} {s after : Storage}

theorem exportHandler_ok {archive : Bytes} :
    s.run env (exportHandler config headers addr) = (.ok archive, after) ↔
      checkAdmin headers addr config = .ok () ∧ env.failure (.openFile config.databaseUrl) = none ∧
        env.failure .readToEnd = none ∧ ∃ file, s.directory config.databaseUrl = some file ∧
          Archive.pack (exportFiles config env.clock (s.content file)) = .ok archive ∧
          after = { s with opened := file } := by
  unfold exportHandler
  simp only [Storage.run_bind_ok, Storage.run_attempt_ok, Storage.openFile_ok, Storage.readToEnd_ok]
  constructor
  · rintro ⟨_, _, ⟨admin, rfl⟩, _, _, ⟨opens, file, named, rfl⟩, db, _, ⟨reads, rfl, rfl⟩, rest⟩
    replace rest := Storage.run_bind_ok.mpr rest
    rw [Storage.run_now] at rest
    split at rest
    · rename_i packed
      cases rest
      exact ⟨admin, opens, reads, file, named, packed, rfl⟩
    · cases rest
  · rintro ⟨admin, opens, reads, file, named, packed, rfl⟩
    refine ⟨(), _, ⟨admin, rfl⟩, (), _, ⟨opens, file, named, rfl⟩, _, _, ⟨reads, rfl, rfl⟩,
      Storage.run_bind_ok.mp ?_⟩
    rw [Storage.run_now, packed]
    rfl

/-- `POST /admin/import` as the router serves it, with the response's status. -/
def importRoute (config : Config) (headers : HeaderMap) (addr : IpAddr) (body : Bytes) (env : Environment)
    (s : Storage) : Nat × Storage :=
  if requestBodyLimit < body.length then (413, s)
  else
    match s.run env (importHandler config headers addr body) with
    | (.ok (), after) => (200, after)
    | (.error e, after) => (e.error.status, after)

theorem importHandler_live {db : Bytes} (stages : Stages config env headers addr body db)
    (renamed : env.failure (.rename (stagedPath config) config.databaseUrl) = none)
    (opens : Reopens config env s.next) :
    ∃ after : Storage, s.run env (importHandler config headers addr body) = (.ok (), after) ∧
      after.Live config (Sqlite.migrate db) := by
  obtain ⟨staged, named, rfl, -, same⟩ := importHandler_staged (s := s) stages
  rcases replaceLive_staged named with ⟨failed, -⟩ | ⟨-, reopening⟩
  · exact absurd renamed failed
  · have live : (staged.move (stagedPath config) config.databaseUrl s.next named).directory
        config.databaseUrl = some s.next := Function.update_self ..
    rw [same, reopening, (reopen_ok live (v := ())).mpr ⟨opens, rfl⟩]
    exact ⟨_, rfl, s.next, live, rfl, Function.update_self ..⟩

/-- The import is answered with 200, and then the live database has the content. -/
def Restores (config : Config) (headers : HeaderMap) (addr : IpAddr) (archive : Bytes) (env : Environment)
    (s : Storage) (content : Bytes) : Prop :=
  (importRoute config headers addr archive env s).1 = 200 ∧
    (importRoute config headers addr archive env s).2.Live config content

/-- Importing what was exported restores the database as it was exported, at any later time,
exactly if the archive fits the body limit. -/
theorem backup_round_trip (lossless : Lossless) (nonePending : NonePending) {content archive : Bytes}
    {db : Db} (live : s.Live config content) (holds : Sqlite.Holds content db)
    (exported : s.run env (exportHandler config headers addr) = (.ok archive, after))
    {env' : Environment} {headers' : HeaderMap} {addr' : IpAddr} {later : Storage}
    (admin : checkAdmin headers' addr' config = .ok ()) (calm : ∀ x, env'.failure x = none) :
    Restores config headers' addr' archive env' later content ↔ archive.length ≤ requestBodyLimit := by
  obtain ⟨file, named, -, rfl⟩ := live
  obtain ⟨-, -, -, file', named', packed, -⟩ := exportHandler_ok.mp exported
  obtain rfl := Option.some.inj (named.symm.trans named')
  unfold Restores importRoute
  constructor
  · rintro ⟨answered, -⟩
    by_contra tooLong
    rw [if_pos (by omega)] at answered
    cases answered
  · intro fits
    obtain ⟨after, ended, restored⟩ := importHandler_live (s := later)
      (exported_stages lossless packed admin fun x _ => calm x) (calm _)
      ⟨calm _, calm _, calm _⟩
    rw [nonePending _ _ holds] at restored
    rw [if_neg (by omega), ended]
    exact ⟨rfl, restored⟩

omit [Archive] [Sqlite] in
theorem plain_live (content : Bytes) : (plainStorage content).Live plainConfig content :=
  ⟨0, rfl, rfl, rfl⟩

omit [Archive] [Sqlite] in
theorem plain_exported (content : Bytes) :
    letI := plainArchive
    letI := plainSqlite
    ∃ after, (plainStorage content).run {} (exportHandler plainConfig adminHeaders localhost) =
      (.ok (plainArchived content), after) :=
  letI := plainArchive
  letI := plainSqlite
  ⟨_, exportHandler_ok.mpr ⟨plain_admin, rfl, rfl, 0, rfl, rfl, rfl⟩⟩

omit [Archive] [Sqlite] in
/-- A server with one device restores its backup over another file. -/
theorem backup_round_trip_device :
    letI := plainArchive
    letI := plainSqlite
    let content := deviceRun.world.dump
    deviceRun.world.passwords ≠ [] ∧
      Restores plainConfig adminHeaders localhost (plainArchived content) {} (plainStorage [1]) content := by
  let _ := plainArchive
  let _ := plainSqlite
  have fits : deviceRun.world.passwords ≠ [] ∧
      (plainArchived deviceRun.world.dump).length ≤ requestBodyLimit := by decide +kernel
  obtain ⟨filled, fits⟩ := fits
  obtain ⟨after, exported⟩ := plain_exported deviceRun.world.dump
  have holds : Sqlite.Holds deviceRun.world.dump deviceRun.world := rfl
  exact ⟨filled, (backup_round_trip plain_lossless plain_none_pending (plain_live _) holds exported
    plain_admin fun _ => rfl).mpr fits⟩

omit [Archive] [Sqlite] in
/-- After 8192 devices have greeted a server that stores its files as they are, it does not take back
its own backup. -/
theorem large_backup_refused :
    letI := plainCrypto
    letI := plainArchive
    letI := plainSqlite
    ∃ c content archive, ∃ s after : Storage, (server plainConfig).Reachable c ∧
      s.Live plainConfig content ∧ Sqlite.Holds content c.world ∧
      s.run {} (exportHandler plainConfig adminHeaders localhost) = (.ok archive, after) ∧
      ¬Restores plainConfig adminHeaders localhost archive {} after content := by
  let _ := plainCrypto
  let _ := plainArchive
  let _ := plainSqlite
  obtain ⟨c, reached, tables, -⟩ := crowd_reachable (n := 8192) (by omega)
  let archive : Bytes := plainArchived c.world.dump
  obtain ⟨after, exported⟩ := plain_exported c.world.dump
  have large : requestBodyLimit < archive.length := by
    have rows := crowd_dump tables
    have whole : c.world.dump.length ≤ archive.length := by
      simp only [archive, plainArchived, exportFiles, List.flatMap_cons, frameFile,
        List.length_append, frame_length]
      omega
    unfold requestBodyLimit
    omega
  refine ⟨c, c.world.dump, archive, plainStorage c.world.dump, after, reached, plain_live _, rfl,
    exported, fun restored => ?_⟩
  have answered := restored.1
  rw [importRoute, if_pos large] at answered
  cases answered

end PasswordManager
