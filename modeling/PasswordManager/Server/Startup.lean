import PasswordManager.Server.Backend
import PasswordManager.Server.Naming
import PasswordManager.Server.Runs

/-!
# Starting, stopping and starting again

`main` opens the pool on the database file and migrates it before it serves. As long as nothing is
imported, a server over files is the server over rows, whenever its process is stopped and started
again.
-/

namespace PasswordManager
open Interaction

/-- What `main` does before it serves. -/
def startUp (config : Config) : Files Unit := do
  fileOr .pool (file (.initPool config.databaseUrl config.dbPoolSize))
  let pool ← file .clonePool
  runMigrations pool

section
variable [Archive] [Sqlite] {config : Config} {env : Environment} {s after : Storage} {v : Unit}

theorem initPool_reached
    (opened : s.run env (fileOr .pool (file (.initPool config.databaseUrl config.dbPoolSize))) = (.ok v, after)) :
    ∃ f, after.directory config.databaseUrl = some f ∧ after.pool = ⟨f⟩ ∧
      (s.directory config.databaseUrl = some f ∧ after.content = s.content ∨
        s.directory config.databaseUrl = none ∧ after.content f = []) := by
  cases named : s.directory config.databaseUrl with
  | some f =>
    obtain ⟨-, rfl⟩ := (Storage.initPool_ok named).mp opened
    exact ⟨f, named, rfl, .inl ⟨rfl, rfl⟩⟩
  | none =>
    have answered := Storage.run_file_ok.mp (Storage.run_fileOr_ok.mp opened)
    unfold Storage.answer at answered
    split at answered
    · simp only [Storage.perform] at answered
      split at answered
      · rename_i f here
        cases named.symm.trans here
      · obtain ⟨-, rfl⟩ := Prod.mk.inj answered
        exact ⟨s.next, Function.update_self .., rfl, .inr ⟨rfl, Function.update_self ..⟩⟩
    · cases (Prod.mk.inj answered).1

/-- A start leaves the pool on the file at `database_url`, made if it was missing, and migrated. -/
theorem startUp_ok (started : s.run env (startUp config) = (.ok v, after)) :
    ∃ f, after.directory config.databaseUrl = some f ∧ after.pool = ⟨f⟩ ∧
      (s.directory config.databaseUrl = some f ∧ after.content f = Sqlite.migrate (s.content f) ∨
        s.directory config.databaseUrl = none ∧ after.content f = Sqlite.migrate []) := by
  unfold startUp at started
  obtain ⟨_, middle, opened, rest⟩ := Storage.run_bind_ok.mp started
  obtain ⟨f, named, pool, content⟩ := initPool_reached opened
  rw [Storage.run_clonePool] at rest
  unfold runMigrations poolGet at rest
  obtain ⟨conn, taken, got, migrated⟩ := Storage.run_bind_ok.mp rest
  obtain ⟨-, rfl, rfl⟩ := Storage.poolGet_ok.mp got
  obtain ⟨-, rfl⟩ := Storage.runPendingMigrations_ok.mp migrated
  rw [pool]
  refine ⟨f, named, pool, ?_⟩
  have written : (taken.overwrite f (Sqlite.migrate (taken.content f))).content f =
      Sqlite.migrate (taken.content f) := Function.update_self ..
  rcases content with ⟨here, same⟩ | ⟨missing, empty⟩
  · exact .inl ⟨here, by rw [written, same]⟩
  · exact .inr ⟨missing, by rw [written, empty]⟩

end

/-! ## Files and rows -/

variable [Crypto] [Archive] [Engine] {config : Config} {b : Backend} {db : Db} {f : Nat}

/-- Reading a file gives the rows that the last statement left in it. -/
def StoresRows : Prop :=
  ∀ content db, Current content → Engine.load (Engine.store content db) = some db

/-- The live file, which the pool is on, holds the rows. -/
structure LiveRows (config : Config) (f : Nat) (b : Backend) (db : Db) : Prop where
  live : b.storage.directory config.databaseUrl = some f
  pool : b.storage.pool = ⟨f⟩
  rows : Engine.load (b.storage.content f) = some db

omit [Crypto] [Archive] in
theorem LiveRows.kept {b' : Backend} (holds : LiveRows config f b db)
    (same : SameFiles b.storage b'.storage) : LiveRows config f b' db where
  live := same.directory ▸ holds.live
  pool := same.pool.trans holds.pool
  rows := by rw [same.content]; exact holds.rows

omit [Archive] in
/-- A statement on the live file acts on its rows. -/
theorem LiveRows.statement (stores : StoresRows) (holds : LiveRows config f b db) (t : Turn) (x : Action) :
    (b.statement config.databaseUrl t f x).1 = (x.answer t.choice db).1 ∧
      LiveRows config f (b.statement config.databaseUrl t f x).2 (x.answer t.choice db).2 := by
  have place : b.inPlace config.databaseUrl f = true := decide_eq_true holds.live
  unfold Backend.statement
  simp only [holds.rows, place]
  refine ⟨trivial, holds.live, holds.pool, ?_⟩
  show Engine.load (Function.update b.storage.content f _ f) = _
  rw [Function.update_self]
  refine stores _ _ ?_
  rw [Current, holds.rows]
  rfl

omit [Crypto] [Archive] [Engine] in
theorem exec_same {α β : Type} {p p' : Domain α} {g g' : α → Domain β}
    (first : ∀ w, Fallible.exec Effect.answer p w = Fallible.exec Effect.answer p' w)
    (next : ∀ v w, Fallible.exec Effect.answer (g v) w = Fallible.exec Effect.answer (g' v) w)
    (w : (Nat → Chance) × Db) :
    Fallible.exec Effect.answer (p >>= g) w = Fallible.exec Effect.answer (p' >>= g') w := by
  rw [Fallible.exec_bind, Fallible.exec_bind, first]
  rcases Fallible.exec Effect.answer p' w with ⟨e | v, rest⟩
  · rfl
  · exact next v rest

omit [Archive] [Engine] in
/-- A transaction does not depend on the name of its connection. -/
theorem run_conn (t : SignUpTransaction) (conn conn' : Conn) (chance : Nat → Chance) (db : Db) :
    t.run conn chance db = t.run conn' chance db := by
  have body : ∀ w, Fallible.exec Effect.answer (t.body conn) w =
      Fallible.exec Effect.answer (t.body conn') w := by
    refine exec_same (fun _ => rfl) fun found => exec_same (fun _ => rfl) fun _ => ?_
    refine exec_same (fun _ => rfl) fun uuid => exec_same (fun _ => rfl) fun user => ?_
    exact exec_same (exec_same (fun _ => rfl) fun token =>
      exec_same (exec_same (fun _ => rfl) fun now _ => rfl) fun _ _ => rfl) fun _ _ => rfl
  unfold SignUpTransaction.run
  rw [body]

/-- Every action on the files is one on the rows, for some choice of the environment. -/
theorem LiveRows.answer (stores : StoresRows) (holds : LiveRows config f b db) (t : Turn) (rid : Nat)
    {x x' : Action} (same : SameAction f x x') :
    ∃ choice, LiveRows config f (b.answer config.databaseUrl t rid x).2 (x'.answer choice db).2 ∧
      SameExchange f ⟨x, (b.answer config.databaseUrl t rid x).1⟩ ⟨x', (x'.answer choice db).1⟩ := by
  cases same with
  | clonePool =>
    refine ⟨t.choice, holds.kept (b.fileAction_idle t.env rid rfl), ?_⟩
    have pool : (b.answer config.databaseUrl t rid (.file .clonePool)).1 = ⟨f⟩ :=
      Backend.fileAction_clonePool.trans holds.pool
    rw [pool]
    exact .clonePool
  | poolGet =>
    have kept := holds.kept (b.fileAction_idle t.env rid (x := .poolGet ⟨f⟩) rfl)
    cases got : (b.fileAction t.env rid (.poolGet ⟨f⟩)).1 with
    | ok conn =>
      obtain rfl := Backend.fileAction_poolGet got
      refine ⟨{ conn := .ok ⟨0⟩ }, kept, ?_⟩
      show SameExchange f (gotConn ⟨f⟩ (b.fileAction t.env rid (.poolGet ⟨f⟩)).1) _
      rw [got]
      exact .got
    | error message =>
      refine ⟨{ conn := .error message }, kept, ?_⟩
      show SameExchange f (gotConn ⟨f⟩ (b.fileAction t.env rid (.poolGet ⟨f⟩)).1) _
      rw [got]
      exact .noConn message
  | sql q =>
    obtain ⟨answered, kept⟩ := holds.statement stores t (.effect (.sql ⟨f⟩ q))
    refine ⟨t.choice, kept, ?_⟩
    show SameExchange f ⟨_, (b.statement config.databaseUrl t f (.effect (.sql ⟨f⟩ q))).1⟩ _
    rw [answered]
    exact .sql q _
  | transaction s =>
    obtain ⟨answered, kept⟩ := holds.statement stores t (.transaction ⟨f⟩ s)
    have renamed : Action.answer t.choice db (.transaction ⟨f⟩ s) =
        Action.answer t.choice db (.transaction ⟨0⟩ s) := run_conn s _ _ _ _
    rw [renamed] at answered kept
    refine ⟨t.choice, kept, ?_⟩
    show SameExchange f ⟨_, (b.statement config.databaseUrl t f (.transaction ⟨f⟩ s)).1⟩ _
    rw [answered]
    exact .transaction s _
  | plain nameless =>
    cases x with
    | transaction conn s => cases nameless
    | effect y =>
      cases y with
      | sql conn q => cases nameless
      | _ => exact ⟨t.choice, holds, .plain rfl _⟩
    | file y =>
      cases y with
      | now =>
        refine ⟨{ chance := fun _ => { clock := (b.fileAction t.env rid .now).1 } },
          holds.kept (b.fileAction_idle t.env rid rfl), .plain rfl _⟩
      | openFile path =>
        refine ⟨{ opened := (b.fileAction t.env rid (.openFile path)).1 },
          holds.kept (b.fileAction_idle t.env rid rfl), .plain rfl _⟩
      | readToEnd =>
        refine ⟨{ content := (b.fileAction t.env rid .readToEnd).1 },
          holds.kept (b.fileAction_idle t.env rid rfl), .plain rfl _⟩
      | _ => cases nameless

/-- The server over files looks like the server over rows. -/
def overRows (config : Config) (stores : StoresRows) (f : Nat) :
    Simulation (backend config) (server config) where
  asks demand req := demand = .request req
  action := SameAction f
  exchange := SameExchange f
  world := LiveRows config f
  handler := by
    rintro _ req rfl
    exact homed_serve config req
  answer t rid _ _ _ _ holds same _ := holds.answer stores t rid same
  background := nofun

/-! ## The life of a server -/

/-- The files of a server that has been started for the first time. -/
def FirstStart (config : Config) (s : Storage) : Prop :=
  ∃ disk env, disk.directory config.databaseUrl = none ∧
    Storage.run env (startUp config) disk = (.ok (), s)

/-- What a server goes through. Its process may stop at any moment: the files are what is left of it
when it is started again. -/
inductive Lives (config : Config) : BackendState → BackendState → Prop where
  | refl {c : BackendState} : Lives config c c
  | step {b c d : BackendState} (life : Lives config b c) (step : (backend config).Step c d) :
      Lives config b d
  | restart {b c : BackendState} {s : Storage} {env : Environment} (life : Lives config b c)
      (started : c.world.storage.run env (startUp config) = (.ok (), s)) :
      Lives config b { world := { storage := s }, trace := c.trace }

/-- The migrations make empty tables. -/
def CreatesTables : Prop := Engine.load (Engine.migrate []) = some Db.empty

/-- Nothing has been imported. -/
def OnlyRequests (tr : BackendTrace) : Prop :=
  ∀ rid demand, .start rid demand ∈ tr → ∃ req, demand = .request req

variable {c d : BackendState} {c' : ServerState} {s : Storage}

theorem FirstStart.mirrors (stores : StoresRows) (creates : CreatesTables) (first : FirstStart config s) :
    ∃ f, (overRows config stores f).Mirrors { world := { storage := s } } { world := Db.empty } := by
  obtain ⟨disk, env, fresh, started⟩ := first
  obtain ⟨f, live, pool, content⟩ := startUp_ok started
  refine ⟨f, ⟨live, pool, ?_⟩, fun _ => .none, .nil⟩
  rcases content with ⟨named, -⟩ | ⟨-, migrated⟩
  · cases fresh.symm.trans named
  · rw [migrated]
    exact creates

omit [Crypto] in
/-- A server that is started again finds the rows that it left. -/
theorem LiveRows.restarted (settled : NonePending) (holds : LiveRows config f b db) {env : Environment}
    (started : b.storage.run env (startUp config) = (.ok (), s)) : LiveRows config f { storage := s } db := by
  obtain ⟨f', live, pool, content⟩ := startUp_ok started
  rcases content with ⟨named, migrated⟩ | ⟨missing, -⟩
  · obtain rfl := Option.some.inj (named.symm.trans holds.live)
    refine ⟨live, pool, ?_⟩
    rw [migrated, settled _ _ holds.rows]
    exact holds.rows
  · cases holds.live.symm.trans missing

theorem lives_mirrored {stores : StoresRows} (settled : NonePending)
    (mirrors : (overRows config stores f).Mirrors c c') (life : Lives config c d)
    (requests : OnlyRequests d.trace) :
    ∃ d', (server config).CrashSteps c' d' ∧ (overRows config stores f).Mirrors d d' := by
  induction life with
  | refl => exact ⟨c', .refl, mirrors⟩
  | step life step ih =>
    obtain ⟨d', steps, mirrors'⟩ := ih fun rid demand started =>
      requests rid demand ((Machine.Steps.trace_suffix (.tail .refl step)).subset started)
    obtain ⟨e, next, mirrors''⟩ := mirrors'.step step requests
    exact ⟨e, steps.trans next.crashing, mirrors''⟩
  | restart life started ih =>
    obtain ⟨d', steps, mirrors'⟩ := ih requests
    exact ⟨_, steps.crash, mirrors'.crash (mirrors'.world.restarted settled started)⟩

/-- As long as nothing is imported, the server over files and connections is, through all crashes and
restarts, the server over rows: it receives the same requests and gives the same replies, and the file
at `database_url` holds the same rows. -/
theorem files_hold_rows (stores : StoresRows) (settled : NonePending) (creates : CreatesTables)
    (first : FirstStart config s) (life : Lives config { world := { storage := s } } c)
    (later : Lives config c d) (requests : OnlyRequests d.trace) :
    ∃ f c' d', (server config).CrashReachable c' ∧ (overRows config stores f).Mirrors c c' ∧
      (server config).CrashSteps c' d' ∧ (overRows config stores f).Mirrors d d' := by
  have earlier : c.trace <:+ d.trace := by
    induction later with
    | refl => exact List.suffix_rfl
    | step _ step ih =>
      have grown := Machine.Steps.trace_suffix (.tail .refl step)
      exact (ih fun rid demand started => requests rid demand (grown.subset started)).trans grown
    | restart _ _ ih => exact ih requests
  obtain ⟨f, mirrors⟩ := first.mirrors stores creates
  obtain ⟨c', steps, mirrors'⟩ := lives_mirrored settled mirrors life fun rid demand started =>
    requests rid demand (earlier.subset started)
  obtain ⟨d', steps', mirrors''⟩ := lives_mirrored settled mirrors' later requests
  exact ⟨f, c', d', steps, mirrors', steps', mirrors''⟩

end PasswordManager
