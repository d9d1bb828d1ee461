import PasswordManager.Server.Ordinary

/-!
# The course of an import

`import_handler` has no branches but its errors, so what it does next is determined by how far
it has come. `Stage` says how far that is, and `importer` that the handler keeps to it.
-/

namespace PasswordManager
open Interaction

/-- How far an import has come, with the database that it has found in its archive. -/
inductive Stage where
  | start | entered | unpacked | read
  | found (content : Bytes)
  | written (content : Bytes)
  | opened (content : Bytes)
  | locked (content : Bytes)
  | renamed (content : Bytes)
  | connected (content : Bytes)
  | swapped (content : Bytes)
  | cloned (content : Bytes) (pool : DbPool)
  | got (content : Bytes) (conn : Conn)
  | migrated (content : Bytes)
  /-- `swap_database` has failed and still holds the lock. -/
  | aborting (before : Stage)
  | failed (before : Stage)
  deriving DecidableEq

namespace Stage

/-- The next operation of an import of the archive. -/
def next (config : Config) (body : Bytes) : Stage → Option FileAction
  | start => some .tempdir
  | entered => some (.unpack body)
  | unpacked => some (.readTemp ".env")
  | read => some (.readTemp "pwd_manager.db")
  | found content => some (.write (stagedPath config) content)
  | written _ => some (.establish (stagedPath config))
  | opened _ => some .lockPool
  | locked _ => some (.rename (stagedPath config) config.databaseUrl)
  | renamed _ => some (.initPool config.databaseUrl config.dbPoolSize)
  | connected _ => some .unlockPool
  | swapped _ => some .clonePool
  | cloned _ pool => some (.poolGet pool)
  | got _ conn => some (.runPendingMigrations conn)
  | aborting _ => some .unlockPool
  | migrated _ | failed _ => none

/-- Where an operation takes the import. -/
def advance : Stage → Exchange FileAction.Answer → Stage
  | start, ⟨.tempdir, (.ok _ : Except String Unit)⟩ => entered
  | entered, ⟨.unpack _, (.ok _ : Except String Unit)⟩ => unpacked
  | unpacked, ⟨.readTemp _, (.ok _ : Except String Bytes)⟩ => read
  | read, ⟨.readTemp _, (.ok content : Except String Bytes)⟩ => found content
  | found content, ⟨.write _ _, (.ok _ : Except String Unit)⟩ => written content
  | written content, ⟨.establish _, (.ok _ : Except String Unit)⟩ => opened content
  | opened content, ⟨.lockPool, _⟩ => locked content
  | locked content, ⟨.rename _ _, (.ok _ : Except String Unit)⟩ => renamed content
  | locked content, ⟨.rename _ _, (.error _ : Except String Unit)⟩ => aborting (locked content)
  | renamed content, ⟨.initPool _ _, (.ok _ : Except String Unit)⟩ => connected content
  | renamed content, ⟨.initPool _ _, (.error _ : Except String Unit)⟩ => aborting (renamed content)
  | connected content, ⟨.unlockPool, _⟩ => swapped content
  | aborting before, ⟨.unlockPool, _⟩ => failed before
  | swapped content, ⟨.clonePool, (pool : DbPool)⟩ => cloned content pool
  | cloned content _, ⟨.poolGet _, (.ok conn : Except String Conn)⟩ => got content conn
  | got content _, ⟨.runPendingMigrations _, (.ok _ : Except String Unit)⟩ => migrated content
  | s, _ => failed s

def after (h : History FileAction.Answer) : Stage := h.foldr (fun e s => s.advance e) start

@[simp] theorem after_cons {e : Exchange FileAction.Answer} {h : History FileAction.Answer} :
    after (e :: h) = (after h).advance e := rfl

/-- The database that the import has written beside the live one. -/
def database : Stage → Option Bytes
  | written content | opened content | locked content | renamed content | connected content
  | swapped content | cloned content _ | got content _ | migrated content => some content
  | aborting before | failed before => before.database
  | _ => none

/-- The staged file is in place and the import may still rename it. -/
def staged : Stage → Bool
  | written _ | opened _ | locked _ => true
  | _ => false

def isRenamed : Stage → Bool
  | renamed _ | connected _ | swapped _ | cloned _ _ | got _ _ | migrated _ => true
  | aborting before | failed before => before.isRenamed
  | _ => false

/-- The pool is the one that the import has built. -/
def isConnected : Stage → Bool
  | connected _ | swapped _ | cloned _ _ | got _ _ | migrated _ => true
  | aborting before | failed before => before.isConnected
  | _ => false

/-- The import holds the pool's write lock. -/
def holds : Stage → Bool
  | locked _ | renamed _ | connected _ | aborting _ => true
  | _ => false

/-- `swap_database` has returned `Ok`. -/
def isSwapped : Stage → Bool
  | swapped _ | cloned _ _ | got _ _ | migrated _ => true
  | failed before => before.isConnected
  | _ => false

/-- `run_migrations` has returned `Ok`. -/
def isMigrated : Stage → Bool
  | migrated _ => true
  | aborting before | failed before => before.isMigrated
  | _ => false

/-- The import has ended, and not with success. -/
def stopped : Stage → Bool
  | start | read | failed _ => true
  | _ => false

theorem connected_of_swapped {s : Stage} (swapped : s.isSwapped) : s.isConnected := by
  cases s with
  | swapped | cloned | got | migrated => rfl
  | failed => exact swapped
  | _ => cases swapped

theorem advance_renamed {s : Stage} {e : Exchange FileAction.Answer} (was : s.isRenamed) :
    (s.advance e).isRenamed := by
  fun_cases advance s e
  all_goals first | rfl | exact was

theorem advance_swapped {s : Stage} {e : Exchange FileAction.Answer} (was : s.isSwapped) :
    (s.advance e).isSwapped := by
  fun_cases advance s e
  case case17 => exact connected_of_swapped was
  all_goals first | rfl | cases was

/-- Once nobody holds the lock, the pool that the import has built is there to stay. -/
theorem swapped_of_connected {s : Stage} (connected : s.isConnected) (free : s.holds = false) :
    s.isSwapped := by
  cases s with
  | connected | aborting => cases free
  | swapped | cloned | got | migrated => rfl
  | failed => exact connected
  | _ => cases connected

theorem renamed_of_connected {s : Stage} (connected : s.isConnected) : s.isRenamed := by
  induction s with
  | connected | swapped | cloned | got | migrated => rfl
  | aborting _ ih | failed _ ih => exact ih connected
  | _ => cases connected

theorem database_of_renamed {s : Stage} (renamed : s.isRenamed) : ∃ d, s.database = some d := by
  induction s with
  | renamed d | connected d | swapped d | cloned d | got d | migrated d => exact ⟨d, rfl⟩
  | aborting _ ih | failed _ ih => exact ih renamed
  | _ => cases renamed

theorem next_write {s : Stage} {config : Config} {body content : Bytes} {path : String}
    (next : s.next config body = some (.write path content)) : s = found content := by
  cases s <;> cases next
  rfl

theorem next_clonePool {s : Stage} {config : Config} {body : Bytes}
    (next : s.next config body = some .clonePool) : ∃ d, s = swapped d := by
  cases s <;> cases next
  exact ⟨_, rfl⟩

theorem advance_database {s : Stage} {config : Config} {body : Bytes} {x : FileAction} {a : x.Answer}
    (next : s.next config body = some x) (other : ∀ d, s ≠ found d) :
    (s.advance ⟨x, a⟩).database = s.database := by
  cases s with
  | found d => exact absurd rfl (other d)
  | opened | connected | swapped | aborting =>
    cases next
    rfl
  | migrated | failed => cases next
  | _ =>
    cases next
    rcases a with _ | _ <;> rfl

end Stage

/-- How far the import with this history has come. -/
def stageOf (h : History Action.Answer) : Stage := Stage.after (files h)

theorem stageOf_file {x : FileAction} {a : x.Answer} {h : History Action.Answer} :
    stageOf (⟨.file x, a⟩ :: h) = (stageOf h).advance ⟨x, a⟩ := rfl

section
variable {may : History FileAction.Answer → FileAction → Prop}
variable {bad : History FileAction.Answer → Failure → Prop} {h : History FileAction.Answer}
variable {α : Type}

/-- A file operation whose failure ends the handler. -/
theorem spec_fileOr {error : String → AppError} {p : Files (Except String α)}
    {good : History FileAction.Answer → α → Prop}
    (spec : Fallible.Spec may bad (fun h r => match r with
      | .ok v => good h v
      | .error m => bad h ⟨error m, .backend⟩) h p) :
    Fallible.Spec may bad good h (fileOr error p) := by
  unfold fileOr
  refine Fallible.spec_bind.mpr (Fallible.spec_mono (fun h r met => ?_) spec)
  cases r with
  | ok v => exact met
  | error m => exact met

/-- A part whose error is looked at before it is passed on. -/
theorem spec_caught {p : Files α} {good : History FileAction.Answer → Except Failure α → Prop}
    (spec : Fallible.Spec may (fun h e => good h (.error e)) (fun h v => good h (.ok v)) h p) :
    Fallible.Spec may bad good h (ExceptT.lift (ExceptT.run p) : Files (Except Failure α)) := by
  unfold Fallible.Spec
  rw [ExceptT.run_lift, ← bind_pure_comp, Prog.spec_bind]
  refine Prog.spec_mono (fun _ _ allowed => allowed) (fun h r met => ?_) spec
  cases r with
  | ok v => exact met
  | error e => exact met

end

/-- An import performs the next operation of its stage, and stops early or at the end. -/
theorem import_stages (config : Config) [Archive] (headers : HeaderMap) (addr : IpAddr) (body : Bytes) :
    Fallible.Spec (fun h x => (Stage.after h).next config body = some x)
      (fun h _ => (Stage.after h).stopped) (fun h _ => ∃ content, Stage.after h = .migrated content) []
      (importHandler config headers addr body) := by
  refine Fallible.spec_bind.mpr (spec_attempt.mpr ⟨fun _ _ => ?_, fun _ _ => rfl⟩)
  refine Fallible.spec_bind.mpr (spec_fileOr ⟨rfl, fun | .ok _ => ?_ | .error _ => rfl⟩)
  refine Fallible.spec_bind.mpr (spec_fileOr ⟨rfl, fun | .ok _ => ?_ | .error _ => rfl⟩)
  refine Fallible.spec_bind.mpr (spec_fileOr ⟨rfl, fun | .ok env => ?_ | .error _ => rfl⟩)
  refine Fallible.spec_bind.mpr (spec_attempt.mpr ⟨fun _ _ => ?_, fun _ _ => rfl⟩)
  refine Fallible.spec_bind.mpr (spec_fileOr ⟨rfl, fun | .ok importedDb => ?_ | .error _ => rfl⟩)
  refine Fallible.spec_bind.mpr (spec_fileOr ⟨rfl, fun | .ok _ => ?_ | .error _ => rfl⟩)
  refine Fallible.spec_bind.mpr (spec_fileOr ⟨rfl, fun | .ok _ => ?_ | .error _ => rfl⟩)
  refine Fallible.spec_bind.mpr (Fallible.spec_bind.mpr ⟨rfl, fun _ => ?_⟩)
  refine Fallible.spec_bind.mpr (spec_caught (Fallible.spec_bind.mpr ?_))
  refine spec_fileOr ⟨rfl, fun | .ok _ => spec_fileOr ⟨rfl, ?_⟩ | .error _ => ⟨rfl, fun _ => rfl⟩⟩
  rintro (m | ⟨⟩)
  · exact ⟨rfl, fun _ => rfl⟩
  refine Fallible.spec_bind.mpr ⟨rfl, fun _ => ?_⟩
  refine Fallible.spec_bind.mpr ⟨rfl, fun pool => ?_⟩
  refine Fallible.spec_bind.mpr (spec_fileOr ⟨rfl, fun | .ok conn => ?_ | .error _ => rfl⟩)
  exact spec_fileOr ⟨rfl, fun | .ok _ => ⟨importedDb, rfl⟩ | .error _ => rfl⟩

/-! ## Requests and imports -/

def Demand.isImport : Demand → Bool
  | .request _ => false
  | .import _ _ _ => true

/-- The write that stages an import's database. -/
abbrev stagedDb (config : Config) (content : Bytes) : Exchange Action.Answer :=
  ⟨.file (.write (stagedPath config) content), Except.ok ()⟩

/-- What a request or an import may do next. -/
def Conduct (config : Config) : Demand → History Action.Answer → Action → Prop
  | .request _, h, x => Usual h x
  | .import _ _ body, h, x => ∃ y, x = .file y ∧ (stageOf h).next config body = some y

/-- How a request or an import ends. -/
def Ends : Demand → History Action.Answer → Result → Prop
  | .request _, _, _ => True
  | .import _ _ _, h, .ok _ => ∃ content, stageOf h = .migrated content
  | .import _ _ _, h, .error _ => (stageOf h).stopped

theorem demand_spec (config : Config) [Crypto] [Archive] (demand : Demand) :
    Prog.Spec (Conduct config demand) (Ends demand) [] (demandHandler config demand).run := by
  cases demand with
  | request req =>
    refine Prog.spec_mono (fun _ _ allowed => allowed) (fun _ _ _ => trivial)
      (ordinary_serve config req [])
  | «import» headers addr body =>
    have allowed : ∀ h x, (Stage.after (files h)).next config body = some x →
        Conduct config (.import headers addr body) h (.file x) := fun h x next => ⟨x, rfl, next⟩
    have stages : Fallible.Spec (Conduct config (.import headers addr body))
        (fun h _ => (stageOf h).stopped) (fun h _ => ∃ content, stageOf h = .migrated content) []
        (demandHandler config (.import headers addr body)) :=
      Fallible.spec_map.mpr (spec_files (h := []) allowed (import_stages config headers addr body))
    refine Prog.spec_mono (fun _ _ may => may) (fun h r met => ?_) stages
    cases r with
    | ok v => exact met
    | error e => exact met

theorem backend_tracked [Crypto] [Archive] [Engine] {config : Config} {b : Backend}
    {c : BackendState} (reached : (backend config).Reachable b c) :
    (backend config).Tracked b (Conduct config) Ends c :=
  Machine.reachable_tracked (demand_spec config) reached

end PasswordManager
