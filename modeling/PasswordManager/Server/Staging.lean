import PasswordManager.Server.Importer

/-!
# Runs of imports

What any number of imports have in hand at any moment: what each has unpacked is its own archive,
and the file at the staging path, which they share, is not the live one nor the pool's.
-/

namespace PasswordManager
open Interaction

namespace Stage

/-- The database that the import has read from its archive. -/
def carried : Stage → Option Bytes
  | found content => some content
  | aborting before | failed before => before.carried
  | s => s.database

/-- The import will end with an error. -/
def broken : Stage → Bool
  | aborting _ | failed _ => true
  | _ => false

theorem carried_of_database {s : Stage} {d : Bytes} (written : s.database = some d) :
    s.carried = some d := by
  induction s with
  | aborting _ ih | failed _ ih => exact ih written
  | found => cases written
  | _ => exact written

theorem advance_carried {s : Stage} {config : Config} {body : Bytes} {x : FileAction} {a : x.Answer}
    (next : s.next config body = some x) (other : s ≠ read) :
    (s.advance ⟨x, a⟩).carried = s.carried := by
  cases s with
  | read => exact absurd rfl other
  | opened | connected | swapped | aborting =>
    cases next
    rfl
  | migrated | failed => cases next
  | _ =>
    cases next
    rcases a with _ | _ <;> rfl

/-- An import that stops after its rename has failed. -/
theorem broken_of_stopped {s : Stage} (renamed : s.isRenamed) (stopped : s.stopped) : s.broken := by
  cases s with
  | failed => rfl
  | start | read => cases renamed
  | _ => cases stopped

theorem advance_cloned {s : Stage} {config : Config} {body d : Bytes} {x : FileAction} {a : x.Answer}
    {pool : DbPool} (next : s.next config body = some x) (cloned : s.advance ⟨x, a⟩ = .cloned d pool) :
    (⟨x, a⟩ : Exchange FileAction.Answer) = ⟨.clonePool, pool⟩ := by
  cases s with
  | swapped =>
    cases next
    cases cloned
    rfl
  | opened | connected | aborting =>
    cases next
    cases cloned
  | migrated | failed => cases next
  | _ =>
    cases next
    rcases a with _ | _ <;> cases cloned

theorem advance_got {s : Stage} {config : Config} {body d : Bytes} {x : FileAction} {a : x.Answer}
    {conn : Conn} (next : s.next config body = some x) (got : s.advance ⟨x, a⟩ = .got d conn) :
    ∃ d pool, s = .cloned d pool ∧
      (⟨x, a⟩ : Exchange FileAction.Answer) = ⟨.poolGet pool, (.ok conn : Except String Conn)⟩ := by
  cases s with
  | cloned d pool =>
    cases next
    rcases a with _ | conn <;> cases got
    exact ⟨d, pool, rfl, rfl⟩
  | opened | connected | aborting | swapped =>
    cases next
    cases got
  | migrated | failed => cases next
  | _ =>
    cases next
    rcases a with _ | _ <;> cases got

end Stage

/-! ## Runs of imports -/

def OnlyImports (tr : BackendTrace) : Prop :=
  ∀ rid demand, .start rid demand ∈ tr → demand.isImport

section
variable [Crypto] [Archive] [Engine] {config : Config} {c : BackendState}

/-- What every step of an import keeps holds in every state of a run of imports. -/
theorem imports_run {P : Backend → BackendTrace → Prop} {w : Backend} (init : P w [])
    (start : ∀ b tr rid demand, (∀ e ∈ tr, e.rid ≠ rid) → P b tr → P b (.start rid demand :: tr))
    (reply : ∀ b tr rid demand r, P b tr → P b (.reply rid demand r :: tr))
    (act : ∀ (c : BackendState) rid headers addr body t y, (backend config).Reachable w c →
      OnlyImports c.trace → (∀ demand, .start rid demand ∈ c.trace ↔ demand = .import headers addr body) →
      (stageOf (own rid c.trace)).next config body = some y → P c.world c.trace →
      P (c.world.fileAction t rid y).2 (.act rid (.import headers addr body)
        ⟨.file y, (c.world.fileAction t rid y).1⟩ c.world (c.world.fileAction t rid y).2 :: c.trace))
    (reached : (backend config).Reachable w c) (only : OnlyImports c.trace) :
    P c.world c.trace := by
  induction reached with
  | refl => exact init
  | tail run step ih =>
    have earlier : OnlyImports _ := fun rid demand begun =>
      only rid demand ((Machine.Steps.tail .refl step).trace_suffix.subset begun)
    have holds := ih earlier
    have tracked := backend_tracked run
    cases step with
    | start rid demand unused => exact start _ _ rid demand unused holds
    | reply running => exact reply _ _ _ _ _ holds
    | background choice moved => cases moved
    | @act rid demand x k t running ready =>
      obtain ⟨live, spec⟩ := tracked.running _ _ _ running
      have mine := earlier rid demand live.1
      cases demand with
      | request req => cases mine
      | «import» headers addr body =>
        obtain ⟨y, rfl, next⟩ := spec.1
        refine act _ rid headers addr body t.env y run earlier (fun demand => ⟨fun begun => ?_, ?_⟩) next holds
        · exact tracked.traced.start_unique begun live.1
        · rintro rfl
          exact live.1

end

/-! ## The database of the archive -/

/-- The `pwd_manager.db` of an archive. -/
def archivedDb [Archive] (body : Bytes) : Option Bytes :=
  match Archive.unpack body with
  | .ok files => files.lookup "pwd_manager.db"
  | .error _ => none

/-- What an import has in its temporary directory and in memory is what its archive holds. -/
structure Unpacked [Archive] (body : Bytes) (s : Stage) (temp : List (String × Bytes)) : Prop where
  files : s = .unpacked ∨ s = .read → Archive.unpack body = .ok temp
  carried : ∀ d, s.carried = some d → archivedDb body = some d

section
variable [Archive] [Engine] {env : Environment} {rid : Nat} {b : Backend}

theorem fileAction_temp {other : Nat} (different : other ≠ rid) (x : FileAction) :
    (b.fileAction env rid x).2.temp other = b.temp other :=
  Function.update_of_ne different ..

theorem fileAction_unpack {body : Bytes} (done : (b.fileAction env rid (.unpack body)).1 = .ok ()) :
    Archive.unpack body = .ok ((b.fileAction env rid (.unpack body)).2.temp rid) := by
  simp only [Backend.fileAction, Storage.answer, Storage.perform, Storage.refuse,
    Function.update_self] at done ⊢
  split at done
  · split at done
    · rename_i unpacked
      exact unpacked
    · cases done
  · cases done

theorem readTemp_keeps (name : String) :
    (b.fileAction env rid (.readTemp name)).2.temp rid = b.temp rid := by
  simp only [Backend.fileAction, Storage.answer, Storage.perform, Storage.refuse, Function.update_self]
  split
  · split <;> rfl
  · rfl

theorem readTemp_found {name : String} {content : Bytes}
    (answered : (b.fileAction env rid (.readTemp name)).1 = .ok content) :
    (b.temp rid).lookup name = some content := by
  simp only [Backend.fileAction, Storage.answer, Storage.perform, Storage.refuse] at answered
  split at answered
  · split at answered
    · cases answered
      assumption
    · cases answered
  · cases answered

theorem Unpacked.step {config : Config} {body : Bytes} {s : Stage} {x : FileAction}
    (unpacked : Unpacked body s (b.temp rid)) (next : s.next config body = some x) :
    Unpacked body (s.advance ⟨x, (b.fileAction env rid x).1⟩) ((b.fileAction env rid x).2.temp rid) := by
  have kept : s ≠ .read → ∀ d, (s.advance ⟨x, (b.fileAction env rid x).1⟩).carried = some d →
      archivedDb body = some d := fun other d same =>
    unpacked.carried d ((Stage.advance_carried next other).symm.trans same)
  cases s with
  | entered =>
    cases next
    cases answered : (b.fileAction env rid (.unpack body)).1 with
    | error m => exact ⟨nofun, nofun⟩
    | ok v => exact ⟨fun _ => fileAction_unpack answered, nofun⟩
  | unpacked =>
    cases next
    refine ⟨fun _ => ?_, kept nofun⟩
    rw [readTemp_keeps]
    exact unpacked.files (.inl rfl)
  | read =>
    cases next
    have contents := unpacked.files (.inr rfl)
    cases answered : (b.fileAction env rid (.readTemp "pwd_manager.db")).1 with
    | error m => exact ⟨nofun, nofun⟩
    | ok content =>
      refine ⟨nofun, fun d same => ?_⟩
      cases same
      unfold archivedDb
      rw [contents]
      exact readTemp_found answered
  | migrated | failed => cases next
  | opened | connected | swapped | aborting =>
    cases next
    exact ⟨nofun, kept nofun⟩
  | _ =>
    cases next
    refine ⟨?_, kept nofun⟩
    rcases (b.fileAction env rid _).1 with _ | _ <;> exact nofun

variable [Crypto] {config : Config} {c : BackendState} {w : Backend}

/-- What every import has read is what its archive holds. -/
def AllUnpacked (b : Backend) (tr : BackendTrace) : Prop :=
  ∀ rid headers addr body, .start rid (.import headers addr body) ∈ tr →
    Unpacked body (stageOf (own rid tr)) (b.temp rid)

theorem imports_unpacked (reached : (backend config).Reachable w c) (only : OnlyImports c.trace) :
    AllUnpacked c.world c.trace := by
  refine imports_run (fun _ _ _ _ => nofun) ?_ ?_ ?_ reached only
  · intro b tr rid demand unused holds other headers addr body begun
    rw [own_start]
    rcases List.mem_cons.mp begun with new | old
    · cases new
      rw [own_unused unused]
      exact ⟨nofun, nofun⟩
    · exact holds other headers addr body old
  · intro b tr rid demand r holds other headers addr body begun
    rw [own_reply]
    exact holds other headers addr body (by simpa using begun)
  · intro c rid headers addr body t y run only mine next holds other headers' addr' body' begun
    have begun : .start other (.import headers' addr' body') ∈ c.trace := by simpa using begun
    have unpacked := holds other headers' addr' body' begun
    by_cases same : rid = other
    · subst same
      cases (mine _).mp begun
      rw [own_act_same, stageOf_file]
      exact unpacked.step next
    · rw [own_act_other same, fileAction_temp (Ne.symm same)]
      exact unpacked

end

/-! ## The staged file and the others -/

/-- The file exists and is not the staged one. -/
def Apart (config : Config) (s : Storage) (file : Nat) : Prop :=
  file < s.next ∧ s.directory (stagedPath config) ≠ some file

section
variable {config : Config} {s s' : Storage} {file : Nat}

theorem SameFiles.apart (same : SameFiles s s') (apart : Apart config s file) : Apart config s' file := by
  unfold Apart
  rw [same.next, same.directory]
  exact apart

theorem Created.apart {content : Bytes} (created : Created s s' (stagedPath config) content)
    (apart : Apart config s file) : Apart config s' file := by
  have old := apart.1
  refine ⟨by rw [created.next]; omega, fun staged => ?_⟩
  rw [created.directory, Function.update_self] at staged
  cases staged
  omega

theorem Moved.unstaged {moved : Nat} (renamed : Moved s s' (stagedPath config) config.databaseUrl moved) :
    s'.directory (stagedPath config) = none := by
  rw [renamed.directory, Function.update_of_ne (stagedPath_ne config).symm, Function.update_self]

theorem Moved.apart {moved : Nat} (renamed : Moved s s' (stagedPath config) config.databaseUrl moved)
    (old : file < s.next) : Apart config s' file := by
  refine ⟨by rw [renamed.next]; exact old, ?_⟩
  rw [renamed.unstaged]
  exact nofun

theorem Connected.apart {f : Nat} (connected : Connected s s' f) (apart : Apart config s file) :
    Apart config s' file := by
  unfold Apart
  rw [connected.next, connected.directory]
  exact apart

theorem Rewritten.apart {f : Nat} {content : Bytes} (rewritten : Rewritten s s' f content)
    (apart : Apart config s file) : Apart config s' file := by
  unfold Apart
  rw [rewritten.next, rewritten.directory]
  exact apart

end

/-- The live database and the pool are not on the staged file, and neither is what an import holds. -/
structure Placement (config : Config) (b : Backend) (tr : BackendTrace) : Prop where
  url : ∃ file, b.storage.directory config.databaseUrl = some file ∧ Apart config b.storage file
  pool : Apart config b.storage b.storage.pool.file
  cloned : ∀ rid d pool, stageOf (own rid tr) = .cloned d pool → Apart config b.storage pool.file
  got : ∀ rid d conn, stageOf (own rid tr) = .got d conn → Apart config b.storage conn.file

section
variable [Archive] [Engine] {config : Config} {env : Environment} {rid : Nat} {b : Backend}
  {tr : BackendTrace}

theorem fileAction_opens (path : String) :
    SameFiles b.storage (b.fileAction env rid (.establish path)).2.storage ∨
      b.storage.directory path = none ∧
        Created b.storage (b.fileAction env rid (.establish path)).2.storage path [] := by
  cases named : b.storage.directory path with
  | some file => exact .inl (b.fileAction_establish env rid named)
  | none =>
    simp only [Backend.fileAction, Storage.answer, Storage.perform, Storage.refuse, Storage.touch, named]
    split
    · exact .inr ⟨trivial, rfl, rfl, rfl, rfl⟩
    · exact .inl ⟨rfl, rfl, rfl, rfl⟩

/-- What a step of an import does to the other files. -/
structure Settles (config : Config) (s s' : Storage) : Prop where
  apart : ∀ file, Apart config s file → Apart config s' file
  url : ∃ file, s'.directory config.databaseUrl = some file ∧ Apart config s' file
  pool : Apart config s' s'.pool.file

omit [Archive] [Engine] in
theorem Placement.settles_same {s' : Storage} (placement : Placement config b tr)
    (same : SameFiles b.storage s') : Settles config b.storage s' where
  apart _ apart := same.apart apart
  url := by
    obtain ⟨file, named, apart⟩ := placement.url
    exact ⟨file, same.directory ▸ named, same.apart apart⟩
  pool := by
    rw [same.pool]
    exact same.apart placement.pool

omit [Archive] [Engine] in
theorem Placement.settles_created {s' : Storage} {content : Bytes} (placement : Placement config b tr)
    (created : Created b.storage s' (stagedPath config) content) : Settles config b.storage s' where
  apart _ apart := created.apart apart
  url := by
    obtain ⟨file, named, apart⟩ := placement.url
    refine ⟨file, ?_, created.apart apart⟩
    rw [created.directory, Function.update_of_ne (stagedPath_ne config)]
    exact named
  pool := by
    rw [created.pool]
    exact created.apart placement.pool

theorem Placement.settles {s : Stage} {body : Bytes} {x : FileAction} (placement : Placement config b tr)
    (next : s.next config body = some x) :
    Settles config b.storage (b.fileAction env rid x).2.storage := by
  have idle : x.idle → Settles config b.storage (b.fileAction env rid x).2.storage := fun idle =>
    placement.settles_same (b.fileAction_idle env rid idle)
  cases s with
  | migrated | failed => cases next
  | found d =>
    cases next
    rcases b.fileAction_write env rid (stagedPath config) d with ⟨-, created⟩ | ⟨m, torn, -, created⟩
    · exact placement.settles_created created
    · exact placement.settles_created created
  | written d =>
    cases next
    rcases fileAction_opens (stagedPath config) with same | ⟨-, created⟩
    · exact placement.settles_same same
    · exact placement.settles_created created
  | locked d =>
    cases next
    rcases b.fileAction_rename env rid (stagedPath config) config.databaseUrl with
      ⟨-, file, moved⟩ | ⟨m, -, same⟩
    · refine ⟨fun f apart => moved.apart apart.1, ⟨file, ?_, ?_⟩, ?_⟩
      · rw [moved.directory, Function.update_self]
      · exact moved.apart (b.storage.named_exists _ _ moved.named)
      · rw [moved.pool]
        exact moved.apart placement.pool.1
    · exact placement.settles_same same
  | renamed d =>
    cases next
    obtain ⟨file, named, apart⟩ := placement.url
    rcases b.fileAction_initPool env rid config.dbPoolSize named with ⟨-, connected⟩ | ⟨m, -, same⟩
    · refine ⟨fun f apart => connected.apart apart, ⟨file, ?_, connected.apart apart⟩, ?_⟩
      · rw [connected.directory]
        exact named
      · rw [connected.pool]
        exact connected.apart apart
    · exact placement.settles_same same
  | got d conn =>
    cases next
    have rewritten : ∃ content, Rewritten b.storage
        (b.fileAction env rid (.runPendingMigrations conn)).2.storage conn.file content := by
      rcases b.fileAction_migrate env rid conn with ⟨-, -, rewritten⟩ | ⟨m, -, -, rewritten⟩
      · exact ⟨_, rewritten⟩
      · exact ⟨_, rewritten⟩
    obtain ⟨content, rewritten⟩ := rewritten
    obtain ⟨file, named, apart⟩ := placement.url
    refine ⟨fun f apart => rewritten.apart apart, ⟨file, ?_, rewritten.apart apart⟩, ?_⟩
    · rw [rewritten.directory]
      exact named
    · rw [rewritten.pool]
      exact rewritten.apart placement.pool
  | _ =>
    cases next
    exact idle rfl

theorem Placement.act {headers : HeaderMap} {addr : IpAddr} {body : Bytes} {x : FileAction}
    (placement : Placement config b tr) (next : (stageOf (own rid tr)).next config body = some x) :
    Placement config (b.fileAction env rid x).2 (.act rid (.import headers addr body)
      ⟨.file x, (b.fileAction env rid x).1⟩ b (b.fileAction env rid x).2 :: tr) := by
  have settles : Settles config b.storage (b.fileAction env rid x).2.storage := placement.settles next
  refine ⟨settles.url, settles.pool, fun other d pool cloned => ?_, fun other d conn got => ?_⟩
  · by_cases same : rid = other
    · subst same
      rw [own_act_same, stageOf_file] at cloned
      obtain ⟨rfl, same⟩ := Exchange.mk.inj (Stage.advance_cloned next cloned)
      rw [← eq_of_heq same, Backend.fileAction_clonePool]
      exact settles.apart _ placement.pool
    · rw [own_act_other same] at cloned
      exact settles.apart _ (placement.cloned other d pool cloned)
  · by_cases same : rid = other
    · subst same
      rw [own_act_same, stageOf_file] at got
      obtain ⟨d', pool, cloned, taken⟩ := Stage.advance_got next got
      obtain ⟨rfl, same⟩ := Exchange.mk.inj taken
      rw [Backend.fileAction_poolGet (eq_of_heq same)]
      exact settles.apart _ (placement.cloned rid d' pool cloned)
    · rw [own_act_other same] at got
      exact settles.apart _ (placement.got other d conn got)

variable [Crypto] {c : BackendState}

theorem imports_placement {s : Storage} (deployed : Deployed config s)
    (reached : (backend config).Reachable { storage := s } c) (only : OnlyImports c.trace) :
    Placement config c.world c.trace := by
  refine imports_run ?_ ?_ ?_ ?_ reached only
  · have apart : Apart config s s.pool.file := ⟨s.pool_exists, deployed.alone⟩
    exact ⟨⟨_, deployed.live, apart⟩, apart, nofun, nofun⟩
  · intro b tr rid demand unused placement
    refine ⟨placement.url, placement.pool, fun other => ?_, fun other => ?_⟩
    · rw [own_start]
      exact placement.cloned other
    · rw [own_start]
      exact placement.got other
  · intro b tr rid demand r placement
    refine ⟨placement.url, placement.pool, fun other => ?_, fun other => ?_⟩
    · rw [own_reply]
      exact placement.cloned other
    · rw [own_reply]
      exact placement.got other
  · intro c rid headers addr body t y run only mine next placement
    exact placement.act next

end

end PasswordManager
