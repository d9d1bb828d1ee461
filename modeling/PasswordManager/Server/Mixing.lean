import PasswordManager.Server.Staging
import PasswordManager.Server.Swap

/-!
# Imports at the same time

Every import stages its database at the same path, and takes the pool's lock only to rename it.
An import that is not disturbed between the write and the rename installs its own database.
-/

namespace PasswordManager
open Interaction

/-! ## Whose database is staged -/

/-- The import that was the last to write at the staging path since the last rename. -/
def stagedBy : BackendTrace → Option Nat
  | [] => none
  | .act rid _ ⟨.file (.write _ _), _⟩ _ _ :: _ => some rid
  | .act _ _ ⟨.file (.rename _ _), (.ok _ : Except String Unit)⟩ _ _ :: _ => none
  | _ :: tr => stagedBy tr

/-- The rename of the staged database, done. -/
abbrev movedDb (config : Config) : Exchange Action.Answer :=
  ⟨.file (.rename (stagedPath config) config.databaseUrl), Except.ok ()⟩

/-- The import's rename has put the database at `database_url`. -/
def Installed (config : Config) (tr : BackendTrace) (rid : Nat) (d : Bytes) : Prop :=
  ∃ demand pre post file, .act rid demand (movedDb config) pre post ∈ tr ∧
    post.storage.directory config.databaseUrl = some file ∧ post.storage.content file = d

/-- One of the operations that follow the rename has failed. -/
def failsLate : Exchange Action.Answer → Bool
  | ⟨.file (.initPool _ _), (.error _ : Except String Unit)⟩ => true
  | ⟨.file (.poolGet _), (.error _ : Except String Conn)⟩ => true
  | ⟨.file (.runPendingMigrations _), (.error _ : Except String Unit)⟩ => true
  | _ => false

/-- Nobody has written the staging path between an import's own write and its rename, and nothing
fails after a rename. -/
structure ImportsUndisturbed (config : Config) (tr : BackendTrace) : Prop where
  own : ∀ rid demand pre post older, .act rid demand (movedDb config) pre post :: older <:+ tr →
    stagedBy older = some rid
  finished : ∀ rid demand e pre post, .act rid demand e pre post ∈ tr → failsLate e = false

theorem ImportsUndisturbed.earlier {config : Config} {older newer : BackendTrace}
    (undisturbed : ImportsUndisturbed config newer) (earlier : older <:+ newer) : ImportsUndisturbed config older where
  own rid demand pre post older here := undisturbed.own rid demand pre post older (here.trans earlier)
  finished rid demand e pre post member :=
    undisturbed.finished rid demand e pre post (earlier.subset member)

/-- What an undisturbed run of imports has staged and installed. -/
structure Owned (config : Config) (b : Backend) (tr : BackendTrace) : Prop where
  staged : ∀ rid d, stagedBy tr = some rid → (stageOf (own rid tr)).database = some d →
    ∃ file, b.storage.directory (stagedPath config) = some file ∧ b.storage.content file = d
  installed : ∀ rid d, Installed config tr rid d →
    (stageOf (own rid tr)).isRenamed ∧ (stageOf (own rid tr)).database = some d
  renamed : ∀ rid, (stageOf (own rid tr)).isRenamed → ∃ d, Installed config tr rid d
  intact : ∀ rid, (stageOf (own rid tr)).isRenamed → (stageOf (own rid tr)).broken = false

section
variable {config : Config} {b b' : Backend} {tr : BackendTrace} {rid : Nat}

theorem installed_cons {e : Event Action.Answer Demand Result Backend} {d : Bytes}
    (other : ∀ demand pre post, e ≠ .act rid demand (movedDb config) pre post) :
    Installed config (e :: tr) rid d ↔ Installed config tr rid d := by
  constructor
  · rintro ⟨demand, pre, post, file, member, put⟩
    rcases List.mem_cons.mp member with same | member
    · exact absurd same.symm (other demand pre post)
    · exact ⟨demand, pre, post, file, member, put⟩
  · rintro ⟨demand, pre, post, file, member, put⟩
    exact ⟨demand, pre, post, file, List.mem_cons_of_mem _ member, put⟩

/-- An event that is neither a write nor a rename. -/
theorem Owned.event (owned : Owned config b tr) {e : Event Action.Answer Demand Result Backend}
    (unstaged : stagedBy (e :: tr) = stagedBy tr)
    (other : ∀ rid demand pre post, e ≠ .act rid demand (movedDb config) pre post)
    (kept : ∀ file, b.storage.directory (stagedPath config) = some file →
      b'.storage.directory (stagedPath config) = some file ∧ b'.storage.content file = b.storage.content file)
    (database : ∀ rid, (stageOf (own rid (e :: tr))).database = (stageOf (own rid tr)).database)
    (renamed : ∀ rid, (stageOf (own rid (e :: tr))).isRenamed = (stageOf (own rid tr)).isRenamed)
    (intact : ∀ rid, (stageOf (own rid (e :: tr))).isRenamed → (stageOf (own rid (e :: tr))).broken = false) :
    Owned config b' (e :: tr) where
  staged r d staging written := by
    rw [unstaged] at staging
    rw [database] at written
    obtain ⟨file, named, content⟩ := owned.staged r d staging written
    obtain ⟨named', content'⟩ := kept file named
    exact ⟨file, named', content'.trans content⟩
  installed r d put := by
    rw [renamed, database]
    exact owned.installed r d ((installed_cons (other r)).mp put)
  renamed r was := by
    rw [renamed] at was
    obtain ⟨d, put⟩ := owned.renamed r was
    exact ⟨d, (installed_cons (other r)).mpr put⟩
  intact := intact

/-- A step of an import that neither writes nor renames. -/
theorem Owned.step (owned : Owned config b tr) {headers : HeaderMap} {addr : IpAddr} {body : Bytes}
    {s : Stage} {x : FileAction} {a : x.Answer} (stage : stageOf (own rid tr) = s)
    (unstaged : stagedBy (.act rid (.import headers addr body) ⟨.file x, a⟩ b b' :: tr) = stagedBy tr)
    (other : (⟨.file x, a⟩ : Exchange Action.Answer) ≠ movedDb config)
    (kept : ∀ file, b.storage.directory (stagedPath config) = some file →
      b'.storage.directory (stagedPath config) = some file ∧ b'.storage.content file = b.storage.content file)
    (database : (s.advance ⟨x, a⟩).database = s.database)
    (renamed : (s.advance ⟨x, a⟩).isRenamed = s.isRenamed)
    (intact : (s.advance ⟨x, a⟩).isRenamed → (s.advance ⟨x, a⟩).broken = false) :
    Owned config b' (.act rid (.import headers addr body) ⟨.file x, a⟩ b b' :: tr) := by
  subst stage
  refine owned.event unstaged ?_ kept (fun r => ?_) (fun r => ?_) (fun r => ?_)
  · rintro r demand pre post same
    exact other (Event.act.inj same).2.2.1
  · by_cases mine : rid = r
    · subst mine
      rw [own_act_same, stageOf_file, database]
    · rw [own_act_other mine]
  · by_cases mine : rid = r
    · subst mine
      rw [own_act_same, stageOf_file, renamed]
    · rw [own_act_other mine]
  · by_cases mine : rid = r
    · subst mine
      rw [own_act_same, stageOf_file]
      exact intact
    · rw [own_act_other mine]
      exact owned.intact r

theorem Owned.write (owned : Owned config b tr) {headers : HeaderMap} {addr : IpAddr} {body d content : Bytes}
    {a : Except String Unit} (stage : stageOf (own rid tr) = .found d)
    (created : Created b.storage b'.storage (stagedPath config) content) (whole : a = .ok () → content = d) :
    Owned config b' (.act rid (.import headers addr body)
      ⟨.file (.write (stagedPath config) d), a⟩ b b' :: tr) := by
  have unmoved : ∀ r d', Installed config (.act rid (.import headers addr body)
      ⟨.file (.write (stagedPath config) d), a⟩ b b' :: tr) r d' ↔ Installed config tr r d' :=
    fun r d' => installed_cons fun _ _ _ => nofun
  have early : (Stage.advance (.found d) ⟨.write (stagedPath config) d, a⟩).isRenamed = false := by
    rcases a with _ | _ <;> rfl
  constructor
  case staged =>
    intro r d' staging written
    cases staging
    rw [own_act_same, stageOf_file, stage] at written
    rcases a with m | _
    · cases written
    · cases written
      refine ⟨b.storage.next, ?_, ?_⟩
      · rw [created.directory, Function.update_self]
      · rw [created.content, Function.update_self, whole rfl]
  case installed =>
    intro r d' put
    have known := owned.installed r d' ((unmoved r d').mp put)
    by_cases mine : rid = r
    · subst mine
      rw [stage] at known
      cases known.1
    · rw [own_act_other mine]
      exact known
  case renamed =>
    intro r was
    by_cases mine : rid = r
    · subst mine
      rw [own_act_same, stageOf_file, stage, early] at was
      cases was
    · rw [own_act_other mine] at was
      obtain ⟨d', put⟩ := owned.renamed r was
      exact ⟨d', (unmoved r d').mpr put⟩
  case intact =>
    intro r was
    by_cases mine : rid = r
    · subst mine
      rw [own_act_same, stageOf_file, stage, early] at was
      cases was
    · rw [own_act_other mine] at was ⊢
      exact owned.intact r was

theorem Owned.rename (owned : Owned config b tr) {headers : HeaderMap} {addr : IpAddr} {body d : Bytes}
    {file : Nat} (stage : stageOf (own rid tr) = .locked d) (staging : stagedBy tr = some rid)
    (moved : Moved b.storage b'.storage (stagedPath config) config.databaseUrl file) :
    Owned config b' (.act rid (.import headers addr body) (movedDb config) b b' :: tr) := by
  obtain ⟨f, named, content⟩ := owned.staged rid d staging (by rw [stage]; rfl)
  obtain rfl := Option.some.inj (moved.named.symm.trans named)
  have after : stageOf (own rid (.act rid (.import headers addr body) (movedDb config) b b' :: tr)) =
      .renamed d := by
    rw [own_act_same, stageOf_file, stage]
    rfl
  constructor
  case staged => exact nofun
  case installed =>
    rintro r d' ⟨demand, pre, post, f, member, url, put⟩
    rcases List.mem_cons.mp member with new | old
    · cases new
      rw [after]
      refine ⟨rfl, ?_⟩
      rw [moved.directory, Function.update_self] at url
      cases url
      rw [← put, moved.content, content]
      rfl
    · have known := owned.installed r d' ⟨demand, pre, post, f, old, url, put⟩
      by_cases mine : rid = r
      · subst mine
        rw [stage] at known
        cases known.1
      · rw [own_act_other mine]
        exact known
  case renamed =>
    intro r was
    by_cases mine : rid = r
    · subst mine
      refine ⟨d, _, _, _, file, List.mem_cons_self, ?_, ?_⟩
      · rw [moved.directory, Function.update_self]
      · rw [moved.content, content]
    · rw [own_act_other mine] at was
      obtain ⟨d', demand, pre, post, f, member, put⟩ := owned.renamed r was
      exact ⟨d', demand, pre, post, f, List.mem_cons_of_mem _ member, put⟩
  case intact =>
    intro r was
    by_cases mine : rid = r
    · subst mine
      rw [after]
      rfl
    · rw [own_act_other mine] at was ⊢
      exact owned.intact r was

/-- The staged file stays as it is. -/
def StagedKept (config : Config) (s s' : Storage) : Prop :=
  ∀ file, s.directory (stagedPath config) = some file →
    s'.directory (stagedPath config) = some file ∧ s'.content file = s.content file

theorem SameFiles.stagedKept {s s' : Storage} (same : SameFiles s s') : StagedKept config s s' := by
  intro file named
  rw [same.directory, same.content]
  exact ⟨named, rfl⟩

theorem Connected.stagedKept {s s' : Storage} {f : Nat} (connected : Connected s s' f) :
    StagedKept config s s' := by
  intro file named
  rw [connected.directory, connected.content]
  exact ⟨named, rfl⟩

theorem Rewritten.stagedKept {s s' : Storage} {f : Nat} {content : Bytes}
    (rewritten : Rewritten s s' f content) (apart : Apart config s f) : StagedKept config s s' := by
  intro file named
  have other : file ≠ f := by
    rintro rfl
    exact apart.2 named
  rw [rewritten.directory, rewritten.content, Function.update_of_ne other]
  exact ⟨named, rfl⟩

variable [Archive] [Engine]

theorem Owned.act (owned : Owned config b tr) (placement : Placement config b tr) {t : Environment}
    {headers : HeaderMap} {addr : IpAddr} {body : Bytes} {x : FileAction}
    (next : (stageOf (own rid tr)).next config body = some x)
    (undisturbed : ImportsUndisturbed config (.act rid (.import headers addr body)
      ⟨.file x, (b.fileAction t rid x).1⟩ b (b.fileAction t rid x).2 :: tr)) :
    Owned config (b.fileAction t rid x).2 (.act rid (.import headers addr body)
      ⟨.file x, (b.fileAction t rid x).1⟩ b (b.fileAction t rid x).2 :: tr) := by
  have fine : failsLate ⟨.file x, (b.fileAction t rid x).1⟩ = false :=
    undisturbed.finished _ _ _ _ _ List.mem_cons_self
  have idle : x.idle → StagedKept config b.storage (b.fileAction t rid x).2.storage := fun idle =>
    (b.fileAction_idle t rid idle).stagedKept
  cases stage : stageOf (own rid tr) with
  | migrated | failed =>
    rw [stage] at next
    cases next
  | start =>
    rw [stage] at next
    cases next
    cases (b.fileAction t rid .tempdir).1 with
    | error m => exact owned.step stage rfl nofun (idle rfl) rfl rfl nofun
    | ok v => exact owned.step stage rfl nofun (idle rfl) rfl rfl nofun
  | entered =>
    rw [stage] at next
    cases next
    cases (b.fileAction t rid (.unpack body)).1 with
    | error m => exact owned.step stage rfl nofun (idle rfl) rfl rfl nofun
    | ok v => exact owned.step stage rfl nofun (idle rfl) rfl rfl nofun
  | unpacked =>
    rw [stage] at next
    cases next
    cases (b.fileAction t rid (.readTemp ".env")).1 with
    | error m => exact owned.step stage rfl nofun (idle rfl) rfl rfl nofun
    | ok v => exact owned.step stage rfl nofun (idle rfl) rfl rfl nofun
  | read =>
    rw [stage] at next
    cases next
    cases (b.fileAction t rid (.readTemp "pwd_manager.db")).1 with
    | error m => exact owned.step stage rfl nofun (idle rfl) rfl rfl nofun
    | ok v => exact owned.step stage rfl nofun (idle rfl) rfl rfl nofun
  | opened d =>
    rw [stage] at next
    cases next
    exact owned.step stage rfl nofun (idle rfl) rfl rfl nofun
  | connected d =>
    rw [stage] at next
    cases next
    exact owned.step stage rfl nofun (idle rfl) rfl rfl fun _ => rfl
  | swapped d =>
    rw [stage] at next
    cases next
    exact owned.step stage rfl nofun (idle rfl) rfl rfl fun _ => rfl
  | aborting before =>
    rw [stage] at next
    cases next
    refine owned.step stage rfl nofun (idle rfl) rfl rfl fun renamed => ?_
    have intact := owned.intact rid
    rw [stage] at intact
    cases intact renamed
  | cloned d pool =>
    rw [stage] at next
    cases next
    revert fine
    cases (b.fileAction t rid (.poolGet pool)).1 with
    | error m => exact nofun
    | ok conn => exact fun _ => owned.step stage rfl nofun (idle rfl) rfl rfl fun _ => rfl
  | written d =>
    rw [stage] at next
    cases next
    have kept : StagedKept config b.storage
        (b.fileAction t rid (.establish (stagedPath config))).2.storage := by
      rcases fileAction_opens (stagedPath config) with same | ⟨missing, -⟩
      · exact same.stagedKept
      · intro file named
        cases missing.symm.trans named
    cases (b.fileAction t rid (.establish (stagedPath config))).1 with
    | error m => exact owned.step stage rfl nofun kept rfl rfl nofun
    | ok v => exact owned.step stage rfl nofun kept rfl rfl nofun
  | renamed d =>
    rw [stage] at next
    cases next
    obtain ⟨file, named, -⟩ := placement.url
    revert fine
    rcases b.fileAction_initPool t rid config.dbPoolSize named with ⟨done, connected⟩ | ⟨m, failed, -⟩
    · rw [done]
      exact fun _ => owned.step stage rfl nofun connected.stagedKept rfl rfl fun _ => rfl
    · rw [failed]
      exact nofun
  | got d conn =>
    rw [stage] at next
    cases next
    have apart := placement.got rid d conn stage
    revert fine
    rcases b.fileAction_migrate t rid conn with ⟨-, done, rewritten⟩ | ⟨m, -, failed, -⟩
    · rw [done]
      exact fun _ => owned.step stage rfl nofun (rewritten.stagedKept apart) rfl rfl fun _ => rfl
    · rw [failed]
      exact nofun
  | found d =>
    rw [stage] at next
    cases next
    rcases b.fileAction_write t rid (stagedPath config) d with ⟨done, created⟩ | ⟨m, torn, failed, created⟩
    · rw [done]
      exact owned.write stage created fun _ => rfl
    · rw [failed]
      exact owned.write stage created nofun
  | locked d =>
    rw [stage] at next
    cases next
    revert undisturbed
    rcases b.fileAction_rename t rid (stagedPath config) config.databaseUrl with
      ⟨done, file, moved⟩ | ⟨m, failed, same⟩
    · rw [done]
      exact fun undisturbed =>
        owned.rename stage (undisturbed.own _ _ _ _ _ List.suffix_rfl) moved
    · rw [failed]
      exact fun _ => owned.step stage rfl nofun same.stagedKept rfl rfl nofun

variable [Crypto] {c : BackendState}

theorem imports_owned {s : Storage} (deployed : Deployed config s)
    (reached : (backend config).Reachable { storage := s } c) (only : OnlyImports c.trace)
    (undisturbed : ImportsUndisturbed config c.trace) : Owned config c.world c.trace := by
  refine imports_run (P := fun b tr => ImportsUndisturbed config tr → Owned config b tr) ?_ ?_ ?_ ?_ reached only
    undisturbed
  · intro _
    refine ⟨nofun, ?_, nofun, nofun⟩
    rintro rid d ⟨demand, pre, post, file, member, -⟩
    cases member
  · intro b tr rid demand unused holds undisturbed
    have owned := holds (undisturbed.earlier (List.suffix_cons _ _))
    refine owned.event rfl (fun _ _ _ _ => nofun) (fun _ named => ⟨named, rfl⟩) ?_ ?_ ?_ <;> intro r
    · rw [own_start]
    · rw [own_start]
    · rw [own_start]
      exact owned.intact r
  · intro b tr rid demand r holds undisturbed
    have owned := holds (undisturbed.earlier (List.suffix_cons _ _))
    refine owned.event rfl (fun _ _ _ _ => nofun) (fun _ named => ⟨named, rfl⟩) ?_ ?_ ?_ <;> intro r
    · rw [own_reply]
    · rw [own_reply]
    · rw [own_reply]
      exact owned.intact r
  · intro c rid headers addr body t y run only mine next holds undisturbed
    have owned := holds (undisturbed.earlier (List.suffix_cons _ _))
    exact owned.act (imports_placement deployed run only) next undisturbed

/-! ## Imports do not mix -/

/-- The archives of different imports hold different databases. -/
def DifferentArchives (tr : BackendTrace) : Prop :=
  ∀ rid headers addr body rid' headers' addr' body' d,
    .start rid (.import headers addr body) ∈ tr → .start rid' (.import headers' addr' body') ∈ tr →
    archivedDb body = some d → archivedDb body' = some d → rid = rid'

/-- An import that succeeds has installed the database of its archive, and the database of one that
fails is not installed by anybody. -/
structure ImportsApart (config : Config) (tr : BackendTrace) : Prop where
  succeeded : ∀ rid headers addr body reply, .reply rid (.import headers addr body) (.ok reply) ∈ tr →
    ∃ d, archivedDb body = some d ∧ Installed config tr rid d
  refused : ∀ rid headers addr body e d, .reply rid (.import headers addr body) (.error e) ∈ tr →
    archivedDb body = some d → ∀ other, ¬Installed config tr other d

/-- Imports of different archives that do not disturb each other do not mix. -/
theorem imports_apart {s : Storage} (deployed : Deployed config s)
    (reached : (backend config).Reachable { storage := s } c) (only : OnlyImports c.trace)
    (different : DifferentArchives c.trace) (undisturbed : ImportsUndisturbed config c.trace) :
    ImportsApart config c.trace := by
  have owned := imports_owned deployed reached only undisturbed
  have unpacked := imports_unpacked reached only
  have tracked := backend_tracked reached
  constructor
  · intro rid headers addr body reply answered
    obtain ⟨begun, d, stage⟩ := tracked.traced.replied answered
    have renamed : (stageOf (own rid c.trace)).isRenamed := by
      rw [stage]
      rfl
    obtain ⟨d', put⟩ := owned.renamed rid renamed
    have written := (owned.installed rid d' put).2
    have carried := (unpacked rid headers addr body begun).carried d' (Stage.carried_of_database written)
    exact ⟨d', carried, put⟩
  · intro rid headers addr body e d answered held other put
    obtain ⟨begun, stopped⟩ := tracked.traced.replied answered
    obtain ⟨renamed, written⟩ := owned.installed other d put
    obtain ⟨demand, pre, post, file, done, -⟩ := put
    have begun' := tracked.traced.started done
    cases demand with
    | request req => cases only _ _ begun'
    | «import» headers' addr' body' =>
      have held' := (unpacked other headers' addr' body' begun').carried d (Stage.carried_of_database written)
      obtain rfl := different _ _ _ _ _ _ _ _ d begun' begun held' held
      have broken := Stage.broken_of_stopped renamed stopped
      rw [owned.intact other renamed] at broken
      cases broken

end

/-! ## Two imports -/

/-- The imports of the examples, by their numbers. -/
def startsTwo : Event Action.Answer Demand Result Backend → Bool
  | .start rid demand => (rid == 1 && demand == importOf [1]) || (rid == 2 && demand == importOf [2])
  | _ => true

theorem two_of_starts {tr : BackendTrace} (starts : tr.all startsTwo) {rid : Nat} {demand : Demand}
    (begun : .start rid demand ∈ tr) :
    rid = 1 ∧ demand = importOf [1] ∨ rid = 2 ∧ demand = importOf [2] := by
  have either := List.all_eq_true.mp starts _ begun
  simpa only [startsTwo, Bool.or_eq_true, Bool.and_eq_true, beq_iff_eq] using either

theorem onlyImports_of_starts {tr : BackendTrace} (starts : tr.all startsTwo) : OnlyImports tr := by
  intro rid demand begun
  rcases two_of_starts starts begun with ⟨-, rfl⟩ | ⟨-, rfl⟩
  · rfl
  · rfl

theorem archivedDb_plain (content : Bytes) :
    letI := plainArchive
    archivedDb (plainArchived content) = some content := by
  let _ := plainArchive
  have packed : Archive.pack (exportFiles plainConfig 0 content) = .ok (plainArchived content) := rfl
  unfold archivedDb
  rw [plain_lossless _ _ packed]
  rfl

theorem different_of_starts {tr : BackendTrace} (starts : tr.all startsTwo) :
    letI := plainArchive
    DifferentArchives tr := by
  let _ := plainArchive
  have one := archivedDb_plain [1]
  have two := archivedDb_plain [2]
  intro rid headers addr body rid' headers' addr' body' d begun begun' held held'
  rcases two_of_starts starts begun with ⟨rfl, same⟩ | ⟨rfl, same⟩ <;>
    rcases two_of_starts starts begun' with ⟨rfl, same'⟩ | ⟨rfl, same'⟩
  · rfl
  · cases same
    cases same'
    cases one.symm.trans (held.trans (held'.symm.trans two))
  · cases same
    cases same'
    cases one.symm.trans (held'.trans (held.symm.trans two))
  · rfl

/-- The event is a successful reply to the import of the number. -/
def succeeds (rid : Nat) (demand : Demand) : Event Action.Answer Demand Result Backend → Bool
  | .reply r q (.ok _) => r == rid && q == demand
  | _ => false

theorem reply_of_succeeds {tr : BackendTrace} {rid : Nat} {demand : Demand}
    (found : tr.any (succeeds rid demand)) : ∃ reply, .reply rid demand (.ok reply) ∈ tr := by
  obtain ⟨e, member, here⟩ := List.any_eq_true.mp found
  unfold succeeds at here
  split at here
  · simp only [Bool.and_eq_true, beq_iff_eq] at here
    obtain ⟨rfl, rfl⟩ := here
    exact ⟨_, member⟩
  · cases here

/-- The event is a rename of the import of the number that puts the content at `database_url`. -/
def installs (rid : Nat) (d : Bytes) : Event Action.Answer Demand Result Backend → Bool
  | .act r _ ⟨.file (.rename _ _), (.ok _ : Except String Unit)⟩ _ post =>
    r == rid && (post.storage.directory plainConfig.databaseUrl).map post.storage.content == some d
  | _ => false

theorem installs_of_installed {tr : BackendTrace} {rid : Nat} {d : Bytes}
    (put : Installed plainConfig tr rid d) : tr.any (installs rid d) := by
  obtain ⟨demand, pre, post, file, member, url, content⟩ := put
  refine List.any_eq_true.mpr ⟨_, member, ?_⟩
  simp only [installs, url, Option.map_some, content, beq_self_eq_true, Bool.and_self]

/-- A rename of the database that the same import has staged. -/
def renamesOwn : BackendTrace → Bool
  | .act rid _ ⟨.file (.rename _ _), (.ok _ : Except String Unit)⟩ _ _ :: older => stagedBy older == some rid
  | _ => true

def finishes : Event Action.Answer Demand Result Backend → Bool
  | .act _ _ e _ _ => !failsLate e
  | _ => true

theorem undisturbed_of_checks {config : Config} {tr : BackendTrace} (own : tr.tails.all renamesOwn)
    (finished : tr.all finishes) : ImportsUndisturbed config tr where
  own rid demand pre post older here := by
    have checked := List.all_eq_true.mp own _ ((List.mem_tails _ tr).mpr here)
    exact beq_iff_eq.mp checked
  finished rid demand e pre post member := by
    have checked := List.all_eq_true.mp finished _ member
    simpa only [finishes, Bool.not_eq_true'] using checked

/-- One import after the other. -/
def serialImports : BackendState :=
  letI := plainCrypto
  letI := plainArchive
  letI := plainEngine
  (backend plainConfig).play (.start 1 (importOf [1]) :: steps 1 14 ++ .start 2 (importOf [2]) :: steps 2 14)
    { world := { storage := plainStorage [2] } }

theorem serialImports_apart :
    letI := plainArchive
    ImportsApart plainConfig serialImports.trace ∧
      (∃ reply, .reply 1 (importOf [1]) (.ok reply) ∈ serialImports.trace) ∧
      ∃ reply, .reply 2 (importOf [2]) (.ok reply) ∈ serialImports.trace := by
  let _ := plainCrypto
  let _ := plainArchive
  let _ := plainEngine
  have checked : serialImports.trace.all startsTwo ∧ serialImports.trace.tails.all renamesOwn ∧
      serialImports.trace.all finishes ∧ serialImports.trace.any (succeeds 1 (importOf [1])) ∧
      serialImports.trace.any (succeeds 2 (importOf [2])) := by
    decide +kernel
  obtain ⟨starts, own, finished, one, two⟩ := checked
  refine ⟨?_, reply_of_succeeds one, reply_of_succeeds two⟩
  exact imports_apart (plain_deployed []) (Machine.play_reachable _ _) (onlyImports_of_starts starts)
    (different_of_starts starts) (undisturbed_of_checks own finished)

/-- The second import writes at the staging path between the first one's write and its rename. -/
def mixedImports : BackendState :=
  letI := plainCrypto
  letI := plainArchive
  letI := plainEngine
  (backend plainConfig).play
    (.start 1 (importOf [1]) :: steps 1 5 ++ .start 2 (importOf [2]) :: steps 2 5 ++ steps 1 9)
    { world := { storage := plainStorage [2] } }

/-- The first import answers 200, and what it has put at `database_url` is the second one's database. -/
theorem mixedImports_mix :
    letI := plainCrypto
    letI := plainArchive
    letI := plainEngine
    Deployed plainConfig (plainStorage [2]) ∧
      (backend plainConfig).Reachable { storage := plainStorage [2] } mixedImports ∧
      OnlyImports mixedImports.trace ∧ DifferentArchives mixedImports.trace ∧
      ¬ImportsApart plainConfig mixedImports.trace := by
  let _ := plainCrypto
  let _ := plainArchive
  let _ := plainEngine
  have checked : mixedImports.trace.all startsTwo ∧
      mixedImports.trace.any (succeeds 1 (importOf [1])) ∧
      mixedImports.trace.any (installs 1 [1]) = false := by
    decide +kernel
  obtain ⟨starts, answered, never⟩ := checked
  refine ⟨plain_deployed [], Machine.play_reachable _ _, onlyImports_of_starts starts,
    different_of_starts starts, fun imports => ?_⟩
  obtain ⟨reply, done⟩ := reply_of_succeeds answered
  obtain ⟨d, held, put⟩ := imports.succeeded _ _ _ _ _ done
  obtain rfl := Option.some.inj (held.symm.trans (archivedDb_plain [1]))
  rw [installs_of_installed put] at never
  cases never

end PasswordManager
