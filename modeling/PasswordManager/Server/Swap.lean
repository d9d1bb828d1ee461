import Mathlib.Data.List.Infix
import PasswordManager.Server.Importer
import PasswordManager.Server.Plain

/-!
# Connections after an import

One import among any number of requests. `AppState::conn` takes the connection after it has
released the pool's lock, and the migrations run after the swap has released it, so a
connection follows the import only if it is taken in time.
-/

namespace PasswordManager
open Interaction

section
variable [Engine] {config : Config} {imp f₀ file : Nat} {s : Stage} {b b' : Backend}

/-- What the files and the pool look like when the only import is at the stage: `f₀` is the file
that was live before it and `file` the one that it stages. -/
structure Placed (config : Config) (imp f₀ file : Nat) (s : Stage) (b : Backend) : Prop where
  url : b.storage.directory config.databaseUrl = some (if s.isRenamed then file else f₀)
  pool : b.storage.pool = ⟨if s.isConnected then file else f₀⟩
  holder : b.holder = if s.holds then some imp else none
  staged : s.staged → b.storage.directory (stagedPath config) = some file
  apart : file ≠ f₀
  live : Current (b.storage.content f₀)
  current : ∀ d, s.database = some d →
    (Current (b.storage.content file) ↔ s.isMigrated ∨ Current d)
  cloned : ∀ d p, s = .cloned d p → p = ⟨file⟩
  got : ∀ d conn, s = .got d conn → conn = ⟨file⟩

/-- Nothing has changed but rows of current databases. -/
structure Backend.Kept (b b' : Backend) : Prop where
  directory : b'.storage.directory = b.storage.directory
  pool : b'.storage.pool = b.storage.pool
  holder : b'.holder = b.holder
  current : ∀ f, Current (b'.storage.content f) ↔ Current (b.storage.content f)

theorem Placed.kept (placed : Placed config imp f₀ file s b) (kept : b.Kept b') :
    Placed config imp f₀ file s b' where
  url := kept.directory ▸ placed.url
  pool := kept.pool.trans placed.pool
  holder := kept.holder.trans placed.holder
  staged here := kept.directory ▸ placed.staged here
  apart := placed.apart
  live := (kept.current f₀).mpr placed.live
  current d written := (kept.current file).trans (placed.current d written)
  cloned := placed.cloned
  got := placed.got

/-- Two stages between which the import has done nothing to the files or the pool. -/
structure Stage.Alike (s s' : Stage) : Prop where
  renamed : s'.isRenamed = s.isRenamed
  connected : s'.isConnected = s.isConnected
  database : s'.database = s.database
  migrated : s'.isMigrated = s.isMigrated
  staged : s'.staged → s.staged

/-- An operation of the import that changes no file. -/
theorem Placed.alike {s' : Stage} (placed : Placed config imp f₀ file s b)
    (same : SameFiles b.storage b'.storage) (alike : s.Alike s')
    (holder : b'.holder = if s'.holds then some imp else none)
    (cloned : ∀ d p, s' = .cloned d p → p = ⟨file⟩)
    (got : ∀ d conn, s' = .got d conn → conn = ⟨file⟩) : Placed config imp f₀ file s' b' where
  url := by rw [same.directory, alike.renamed, placed.url]
  pool := by rw [same.pool, alike.connected, placed.pool]
  holder := holder
  staged here := by rw [same.directory, placed.staged (alike.staged here)]
  apart := placed.apart
  live := by rw [same.content]; exact placed.live
  current d written := by
    rw [same.content, alike.migrated]
    exact placed.current d (alike.database ▸ written)
  cloned := cloned
  got := got

variable [Archive] {t : Turn} {body : Bytes} {x : FileAction}

/-- The staged database gets a new file. -/
theorem Placed.stage {d : Bytes} (placed : Placed config imp f₀ file (.found d) b) :
    ∃ file', Placed config imp f₀ file'
      (Stage.advance (.found d) ⟨.write (stagedPath config) d,
        (b.fileAction t.env imp (.write (stagedPath config) d)).1⟩)
      (b.fileAction t.env imp (.write (stagedPath config) d)).2 ∧
        ((b.fileAction t.env imp (.write (stagedPath config) d)).1 = .ok () → file' = b.storage.next) := by
  have fresh : b.storage.next ≠ f₀ := by
    have existed := b.storage.pool_exists
    rw [placed.pool] at existed
    exact Nat.ne_of_gt existed
  have url : ∀ {s' : Storage} {content : Bytes}, Created b.storage s' (stagedPath config) content →
      s'.directory config.databaseUrl = some f₀ := by
    intro s' content created
    rw [created.directory, Function.update_of_ne (stagedPath_ne config), placed.url]
    rfl
  have live : ∀ {s' : Storage} {content : Bytes}, Created b.storage s' (stagedPath config) content →
      Current (s'.content f₀) := by
    intro s' content created
    rw [created.content, Function.update_of_ne fresh.symm]
    exact placed.live
  rcases b.fileAction_write t.env imp (stagedPath config) d with
    ⟨done, created⟩ | ⟨m, torn, failed, created⟩
  · rw [done]
    refine ⟨b.storage.next, ⟨url created, ?_, placed.holder, fun _ => ?_, fresh, live created, ?_, nofun, nofun⟩,
      fun _ => rfl⟩
    · rw [created.pool, placed.pool]
      rfl
    · rw [created.directory, Function.update_self]
    · rintro _ ⟨⟩
      rw [created.content, Function.update_self]
      simp [Stage.advance, Stage.isMigrated]
  · rw [failed]
    refine ⟨file, ⟨url created, ?_, placed.holder, nofun, placed.apart, live created, nofun, nofun, nofun⟩,
      nofun⟩
    rw [created.pool, placed.pool]
    rfl

/-- Every other step of the import, from one stage to the next. -/
theorem Placed.step (placed : Placed config imp f₀ file s b) (other : ∀ d, s ≠ .found d)
    (next : s.next config body = some x) (credible : b.credible config.databaseUrl t (.file x)) :
    Placed config imp f₀ file (s.advance ⟨x, (b.fileAction t.env imp x).1⟩)
      (b.fileAction t.env imp x).2 := by
  have same : x.idle → SameFiles b.storage (b.fileAction t.env imp x).2.storage := b.fileAction_idle t.env imp
  have free := placed.holder
  cases s with
  | found d => exact absurd rfl (other d)
  | migrated | failed => cases next
  | start =>
    cases next
    rcases (b.fileAction t.env imp .tempdir).1 with m | _
    · exact placed.alike (same rfl) ⟨rfl, rfl, rfl, rfl, nofun⟩ free nofun nofun
    · exact placed.alike (same rfl) ⟨rfl, rfl, rfl, rfl, nofun⟩ free nofun nofun
  | entered =>
    cases next
    rcases (b.fileAction t.env imp (.unpack body)).1 with m | _
    · exact placed.alike (same rfl) ⟨rfl, rfl, rfl, rfl, nofun⟩ free nofun nofun
    · exact placed.alike (same rfl) ⟨rfl, rfl, rfl, rfl, nofun⟩ free nofun nofun
  | unpacked =>
    cases next
    rcases (b.fileAction t.env imp (.readTemp ".env")).1 with m | _
    · exact placed.alike (same rfl) ⟨rfl, rfl, rfl, rfl, nofun⟩ free nofun nofun
    · exact placed.alike (same rfl) ⟨rfl, rfl, rfl, rfl, nofun⟩ free nofun nofun
  | read =>
    cases next
    rcases (b.fileAction t.env imp (.readTemp "pwd_manager.db")).1 with m | _
    · exact placed.alike (same rfl) ⟨rfl, rfl, rfl, rfl, nofun⟩ free nofun nofun
    · exact placed.alike (same rfl) ⟨rfl, rfl, rfl, rfl, nofun⟩ free nofun nofun
  | written d =>
    cases next
    have kept := b.fileAction_establish t.env imp (placed.staged rfl)
    rcases (b.fileAction t.env imp (.establish (stagedPath config))).1 with m | _
    · exact placed.alike kept ⟨rfl, rfl, rfl, rfl, nofun⟩ free nofun nofun
    · exact placed.alike kept ⟨rfl, rfl, rfl, rfl, id⟩ free nofun nofun
  | opened d =>
    cases next
    exact placed.alike (same rfl) ⟨rfl, rfl, rfl, rfl, id⟩ rfl nofun nofun
  | locked d =>
    cases next
    rcases b.fileAction_rename t.env imp (stagedPath config) config.databaseUrl with
      ⟨done, f, moved⟩ | ⟨m, failed, kept⟩
    · rw [done]
      obtain rfl := Option.some.inj ((placed.staged rfl).symm.trans moved.named)
      refine ⟨?_, moved.pool.trans placed.pool, free, nofun, placed.apart, ?_, ?_, nofun, nofun⟩
      · rw [moved.directory, Function.update_self]
        rfl
      · rw [moved.content]
        exact placed.live
      · rw [moved.content]
        exact placed.current
    · rw [failed]
      exact placed.alike kept ⟨rfl, rfl, rfl, rfl, nofun⟩ free nofun nofun
  | renamed d =>
    cases next
    rcases b.fileAction_initPool t.env imp config.dbPoolSize placed.url with
      ⟨done, connected⟩ | ⟨m, failed, kept⟩
    · rw [done]
      refine ⟨?_, connected.pool, free, nofun, placed.apart, ?_, ?_, nofun, nofun⟩
      · rw [connected.directory, placed.url]
        rfl
      · rw [connected.content]
        exact placed.live
      · rw [connected.content]
        exact placed.current
    · rw [failed]
      exact placed.alike kept ⟨rfl, rfl, rfl, rfl, nofun⟩ free nofun nofun
  | connected d =>
    cases next
    exact placed.alike (same rfl) ⟨rfl, rfl, rfl, rfl, nofun⟩ rfl nofun nofun
  | aborting before =>
    cases next
    exact placed.alike (same rfl) ⟨rfl, rfl, rfl, rfl, nofun⟩ rfl nofun nofun
  | swapped d =>
    cases next
    have cloned : (b.fileAction t.env imp .clonePool).1 = ⟨file⟩ := by
      rw [Backend.fileAction_clonePool]
      exact placed.pool
    rw [cloned]
    refine placed.alike (same rfl) ⟨rfl, rfl, rfl, rfl, nofun⟩ free ?_ nofun
    rintro _ _ ⟨⟩
    rfl
  | cloned d pool =>
    cases next
    obtain rfl := placed.cloned d pool rfl
    rcases answered : (b.fileAction t.env imp (.poolGet ⟨file⟩)).1 with m | conn
    · exact placed.alike (same rfl) ⟨rfl, rfl, rfl, rfl, nofun⟩ free nofun nofun
    · refine placed.alike (same rfl) ⟨rfl, rfl, rfl, rfl, nofun⟩ free nofun ?_
      rintro _ _ ⟨⟩
      exact Backend.fileAction_poolGet answered
  | got d conn =>
    cases next
    obtain rfl := placed.got d conn rfl
    have content := placed.current d rfl
    have other : f₀ ≠ file := placed.apart.symm
    rcases b.fileAction_migrate t.env imp ⟨file⟩ with
      ⟨calm, done, rewritten⟩ | ⟨m, failure, failed, rewritten⟩
    · have applied : Current (Engine.migrate (b.storage.content file)) := by
        simp only [Backend.credible, calm, Bool.and_eq_true, decide_eq_true_eq] at credible
        exact credible.1
      rw [done]
      refine ⟨?_, rewritten.pool.trans placed.pool, free, nofun, placed.apart, ?_, ?_, nofun, nofun⟩
      · rw [rewritten.directory, placed.url]
        rfl
      · rw [rewritten.content, Function.update_of_ne other]
        exact placed.live
      · rintro _ ⟨⟩
        rw [rewritten.content, Function.update_self]
        exact iff_of_true applied (.inl rfl)
    · have unchanged : Current t.env.torn ↔ Current (b.storage.content file) := by
        simp only [Backend.credible, failure, Bool.and_eq_true, decide_eq_true_eq] at credible
        exact credible.1
      rw [failed]
      refine ⟨?_, rewritten.pool.trans placed.pool, free, nofun, placed.apart, ?_, ?_, nofun, nofun⟩
      · rw [rewritten.directory, placed.url]
        rfl
      · rw [rewritten.content, Function.update_of_ne other]
        exact placed.live
      · rintro _ ⟨⟩
        rw [rewritten.content, Function.update_self]
        exact unchanged.trans content

end

/-! ## Runs with one import -/

/-- The import is the request `imp`, and the only one. -/
def OneImport (imp : Nat) (tr : BackendTrace) : Prop :=
  ∀ rid demand, .start rid demand ∈ tr → (rid = imp ↔ demand.isImport)

/-- The import has staged its database in the file. -/
def Imported (config : Config) (imp : Nat) (tr : BackendTrace) (file : Nat) : Prop :=
  ∃ demand content pre post, .act imp demand (stagedDb config content) pre post ∈ tr ∧
    pre.storage.next = file

variable [Crypto] [Archive] [Engine] {config : Config} {imp f₀ file : Nat} {c d : BackendState}

/-- The state of a run with one import, as far as the import has come. -/
structure Following (config : Config) (imp f₀ file : Nat) (c : BackendState) : Prop where
  placed : Placed config imp f₀ file (stageOf (own imp c.trace)) c.world
  imported : ∀ f, Imported config imp c.trace f ↔
    (∃ d, (stageOf (own imp c.trace)).database = some d) ∧ f = file
  handles : ∀ rid pool, clonedPool pool ∈ own rid c.trace →
    pool = ⟨f₀⟩ ∨ (stageOf (own imp c.trace)).isSwapped ∧ pool = ⟨file⟩

omit [Crypto] [Archive] in
/-- An event that is not the import's. -/
theorem Following.event (following : Following config imp f₀ file c) {b : Backend}
    {e : Event Action.Answer Demand Result Backend} {procs : Nat → Option (Demand × Prog Action.Answer Result)}
    (placed : Placed config imp f₀ file (stageOf (own imp c.trace)) b)
    (same : own imp (e :: c.trace) = own imp c.trace)
    (unstaged : ∀ demand content pre post, e ≠ .act imp demand (stagedDb config content) pre post)
    (handles : ∀ rid pool, clonedPool pool ∈ own rid (e :: c.trace) →
      clonedPool pool ∈ own rid c.trace ∨ pool = ⟨f₀⟩ ∨
        (stageOf (own imp c.trace)).isSwapped ∧ pool = ⟨file⟩) :
    Following config imp f₀ file { world := b, procs := procs, trace := e :: c.trace } where
  placed := by
    rw [same]
    exact placed
  imported f := by
    rw [same, ← following.imported f]
    constructor
    · rintro ⟨demand, content, pre, post, member, named⟩
      rcases List.mem_cons.mp member with equal | member
      · exact absurd equal.symm (unstaged demand content pre post)
      · exact ⟨demand, content, pre, post, member, named⟩
    · rintro ⟨demand, content, pre, post, member, named⟩
      exact ⟨demand, content, pre, post, List.mem_cons_of_mem _ member, named⟩
  handles rid pool member := by
    rw [same]
    rcases handles rid pool member with before | now
    · exact following.handles rid pool before
    · exact now

/-- What a request does leaves the files and the pool in place. -/
theorem usual_kept (stays : StaysCurrent) {url : String} {h : History Action.Answer} {t : Turn}
    {rid : Nat} {b : Backend} {x : Action} (usual : Usual h x) (credible : b.credible url t x) :
    b.Kept (b.answer url t rid x).2 := by
  have statement : ∀ file x, (Current t.left → Current (b.storage.content file)) →
      b.Kept (b.statement url t file x).2 := by
    intro file x kept
    obtain ⟨content, rewritten, same⟩ := Backend.statement_rewrites stays x kept
    refine ⟨rewritten.directory, rewritten.pool, Backend.statement_holder, fun f => ?_⟩
    rw [rewritten.content, Function.update_apply]
    split
    · rename_i here
      exact here ▸ same
    · rfl
  cases x with
  | effect y =>
    cases y with
    | sql conn q => exact statement _ _ (of_decide_eq_true credible)
    | _ => exact ⟨rfl, rfl, rfl, fun _ => .rfl⟩
  | transaction conn s => exact statement _ _ (of_decide_eq_true credible)
  | file y =>
    have idle : y.idle := by cases y <;> first | rfl | exact usual.elim
    have same := b.fileAction_idle t.env rid idle
    refine ⟨same.directory, same.pool, ?_, fun f => ?_⟩
    · cases y <;> first | rfl | exact usual.elim
    · show Current ((b.fileAction t.env rid y).2.storage.content f) ↔ _
      rw [same.content]

omit [Crypto] [Archive] in
/-- A pool is cloned while nobody holds the lock: it is the old one until the swap is done. -/
theorem Placed.shared {b : Backend} {s : Stage} (placed : Placed config imp f₀ file s b)
    (free : b.holder.isNone) :
    b.storage.pool = ⟨f₀⟩ ∨ s.isSwapped ∧ b.storage.pool = ⟨file⟩ := by
  have unheld : s.holds = false := by
    have holder := placed.holder
    cases held : s.holds with
    | false => rfl
    | true =>
      rw [holder, held] at free
      cases free
  rw [placed.pool]
  cases connected : s.isConnected with
  | false => exact .inl rfl
  | true => exact .inr ⟨Stage.swapped_of_connected connected unheld, rfl⟩

/-- A step of a request. -/
theorem Following.request (following : Following config imp f₀ file c) (stays : StaysCurrent) {t : Turn}
    {rid : Nat} {demand : Demand} {x : Action} (usual : Usual (own rid c.trace) x)
    (other : rid ≠ imp) (free : c.world.unlocked x) (credible : c.world.credible config.databaseUrl t x)
    (procs : Nat → Option (Demand × Prog Action.Answer Result)) :
    Following config imp f₀ file {
      world := (c.world.answer config.databaseUrl t rid x).2
      procs := procs
      trace := (backend config).event rid demand t c.world x :: c.trace } := by
  refine following.event (following.placed.kept (usual_kept stays usual credible))
    (own_act_other other) ?_ fun r pool member => ?_
  · rintro _ content pre post same
    exact other (Event.act.inj same).1
  · by_cases mine : rid = r
    · subst mine
      have split : own rid ((backend config).event rid demand t c.world x :: c.trace) =
          ⟨x, (c.world.answer config.databaseUrl t rid x).1⟩ :: own rid c.trace := own_act_same
      rw [split] at member
      rcases List.mem_cons.mp member with new | old
      · cases new
        rw [show (c.world.answer config.databaseUrl t rid (.file .clonePool)).1 = c.world.storage.pool from
          Backend.fileAction_clonePool]
        exact .inr (following.placed.shared free)
      · exact .inl old
    · rw [Machine.event, own_act_other mine] at member
      exact .inl member

omit [Crypto] [Archive] in
/-- A step of the import that stages nothing. -/
theorem Following.advance (following : Following config imp f₀ file c) {b : Backend} {demand : Demand}
    {body : Bytes} {y : FileAction} {a : y.Answer}
    (next : (stageOf (own imp c.trace)).next config body = some y)
    (other : ∀ d, stageOf (own imp c.trace) ≠ .found d)
    (placed : Placed config imp f₀ file ((stageOf (own imp c.trace)).advance ⟨y, a⟩) b)
    (shared : y = .clonePool → (⟨.file y, a⟩ : Exchange Action.Answer) = clonedPool c.world.storage.pool)
    (procs : Nat → Option (Demand × Prog Action.Answer Result)) :
    Following config imp f₀ file {
      world := b
      procs := procs
      trace := .act imp demand ⟨.file y, a⟩ c.world b :: c.trace } := by
  have split : own imp (.act imp demand ⟨.file y, a⟩ c.world b :: c.trace) =
      ⟨.file y, a⟩ :: own imp c.trace := own_act_same
  constructor
  case placed =>
    rw [split]
    exact placed
  case imported =>
    intro f
    rw [split, stageOf_file, Stage.advance_database next other, ← following.imported f]
    constructor
    · rintro ⟨q, content, pre, post, member, named⟩
      rcases List.mem_cons.mp member with equal | member
      · cases equal
        exact absurd (Stage.next_write next) (other content)
      · exact ⟨q, content, pre, post, member, named⟩
    · rintro ⟨q, content, pre, post, member, named⟩
      exact ⟨q, content, pre, post, List.mem_cons_of_mem _ member, named⟩
  case handles =>
    intro r pool member
    rw [split, stageOf_file]
    have before : clonedPool pool ∈ own r c.trace → pool = ⟨f₀⟩ ∨
        ((stageOf (own imp c.trace)).advance ⟨y, a⟩).isSwapped ∧ pool = ⟨file⟩ := by
      intro old
      rcases following.handles r pool old with here | ⟨swapped, here⟩
      · exact .inl here
      · exact .inr ⟨Stage.advance_swapped swapped, here⟩
    by_cases mine : imp = r
    · subst mine
      rw [split] at member
      rcases List.mem_cons.mp member with new | old
      · cases new
        cases shared rfl
        obtain ⟨d, swapped⟩ := Stage.next_clonePool next
        have pool := following.placed.pool
        rw [swapped] at pool ⊢
        exact .inr ⟨rfl, pool⟩
      · exact before old
    · rw [own_act_other mine] at member
      exact before member

omit [Crypto] [Archive] in
/-- The step of the import that stages its database, or fails to. -/
theorem Following.stage (following : Following config imp f₀ file c) {b : Backend} {demand : Demand}
    {content : Bytes} {a : Except String Unit} {file' : Nat}
    (found : stageOf (own imp c.trace) = .found content)
    (placed : Placed config imp f₀ file'
      (Stage.advance (.found content) ⟨.write (stagedPath config) content, a⟩) b)
    (new : a = .ok () → file' = c.world.storage.next)
    (procs : Nat → Option (Demand × Prog Action.Answer Result)) :
    Following config imp f₀ file' {
      world := b
      procs := procs
      trace := .act imp demand ⟨.file (.write (stagedPath config) content), a⟩ c.world b :: c.trace } := by
  have split : own imp (.act imp demand ⟨.file (.write (stagedPath config) content), a⟩ c.world b :: c.trace) =
      ⟨.file (.write (stagedPath config) content), a⟩ :: own imp c.trace := own_act_same
  have unstaged : ∀ f, ¬Imported config imp c.trace f := by
    intro f staged
    obtain ⟨⟨d, written⟩, -⟩ := (following.imported f).mp staged
    rw [found] at written
    cases written
  have unswapped : ∀ r pool, clonedPool pool ∈ own r c.trace → pool = ⟨f₀⟩ := by
    intro r pool member
    rcases following.handles r pool member with here | ⟨swapped, -⟩
    · exact here
    · rw [found] at swapped
      cases swapped
  constructor
  case placed =>
    rw [split, stageOf_file, found]
    exact placed
  case imported =>
    intro f
    rw [split, stageOf_file, found]
    constructor
    · rintro ⟨q, d, pre, post, member, named⟩
      rcases List.mem_cons.mp member with equal | member
      · cases equal
        exact ⟨⟨content, rfl⟩, named.symm.trans (new rfl).symm⟩
      · exact absurd ⟨q, d, pre, post, member, named⟩ (unstaged f)
    · rintro ⟨⟨d, written⟩, rfl⟩
      rcases a with m | _
      · cases written
      · exact ⟨demand, content, c.world, b, List.mem_cons_self, (new rfl).symm⟩
  case handles =>
    intro r pool member
    by_cases mine : imp = r
    · subst mine
      rw [split] at member
      rcases List.mem_cons.mp member with same | old
      · cases same
      · exact .inl (unswapped imp pool old)
    · rw [own_act_other mine] at member
      exact .inl (unswapped r pool member)

theorem following_step (stays : StaysCurrent) (step : (backend config).Step c d)
    (conducted : Machine.Conducted (Conduct config) Ends c) (one : OneImport imp d.trace)
    (following : Following config imp f₀ file c) : ∃ file', Following config imp f₀ file' d := by
  cases step with
  | start rid demand unused =>
    exact ⟨file, following.event following.placed own_start (fun _ _ _ _ => nofun) fun _ _ member => .inl member⟩
  | reply running =>
    exact ⟨file, following.event following.placed own_reply (fun _ _ _ _ => nofun) fun _ _ member => .inl member⟩
  | background choice moved => cases moved
  | @act rid demand x k t running ready =>
    obtain ⟨live, spec⟩ := conducted _ _ _ running
    obtain ⟨free, credible⟩ := Bool.and_eq_true_iff.mp ready
    have mine := one rid demand (List.mem_cons_of_mem _ live.1)
    cases demand with
    | request req =>
      have other : rid ≠ imp := fun same => Bool.false_ne_true (mine.mp same)
      exact ⟨file, following.request stays spec.1 other free credible _⟩
    | «import» headers addr body =>
      obtain rfl := mine.mpr rfl
      obtain ⟨y, rfl, next⟩ := spec.1
      by_cases staging : ∃ content, stageOf (own rid c.trace) = .found content
      · obtain ⟨content, found⟩ := staging
        rw [found] at next
        cases next
        obtain ⟨file', placed, new⟩ := (found ▸ following.placed).stage (t := t)
        exact ⟨file', following.stage found placed new _⟩
      · have other : ∀ content, stageOf (own rid c.trace) ≠ .found content :=
          fun content found => staging ⟨content, found⟩
        refine ⟨file, following.advance next other (following.placed.step other next credible) ?_ _⟩
        rintro rfl
        rw [Backend.fileAction_clonePool]

/-- Every state of a run with one import is as far as the import has come. -/
theorem reachable_following (stays : StaysCurrent) {s : Storage} (deployed : Deployed config s)
    (reached : (backend config).Reachable { storage := s } c) (one : OneImport imp c.trace) :
    ∃ file, Following config imp s.pool.file file c := by
  induction reached with
  | refl =>
    refine ⟨s.pool.file + 1, ⟨?_, fun f => ⟨?_, ?_⟩, nofun⟩⟩
    · exact ⟨deployed.live, rfl, rfl, nofun, Nat.succ_ne_self _, deployed.current, nofun, nofun, nofun⟩
    · rintro ⟨_, _, _, _, member, _⟩
      cases member
    · rintro ⟨⟨_, written⟩, -⟩
      cases written
  | tail run step ih =>
    have earlier : OneImport imp _ := fun rid demand begun =>
      one rid demand ((Machine.Steps.tail .refl step).trace_suffix.subset begun)
    obtain ⟨file, following⟩ := ih earlier
    exact following_step stays step (backend_tracked run).running one following

/-! ## Connections -/

omit [Crypto] [Archive] [Engine] in
theorem Imported.mono {older newer : BackendTrace} (later : older <:+ newer)
    (staged : Imported config imp older file) : Imported config imp newer file := by
  obtain ⟨demand, content, pre, post, member, named⟩ := staged
  exact ⟨demand, content, pre, post, later.subset member, named⟩

omit [Crypto] [Archive] [Engine] in
theorem stage_renamed {older newer : BackendTrace} (later : older <:+ newer)
    (renamed : (stageOf (own imp older)).isRenamed) : (stageOf (own imp newer)).isRenamed := by
  obtain ⟨events, rfl⟩ := later
  induction events with
  | nil => exact renamed
  | cons e events ih =>
    cases e with
    | start | reply => exact ih
    | act rid demand e pre post =>
      rw [List.cons_append]
      by_cases mine : rid = imp
      · subst mine
        rw [own_act_same]
        obtain ⟨x, a⟩ := e
        cases x with
        | file y => exact Stage.advance_renamed ih
        | _ => exact ih
      · rw [own_act_other mine]
        exact ih

/-- A request has taken a connection from a pool, after the events `older`. -/
def Took (tr : BackendTrace) (rid : Nat) (pool : DbPool) (conn : Conn) (pre : Backend)
    (older : BackendTrace) : Prop :=
  ∃ req post, .act rid (.request req) (gotConn pool (.ok conn)) pre post :: older <:+ tr

/-- Connections follow the import: a connection that is taken once the swap has returned is one
to the imported database, which stays the one at `database_url`, and no connection is ever taken to
a database in which a migration is pending. -/
structure FollowsImport (config : Config) (imp : Nat) (c : BackendState) : Prop where
  imported : ∀ rid pool conn pre older, Took c.trace rid pool conn pre older →
    (stageOf (own imp older)).isSwapped →
      Imported config imp c.trace conn.file ∧
        c.world.storage.directory config.databaseUrl = some conn.file
  current : ∀ rid pool conn pre older, Took c.trace rid pool conn pre older →
    Current (pre.storage.content conn.file)

/-- A connection that is taken once the swap has returned comes from a pool that was cloned since,
and is taken after the migrations unless the archive's database needed none. -/
def TakenInTime (imp : Nat) (tr : BackendTrace) : Prop :=
  ∀ rid pool conn pre older, Took tr rid pool conn pre older →
    (stageOf (own imp older)).isSwapped → pool = pre.storage.pool ∧
      ((stageOf (own imp older)).isMigrated ∨
        ∀ d, (stageOf (own imp older)).database = some d → Current d)

/-- What is known when a request takes a connection. -/
structure Taking (config : Config) (imp f₀ : Nat) (c : BackendState) (pool : DbPool) (conn : Conn)
    (pre : Backend) (older : BackendTrace) (file : Nat) : Prop where
  placed : Placed config imp f₀ file (stageOf (own imp older)) pre
  opened : conn = ⟨pool.file⟩
  handle : pool = ⟨f₀⟩ ∨ (stageOf (own imp older)).isSwapped ∧ pool = ⟨file⟩
  imported : (stageOf (own imp older)).isSwapped → ∀ f, Imported config imp c.trace f ↔ f = file
  url : (stageOf (own imp older)).isSwapped →
    c.world.storage.directory config.databaseUrl = some file

theorem taking_of_took (stays : StaysCurrent) {s : Storage} (deployed : Deployed config s)
    (reached : (backend config).Reachable { storage := s } c) (one : OneImport imp c.trace)
    {rid : Nat} {pool : DbPool} {conn : Conn} {pre : Backend} {older : BackendTrace}
    (took : Took c.trace rid pool conn pre older) :
    ∃ file, Taking config imp s.pool.file c pool conn pre older file := by
  obtain ⟨req, post, here⟩ := took
  obtain ⟨c', taken, rfl, rfl⟩ := Machine.action_taken reached here
  have later : c'.trace <:+ c.trace := taken.later.trace_suffix
  have earlier : OneImport imp c'.trace := fun r demand begun => one r demand (later.subset begun)
  obtain ⟨file, following⟩ := reachable_following stays deployed taken.reached earlier
  obtain ⟨last, ended⟩ := reachable_following stays deployed reached one
  obtain ⟨k, running⟩ := taken.running
  obtain ⟨t, -, answered⟩ := taken.performed
  have usual : Usual (own rid c'.trace) (.file (.poolGet pool)) :=
    ((backend_tracked taken.reached).running _ _ _ running).2.1
  have same : (stageOf (own imp c'.trace)).isSwapped → last = file := by
    intro swapped
    have renamed := Stage.renamed_of_connected (Stage.connected_of_swapped swapped)
    have staged := (following.imported file).mpr ⟨Stage.database_of_renamed renamed, rfl⟩
    exact ((ended.imported file).mp (staged.mono later)).2.symm
  refine ⟨file, following.placed, ?_, following.handles rid pool usual, fun swapped f => ?_, fun swapped => ?_⟩
  · exact Backend.fileAction_poolGet (Prod.mk.inj answered).1
  · obtain rfl := same swapped
    have renamed := stage_renamed later (Stage.renamed_of_connected (Stage.connected_of_swapped swapped))
    rw [ended.imported f, and_iff_right (Stage.database_of_renamed renamed)]
  · obtain rfl := same swapped
    have renamed := stage_renamed later (Stage.renamed_of_connected (Stage.connected_of_swapped swapped))
    have url := ended.placed.url
    rw [if_pos renamed] at url
    exact url

/-- Connections follow the import in exactly those runs in which they are taken in time. -/
theorem follows_import_iff (stays : StaysCurrent) {s : Storage} (deployed : Deployed config s)
    (reached : (backend config).Reachable { storage := s } c) (one : OneImport imp c.trace) :
    FollowsImport config imp c ↔ TakenInTime imp c.trace := by
  constructor
  · intro follows rid pool conn pre older took swapped
    obtain ⟨file, taking⟩ := taking_of_took stays deployed reached one took
    obtain ⟨imported, -⟩ := follows.imported rid pool conn pre older took swapped
    have current := follows.current rid pool conn pre older took
    have connected := Stage.connected_of_swapped swapped
    have shared := taking.placed.pool
    rw [if_pos connected] at shared
    have here : conn.file = file := (taking.imported swapped conn.file).mp imported
    rw [here] at current
    constructor
    · rw [shared]
      rw [taking.opened] at here
      cases pool
      cases here
      rfl
    · by_cases migrated : (stageOf (own imp older)).isMigrated
      · exact .inl migrated
      · refine .inr fun d written => ?_
        rcases (taking.placed.current d written).mp current with now | before
        · exact absurd now migrated
        · exact before
  · intro inTime
    constructor
    · intro rid pool conn pre older took swapped
      obtain ⟨file, taking⟩ := taking_of_took stays deployed reached one took
      have shared := taking.placed.pool
      rw [if_pos (Stage.connected_of_swapped swapped)] at shared
      obtain ⟨cloned, -⟩ := inTime rid pool conn pre older took swapped
      have here : conn.file = file := by rw [taking.opened, cloned, shared]
      rw [here]
      exact ⟨(taking.imported swapped file).mpr rfl, taking.url swapped⟩
    · intro rid pool conn pre older took
      obtain ⟨file, taking⟩ := taking_of_took stays deployed reached one took
      rw [taking.opened]
      rcases taking.handle with rfl | ⟨swapped, rfl⟩
      · exact taking.placed.live
      · obtain ⟨-, migrated⟩ := inTime rid _ conn pre older took swapped
        obtain ⟨d, written⟩ := Stage.database_of_renamed
          (Stage.renamed_of_connected (Stage.connected_of_swapped swapped))
        exact (taking.placed.current d written).mpr (migrated.imp_right fun all => all d written)

/-! ## Two windows -/

def takes (check : DbPool → Conn → Backend → BackendTrace → Bool) : BackendTrace → Bool
  | .act _ (.request _) ⟨.file (.poolGet pool), (.ok conn : Except String Conn)⟩ pre _ :: older =>
    check pool conn pre older
  | _ => false

omit [Crypto] [Archive] [Engine] in
theorem took_of_takes {check : DbPool → Conn → Backend → BackendTrace → Bool} {tr : BackendTrace}
    (found : tr.tails.any (takes check)) :
    ∃ rid pool conn pre older, Took tr rid pool conn pre older ∧ check pool conn pre older := by
  obtain ⟨later, member, taken⟩ := List.any_eq_true.mp found
  have here := (List.mem_tails later tr).mp member
  unfold takes at taken
  split at taken
  · exact ⟨_, _, _, _, _, ⟨_, _, here⟩, taken⟩
  · cases taken

omit [Crypto] [Archive] [Engine] in
theorem takes_of_took {check : DbPool → Conn → Backend → BackendTrace → Bool} {tr : BackendTrace}
    (none : tr.tails.any (takes check) = false) {rid : Nat} {pool : DbPool} {conn : Conn} {pre : Backend}
    {older : BackendTrace} (took : Took tr rid pool conn pre older) : check pool conn pre older = false := by
  obtain ⟨req, post, here⟩ := took
  exact Bool.eq_false_iff.mpr (List.any_eq_false.mp none _ ((List.mem_tails _ tr).mpr here))

def startsOne (imp : Nat) : Event Action.Answer Demand Result Backend → Bool
  | .start rid demand => (rid == imp) == demand.isImport
  | _ => true

omit [Crypto] [Archive] [Engine] in
theorem oneImport_of_starts {tr : BackendTrace} (starts : tr.all (startsOne imp)) : OneImport imp tr := by
  intro rid demand begun
  have same := List.all_eq_true.mp starts _ begun
  simp only [startsOne, beq_iff_eq] at same
  rw [← same]
  simp

def importOf (content : Bytes) : Demand := .import adminHeaders localhost (plainArchived content)

def steps (rid n : Nat) : List (Move Demand Turn) := List.replicate n (.step rid calm)

/-- One request takes its connection before the import and another after it. -/
def followedRun : BackendState :=
  letI := plainCrypto
  letI := plainArchive
  letI := plainEngine
  (backend plainConfig).play
    (.start 0 (.request greetRequest) :: steps 0 2 ++ .start 1 (importOf [1]) :: steps 1 14 ++
      .start 2 (.request greetRequest) :: steps 2 2)
    { world := { storage := plainStorage [2] } }

/-- The connections that are not taken in time. -/
def late (imp : Nat) (pool : DbPool) (_ : Conn) (pre : Backend) (older : BackendTrace) : Bool :=
  (stageOf (own imp older)).isSwapped && !(pool == pre.storage.pool && (stageOf (own imp older)).isMigrated)

omit [Crypto] [Archive] [Engine] in
theorem followedRun_follows :
    letI := plainCrypto
    letI := plainArchive
    letI := plainEngine
    FollowsImport plainConfig 1 followedRun ∧
      ∃ rid pool conn pre older, Took followedRun.trace rid pool conn pre older ∧
        (stageOf (own 1 older)).isSwapped := by
  let _ := plainCrypto
  let _ := plainArchive
  let _ := plainEngine
  have checked : followedRun.trace.all (startsOne 1) ∧ followedRun.trace.tails.any (takes (late 1)) = false ∧
      followedRun.trace.tails.any (takes fun _ _ _ older => (stageOf (own 1 older)).isSwapped) := by
    decide +kernel
  obtain ⟨one, none, some⟩ := checked
  refine ⟨?_, took_of_takes some⟩
  refine (follows_import_iff plain_stays (plain_deployed []) (Machine.play_reachable _ _)
    (oneImport_of_starts one)).mpr fun rid pool conn pre older took swapped => ?_
  have inTime := takes_of_took none took
  simp only [late, swapped, Bool.true_and, Bool.not_eq_false', Bool.and_eq_true, beq_iff_eq] at inTime
  exact ⟨inTime.1, .inl inTime.2⟩

/-- A request clones the pool before an import swaps it and takes the connection after, and another
takes one before the import has migrated its database. -/
def windowRun : BackendState :=
  letI := plainCrypto
  letI := plainArchive
  letI := plainEngine
  (backend plainConfig).play
    (.start 0 (.request greetRequest) :: steps 0 1 ++ .start 1 (importOf [1]) :: steps 1 10 ++
      .start 2 (.request greetRequest) :: steps 2 2 ++ steps 0 1)
    { world := { storage := plainStorage [2] } }

omit [Crypto] [Archive] [Engine] in
/-- The first request is connected to the database that the import has replaced, and the second to
one in which a migration is pending. -/
theorem windowRun_not_followed :
    letI := plainCrypto
    letI := plainArchive
    letI := plainEngine
    Deployed plainConfig (plainStorage [2]) ∧
      (backend plainConfig).Reachable { storage := plainStorage [2] } windowRun ∧
      OneImport 1 windowRun.trace ∧
      (∃ rid pool conn pre older, Took windowRun.trace rid pool conn pre older ∧
        (stageOf (own 1 older)).isSwapped ∧
        windowRun.world.storage.directory plainConfig.databaseUrl ≠ some conn.file) ∧
      (∃ rid pool conn pre older, Took windowRun.trace rid pool conn pre older ∧
        ¬Current (pre.storage.content conn.file)) ∧
      ¬FollowsImport plainConfig 1 windowRun := by
  let _ := plainCrypto
  let _ := plainArchive
  let _ := plainEngine
  have checked : windowRun.trace.all (startsOne 1) ∧
      windowRun.trace.tails.any (takes fun _ conn _ older => (stageOf (own 1 older)).isSwapped &&
        decide (windowRun.world.storage.directory plainConfig.databaseUrl ≠ some conn.file)) ∧
      windowRun.trace.tails.any (takes fun _ conn pre _ =>
        decide ¬Current (pre.storage.content conn.file)) := by
    decide +kernel
  obtain ⟨one, stale, pending⟩ := checked
  obtain ⟨rid, pool, conn, pre, older, took, both⟩ := took_of_takes stale
  obtain ⟨swapped, replaced⟩ := Bool.and_eq_true_iff.mp both
  obtain ⟨rid', pool', conn', pre', older', took', unapplied⟩ := took_of_takes pending
  refine ⟨plain_deployed [], Machine.play_reachable _ _, oneImport_of_starts one,
    ⟨rid, pool, conn, pre, older, took, swapped, of_decide_eq_true replaced⟩,
    ⟨rid', pool', conn', pre', older', took', of_decide_eq_true unapplied⟩, fun follows => ?_⟩
  exact of_decide_eq_true replaced (follows.imported _ _ _ _ _ took swapped).2

end PasswordManager
