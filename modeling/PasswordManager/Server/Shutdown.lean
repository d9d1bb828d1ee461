import PasswordManager.Interaction.Drain
import PasswordManager.Server.Swap

/-!
# Shutting down

On a signal `main` stops accepting requests and waits for those in flight. They wait for each
other only where an import holds the pool's write lock, and an import always gives it back.
-/

namespace PasswordManager
open Interaction

/-! ## The lock -/

section
variable {config : Config} {s : Stage} {headers : HeaderMap} {addr : IpAddr} {body : Bytes}

/-- An import that holds the lock goes on to its release, and waits for nothing. -/
theorem holds_next {y : FileAction} (holds : s.holds) (next : s.next config body = some y) :
    y = .unlockPool ∨ y ≠ .lockPool ∧ y ≠ .clonePool ∧ ∀ a, (s.advance ⟨y, a⟩).holds := by
  cases s with
  | locked content =>
    cases next
    refine .inr ⟨nofun, nofun, fun a => ?_⟩
    rcases a with _ | _ <;> rfl
  | renamed content =>
    cases next
    refine .inr ⟨nofun, nofun, fun a => ?_⟩
    rcases a with _ | _ <;> rfl
  | connected content =>
    cases next
    exact .inl rfl
  | aborting before =>
    cases next
    exact .inl rfl
  | _ => cases holds

theorem holds_unended {h : History Action.Answer} {v : Result} (holds : (stageOf h).holds) :
    ¬Ends (.import headers addr body) h v := by
  intro ends
  cases v with
  | ok reply =>
    obtain ⟨content, same⟩ := ends
    rw [same] at holds
    cases holds
  | error e =>
    have stopped : (stageOf h).stopped := ends
    cases stage : stageOf h <;> rw [stage] at holds stopped <;>
      simp [Stage.holds, Stage.stopped] at holds stopped

end

variable [Crypto] [Archive] [Engine] {config : Config} {b : Backend} {c d : BackendState} {rid : Nat}
  {demand : Demand} {x : Action} {k : x.Answer → Prog Action.Answer Result} {t : Turn}

/-- Who holds the write lock once the request has performed the action. -/
def holderAfter (rid : Nat) (before : Option Nat) : Action → Option Nat
  | .file .lockPool => some rid
  | .file .unlockPool => none
  | _ => before

theorem answer_holder {url : String} : (b.answer url t rid x).2.holder = holderAfter rid b.holder x := by
  cases x with
  | effect y =>
    cases y with
    | sql conn q => exact Backend.statement_holder
    | _ => rfl
  | transaction conn s => exact Backend.statement_holder
  | file y => cases y <;> rfl

/-- Whoever holds the write lock is an import on its way to the release. -/
def Locking (c : BackendState) : Prop :=
  ∀ rid, c.world.holder = some rid →
    ∃ headers addr body p, c.procs rid = some (.import headers addr body, p) ∧
      (stageOf (own rid c.trace)).holds

theorem locking_act (conducted : Machine.Conducted (Conduct config) Ends c) (locking : Locking c)
    (found : c.procs rid = some (demand, .act x k)) :
    Locking {
      world := (c.world.answer config.databaseUrl t rid x).2
      procs := Function.update c.procs rid (some (demand, k (c.world.answer config.databaseUrl t rid x).1))
      trace := (backend config).event rid demand t c.world x :: c.trace } := by
  have may : Conduct config demand (own rid c.trace) x := (conducted _ _ _ found).2.1
  intro r held
  have after : holderAfter rid c.world.holder x = some r := answer_holder.symm.trans held
  by_cases same : r = rid
  · subst same
    simp only [Function.update_self, Machine.event, own_act_same]
    cases demand with
    | request req =>
      exfalso
      have before : c.world.holder = some r := by
        cases x with
        | file y => cases y <;> first | exact after | exact may.elim
        | _ => exact after
      obtain ⟨headers, addr, body, p, imports, -⟩ := locking r before
      cases found.symm.trans imports
    | «import» headers addr body =>
      obtain ⟨y, rfl, next⟩ := may
      refine ⟨headers, addr, body, _, rfl, ?_⟩
      rw [stageOf_file]
      by_cases locks : y = .lockPool
      · subst locks
        cases stage : stageOf (own r c.trace) <;> rw [stage] at next <;> cases next
        rfl
      · have before : c.world.holder = some r := by
          cases y <;> first | exact after | exact absurd rfl locks | cases after
        obtain ⟨-, -, -, -, -, holds⟩ := locking r before
        rcases holds_next holds next with rfl | ⟨-, -, still⟩
        · cases after
        · exact still _
  · have before : c.world.holder = some r := by
      cases x with
      | file y => cases y <;> first | exact after | exact absurd (Option.some.inj after).symm same | cases after
      | _ => exact after
    obtain ⟨headers, addr, body, p, imports, holds⟩ := locking r before
    refine ⟨headers, addr, body, p, (Function.update_of_ne same ..).trans imports, ?_⟩
    rw [Machine.event, own_act_other (Ne.symm same)]
    exact holds

theorem reachable_locking (free : b.holder = none) (reached : (backend config).Reachable b c) :
    Locking c := by
  induction reached with
  | refl =>
    intro rid held
    cases free.symm.trans held
  | @tail c d run step ih =>
    have conducted := (backend_tracked run).running
    cases step with
    | start r req unused =>
      intro rid held
      obtain ⟨headers, addr, body, p, imports, holds⟩ := ih rid held
      have other : rid ≠ r := by
        rintro rfl
        exact unused _ (conducted _ _ _ imports).1.1 rfl
      exact ⟨headers, addr, body, p, (Function.update_of_ne other ..).trans imports, holds⟩
    | act choice found _ => exact locking_act conducted ih found
    | @reply r demand v found =>
      intro rid held
      obtain ⟨headers, addr, body, p, imports, holds⟩ := ih rid held
      have other : rid ≠ r := by
        rintro rfl
        cases found.symm.trans imports
        exact holds_unended holds (conducted _ _ _ found).2
      exact ⟨headers, addr, body, p, (Function.update_of_ne other ..).trans imports, holds⟩
    | background _ moved => cases moved

/-! ## Moving on -/

/-- A turn in which every operation fails and no file changes. -/
def standstill (content : Bytes) : Turn :=
  { calm with
    env := { failure := fun _ => some "", torn := content }
    left := content }

theorem ready_exists (unlocked : b.unlocked x) : ∃ t, (backend config).ready t rid b x := by
  have credible : ∃ t, b.credible config.databaseUrl t x := by
    cases x with
    | effect y =>
      cases y with
      | sql conn q => exact ⟨standstill (b.storage.content conn.file), decide_eq_true id⟩
      | _ => exact ⟨calm, rfl⟩
    | transaction conn s => exact ⟨standstill (b.storage.content conn.file), decide_eq_true id⟩
    | file y =>
      cases y with
      | runPendingMigrations conn =>
        refine ⟨standstill (b.storage.content conn.file), ?_⟩
        simp [Backend.credible, standstill]
      | _ => exact ⟨calm, rfl⟩
  obtain ⟨t, believed⟩ := credible
  exact ⟨t, Bool.and_eq_true_iff.mpr ⟨unlocked, believed⟩⟩

omit [Crypto] [Archive] [Engine] in
/-- A request waits for nothing while the lock is free or its own. -/
theorem unlocked_alone (locking : Locking c)
    (conducted : Machine.Conducted (Conduct config) Ends c)
    (free : c.world.holder = none ∨ c.world.holder = some rid)
    (found : c.procs rid = some (demand, .act x k)) : c.world.unlocked x := by
  rcases free with none | own
  · cases x with
    | file y => cases y <;> simp [Backend.unlocked, none]
    | _ => rfl
  · obtain ⟨headers, addr, body, p, imports, holds⟩ := locking rid own
    cases found.symm.trans imports
    obtain ⟨y, rfl, next⟩ := (conducted _ _ _ found).2.1
    rcases holds_next holds next with rfl | ⟨other, other', -⟩
    · rfl
    · cases y <;> first | rfl | exact absurd rfl other | exact absurd rfl other'

theorem request_moves (free : b.holder = none) (reached : (backend config).Reachable b c)
    (running : ∃ rid p, c.procs rid = some p) : ∃ d, (backend config).Onward c d := by
  have locking := reachable_locking free reached
  have conducted := (backend_tracked reached).running
  -- Whoever holds the lock can move, and where nobody does everybody can.
  obtain ⟨rid, ⟨demand, p⟩, found, free⟩ : ∃ rid p, c.procs rid = some p ∧
      (c.world.holder = none ∨ c.world.holder = some rid) := by
    cases held : c.world.holder with
    | none =>
      obtain ⟨rid, p, found⟩ := running
      exact ⟨rid, p, found, .inl rfl⟩
    | some r =>
      obtain ⟨headers, addr, body, p, imports, -⟩ := locking r held
      exact ⟨r, _, imports, .inr rfl⟩
  cases p with
  | done v =>
    refine ⟨_, .reply found, fun r q same => ?_⟩
    cases (List.cons.inj same).1
  | act x k =>
    obtain ⟨t, ready⟩ : ∃ t, (backend config).ready t rid c.world x :=
      ready_exists (unlocked_alone locking conducted free found)
    refine ⟨_, .act t found ready, fun r q same => ?_⟩
    cases (List.cons.inj same).1

theorem finishes_alone (free : b.holder = none) (reached : (backend config).Reachable b c)
    (here : c.world.holder = none ∨ c.world.holder = some rid)
    {p : Prog Action.Answer Result} (found : c.procs rid = some (demand, p)) :
    ∃ d result, (backend config).Steps c d ∧ .reply rid demand result ∈ d.trace ∧
      (d.world.holder = none ∨ d.world.holder = some rid) ∧ d.procs rid = none ∧
      ∀ r, r ≠ rid → d.procs r = c.procs r := by
  refine Machine.finishes (fun b => b.holder = none ∨ b.holder = some rid) ?_ reached here found
  intro c reached here x k found
  have locking := reachable_locking free reached
  obtain ⟨t, ready⟩ : ∃ t, (backend config).ready t rid c.world x :=
    ready_exists (unlocked_alone locking (backend_tracked reached).running here found)
  refine ⟨t, ready, ?_⟩
  show (c.world.answer config.databaseUrl t rid x).2.holder = none ∨
    (c.world.answer config.databaseUrl t rid x).2.holder = some rid
  rw [answer_holder]
  cases x with
  | file y => cases y <;> first | exact here | exact .inl rfl | exact .inr rfl
  | _ => exact here

/-- A request reaches its reply by its own actions and those of whoever holds the lock. -/
theorem request_finishes (free : b.holder = none) (reached : (backend config).Reachable b c)
    {p : Prog Action.Answer Result} (found : c.procs rid = some (demand, p)) :
    ∃ d result, (backend config).Steps c d ∧ .reply rid demand result ∈ d.trace ∧
      ∀ r, r ≠ rid → c.world.holder ≠ some r → d.procs r = c.procs r := by
  by_cases here : c.world.holder = none ∨ c.world.holder = some rid
  · obtain ⟨d, result, steps, replied, -, -, others⟩ := finishes_alone free reached here found
    exact ⟨d, result, steps, replied, fun r other _ => others r other⟩
  · obtain ⟨held, foreign⟩ := not_or.mp here
    obtain ⟨r, holder⟩ := Option.ne_none_iff_exists'.mp held
    have other : rid ≠ r := by
      rintro rfl
      exact foreign holder
    obtain ⟨headers, addr, body, q, imports, -⟩ := reachable_locking free reached r holder
    obtain ⟨e, -, first, -, released, ended, others⟩ :=
      finishes_alone free reached (.inr holder) imports
    have reached' := reached.trans first
    have open' : e.world.holder = none := by
      rcases released with none | some
      · exact none
      · obtain ⟨_, _, _, _, still, -⟩ := reachable_locking free reached' r some
        cases ended.symm.trans still
    obtain ⟨d, result, second, replied, -, -, others'⟩ :=
      finishes_alone free reached' (.inl open') ((others rid other).trans found)
    refine ⟨d, result, first.trans second, replied, fun r' apart idle => ?_⟩
    have apart' : r' ≠ r := by
      rintro rfl
      exact idle holder
    rw [others' r' apart, others r' apart']

/-- Once no more requests are accepted, every request in flight is answered, in whatever order they
go on; and none needs another to go on but the one that holds the pool's lock. -/
theorem shutdown_drains (free : b.holder = none) (reached : (backend config).Reachable b c) :
    (backend config).Inevitably (fun d => (backend config).Steps c d ∧
        ∀ rid demand, .start rid demand ∈ d.trace → ∃ result, .reply rid demand result ∈ d.trace) c ∧
      ∀ rid demand p, c.procs rid = some (demand, p) →
        ∃ d result, (backend config).Steps c d ∧ .reply rid demand result ∈ d.trace ∧
          ∀ r, r ≠ rid → c.world.holder ≠ some r → d.procs r = c.procs r := by
  constructor
  · have rests := Machine.inevitably_rests (fun _ _ => rfl)
      (fun c reached rid p found => request_moves free reached ⟨rid, p, found⟩) reached
    refine rests.mono fun d rested => ⟨rested.1, fun rid demand started => ?_⟩
    rcases Machine.reachable_answered (reached.trans rested.1) started with ⟨p, runs⟩ | replied
    · cases (rested.2 rid).symm.trans runs
    · exact replied
  · intro rid demand p found
    exact request_finishes free reached found

/-- A request waits for the pool while an import swaps it. -/
def waitingRun : BackendState :=
  letI := plainCrypto
  letI := plainArchive
  letI := plainEngine
  (backend plainConfig).play
    (.start 1 (importOf [1]) :: steps 1 8 ++ .start 2 (.request greetRequest) :: steps 2 1)
    { world := { storage := plainStorage [2] } }

omit [Crypto] [Archive] [Engine] in
theorem shutdown_drains_waiting :
    letI := plainCrypto
    letI := plainArchive
    letI := plainEngine
    waitingRun.world.holder = some 1 ∧
      own 2 waitingRun.trace = [] ∧
      (backend plainConfig).Inevitably (fun d => (backend plainConfig).Steps waitingRun d ∧
        ∀ rid demand, .start rid demand ∈ d.trace → ∃ result, .reply rid demand result ∈ d.trace)
        waitingRun := by
  let _ := plainCrypto
  let _ := plainArchive
  let _ := plainEngine
  have checked : waitingRun.world.holder = some 1 ∧ (own 2 waitingRun.trace).isEmpty := by
    decide +kernel
  exact ⟨checked.1, List.isEmpty_iff.mp checked.2,
    (shutdown_drains rfl (Machine.play_reachable _ _)).1⟩

end PasswordManager
