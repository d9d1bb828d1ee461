import PasswordManager.Interaction.Schedule
import PasswordManager.Security.Replay

/-!
# Whole requests

Stretches of a run in which only requests act that were started there, and single requests that
nothing interrupts.
-/

namespace PasswordManager
open Interaction

variable [Crypto] [Archive] {config : Config} {tr older middle : Journal} {db before : Db}
  {c c' : ServerState} {rid : Nat} {req : Request}

/-! ## Stretches of a run -/

/-- No request that is under way in the first state acts on the way to the second. -/
def Whole (c c' : ServerState) : Prop :=
  ∀ newer, c'.trace = newer ++ c.trace → ∀ rid req e pre post,
    Event.act rid req e pre post ∈ newer → Unstarted c.trace rid

structure Period (config : Config) (c c' : ServerState) : Prop where
  reached : (server config).Reachable c
  later : (server config).Steps c c'
  whole : Whole c c'

theorem Period.unstarted (period : Period config c c') {req : Request} {e : Exchange Action.Answer}
    {pre post : Db} {middle : Journal}
    (inside : .act rid req e pre post :: (middle ++ c.trace) <:+ c'.trace) :
    Unstarted c.trace rid := by
  obtain ⟨newest, split⟩ := inside
  refine period.whole (newest ++ .act rid req e pre post :: middle) ?_ rid req e pre post ?_
  · rw [← split, List.append_assoc, List.cons_append]
  · exact List.mem_append_right _ List.mem_cons_self

/-- What each change of the period keeps, given that it was kept so far, is kept throughout. -/
theorem Period.keeps (period : Period config c c') {kept : Db → Prop} (start : kept c.world)
    (step : ∀ middle rid req e pre post,
      .act rid req e pre post :: (middle ++ c.trace) <:+ c'.trace →
      Run config (.act rid req e pre post :: (middle ++ c.trace)) post →
      (∀ middle' before, middle' ++ c.trace <:+ middle ++ c.trace →
        Run config (middle' ++ c.trace) before → kept before) → kept post) :
    ∀ middle before, middle ++ c.trace <:+ c'.trace → Run config (middle ++ c.trace) before →
      kept before := by
  have run := reachable_run period.reached
  have all : ∀ middle, middle ++ c.trace <:+ c'.trace → ∀ middle' before,
      middle' ++ c.trace <:+ middle ++ c.trace → Run config (middle' ++ c.trace) before →
      kept before := by
    intro middle
    induction middle with
    | nil =>
      intro _ middle' before inside run'
      have short := inside.length_le
      rw [List.length_append, List.nil_append] at short
      obtain rfl : middle' = [] := List.eq_nil_of_length_eq_zero (by omega)
      rw [Run.world_unique run' run]
      exact start
    | cons e middle ih =>
      intro within middle' before inside run'
      have earlier := ih ((List.suffix_cons _ _).trans within)
      rcases List.suffix_cons_iff.mp inside with same | inside
      · obtain rfl : middle' = e :: middle := List.append_cancel_right same
        cases e with
        | start rid req =>
          exact earlier middle before (List.suffix_refl _) run'.start_inv.1
        | reply rid req r =>
          exact earlier middle before (List.suffix_refl _) run'.reply_inv.1
        | act rid req e pre post =>
          obtain ⟨-, -, -, rfl⟩ := Run.newest run'
          exact step middle rid req e pre post within run' earlier
      · exact earlier middle' before inside run'
  intro middle before within run'
  exact all middle within middle before (List.suffix_refl _) run'

/-! ## Requests that nothing interrupts -/

/-- The request is served from the first state to the second, and no other one acts. -/
structure Uninterrupted (config : Config) (c c' : ServerState) (rid : Nat) (req : Request)
    (r : Result) : Prop where
  later : (server config).Steps c c'
  unstarted : Unstarted c.trace rid
  done : ∃ events, c'.trace = .reply rid req r :: (events ++ c.trace) ∧ ∀ e ∈ events, e.rid = rid

/-- A schedule that lets only the request move serves it without interruption. -/
theorem uninterrupted_of_play {steps : Nat} {kind : Result → Bool} (unstarted : Unstarted c.trace rid)
    (answered : ((server config).play (alone rid steps req) c).trace.head?.any (replies rid req kind)) :
    ∃ r, Uninterrupted config c ((server config).play (alone rid steps req) c) rid req r ∧ kind r := by
  obtain ⟨events, split, mine⟩ := Machine.play_own (M := (server config).machine) (alone rid steps req)
    (alone_own rid req _) c
  cases events with
  | nil =>
    rw [split, List.nil_append] at answered
    obtain ⟨e, newest, found⟩ := Option.any_eq_true _ _ |>.mp answered
    unfold replies at found
    split at found
    · simp only [Bool.and_eq_true, beq_iff_eq] at found
      exact absurd found.1.1 (unstarted _ (List.mem_of_head? newest))
    · cases found
  | cons e events =>
    rw [split] at answered
    have found : replies rid req kind e = true := answered
    unfold replies at found
    split at found
    · simp only [Bool.and_eq_true, beq_iff_eq] at found
      obtain ⟨⟨rfl, rfl⟩, ok⟩ := found
      exact ⟨_, ⟨Machine.play_steps _ c, unstarted, events, split,
        fun e' member => mine e' (List.mem_cons_of_mem _ member)⟩, ok⟩
    · cases found

/-- What a request that has not been interrupted has done so far: nothing, or one change. -/
theorem own_change (run : Run config (middle ++ older) db) (start : Run config older before)
    (unstarted : Unstarted older rid) (mine : ∀ e ∈ middle, e.rid = rid) :
    (db = before ∧ deeds (middle ++ older) = deeds older ∧ Unwritten (own rid (middle ++ older))) ∨
      ∃ req e h, .start rid req ∈ middle ++ older ∧ wrote e = true ∧ e ∈ own rid (middle ++ older) ∧
        h ⊆ own rid (middle ++ older) ∧ Change config req h e before db ∧
        deeds (middle ++ older) = (Deed.ofExchange req h e).toList ++ deeds older := by
  induction middle generalizing db with
  | nil =>
    refine .inl ⟨Run.world_unique run start, rfl, ?_⟩
    rw [List.nil_append, own_unused unstarted]
    exact List.forall_mem_nil _
  | cons event middle ih =>
    have rest := fun e member => mine e (List.mem_cons_of_mem _ member)
    cases event with
    | start r q =>
      rcases ih run.start_inv.1 rest with same | ⟨req, e, h, began, changed⟩
      · exact .inl same
      · exact .inr ⟨req, e, h, List.mem_cons_of_mem _ began, changed⟩
    | reply r q res =>
      rcases ih run.reply_inv.1 rest with same | ⟨req, e, h, began, changed⟩
      · exact .inl same
      · exact .inr ⟨req, e, h, List.mem_cons_of_mem _ began, changed⟩
    | act r q x pre post =>
      obtain rfl : r = rid := mine _ List.mem_cons_self
      obtain ⟨earlier, justified, happened, rfl⟩ := Run.newest run
      have own' : own r (.act r q x pre post :: (middle ++ older)) = x :: own r (middle ++ older) :=
        own_act_same
      rcases ih earlier rest with ⟨rfl, deeds', unwritten⟩ | ⟨req, e, h, began, changed, member, sub, change, log⟩
      · by_cases writes : wrote x = true
        · refine .inr ⟨q, x, own r (middle ++ older), List.mem_cons_of_mem _ (Run.begun run), writes, ?_, ?_,
            Run.change run, ?_⟩
          · rw [List.cons_append, own']
            exact List.mem_cons_self
          · rw [List.cons_append, own']
            exact List.subset_cons_self _ _
          · rw [List.cons_append, deeds, deeds']
        · have unchanged := Bool.eq_false_iff.mpr writes
          refine .inl ⟨happened_unwritten unchanged happened, ?_, ?_⟩
          · rw [List.cons_append, deeds, ofExchange_unwritten unchanged, deeds']
            rfl
          · rw [List.cons_append, own']
            exact Unwritten.cons unchanged unwritten
      · have unchanged : wrote x = false := by
          refine Bool.eq_false_iff.mpr fun writes => ?_
          have quiet := (justified.write (wrote_isWrite writes)).1
          cases (quiet e member).symm.trans (wrote_isWrite changed)
        obtain rfl := happened_unwritten unchanged happened
        refine .inr ⟨req, e, h, List.mem_cons_of_mem _ began, changed, ?_, ?_, change, ?_⟩
        · rw [List.cons_append, own']
          exact List.mem_cons_of_mem _ member
        · rw [List.cons_append, own']
          exact fun y early => List.mem_cons_of_mem _ (sub early)
        · rw [List.cons_append, deeds, ofExchange_unwritten unchanged, log]
          rfl

/-- The request acts for the device that it comes from. -/
def Request.fromDevice : Request → Bool
  | .signUp _ _ | .signIn _ _ | .refresh _ _ | .resign _ _ => true
  | req => req.session.isSome

omit [Archive] in
/-- A request that changes a device it comes from has looked it up before. -/
theorem Change.identified {h : History Action.Answer} {e : Exchange Action.Answer}
    (change : Change config req h e before db) (device : req.fromDevice = true) :
    db.identities = before.identities ∨ ∃ x ∈ h, x.action.identifies = true := by
  rcases change.identities with same | ⟨_, _, _, -, write, -⟩ | ⟨_, _, _, _, _, _, _, -, write, -⟩ |
    ⟨_, _, _, _, _, -, write, -⟩ | ⟨_, _, _, -, write, -⟩
  · exact .inl same
  · cases write
    cases device
  · cases write with
    | signUp decoded => obtain ⟨_, lookup⟩ := decoded.device; exact .inr ⟨_, lookup, rfl⟩
  · cases write with
    | signIn decoded => obtain ⟨_, lookup⟩ := decoded.device; exact .inr ⟨_, lookup, rfl⟩
    | refresh device => obtain ⟨_, lookup⟩ := device; exact .inr ⟨_, lookup, rfl⟩
    | resign _ device => obtain ⟨_, lookup⟩ := device; exact .inr ⟨_, lookup, rfl⟩
    | approve | toggleIdentity => cases device
  · cases write
    cases device

section
variable {r : Result} (alone : Uninterrupted config c c' rid req r)
include alone

theorem Uninterrupted.ended : Ended c' rid req r := by
  obtain ⟨events, split, -⟩ := alone.done
  exact .inl (split ▸ List.mem_cons_self)

theorem Uninterrupted.whole : Whole c c' := by
  intro newer split rid' q e pre post member
  obtain ⟨events, answered, mine⟩ := alone.done
  rw [answered, ← List.cons_append] at split
  obtain rfl := List.append_cancel_right split
  have among : .act rid' q e pre post ∈ events := by simpa using member
  have same : rid' = rid := mine _ among
  exact same ▸ alone.unstarted

/-- What a request that nothing interrupts has changed when it is answered. -/
theorem Uninterrupted.changed (reached : (server config).Reachable c) :
    (c'.world = c.world ∧ deeds c'.trace = deeds c.trace ∧ Unwritten (own rid c'.trace)) ∨
      ∃ e h, wrote e = true ∧ e ∈ own rid c'.trace ∧ Change config req h e c.world c'.world ∧
        deeds c'.trace = (Deed.ofExchange req h e).toList ++ deeds c.trace := by
  have reached' : (server config).Reachable c' := Machine.Steps.trans reached alone.later
  have started := ended_started reached' alone.ended
  obtain ⟨events, split, mine⟩ := alone.done
  have run := reachable_run reached'
  rw [split] at run started ⊢
  have run := run.reply_inv.1
  rcases own_change run (reachable_run reached) alone.unstarted mine with same |
    ⟨req', e, h, began, changed, member, -, change, log⟩
  · exact .inl same
  · obtain rfl := run.start_unique began (by simpa using started)
    exact .inr ⟨e, h, changed, member, change, log⟩

/-- A request that nothing interrupts looks up devices as they were before it. -/
theorem Uninterrupted.looked (reached : (server config).Reachable c) (device : req.fromDevice = true)
    {d : Identity} (looked : Looked c'.trace rid d) : d ∈ c.world.identities := by
  have reached' : (server config).Reachable c' := Machine.Steps.trans reached alone.later
  have run := reachable_run reached'
  have found : ∀ {e : Exchange Action.Answer}, e ∈ own rid c'.trace → e.action.identifies = true →
      ∃ middle pre post, Run config (middle ++ c.trace) pre ∧
        pre.identities = c.world.identities ∧ Happened e pre post := by
    intro e member identifies
    obtain ⟨req', pre, post, middle, inside, done⟩ :=
      read_later run alone.later.trace_suffix alone.unstarted member
    have started := run.started (inside.subset List.mem_cons_self)
    obtain rfl := run.start_unique started (ended_started reached' alone.ended)
    obtain ⟨earlier, justified, happened, -⟩ := done.newest
    refine ⟨middle, pre, post, earlier, ?_, happened⟩
    have mine : ∀ e ∈ middle, e.rid = rid := by
      obtain ⟨events, split, mine⟩ := alone.done
      rw [split] at inside
      rcases List.suffix_cons_iff.mp inside with same | inside
      · cases same
      · obtain ⟨newer, same⟩ := inside
        rw [← List.cons_append, ← List.append_assoc] at same
        have same := List.append_cancel_right same
        exact fun e member => mine e (same ▸ List.mem_append_right _ (List.mem_cons_of_mem _ member))
    rcases own_change earlier (reachable_run reached) alone.unstarted mine with ⟨rfl, -⟩ |
      ⟨req', w, h, began, -, -, sub, change, -⟩
    · rfl
    · obtain rfl := earlier.start_unique began (Run.begun done)
      rcases change.identified device with same | ⟨x, before, again⟩
      · exact same
      · cases (justified.once identifies x (sub before)).symm.trans again
  cases looked with
  | byIp lookup =>
    obtain ⟨middle, pre, post, earlier, same, happened⟩ := found lookup rfl
    obtain ⟨moment, answer⟩ := happened_sql happened
    exact same ▸ (Table.find_some (Except.ok.inj (Prod.mk.inj answer).1)).1
  | byToken lookup =>
    obtain ⟨middle, pre, post, earlier, same, happened⟩ := found lookup rfl
    obtain ⟨moment, answer⟩ := happened_sql happened
    exact same ▸ (Table.find_some (Except.ok.inj (Prod.mk.inj answer).1)).1

end

end PasswordManager
