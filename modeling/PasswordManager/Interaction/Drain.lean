import Mathlib.Logic.Hydra
import PasswordManager.Interaction.Machine

/-!
# Draining a machine

Once no more programs are started, every action leaves less to do. A machine in which a running
program can always move therefore comes to rest, whatever the order of the actions.
-/

namespace PasswordManager.Interaction

variable {Act : Type} {Ans : Act → Type} {Req Res σ ι : Type}

/-- What the answer to a program's next action leaves of it. -/
inductive Prog.Shorter : Prog Ans Res → Prog Ans Res → Prop where
  | intro {x : Act} {k : Ans x → Prog Ans Res} (a : Ans x) : Shorter (k a) (.act x k)

theorem Prog.shorter_wellFounded : WellFounded (@Prog.Shorter Act Ans Res) := by
  constructor
  intro p
  induction p with
  | done v =>
    constructor
    rintro _ ⟨⟩
  | act x k ih =>
    constructor
    rintro _ ⟨a⟩
    exact ih a

namespace Machine

variable (M : Machine Ans Req Res σ ι)

/-- A step that starts no program. -/
structure Onward (c d : RunState Ans Req Res σ) : Prop where
  step : M.Step c d
  none_started : ∀ rid req, d.trace ≠ .start rid req :: c.trace

/-- Whichever steps are taken, as long as no program is started, the goal is reached. -/
inductive Inevitably (goal : RunState Ans Req Res σ → Prop) : RunState Ans Req Res σ → Prop where
  | here {c} (reached : goal c) : Inevitably goal c
  | next {c} (moves : ∃ d, M.Onward c d) (all : ∀ d, M.Onward c d → Inevitably goal d) :
      Inevitably goal c

variable {M} {c d : RunState Ans Req Res σ}

theorem Inevitably.mono {goal goal' : RunState Ans Req Res σ → Prop} (weaker : ∀ d, goal d → goal' d)
    (inevitable : M.Inevitably goal c) : M.Inevitably goal' c := by
  induction inevitable with
  | here reached => exact .here (weaker _ reached)
  | next moves _ ih => exact .next moves ih

/-! ## What is left to run -/

/-- No program outside the set is running. -/
def Within (rids : Finset Nat) (c : RunState Ans Req Res σ) : Prop :=
  ∀ rid, rid ∉ rids → c.procs rid = none

def unfinished : Option (Req × Prog Ans Res) → Multiset (Prog Ans Res)
  | none => 0
  | some (_, p) => {p}

/-- The running programs. -/
def running (rids : Finset Nat) (c : RunState Ans Req Res σ) : Multiset (Prog Ans Res) :=
  ∑ rid ∈ rids, unfinished (c.procs rid)

theorem within_step (step : M.Step c d) {rids : Finset Nat} (within : Within rids c) :
    ∃ more, Within more d := by
  cases step with
  | start rid req _ =>
    refine ⟨insert rid rids, fun r outside => ?_⟩
    rw [Finset.mem_insert, not_or] at outside
    exact (Function.update_of_ne outside.1 ..).trans (within r outside.2)
  | @act rid req x k choice found _ =>
    refine ⟨rids, fun r outside => ?_⟩
    have other : r ≠ rid := by
      rintro rfl
      cases found.symm.trans (within r outside)
    exact (Function.update_of_ne other ..).trans (within r outside)
  | @reply rid req v found =>
    refine ⟨rids, fun r outside => ?_⟩
    by_cases same : r = rid
    · subst same
      exact Function.update_self ..
    · exact (Function.update_of_ne same ..).trans (within r outside)
  | background choice moved => exact ⟨rids, within⟩

theorem reachable_within {w : σ} (reached : M.Reachable w c) : ∃ rids, Within rids c := by
  induction reached with
  | refl => exact ⟨∅, fun _ _ => rfl⟩
  | tail _ step ih =>
    obtain ⟨rids, within⟩ := ih
    exact within_step step within

theorem Within.mem {rids : Finset Nat} (within : Within rids c) {rid : Nat} {req : Req}
    {p : Prog Ans Res} (found : c.procs rid = some (req, p)) : rid ∈ rids := by
  by_contra outside
  cases found.symm.trans (within rid outside)

/-- One program, beside the others. -/
theorem running_split {rids : Finset Nat} {rid : Nat} (member : rid ∈ rids) :
    running rids c = unfinished (c.procs rid) + running (rids.erase rid) c :=
  (Finset.add_sum_erase rids _ member).symm

theorem running_update {rids : Finset Nat} {rid : Nat} (member : rid ∈ rids)
    (now : Option (Req × Prog Ans Res)) (w : σ) (tr : Trace Ans Req Res σ) :
    running rids ⟨w, Function.update c.procs rid now, tr⟩ =
      unfinished now + running (rids.erase rid) c := by
  have here : Function.update c.procs rid now rid = now := Function.update_self ..
  have others : running (rids.erase rid) ⟨w, Function.update c.procs rid now, tr⟩ =
      running (rids.erase rid) c := by
    refine Finset.sum_congr rfl fun r inside => ?_
    show unfinished (Function.update c.procs rid now r) = _
    rw [Function.update_of_ne (Finset.ne_of_mem_erase inside)]
  rw [running_split member, others]
  show unfinished (Function.update c.procs rid now rid) + _ = _
  rw [here]

theorem onward_shrinks (still : ∀ i w, M.background i w = none) {rids : Finset Nat}
    (within : Within rids c) (onward : M.Onward c d) :
    Within rids d ∧ Relation.CutExpand Prog.Shorter (running rids d) (running rids c) := by
  obtain ⟨step, none_started⟩ := onward
  cases step with
  | start rid req _ => exact absurd rfl (none_started rid req)
  | background choice moved =>
    rw [still] at moved
    cases moved
  | @act rid req x k choice found _ =>
    have member := within.mem found
    constructor
    · intro r outside
      have other : r ≠ rid := fun same => outside (same ▸ member)
      exact (Function.update_of_ne other ..).trans (within r outside)
    · rw [running_update member, running_split member, found]
      exact Relation.cutExpand_single_add (.intro _) _
  | @reply rid req v found =>
    have member := within.mem found
    constructor
    · intro r outside
      have other : r ≠ rid := fun same => outside (same ▸ member)
      exact (Function.update_of_ne other ..).trans (within r outside)
    · rw [running_update member, running_split member, found]
      exact (Relation.cutExpand_add_right _).mpr Relation.cutExpand_zero

/-- There is no endless sequence of steps that start nothing. -/
theorem onward_ends (still : ∀ i w, M.background i w = none) {rids : Finset Nat}
    (within : Within rids c) : Acc (fun d c => M.Onward c d) c := by
  have ends := (@Prog.shorter_wellFounded Act Ans Res).cutExpand.apply (running rids c)
  generalize left : running rids c = programs at ends
  induction ends generalizing c with
  | intro programs _ ih =>
    subst left
    constructor
    intro d onward
    obtain ⟨within', less⟩ := onward_shrinks still within onward
    exact ih _ less within' rfl

/-! ## Coming to rest -/

/-- Where a running program can always move, the machine comes to rest. -/
theorem inevitably_rests (still : ∀ i w, M.background i w = none) {w : σ}
    (live : ∀ c, M.Reachable w c → ∀ rid p, c.procs rid = some p → ∃ d, M.Onward c d)
    (reached : M.Reachable w c) :
    M.Inevitably (fun d => M.Steps c d ∧ ∀ rid, d.procs rid = none) c := by
  obtain ⟨rids, within⟩ := reachable_within reached
  have ends := onward_ends still within
  suffices every : ∀ d, M.Steps c d → Acc (fun d c => M.Onward c d) d →
      M.Inevitably (fun d => M.Steps c d ∧ ∀ rid, d.procs rid = none) d from every c .refl ends
  intro d steps ends
  induction ends with
  | intro d _ ih =>
    by_cases rests : ∀ rid, d.procs rid = none
    · exact .here ⟨steps, rests⟩
    · obtain ⟨rid, runs⟩ := not_forall.mp rests
      obtain ⟨p, found⟩ := Option.ne_none_iff_exists'.mp runs
      exact .next (live d (reached.trans steps) rid p found) fun e onward =>
        ih e onward (steps.tail onward.step)

/-- A program that was started is running or has replied. -/
theorem reachable_answered {w : σ} (reached : M.Reachable w c) {rid : Nat} {req : Req}
    (started : .start rid req ∈ c.trace) :
    (∃ p, c.procs rid = some (req, p)) ∨ ∃ res, .reply rid req res ∈ c.trace := by
  induction reached with
  | refl => cases started
  | @tail b c run step ih =>
    cases step with
    | start r q unused =>
      rcases List.mem_cons.mp started with same | before
      · cases same
        exact .inl ⟨_, Function.update_self ..⟩
      · have other : rid ≠ r := fun same => unused _ before same
        rcases ih before with ⟨p, found⟩ | ⟨res, replied⟩
        · exact .inl ⟨p, (Function.update_of_ne other ..).trans found⟩
        · exact .inr ⟨res, List.mem_cons_of_mem _ replied⟩
    | @act r q x k choice found _ =>
      have before : .start rid req ∈ b.trace := by simpa [Machine.event] using started
      rcases ih before with ⟨p, runs⟩ | ⟨res, replied⟩
      · by_cases same : rid = r
        · subst same
          cases found.symm.trans runs
          exact .inl ⟨_, Function.update_self ..⟩
        · exact .inl ⟨p, (Function.update_of_ne same ..).trans runs⟩
      · exact .inr ⟨res, List.mem_cons_of_mem _ replied⟩
    | @reply r q v found =>
      have before : .start rid req ∈ b.trace := by simpa using started
      rcases ih before with ⟨p, runs⟩ | ⟨res, replied⟩
      · by_cases same : rid = r
        · subst same
          cases found.symm.trans runs
          exact .inr ⟨v, List.mem_cons_self⟩
        · exact .inl ⟨p, (Function.update_of_ne same ..).trans runs⟩
      · exact .inr ⟨res, List.mem_cons_of_mem _ replied⟩
    | background choice moved => exact ih started

/-- A program that can always take its next action reaches its reply without the others. -/
theorem finishes {w : σ} (inv : σ → Prop) {rid : Nat} {req : Req}
    (free : ∀ c, M.Reachable w c → inv c.world → ∀ x k, c.procs rid = some (req, .act x k) →
      ∃ choice, M.ready choice rid c.world x ∧ inv (M.answer choice rid c.world x).2)
    {p : Prog Ans Res} (reached : M.Reachable w c) (start : inv c.world)
    (found : c.procs rid = some (req, p)) :
    ∃ d res, M.Steps c d ∧ .reply rid req res ∈ d.trace ∧ inv d.world ∧ d.procs rid = none ∧
      ∀ r, r ≠ rid → d.procs r = c.procs r := by
  induction p generalizing c with
  | done v =>
    exact ⟨_, v, .tail .refl (.reply found), List.mem_cons_self, start, Function.update_self ..,
      fun r other => Function.update_of_ne other ..⟩
  | act x k ih =>
    obtain ⟨choice, ready, kept⟩ := free c reached start x k found
    have step : M.Step c _ := .act choice found ready
    obtain ⟨d, res, steps, replied, holds, ended, others⟩ :=
      ih _ (reached.tail step) kept (Function.update_self ..)
    refine ⟨d, res, (Steps.tail .refl step).trans steps, replied, holds, ended, fun r other => ?_⟩
    exact (others r other).trans (Function.update_of_ne other ..)

end Machine

end PasswordManager.Interaction
