import Mathlib.Logic.Function.Basic
import PasswordManager.Interaction.Trace

/-!
# Machines

A machine serves requests by running one handler program for each of them over a shared state. The
scheduler picks any running program and lets it perform its next action, so a run is an arbitrary
interleaving of the programs' actions. An action may have to wait, its effect may depend on the
program that performs it, and the state may also change by itself. In a `System` none of this happens.
-/

namespace PasswordManager.Interaction

variable {Act : Type} {Ans : Act → Type} {Req Res σ ι : Type}

structure Machine (Ans : Act → Type) (Req Res σ ι : Type) where
  handler : Req → Prog Ans Res
  /-- Whether a program can perform the action now, as the environment chooses. -/
  ready : ι → Nat → σ → Act → Bool
  answer : ι → Nat → σ → (x : Act) → Ans x × σ
  /-- What happens without any program. -/
  background : ι → σ → Option σ

namespace Machine

variable (M : Machine Ans Req Res σ ι)

/-- The event of performing `x` when the environment chooses `c`. -/
def event (rid : Nat) (req : Req) (c : ι) (w : σ) (x : Act) : Event Ans Req Res σ :=
  .act rid req ⟨x, (M.answer c rid w x).1⟩ w (M.answer c rid w x).2

inductive Step : RunState Ans Req Res σ → RunState Ans Req Res σ → Prop where
  | start {c} (rid : Nat) (req : Req) (unused : ∀ e ∈ c.trace, e.rid ≠ rid) :
      Step c { c with
        procs := Function.update c.procs rid (some (req, M.handler req))
        trace := .start rid req :: c.trace }
  | act {c rid req x k} (choice : ι) (running : c.procs rid = some (req, .act x k))
      (ready : M.ready choice rid c.world x) :
      Step c {
        world := (M.answer choice rid c.world x).2
        procs := Function.update c.procs rid (some (req, k (M.answer choice rid c.world x).1))
        trace := M.event rid req choice c.world x :: c.trace }
  | reply {c rid req v} (running : c.procs rid = some (req, .done v)) :
      Step c { c with
        procs := Function.update c.procs rid none
        trace := .reply rid req v :: c.trace }
  | background {c w} (choice : ι) (moved : M.background choice c.world = some w) :
      Step c { c with world := w }

inductive Steps : RunState Ans Req Res σ → RunState Ans Req Res σ → Prop where
  | refl {c} : Steps c c
  | tail {a b c} (run : Steps a b) (step : M.Step b c) : Steps a c

/-- The states that the machine can reach when it starts with the shared state `w`. -/
def Reachable (w : σ) (c : RunState Ans Req Res σ) : Prop := M.Steps { world := w } c

/-- The traces of runs whose programs meet their specifications: `may` of every action they
perform and `post` of every value they return, given the request's own history. -/
inductive Traced (init : σ) (may : Req → History Ans → Act → Prop)
    (post : Req → History Ans → Res → Prop) : Trace Ans Req Res σ → σ → Prop where
  | nil : Traced init may post [] init
  | start {tr w} (rid : Nat) (req : Req) (before : Traced init may post tr w)
      (unused : ∀ e ∈ tr, e.rid ≠ rid) : Traced init may post (.start rid req :: tr) w
  | act {tr w} (rid : Nat) (req : Req) (x : Act) (choice : ι) (before : Traced init may post tr w)
      (live : Open rid req tr) (justified : may req (own rid tr) x)
      (ready : M.ready choice rid w x) :
      Traced init may post (M.event rid req choice w x :: tr) (M.answer choice rid w x).2
  | reply {tr w} (rid : Nat) (req : Req) (res : Res) (before : Traced init may post tr w)
      (live : Open rid req tr) (met : post req (own rid tr) res) :
      Traced init may post (.reply rid req res :: tr) w
  | background {tr w w'} (choice : ι) (before : Traced init may post tr w)
      (moved : M.background choice w = some w') : Traced init may post tr w'

variable {M}

theorem Steps.trans {a b c : RunState Ans Req Res σ} (first : M.Steps a b) (second : M.Steps b c) :
    M.Steps a c := by
  induction second with
  | refl => exact first
  | tail _ step ih => exact ih.tail step

theorem Steps.trace_suffix {a b : RunState Ans Req Res σ} (run : M.Steps a b) : a.trace <:+ b.trace := by
  induction run with
  | refl => exact List.suffix_rfl
  | tail _ step ih =>
    cases step with
    | background => exact ih
    | _ => exact ih.trans (List.suffix_cons _ _)

/-! ## Programs that keep to their specifications -/

variable {may may' : Req → History Ans → Act → Prop} {post post' : Req → History Ans → Res → Prop}
  {init : σ}

/-- Every running program meets its specification from its own history. -/
def Conducted (may : Req → History Ans → Act → Prop) (post : Req → History Ans → Res → Prop)
    (c : RunState Ans Req Res σ) : Prop :=
  ∀ rid req p, c.procs rid = some (req, p) →
    Open rid req c.trace ∧ Prog.Spec (may req) (post req) (own rid c.trace) p

variable (M) in
/-- The run so far met the specifications, and what still runs does. -/
structure Tracked (init : σ) (may : Req → History Ans → Act → Prop)
    (post : Req → History Ans → Res → Prop) (c : RunState Ans Req Res σ) : Prop where
  traced : M.Traced init may post c.trace c.world
  running : Conducted may post c

theorem step_conducted (specs : ∀ req, Prog.Spec (may req) (post req) [] (M.handler req))
    {c d : RunState Ans Req Res σ} (running : Conducted may post c) (step : M.Step c d) :
    Conducted may post d := by
  cases step with
  | start rid req unused =>
    intro r q p found
    simp only [Function.update_apply] at found
    split at found
    · obtain ⟨rfl, rfl⟩ := Prod.mk.inj (Option.some.inj found)
      rename_i same
      subst same
      refine ⟨open_start unused, ?_⟩
      rw [own_start, own_unused unused]
      exact specs req
    · obtain ⟨live, spec⟩ := running r q p found
      exact ⟨open_cons live (fun _ _ => nofun), spec⟩
  | @act rid req x k choice found _ =>
    obtain ⟨live, spec⟩ := running _ _ _ found
    intro r q p found'
    simp only [Function.update_apply] at found'
    split at found'
    · obtain ⟨rfl, rfl⟩ := Prod.mk.inj (Option.some.inj found')
      rename_i same
      subst same
      refine ⟨open_cons live (fun _ _ => nofun), ?_⟩
      simp only [event, own_act_same]
      exact spec.2 _
    · rename_i other
      obtain ⟨live', spec'⟩ := running r q p found'
      refine ⟨open_cons live' (fun _ _ => nofun), ?_⟩
      simp only [event, own_act_other (Ne.symm other)]
      exact spec'
  | @reply rid req v found =>
    intro r q p found'
    simp only [Function.update_apply] at found'
    split at found'
    · cases found'
    · rename_i other
      obtain ⟨live', spec'⟩ := running r q p found'
      exact ⟨open_cons live' (fun _ _ equal => other (Event.reply.inj equal).1), spec'⟩
  | background => exact running

theorem step_tracked (specs : ∀ req, Prog.Spec (may req) (post req) [] (M.handler req))
    {c d : RunState Ans Req Res σ} (tracked : M.Tracked init may post c) (step : M.Step c d) :
    M.Tracked init may post d := by
  refine ⟨?_, step_conducted specs tracked.running step⟩
  obtain ⟨traced, running⟩ := tracked
  cases step with
  | start rid req unused => exact .start rid req traced unused
  | @act rid req x k choice found ready =>
    obtain ⟨live, spec⟩ := running _ _ _ found
    exact .act rid req x choice traced live spec.1 ready
  | @reply rid req v found =>
    obtain ⟨live, spec⟩ := running _ _ _ found
    exact .reply rid req v traced live spec
  | background choice moved => exact .background choice traced moved

/-- Every reachable configuration has a trace in which each event meets its specification. -/
theorem reachable_tracked (specs : ∀ req, Prog.Spec (may req) (post req) [] (M.handler req))
    {c : RunState Ans Req Res σ} (reached : M.Reachable init c) : M.Tracked init may post c := by
  induction reached with
  | refl => exact ⟨.nil, fun _ _ _ found => by cases found⟩
  | tail _ step ih => exact step_tracked specs ih step

section Traced
variable {tr : Trace Ans Req Res σ} {w : σ}

theorem Traced.mono (weaker : ∀ req h x, may req h x → may' req h x)
    (kept : ∀ req h res, post req h res → post' req h res) (traced : M.Traced init may post tr w) :
    M.Traced init may' post' tr w := by
  induction traced with
  | nil => exact .nil
  | start rid req _ unused ih => exact .start rid req ih unused
  | act rid req x choice _ live justified ready ih =>
    exact .act rid req x choice ih live (weaker _ _ _ justified) ready
  | reply rid req res _ live met ih => exact .reply rid req res ih live (kept _ _ _ met)
  | background choice _ moved ih => exact .background choice ih moved

theorem Traced.older {e : Event Ans Req Res σ} (traced : M.Traced init may post (e :: tr) w) :
    ∃ v, M.Traced init may post tr v := by
  generalize whole : e :: tr = trace at traced
  induction traced with
  | nil => cases whole
  | background _ _ _ ih => exact ih whole
  | start _ _ before | act _ _ _ _ before | reply _ _ _ before =>
    obtain rfl := (List.cons.inj whole).2
    exact ⟨_, before⟩

theorem Traced.suffix {newer older : Trace Ans Req Res σ}
    (traced : M.Traced init may post (newer ++ older) w) : ∃ v, M.Traced init may post older v := by
  induction newer generalizing w with
  | nil => exact ⟨w, traced⟩
  | cons e newer ih =>
    obtain ⟨v, traced⟩ := traced.older
    exact ih traced

theorem Traced.start_unused {rid : Nat} {req : Req}
    (traced : M.Traced init may post (.start rid req :: tr) w) :
    ∀ e ∈ tr, e.rid ≠ rid := by
  generalize whole : Event.start rid req :: tr = trace at traced
  induction traced with
  | start _ _ _ unused =>
    obtain ⟨same, rfl⟩ := List.cons.inj whole
    cases same
    exact unused
  | background _ _ _ ih => exact ih whole
  | _ => cases whole

theorem Traced.act_live {rid : Nat} {req : Req} {e : Exchange Ans} {before after : σ}
    (traced : M.Traced init may post (.act rid req e before after :: tr) w) : Open rid req tr := by
  generalize whole : Event.act rid req e before after :: tr = trace at traced
  induction traced with
  | act _ _ _ _ _ live =>
    obtain ⟨same, rfl⟩ := List.cons.inj whole
    cases same
    exact live
  | background _ _ _ ih => exact ih whole
  | _ => cases whole

theorem Traced.start_unique {rid : Nat} {req req' : Req} (traced : M.Traced init may post tr w)
    (one : .start rid req ∈ tr) (two : .start rid req' ∈ tr) : req = req' := by
  induction traced with
  | nil => cases one
  | start r q _ unused ih =>
    rcases List.mem_cons.mp one with same | early
    · obtain ⟨rfl, rfl⟩ := Event.start.inj same
      rcases List.mem_cons.mp two with same' | early'
      · exact (Event.start.inj same').2.symm
      · exact absurd rfl (unused _ early')
    · rcases List.mem_cons.mp two with same' | early'
      · obtain ⟨rfl, rfl⟩ := Event.start.inj same'
        exact absurd rfl (unused _ early)
      · exact ih early early'
  | act _ _ _ _ _ _ _ _ ih => exact ih (by simpa [event] using one) (by simpa [event] using two)
  | reply _ _ _ _ _ _ ih => exact ih (by simpa using one) (by simpa using two)
  | background _ _ _ ih => exact ih one two

theorem Traced.unused {newer older : Trace Ans Req Res σ} {rid : Nat} {req : Req}
    (traced : M.Traced init may post (newer ++ older) w) (member : .start rid req ∈ newer) :
    ∀ e ∈ older, e.rid ≠ rid := by
  obtain ⟨newest, middle, rfl⟩ := List.append_of_mem member
  rw [List.append_assoc, List.cons_append] at traced
  obtain ⟨v, traced⟩ := traced.suffix
  exact fun e before => traced.start_unused e (List.mem_append_right _ before)

theorem Traced.started {rid : Nat} {req : Req} {e : Exchange Ans} {before after : σ}
    (traced : M.Traced init may post tr w) (member : .act rid req e before after ∈ tr) :
    .start rid req ∈ tr := by
  obtain ⟨newer, older, rfl⟩ := List.append_of_mem member
  obtain ⟨v, traced⟩ := traced.suffix
  simp [traced.act_live.1]

/-- An answered request makes no further steps, so its whole history meets the answer. -/
theorem Traced.replied {rid : Nat} {req : Req} {res : Res} (traced : M.Traced init may post tr w)
    (member : .reply rid req res ∈ tr) : .start rid req ∈ tr ∧ post req (own rid tr) res := by
  induction traced with
  | nil => cases member
  | start r q _ unused ih =>
    obtain ⟨started, met⟩ := ih (by simpa using member)
    exact ⟨List.mem_cons_of_mem _ started, met⟩
  | act r q x choice _ live _ _ ih =>
    obtain ⟨started, met⟩ := ih (by simpa [event] using member)
    have other : r ≠ rid := by
      rintro rfl
      exact live.2 req res (by simpa [event] using member)
    refine ⟨List.mem_cons_of_mem _ started, ?_⟩
    rw [event, own_act_other other]
    exact met
  | reply r q res' _ live met ih =>
    rcases List.mem_cons.mp member with same | member
    · obtain ⟨rfl, rfl, rfl⟩ := Event.reply.inj same
      exact ⟨List.mem_cons_of_mem _ live.1, met⟩
    · obtain ⟨started, met⟩ := ih member
      exact ⟨List.mem_cons_of_mem _ started, met⟩
  | background _ _ _ ih => exact ih member

theorem Traced.once {p : Act → Prop}
    (exclusive : ∀ req h x, may req h x → p x → ∀ e ∈ h, ¬p e.action)
    (traced : M.Traced init may post tr w) {rid : Nat} {a b : Exchange Ans} (one : a ∈ own rid tr)
    (two : b ∈ own rid tr) (first : p a.action) (second : p b.action) : a = b := by
  induction traced with
  | nil => cases one
  | start _ _ _ _ ih => exact ih one two
  | act r q x choice _ _ justified _ ih =>
    by_cases same : r = rid
    · subst same
      rw [event, own_act_same] at one two
      rcases List.mem_cons.mp one with rfl | one
      · rcases List.mem_cons.mp two with rfl | two
        · rfl
        · exact absurd second (exclusive _ _ _ justified first b two)
      · rcases List.mem_cons.mp two with rfl | two
        · exact absurd first (exclusive _ _ _ justified second a one)
        · exact ih one two
    · rw [event, own_act_other same] at one two
      exact ih one two
  | reply _ _ _ _ _ _ ih => exact ih one two
  | background _ _ _ ih => exact ih one two

end Traced

/-! ## Looking back -/

/-- The state in which a program took one of its actions. -/
structure Taken (M : Machine Ans Req Res σ ι) (w : σ) (c c' : RunState Ans Req Res σ) (rid : Nat)
    (req : Req) (e : Exchange Ans) (after : σ) : Prop where
  reached : M.Reachable w c'
  later : M.Steps c' c
  running : ∃ k, c'.procs rid = some (req, .act e.action k)
  performed : ∃ choice, M.ready choice rid c'.world e.action ∧
    M.answer choice rid c'.world e.action = (e.answer, after)

theorem action_taken {w : σ} {c : RunState Ans Req Res σ} (reached : M.Reachable w c) {rid : Nat}
    {req : Req} {e : Exchange Ans} {pre after : σ} {older : Trace Ans Req Res σ}
    (here : .act rid req e pre after :: older <:+ c.trace) :
    ∃ c', Taken M w c c' rid req e after ∧ c'.trace = older ∧ c'.world = pre := by
  have back : ∀ {a b : RunState Ans Req Res σ}, M.Step a b →
      (∃ c', Taken M w a c' rid req e after ∧ c'.trace = older ∧ c'.world = pre) →
      ∃ c', Taken M w b c' rid req e after ∧ c'.trace = older ∧ c'.world = pre := by
    rintro a b step ⟨c', taken, same⟩
    exact ⟨c', { taken with later := taken.later.tail step }, same⟩
  induction reached with
  | refl => cases List.suffix_nil.mp here
  | tail run step ih =>
    cases step with
    | start r q unused =>
      rcases List.suffix_cons_iff.mp here with same | here
      · cases (List.cons.inj same).1
      · exact back (.start r q unused) (ih here)
    | @act r q x k choice running ready =>
      rcases List.suffix_cons_iff.mp here with same | here
      · obtain ⟨event, rfl⟩ := List.cons.inj same
        cases event
        exact ⟨_, ⟨run, .tail .refl (.act choice running ready), ⟨k, running⟩, choice, ready, rfl⟩, rfl, rfl⟩
      · exact back (.act choice running ready) (ih here)
    | reply running =>
      rcases List.suffix_cons_iff.mp here with same | here
      · cases (List.cons.inj same).1
      · exact back (.reply running) (ih here)
    | background choice moved => exact back (.background choice moved) (ih here)

end Machine

/-- A machine whose programs never wait and are all answered alike, and which does nothing by itself. -/
structure System (Ans : Act → Type) (Req Res σ ι : Type) where
  handler : Req → Prog Ans Res
  answer : ι → σ → (x : Act) → Ans x × σ
  initial : σ

namespace System

variable (S : System Ans Req Res σ ι)

def machine : Machine Ans Req Res σ ι where
  handler := S.handler
  ready _ _ _ _ := true
  answer c _ := S.answer c
  background _ _ := none

abbrev Step : RunState Ans Req Res σ → RunState Ans Req Res σ → Prop := S.machine.Step

abbrev Steps : RunState Ans Req Res σ → RunState Ans Req Res σ → Prop := S.machine.Steps

abbrev Reachable : RunState Ans Req Res σ → Prop := S.machine.Reachable S.initial

abbrev Traced (may : Req → History Ans → Act → Prop) (post : Req → History Ans → Res → Prop) :
    Trace Ans Req Res σ → σ → Prop :=
  S.machine.Traced S.initial may post

variable {S} {may : Req → History Ans → Act → Prop} {post : Req → History Ans → Res → Prop}
  {tr : Trace Ans Req Res σ} {w : σ} {rid : Nat} {req : Req}

theorem Traced.start_inv (traced : S.Traced may post (.start rid req :: tr) w) :
    S.Traced may post tr w ∧ ∀ e ∈ tr, e.rid ≠ rid := by
  cases traced with
  | start _ _ traced unused => exact ⟨traced, unused⟩
  | background _ _ moved => cases moved

theorem Traced.reply_inv {res : Res} (traced : S.Traced may post (.reply rid req res :: tr) w) :
    S.Traced may post tr w ∧ Open rid req tr ∧ post req (own rid tr) res := by
  cases traced with
  | reply _ _ _ traced live met => exact ⟨traced, live, met⟩
  | background _ _ moved => cases moved

/-- What is known about the newest action of a run. -/
theorem Traced.act_inv {e : Exchange Ans} {before after : σ}
    (traced : S.Traced may post (.act rid req e before after :: tr) w) :
    S.Traced may post tr before ∧ Open rid req tr ∧ may req (own rid tr) e.action ∧
      after = w ∧ ∃ choice, S.answer choice before e.action = (e.answer, after) := by
  cases traced with
  | act _ _ x choice traced live justified => exact ⟨traced, live, justified, rfl, choice, rfl⟩
  | background _ _ moved => cases moved

end System

end PasswordManager.Interaction
