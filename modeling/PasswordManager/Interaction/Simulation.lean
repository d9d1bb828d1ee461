import Mathlib.Data.List.Forall2
import PasswordManager.Interaction.Crash

/-!
# Simulations

A machine that works on a concrete state behaves like a system that works on an abstract one, if
their programs act alike whenever they are answered alike.
-/

namespace PasswordManager.Interaction

/-! ## Programs that act alike -/

section
variable {Act Act' : Type} {Ans : Act → Type} {Ans' : Act' → Type} {α α' β β' : Type}
  (action : Act → Act' → Prop) (exchange : Exchange Ans → Exchange Ans' → Prop)

/-- The two programs perform corresponding actions, as long as the answers correspond, and end with
corresponding values. -/
inductive Prog.Follows (value : α → α' → Prop) : Prog Ans α → Prog Ans' α' → Prop where
  | done {v v'} (same : value v v') : Follows value (.done v) (.done v')
  | act {x x' k k'} (same : action x x')
      (next : ∀ a a', exchange ⟨x, a⟩ ⟨x', a'⟩ → Follows value (k a) (k' a')) :
      Follows value (.act x k) (.act x' k')

variable {action exchange} {value : α → α' → Prop} {result : β → β' → Prop}

theorem Prog.Follows.bind {p : Prog Ans α} {p' : Prog Ans' α'} {f : α → Prog Ans β}
    {f' : α' → Prog Ans' β'} (first : Prog.Follows action exchange value p p')
    (next : ∀ v v', value v v' → Prog.Follows action exchange result (f v) (f' v')) :
    Prog.Follows action exchange result (p >>= f) (p' >>= f') := by
  induction first with
  | done same => exact next _ _ same
  | act same _ ih => exact .act same ih

end

variable {Act Act' : Type} {Ans : Act → Type} {Ans' : Act' → Type}
  {Req Req' Res σ σ' ι ι' : Type}

/-- How the requests, the actions, the answers and the states of the machine `M` appear in the
system `S`. -/
structure Simulation (M : Machine Ans Req Res σ ι) (S : System Ans' Req' Res σ' ι') where
  asks : Req → Req' → Prop
  action : Act → Act' → Prop
  exchange : Exchange Ans → Exchange Ans' → Prop
  world : σ → σ' → Prop
  handler : ∀ req req', asks req req' →
    Prog.Follows action exchange Eq (M.handler req) (S.handler req')
  answer : ∀ i rid w w' x x', world w w' → action x x' → M.ready i rid w x →
    ∃ i', world (M.answer i rid w x).2 (S.answer i' w' x').2 ∧
      exchange ⟨x, (M.answer i rid w x).1⟩ ⟨x', (S.answer i' w' x').1⟩
  background : ∀ i w v w', world w w' → M.background i w = some v → world v w'

namespace Simulation

variable {M : Machine Ans Req Res σ ι} {S : System Ans' Req' Res σ' ι'} (sim : Simulation M S)

inductive Shows : Event Ans Req Res σ → Event Ans' Req' Res σ' → Prop where
  | start {req req'} (rid : Nat) (asks : sim.asks req req') : Shows (.start rid req) (.start rid req')
  | act {req req' e e' pre pre' post post'} (rid : Nat) (asks : sim.asks req req')
      (answered : sim.exchange e e') (before : sim.world pre pre') (after : sim.world post post') :
      Shows (.act rid req e pre post) (.act rid req' e' pre' post')
  | reply {req req'} (rid : Nat) (res : Res) (asks : sim.asks req req') :
      Shows (.reply rid req res) (.reply rid req' res)

inductive Runs : Option (Req × Prog Ans Res) → Option (Req' × Prog Ans' Res) → Prop where
  | none : Runs none none
  | some {req req' p p'} (asks : sim.asks req req')
      (follows : Prog.Follows sim.action sim.exchange Eq p p') : Runs (some (req, p)) (some (req', p'))

/-- The system's run is what the machine's run looks like. -/
structure Mirrors (c : RunState Ans Req Res σ) (c' : RunState Ans' Req' Res σ') : Prop where
  world : sim.world c.world c'.world
  procs : ∀ rid, sim.Runs (c.procs rid) (c'.procs rid)
  trace : List.Forall₂ sim.Shows c.trace c'.trace

variable {sim} {c d : RunState Ans Req Res σ} {c' : RunState Ans' Req' Res σ'}

theorem Runs.update {procs : Nat → Option (Req × Prog Ans Res)}
    {procs' : Nat → Option (Req' × Prog Ans' Res)} (runs : ∀ rid, sim.Runs (procs rid) (procs' rid))
    {now : Option (Req × Prog Ans Res)} {now' : Option (Req' × Prog Ans' Res)} (new : sim.Runs now now')
    (rid : Nat) : ∀ r, sim.Runs (Function.update procs rid now r) (Function.update procs' rid now' r) := by
  intro r
  by_cases same : r = rid
  · subst same
    rw [Function.update_self, Function.update_self]
    exact new
  · rw [Function.update_of_ne same, Function.update_of_ne same]
    exact runs r

theorem Shows.rid_eq {e : Event Ans Req Res σ} {e' : Event Ans' Req' Res σ'} (shows' : sim.Shows e e') :
    e'.rid = e.rid := by
  cases shows' <;> rfl

theorem Mirrors.unused (mirrors : sim.Mirrors c c') {rid : Nat} (unused : ∀ e ∈ c.trace, e.rid ≠ rid) :
    ∀ e ∈ c'.trace, e.rid ≠ rid := by
  have trace := mirrors.trace
  generalize c.trace = tr at trace unused
  generalize c'.trace = tr' at trace
  induction trace with
  | nil => simp
  | cons first _ ih =>
    rw [List.forall_mem_cons] at unused ⊢
    exact ⟨first.rid_eq ▸ unused.1, ih unused.2⟩

/-- A step of the machine looks like a step of the system, or like nothing. -/
theorem Mirrors.step (mirrors : sim.Mirrors c c') (step : M.Step c d)
    (asked : ∀ rid req, .start rid req ∈ d.trace → ∃ req', sim.asks req req') :
    ∃ d', S.Steps c' d' ∧ sim.Mirrors d d' := by
  cases step with
  | start rid req unused =>
    obtain ⟨req', asks⟩ := asked rid req List.mem_cons_self
    exact ⟨_, .tail .refl (.start rid req' (mirrors.unused unused)), mirrors.world,
      Runs.update mirrors.procs (.some asks (sim.handler req req' asks)) rid,
      .cons (.start rid asks) mirrors.trace⟩
  | @act rid req x k choice running ready =>
    have here := mirrors.procs rid
    rw [running] at here
    cases running' : c'.procs rid with
    | none =>
      rw [running'] at here
      cases here
    | some proc =>
      rw [running'] at here
      cases here with
      | some asks follows =>
        cases follows with
        | act same next =>
          obtain ⟨choice', after, answered⟩ := sim.answer _ rid _ _ _ _ mirrors.world same ready
          exact ⟨_, .tail .refl (.act choice' running' rfl), after,
            Runs.update mirrors.procs (.some asks (next _ _ answered)) rid,
            .cons (.act rid asks answered mirrors.world after) mirrors.trace⟩
  | @reply rid req v running =>
    have here := mirrors.procs rid
    rw [running] at here
    cases running' : c'.procs rid with
    | none =>
      rw [running'] at here
      cases here
    | some proc =>
      rw [running'] at here
      cases here with
      | some asks follows =>
        cases follows with
        | done same =>
          subst same
          exact ⟨_, .tail .refl (.reply running'), mirrors.world,
            Runs.update mirrors.procs .none rid, .cons (.reply rid v asks) mirrors.trace⟩
  | background choice moved =>
    exact ⟨c', .refl, sim.background _ _ _ _ mirrors.world moved, mirrors.procs, mirrors.trace⟩

/-- The process stops, and is started again on a state that looks the same. -/
theorem Mirrors.crash (mirrors : sim.Mirrors c c') {w : σ} (same : sim.world w c'.world) :
    sim.Mirrors { world := w, trace := c.trace } { c' with procs := fun _ => none } :=
  ⟨same, fun _ => .none, mirrors.trace⟩

end Simulation

end PasswordManager.Interaction
