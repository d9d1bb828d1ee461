import PasswordManager.Interaction.Machine

/-!
# Running one program alone

`Prog.run` performs a program's actions without interruption, drawing one choice of the
environment for each action from a stream.
-/

namespace PasswordManager.Interaction

variable {Act : Type} {Ans : Act → Type} {α β ε σ ι : Type}

/-- The value, the unused choices and the state after the program has run. -/
def Prog.run (answer : ι → σ → (x : Act) → Ans x × σ) :
    Prog Ans α → (Nat → ι) × σ → α × (Nat → ι) × σ
  | .done v, w => (v, w)
  | .act x k, (choices, s) =>
    let (a, after) := answer (choices 0) s x
    (k a).run answer (fun n => choices (n + 1), after)

variable {answer : ι → σ → (x : Act) → Ans x × σ}

theorem Prog.run_bind (p : Prog Ans α) (f : α → Prog Ans β) (w : (Nat → ι) × σ) :
    (p >>= f).run answer w = (f (p.run answer w).1).run answer (p.run answer w).2 := by
  induction p generalizing w with
  | done => rfl
  | act x k ih => exact ih _ _

theorem Prog.run_constant (answer : ι → σ → (x : Act) → Ans x × σ) (p : Prog Ans α) (c : ι)
    (s : σ) :
    (p.run answer (fun _ => c, s)).2.1 = fun _ => c := by
  induction p generalizing s with
  | done => rfl
  | act x k ih => exact ih _ _

/-- Running a program alone ends with a value that meets its specification. -/
theorem Prog.run_spec (answer : ι → σ → (x : Act) → Ans x × σ)
    {may : History Ans → Act → Prop} {post : History Ans → α → Prop}
    {h : History Ans} {p : Prog Ans α} (spec : Spec may post h p) (w : (Nat → ι) × σ) :
    ∃ h', post h' (p.run answer w).1 := by
  induction p generalizing h w with
  | done v => exact ⟨h, spec⟩
  | act x k ih => exact ih _ (spec.2 _) _

theorem Prog.run_keeps {may : History Ans → Act → Prop} {post : History Ans → α → Prop}
    {kept : (Nat → ι) × σ → Prop} {h : History Ans} {p : Prog Ans α} (spec : Spec may post h p)
    (step : ∀ h c s x, may h x → kept (c, s) →
      kept (fun n => c (n + 1), (answer (c 0) s x).2)) {w : (Nat → ι) × σ} (start : kept w) :
    kept (p.run answer w).2 := by
  induction p generalizing h w with
  | done v => exact start
  | act x k ih => exact ih _ (spec.2 _) (step _ _ _ _ spec.1 start)

section
variable {Req Res : Type} {S : System Ans Req Res σ ι} {rid : Nat} {req : Req}

/-- A program of a system that is not interrupted has the effect of running alone. -/
theorem steps_run {p : Prog Ans Res} {c : RunState Ans Req Res σ}
    (running : c.procs rid = some (req, p)) (choices : Nat → ι) :
    ∃ c', S.Steps c c' ∧ c'.world = (p.run S.answer (choices, c.world)).2.2 ∧
      ∃ done, c'.trace = .reply rid req (p.run S.answer (choices, c.world)).1 :: (done ++ c.trace) ∧
        ∀ e ∈ done, e.rid = rid := by
  induction p generalizing c choices with
  | done v => exact ⟨_, .tail .refl (.reply running), rfl, [], rfl, by simp⟩
  | act x k ih =>
    let next : RunState Ans Req Res σ := {
      world := (S.answer (choices 0) c.world x).2
      procs := Function.update c.procs rid (some (req, k (S.answer (choices 0) c.world x).1))
      trace := S.machine.event rid req (choices 0) c.world x :: c.trace }
    have step : S.Step c next := .act (choices 0) running rfl
    have running' : next.procs rid = some (req, k (S.answer (choices 0) c.world x).1) :=
      Function.update_self ..
    obtain ⟨c', steps, world, done, trace, own⟩ := ih _ running' fun n => choices (n + 1)
    refine ⟨c', (Machine.Steps.tail .refl step).trans steps, world,
      done ++ [S.machine.event rid req (choices 0) c.world x], ?_, ?_⟩
    · rw [trace]
      simp only [List.append_assoc, List.singleton_append]
      rfl
    · intro e member
      rcases List.mem_append.mp member with earlier | here
      · exact own e earlier
      · rw [List.mem_singleton.mp here]
        rfl

/-- A request can always be served without interruption. -/
theorem serve_alone {c : RunState Ans Req Res σ} (req : Req) (unused : ∀ e ∈ c.trace, e.rid ≠ rid)
    (choices : Nat → ι) :
    ∃ c', S.Steps c c' ∧ c'.world = ((S.handler req).run S.answer (choices, c.world)).2.2 ∧
      ∃ done, c'.trace =
          .reply rid req ((S.handler req).run S.answer (choices, c.world)).1 :: (done ++ c.trace) ∧
        ∀ e ∈ done, e.rid = rid := by
  let started : RunState Ans Req Res σ := { c with
    procs := Function.update c.procs rid (some (req, S.handler req))
    trace := .start rid req :: c.trace }
  have start : S.Step c started := .start rid req unused
  have running : started.procs rid = some (req, S.handler req) := Function.update_self ..
  obtain ⟨c', steps, world, done, trace, own⟩ := steps_run running choices
  refine ⟨c', (Machine.Steps.tail .refl start).trans steps, world, done ++ [.start rid req], ?_, ?_⟩
  · rw [trace]
    simp only [List.append_assoc, List.singleton_append]
    rfl
  · intro e member
    rcases List.mem_append.mp member with later | here
    · exact own e later
    · rw [List.mem_singleton.mp here]
      rfl

end

namespace Fallible

/-- `Prog.run` of a program that may stop early. -/
def exec (answer : ι → σ → (x : Act) → Ans x × σ) (p : Fallible Ans ε α) (w : (Nat → ι) × σ) :
    Except ε α × (Nat → ι) × σ := p.run.run answer w

@[simp] theorem exec_pure (v : α) (w : (Nat → ι) × σ) :
    exec answer (pure v : Fallible Ans ε α) w = (.ok v, w) := rfl

@[simp] theorem exec_throw (e : ε) (w : (Nat → ι) × σ) :
    exec answer (throw e : Fallible Ans ε α) w = (.error e, w) := rfl

theorem exec_bind (p : Fallible Ans ε α) (f : α → Fallible Ans ε β) (w : (Nat → ι) × σ) :
    exec answer (p >>= f) w =
      match exec answer p w with
      | (.ok v, rest) => exec answer (f v) rest
      | (.error e, rest) => (.error e, rest) := by
  unfold exec
  rw [ExceptT.run_bind, Prog.run_bind]
  rcases p.run.run answer w with ⟨_ | _, rest⟩ <;> rfl

theorem bind_ok {p : Fallible Ans ε α} {f : α → Fallible Ans ε β} {w rest : (Nat → ι) × σ} {v : β}
    (h : exec answer (p >>= f) w = (.ok v, rest)) :
    ∃ a middle, exec answer p w = (.ok a, middle) ∧ exec answer (f a) middle = (.ok v, rest) := by
  rw [exec_bind] at h
  rcases first : exec answer p w with ⟨e | a, middle⟩
  · rw [first] at h
    cases h
  · rw [first] at h
    exact ⟨a, middle, rfl, h⟩

theorem bind_error {p : Fallible Ans ε α} {f : α → Fallible Ans ε β} {w rest : (Nat → ι) × σ} {e : ε}
    (h : exec answer (p >>= f) w = (.error e, rest)) :
    exec answer p w = (.error e, rest) ∨
      ∃ a middle, exec answer p w = (.ok a, middle) ∧ exec answer (f a) middle = (.error e, rest) := by
  rw [exec_bind] at h
  rcases first : exec answer p w with ⟨e | a, middle⟩
  · rw [first] at h
    cases h
    exact .inl rfl
  · rw [first] at h
    exact .inr ⟨a, middle, rfl, h⟩

end Fallible

end PasswordManager.Interaction
