import PasswordManager.Interaction.Machine

/-!
# Runs with crashes

The process that runs a `System` may stop at any moment and be started again. The requests in
flight are gone then, and what their actions have done to the world stays.
-/

namespace PasswordManager.Interaction

variable {Act : Type} {Ans : Act → Type} {Req Res σ ι : Type}

namespace System

variable (S : System Ans Req Res σ ι)

inductive CrashSteps : RunState Ans Req Res σ → RunState Ans Req Res σ → Prop where
  | refl {c} : CrashSteps c c
  | step {a b c} (run : CrashSteps a b) (step : S.Step b c) : CrashSteps a c
  | crash {a b} (run : CrashSteps a b) : CrashSteps a { b with procs := fun _ => none }

def CrashReachable (c : RunState Ans Req Res σ) : Prop := S.CrashSteps { world := S.initial } c

/-- The same world and trace, with every request that still runs and maybe more. -/
structure Survives (c c' : RunState Ans Req Res σ) : Prop where
  world : c'.world = c.world
  trace : c'.trace = c.trace
  running : ∀ rid p, c.procs rid = some p → c'.procs rid = some p

variable {S} {a b c d a' c' : RunState Ans Req Res σ}

theorem CrashSteps.trans (first : S.CrashSteps a b) (second : S.CrashSteps b c) :
    S.CrashSteps a c := by
  induction second with
  | refl => exact first
  | step _ step ih => exact ih.step step
  | crash _ ih => exact ih.crash

theorem running_update {procs procs' : Nat → Option (Req × Prog Ans Res)} {rid : Nat}
    {new : Option (Req × Prog Ans Res)} (running : ∀ r p, procs r = some p → procs' r = some p) :
    ∀ r p, Function.update procs rid new r = some p → Function.update procs' rid new r = some p := by
  intro r p found
  by_cases same : r = rid
  · subst same
    rw [Function.update_self] at found ⊢
    exact found
  · rw [Function.update_of_ne same] at found ⊢
    exact running r p found

theorem Survives.step (survives : Survives c c') (step : S.Step c d) :
    ∃ d', S.Step c' d' ∧ Survives d d' := by
  obtain ⟨world, trace, running⟩ := survives
  cases step with
  | start rid req unused =>
    have unused' : ∀ e ∈ c'.trace, e.rid ≠ rid := by
      rw [trace]
      exact unused
    exact ⟨_, .start rid req unused', world, congrArg (_ :: ·) trace, running_update running⟩
  | @act rid req x k choice found _ =>
    refine ⟨_, .act choice (running _ _ found) rfl, ?_, ?_, ?_⟩
    · rw [world]
    · simp only [world, trace]
    · rw [world]
      exact running_update running
  | reply found =>
    exact ⟨_, .reply (running _ _ found), world, congrArg (_ :: ·) trace, running_update running⟩
  | background _ moved => cases moved

/-- Whatever a run with crashes shows, a run shows in which the lost requests are never resumed. -/
theorem CrashSteps.uncrashed (run : S.CrashSteps a b) (survives : Survives a a') :
    ∃ b', S.Steps a' b' ∧ Survives b b' := by
  induction run with
  | refl => exact ⟨a', .refl, survives⟩
  | step _ step ih =>
    obtain ⟨b', steps, survives'⟩ := ih
    obtain ⟨d', step', survives''⟩ := survives'.step step
    exact ⟨d', steps.tail step', survives''⟩
  | crash _ ih =>
    obtain ⟨b', steps, survives'⟩ := ih
    exact ⟨b', steps, survives'.world, survives'.trace, nofun⟩

theorem CrashReachable.uncrashed (reached : S.CrashReachable c) :
    ∃ c', S.Reachable c' ∧ Survives c c' :=
  CrashSteps.uncrashed reached ⟨rfl, rfl, fun _ _ found => found⟩

end System

theorem Machine.Steps.crashing {S : System Ans Req Res σ ι} {a b : RunState Ans Req Res σ}
    (run : S.machine.Steps a b) : S.CrashSteps a b := by
  induction run with
  | refl => exact .refl
  | tail _ step ih => exact ih.step step

end PasswordManager.Interaction
