import Mathlib.Data.List.Basic
import PasswordManager.Interaction.Prog

/-!
# Traces

The events of an interleaved run: programs start, perform actions on a shared state and reply. Each
program is known by a number.
-/

namespace PasswordManager.Interaction

variable {Act : Type} {Ans : Act → Type} {Req Res σ : Type}

inductive Event (Ans : Act → Type) (Req Res σ : Type) where
  | start (rid : Nat) (req : Req)
  | act (rid : Nat) (req : Req) (exchange : Exchange Ans) (pre post : σ)
  | reply (rid : Nat) (req : Req) (res : Res)

/-- The events of a run, newest first. -/
abbrev Trace (Ans : Act → Type) (Req Res σ : Type) := List (Event Ans Req Res σ)

def Event.rid : Event Ans Req Res σ → Nat
  | .start rid _ | .act rid _ _ _ _ | .reply rid _ _ => rid

def Event.exchangeOf (rid : Nat) : Event Ans Req Res σ → Option (Exchange Ans)
  | .act r _ e _ _ => if r = rid then some e else none
  | _ => none

/-- The exchanges of one request, newest first. -/
def own (rid : Nat) (trace : Trace Ans Req Res σ) : History Ans :=
  trace.filterMap (Event.exchangeOf rid)

structure RunState (Ans : Act → Type) (Req Res σ : Type) where
  world : σ
  procs : Nat → Option (Req × Prog Ans Res) := fun _ => none
  trace : Trace Ans Req Res σ := []

/-- The request was started and has not been answered. -/
def Open (rid : Nat) (req : Req) (trace : Trace Ans Req Res σ) : Prop :=
  .start rid req ∈ trace ∧ ∀ req' res, .reply rid req' res ∉ trace

theorem open_start {rid : Nat} {req : Req} {tr : Trace Ans Req Res σ} (unused : ∀ e ∈ tr, e.rid ≠ rid) :
    Open rid req (.start rid req :: tr) := by
  refine ⟨List.mem_cons_self, fun req' res member => ?_⟩
  rcases List.mem_cons.mp member with impossible | member
  · cases impossible
  · exact unused _ member rfl

theorem open_cons {rid : Nat} {req : Req} {e : Event Ans Req Res σ} {tr : Trace Ans Req Res σ}
    (live : Open rid req tr) (other : ∀ req' res, Event.reply rid req' res ≠ e) :
    Open rid req (e :: tr) := by
  refine ⟨List.mem_cons_of_mem _ live.1, fun req' res member => ?_⟩
  rcases List.mem_cons.mp member with equal | member
  · exact other req' res equal
  · exact live.2 req' res member

/-- Two places in a list are one, or one of them comes before the other. -/
theorem places_ordered {α : Type} {l newer older newer' older' : List α} {a b : α}
    (one : l = newer ++ a :: older) (two : l = newer' ++ b :: older') :
    (a = b ∧ older = older') ∨ (∃ middle, older = middle ++ b :: older') ∨
      ∃ middle, older' = middle ++ a :: older := by
  have first : a :: older <:+ l := ⟨newer, one.symm⟩
  have second : b :: older' <:+ l := ⟨newer', two.symm⟩
  rcases List.suffix_or_suffix_of_suffix first second with inside | inside
  · rcases List.suffix_cons_iff.mp inside with same | ⟨middle, split⟩
    · exact .inl (List.cons.inj same)
    · exact .inr (.inr ⟨middle, split.symm⟩)
  · rcases List.suffix_cons_iff.mp inside with same | ⟨middle, split⟩
    · exact .inl ⟨(List.cons.inj same).1.symm, (List.cons.inj same).2.symm⟩
    · exact .inr (.inl ⟨middle, split.symm⟩)

section own
variable {tr : Trace Ans Req Res σ} {rid : Nat}

@[simp] theorem own_start {r : Nat} {req : Req} :
    own rid (Event.start r req :: tr) = own rid tr := rfl

@[simp] theorem own_reply {r : Nat} {req : Req} {res : Res} :
    own rid (Event.reply r req res :: tr) = own rid tr := rfl

theorem own_act_same {req : Req} {e : Exchange Ans} {pre post : σ} :
    own rid (Event.act rid req e pre post :: tr) = e :: own rid tr := by
  simp [own, Event.exchangeOf]

theorem own_act_other {r : Nat} {req : Req} {e : Exchange Ans} {pre post : σ} (other : r ≠ rid) :
    own rid (Event.act r req e pre post :: tr) = own rid tr := by
  simp [own, Event.exchangeOf, other]

theorem mem_own {e : Exchange Ans} :
    e ∈ own rid tr ↔ ∃ req pre post, Event.act rid req e pre post ∈ tr := by
  simp only [own, List.mem_filterMap]
  constructor
  · rintro ⟨event, member, found⟩
    cases event with
    | act r req x pre post =>
      simp only [Event.exchangeOf, Option.ite_none_right_eq_some, Option.some.injEq] at found
      obtain ⟨rfl, rfl⟩ := found
      exact ⟨req, pre, post, member⟩
    | _ => cases found
  · rintro ⟨req, pre, post, member⟩
    exact ⟨_, member, by simp [Event.exchangeOf]⟩

theorem own_unused (unused : ∀ e ∈ tr, e.rid ≠ rid) : own rid tr = [] := by
  refine List.eq_nil_iff_forall_not_mem.mpr fun e member => ?_
  obtain ⟨req, pre, post, present⟩ := mem_own.mp member
  exact unused _ present rfl

theorem own_mono (newer : Trace Ans Req Res σ) {older : Trace Ans Req Res σ} :
    own rid older ⊆ own rid (newer ++ older) := by
  intro e member
  rw [own, List.filterMap_append]
  exact List.mem_append_right _ member

theorem own_older {newer older : Trace Ans Req Res σ} {e : Event Ans Req Res σ} :
    own rid older ⊆ own rid (newer ++ e :: older) := by
  rw [List.append_cons]
  exact own_mono _

/-- The event of a request's newest exchange, with the exchanges before it. -/
theorem own_newest {e : Exchange Ans} {before : History Ans} (newest : own rid tr = e :: before) :
    ∃ newer older req pre post, tr = newer ++ .act rid req e pre post :: older ∧
      own rid older = before := by
  obtain ⟨newer, event, older, split, -, here, rest⟩ := List.filterMap_eq_cons_iff.mp newest
  cases event with
  | start | reply => cases here
  | act r req e' pre post =>
    simp only [Event.exchangeOf] at here
    split at here
    · rename_i same
      subst same
      cases here
      exact ⟨newer, older, req, pre, post, split, rest⟩
    · cases here

end own

end PasswordManager.Interaction
