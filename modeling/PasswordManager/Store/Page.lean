import Mathlib.Data.List.Forall2

/-!
# Reading a list page by page

A client that asks for one page after the other until it gets an empty one.
-/

namespace PasswordManager.Page

variable {α β : Type} {related : α → β → Prop} {rows : List α} {size : Nat} {ask : Nat → List β}

/-- The page with the number, counted from 0. -/
def page (rows : List α) (size k : Nat) : List α := (rows.drop (k * size)).take size

/-- From the page with the number on, the client collects the entries until a page is empty. -/
inductive Collects (ask : Nat → List β) : Nat → List β → Prop where
  | done {k} (empty : ask k = []) : Collects ask k []
  | more {k rest} (some : ask k ≠ []) (later : Collects ask (k + 1) rest) : Collects ask k (ask k ++ rest)

theorem page_nil_iff (positive : 0 < size) {k : Nat} : page rows size k = [] ↔ rows.length ≤ k * size := by
  unfold page
  rw [List.take_eq_nil_iff, List.drop_eq_nil_iff]
  omega

theorem collects_from (positive : 0 < size) (answers : ∀ k, List.Forall₂ related (page rows size k) (ask k))
    (k : Nat) :
    ∃ entries, Collects ask k entries ∧ List.Forall₂ related (rows.drop (k * size)) entries := by
  -- The induction is on the rows that are left.
  induction left : rows.length - k * size using Nat.strongRecOn generalizing k with
  | ind n ih =>
    by_cases finished : rows.length ≤ k * size
    · have empty := answers k
      rw [(page_nil_iff positive).mpr finished, List.forall₂_nil_left_iff] at empty
      refine ⟨[], .done empty, ?_⟩
      rw [List.drop_eq_nil_of_le finished]
      exact .nil
    · have next : (k + 1) * size = k * size + size := Nat.succ_mul k size
      obtain ⟨rest, later, others⟩ := ih (rows.length - (k + 1) * size) (by omega) (k + 1) rfl
      refine ⟨ask k ++ rest, .more ?_ later, ?_⟩
      · intro empty
        have none := answers k
        rw [empty, List.forall₂_nil_right_iff] at none
        exact finished ((page_nil_iff positive).mp none)
      · have split : rows.drop (k * size) = page rows size k ++ rows.drop ((k + 1) * size) := by
          rw [next, ← List.drop_drop]
          exact (List.take_append_drop size _).symm
        rw [split]
        exact List.rel_append (answers k) others

theorem collects_all (positive : 0 < size) (answers : ∀ k, List.Forall₂ related (page rows size k) (ask k)) :
    ∃ entries, Collects ask 0 entries ∧ List.Forall₂ related rows entries := by
  obtain ⟨entries, collects, all⟩ := collects_from positive answers 0
  rw [Nat.zero_mul, List.drop_zero] at all
  exact ⟨entries, collects, all⟩

end PasswordManager.Page
