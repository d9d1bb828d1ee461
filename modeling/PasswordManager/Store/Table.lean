import Mathlib.Data.List.Dedup
import Mathlib.Data.List.Nodup
import Mathlib.Data.List.Pairwise

/-!
# Keyed tables as lists

A table is a list of rows; `key` reads the column that a statement selects by.
-/

namespace PasswordManager.Table

variable {α κ : Type} [DecidableEq κ] {key : α → κ} {rows : List α} {k : κ} {f : α → α}

/-- The first row with the key. -/
def find (key : α → κ) (rows : List α) (k : κ) : Option α := rows.find? fun row => key row = k

/-- Changes the rows with the key in place. -/
def update (key : α → κ) (rows : List α) (k : κ) (f : α → α) : List α :=
  rows.map fun row => if key row = k then f row else row

theorem find_some {row : α} (found : find key rows k = some row) : row ∈ rows ∧ key row = k :=
  ⟨List.mem_of_find?_eq_some found, by simpa using List.find?_some found⟩

theorem forall_find {property : α → Prop} (all : ∀ row ∈ rows, property row) :
    ∀ row ∈ find key rows k, property row :=
  fun row found => all row (find_some found).1

theorem find_none (missing : find key rows k = none) {row : α} (member : row ∈ rows) :
    key row ≠ k := by
  simpa using List.find?_eq_none.mp missing row member

omit [DecidableEq κ] in
theorem key_unique (unique : (rows.map key).Nodup) {a b : α} (left : a ∈ rows) (right : b ∈ rows)
    (same : key a = key b) : a = b :=
  List.inj_on_of_nodup_map unique left right same

theorem find_eq_some_iff (unique : (rows.map key).Nodup) {row : α} :
    find key rows k = some row ↔ row ∈ rows ∧ key row = k := by
  refine ⟨find_some, fun ⟨member, same⟩ => ?_⟩
  cases found : find key rows k with
  | none => exact absurd same (find_none found member)
  | some other =>
    obtain ⟨present, equal⟩ := find_some found
    rw [key_unique unique present member (equal.trans same.symm)]

omit [DecidableEq κ] in
/-- A unique column that may be empty identifies the rows where it is not. -/
theorem column_unique {column : α → Option κ} (unique : (rows.filterMap column).Nodup) {a b : α}
    (left : a ∈ rows) (right : b ∈ rows) (first : column a = some k) (second : column b = some k) :
    a = b := by
  by_contra other
  have : Std.Symm fun a b : α => ∀ i, column a = some i → ∀ j, column b = some j → i ≠ j :=
    ⟨fun _ _ apart i one j two same => apart j two i one same.symm⟩
  exact (List.pairwise_filterMap.mp unique).forall left right other k first k second rfl

theorem find_column {column : α → Option κ} (unique : (rows.filterMap column).Nodup) {row : α}
    (member : row ∈ rows) (same : column row = some k) : find column rows (some k) = some row := by
  cases found : find column rows (some k) with
  | none => exact absurd same (find_none found member)
  | some other =>
    obtain ⟨present, equal⟩ := find_some found
    rw [column_unique unique present member equal same]

theorem mem_update {row : α} :
    row ∈ update key rows k f ↔
      (∃ old ∈ rows, key old = k ∧ row = f old) ∨ (row ∈ rows ∧ key row ≠ k) := by
  simp only [update, List.mem_map]
  constructor
  · rintro ⟨old, member, rfl⟩
    split <;> rename_i same
    · exact Or.inl ⟨old, member, same, rfl⟩
    · exact Or.inr ⟨member, same⟩
  · rintro (⟨old, member, same, rfl⟩ | ⟨member, other⟩)
    · exact ⟨old, member, by simp [same]⟩
    · exact ⟨row, member, by simp [other]⟩

theorem update_row (unique : (rows.map key).Nodup) {row : α} (member : row ∈ rows) :
    update key rows (key row) f = update key rows (key row) fun _ => f row := by
  refine List.map_congr_left fun other there => ?_
  split <;> rename_i same
  · rw [key_unique unique there member same]
  · rfl

/-- An update of the row that was inserted last. -/
theorem update_last {row : α} (others : ∀ r ∈ rows, key r ≠ k) (same : key row = k) :
    update key (rows ++ [row]) k f = rows ++ [f row] := by
  have kept : update key rows k f = rows := by
    refine (List.map_congr_left fun r member => ?_).trans (List.map_id rows)
    rw [if_neg (others r member)]
    rfl
  have changed : update key [row] k f = [f row] := by simp [update, same]
  rw [update, List.map_append]
  exact congrArg₂ _ kept changed

/-- A selection that takes no row with the key, before or after the change. -/
theorem filter_update {p q : α → Bool} (same : ∀ row ∈ rows, key row ≠ k → p row = q row)
    (before : ∀ row ∈ rows, key row = k → q row = false)
    (after : ∀ row ∈ rows, key row = k → p (f row) = false) :
    (update key rows k f).filter p = rows.filter q := by
  induction rows with
  | nil => rfl
  | cons row rows ih =>
    have rest := ih (fun r member => same r (List.mem_cons_of_mem _ member))
      (fun r member => before r (List.mem_cons_of_mem _ member))
      (fun r member => after r (List.mem_cons_of_mem _ member))
    unfold update at rest ⊢
    rw [List.map_cons, List.filter_cons, List.filter_cons, rest]
    by_cases found : key row = k
    · simp [found, after row List.mem_cons_self found, before row List.mem_cons_self found]
    · rw [if_neg found, same row List.mem_cons_self found]

/-- A selection that takes the row with the key before and after the change. -/
theorem filter_update_comm {p : α → Bool} (kept : ∀ row ∈ rows, key row = k → p (f row) = p row) :
    (update key rows k f).filter p = update key (rows.filter p) k f := by
  induction rows with
  | nil => rfl
  | cons row rows ih =>
    have rest := ih fun r member => kept r (List.mem_cons_of_mem _ member)
    unfold update at rest ⊢
    rw [List.map_cons, List.filter_cons, List.filter_cons, rest]
    by_cases found : key row = k
    · rw [if_pos found, kept row List.mem_cons_self found]
      split
      · rw [List.map_cons, if_pos found]
      · rfl
    · rw [if_neg found]
      split
      · rw [List.map_cons, if_neg found]
      · rfl

/-- A search for another key misses the change. -/
theorem find_update_other {other : κ} (apart : other ≠ k) (kept : ∀ row, key (f row) = key row) :
    find key (update key rows k f) other = find key rows other := by
  induction rows with
  | nil => rfl
  | cons row rows ih =>
    unfold find update at ih ⊢
    rw [List.map_cons, List.find?_cons, List.find?_cons, ih]
    by_cases found : key row = k
    · have missed : key row ≠ other := fun same => apart (same.symm.trans found)
      simp [found, kept, apart.symm]
    · rw [if_neg found]

theorem map_update {β : Type} (column : α → β) (kept : ∀ row, column (f row) = column row) :
    (update key rows k f).map column = rows.map column := by
  simp only [update, List.map_map]
  refine List.map_congr_left fun row _ => ?_
  simp only [Function.comp_apply]
  split
  · exact kept row
  · rfl

theorem nodup_update {β : Type} {column : α → β} (unique : (rows.map key).Nodup)
    (distinct : (rows.map column).Nodup)
    (apart : ∀ row ∈ rows, key row = k → ∀ other ∈ rows, key other ≠ k → column other ≠ column (f row)) :
    ((update key rows k f).map column).Nodup := by
  rw [update, List.map_map]
  refine List.Nodup.map_on (fun a here b there same => ?_) distinct.of_map
  simp only [Function.comp_apply] at same
  by_cases first : key a = k
  · by_cases second : key b = k
    · exact key_unique unique here there (first.trans second.symm)
    · rw [if_pos first, if_neg second] at same
      exact absurd same.symm (apart a here first b there second)
  · by_cases second : key b = k
    · rw [if_neg first, if_pos second] at same
      exact absurd same (apart b there second a here first)
    · rw [if_neg first, if_neg second] at same
      exact key_unique distinct here there same

theorem nodup_update_column {β : Type} {column : α → Option β} (unique : (rows.map key).Nodup)
    (distinct : (rows.filterMap column).Nodup)
    (apart : ∀ row ∈ rows, key row = k → ∀ value ∈ column (f row), ∀ other ∈ rows, key other ≠ k →
      column other ≠ some value) :
    ((update key rows k f).filterMap column).Nodup := by
  rw [update, List.filterMap_map]
  refine List.pairwise_filterMap.mpr (unique.of_map.pairwise_of_forall_ne fun a here b there other => ?_)
  intro value first value' second same
  subst same
  simp only [Function.comp_apply] at first second
  by_cases left : key a = k
  · by_cases right : key b = k
    · exact other (key_unique unique here there (left.trans right.symm))
    · rw [if_pos left] at first
      rw [if_neg right] at second
      exact apart a here left value first b there right second
  · by_cases right : key b = k
    · rw [if_neg left] at first
      rw [if_pos right] at second
      exact apart b there right value second a here left first
    · rw [if_neg left] at first
      rw [if_neg right] at second
      exact other (column_unique distinct here there first second)

/-! ## The greatest row of each key -/

variable {rank : α → Int}

/-- `SELECT MAX(rank) FROM rows GROUP BY key` -/
def groupMax (rank : α → Int) (key : α → κ) (rows : List α) : List Int :=
  (rows.map key).dedup.filterMap fun k =>
    ((rows.filter fun row => key row = k).map rank).max?

/-- The rows left by `DELETE … WHERE rank NOT IN (SELECT MAX(rank) … GROUP BY key)`. -/
def latest (rank : α → Int) (key : α → κ) (rows : List α) : List α :=
  rows.filter fun row => rank row ∈ groupMax rank key rows

theorem mem_groupMax {n : Int} :
    n ∈ groupMax rank key rows ↔
      ∃ row ∈ rows, rank row = n ∧ ∀ other ∈ rows, key other = key row → rank other ≤ n := by
  have greatest : ∀ k, ((rows.filter fun row => key row = k).map rank).max? = some n ↔
      (∃ row ∈ rows, key row = k ∧ rank row = n) ∧
        ∀ other ∈ rows, key other = k → rank other ≤ n := by
    intro k
    rw [List.max?_eq_some_iff, List.forall_mem_map]
    simp [and_assoc]
  simp only [groupMax, List.mem_filterMap, List.mem_dedup, List.mem_map, greatest]
  constructor
  · rintro ⟨k, -, ⟨row, member, rfl, same⟩, bound⟩
    exact ⟨row, member, same, bound⟩
  · rintro ⟨row, member, same, bound⟩
    exact ⟨key row, ⟨row, member, rfl⟩, ⟨row, member, rfl, same⟩, bound⟩

section
variable (distinct : ∀ a ∈ rows, ∀ b ∈ rows, rank a = rank b → a = b)
include distinct

theorem mem_latest {row : α} :
    row ∈ latest rank key rows ↔
      row ∈ rows ∧ ∀ other ∈ rows, key other = key row → rank other ≤ rank row := by
  simp only [latest, List.mem_filter, decide_eq_true_eq, mem_groupMax]
  constructor
  · rintro ⟨member, other, present, same, bound⟩
    obtain rfl := distinct other present row member same
    exact ⟨member, bound⟩
  · rintro ⟨member, bound⟩
    exact ⟨member, row, member, rfl, bound⟩

theorem latest_eq {a b : α} (left : a ∈ latest rank key rows) (right : b ∈ latest rank key rows)
    (same : key a = key b) : a = b := by
  obtain ⟨here, most⟩ := (mem_latest distinct).mp left
  obtain ⟨there, most'⟩ := (mem_latest distinct).mp right
  have le := most b there same.symm
  have ge := most' a here same
  exact distinct a here b there (by omega)

theorem latest_unique (occurs : k ∈ rows.map key) :
    ∃! row, row ∈ latest rank key rows ∧ key row = k := by
  obtain ⟨first, member, rfl⟩ := List.mem_map.mp occurs
  have nonempty : ((rows.filter fun row => key row = key first).map rank) ≠ [] := by
    have here : first ∈ rows.filter fun row => key row = key first := by simp [member]
    exact List.ne_nil_of_mem (List.mem_map_of_mem here)
  obtain ⟨n, top⟩ := Option.ne_none_iff_exists'.mp (mt List.max?_eq_none_iff.mp nonempty)
  obtain ⟨attained, bound⟩ := List.max?_eq_some_iff.mp top
  obtain ⟨row, found, rfl⟩ := List.mem_map.mp attained
  obtain ⟨present, same⟩ := List.mem_filter.mp found
  have same : key row = key first := of_decide_eq_true same
  have kept : row ∈ latest rank key rows := by
    refine (mem_latest distinct).mpr ⟨present, fun other there alike => bound _ ?_⟩
    have counted : other ∈ rows.filter fun row => key row = key first :=
      List.mem_filter.mpr ⟨there, decide_eq_true (alike.trans same)⟩
    exact List.mem_map_of_mem counted
  refine ⟨row, ⟨kept, same⟩, fun other ⟨there, alike⟩ => ?_⟩
  exact latest_eq distinct there kept (alike.trans same.symm)

theorem nodup_latest (rows_nodup : rows.Nodup) : ((latest rank key rows).map key).Nodup :=
  List.Nodup.map_on (fun _ left _ right same => latest_eq distinct left right same)
    (rows_nodup.filter _)
end

end PasswordManager.Table
