import PasswordManager.AdminCli.Tui

/-!
# The selections stay in range

Whatever keys are pressed and whatever the backend answers, the selected row is a row of the
page that is shown, so the methods that index the device list act on the highlighted device.
-/

namespace PasswordManager.AdminCli
open Interaction

variable {α β : Type}

/-- Whatever it is answered, the program ends with such a value and does not index out of
range. -/
def Ends (P : α → Prop) (p : Console α) : Prop :=
  ∀ h, Fallible.Spec (fun _ _ => True) (fun _ panic => panic ≠ .indexOutOfBounds)
    (fun _ v => P v) h p

namespace Ends

variable {P Q : α → Prop} {p : Console α}

theorem ret {v : α} (holds : P v) : Ends P (pure v : Console α) := fun _ => holds

theorem stop {panic : Panic} (other : panic ≠ .indexOutOfBounds) : Ends P (throw panic) :=
  fun _ => other

theorem bind {R : β → Prop} {f : α → Console β} (first : Ends P p)
    (rest : ∀ v, P v → Ends R (f v)) : Ends R (p >>= f) := by
  intro h
  rw [Fallible.spec_bind]
  exact Fallible.spec_mono (fun h' v holds => rest v holds h') (first h)

theorem map {R : β → Prop} {f : α → β} (first : Ends P p) (rest : ∀ v, P v → R (f v)) :
    Ends R (f <$> p) := by
  rw [← bind_pure_comp]
  exact first.bind fun v holds => ret (rest v holds)

theorem mono (first : Ends P p) (implied : ∀ v, P v → Q v) : Ends Q p :=
  fun h => Fallible.spec_mono (fun _ v holds => implied v holds) (first h)

theorem answered (x : CliAction) : Ends (fun _ => True) (act x) :=
  fun _ => ⟨trivial, fun _ => trivial⟩

end Ends

theorem getAt_ends {items : List α} {i : Nat} (bound : i < items.length) :
    Ends (fun item => items[i]? = some item) (getAt items i) := by
  unfold getAt
  rw [List.getElem?_eq_getElem bound]
  exact .ret rfl

theorem updateAt_ends {items : List α} {i : Nat} {f : α → α} (bound : i < items.length) :
    Ends (fun after => after.length = items.length) (updateAt items i f) :=
  (getAt_ends bound).bind fun _ _ => .ret List.length_set

/-! ## What the selections depend on -/

structure Layout where
  devices : Nat
  row : Option Nat
  page : Nat
  totalPages : Nat
  users : Nat
  user : Option Nat

def App.layout (app : App) : Layout where
  devices := app.identities.length
  row := app.tableState
  page := app.page
  totalPages := app.totalPages
  users := app.users.length
  user := app.userState

structure App.InRange (app : App) : Prop where
  row : ∀ i, app.tableState = some i →
    i < PAGE_SIZE ∧ app.page * PAGE_SIZE + i < app.identities.length
  selected : app.identities ≠ [] → ∃ i, app.tableState = some i
  page : app.page < max app.totalPages 1
  user : ∀ i, app.userState = some i → i < app.users.length

/-- The number of pages is the one of the list, or nothing has been fetched yet. -/
structure App.Paged (app : App) : Prop extends app.InRange where
  pages : app.totalPages = (max app.identities.length 1 - 1) / PAGE_SIZE + 1 ∨
    app.totalPages = 0 ∧ app.identities = []

theorem App.Paged.of_layout {a b : App} (paged : a.Paged) (same : b.layout = a.layout) :
    b.Paged := by
  have devices : b.identities.length = a.identities.length := congrArg Layout.devices same
  have row : b.tableState = a.tableState := congrArg Layout.row same
  have page : b.page = a.page := congrArg Layout.page same
  have total : b.totalPages = a.totalPages := congrArg Layout.totalPages same
  have users : b.users.length = a.users.length := congrArg Layout.users same
  have user : b.userState = a.userState := congrArg Layout.user same
  constructor
  · constructor
    · intro i chosen
      rw [devices, page]
      exact paged.row i (row ▸ chosen)
    · intro filled
      rw [row]
      refine paged.selected fun empty => filled ?_
      rw [← List.length_eq_zero_iff, devices, empty, List.length_nil]
    · rw [page, total]
      exact paged.page
    · intro i chosen
      rw [users]
      exact paged.user i (user ▸ chosen)
  · rw [total, devices, ← List.length_eq_zero_iff, devices, List.length_eq_zero_iff]
    exact paged.pages

/-- No deletion waits for its confirmation. -/
structure App.Settled (app : App) : Prop extends app.Paged where
  unarmed : app.pendingDelete = none

theorem App.Settled.of_layout {a b : App} (settled : a.Settled) (same : b.layout = a.layout)
    (unarmed : b.pendingDelete = a.pendingDelete) : b.Settled :=
  ⟨settled.toPaged.of_layout same, unarmed.trans settled.unarmed⟩

/-! ## Fetching -/

variable {app : App}

theorem new_settled (base adminKey exportDir : String) :
    (App.new base adminKey exportDir).Settled := by
  refine ⟨⟨⟨?_, ?_, ?_, ?_⟩, .inr ⟨rfl, rfl⟩⟩, rfl⟩
  · intro i chosen
    cases chosen
  · intro filled
    exact absurd rfl filled
  · exact Nat.zero_lt_one
  · intro i chosen
    cases chosen

theorem page_started {n page : Nat} (filled : 0 < n)
    (bound : page < (max n 1 - 1) / PAGE_SIZE + 1) : page * PAGE_SIZE < n := by
  unfold PAGE_SIZE at bound ⊢
  omega

theorem showIdentities_paged (paged : app.Paged) (body : Value) :
    (app.showIdentities body).Paged := by
  unfold App.showIdentities
  generalize (body.asArray.getD []).map IdentityEntry.ofValue = identities
  dsimp only
  generalize pages : (max identities.length 1 - 1) / PAGE_SIZE + 1 = totalPages
  generalize chosenPage : (if app.page ≥ totalPages then totalPages - 1 else app.page) = page
  have last : page < totalPages := by
    rw [← chosenPage]
    have : 0 < totalPages := pages ▸ Nat.succ_pos _
    split <;> omega
  have started : identities ≠ [] → page * PAGE_SIZE < identities.length := fun filled =>
    page_started (List.length_pos_iff.mpr filled) (pages ▸ last)
  refine ⟨⟨?_, ?_, ?_, paged.user⟩, .inl pages.symm⟩
  · intro i chosen
    dsimp only at chosen ⊢
    split at chosen
    · cases chosen
    · rename_i filled
      have first := started fun empty => filled (by rw [empty]; rfl)
      rw [if_pos first] at chosen
      cases chosen
      exact ⟨by decide, first⟩
  · intro filled
    dsimp only at filled ⊢
    rw [if_neg (by simpa using filled), if_pos (started filled)]
    exact ⟨0, rfl⟩
  · dsimp only
    omega

theorem fetchAll_settled (settled : app.Settled) : Ends App.Settled app.fetchAll := by
  refine (Ends.answered _).bind fun resp _ => .ret ?_
  have asked : ({ app with loading := true, backendDown := false } : App).Settled :=
    settled.of_layout rfl rfl
  cases resp with
  | none => exact asked.of_layout rfl rfl
  | some r =>
    dsimp only
    split
    · have shown := showIdentities_paged asked.toPaged (r.json.getD .null)
      exact ⟨shown.of_layout rfl, settled.unarmed⟩
    · exact asked.of_layout rfl rfl

theorem showUsers_settled (settled : app.Settled) (body : Value) :
    (app.showUsers body).Settled := by
  refine ⟨⟨⟨settled.row, settled.selected, settled.page, ?_⟩, settled.pages⟩, settled.unarmed⟩
  unfold App.showUsers
  generalize (body.asArray.getD []).map UserEntry.ofValue = users
  intro i chosen
  dsimp only at chosen ⊢
  split at chosen
  · cases chosen
  · rename_i filled
    have := List.length_pos_iff.mpr fun empty : users = [] => filled (by rw [empty]; rfl)
    cases chosen
    omega

theorem fetchUsers_settled (settled : app.Settled) : Ends App.Settled app.fetchUsers := by
  refine (Ends.answered _).bind fun resp _ => ?_
  have asked : ({ app with backendDown := false } : App).Settled := settled.of_layout rfl rfl
  cases resp with
  | none => exact .ret (asked.of_layout rfl rfl)
  | some r =>
    dsimp only
    split
    · exact .ret (showUsers_settled asked _)
    · exact .ret (asked.of_layout rfl rfl)

/-! ## Acting on the selections -/

theorem App.InRange.globalIndex (range : app.InRange) {globalIdx : Nat}
    (chosen : app.selectedGlobalIndex = some globalIdx) : globalIdx < app.identities.length := by
  unfold App.selectedGlobalIndex at chosen
  obtain ⟨i, row, rfl⟩ := Option.map_eq_some_iff.mp chosen
  exact (range.row i row).2

theorem toggleSelected_settled (settled : app.Settled) : Ends App.Settled app.toggleSelected := by
  unfold App.toggleSelected
  split
  · rename_i globalIdx chosen
    have bound := settled.globalIndex chosen
    refine (getAt_ends bound).bind fun entry _ => ?_
    refine (Ends.answered _).bind fun resp _ => ?_
    split
    · refine (updateAt_ends bound).bind fun identities length => .ret ?_
      exact settled.of_layout (by unfold App.layout; rw [length]) rfl
    · exact .ret (settled.of_layout rfl rfl)
  · exact .ret settled

theorem deletePending_settled (paged : app.Paged) : Ends App.Settled app.deletePending := by
  unfold App.deletePending
  split
  · have taken : ({ app with pendingDelete := none } : App).Settled :=
      ⟨paged.of_layout rfl, rfl⟩
    refine (Ends.answered _).bind fun resp _ => ?_
    split
    · split
      · exact fetchAll_settled (taken.of_layout rfl rfl)
      · exact .ret (taken.of_layout rfl rfl)
    · exact .ret (taken.of_layout rfl rfl)
  · rename_i none
    refine .ret ⟨paged, ?_⟩
    cases pending : app.pendingDelete with
    | none => rfl
    | some uuid => exact absurd pending (none uuid)

theorem toggleUserDeleted_settled (settled : app.Settled) (setDeleted : Bool) :
    Ends App.Settled (app.toggleUserDeleted setDeleted) := by
  unfold App.toggleUserDeleted
  split
  · split
    · refine (Ends.answered _).bind fun resp _ => ?_
      split
      · split
        · exact fetchUsers_settled (settled.of_layout rfl rfl)
        · exact .ret (settled.of_layout rfl rfl)
      · exact .ret (settled.of_layout rfl rfl)
    · exact .ret settled
  · exact .ret settled

theorem length_setConfirmed (uuid : String) (confirm : Bool) (identities : List IdentityEntry) :
    (App.setConfirmed uuid confirm identities).length = identities.length := by
  induction identities with
  | nil => rfl
  | cons i rest ih =>
    unfold App.setConfirmed
    split
    · rfl
    · rw [List.length_cons, ih, List.length_cons]

theorem approveDevices_settled (confirm : Bool) (action : String) (devices : List String)
    (ok : Nat) (settled : app.Settled) :
    Ends (fun r => r.2.Settled) (App.approveDevices confirm action devices ok app) := by
  induction devices generalizing ok app with
  | nil => exact .ret settled
  | cons uuid rest ih =>
    refine (Ends.answered _).bind fun resp _ => ?_
    split
    · refine ih (ok + 1) (settled.of_layout ?_ rfl)
      unfold App.layout
      rw [length_setConfirmed]
    · exact ih ok settled

theorem toggleUserApproval_settled (settled : app.Settled) :
    Ends App.Settled app.toggleUserApproval := by
  unfold App.toggleUserApproval
  split
  · split
    · dsimp only
      split
      · exact .ret (settled.of_layout rfl rfl)
      · refine (approveDevices_settled _ _ _ 0 settled).bind fun r approved => ?_
        refine (fetchAll_settled approved).bind fun after fetched => .ret ?_
        exact fetched.of_layout rfl rfl
    · exact .ret settled
  · exact .ret settled

/-! ## Moving the selections -/

theorem nextUser_settled (settled : app.Settled) : app.nextUser.Settled := by
  unfold App.nextUser
  split
  · exact settled
  · rename_i filled
    have := List.length_pos_iff.mpr fun empty : app.users = [] => filled (by rw [empty]; rfl)
    refine ⟨⟨⟨settled.row, settled.selected, settled.page, ?_⟩, settled.pages⟩, settled.unarmed⟩
    intro i chosen
    cases chosen
    dsimp only
    omega

/-- A row before the selected one, where there is one, is selected instead. -/
theorem before_selected {chosen : Option Nat} (moved : chosen.getD 0 > 0) :
    chosen = some (chosen.getD 0) := by
  cases chosen with
  | none => cases moved
  | some i => rfl

theorem prevUser_settled (settled : app.Settled) : app.prevUser.Settled := by
  unfold App.prevUser
  dsimp only
  split
  · rename_i moved
    have bound := settled.user _ (before_selected moved)
    refine ⟨⟨⟨settled.row, settled.selected, settled.page, ?_⟩, settled.pages⟩, settled.unarmed⟩
    intro i chosen
    cases chosen
    dsimp only
    omega
  · exact settled

theorem turn_settled (settled : app.Settled) {page : Nat} (filled : app.identities ≠ [])
    (bound : page < app.totalPages) :
    ({ app with page := page, tableState := some 0 } : App).Settled := by
  have first : page * PAGE_SIZE < app.identities.length := by
    rcases settled.pages with pages | ⟨-, empty⟩
    · exact page_started (List.length_pos_iff.mpr filled) (pages ▸ bound)
    · exact absurd empty filled
  refine ⟨⟨⟨?_, fun _ => ⟨0, rfl⟩, ?_, settled.user⟩, settled.pages⟩, settled.unarmed⟩
  · intro i chosen
    cases chosen
    exact ⟨by decide, first⟩
  · dsimp only
    omega

theorem App.Paged.filled (paged : app.Paged) (more : 1 < app.totalPages) :
    app.identities ≠ [] := by
  intro empty
  rcases paged.pages with pages | ⟨pages, -⟩
  · rw [empty] at pages
    change app.totalPages = 1 at pages
    omega
  · omega

theorem nextPage_settled (settled : app.Settled) : app.nextPage.Settled := by
  unfold App.nextPage
  split
  · rename_i more
    exact turn_settled settled (settled.filled (by omega)) more
  · exact settled

theorem prevPage_settled (settled : app.Settled) : app.prevPage.Settled := by
  unfold App.prevPage
  split
  · have bound := settled.page
    exact turn_settled settled (settled.filled (by omega)) (by omega)
  · exact settled

theorem nextRow_settled (settled : app.Settled) : app.nextRow.Settled := by
  unfold App.nextRow App.pageStart
  dsimp only
  by_cases started : app.page * PAGE_SIZE < app.identities.length
  · rw [if_pos started]
    split
    · exact settled
    · refine ⟨⟨⟨?_, fun _ => ⟨_, rfl⟩, settled.page, settled.user⟩, settled.pages⟩,
        settled.unarmed⟩
      intro i chosen
      cases chosen
      unfold PAGE_SIZE at started ⊢
      dsimp only
      omega
  · rw [if_neg started, if_pos rfl]
    exact settled

theorem prevRow_settled (settled : app.Settled) : app.prevRow.Settled := by
  unfold App.prevRow
  dsimp only
  split
  · rename_i moved
    have bound := settled.row _ (before_selected moved)
    refine ⟨⟨⟨?_, fun _ => ⟨_, rfl⟩, settled.page, settled.user⟩, settled.pages⟩,
      settled.unarmed⟩
    intro i chosen
    cases chosen
    dsimp only
    omega
  · exact settled

/-! ## Export and import -/

theorem doExport_settled (settled : app.Settled) : Ends App.Settled app.doExport := by
  refine (Ends.answered _).bind fun resp _ => ?_
  dsimp only
  split
  · split
    · split
      · refine (Ends.answered _).bind fun _ _ => ?_
        refine (Ends.answered _).bind fun written _ => ?_
        split
        · exact .ret (settled.of_layout rfl rfl)
        · exact .ret (settled.of_layout rfl rfl)
      · exact .stop (by decide)
    · exact .ret (settled.of_layout rfl rfl)
  · exact .ret (settled.of_layout rfl rfl)

theorem enterExport_settled (settled : app.Settled) : Ends App.Settled app.enterExport := by
  refine (Ends.answered _).bind fun found _ => ?_
  split
  · exact .ret (settled.of_layout rfl rfl)
  · exact doExport_settled settled

theorem firstPage_settled (settled : app.Settled) : ({ app with page := 0 } : App).Settled := by
  refine ⟨⟨⟨?_, settled.selected, ?_, settled.user⟩, settled.pages⟩, settled.unarmed⟩
  · intro i chosen
    have bound := settled.row i chosen
    dsimp only
    omega
  · dsimp only
    omega

theorem enterImport_settled (settled : app.Settled) : Ends App.Settled app.enterImport := by
  refine (Ends.answered _).bind fun data _ => ?_
  split
  · exact .ret (settled.of_layout rfl rfl)
  · refine (Ends.answered _).bind fun resp _ => ?_
    split
    · split
      · refine Ends.bind (fetchAll_settled (settled.of_layout rfl rfl)) fun fetched kept => ?_
        refine (fetchUsers_settled kept).bind fun after kept => .ret ?_
        exact (firstPage_settled kept).of_layout rfl rfl
      · exact .ret (settled.of_layout rfl rfl)
    · exact .ret (settled.of_layout rfl rfl)

end PasswordManager.AdminCli
