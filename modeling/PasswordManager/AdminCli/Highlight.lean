import PasswordManager.AdminCli.Selection

/-!
# The highlighted device

`render_devices` highlights one row of the page. In every state of a session that row is the
selected device, the one that is confirmed or deleted.
-/

namespace PasswordManager.AdminCli
open Interaction

variable {α β : Type} {app : App}

/-- The device whose row `render_devices` highlights. -/
def App.highlighted (app : App) : Option IdentityEntry :=
  ((app.identities.take (min (app.page * PAGE_SIZE + PAGE_SIZE) app.identities.length)).drop
    (app.page * PAGE_SIZE))[app.tableState.getD 0]?

/-! ## What is drawn -/

theorem slice_ends {items : List α} {start stop : Nat} (ordered : start ≤ stop)
    (bound : stop ≤ items.length) :
    Ends (· = (items.take stop).drop start) (slice items start stop) := by
  unfold slice
  rw [if_pos ⟨ordered, bound⟩]
  exact .ret rfl

theorem trunc_ends (s : String) (max : Nat) : Ends (fun _ => True) (trunc s max) := by
  unfold trunc
  split
  · split
    · exact .ret trivial
    · exact .stop (by decide)
  · exact .ret trivial

theorem Ends.mapM {f : α → Console β} (item : β → α) (each : ∀ x, Ends (item · = x) (f x))
    (items : List α) : Ends (fun made => made.map item = items) (items.mapM f) := by
  induction items with
  | nil => exact .ret rfl
  | cons x rest ih =>
    rw [List.mapM_cons]
    refine (each x).bind fun y first => ih.bind fun ys others => .ret ?_
    rw [List.map_cons, first, others]

/-- Of numbered rows those with one number are the row at that place. -/
theorem filter_numbered {items : List α} {make : Nat → α → β} (marked : β → Bool) {k : Nat}
    (number : ∀ i x, marked (make i x) = (k == i)) :
    (items.mapIdx make).filter marked = (items[k]?.map (make k)).toList := by
  induction items generalizing make k with
  | nil => rfl
  | cons x rest ih =>
    rw [List.mapIdx_cons]
    cases k with
    | zero =>
      have none : (rest.mapIdx fun i => make (i + 1)).filter marked = [] := by
        refine List.filter_eq_nil_iff.mpr fun row member => ?_
        obtain ⟨i, bound, rfl⟩ := List.mem_mapIdx.mp member
        rw [number]
        exact Bool.false_ne_true
      rw [List.filter_cons_of_pos (by rw [number]; rfl), none]
      rfl
    | succ k =>
      rw [List.filter_cons_of_neg (by rw [number]; exact Bool.false_ne_true),
        ih (k := k) fun i y => (number (i + 1) y).trans (by simp)]
      rfl

theorem renderDevices_highlights (app : App) :
    Ends (fun rows => (rows.filter (·.highlighted)).map (·.uuid) =
      (app.highlighted.map (·.uuid)).toList) app.renderDevices := by
  unfold App.renderDevices App.highlighted
  dsimp only
  split
  · rename_i nothing
    refine .ret ?_
    rw [List.getElem?_eq_none]
    · rfl
    · rcases nothing with beyond | empty
      · simp only [List.length_drop, List.length_take]
        omega
      · rw [List.isEmpty_iff.mp empty]
        simp
  · rename_i shown
    have started : app.page * PAGE_SIZE < app.identities.length := by
      have := fun beyond => shown (.inl beyond)
      omega
    refine (slice_ends (by omega) (by omega)).bind fun entries sliced => ?_
    rw [← sliced]
    have drawn := Ends.mapM Prod.fst (fun e =>
      (trunc_ends e.deviceToken 45).bind fun token _ => .ret (v := (e, token)) rfl) entries
    refine drawn.bind fun pairs same => .ret ?_
    rw [filter_numbered DeviceRow.highlighted fun i pair => rfl, ← same, List.getElem?_map]
    cases pairs[app.tableState.getD 0]? with
    | none => rfl
    | some pair => rfl

/-! ## What is acted on -/

theorem highlighted_eq {i : Nat} (row : app.tableState = some i) (onPage : i < PAGE_SIZE)
    (bound : app.page * PAGE_SIZE + i < app.identities.length) :
    app.highlighted = app.identities[app.page * PAGE_SIZE + i]? := by
  unfold App.highlighted
  rw [row, Option.getD_some, List.getElem?_drop, List.getElem?_take, if_pos (by omega)]

theorem highlighted_selected (range : app.InRange) {e : IdentityEntry}
    (shown : app.highlighted = some e) :
    ∃ i, app.tableState = some i ∧ i < PAGE_SIZE ∧
      app.selectedGlobalIndex = some (app.page * PAGE_SIZE + i) ∧
      app.identities[app.page * PAGE_SIZE + i]? = some e := by
  have filled : app.identities ≠ [] := by
    intro empty
    unfold App.highlighted at shown
    rw [empty, List.take_nil, List.drop_nil] at shown
    cases shown
  obtain ⟨i, row⟩ := range.selected filled
  obtain ⟨onPage, bound⟩ := range.row i row
  refine ⟨i, row, onPage, ?_, ?_⟩
  · unfold App.selectedGlobalIndex
    rw [row]
    rfl
  · rw [← highlighted_eq row onPage bound, shown]

theorem highlighted_none (range : app.InRange) (nothing : app.highlighted = none) :
    app.selectedGlobalIndex = none := by
  cases row : app.tableState with
  | none =>
    unfold App.selectedGlobalIndex
    rw [row]
    rfl
  | some i =>
    obtain ⟨onPage, bound⟩ := range.row i row
    rw [highlighted_eq row onPage bound, List.getElem?_eq_getElem bound] at nothing
    cases nothing

/-- The request that confirms the device, or takes its confirmation back. -/
def App.confirmRequest (app : App) (e : IdentityEntry) : CliAction :=
  let action := if e.confirmed then "unconfirm" else "confirm"
  app.request .post s!"/admin/identities/{e.uuid}/{action}" none

/-- The device after a reply to `confirmRequest`. -/
def IdentityEntry.answered (e : IdentityEntry) (reply : Option Response) : IdentityEntry :=
  { e with confirmed := if reply.any Response.isSuccess then !e.confirmed else e.confirmed }

structure App.ActsOnHighlighted (app : App) : Prop where
  drawn : Ends (fun rows => (rows.filter (·.highlighted)).map (·.uuid) =
    (app.highlighted.map (·.uuid)).toList) app.renderDevices
  toggled : ∀ e, app.highlighted = some e →
    Fallible.Spec (fun _ _ => True) (fun _ _ => False)
      (fun h after => ∃ reply : Option Response, h = [⟨app.confirmRequest e, reply⟩] ∧
        after.highlighted = some (e.answered reply)) [] app.toggleSelected
  armed : ∀ e, app.highlighted = some e → ∃ message,
    app.armDelete = pure { app with message := message, pendingDelete := some e.uuid }
  pending : ∀ uuid, app.pendingDelete = some uuid →
    ∃ e, app.highlighted = some e ∧ e.uuid = uuid
  idle : app.highlighted = none → app.toggleSelected = pure app ∧ app.armDelete = pure app

theorem toggleSelected_highlighted (range : app.InRange) {e : IdentityEntry}
    (shown : app.highlighted = some e) :
    Fallible.Spec (fun _ _ => True) (fun _ _ => False)
      (fun h after => ∃ reply : Option Response, h = [⟨app.confirmRequest e, reply⟩] ∧
        after.highlighted = some (e.answered reply)) [] app.toggleSelected := by
  obtain ⟨i, row, onPage, chosen, here⟩ := highlighted_selected range shown
  have bound := (range.row i row).2
  have read : getAt app.identities (app.page * PAGE_SIZE + i) = pure e := by
    unfold getAt
    rw [here]
  unfold App.toggleSelected updateAt
  rw [chosen]
  simp only [read, pure_bind]
  rw [Fallible.spec_bind]
  refine ⟨trivial, fun reply : Option Response => ?_⟩
  change Fallible.Spec _ _ _ _ (if reply.any Response.isSuccess = true then _ else _)
  by_cases success : reply.any Response.isSuccess = true
  · rw [if_pos success]
    refine ⟨reply, rfl, Eq.trans (highlighted_eq row onPage ?_) ?_⟩
    · rw [List.length_set]
      exact bound
    · rw [List.getElem?_set_self bound, IdentityEntry.answered, if_pos success]
  · rw [if_neg success]
    refine ⟨reply, rfl, (highlighted_eq row onPage bound).trans ?_⟩
    rw [here, IdentityEntry.answered, if_neg success]

theorem armDelete_highlighted (range : app.InRange) {e : IdentityEntry}
    (shown : app.highlighted = some e) : ∃ message,
      app.armDelete = pure { app with message := message, pendingDelete := some e.uuid } := by
  obtain ⟨i, row, onPage, chosen, here⟩ := highlighted_selected range shown
  have bound := (range.row i row).2
  have read : getAt app.identities (app.page * PAGE_SIZE + i) = pure e := by
    unfold getAt
    rw [here]
  unfold App.armDelete
  rw [chosen]
  dsimp only
  rw [if_neg (by omega), read]
  exact ⟨_, rfl⟩

theorem nothing_highlighted (range : app.InRange) (nothing : app.highlighted = none) :
    app.toggleSelected = pure app ∧ app.armDelete = pure app := by
  have chosen := highlighted_none range nothing
  unfold App.toggleSelected App.armDelete
  rw [chosen]
  exact ⟨rfl, rfl⟩

/-! ## A whole session -/

/-- A deletion that waits for its confirmation is the one of the highlighted device. -/
structure App.Aimed (app : App) : Prop extends app.Paged where
  pending : ∀ uuid, app.pendingDelete = some uuid → ∃ e, app.highlighted = some e ∧ e.uuid = uuid

theorem App.Settled.aimed (settled : app.Settled) : app.Aimed :=
  ⟨settled.toPaged, fun uuid armed => by rw [settled.unarmed] at armed; cases armed⟩

theorem App.Aimed.acts (aimed : app.Aimed) : app.ActsOnHighlighted where
  drawn := renderDevices_highlights app
  toggled _ shown := toggleSelected_highlighted aimed.toInRange shown
  armed _ shown := armDelete_highlighted aimed.toInRange shown
  pending := aimed.pending
  idle nothing := nothing_highlighted aimed.toInRange nothing

theorem armDelete_aimed (settled : app.Settled) : Ends App.Aimed app.armDelete := by
  cases shown : app.highlighted with
  | none =>
    rw [(nothing_highlighted settled.toInRange shown).2]
    exact .ret settled.aimed
  | some e =>
    obtain ⟨message, same⟩ := armDelete_highlighted settled.toInRange shown
    rw [same]
    refine .ret ⟨settled.toPaged.of_layout rfl, fun uuid armed => ⟨e, shown, ?_⟩⟩
    cases armed
    rfl

theorem toggleRow_settled (settled : app.Settled) : Ends App.Settled app.toggleRow := by
  unfold App.toggleRow
  split
  · exact toggleSelected_settled settled
  · split
    · exact toggleUserApproval_settled settled
    · exact .ret settled

/-- The state after a method without a deletion to confirm. -/
theorem Ends.stay {p : Console App} (settled : Ends App.Settled p) :
    Ends (fun flow => flow.app.Aimed) (Flow.stay <$> p) :=
  settled.map fun _ holds => holds.aimed

theorem onTabKey_aimed (settled : app.Settled) (code : KeyCode) :
    Ends (fun flow => flow.app.Aimed) (app.onTabKey code) := by
  have same : Ends (fun flow => flow.app.Aimed) (pure (.stay app) : Console Flow) :=
    .ret settled.aimed
  have turned (tab : Nat) : ({ app with tab := tab, message := "" } : App).Settled :=
    settled.of_layout rfl rfl
  unfold App.onTabKey
  split
  · exact .ret settled.aimed
  · exact .ret settled.aimed
  · exact .ret (turned _).aimed
  · exact .ret (turned _).aimed
  · split
    · exact (enterExport_settled settled).stay
    · split
      · exact (enterImport_settled settled).stay
      · exact (toggleRow_settled settled).stay
  · split
    · exact .ret (prevRow_settled settled).aimed
    · split
      · exact .ret (prevUser_settled settled).aimed
      · exact same
  · split
    · exact .ret (nextRow_settled settled).aimed
    · split
      · exact .ret (nextUser_settled settled).aimed
      · exact same
  · split
    · exact .ret (prevPage_settled settled).aimed
    · exact same
  · split
    · exact .ret (nextPage_settled settled).aimed
    · exact same
  · exact (toggleRow_settled settled).stay
  · split
    · exact (armDelete_aimed settled).map fun _ aimed => aimed
    · split
      · exact (toggleUserDeleted_settled settled true).stay
      · exact same
  · split
    · exact (armDelete_aimed settled).map fun _ aimed => aimed
    · split
      · exact (toggleUserDeleted_settled settled true).stay
      · exact same
  · split
    · exact (toggleUserDeleted_settled settled false).stay
    · exact same
  · split
    · exact (toggleUserDeleted_settled settled false).stay
    · exact same
  · exact same

theorem onKey_aimed (aimed : app.Aimed) (key : KeyEvent) :
    Ends (fun flow => flow.app.Aimed) (app.onKey key) := by
  unfold App.onKey
  split
  · exact .ret aimed
  split
  · exact .ret aimed
  split
  · split <;> exact .ret aimed
  split
  · split
    · exact (deletePending_settled aimed.toPaged).stay
    · exact (deletePending_settled aimed.toPaged).stay
    · have cancelled (message : String) :
          ({ app with pendingDelete := none, message := message } : App).Settled :=
        ⟨aimed.toPaged.of_layout rfl, rfl⟩
      exact .ret (cancelled _).aimed
  -- No deletion is armed, so every other method starts from a settled state.
  have settled : app.Settled := by
    refine ⟨aimed.toPaged, ?_⟩
    rename_i unarmed
    exact Option.isNone_iff_eq_none.mp (by simpa using unarmed)
  split
  · have closed : ({ app with pendingExport := false } : App).Settled :=
      settled.of_layout rfl rfl
    have cancelled (message : String) :
        ({ app with pendingExport := false, message := message } : App).Settled :=
      settled.of_layout rfl rfl
    dsimp only
    split
    · exact (doExport_settled closed).stay
    · exact (doExport_settled closed).stay
    · exact .ret (cancelled _).aimed
  · exact onTabKey_aimed settled key.code

theorem render_ends (app : App) : Ends (fun _ => True) app.render := by
  unfold App.render
  split
  · exact .ret trivial
  · split
    · exact (renderDevices_highlights app).mono fun _ _ => trivial
    · exact .ret trivial

theorem runTui_aimed (aimed : app.Aimed) (polled : List Polled) :
    Ends App.Aimed (app.runTui polled) := by
  induction polled generalizing app with
  | nil => exact .ret aimed
  | cons event rest ih =>
    refine (render_ends app).bind fun _ _ => ?_
    cases event with
    | nothing => exact ih aimed
    | other => exact ih aimed
    | failed => exact .ret aimed
    | key event =>
      refine (onKey_aimed aimed event).bind fun flow after => ?_
      cases flow with
      | stay app => exact ih after
      | quit app => exact .ret after

theorem session_aimed (base adminKey exportDir : String) (polled : List Polled) :
    Ends App.Aimed (session base adminKey exportDir polled) := by
  refine (fetchAll_settled (new_settled base adminKey exportDir)).bind fun fetched settled => ?_
  exact (fetchUsers_settled settled).bind fun _ settled => runTui_aimed settled.aimed polled

/-- Whatever keys are pressed, and whatever the backend and the files answer, the selections
are in range and the highlighted device is the one that is acted on. -/
theorem selection_in_range {σ ι : Type} (answer : ι → σ → (x : CliAction) → x.Answer × σ)
    (w : (Nat → ι) × σ) (base adminKey exportDir : String) (polled : List Polled) :
    match (Fallible.exec answer (session base adminKey exportDir polled) w).1 with
    | .ok app => app.InRange ∧ app.ActsOnHighlighted
    | .error panic => panic ≠ .indexOutOfBounds := by
  obtain ⟨_, ended⟩ :=
    Prog.run_spec answer (session_aimed base adminKey exportDir polled []) w
  unfold Fallible.exec
  split
  · rename_i app same
    rw [same] at ended
    exact ⟨ended.toInRange, ended.acts⟩
  · rename_i panic same
    rw [same] at ended
    exact ended

end PasswordManager.AdminCli
