import PasswordManager.AdminCli.Highlight

/-!
# One key

What the terminal UI may do when a key is pressed: a device is deleted, and a file written, only in
answer to the question that is open, or where there is nothing to overwrite. A question is opened by
`d` on the device table or by ENTER on the export tab.
-/

namespace PasswordManager.AdminCli
open Interaction

variable {α β : Type}

/-! ## Programs that do no harm -/

/-- Whatever it is answered, the program acts only so and ends with such a value. -/
def Within (ok : CliAction → Prop) (P : α → Prop) (p : Console α) : Prop :=
  ∀ h, Fallible.Spec (fun _ x => ok x) (fun _ _ => True) (fun _ v => P v) h p

namespace Within

variable {ok : CliAction → Prop} {P Q : α → Prop} {p : Console α}

theorem ret {v : α} (holds : P v) : Within ok P (pure v : Console α) := fun _ => holds

theorem stop {panic : Panic} : Within ok P (throw panic) := fun _ => trivial

theorem bind {R : β → Prop} {f : α → Console β} (first : Within ok P p)
    (rest : ∀ v, P v → Within ok R (f v)) : Within ok R (p >>= f) := by
  intro h
  rw [Fallible.spec_bind]
  exact Fallible.spec_mono (fun h' v holds => rest v holds h') (first h)

theorem acts {x : CliAction} (allowed : ok x) : Within ok (fun _ => True) (act x) :=
  fun _ => ⟨allowed, fun _ => trivial⟩

end Within

/-- Neither deletes a device nor writes a file. -/
def CliAction.harmless : CliAction → Prop
  | .send .delete _ _ _ | .write _ _ => False
  | _ => True

/-- The settings of the session, and the questions that are open. -/
structure Setting where
  base : String
  exportDir : String
  pendingDelete : Option String
  pendingExport : Bool

def App.setting (app : App) : Setting where
  base := app.base
  exportDir := app.exportDir
  pendingDelete := app.pendingDelete
  pendingExport := app.pendingExport

abbrev Harmless (s : Setting) (p : Console App) : Prop :=
  Within CliAction.harmless (fun after => after.setting = s) p

variable {app : App} {s : Setting}

theorem getAt_harmless {items : List α} {i : Nat} :
    Within CliAction.harmless (fun _ => True) (getAt items i) := by
  unfold getAt
  split
  · exact .ret trivial
  · exact .stop

theorem fetchAll_harmless (same : app.setting = s) : Harmless s app.fetchAll := by
  refine (Within.acts (x := app.request .get _ none) trivial).bind fun resp _ => .ret ?_
  cases resp with
  | none => exact same
  | some r =>
    dsimp only
    split
    · exact same
    · exact same

theorem fetchUsers_harmless (same : app.setting = s) : Harmless s app.fetchUsers := by
  refine (Within.acts (x := app.request .get _ none) trivial).bind fun resp _ => ?_
  cases resp with
  | none => exact .ret same
  | some r =>
    dsimp only
    split
    · exact .ret same
    · exact .ret same

theorem toggleSelected_harmless (same : app.setting = s) : Harmless s app.toggleSelected := by
  unfold App.toggleSelected
  split
  · refine getAt_harmless.bind fun entry _ => ?_
    refine (Within.acts (x := app.request .post _ none) trivial).bind fun resp _ => ?_
    split
    · exact (getAt_harmless.bind fun item _ => .ret trivial).bind fun identities (_ : True) => .ret same
    · exact .ret same
  · exact .ret same

theorem toggleUserDeleted_harmless (setDeleted : Bool) (same : app.setting = s) :
    Harmless s (app.toggleUserDeleted setDeleted) := by
  unfold App.toggleUserDeleted
  split
  · split
    · refine (Within.acts (x := app.request .post _ none) trivial).bind fun resp _ => ?_
      split
      · split
        · exact fetchUsers_harmless same
        · exact .ret same
      · exact .ret same
    · exact .ret same
  · exact .ret same

theorem approveDevices_harmless (confirm : Bool) (action : String) (devices : List String) (ok : Nat)
    (same : app.setting = s) :
    Within CliAction.harmless (fun r => r.2.setting = s)
      (App.approveDevices confirm action devices ok app) := by
  induction devices generalizing ok app with
  | nil => exact .ret same
  | cons uuid rest ih =>
    refine (Within.acts (x := app.request .post _ none) trivial).bind fun resp _ => ?_
    split
    · refine ih (ok + 1) ?_
      exact same
    · exact ih ok same

theorem toggleUserApproval_harmless (same : app.setting = s) : Harmless s app.toggleUserApproval := by
  unfold App.toggleUserApproval
  split
  · split
    · dsimp only
      split
      · exact .ret same
      · refine (approveDevices_harmless _ _ _ 0 same).bind fun r approved => ?_
        exact (fetchAll_harmless approved).bind fun after fetched => .ret fetched
    · exact .ret same
  · exact .ret same

theorem toggleRow_harmless (same : app.setting = s) : Harmless s app.toggleRow := by
  unfold App.toggleRow
  split
  · exact toggleSelected_harmless same
  · split
    · exact toggleUserApproval_harmless same
    · exact .ret same

theorem enterImport_harmless (same : app.setting = s) : Harmless s app.enterImport := by
  refine (Within.acts (x := .read app.importPath) trivial).bind fun data _ => ?_
  split
  · exact .ret same
  · rename_i content
    refine (Within.acts (x := app.request .post _ (some content)) trivial).bind fun resp _ => ?_
    split
    · split
      · refine Within.bind (fetchAll_harmless same) fun fetched kept => ?_
        exact (fetchUsers_harmless kept).bind fun after kept => .ret kept
      · exact .ret same
    · exact .ret same

theorem nextUser_setting (app : App) : app.nextUser.setting = app.setting := by
  unfold App.nextUser
  split <;> rfl

theorem prevUser_setting (app : App) : app.prevUser.setting = app.setting := by
  unfold App.prevUser
  dsimp only
  split <;> rfl

theorem nextPage_setting (app : App) : app.nextPage.setting = app.setting := by
  unfold App.nextPage
  split <;> rfl

theorem prevPage_setting (app : App) : app.prevPage.setting = app.setting := by
  unfold App.prevPage
  split <;> rfl

theorem nextRow_setting (app : App) : app.nextRow.setting = app.setting := by
  unfold App.nextRow
  dsimp only
  split
  · split <;> rfl
  · split <;> rfl

theorem prevRow_setting (app : App) : app.prevRow.setting = app.setting := by
  unfold App.prevRow
  dsimp only
  split <;> rfl

/-- Only the archive is written. -/
theorem doExport_writes (same : app.setting = s) :
    Within (fun x => x.harmless ∨ ∃ content, x = .write app.exportPath content)
      (fun after => after.setting = s) app.doExport := by
  refine (Within.acts (x := app.request .get _ none) (.inl trivial)).bind fun resp _ => ?_
  dsimp only
  split
  · split
    · split
      · rename_i content _
        refine (Within.acts (x := .createDirAll app.exportDir) (.inl trivial)).bind fun _ _ => ?_
        refine (Within.acts (.inr ⟨content, rfl⟩)).bind fun written _ => ?_
        split
        · exact .ret same
        · exact .ret same
      · exact .stop
    · exact .ret same
  · exact .ret same

/-! ## Questions -/

inductive Question where
  | delete (uuid : String)
  | overwrite (path : String)

def Question.text : Question → String
  | delete uuid => s!"Delete device {uuid}? (the user's passwords are kept) Press 'y' to confirm"
  | overwrite path => s!"{path} already exists — overwrite? (y = yes, any other key = cancel)"

/-- The question is open, on the tab that shows it. -/
structure App.Asks (app : App) (q : Question) : Prop where
  shown : app.backendDown = false
  text : app.message = q.text
  pending : match q with
    | .delete uuid => app.tab = TAB_DEVICES ∧ app.pendingDelete = some uuid ∧ app.pendingExport = false
    | .overwrite path => app.tab = TAB_EXPORT ∧ app.pendingDelete = none ∧ app.pendingExport = true ∧
        app.busy = false ∧ path = app.exportPath

structure App.Quiet (app : App) : Prop where
  noDelete : app.pendingDelete = none
  noExport : app.pendingExport = false

/-- The settings with no question open. -/
def App.closed (app : App) : Setting := ⟨app.base, app.exportDir, none, false⟩

theorem App.Quiet.setting (quiet : app.Quiet) : app.setting = app.closed := by
  unfold App.setting App.closed
  rw [quiet.noDelete, quiet.noExport]

def KeyEvent.confirms (key : KeyEvent) : Prop :=
  key.press = true ∧ (key.code = .char 'y' ∨ key.code = .char 'Y')

def KeyEvent.enters (key : KeyEvent) : Prop := key.press = true ∧ key.code = .enter

def KeyEvent.deletes (key : KeyEvent) : Prop :=
  key.press = true ∧ (key.code = .char 'd' ∨ key.code = .char 'D')

/-- The key opens the question. -/
structure App.Opens (app : App) (key : KeyEvent) (h : History CliAction.Answer) (q : Question) : Prop where
  shown : app.backendDown = false
  quiet : app.Quiet
  asked : match q with
    | .delete uuid => h = [] ∧ key.deletes ∧ app.tab = TAB_DEVICES ∧
        app.highlighted.map (·.uuid) = some uuid
    | .overwrite path => h = [⟨.pathExists path, true⟩] ∧ key.enters ∧ app.tab = TAB_EXPORT ∧
        path = app.exportPath

/-- What the key may lead to. -/
inductive Permitted (app : App) (key : KeyEvent) (h : History CliAction.Answer) : CliAction → Prop where
  | harmless {x : CliAction} (ok : x.harmless) : Permitted app key h x
  | delete {uuid : String} (asks : app.Asks (.delete uuid)) (confirms : key.confirms) (first : h = []) :
      Permitted app key h (app.request .delete s!"/admin/identities/{uuid}" none)
  | overwrite {content : Bytes} (asks : app.Asks (.overwrite app.exportPath)) (confirms : key.confirms) :
      Permitted app key h (.write app.exportPath content)
  | write {content : Bytes} (enters : key.enters) (tab : app.tab = TAB_EXPORT)
      (missing : ⟨.pathExists app.exportPath, false⟩ ∈ h) :
      Permitted app key h (.write app.exportPath content)

/-- What the key leaves: the settings, and no question but one that it has opened or left alone. -/
structure Leaves (app : App) (key : KeyEvent) (h : History CliAction.Answer) (after : App) : Prop where
  base : after.base = app.base
  exportDir : after.exportDir = app.exportDir
  question : after.Quiet ∨ ∃ q, after.Asks q ∧
    (after = app ∧ h = [] ∧ key.press = false ∨ app.Opens key h q)

def Stays (app : App) (key : KeyEvent) (h : History CliAction.Answer) : Flow → Prop
  | .stay after => Leaves app key h after
  | .quit _ => True

/-- A key leads to a program that keeps to this. -/
abbrev Turns (app : App) (key : KeyEvent) (h : History CliAction.Answer) (p : Console Flow) : Prop :=
  Fallible.Spec (Permitted app key) (fun _ _ => True) (Stays app key) h p

section
variable {key : KeyEvent} {h : History CliAction.Answer} {after : App}

theorem Leaves.closed (same : after.setting = app.closed) : Leaves app key h after where
  base := congrArg Setting.base same
  exportDir := congrArg Setting.exportDir same
  question := .inl ⟨congrArg Setting.pendingDelete same, congrArg Setting.pendingExport same⟩

theorem turns_closed (same : after.setting = app.closed) : Turns app key h (pure (.stay after)) :=
  Leaves.closed same

/-- A method that acts as the key permits and leaves no question. -/
theorem turns_within {ok : CliAction → Prop} {p : Console App} (inv : History CliAction.Answer → Prop)
    (kept : ∀ h e, inv h → inv (e :: h)) (start : inv h)
    (permitted : ∀ h x, inv h → ok x → Permitted app key h x)
    (within : Within ok (fun after => after.setting = app.closed) p) :
    Turns app key h (Flow.stay <$> p) := by
  rw [Turns, Fallible.spec_map]
  refine Prog.spec_mono ?_ ?_ (Prog.spec_and (Prog.spec_always kept start p.run) (within h))
  · rintro h x ⟨holds, fine⟩
    exact permitted h x holds fine
  · rintro h r ⟨-, met⟩
    cases r with
    | ok after => exact Leaves.closed met
    | error panic => trivial

theorem turns_harmless {p : Console App} (harmless : Harmless app.closed p) :
    Turns app key h (Flow.stay <$> p) :=
  turns_within (fun _ => True) (fun _ _ _ => trivial) trivial (fun _ _ _ ok => .harmless ok) harmless

/-- A method whose first action the key permits. -/
theorem turns_first {x : CliAction} {f : x.Answer → Console App} (permitted : Permitted app key h x)
    (rest : ∀ a, Turns app key (⟨x, a⟩ :: h) (Flow.stay <$> f a)) :
    Turns app key h (Flow.stay <$> (act x >>= f)) := by
  rw [map_bind, Turns, Fallible.spec_bind]
  exact ⟨permitted, rest⟩

theorem turns_deletePending {uuid : String} (asks : app.Asks (.delete uuid)) (confirms : key.confirms) :
    Turns app key [] (Flow.stay <$> app.deletePending) := by
  obtain ⟨-, pending, noExport⟩ := asks.pending
  have closed : ({ app with pendingDelete := none } : App).setting = app.closed := by
    unfold App.setting App.closed
    rw [noExport]
  unfold App.deletePending
  rw [pending]
  refine turns_first (.delete asks confirms rfl) fun resp => turns_harmless ?_
  split
  · split
    · exact fetchAll_harmless closed
    · exact .ret closed
  · exact .ret closed

theorem turns_overwrite (asks : app.Asks (.overwrite app.exportPath)) (confirms : key.confirms) :
    Turns app key h (Flow.stay <$> ({ app with pendingExport := false } : App).doExport) := by
  have closed : ({ app with pendingExport := false } : App).setting = app.closed := by
    unfold App.setting App.closed
    rw [asks.pending.2.1]
  refine turns_within (fun _ => True) (fun _ _ _ => trivial) trivial ?_ (doExport_writes closed)
  rintro h x - (fine | ⟨content, rfl⟩)
  · exact .harmless fine
  · exact .overwrite asks confirms

theorem turns_enterExport (shown : app.backendDown = false) (quiet : app.Quiet) (enters : key.enters)
    (tab : app.tab = TAB_EXPORT) (idle : app.busy = false) :
    Turns app key [] (Flow.stay <$> app.enterExport) := by
  unfold App.enterExport
  refine turns_first (.harmless trivial) fun found => ?_
  by_cases there : (found : Bool) = true
  · rw [if_pos there, map_pure]
    subst there
    refine ⟨rfl, rfl, .inr ⟨.overwrite app.exportPath, ⟨shown, rfl, ?_⟩, .inr ⟨shown, quiet, ?_⟩⟩⟩
    · exact ⟨tab, quiet.noDelete, rfl, idle, rfl⟩
    · exact ⟨rfl, enters, tab, rfl⟩
  · rw [if_neg there]
    have missing : found = false := Bool.eq_false_iff.mpr there
    subst missing
    refine turns_within (fun h => ⟨.pathExists app.exportPath, false⟩ ∈ h)
      (fun _ _ member => List.mem_cons_of_mem _ member) List.mem_cons_self ?_
      (doExport_writes quiet.setting)
    rintro h x member (fine | ⟨content, rfl⟩)
    · exact .harmless fine
    · exact .write enters tab member

theorem armDelete_asks (range : app.InRange) {e : IdentityEntry} (shown : app.highlighted = some e) :
    app.armDelete = pure { app with
      message := (Question.delete e.uuid).text, pendingDelete := some e.uuid } := by
  obtain ⟨i, row, onPage, chosen, here⟩ := highlighted_selected range shown
  have bound := (range.row i row).2
  have read : getAt app.identities (app.page * PAGE_SIZE + i) = pure e := by
    unfold getAt
    rw [here]
  unfold App.armDelete
  rw [chosen]
  dsimp only
  rw [if_neg (by omega), read]
  rfl

theorem turns_armDelete (range : app.InRange) (shown : app.backendDown = false) (quiet : app.Quiet)
    (deletes : key.deletes) (tab : app.tab = TAB_DEVICES) :
    Turns app key [] (Flow.stay <$> app.armDelete) := by
  cases marked : app.highlighted with
  | none =>
    rw [(nothing_highlighted range marked).2, map_pure]
    exact turns_closed quiet.setting
  | some e =>
    rw [armDelete_asks range marked, map_pure]
    refine ⟨rfl, rfl, .inr ⟨.delete e.uuid, ⟨shown, rfl, tab, rfl, quiet.noExport⟩, .inr ⟨shown, quiet, ?_⟩⟩⟩
    refine ⟨rfl, deletes, tab, ?_⟩
    rw [marked]
    rfl

theorem turns_deleteKey (range : app.InRange) (shown : app.backendDown = false) (quiet : app.Quiet)
    (deletes : key.deletes) :
    Turns app key [] (if app.tab = TAB_DEVICES then .stay <$> app.armDelete
      else if app.tab = TAB_USERS then .stay <$> app.toggleUserDeleted true
      else return .stay app) := by
  split
  · rename_i tab
    exact turns_armDelete range shown quiet deletes tab
  · split
    · exact turns_harmless (toggleUserDeleted_harmless true quiet.setting)
    · exact turns_closed quiet.setting

theorem turns_onTabKey (range : app.InRange) (shown : app.backendDown = false) (quiet : app.Quiet)
    (press : key.press = true) : Turns app key [] (app.onTabKey key.code) := by
  have same := quiet.setting
  unfold App.onTabKey
  split
  · trivial
  · trivial
  · exact turns_closed same
  · exact turns_closed same
  · rename_i enter
    split
    · rename_i onTab
      exact turns_enterExport shown quiet ⟨press, enter⟩ onTab.1 (by simpa using onTab.2)
    · split
      · exact turns_harmless (enterImport_harmless same)
      · exact turns_harmless (toggleRow_harmless same)
  · refine turns_closed ?_
    split
    · exact (prevRow_setting app).trans same
    · split
      · exact (prevUser_setting app).trans same
      · exact same
  · refine turns_closed ?_
    split
    · exact (nextRow_setting app).trans same
    · split
      · exact (nextUser_setting app).trans same
      · exact same
  · refine turns_closed ?_
    split
    · exact (prevPage_setting app).trans same
    · exact same
  · refine turns_closed ?_
    split
    · exact (nextPage_setting app).trans same
    · exact same
  · exact turns_harmless (toggleRow_harmless same)
  · rename_i code
    exact turns_deleteKey range shown quiet ⟨press, .inl code⟩
  · rename_i code
    exact turns_deleteKey range shown quiet ⟨press, .inr code⟩
  · split
    · exact turns_harmless (toggleUserDeleted_harmless false same)
    · exact turns_closed same
  · split
    · exact turns_harmless (toggleUserDeleted_harmless false same)
    · exact turns_closed same
  · exact turns_closed same

/-- No question is open, or one that the screen shows. -/
def App.Sound (app : App) : Prop := app.Quiet ∨ ∃ q, app.Asks q

theorem App.Sound.hidden (sound : app.Sound) (down : app.backendDown = true) : app.Quiet := by
  rcases sound with quiet | ⟨q, asks⟩
  · exact quiet
  · cases down.symm.trans asks.shown

theorem turns_unread (sound : app.Sound) (idle : key.press = false) :
    Turns app key [] (pure (.stay app)) := by
  refine ⟨rfl, rfl, ?_⟩
  rcases sound with quiet | ⟨q, asks⟩
  · exact .inl quiet
  · exact .inr ⟨q, asks, .inl ⟨rfl, rfl, idle⟩⟩

theorem turns_onKey (range : app.InRange) (sound : app.Sound) : Turns app key [] (app.onKey key) := by
  unfold App.onKey
  split
  · rename_i idle
    exact turns_unread sound (by simpa using idle)
  rename_i read
  have press : key.press = true := by simpa using read
  split
  · trivial
  split
  · rename_i down
    have quiet := sound.hidden down
    split
    all_goals first
      | trivial
      | exact turns_closed quiet.setting
  rename_i up
  have shown : app.backendDown = false := Bool.eq_false_iff.mpr up
  split
  · rename_i armed
    obtain ⟨uuid, pending⟩ := Option.isSome_iff_exists.mp armed
    have asks : app.Asks (.delete uuid) := by
      rcases sound with quiet | ⟨q, asks⟩
      · cases quiet.noDelete.symm.trans pending
      · cases q with
        | delete uuid' =>
          obtain rfl := Option.some.inj (asks.pending.2.1.symm.trans pending)
          exact asks
        | overwrite path => cases asks.pending.2.1.symm.trans pending
    split
    · rename_i code
      exact turns_deletePending asks ⟨press, .inl code⟩
    · rename_i code
      exact turns_deletePending asks ⟨press, .inr code⟩
    · refine turns_closed ?_
      unfold App.setting App.closed
      rw [asks.pending.2.2]
  rename_i unarmed
  have noDelete : app.pendingDelete = none := by simpa using unarmed
  split
  · rename_i armed
    have asks : app.Asks (.overwrite app.exportPath) := by
      rcases sound with quiet | ⟨q, asks⟩
      · cases quiet.noExport.symm.trans armed
      · cases q with
        | delete uuid => cases noDelete.symm.trans asks.pending.2.1
        | overwrite path =>
          obtain rfl := asks.pending.2.2.2.2
          exact asks
    dsimp only
    split
    · rename_i code
      exact turns_overwrite asks ⟨press, .inl code⟩
    · rename_i code
      exact turns_overwrite asks ⟨press, .inr code⟩
    · refine turns_closed ?_
      unfold App.setting App.closed
      rw [noDelete]
  · rename_i idle
    exact turns_onTabKey range shown ⟨noDelete, Bool.eq_false_iff.mpr idle⟩ press

end

end PasswordManager.AdminCli
