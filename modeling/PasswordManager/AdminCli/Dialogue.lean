import PasswordManager.AdminCli.Screen
import PasswordManager.AdminCli.Turn

/-!
# The dialogue with the administrator

`run_tui` with what it draws and what it is told among its actions. A device is deleted, and an
archive overwritten, only after the screen has asked for it and `y` was the next key.
-/

namespace PasswordManager.AdminCli
open Interaction

variable {α β : Type}

inductive TuiAction where
  | draw (screen : Screen)
  | poll
  | cli (x : CliAction)

@[reducible] def TuiAction.Answer : TuiAction → Type
  | draw _ => Unit
  | poll => Polled
  | cli x => x.Answer

abbrev Dialogue := Fallible TuiAction.Answer Panic

abbrev Talk := History TuiAction.Answer

instance : MonadLift Console Dialogue where
  monadLift := Fallible.embed .cli fun _ a => a

def tell (x : TuiAction) : Dialogue x.Answer := ExceptT.lift (Prog.perform x)

/-- The first turns of `run_tui`. -/
def App.dialogue : Nat → App → Dialogue App
  | 0, app => return app
  | n + 1, app => do
    let screen ← (liftM app.screen : Dialogue Screen)
    let _ ← tell (.draw screen)
    match ← (tell .poll : Dialogue Polled) with
    | .nothing | .other => app.dialogue n
    | .failed => return app
    | .key event =>
      match ← (liftM (app.onKey event) : Dialogue Flow) with
      | .stay app => app.dialogue n
      | .quit app => return app

/-- `main` without a command, up to the given turn. -/
def converse (base adminKey exportDir : String) (n : Nat) : Dialogue App := do
  let app ← (liftM (App.new base adminKey exportDir).fetchAll : Dialogue App)
  let app ← (liftM app.fetchUsers : Dialogue App)
  app.dialogue n

/-! ## The loop over given events -/

/-- The program that is told these events, and whose screens nobody sees. -/
def feed (events : Nat → Polled) : Prog TuiAction.Answer α → Prog CliAction.Answer α
  | .done v => .done v
  | .act (.draw _) k => feed events (k ())
  | .act .poll k => feed (fun i => events (i + 1)) (k (events 0))
  | .act (.cli x) k => .act x fun a => feed events (k a)

section
variable {events : Nat → Polled}

theorem feed_embed (p : Prog CliAction.Answer α) (f : α → Prog TuiAction.Answer β) :
    feed events (p.embed TuiAction.cli (fun _ a => a) >>= f) = p >>= fun v => feed events (f v) := by
  induction p with
  | done v => rfl
  | act x k ih =>
    show Prog.act x _ = Prog.act x _
    congr 1
    funext a
    exact ih a

theorem feed_lift (p : Console α) (f : α → Dialogue β) :
    feed events ((liftM p : Dialogue α) >>= f).run =
      (p >>= fun v => ExceptT.mk (feed events (f v).run)).run := by
  rw [ExceptT.run_bind, ExceptT.run_bind]
  refine (feed_embed p.run _).trans ?_
  congr 1
  funext r
  cases r <;> rfl

theorem render_bind (app : App) (p : Console α) : (app.screen >>= fun _ => p) = (app.render >>= fun _ => p) := by
  rw [← screen_deviceRows, bind_map_left]

theorem feed_dialogue (n : Nat) (app : App) :
    feed events (app.dialogue n).run = (app.runTui ((List.range n).map events)).run := by
  induction n generalizing app events with
  | zero => rfl
  | succ n ih =>
    have later : (List.range (n + 1)).map events =
        events 0 :: (List.range n).map fun i => events (i + 1) := by
      rw [List.range_succ_eq_map, List.map_cons, List.map_map]
      rfl
    rw [later]
    unfold App.dialogue App.runTui
    rw [feed_lift, ← render_bind]
    congr 2
    funext screen
    apply ExceptT.ext
    show feed (fun i => events (i + 1)) _ = _
    cases events 0 with
    | nothing => exact ih app
    | other => exact ih app
    | failed => rfl
    | key event =>
      show feed (fun i => events (i + 1)) ((liftM (app.onKey event) : Dialogue Flow) >>= _).run = _
      rw [feed_lift]
      congr 2
      funext flow
      cases flow with
      | stay after => exact ExceptT.ext (ih after)
      | quit after => rfl

end

/-! ## What the administrator was asked -/

def Question.verb : Question → String
  | delete _ => "confirm delete"
  | overwrite _ => "confirm overwrite"

/-- The screen asks the question, and its key bar says what `y` does. -/
def Screen.Shows (screen : Screen) (q : Question) : Prop :=
  ∃ p, screen = .panel p ∧ p.keys = [("y", q.verb), ("any other key", "cancel")] ∧
    match q with
    | .delete _ => ∃ before, p.footer = before ++ q.text
    | .overwrite _ => ∃ lines, p.content = .text lines ∧ q.text ∈ lines

/-- No key was pressed. -/
def Polled.idle : Polled → Prop
  | .key e => e.press = false
  | _ => True

/-- The question was opened, and since then no key was pressed. -/
inductive Asked : Question → Talk → Prop where
  | delete {uuid : String} {screen : Screen} {key : KeyEvent} {h : Talk} (pressed : key.deletes)
      (highlighted : (screen.deviceRows.filter (·.highlighted)).map (·.uuid) = [uuid]) :
      Asked (.delete uuid) (⟨.poll, .key key⟩ :: ⟨.draw screen, ()⟩ :: h)
  | overwrite {path : String} {screen : Screen} {key : KeyEvent} {h : Talk} (pressed : key.enters) :
      Asked (.overwrite path)
        (⟨.cli (.pathExists path), true⟩ :: ⟨.poll, .key key⟩ :: ⟨.draw screen, ()⟩ :: h)
  | waits {q : Question} {screen : Screen} {polled : Polled} {h : Talk} (asked : Asked q h)
      (shows : screen.Shows q) (idle : polled.idle) :
      Asked q (⟨.poll, polled⟩ :: ⟨.draw screen, ()⟩ :: h)

/-- What a method has done, as part of the talk. -/
def said (turn : History CliAction.Answer) : Talk := turn.map fun e => ⟨.cli e.action, e.answer⟩

/-- In this turn the screen asked the question and the key answered yes. -/
def Confirmed (q : Question) (turn : History CliAction.Answer) (h : Talk) : Prop :=
  ∃ key screen older, h = said turn ++ ⟨.poll, .key key⟩ :: ⟨.draw screen, ()⟩ :: older ∧
    key.confirms ∧ screen.Shows q ∧ Asked q older

/-- In this turn ENTER was pressed and there was no such file. -/
def Missing (path : String) (turn : History CliAction.Answer) (h : Talk) : Prop :=
  ∃ key screen older, h = said turn ++ ⟨.poll, .key key⟩ :: ⟨.draw screen, ()⟩ :: older ∧
    key.enters ∧ ⟨.pathExists path, false⟩ ∈ turn

/-- A device is deleted right after its question was answered yes, so once. Nothing is written but
the archive, and only where there was none or its question was answered yes. -/
def Careful (base exportDir : String) (h : Talk) : TuiAction → Prop
  | .cli (.send .delete url _ _) =>
    ∃ uuid, url = base ++ s!"/admin/identities/{uuid}" ∧ Confirmed (.delete uuid) [] h
  | .cli (.write path _) =>
    path = s!"{exportDir}/pwd-export.tar.gz" ∧
      ∃ turn, Confirmed (.overwrite path) turn h ∨ Missing path turn h
  | _ => True

/-! ## Screens -/

variable {app : App}

theorem Within.and_ends {ok : CliAction → Prop} {P Q : α → Prop} {p : Console α} (within : Within ok P p)
    (ends : Ends Q p) : Within ok (fun v => P v ∧ Q v) p := by
  intro h
  refine Prog.spec_mono (fun _ _ both => both.1) ?_ (Prog.spec_and (within h) (ends h))
  rintro h r ⟨met, met'⟩
  cases r with
  | ok v => exact ⟨met, met'⟩
  | error panic => trivial

theorem renderDevices_silent (app : App) : Within (fun _ => False) (fun _ => True) app.renderDevices := by
  have tokens : ∀ entries : List IdentityEntry, Within (fun _ => False) (fun _ => True)
      (entries.mapM fun e => do return (e, ← trunc e.deviceToken 45)) := by
    intro entries
    induction entries with
    | nil => exact .ret trivial
    | cons e rest ih =>
      rw [List.mapM_cons]
      refine Within.bind (P := fun _ => True) ?_ fun pair _ => ih.bind fun pairs _ => .ret trivial
      refine Within.bind (P := fun _ => True) ?_ fun token _ => .ret trivial
      unfold trunc
      split
      · split
        · exact .ret trivial
        · exact .stop
      · exact .ret trivial
  unfold App.renderDevices
  dsimp only
  split
  · exact .ret trivial
  · refine Within.bind (P := fun _ => True) ?_ fun shown _ => (tokens shown).bind fun pairs _ => .ret trivial
    unfold slice
    split
    · exact .ret trivial
    · exact .stop

/-- The screen of a state shows its question, and marks its highlighted device. -/
structure Portrays (app : App) (screen : Screen) : Prop where
  question : ∀ q, app.Asks q → screen.Shows q
  highlighted : app.backendDown = false → app.tab = TAB_DEVICES →
    (screen.deviceRows.filter (·.highlighted)).map (·.uuid) = (app.highlighted.map (·.uuid)).toList

theorem App.Asks.keys {q : Question} (asks : app.Asks q) :
    app.renderKeyBar = [("y", q.verb), ("any other key", "cancel")] := by
  unfold App.renderKeyBar
  cases q with
  | delete uuid =>
    obtain ⟨-, pending, noExport⟩ := asks.pending
    rw [pending, noExport]
    rfl
  | overwrite path =>
    obtain ⟨-, noDelete, pending, -⟩ := asks.pending
    rw [noDelete, pending]
    rfl

theorem App.Asks.footer {uuid : String} (asks : app.Asks (.delete uuid)) :
    ∃ before, app.pageInfo = before ++ (Question.delete uuid).text := by
  unfold App.pageInfo
  rw [if_pos asks.pending.1, asks.text]
  exact ⟨_, rfl⟩

theorem App.Asks.line {path : String} (asks : app.Asks (.overwrite path)) :
    ∃ lines, app.renderExport = .text lines ∧ (Question.overwrite path).text ∈ lines := by
  obtain ⟨-, -, -, idle, -⟩ := asks.pending
  refine ⟨_, rfl, ?_⟩
  unfold App.statusLine
  rw [idle, asks.text]
  simp

theorem App.Asks.tab {q : Question} (asks : app.Asks q) : app.tab = TAB_DEVICES ∨ app.tab = TAB_EXPORT := by
  cases q with
  | delete uuid => exact .inl asks.pending.1
  | overwrite path => exact .inr asks.pending.1

/-- A tab that asks nothing. -/
theorem portrays_unasked (screen : Screen) (devices : app.tab ≠ TAB_DEVICES) (exports : app.tab ≠ TAB_EXPORT) :
    Portrays app screen where
  question := fun _ asks => (asks.tab.elim devices exports).elim
  highlighted := fun _ tab => absurd tab devices

theorem portrays_notice (lines : List String) (down : app.backendDown = true) :
    Portrays app (.notice lines) where
  question := fun _ asks => by cases down.symm.trans asks.shown
  highlighted := fun up => by cases down.symm.trans up

/-- What `App.screen` draws with this content. -/
def App.panel (app : App) (content : Content) : Screen :=
  .panel { tab := app.tab, keys := app.renderKeyBar, content, footer := app.pageInfo }

theorem portrays_devices {rows : List DeviceRow} (devices : app.tab = TAB_DEVICES)
    (marked : (rows.filter (·.highlighted)).map (·.uuid) = (app.highlighted.map (·.uuid)).toList) :
    Portrays app (app.panel (if rows.isEmpty then .text [" No identities found"] else .devices rows)) where
  question := by
    intro q asks
    cases q with
    | delete uuid => exact ⟨_, rfl, asks.keys, asks.footer⟩
    | overwrite path => cases devices.symm.trans asks.pending.1
  highlighted := by
    intro _ _
    rw [← marked]
    cases rows <;> rfl

theorem portrays_export (exports : app.tab = TAB_EXPORT) : Portrays app (app.panel app.renderExport) where
  question := by
    intro q asks
    cases q with
    | delete uuid => cases exports.symm.trans asks.pending.1
    | overwrite path => exact ⟨_, rfl, asks.keys, asks.line⟩
  highlighted := fun _ devices => by cases exports.symm.trans devices

theorem screen_portrays (app : App) : Within (fun _ => False) (Portrays app) app.screen := by
  unfold App.screen
  by_cases down : app.backendDown = true
  · rw [if_pos down]
    exact .ret (portrays_notice _ down)
  rw [if_neg down]
  unfold App.renderContent
  by_cases devices : app.tab = TAB_DEVICES
  · rw [if_pos devices]
    simp only [bind_assoc, pure_bind]
    have drawn := (renderDevices_silent app).and_ends (renderDevices_highlights app)
    exact drawn.bind fun rows marked => .ret (portrays_devices devices marked.2)
  · rw [if_neg devices]
    by_cases exports : app.tab = TAB_EXPORT
    · have users : app.tab ≠ TAB_USERS := by
        rw [exports]
        decide
      rw [if_neg users, if_pos exports]
      exact .ret (portrays_export exports)
    · have portrays := fun screen => portrays_unasked screen devices exports
      rw [if_neg exports]
      split
      · exact .ret (portrays _)
      · split
        · exact .ret (portrays _)
        · exact .ret (portrays _)

/-! ## Turns of the dialogue -/

section
variable {base exportDir : String} {h : Talk}

abbrev Converses (base exportDir : String) (h : Talk) (p : Dialogue α) : Prop :=
  Fallible.Spec (Careful base exportDir) (fun _ _ => True) (fun _ _ => True) h p

theorem harmless_careful {x : CliAction} (harmless : x.harmless) : Careful base exportDir h (.cli x) := by
  cases x with
  | send method url adminKey body =>
    cases method with
    | delete => exact harmless.elim
    | _ => trivial
  | write path content => exact harmless.elim
  | _ => trivial

theorem converses_tell {x : TuiAction} {f : x.Answer → Dialogue β} (careful : Careful base exportDir h x)
    (next : ∀ a, Converses base exportDir (⟨x, a⟩ :: h) (f a)) :
    Converses base exportDir h (tell x >>= f) := by
  rw [Converses, Fallible.spec_bind]
  exact ⟨careful, next⟩

/-- A method that does nothing but compute. -/
theorem converses_silent {P : α → Prop} {p : Console α} {f : α → Dialogue β}
    (silent : Within (fun _ => False) P p) (next : ∀ v, P v → Converses base exportDir h (f v)) :
    Converses base exportDir h ((liftM p : Dialogue α) >>= f) := by
  have spec := silent []
  rw [Converses, Fallible.spec_bind]
  show Prog.Spec _ _ h (p.run.embed TuiAction.cli fun _ a => a)
  unfold Fallible.Spec at spec
  cases same : p.run with
  | act x k =>
    rw [same] at spec
    exact spec.1.elim
  | done r =>
    rw [same] at spec
    cases r with
    | ok v => exact next v spec
    | error panic => trivial

theorem converses_harmless {P : α → Prop} {p : Console α} {f : α → Dialogue β}
    (harmless : Within CliAction.harmless P p)
    (next : ∀ h v, P v → Converses base exportDir h (f v)) :
    Converses base exportDir h ((liftM p : Dialogue α) >>= f) := by
  rw [Converses, Fallible.spec_bind]
  let related : History CliAction.Answer → Talk → Prop := fun _ _ => True
  have start : related [] h := trivial
  refine Prog.spec_embed_rel (fun _ _ _ _ _ => trivial) ?_ ?_ start (harmless [])
  · rintro _ h' x - fine
    exact harmless_careful fine
  · rintro _ h' r - met
    cases r with
    | ok v => exact next h' v met
    | error panic => trivial

/-- The state, and what has been said up to it. -/
structure Held (base exportDir : String) (app : App) (h : Talk) : Prop where
  aimed : app.Aimed
  base : app.base = base
  exportDir : app.exportDir = exportDir
  question : app.Quiet ∨ ∃ q, app.Asks q ∧ Asked q h

theorem Held.sound (held : Held base exportDir app h) : app.Sound :=
  held.question.imp_right fun ⟨q, asks, _⟩ => ⟨q, asks⟩

theorem asks_unique {q q' : Question} (one : app.Asks q) (two : app.Asks q') : q = q' := by
  cases q with
  | delete uuid =>
    cases q' with
    | delete uuid' =>
      have same := one.pending.2.1.symm.trans two.pending.2.1
      rw [Option.some.inj same]
    | overwrite path => cases one.pending.2.1.symm.trans two.pending.2.1
  | overwrite path =>
    cases q' with
    | delete uuid => cases one.pending.2.1.symm.trans two.pending.2.1
    | overwrite path' => rw [one.pending.2.2.2.2, two.pending.2.2.2.2]

theorem Held.asked (held : Held base exportDir app h) {q : Question} (asks : app.Asks q) : Asked q h := by
  rcases held.question with quiet | ⟨q', asks', asked⟩
  · cases q with
    | delete uuid => cases quiet.noDelete.symm.trans asks.pending.2.1
    | overwrite path => cases quiet.noExport.symm.trans asks.pending.2.2.1
  · rw [asks_unique asks asks']
    exact asked

theorem Held.waits (held : Held base exportDir app h) {screen : Screen} (portrays : Portrays app screen)
    {polled : Polled} (idle : polled.idle) :
    Held base exportDir app (⟨.poll, polled⟩ :: ⟨.draw screen, ()⟩ :: h) where
  aimed := held.aimed
  base := held.base
  exportDir := held.exportDir
  question := held.question.imp_right fun ⟨q, asks, asked⟩ =>
    ⟨q, asks, asked.waits (portrays.question q asks) idle⟩

variable {key : KeyEvent} {screen : Screen} {turn : History CliAction.Answer}

theorem permitted_careful (held : Held base exportDir app h) (portrays : Portrays app screen) {x : CliAction}
    (permitted : Permitted app key turn x) :
    Careful base exportDir (said turn ++ ⟨.poll, .key key⟩ :: ⟨.draw screen, ()⟩ :: h) (.cli x) := by
  have path : app.exportPath = s!"{exportDir}/pwd-export.tar.gz" := by
    rw [← held.exportDir]
    rfl
  cases permitted with
  | harmless ok => exact harmless_careful ok
  | @delete uuid asks confirms first =>
    subst first
    refine ⟨uuid, ?_, key, screen, h, rfl, confirms, portrays.question _ asks, held.asked asks⟩
    rw [← held.base]
    rfl
  | overwrite asks confirms =>
    exact ⟨path, turn, .inl ⟨key, screen, h, rfl, confirms, portrays.question _ asks, held.asked asks⟩⟩
  | write enters tab missing => exact ⟨path, turn, .inr ⟨key, screen, h, rfl, enters, missing⟩⟩

theorem Held.turned (held : Held base exportDir app h) (portrays : Portrays app screen) {after : App}
    (aimed : after.Aimed) (leaves : Leaves app key turn after) :
    Held base exportDir after (said turn ++ ⟨.poll, .key key⟩ :: ⟨.draw screen, ()⟩ :: h) where
  aimed := aimed
  base := leaves.base.trans held.base
  exportDir := leaves.exportDir.trans held.exportDir
  question := by
    refine leaves.question.imp_right ?_
    rintro ⟨q, asks, ⟨rfl, rfl, idle⟩ | opens⟩
    · exact ⟨q, asks, (held.asked asks).waits (portrays.question q asks) idle⟩
    · refine ⟨q, asks, ?_⟩
      have asked := opens.asked
      cases q with
      | delete uuid =>
        obtain ⟨rfl, deletes, tab, marked⟩ := asked
        refine .delete deletes ?_
        rw [portrays.highlighted opens.shown tab, marked]
        rfl
      | overwrite path =>
        obtain ⟨rfl, enters, -, -⟩ := asked
        exact .overwrite enters

theorem dialogue_careful (n : Nat) (held : Held base exportDir app h) :
    Converses base exportDir h (app.dialogue n) := by
  induction n generalizing app h with
  | zero => trivial
  | succ n ih =>
    unfold App.dialogue
    refine converses_silent (screen_portrays app) fun screen portrays => ?_
    refine converses_tell trivial fun _ => converses_tell trivial fun polled : Polled => ?_
    cases polled with
    | nothing => exact ih (held.waits portrays trivial)
    | other => exact ih (held.waits portrays trivial)
    | failed => trivial
    | key key =>
      show Converses base exportDir _ ((liftM (app.onKey key) : Dialogue Flow) >>= _)
      rw [Converses, Fallible.spec_bind]
      let related : History CliAction.Answer → Talk → Prop := fun turn h' =>
        h' = said turn ++ ⟨.poll, .key key⟩ :: ⟨.draw screen, ()⟩ :: h
      have start : related [] (⟨.poll, .key key⟩ :: ⟨.draw screen, ()⟩ :: h) := rfl
      refine Prog.spec_embed_rel ?_ ?_ ?_ start
        (Prog.spec_and (turns_onKey held.aimed.toInRange held.sound) (onKey_aimed held.aimed key []))
      · rintro turn h' x a rfl
        rfl
      · rintro turn h' x rfl ⟨permitted, -⟩
        exact permitted_careful held portrays permitted
      · rintro turn h' r rfl ⟨leaves, aimed⟩
        cases r with
        | error panic => trivial
        | ok flow =>
          cases flow with
          | quit after => trivial
          | stay after => exact ih (held.turned portrays aimed leaves)

end

/-- Whatever keys are pressed and whatever the backend and the files answer, nothing is destroyed
without a question that was shown and answered. -/
theorem destruction_confirmed (base adminKey exportDir : String) (n : Nat) :
    Prog.Spec (Careful base exportDir) (fun _ _ => True) [] (converse base adminKey exportDir n).run ∧
      ∀ events, feed events (converse base adminKey exportDir n).run =
        (session base adminKey exportDir ((List.range n).map events)).run := by
  constructor
  · suffices careful : Converses base exportDir [] (converse base adminKey exportDir n) from
      Prog.spec_mono (fun _ _ may => may) (fun _ _ _ => trivial) careful
    have fetched := (fetchAll_harmless rfl).and_ends
      (fetchAll_settled (new_settled base adminKey exportDir))
    refine converses_harmless fetched fun h app met => ?_
    have fetched := (fetchUsers_harmless met.1).and_ends (fetchUsers_settled met.2)
    refine converses_harmless fetched fun h app met => dialogue_careful n ?_
    obtain ⟨same, settled⟩ := met
    exact ⟨settled.aimed, congrArg Setting.base same, congrArg Setting.exportDir same,
      .inl ⟨congrArg Setting.pendingDelete same, congrArg Setting.pendingExport same⟩⟩
  · intro events
    unfold converse session
    rw [feed_lift]
    congr 2
    funext app
    apply ExceptT.ext
    show feed events ((liftM app.fetchUsers : Dialogue App) >>= _).run = _
    rw [feed_lift]
    congr 2
    funext app
    exact ExceptT.ext (feed_dialogue n app)

end PasswordManager.AdminCli
