import PasswordManager.AdminCli.App

/-!
# The event loop of the admin terminal UI

`run_tui`: draw, wait for an event, act on it. Of what is drawn only the rows of the device
table are kept.
-/

namespace PasswordManager.AdminCli
open Interaction

/-- The characters that take up exactly the first bytes, where a character ends there. -/
def bytePrefix : List Char → Nat → Option (List Char)
  | _, 0 => some []
  | [], _ + 1 => none
  | c :: rest, n + 1 =>
    if c.utf8Size ≤ n + 1 then (bytePrefix rest (n + 1 - c.utf8Size)).map (c :: ·) else none

/-- `&s[..max]` with an ellipsis, where the text is longer. -/
def trunc (s : String) (max : Nat) : Console String :=
  if s.utf8ByteSize > max then
    match bytePrefix s.toList max with
    | some chars => pure s!"{String.ofList chars}..."
    | none => throw .charBoundary
  else pure s

structure DeviceRow where
  mark : String
  createdAt : String
  updatedAt : String
  deviceToken : String
  uuid : String
  ip : String
  conf : String
  highlighted : Bool
  deriving DecidableEq

def deviceRow (selected idx : Nat) : IdentityEntry × String → DeviceRow
  | (e, deviceToken) => {
    mark := if e.confirmed then "✓" else "  "
    createdAt := e.createdAt
    updatedAt := e.updatedAt
    deviceToken := deviceToken
    uuid := e.uuid
    ip := e.ipAddress
    conf := if e.confirmed then "Yes" else "No"
    highlighted := selected == idx }

namespace App

def renderDevices (app : App) : Console (List DeviceRow) := do
  let selected := app.tableState.getD 0
  let start := app.page * PAGE_SIZE
  let stop := min (start + PAGE_SIZE) app.identities.length
  if start ≥ app.identities.length ∨ app.identities.isEmpty then return []
  let shown ← slice app.identities start stop
  let pageEntries ← shown.mapM fun e => do return (e, ← trunc e.deviceToken 45)
  return pageEntries.mapIdx (deviceRow selected)

def render (app : App) : Console (List DeviceRow) :=
  if app.backendDown then return []
  else if app.tab = TAB_DEVICES then app.renderDevices
  else return []

end App

inductive KeyCode where
  | char (c : Char)
  | enter
  | esc
  | tab
  | backTab
  | up
  | down
  | left
  | right
  | other
  deriving DecidableEq

structure KeyEvent where
  code : KeyCode
  control : Bool
  press : Bool

/-- What waiting for an event gives; `failed` is an error of the terminal, which ends the loop. -/
inductive Polled where
  | nothing
  | key (event : KeyEvent)
  | other
  | failed

inductive Flow where
  | stay (app : App)
  | quit (app : App)

def Flow.app : Flow → App
  | stay app => app
  | quit app => app

namespace App

/-- ENTER and the space bar on the two tables. -/
def toggleRow (app : App) : Console App :=
  if app.tab = TAB_DEVICES then app.toggleSelected
  else if app.tab = TAB_USERS then app.toggleUserApproval
  else return app

/-- A key while no modal is open. -/
def onTabKey (code : KeyCode) (app : App) : Console Flow :=
  match code with
  | .char 'q' | .esc => return .quit app
  | .tab => return .stay { app with tab := (app.tab + 1) % TAB_COUNT, message := "" }
  | .backTab =>
    return .stay { app with tab := (app.tab + TAB_COUNT - 1) % TAB_COUNT, message := "" }
  | .enter =>
    if app.tab = TAB_EXPORT ∧ !app.busy then .stay <$> app.enterExport
    else if app.tab = TAB_IMPORT ∧ !app.busy then .stay <$> app.enterImport
    else .stay <$> app.toggleRow
  | .up =>
    return .stay <|
      if app.tab = TAB_DEVICES then app.prevRow
      else if app.tab = TAB_USERS then app.prevUser
      else app
  | .down =>
    return .stay <|
      if app.tab = TAB_DEVICES then app.nextRow
      else if app.tab = TAB_USERS then app.nextUser
      else app
  | .left => return .stay <| if app.tab = TAB_DEVICES then app.prevPage else app
  | .right => return .stay <| if app.tab = TAB_DEVICES then app.nextPage else app
  | .char ' ' => .stay <$> app.toggleRow
  | .char 'd' | .char 'D' =>
    if app.tab = TAB_DEVICES then .stay <$> app.armDelete
    else if app.tab = TAB_USERS then .stay <$> app.toggleUserDeleted true
    else return .stay app
  | .char 'r' | .char 'R' =>
    if app.tab = TAB_USERS then .stay <$> app.toggleUserDeleted false else return .stay app
  | _ => return .stay app

def onKey (key : KeyEvent) (app : App) : Console Flow :=
  if !key.press then return .stay app
  else if key.control ∧ (key.code = .char 'c' ∨ key.code = .char 'd') then return .quit app
  else if app.backendDown then
    match key.code with
    | .enter | .char 'q' | .char 'Q' | .esc => return .quit app
    | _ => return .stay app
  else if app.pendingDelete.isSome then
    match key.code with
    | .char 'y' | .char 'Y' => .stay <$> app.deletePending
    | _ => return .stay { app with pendingDelete := none, message := "Delete cancelled" }
  else if app.pendingExport then
    let app := { app with pendingExport := false }
    match key.code with
    | .char 'y' | .char 'Y' => .stay <$> app.doExport
    | _ => return .stay { app with message := "Export cancelled" }
  else app.onTabKey key.code

/-- The loop over the events of the terminal, with the state it leaves when they run out. -/
def runTui : List Polled → App → Console App
  | [], app => return app
  | polled :: rest, app => do
    let _ ← app.render
    match polled with
    | .nothing | .other => runTui rest app
    | .failed => return app
    | .key event =>
      match ← app.onKey event with
      | .stay app => runTui rest app
      | .quit app => return app

end App

/-- `main` without a command. -/
def session (base adminKey exportDir : String) (polled : List Polled) : Console App := do
  let app ← (App.new base adminKey exportDir).fetchAll
  let app ← app.fetchUsers
  app.runTui polled

end PasswordManager.AdminCli
