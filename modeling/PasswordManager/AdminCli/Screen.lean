import PasswordManager.AdminCli.Tui

/-!
# What the terminal shows

`render` and the functions that it calls, with every text that they draw; borders, colours and the
widths of columns are left out.
-/

namespace PasswordManager.AdminCli
open Interaction

structure UserRow where
  name : String
  uuid : String
  devices : String
  conf : String
  deleted : String
  createdAt : String
  updatedAt : String
  highlighted : Bool
  deriving DecidableEq

inductive Content where
  | devices (rows : List DeviceRow)
  | users (rows : List UserRow)
  | text (lines : List String)
  deriving DecidableEq

/-- The tab that is marked, the key bar with what each key does, the content and the footer. -/
structure Panel where
  tab : Nat
  keys : List (String × String)
  content : Content
  footer : String
  deriving DecidableEq

inductive Screen where
  | notice (lines : List String)
  | panel (p : Panel)
  deriving DecidableEq

namespace App

/-- `user_conf`: the confirmed devices of the user, and all of them. -/
def userConf (app : App) (userUuid : String) : Nat × Nat :=
  app.identities.foldl (fun (confirmed, total) i =>
    if i.userId = some userUuid then (if i.confirmed then confirmed + 1 else confirmed, total + 1)
    else (confirmed, total)) (0, 0)

def renderKeyBar (app : App) : List (String × String) :=
  if app.pendingDelete.isSome ∨ app.pendingExport then
    let confirm := if app.pendingExport then "confirm overwrite" else "confirm delete"
    [("y", confirm), ("any other key", "cancel")]
  else if app.tab = TAB_DEVICES then
    [("↑/↓", "select"), ("←/→", "page"), ("Space/Enter", "confirm/unconfirm"),
      ("d", "delete device"), ("Tab", "next tab"), ("q", "quit")]
  else if app.tab = TAB_USERS then
    [("↑/↓", "select"), ("Space/Enter", "approve/revoke devices"), ("d", "soft-delete"),
      ("r", "restore"), ("Tab", "next tab"), ("q", "quit")]
  else if app.tab = TAB_EXPORT then [("Enter", "export"), ("Tab", "next tab"), ("q", "quit")]
  else if app.tab = TAB_IMPORT then [("Enter", "import"), ("Tab", "next tab"), ("q", "quit")]
  else []

def userRow (app : App) (selected idx : Nat) (u : UserEntry) : UserRow where
  name := u.name
  uuid := u.uuid
  devices := toString u.identityCount
  conf :=
    let (confirmed, total) := app.userConf u.uuid
    if total = 0 then "—"
    else if confirmed = total then "Yes"
    else if confirmed = 0 then "No"
    else s!"{confirmed}/{total}"
  deleted := if u.isDeleted then "Yes" else "No"
  createdAt := u.createdAt
  updatedAt := u.updatedAt
  highlighted := selected == idx

def renderUsers (app : App) : Content :=
  if app.users.isEmpty then .text [" No users found"]
  else .users (app.users.mapIdx (app.userRow (app.userState.getD 0)))

def statusLine (app : App) (busy : String) : String :=
  if app.busy then busy else app.message

def renderExport (app : App) : Content := .text
  ["", " Export All Data", "", " Downloads the database, secrets (.env), and a README",
    " as a single pwd-export.tar.gz file.", "", s!" Writes to: {app.exportPath}", "",
    " Press ENTER to export", "", app.statusLine " Exporting..."]

def renderImport (app : App) : Content := .text
  ["", " Import Data", "", " Drop a .tar.gz export into the shared export dir on the",
    " host, then press ENTER to import from the path below.", "",
    s!" Host dir mounts to: {app.exportDir}", "", s!" Path: {app.importPath}", "",
    app.statusLine " Importing..."]

def renderBackendDown (app : App) : Screen := .notice
  ["", "  ⚠  The backend server is not running.", "", s!"  Could not reach {app.base}", "",
    "  Start the backend server, then relaunch this admin CLI.", "",
    "  Press Enter (or q / Ctrl+C) to quit now."]

/-- The page line. -/
def pageInfo (app : App) : String :=
  if app.tab = TAB_DEVICES then
    s!"Page {app.page + 1}/{app.totalPages}  |  {app.identities.length} identities  |  {app.message}"
  else if app.tab = TAB_USERS then s!"{app.users.length} users  |  {app.message}"
  else ""

def renderContent (app : App) : Console Content :=
  if app.tab = TAB_DEVICES then do
    let rows ← app.renderDevices
    return if rows.isEmpty then .text [" No identities found"] else .devices rows
  else if app.tab = TAB_USERS then return app.renderUsers
  else if app.tab = TAB_EXPORT then return app.renderExport
  else if app.tab = TAB_IMPORT then return app.renderImport
  else return .text []

def screen (app : App) : Console Screen :=
  if app.backendDown then return app.renderBackendDown
  else do
    let content ← app.renderContent
    return .panel { tab := app.tab, keys := app.renderKeyBar, content, footer := app.pageInfo }

end App

/-- The device table of the screen. -/
def Screen.deviceRows : Screen → List DeviceRow
  | .panel { content := .devices rows, .. } => rows
  | _ => []

/-- The screen shows the device table that `App.render` keeps. -/
theorem screen_deviceRows (app : App) : Screen.deviceRows <$> app.screen = app.render := by
  unfold App.screen App.render
  by_cases down : app.backendDown = true
  · rw [if_pos down, if_pos down]
    rfl
  · rw [if_neg down, if_neg down]
    unfold App.renderContent
    by_cases devices : app.tab = TAB_DEVICES
    · rw [if_pos devices, if_pos devices]
      simp only [bind_assoc, pure_bind, map_bind, map_pure]
      have same : ∀ rows : List DeviceRow, (pure (Screen.deviceRows (.panel {
          tab := app.tab, keys := app.renderKeyBar, footer := app.pageInfo
          content := if rows.isEmpty then .text [" No identities found"] else .devices rows })) :
            Console (List DeviceRow)) = pure rows := by
        intro rows
        cases rows <;> rfl
      simp only [same, bind_pure]
    · rw [if_neg devices, if_neg devices]
      by_cases users : app.tab = TAB_USERS
      · rw [if_pos users]
        unfold App.renderUsers
        split <;> rfl
      · rw [if_neg users]
        split
        · rfl
        · split <;> rfl

end PasswordManager.AdminCli
