import PasswordManager.Interaction.Run
import PasswordManager.Codec.Hex

/-!
# The admin terminal UI

`App` of `admin_cli`: the device table, the user table and the modals. Its methods are
programs over requests to the backend and file operations, and a method that panics stops
with the panic.
-/

namespace PasswordManager.AdminCli
open Interaction

def PAGE_SIZE : Nat := 10
def TAB_DEVICES : Nat := 0
def TAB_USERS : Nat := 1
def TAB_EXPORT : Nat := 2
def TAB_IMPORT : Nat := 3
def TAB_COUNT : Nat := 4

/-- `serde_json::Value`; of a number only what `as_i64` reads is kept. -/
inductive Value where
  | null
  | bool (b : Bool)
  | number (i64 : Option Int)
  | string (s : String)
  | array (items : List Value)
  | object (fields : List (String × Value))

namespace Value

/-- `entry[key]`: `Null` where there is no such field. -/
def index (key : String) : Value → Value
  | .object fields => (fields.lookup key).getD .null
  | _ => .null

def asStr : Value → Option String
  | .string s => some s
  | _ => none

def asBool : Value → Option Bool
  | .bool b => some b
  | _ => none

def asI64 : Value → Option Int
  | .number i => i
  | _ => none

def asArray : Value → Option (List Value)
  | .array items => some items
  | _ => none

end Value

inductive Method where
  | get
  | post
  | delete

/-- A reply of the backend. `display` is how its status prints; `json` and `bytes` are what
reading the body gives, if it can be read that way. -/
structure Response where
  status : Nat
  display : String
  json : Option Value
  bytes : Option Bytes

def Response.isSuccess (r : Response) : Bool := 200 ≤ r.status && r.status < 300

inductive CliAction where
  | send (method : Method) (url adminKey : String) (body : Option Bytes)
  | pathExists (path : String)
  | createDirAll (path : String)
  | write (path : String) (content : Bytes)
  | read (path : String)

/-- A request that got no reply answers `none`; a failing file operation reports its message. -/
@[reducible] def CliAction.Answer : CliAction → Type
  | send .. => Option Response
  | pathExists _ => Bool
  | createDirAll _ => Unit
  | write .. => Except String Unit
  | read _ => Except String Bytes

inductive Panic where
  | indexOutOfBounds
  | charBoundary
  | unwrap
  deriving DecidableEq

abbrev Console := Fallible CliAction.Answer Panic

def act (x : CliAction) : Console x.Answer := ExceptT.lift (Prog.perform x)

section
variable {α : Type}

/-- `items[i]` -/
def getAt (items : List α) (i : Nat) : Console α :=
  match items[i]? with
  | some item => pure item
  | none => throw .indexOutOfBounds

/-- The assignment `items[i] = ...` -/
def updateAt (items : List α) (i : Nat) (f : α → α) : Console (List α) := do
  let item ← getAt items i
  return items.set i (f item)

/-- `items[start..end]` -/
def slice (items : List α) (start stop : Nat) : Console (List α) :=
  if start ≤ stop ∧ stop ≤ items.length then pure ((items.take stop).drop start)
  else throw .indexOutOfBounds

end

structure IdentityEntry where
  uuid : String
  userId : Option String
  ipAddress : String
  confirmed : Bool
  deviceToken : String
  createdAt : String
  updatedAt : String
  deriving DecidableEq

structure UserEntry where
  uuid : String
  name : String
  isDeleted : Bool
  identityCount : Int
  createdAt : String
  updatedAt : String
  deriving DecidableEq

def IdentityEntry.ofValue (entry : Value) : IdentityEntry where
  uuid := (entry.index "uuid").asStr.getD "?"
  userId := (entry.index "user_id").asStr
  ipAddress := (entry.index "ip_address").asStr.getD "?"
  confirmed := (entry.index "is_confirmed").asBool.getD false
  deviceToken := (entry.index "device_token").asStr.getD "-"
  createdAt := (entry.index "created_at").asStr.getD "?"
  updatedAt := (entry.index "updated_at").asStr.getD "?"

def UserEntry.ofValue (entry : Value) : UserEntry where
  uuid := (entry.index "uuid").asStr.getD "?"
  name := (entry.index "name").asStr.getD "?"
  isDeleted := (entry.index "is_deleted").asBool.getD false
  identityCount := (entry.index "identity_count").asI64.getD 0
  createdAt := (entry.index "created_at").asStr.getD "?"
  updatedAt := (entry.index "updated_at").asStr.getD "?"

/-- Of a `TableState` only the selection is kept. -/
structure App where
  identities : List IdentityEntry
  tableState : Option Nat
  page : Nat
  totalPages : Nat
  users : List UserEntry
  userState : Option Nat
  loading : Bool
  message : String
  base : String
  adminKey : String
  tab : Nat
  exportDir : String
  importPath : String
  busy : Bool
  pendingDelete : Option String
  pendingExport : Bool
  backendDown : Bool

namespace App

def new (base adminKey exportDir : String) : App where
  identities := []
  tableState := none
  page := 0
  totalPages := 0
  users := []
  userState := none
  loading := true
  message := ""
  base := base
  adminKey := adminKey
  tab := TAB_DEVICES
  exportDir := exportDir
  importPath := s!"{exportDir}/pwd-export.tar.gz"
  busy := false
  pendingDelete := none
  pendingExport := false
  backendDown := false

def exportPath (app : App) : String := s!"{app.exportDir}/pwd-export.tar.gz"

/-- A request with the `admin-key` header to a path below `base`. -/
def request (app : App) (method : Method) (path : String) (body : Option Bytes) : CliAction :=
  .send method s!"{app.base}{path}" app.adminKey body

def send (app : App) (method : Method) (path : String) (body : Option Bytes) :
    Console (Option Response) := act (app.request method path body)

/-! ## Devices -/

def pageStart (app : App) : Nat := app.page * PAGE_SIZE

def selectedGlobalIndex (app : App) : Option Nat := app.tableState.map (app.pageStart + ·)

/-- The body of a reply to `/admin/identities` takes the place of the table. -/
def showIdentities (app : App) (body : Value) : App :=
  let identities := (body.asArray.getD []).map IdentityEntry.ofValue
  let totalPages := (max identities.length 1 - 1) / PAGE_SIZE + 1
  let page := if app.page ≥ totalPages then totalPages - 1 else app.page
  { app with
    identities := identities
    totalPages := totalPages
    page := page
    tableState :=
      if identities.isEmpty then none
      else if page * PAGE_SIZE < identities.length then some 0
      else none }

def fetchAll (app : App) : Console App := do
  let app := { app with loading := true, backendDown := false }
  let resp ← app.send .get "/admin/identities" none
  let app := match resp with
    | some r =>
      if r.isSuccess then app.showIdentities (r.json.getD .null)
      else { app with message := "Failed to fetch identities" }
    | none => { app with backendDown := true, message := "Failed to fetch identities" }
  return { app with loading := false }

def toggleSelected (app : App) : Console App := do
  let some globalIdx := app.selectedGlobalIndex | return app
  let entry ← getAt app.identities globalIdx
  let action := if entry.confirmed then "unconfirm" else "confirm"
  let resp ← app.send .post s!"/admin/identities/{entry.uuid}/{action}" none
  if resp.any Response.isSuccess then
    let identities ← updateAt app.identities globalIdx fun e =>
      { e with confirmed := !entry.confirmed }
    return { app with identities := identities, message := s!"{action}ed {entry.uuid}" }
  else
    return { app with message := s!"Failed to {action} {entry.uuid}" }

def armDelete (app : App) : Console App := do
  let some globalIdx := app.selectedGlobalIndex | return app
  if globalIdx ≥ app.identities.length then return app
  let entry ← getAt app.identities globalIdx
  return { app with
    message := s!"Delete device {entry.uuid}? (the user's passwords are kept) Press 'y' to confirm"
    pendingDelete := some entry.uuid }

def deletePending (app : App) : Console App := do
  let some uuid := app.pendingDelete | return app
  let app := { app with pendingDelete := none }
  let resp ← app.send .delete s!"/admin/identities/{uuid}" none
  match resp with
  | some r =>
    if r.isSuccess then
      fetchAll { app with message := s!"Deleted {uuid}" }
    else
      return { app with message := s!"Failed to delete {uuid} ({r.display})" }
  | none => return { app with message := s!"Failed to delete {uuid}" }

/-! ## Users -/

/-- The body of a reply to `/admin/users` takes the place of the table. -/
def showUsers (app : App) (body : Value) : App :=
  let users := (body.asArray.getD []).map UserEntry.ofValue
  { app with
    users := users
    userState :=
      if users.isEmpty then none
      else some (min (app.userState.getD 0) (users.length - 1)) }

def fetchUsers (app : App) : Console App := do
  let app := { app with backendDown := false }
  let resp ← app.send .get "/admin/users" none
  match resp with
  | some r =>
    if r.isSuccess then return app.showUsers (r.json.getD .null)
    else return { app with message := "Failed to fetch users" }
  | none => return { app with backendDown := true, message := "Failed to fetch users" }

def toggleUserDeleted (app : App) (setDeleted : Bool) : Console App := do
  let some idx := app.userState | return app
  let some user := app.users[idx]? | return app
  let action := if setDeleted then "delete" else "restore"
  let resp ← app.send .post s!"/admin/users/{user.uuid}/{action}" none
  match resp with
  | some r =>
    if r.isSuccess then
      fetchUsers { app with message := s!"{action}d user {user.uuid}" }
    else
      return { app with message := s!"Failed to {action} user {user.uuid} ({r.display})" }
  | none => return { app with message := s!"Failed to {action} user {user.uuid}" }

/-- `ident.confirmed = confirm` for the first device of that uuid. -/
def setConfirmed (uuid : String) (confirm : Bool) : List IdentityEntry → List IdentityEntry
  | [] => []
  | i :: rest =>
    if i.uuid = uuid then { i with confirmed := confirm } :: rest
    else i :: setConfirmed uuid confirm rest

/-- The loop of `toggle_user_approval` over the devices, with the number of successes so far. -/
def approveDevices (confirm : Bool) (action : String) :
    List String → Nat → App → Console (Nat × App)
  | [], ok, app => return (ok, app)
  | uuid :: rest, ok, app => do
    let resp ← app.send .post s!"/admin/identities/{uuid}/{action}" none
    if resp.any Response.isSuccess then
      approveDevices confirm action rest (ok + 1)
        { app with identities := setConfirmed uuid confirm app.identities }
    else
      approveDevices confirm action rest ok app

def toggleUserApproval (app : App) : Console App := do
  let some idx := app.userState | return app
  let some user := app.users[idx]? | return app
  let own := app.identities.filter fun i => i.userId = some user.uuid
  let devices := own.map (·.uuid)
  let allConfirmed := own.all (·.confirmed)
  if devices.isEmpty then
    return { app with message := s!"User {user.uuid} has no devices to approve" }
  let confirm := !allConfirmed
  let action := if confirm then "confirm" else "unconfirm"
  let (ok, app) ← approveDevices confirm action devices 0 app
  let verb := if confirm then "approved" else "revoked"
  let app ← app.fetchAll
  return { app with
    message := s!"{verb} {ok}/{devices.length} device(s) for {user.uuid}" }

/-! ## Moving the selections -/

def nextUser (app : App) : App :=
  if app.users.isEmpty then app
  else
    let i := app.userState.getD 0
    { app with userState := some (min (i + 1) (app.users.length - 1)) }

def prevUser (app : App) : App :=
  let i := app.userState.getD 0
  if i > 0 then { app with userState := some (i - 1) } else app

def nextPage (app : App) : App :=
  if app.page + 1 < app.totalPages then { app with page := app.page + 1, tableState := some 0 }
  else app

def prevPage (app : App) : App :=
  if app.page > 0 then { app with page := app.page - 1, tableState := some 0 } else app

def nextRow (app : App) : App :=
  let itemsLen := app.identities.length
  let start := app.pageStart
  let stop := min (start + PAGE_SIZE) itemsLen
  let pageCount := if start < itemsLen then stop - start else 0
  if pageCount = 0 then app
  else
    let i := app.tableState.getD 0
    { app with tableState := some (min (i + 1) (pageCount - 1)) }

def prevRow (app : App) : App :=
  let i := app.tableState.getD 0
  if i > 0 then { app with tableState := some (i - 1) } else app

/-! ## Export and import -/

def doExport (app : App) : Console App := do
  let app := { app with busy := true, message := "" }
  let resp ← app.send .get "/admin/export" none
  let app ← match resp with
    | some r =>
      if r.isSuccess then do
        let some bytes := r.bytes | throw .unwrap
        let path := app.exportPath
        let _ ← act (.createDirAll app.exportDir)
        match ← act (.write path bytes) with
        | .ok () => pure { app with message := s!"Exported {bytes.length} bytes to {path}" }
        | .error e => pure { app with message := s!"Export: write to {path} failed: {e}" }
      else pure { app with message := "Export failed" }
    | none => pure { app with message := "Export failed" }
  return { app with busy := false }

/-- ENTER on the Export tab: an existing archive is not overwritten without asking. -/
def enterExport (app : App) : Console App := do
  if ← act (.pathExists app.exportPath) then
    return { app with
      pendingExport := true
      message := s!"{app.exportPath} already exists — overwrite? (y = yes, any other key = cancel)" }
  else
    app.doExport

/-- ENTER on the Import tab. -/
def enterImport (app : App) : Console App := do
  let app := { app with busy := true, message := "" }
  let path := app.importPath
  match ← act (.read path) with
  | .error e => return { app with message := s!"Cannot read {path}: {e}", busy := false }
  | .ok data =>
    let resp ← app.send .post "/admin/import" (some data)
    match resp with
    | some r =>
      if r.isSuccess then
        let app ← fetchAll { app with busy := false }
        let app ← app.fetchUsers
        return { app with page := 0, message := "Import successful — data reloaded" }
      else
        return { app with busy := false, message := s!"Import failed ({r.display})" }
    | none => return { app with busy := false, message := "Import failed" }

end App

end PasswordManager.AdminCli
