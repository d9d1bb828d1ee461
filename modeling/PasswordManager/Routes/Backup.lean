import PasswordManager.Routes.Session

/-!
# Export and import

The two backup endpoints, with the pool swap and the migration runner that import uses. The
gzipped tar format comes from outside the repository and is a parameter.
-/

namespace PasswordManager
open Interaction

class Archive where
  /-- The gzipped tar of named files; its error is the message of the step that failed. -/
  pack : List (String × Bytes) → Except String Bytes
  /-- The files that unpacking a gzipped tar leaves, by name. -/
  unpack : Bytes → Except String (List (String × Bytes))

/-- gzip and tar are lossless. -/
def Lossless [Archive] : Prop :=
  ∀ files archive, Archive.pack files = .ok archive → Archive.unpack archive = .ok files

/-- `str::lines`: a carriage return belongs to the line ending only before a newline. -/
def lines (cs : List Char) : List (List Char) :=
  let pieces := cs.splitOn '\n'
  let last := pieces.getLast?.getD []
  (pieces.dropLast.map fun line => if line.getLast? = some '\r' then line.dropLast else line) ++
    if last = [] then [] else [last]

/-- `str::strip_prefix` -/
def stripPrefix (start line : List Char) : Option (List Char) :=
  if start.isPrefixOf line then some (line.drop start.length) else none

def encName : List Char := "DATABASEENCRYPTSECRET=".toList

def swName : List Char := "SOFTWARESECRET=".toList

/-- One line of the loop over `.env`; a later line overrides an earlier one. -/
def envLine (keys : Option (List Char) × Option (List Char)) (line : List Char) :
    Option (List Char) × Option (List Char) :=
  match stripPrefix encName line with
  | some val => (some val, keys.2)
  | none =>
    match stripPrefix swName line with
    | some val => (keys.1, some val)
    | none => keys

/-- The two secrets that an archive's `.env` names. -/
def envKeys (env : List Char) : Option (List Char) × Option (List Char) :=
  (lines env).foldl envLine (none, none)

def envContent (config : Config) : List Char :=
  encName ++ (Hex.encode config.databaseEncryptSecret.val).toList ++ '\n' ::
    (swName ++ (Hex.encode config.softwareSecret.val).toList ++ ['\n'])

def readme (now : NaiveDateTime) : String :=
  "Password Manager Export\nGenerated: " ++ now.format ++ " UTC\n\nThis archive contains:\n" ++
    "- pwd_manager.db  (SQLite database, all passwords encrypted at rest)\n" ++
    "- .env            (export secrets — KEEP SAFE)\n\n" ++
    "To import, use the admin CLI Import tab or POST /admin/import.\n"

/-- The files of an exported archive. -/
def exportFiles (config : Config) (now : NaiveDateTime) (dbData : Bytes) : List (String × Bytes) :=
  [("pwd_manager.db", dbData), (".env", asBytes (String.ofList (envContent config))),
    ("README.txt", asBytes (readme now))]

def exportHandler [Archive] (config : Config) (headers : HeaderMap) (addr : IpAddr) :
    Files Bytes := do
  attempt .request (checkAdmin headers addr config)
  fileOr (fun e => .internal ("failed to open db: " ++ e)) (file (.openFile config.databaseUrl))
  let dbData ← fileOr (fun e => .internal ("failed to read db: " ++ e)) (file .readToEnd)
  let now ← file .now
  match Archive.pack (exportFiles config now dbData) with
  | .ok archive => return archive
  | .error message => fail .backend (.internal message)

/-- `AppState::swap_database`, which holds the pool's write lock to its end. -/
def swapDatabase (config : Config) (stagedPath : String) : Files Unit := do
  file .lockPool
  let swapped ← ExceptT.lift (ExceptT.run (do
    fileOr (fun e => .internal ("rename db failed: " ++ e))
      (file (.rename stagedPath config.databaseUrl))
    fileOr .pool (file (.initPool config.databaseUrl config.dbPoolSize))) : Prog FileAction.Answer _)
  file .unlockPool
  match swapped with
  | .ok () => return ()
  | .error e => throw e

/-- `run_migrations` -/
def runMigrations (pool : DbPool) : Files Unit := do
  let conn ← poolGet pool
  fileOr (fun e => .internal ("migration failed: " ++ e)) (file (.runPendingMigrations conn))

/-- Whether the archive's secrets are the server's. -/
def checkSecrets (config : Config) (env : Bytes) : Except AppError Unit := do
  let envStr ← (fromUtf8 env).elim (.error (.validation "missing .env in archive")) .ok
  match envKeys envStr.toList with
  | (some encKey, some swKey) =>
    if encKey ≠ (Hex.encode config.databaseEncryptSecret.val).toList ∨
        swKey ≠ (Hex.encode config.softwareSecret.val).toList then
      .error (.unauthorized "archive secrets do not match server configuration")
    else .ok ()
  | _ => .error (.validation "incomplete .env in archive")

theorem lines_terminated {one two : List Char} (plain : ∀ line ∈ [one, two], '\n' ∉ line ∧ '\r' ∉ line) :
    lines (one ++ '\n' :: (two ++ ['\n'])) = [one, two] := by
  obtain ⟨first, first'⟩ := plain one (by simp)
  obtain ⟨second, second'⟩ := plain two (by simp)
  have pieces : (one ++ '\n' :: (two ++ ['\n'])).splitOn '\n' = [one, two, []] := by
    rw [List.splitOn_append_cons_self_of_not_mem first,
      List.splitOn_append_cons_self_of_not_mem second]
    rfl
  have kept : ∀ line : List Char, '\r' ∉ line →
      (if line.getLast? = some '\r' then line.dropLast else line) = line := by
    intro line absent
    exact if_neg fun last => absent (List.mem_of_getLast? last)
  simp [lines, pieces, kept one first', kept two second']

theorem stripPrefix_append (start rest : List Char) : stripPrefix start (start ++ rest) = some rest := by
  have starts : start.isPrefixOf (start ++ rest) = true :=
    List.isPrefixOf_iff_prefix.mpr (List.prefix_append start rest)
  rw [stripPrefix, if_pos starts, List.drop_left]

/-- The secrets of an exported archive are the ones that it was exported with. -/
theorem envKeys_envContent (config : Config) :
    envKeys (envContent config) = (some (Hex.encode config.databaseEncryptSecret.val).toList,
      some (Hex.encode config.softwareSecret.val).toList) := by
  have plain : ∀ line ∈ [encName ++ (Hex.encode config.databaseEncryptSecret.val).toList,
      swName ++ (Hex.encode config.softwareSecret.val).toList], '\n' ∉ line ∧ '\r' ∉ line := by
    have names : '\n' ∉ encName ∧ '\r' ∉ encName ∧ '\n' ∉ swName ∧ '\r' ∉ swName := by decide
    simp only [Hex.encode, String.toList_ofList, List.mem_cons, List.not_mem_nil, or_false,
      forall_eq_or_imp, forall_eq, List.mem_append, not_or]
    exact ⟨⟨⟨names.1, Hex.notMem_digits (by decide) _⟩, names.2.1, Hex.notMem_digits (by decide) _⟩,
      ⟨names.2.2.1, Hex.notMem_digits (by decide) _⟩, names.2.2.2, Hex.notMem_digits (by decide) _⟩
  have first : ∀ keys rest, envLine keys (encName ++ rest) = (some rest, keys.2) := by
    intro keys rest
    rw [envLine, stripPrefix_append]
  have second : ∀ keys rest, envLine keys (swName ++ rest) = (keys.1, some rest) := by
    intro keys rest
    have other : stripPrefix encName (swName ++ rest) = none := rfl
    rw [envLine, other, stripPrefix_append]
  rw [envKeys, envContent, lines_terminated plain, List.foldl_cons, List.foldl_cons, List.foldl_nil,
    first, second]

theorem checkSecrets_envContent (config : Config) :
    checkSecrets config (asBytes (String.ofList (envContent config))) = .ok () := by
  have keys := envKeys_envContent config
  unfold checkSecrets
  rw [fromUtf8_asBytes]
  simp only [Option.elim, bind, Except.bind, String.toList_ofList, keys, ne_eq, not_true_eq_false,
    or_self, if_false]

def importHandler (config : Config) (headers : HeaderMap) (addr : IpAddr) (body : Bytes) :
    Files Unit := do
  attempt .request (checkAdmin headers addr config)
  fileOr (fun e => .internal ("tempdir failed: " ++ e)) (file .tempdir)
  fileOr (fun e => .internal ("tar unpack failed: " ++ e)) (file (.unpack body))
  let env ← fileOr (fun _ => .validation "missing .env in archive") (file (.readTemp ".env"))
  attempt .request (checkSecrets config env)
  let importedDb ← fileOr (fun _ => .validation "missing pwd_manager.db in archive")
    (file (.readTemp "pwd_manager.db"))
  let tempDb := config.databaseUrl ++ ".importing"
  fileOr (fun e => .internal ("write temp db failed: " ++ e)) (file (.write tempDb importedDb))
  fileOr (fun _ => .validation "imported db is not a valid SQLite database")
    (file (.establish tempDb))
  swapDatabase config tempDb
  let pool ← file .clonePool
  runMigrations pool

/-- `RequestBodyLimitLayer` in `build_router`. -/
def requestBodyLimit : Nat := 1024 * 1024

end PasswordManager
