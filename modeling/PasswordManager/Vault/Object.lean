import Mathlib.Logic.Function.Basic
import PasswordManager.Server.Runs

/-!
# The vault

What the server is for: users keep entries in folders of their own, and an operation happens at
once or not at all. Nothing here is encrypted, and nobody has devices or tokens. `Db.vault` is
the vault that a database stands for.
-/

namespace PasswordManager

structure Folder where
  uuid : String
  owner : String
  name : String
  extra : String
  deriving DecidableEq

structure Entry where
  folder : String
  secret : Bytes
  name : String
  extra : String
  days : Int
  createdAt : NaiveDateTime
  updatedAt : NaiveDateTime
  validSince : NaiveDateTime
  deriving DecidableEq

/-- What an update says about an entry. -/
structure Revision where
  folder : String
  secret : Bytes
  name : Option String
  extra : Option String
  now : NaiveDateTime
  deriving DecidableEq

def Entry.revise (e : Entry) (r : Revision) : Entry :=
  { e with
    folder := r.folder
    secret := r.secret
    name := r.name.getD e.name
    extra := r.extra.getD e.extra
    updatedAt := r.now
    validSince := r.now }

/-- Every entry is in a folder. -/
structure Vault where
  folders : List Folder
  entries : String → Option Entry
  unique : (folders.map (·.uuid)).Nodup
  placed : ∀ uuid e, entries uuid = some e → ∃ f ∈ folders, f.uuid = e.folder

namespace Vault

def empty : Vault where
  folders := []
  entries := fun _ => none
  unique := List.nodup_nil
  placed := nofun

@[ext] theorem ext {v v' : Vault} (folders : v.folders = v'.folders)
    (entries : v.entries = v'.entries) : v = v' := by
  cases v; cases v'; cases folders; cases entries; rfl

/-- The folder is there and belongs to the user. -/
def Owns (v : Vault) (user folder : String) : Prop :=
  ∃ f ∈ v.folders, f.uuid = folder ∧ f.owner = user

instance (v : Vault) (user folder : String) : Decidable (v.Owns user folder) :=
  inferInstanceAs (Decidable (∃ f ∈ v.folders, f.uuid = folder ∧ f.owner = user))

/-- What is revised goes where the revision says. -/
theorem Owns.revised {v : Vault} {user : String} {r : Revision} (owns : v.Owns user r.folder) (e : Entry) :
    ∃ f ∈ v.folders, f.uuid = (e.revise r).folder :=
  owns.imp fun _ found => ⟨found.1, found.2.1⟩

theorem Owns.placed {v : Vault} {user folder : String} (owns : v.Owns user folder) :
    ∃ f ∈ v.folders, f.uuid = folder :=
  owns.imp fun _ found => ⟨found.1, found.2.1⟩

def addFolder (v : Vault) (f : Folder) (new : f.uuid ∉ v.folders.map (·.uuid)) : Vault where
  folders := v.folders ++ [f]
  entries := v.entries
  unique := by
    rw [List.map_append]
    exact List.nodup_append'.mpr ⟨v.unique, List.nodup_singleton _, by simpa using new⟩
  placed uuid e found := by
    obtain ⟨g, member, same⟩ := v.placed uuid e found
    exact ⟨g, List.mem_append_left _ member, same⟩

def putEntry (v : Vault) (uuid : String) (e : Entry) (placed : ∃ f ∈ v.folders, f.uuid = e.folder) :
    Vault where
  folders := v.folders
  entries := Function.update v.entries uuid (some e)
  unique := v.unique
  placed uuid' e' found := by
    by_cases same : uuid' = uuid
    · subst same
      rw [Function.update_self] at found
      obtain rfl := Option.some.inj found
      exact placed
    · rw [Function.update_of_ne same] at found
      exact v.placed uuid' e' found

@[simp] theorem putEntry_self {v : Vault} {uuid : String} {e : Entry}
    {placed : ∃ f ∈ v.folders, f.uuid = e.folder} : (v.putEntry uuid e placed).entries uuid = some e := by
  simp only [putEntry, Function.update_self]

theorem putEntry_other {v : Vault} {uuid uuid' : String} {e : Entry}
    {placed : ∃ f ∈ v.folders, f.uuid = e.folder} (apart : uuid' ≠ uuid) :
    (v.putEntry uuid e placed).entries uuid' = v.entries uuid' := by
  simp only [putEntry, Function.update_of_ne apart]

end Vault

/-! ## Operations -/

inductive VaultOp where
  | createFolder (folder : Folder)
  | listFolders (user : String)
  | createEntry (user uuid : String) (entry : Entry)
  | updateEntry (user uuid : String) (revision : Revision)
  | getEntry (user uuid : String)
  deriving DecidableEq

inductive VaultOut where
  | done
  | folders (folders : List Folder)
  | entry (entry : Entry) (folder : Folder)
  deriving DecidableEq

/-- The user that the operation is for. -/
def VaultOp.user : VaultOp → String
  | createFolder folder => folder.owner
  | listFolders user | createEntry user _ _ | updateEntry user _ _ | getEntry user _ => user

/-- The vault allows an operation on what belongs to its user. -/
def VaultOp.step : VaultOp → Vault → Option (VaultOut × Vault)
  | .createFolder folder, v =>
    if new : folder.uuid ∉ v.folders.map (·.uuid) then some (.done, v.addFolder folder new) else none
  | .listFolders user, v => some (.folders (v.folders.filter fun f => f.owner = user), v)
  | .createEntry user uuid entry, v =>
    if fits : v.entries uuid = none ∧ v.Owns user entry.folder then
      some (.done, v.putEntry uuid entry fits.2.placed)
    else none
  | .updateEntry user uuid revision, v =>
    match v.entries uuid with
    | some entry =>
      if fits : v.Owns user entry.folder ∧ v.Owns user revision.folder then
        some (.done, v.putEntry uuid (entry.revise revision) (fits.2.revised entry))
      else none
    | none => none
  | .getEntry user uuid, v =>
    match v.entries uuid with
    | some entry =>
      match v.folders.find? fun f => f.uuid = entry.folder with
      | some folder => if folder.owner = user then some (.entry entry folder, v) else none
      | none => none
    | none => none

section
variable {v : Vault} {user uuid : String} {entry : Entry} {folder : Folder} {revision : Revision}

theorem step_createFolder (new : folder.uuid ∉ v.folders.map (·.uuid)) :
    VaultOp.step (.createFolder folder) v = some (.done, v.addFolder folder new) :=
  dif_pos new

theorem step_createEntry (vacant : v.entries uuid = none) (owns : v.Owns user entry.folder) :
    VaultOp.step (.createEntry user uuid entry) v = some (.done, v.putEntry uuid entry owns.placed) :=
  dif_pos ⟨vacant, owns⟩

theorem step_updateEntry (found : v.entries uuid = some entry) (here : v.Owns user entry.folder)
    (there : v.Owns user revision.folder) : VaultOp.step (.updateEntry user uuid revision) v =
      some (.done, v.putEntry uuid (entry.revise revision) (there.revised entry)) := by
  simp only [VaultOp.step, found]
  exact dif_pos ⟨here, there⟩

theorem step_getEntry (found : v.entries uuid = some entry)
    (inside : v.folders.find? (fun f => f.uuid = entry.folder) = some folder)
    (owned : folder.owner = user) :
    VaultOp.step (.getEntry user uuid) v = some (.entry entry folder, v) := by
  simp only [VaultOp.step, found, inside]
  exact if_pos owned

/-- What an operation that the vault allows can be. -/
inductive Performs : VaultOp → Vault → VaultOut → Vault → Prop where
  | createFolder {v : Vault} {folder : Folder} (new : folder.uuid ∉ v.folders.map (·.uuid)) :
      Performs (.createFolder folder) v .done (v.addFolder folder new)
  | listFolders {v : Vault} {user : String} :
      Performs (.listFolders user) v (.folders (v.folders.filter fun f => f.owner = user)) v
  | createEntry {v : Vault} {user uuid : String} {entry : Entry} (vacant : v.entries uuid = none)
      (owns : v.Owns user entry.folder) :
      Performs (.createEntry user uuid entry) v .done (v.putEntry uuid entry owns.placed)
  | updateEntry {v : Vault} {user uuid : String} {revision : Revision} {entry : Entry}
      (found : v.entries uuid = some entry) (here : v.Owns user entry.folder)
      (there : v.Owns user revision.folder) : Performs (.updateEntry user uuid revision) v .done
        (v.putEntry uuid (entry.revise revision) (there.revised entry))
  | getEntry {v : Vault} {user uuid : String} {entry : Entry} {folder : Folder}
      (found : v.entries uuid = some entry)
      (inside : v.folders.find? (fun f => f.uuid = entry.folder) = some folder)
      (owned : folder.owner = user) : Performs (.getEntry user uuid) v (.entry entry folder) v

theorem step_performs {op : VaultOp} {v v' : Vault} {out : VaultOut}
    (done : op.step v = some (out, v')) : Performs op v out v' := by
  unfold VaultOp.step at done
  split at done
  · split at done
    · cases done
      exact .createFolder _
    · cases done
  · cases done
    exact .listFolders
  · split at done
    · rename_i fits
      cases done
      exact .createEntry fits.1 fits.2
    · cases done
  · split at done
    · rename_i entry found
      split at done
      · rename_i fits
        cases done
        exact .updateEntry found fits.1 fits.2
      · cases done
    · cases done
  · split at done
    · rename_i entry found
      split at done
      · rename_i folder inside
        split at done
        · rename_i owned
          cases done
          exact .getEntry found inside owned
        · cases done
      · cases done
    · cases done

end

/-! ## The vault of a database -/

def Group.folder (g : Group) : Folder where
  uuid := g.uuid
  owner := g.userId
  name := g.name
  extra := g.extra

variable [Crypto]

/-- The entry that a row stores. A row that cannot be read back counts as empty; no reachable
database has one. -/
def Password.entry (config : Config) (p : Password) : Entry where
  folder := p.groupId
  secret := (openPwd p.pwd config).toOption.getD []
  name := p.name
  extra := p.extra
  days := p.validSinceDays
  createdAt := p.createdAt
  updatedAt := p.updatedAt
  validSince := p.validSince

theorem Password.entry_secret {config : Config} {p : Password} {plain : Bytes}
    (opened : openPwd p.pwd config = .ok plain) : (p.entry config).secret = plain := by
  simp only [Password.entry, opened]
  rfl

omit [Crypto] in
theorem folders_uuid (groups : List Group) :
    (groups.map Group.folder).map (·.uuid) = groups.map (·.uuid) := by
  rw [List.map_map]
  rfl

def Db.vault (config : Config) (db : Db) : Vault where
  folders := db.groups.map (·.folder)
  entries uuid := (Table.find (·.uuid) db.passwords uuid).map (·.entry config)
  unique := by
    rw [folders_uuid]
    exact db.valid.groupUuid
  placed uuid e found := by
    obtain ⟨p, present, rfl⟩ := Option.map_eq_some_iff.mp found
    obtain ⟨g, member, same⟩ := List.mem_map.mp (db.valid.passwordGroup p (Table.find_some present).1)
    exact ⟨g.folder, List.mem_map_of_mem member, same⟩

section
variable {config : Config} {db post : Db} {user uuid : String} {p : Password} {g : Group}

theorem vault_same (groups : post.groups = db.groups) (passwords : post.passwords = db.passwords) :
    post.vault config = db.vault config := by
  apply Vault.ext
  · simp only [Db.vault, groups]
  · simp only [Db.vault, passwords]

theorem vault_owns (member : g ∈ db.groups) : (db.vault config).Owns g.userId g.uuid :=
  ⟨g.folder, List.mem_map_of_mem member, rfl, rfl⟩

theorem vault_entries : (db.vault config).entries uuid =
    (Table.find (·.uuid) db.passwords uuid).map (·.entry config) := rfl

theorem vault_entry (config : Config) (member : p ∈ db.passwords) :
    (db.vault config).entries p.uuid = some (p.entry config) := by
  rw [vault_entries, (Table.find_eq_some_iff db.valid.passwordUuid).mpr ⟨member, rfl⟩]
  rfl

theorem vault_vacant (new : uuid ∉ db.passwords.map (·.uuid)) :
    (db.vault config).entries uuid = none := by
  rw [vault_entries, Option.map_eq_none_iff]
  refine List.find?_eq_none.mpr fun p member => ?_
  simp only [decide_eq_true_eq]
  rintro rfl
  exact new (List.mem_map_of_mem member)

theorem vault_folder (config : Config) (member : g ∈ db.groups) :
    (db.vault config).folders.find? (fun f => f.uuid = g.uuid) = some g.folder := by
  have found := (Table.find_eq_some_iff db.valid.groupUuid).mpr ⟨member, rfl⟩
  unfold Table.find at found
  show (db.groups.map Group.folder).find? _ = _
  rw [List.find?_map]
  exact congrArg (Option.map Group.folder) found

theorem vault_newGroup (groups : post.groups = db.groups ++ [g]) (passwords : post.passwords = db.passwords)
    {new : g.folder.uuid ∉ (db.vault config).folders.map (·.uuid)} :
    post.vault config = (db.vault config).addFolder g.folder new := by
  apply Vault.ext
  · simp only [Db.vault, Vault.addFolder, groups, List.map_append, List.map_cons, List.map_nil]
  · simp only [Db.vault, Vault.addFolder, passwords]

/-- An inserted row is a new entry. -/
theorem vault_insert (groups : post.groups = db.groups) (passwords : post.passwords = db.passwords ++ [p])
    (placed : ∃ f ∈ (db.vault config).folders, f.uuid = (p.entry config).folder) :
    post.vault config = (db.vault config).putEntry p.uuid (p.entry config) placed := by
  have unique := post.valid.passwordUuid
  rw [passwords, List.map_append] at unique
  apply Vault.ext
  · simp only [Db.vault, Vault.putEntry, groups]
  · funext uuid
    by_cases same : uuid = p.uuid
    · subst same
      have member : p ∈ post.passwords := by simp [passwords]
      simp only [Vault.putEntry, Function.update_self, vault_entry config member]
    · have other : (p.uuid = uuid) = False := eq_false (Ne.symm same)
      simp [Db.vault, Vault.putEntry, Function.update_of_ne same, passwords, Table.find,
        List.find?_append, other]

/-- An updated row is a changed entry. -/
theorem vault_update {f : Password → Password} (groups : post.groups = db.groups)
    (passwords : post.passwords = Table.update (·.uuid) db.passwords p.uuid f)
    (kept : ∀ q, (f q).uuid = q.uuid) (member : p ∈ db.passwords)
    (placed : ∃ g ∈ (db.vault config).folders, g.uuid = ((f p).entry config).folder) :
    post.vault config = (db.vault config).putEntry p.uuid ((f p).entry config) placed := by
  apply Vault.ext
  · simp only [Db.vault, Vault.putEntry, groups]
  · funext uuid
    by_cases same : uuid = p.uuid
    · subst same
      have present : f p ∈ post.passwords := by
        rw [passwords]
        exact Table.mem_update.mpr (.inl ⟨p, member, rfl, rfl⟩)
      have entry := vault_entry config present
      rw [kept] at entry
      simp only [Vault.putEntry, Function.update_self, entry]
    · simp only [Vault.putEntry, Function.update_of_ne same, vault_entries]
      rw [passwords, Table.find_update_other same kept]

end

end PasswordManager
