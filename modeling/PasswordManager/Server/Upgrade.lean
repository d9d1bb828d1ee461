import PasswordManager.Routes.Passwords
import PasswordManager.Store.Migrations

/-!
# The upgrade of a version 1 database

Every constraint of the new schema holds of what the scripts leave, so they do not fail, and
nothing but duplicate devices is lost.
-/

namespace PasswordManager
open Migration

/-! ## What each script leaves -/

theorem user_uuids (clock : NaiveDateTime) (rows : List V1.Identity) :
    (rows.map (user clock)).map (·.uuid) = rows.map (·.uuid) := by
  rw [List.map_map]
  rfl

theorem user_names (clock : NaiveDateTime) {rows : List V1.Identity}
    (uuids : (rows.map (·.uuid)).Nodup) : ((rows.map (user clock)).map (·.name)).Nodup := by
  have injective : Function.Injective ("migrated-" ++ · : String → String) :=
    fun a b same => (String.append_right_inj "migrated-").mp same
  have names := uuids.map injective
  rw [List.map_map] at names ⊢
  exact names

theorem group_uuids (rows : List V1.Group) :
    (rows.map ownedByUser).map (·.uuid) = rows.map (·.uuid) := by
  rw [List.map_map]
  rfl

theorem addUsersTable_ok (clock : NaiveDateTime) {t : V1.Tables} (valid : t.Valid) :
    addUsersTable clock t = .ok {
      users := t.identities.map (user clock)
      identities := t.identities.map device
      groups := t.groups.map ownedByUser
      passwords := t.passwords } := by
  have uuids := user_uuids clock t.identities ▸ valid.identityUuid
  have names := user_names clock valid.identityUuid
  have groups := group_uuids t.groups ▸ valid.groupUuid
  simp only [addUsersTable, requireUnique_ok uuids, requireUnique_ok names, requireUnique_ok groups]
  rfl

/-- A rowid tells the linked devices apart as it told the identities. -/
theorem rowid_device (db : V1.Db) :
    ∀ a ∈ db.identities.map device, ∀ b ∈ db.identities.map device,
      db.rowid a.uuid = db.rowid b.uuid → a = b := by
  intro a here b there same
  obtain ⟨d, member, rfl⟩ := List.mem_map.mp here
  obtain ⟨e, present, rfl⟩ := List.mem_map.mp there
  rw [db.rowidUnique d member e present same]

/-- The devices that are left, one for each address. -/
def latestDevices (db : V1.Db) : List Identity :=
  Table.latest (fun d => db.rowid d.uuid) (·.ipAddress) (db.identities.map device)

theorem latestDevices_sublist (db : V1.Db) :
    (latestDevices db).Sublist (db.identities.map device) := List.filter_sublist

theorem latestDevices_address (db : V1.Db) : ((latestDevices db).map (·.ipAddress)).Nodup := by
  have uuids : ((db.identities.map device).map (·.uuid)).Nodup := by
    rw [List.map_map]
    exact db.valid.identityUuid
  exact Table.nodup_latest (rowid_device db) uuids.of_map

/-- What the three scripts leave, in terms of the rows they started from. -/
def upgradedTables (clock : NaiveDateTime) (db : V1.Db) : Tables where
  users := db.identities.map (user clock)
  identities := latestDevices db
  groups := db.groups.map ownedByUser
  passwords := (db.passwords.map addValidSince).map fun p => { p with validSince := p.createdAt }

theorem upgrade_ok (clock : NaiveDateTime) (db : V1.Db) :
    upgrade clock db = .ok (upgradedTables clock db) := by
  have unique : requireUnique "identities.ip_address" ((latestDevices db).map (·.ipAddress)) = .ok () :=
    requireUnique_ok (latestDevices_address db)
  unfold latestDevices at unique
  simp only [upgrade, addUsersTable_ok clock db.valid, uniqueIdentityIp, bind, Except.bind, unique]
  rfl

theorem upgradedTables_valid (clock : NaiveDateTime) (db : V1.Db) :
    (upgradedTables clock db).Valid := by
  have valid := db.valid
  have rest := latestDevices_sublist db
  constructor
  case userUuid => exact user_uuids clock _ ▸ valid.identityUuid
  case userName => exact user_names clock valid.identityUuid
  case identityUuid =>
    refine (rest.map _).nodup ?_
    rw [List.map_map]
    exact valid.identityUuid
  case identityIp => exact latestDevices_address db
  case identityToken =>
    refine (rest.filterMap _).nodup ?_
    rw [List.filterMap_map]
    exact valid.identityToken
  case identityUser =>
    intro d member u linked
    obtain ⟨before, present, rfl⟩ := List.mem_map.mp (rest.subset member)
    obtain rfl := Option.some.inj linked
    exact user_uuids clock _ ▸ List.mem_map_of_mem present
  case groupUuid => exact group_uuids _ ▸ valid.groupUuid
  case groupUser =>
    intro g member
    obtain ⟨before, present, rfl⟩ := List.mem_map.mp member
    exact user_uuids clock _ ▸ valid.groupIdentity before present
  case passwordUuid =>
    have kept : (upgradedTables clock db).passwords.map (·.uuid) = db.passwords.map (·.uuid) := by
      simp only [upgradedTables, List.map_map]
      rfl
    exact kept ▸ valid.passwordUuid
  case passwordGroup =>
    intro p member
    obtain ⟨added, column, rfl⟩ := List.mem_map.mp member
    obtain ⟨before, present, rfl⟩ := List.mem_map.mp column
    exact group_uuids _ ▸ valid.passwordGroup before present

/-! ## What the rows keep -/

structure GroupKept (old : V1.Group) (new : Group) : Prop where
  uuid : new.uuid = old.uuid
  owner : new.userId = old.identityId
  name : new.name = old.name
  extra : new.extra = old.extra
  createdAt : new.createdAt = old.createdAt
  updatedAt : new.updatedAt = old.updatedAt

structure PasswordKept (old : V1.Password) (new : Password) : Prop where
  uuid : new.uuid = old.uuid
  group : new.groupId = old.groupId
  pwd : new.pwd = old.pwd
  name : new.name = old.name
  extra : new.extra = old.extra
  validSinceDays : new.validSinceDays = old.validSinceDays
  createdAt : new.createdAt = old.createdAt
  updatedAt : new.updatedAt = old.updatedAt

/-- The device is linked to the user with its own uuid, and nothing else of it has changed. -/
structure DeviceKept (old : V1.Identity) (new : Identity) : Prop where
  uuid : new.uuid = old.uuid
  linked : new.userId = some old.uuid
  ipAddress : new.ipAddress = old.ipAddress
  deviceToken : new.deviceToken = old.deviceToken
  serverPrivateKey : new.serverPrivateKey = old.serverPrivateKey
  serverPublicKey : new.serverPublicKey = old.serverPublicKey
  clientPublicKey : new.clientPublicKey = old.clientPublicKey
  extra : new.extra = old.extra
  isConfirmed : new.isConfirmed = old.isConfirmed
  createdAt : new.createdAt = old.createdAt
  updatedAt : new.updatedAt = old.updatedAt

/-- `is_expired` at an instant. -/
def ExpiredAt (now validSince : NaiveDateTime) (validSinceDays : Int) : Prop :=
  daysRemainingAt now validSince validSinceDays ≤ 0

/-- Every user's data is still there. -/
structure Upgraded (old : V1.Tables) (new : Tables) : Prop where
  groups : List.Forall₂ GroupKept old.groups new.groups
  passwords : List.Forall₂ PasswordKept old.passwords new.passwords
  owners : ∀ g ∈ new.groups, ∃ d ∈ old.identities, d.uuid = g.userId ∧
    ∃ u ∈ new.users, u.uuid = g.userId ∧ u.ehloSecret = d.ehloSecret
  oneUser : ∀ d ∈ old.identities, ∃! u, u ∈ new.users ∧ u.uuid = d.uuid
  userCount : new.users.length = old.identities.length
  userNames : (new.users.map (·.name)).Nodup
  oneDevice : ∀ ip ∈ old.identities.map (·.ipAddress), ∃! d, d ∈ new.identities ∧ d.ipAddress = ip
  devices : ∀ d ∈ new.identities, ∃ before ∈ old.identities, DeviceKept before d ∧
    ∃ u ∈ new.users, u.uuid = before.uuid
  expiry : ∀ p ∈ new.passwords, ∀ now,
    ExpiredAt now p.validSince p.validSinceDays ↔ ExpiredAt now p.createdAt p.validSinceDays

theorem upgraded_owners (clock : NaiveDateTime) (db : V1.Db) :
    ∀ g ∈ (upgradedTables clock db).groups, ∃ d ∈ db.identities, d.uuid = g.userId ∧
      ∃ u ∈ (upgradedTables clock db).users, u.uuid = g.userId ∧ u.ehloSecret = d.ehloSecret := by
  intro g member
  obtain ⟨before, present, rfl⟩ := List.mem_map.mp member
  obtain ⟨d, owner, same⟩ := List.mem_map.mp (db.valid.groupIdentity before present)
  exact ⟨d, owner, same, user clock d, List.mem_map_of_mem owner, same, rfl⟩

theorem upgraded_oneUser (clock : NaiveDateTime) (db : V1.Db) :
    ∀ d ∈ db.identities, ∃! u, u ∈ (upgradedTables clock db).users ∧ u.uuid = d.uuid := by
  intro d member
  refine ⟨user clock d, ⟨List.mem_map_of_mem member, rfl⟩, fun u ⟨present, same⟩ => ?_⟩
  have unique := (upgradedTables_valid clock db).userUuid
  exact Table.key_unique unique present (List.mem_map_of_mem member) same

theorem upgraded_oneDevice (clock : NaiveDateTime) (db : V1.Db) :
    ∀ ip ∈ db.identities.map (·.ipAddress),
      ∃! d, d ∈ (upgradedTables clock db).identities ∧ d.ipAddress = ip := by
  intro ip occurs
  refine Table.latest_unique (rowid_device db) ?_
  rw [List.map_map]
  exact occurs

theorem upgraded_devices (clock : NaiveDateTime) (db : V1.Db) :
    ∀ d ∈ (upgradedTables clock db).identities, ∃ before ∈ db.identities, DeviceKept before d ∧
      ∃ u ∈ (upgradedTables clock db).users, u.uuid = before.uuid := by
  intro d member
  obtain ⟨before, present, rfl⟩ := List.mem_map.mp ((latestDevices_sublist db).subset member)
  have kept : DeviceKept before (device before) := by constructor <;> rfl
  exact ⟨before, present, kept, user clock before, List.mem_map_of_mem present, rfl⟩

theorem upgraded_expiry (clock : NaiveDateTime) (db : V1.Db) :
    ∀ p ∈ (upgradedTables clock db).passwords, p.validSince = p.createdAt := by
  intro p member
  obtain ⟨added, -, rfl⟩ := List.mem_map.mp member
  rfl

/-- The upgrade of a version 1 database does not fail and keeps every user's data. -/
theorem upgrade_keeps_data (clock : NaiveDateTime) (db : V1.Db) :
    ∃ after : Db, upgrade clock db = .ok after.toTables ∧
      Upgraded db.toTables after.toTables := by
  refine ⟨⟨upgradedTables clock db, upgradedTables_valid clock db⟩, upgrade_ok clock db, ?_⟩
  constructor
  case groups =>
    refine List.forall₂_map_right_iff.mpr (List.forall₂_same.mpr fun g _ => ?_)
    constructor <;> rfl
  case passwords =>
    have kept : (upgradedTables clock db).passwords =
        db.passwords.map fun p => { addValidSince p with validSince := p.createdAt } :=
      List.map_map
    rw [kept]
    refine List.forall₂_map_right_iff.mpr (List.forall₂_same.mpr fun p _ => ?_)
    constructor <;> rfl
  case owners => exact upgraded_owners clock db
  case oneUser => exact upgraded_oneUser clock db
  case userCount => exact List.length_map ..
  case userNames => exact (upgradedTables_valid clock db).userName
  case oneDevice => exact upgraded_oneDevice clock db
  case devices => exact upgraded_devices clock db
  case expiry =>
    intro p member now
    rw [upgraded_expiry clock db p member]

/-! ## Two devices at one address -/

/-- An identity of the version 1 database below. -/
def V1.terminalAt (uuid ip : String) (token : Option String) : V1.Identity where
  uuid := uuid
  ipAddress := ip
  deviceToken := token
  ehloSecret := "00" ++ uuid
  serverPrivateKey := []
  serverPublicKey := []
  clientPublicKey := []
  extra := "{}"
  isConfirmed := true
  createdAt := 1
  updatedAt := 2

/-- The phone and the laptop have greeted from one address, and both have stored a password. -/
def V1.household : V1.Db where
  identities := [terminalAt "phone" "192.0.2.7" (some "a1"), terminalAt "laptop" "192.0.2.7" (some "b2"),
    terminalAt "tablet" "192.0.2.8" none]
  groups := [⟨"mail", "phone", "Mail", "{}", 3, 3⟩, ⟨"work", "laptop", "Work", "{}", 4, 4⟩]
  passwords := [⟨"p", "mail", "c0", "", "{}", 30, 5, 9⟩, ⟨"q", "work", "c1", "", "{}", 1, 6, 9⟩]
  valid := by constructor <;> decide
  rowid uuid := if uuid = "phone" then 1 else if uuid = "laptop" then 2 else 3
  rowidUnique := by decide

/-- Only the later device keeps the address, and nobody loses a group. -/
example : (upgrade 10 V1.household).map (fun t =>
      (t.users.map (·.name), t.identities.map (·.uuid), t.groups.map (·.userId),
        t.passwords.map (·.validSince))) =
    .ok (["migrated-phone", "migrated-laptop", "migrated-tablet"], ["laptop", "tablet"],
      ["phone", "laptop"], [5, 6]) := by
  decide +kernel

end PasswordManager
