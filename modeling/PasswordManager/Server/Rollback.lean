import PasswordManager.Server.Plain
import PasswordManager.Server.Upgrade

/-!
# Rolling back to version 1

The down scripts run to their end on every database of the current schema. What they leave is
a version 1 database only where every group's user has a device with the user's own uuid.
-/

namespace PasswordManager
open Interaction Migration

/-! ## What the scripts leave -/

/-- The secret that `restore_ehlo` gives a device. -/
def ownEhlo (users : List User) (d : Identity) : String :=
  match d.userId with
  | none => ""
  | some userId => ((Table.find (·.uuid) users userId).map (·.ehloSecret)).getD ""

theorem restoreEhlo_ok {users : List User} {d : Identity}
    (known : ∀ u ∈ d.userId, u ∈ users.map (·.uuid)) :
    restoreEhlo users d = .ok (terminal (ownEhlo users d) d) := by
  unfold restoreEhlo ownEhlo
  cases linked : d.userId with
  | none => rfl
  | some userId =>
    obtain ⟨user, member, same⟩ := List.mem_map.mp (known userId linked)
    cases found : Table.find (·.uuid) users userId with
    | none => exact absurd same (Table.find_none found member)
    | some _ =>
      simp only [found]
      rfl

theorem mapM_ok {ε α β : Type} {rows : List α} {f : α → Except ε β} {g : α → β}
    (each : ∀ row ∈ rows, f row = .ok (g row)) : rows.mapM f = .ok (rows.map g) := by
  induction rows with
  | nil => rfl
  | cons row rows ih =>
    have first := each row List.mem_cons_self
    have rest := ih fun r member => each r (List.mem_cons_of_mem _ member)
    rw [List.mapM_cons, first, rest]
    rfl

/-- The tables after the scripts, in terms of the rows they started from. -/
def revertedTables (t : Tables) : V1.Tables where
  identities := t.identities.map fun d => terminal (ownEhlo t.users d) d
  groups := t.groups.map ownedByIdentity
  passwords := t.passwords.map dropValidSince

theorem reverted_groups (rows : List Group) :
    (rows.map ownedByIdentity).map (·.uuid) = rows.map (·.uuid) := by
  rw [List.map_map]
  rfl

theorem revert_ok (db : Db) : revert db.toTables = .ok (revertedTables db.toTables) := by
  have identities := mapM_ok fun d member => restoreEhlo_ok (db.valid.identityUser d member)
  have groups := reverted_groups db.groups ▸ db.valid.groupUuid
  simp only [revert, revertUsersTable, revertUniqueIdentityIp, revertPasswordValidSince, bind,
    Except.bind, identities, requireUnique_ok groups]
  rfl

/-! ## What is promised of it -/

/-- The group is kept, under the name that version 1 has for its owner. -/
structure GroupReverted (old : Group) (new : V1.Group) : Prop where
  uuid : new.uuid = old.uuid
  owner : new.identityId = old.userId
  name : new.name = old.name
  extra : new.extra = old.extra
  createdAt : new.createdAt = old.createdAt
  updatedAt : new.updatedAt = old.updatedAt

/-- The device is kept, and if it was linked to a user it carries the user's secret. -/
structure DeviceReverted (users : List User) (old : Identity) (new : V1.Identity) : Prop where
  uuid : new.uuid = old.uuid
  ehlo : ∀ u ∈ old.userId, ∃ user ∈ users, user.uuid = u ∧ new.ehloSecret = user.ehloSecret

/-- A version 1 database in which nothing is missing. -/
structure RolledBack (t : Tables) (old : V1.Tables) : Prop where
  valid : old.Valid
  groups : List.Forall₂ GroupReverted t.groups old.groups
  devices : List.Forall₂ (DeviceReverted t.users) t.identities old.identities
  passwords : old.passwords.map (·.uuid) = t.passwords.map (·.uuid)

/-- The last three migrations can be reverted, and what is left is a version 1 database. -/
def RollsBack (t : Tables) : Prop := ∃ old, revert t = .ok old ∧ RolledBack t old

/-- Every group belongs to a user that has a device with the user's own uuid. -/
def OwnersAreDevices (t : Tables) : Prop :=
  ∀ g ∈ t.groups, ∃ d ∈ t.identities, d.uuid = g.userId

instance (t : Tables) : Decidable (OwnersAreDevices t) :=
  inferInstanceAs (Decidable (∀ g ∈ t.groups, ∃ d ∈ t.identities, d.uuid = g.userId))

theorem ownEhlo_user {db : Db} {d : Identity} (member : d ∈ db.identities) :
    ∀ u ∈ d.userId, ∃ user ∈ db.users, user.uuid = u ∧ ownEhlo db.users d = user.ehloSecret := by
  intro u linked
  obtain ⟨user, present, same⟩ := List.mem_map.mp (db.valid.identityUser d member u linked)
  have found := (Table.find_eq_some_iff db.valid.userUuid).mpr ⟨present, same⟩
  have linked : d.userId = some u := linked
  refine ⟨user, present, same, ?_⟩
  simp only [ownEhlo, linked, found]
  rfl

theorem reverted_devices (t : Tables) :
    (revertedTables t).identities.map (·.uuid) = t.identities.map (·.uuid) := by
  simp only [revertedTables, List.map_map]
  rfl

theorem revertedTables_valid {db : Db} (owners : OwnersAreDevices db.toTables) :
    (revertedTables db.toTables).Valid := by
  have valid := db.valid
  constructor
  case identityUuid => exact reverted_devices _ ▸ valid.identityUuid
  case identityToken =>
    simp only [revertedTables, List.filterMap_map]
    exact valid.identityToken
  case groupUuid => exact reverted_groups _ ▸ valid.groupUuid
  case groupIdentity =>
    intro g member
    obtain ⟨before, present, rfl⟩ := List.mem_map.mp member
    obtain ⟨d, there, same⟩ := owners before present
    rw [reverted_devices]
    exact List.mem_map.mpr ⟨d, there, same⟩
  case passwordUuid =>
    simp only [revertedTables, List.map_map]
    exact valid.passwordUuid
  case passwordGroup =>
    intro p member
    obtain ⟨before, present, rfl⟩ := List.mem_map.mp member
    exact reverted_groups _ ▸ valid.passwordGroup before present

theorem reverted_rolledBack {db : Db} (owners : OwnersAreDevices db.toTables) :
    RolledBack db.toTables (revertedTables db.toTables) := by
  constructor
  case valid => exact revertedTables_valid owners
  case groups =>
    refine List.forall₂_map_right_iff.mpr (List.forall₂_same.mpr fun g _ => ?_)
    constructor <;> rfl
  case devices =>
    refine List.forall₂_map_right_iff.mpr (List.forall₂_same.mpr fun d member => ?_)
    exact ⟨rfl, ownEhlo_user member⟩
  case passwords =>
    simp only [revertedTables, List.map_map]
    rfl

/-- A group of a version 1 database refers to a device, and the group's user was that device. -/
theorem owners_of_rollsBack {db : Db} (back : RollsBack db.toTables) :
    OwnersAreDevices db.toTables := by
  obtain ⟨old, done, rolled⟩ := back
  obtain rfl := Except.ok.inj ((revert_ok db).symm.trans done)
  intro g member
  have named := rolled.valid.groupIdentity (ownedByIdentity g) (List.mem_map_of_mem member)
  rw [reverted_devices] at named
  exact List.mem_map.mp named

/-- The rollback leaves a valid version 1 database if and only if every group's owner has a
device with its own uuid, as the owners have that the up script made. -/
theorem rollsBack_iff (db : Db) : RollsBack db.toTables ↔ OwnersAreDevices db.toTables := by
  constructor
  · exact owners_of_rollsBack
  · intro owners
    exact ⟨_, revert_ok db, reverted_rolledBack owners⟩

/-- A user that signed up has a uuid of its own. -/
theorem signed_up_not_rolled_back :
    letI := plainCrypto
    letI := plainArchive
    ∃ c, (server plainConfig).Reachable c ∧ ¬RollsBack c.world.toTables := by
  let _ := plainCrypto
  let _ := plainArchive
  have dangling : ¬OwnersAreDevices deviceRun.world.toTables := by decide +kernel
  exact ⟨deviceRun, deviceRun_reachable, fun back => dangling (owners_of_rollsBack back)⟩

/-! ## Down after up -/

/-- The secret that the up script has moved to the user comes back. -/
theorem ownEhlo_device (clock : NaiveDateTime) {rows : List V1.Identity}
    (uuids : (rows.map (·.uuid)).Nodup) {d : V1.Identity} (member : d ∈ rows) :
    ownEhlo (rows.map (user clock)) (device d) = d.ehloSecret := by
  have unique : ((rows.map (user clock)).map (·.uuid)).Nodup := user_uuids clock rows ▸ uuids
  have found : Table.find (·.uuid) (rows.map (user clock)) d.uuid = some (user clock d) :=
    (Table.find_eq_some_iff unique).mpr ⟨List.mem_map_of_mem member, rfl⟩
  simp only [ownEhlo, device, found]
  rfl

theorem restoreEhlo_device (clock : NaiveDateTime) {rows : List V1.Identity}
    (uuids : (rows.map (·.uuid)).Nodup) :
    (rows.map device).mapM (restoreEhlo (rows.map (user clock))) = .ok rows := by
  have restored : ∀ d ∈ rows, terminal (ownEhlo (rows.map (user clock)) (device d)) (device d) = d := by
    intro d member
    rw [ownEhlo_device clock uuids member]
    rfl
  have each : ∀ d ∈ rows.map device, restoreEhlo (rows.map (user clock)) d =
      .ok (terminal (ownEhlo (rows.map (user clock)) d) d) := by
    intro d member
    obtain ⟨before, present, rfl⟩ := List.mem_map.mp member
    refine restoreEhlo_ok fun u linked => ?_
    obtain rfl := Option.some.inj linked
    exact user_uuids clock rows ▸ List.mem_map_of_mem present
  rw [mapM_ok each, List.map_map]
  exact congrArg _ ((List.map_congr_left restored).trans (List.map_id rows))

/-- The down script of `add_users_table` undoes its up script, row by row. -/
theorem revertUsersTable_addUsersTable (clock : NaiveDateTime) (db : V1.Db) :
    ∃ t, addUsersTable clock db.toTables = .ok t ∧ revertUsersTable t = .ok db.toTables := by
  refine ⟨_, addUsersTable_ok clock db.valid, ?_⟩
  have groups : (db.groups.map ownedByUser).map ownedByIdentity = db.groups := by
    rw [List.map_map]
    exact List.map_id db.groups
  have uuids : requireUnique "groups_old.uuid" (db.groups.map (·.uuid)) = .ok () :=
    requireUnique_ok db.valid.groupUuid
  simp only [revertUsersTable, restoreEhlo_device clock db.valid.identityUuid, groups, bind, Except.bind,
    uuids]
  rfl

example : (addUsersTable 10 V1.household.toTables).bind revertUsersTable =
    .ok V1.household.toTables := by
  decide +kernel

end PasswordManager
