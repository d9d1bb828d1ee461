import PasswordManager.Security.Ownership
import PasswordManager.Store.Accept

/-!
# What a caller sees of the database

Two databases that agree on the rows of one caller, and the statements that keep them so.
-/

namespace PasswordManager

/-- Two databases agree on the user's row, groups and passwords. -/
structure SameRows (user : String) (a b : Db) : Prop where
  row : Table.find (·.uuid) a.users user = Table.find (·.uuid) b.users user
  groups : a.groupsOf user = b.groupsOf user
  passwords : a.passwordsOf user = b.passwordsOf user

section
variable {db after : Db} {user uuid : String}

/-! ## Lookups -/

theorem mem_groupsOf {g : Group} : g ∈ db.groupsOf user ↔ g ∈ db.groups ∧ g.userId = user := by
  simp [Db.groupsOf]

theorem mem_passwordsOf {p : Password} :
    p ∈ db.passwordsOf user ↔ p ∈ db.passwords ∧ db.owner p = some user := by
  simp [Db.passwordsOf]

theorem find_group {g : Group} :
    Table.find (·.uuid) db.groups uuid = some g ∧ g.userId = user ↔
      g ∈ db.groupsOf user ∧ g.uuid = uuid := by
  rw [Table.find_eq_some_iff db.valid.groupUuid, mem_groupsOf]
  tauto

theorem find_ownGroup {g : Group} :
    Table.find (·.uuid) (db.groupsOf user) uuid = some g ↔
      Table.find (·.uuid) db.groups uuid = some g ∧ g.userId = user := by
  have unique : ((db.groupsOf user).map (·.uuid)).Nodup :=
    (List.filter_sublist.map _).nodup db.valid.groupUuid
  rw [find_group, Table.find_eq_some_iff unique]

theorem find_password {p : Password} :
    Table.find (·.uuid) db.passwords uuid = some p ∧ db.owner p = some user ↔
      p ∈ db.passwordsOf user ∧ p.uuid = uuid := by
  rw [Table.find_eq_some_iff db.valid.passwordUuid, mem_passwordsOf]
  tauto

theorem find_ownPassword {p : Password} :
    Table.find (·.uuid) (db.passwordsOf user) uuid = some p ↔
      Table.find (·.uuid) db.passwords uuid = some p ∧ db.owner p = some user := by
  have unique : ((db.passwordsOf user).map (·.uuid)).Nodup :=
    (List.filter_sublist.map _).nodup db.valid.passwordUuid
  rw [find_password, Table.find_eq_some_iff unique]

theorem owner_group {p : Password} :
    db.owner p = some user ↔
      ∃ g, Table.find (·.uuid) db.groups p.groupId = some g ∧ g.userId = user := by
  simp [Db.owner, Db.groupOwner]

theorem passwords_in_groups :
    (db.passwords.filter fun p => p.groupId ∈ (db.groupsOf user).map (·.uuid)) =
      db.passwordsOf user := by
  refine List.filter_congr fun p member => ?_
  rw [decide_eq_decide, owner_group]
  constructor
  · intro inside
    obtain ⟨g, owned, same⟩ := List.mem_map.mp inside
    exact ⟨g, find_group.mpr ⟨owned, same⟩⟩
  · rintro ⟨g, found⟩
    obtain ⟨owned, same⟩ := find_group.mp found
    exact List.mem_map.mpr ⟨g, owned, same⟩

/-! ## Statements -/

/-- No group and no password has the uuid. -/
structure Unused (db : Db) (uuid : String) : Prop where
  groups : uuid ∉ db.groups.map (·.uuid)
  passwords : uuid ∉ db.passwords.map (·.uuid)

theorem exec_newGroup (moment : Moment) {new : NewGroup} (unused : Unused db new.uuid)
    (known : new.userId ∈ db.users.map (·.uuid)) :
    ∃ after, db.exec moment (.groupCreate new) = (.ok (new.row moment.clock), after) ∧
      after.toTables = { db.toTables with groups := db.groups ++ [new.row moment.clock] } := by
  refine commit_valid ?_
  have valid := db.valid
  refine { valid with groupUuid := ?_, groupUser := ?_, passwordGroup := ?_ }
  · rw [List.map_append]
    exact nodup_append_new valid.groupUuid unused.groups
  · exact List.forall_mem_append.mpr ⟨valid.groupUser, List.forall_mem_singleton.mpr known⟩
  · intro p member
    rw [List.map_append]
    exact List.mem_append_left _ (valid.passwordGroup p member)

theorem exec_newPassword (moment : Moment) {new : NewPassword} (unused : Unused db new.uuid)
    (known : new.groupId ∈ db.groups.map (·.uuid)) :
    ∃ after, db.exec moment (.passwordCreate new) = (.ok (new.row moment.clock), after) ∧
      after.toTables = { db.toTables with passwords := db.passwords ++ [new.row moment.clock] } := by
  refine commit_valid ?_
  have valid := db.valid
  refine { valid with passwordUuid := ?_, passwordGroup := ?_ }
  · rw [List.map_append]
    exact nodup_append_new valid.passwordUuid unused.passwords
  · exact List.forall_mem_append.mpr ⟨valid.passwordGroup, List.forall_mem_singleton.mpr known⟩

theorem exec_movePassword (moment : Moment) (now : NaiveDateTime) {changes : UpdatePassword} {old : Password}
    (found : Table.find (·.uuid) db.passwords uuid = some old)
    (known : ∀ g ∈ changes.groupId, g ∈ db.groups.map (·.uuid)) :
    ∃ after, db.exec moment (.passwordUpdate uuid changes now) = (.ok (changes.apply now old), after) ∧
      after.toTables = { db.toTables with
        passwords := Table.update (·.uuid) db.passwords uuid (changes.apply now) } := by
  simp only [Db.exec, found]
  refine commit_valid ?_
  have valid := db.valid
  refine { valid with passwordUuid := ?_, passwordGroup := ?_ }
  · have kept : (Table.update (·.uuid) db.passwords uuid (changes.apply now)).map Password.uuid =
        db.passwords.map Password.uuid := Table.map_update Password.uuid fun _ => rfl
    exact kept ▸ valid.passwordUuid
  · intro p member
    rcases Table.mem_update.mp member with ⟨row, present, -, rfl⟩ | ⟨present, -⟩
    · cases target : changes.groupId with
      | none =>
        simp only [UpdatePassword.apply, target, Option.getD_none]
        exact valid.passwordGroup row present
      | some g =>
        simp only [UpdatePassword.apply, target, Option.getD_some]
        exact known g target
    · exact valid.passwordGroup p present

/-! ## The rows afterwards -/

theorem newGroup_rows {g : Group} (tables : after.toTables = { db.toTables with groups := db.groups ++ [g] })
    (owned : g.userId = user) :
    after.groupsOf user = db.groupsOf user ++ [g] ∧ after.passwordsOf user = db.passwordsOf user := by
  have groups : after.groups = db.groups ++ [g] := by rw [tables]
  have passwords : after.passwords = db.passwords := by rw [tables]
  constructor
  · simp [Db.groupsOf, groups, List.filter_append, owned]
  · unfold Db.passwordsOf
    rw [passwords]
    refine List.filter_congr fun p member => ?_
    rw [owner_kept (q := p) (fun g present => groups ▸ List.mem_append_left _ present) member rfl]

theorem newPassword_rows {p : Password}
    (tables : after.toTables = { db.toTables with passwords := db.passwords ++ [p] })
    (owned : db.owner p = some user) :
    after.groupsOf user = db.groupsOf user ∧ after.passwordsOf user = db.passwordsOf user ++ [p] := by
  have groups : after.groups = db.groups := by rw [tables]
  have passwords : after.passwords = db.passwords ++ [p] := by rw [tables]
  have owner : after.owner = db.owner := by
    funext q
    unfold Db.owner Db.groupOwner
    rw [groups]
  constructor
  · unfold Db.groupsOf
    rw [groups]
  · unfold Db.passwordsOf
    rw [owner, passwords, List.filter_append]
    simp [owned]

theorem movePassword_rows {old : Password} {f : Password → Password}
    (tables : after.toTables = { db.toTables with
      passwords := Table.update (·.uuid) db.passwords uuid f })
    (found : Table.find (·.uuid) db.passwords uuid = some old) (was : db.owner old = some user)
    (owned : db.owner (f old) = some user) :
    after.groupsOf user = db.groupsOf user ∧
      after.passwordsOf user = Table.update (·.uuid) (db.passwordsOf user) uuid f := by
  have groups : after.groups = db.groups := by rw [tables]
  have passwords : after.passwords = Table.update (·.uuid) db.passwords uuid f := by rw [tables]
  have owner : after.owner = db.owner := by
    funext q
    unfold Db.owner Db.groupOwner
    rw [groups]
  constructor
  · unfold Db.groupsOf
    rw [groups]
  · unfold Db.passwordsOf
    rw [owner, passwords]
    refine Table.filter_update_comm fun row member same => ?_
    obtain rfl := Option.some.inj
      (((Table.find_eq_some_iff db.valid.passwordUuid).mpr ⟨member, same⟩).symm.trans found)
    simp [was, owned]

end

end PasswordManager
