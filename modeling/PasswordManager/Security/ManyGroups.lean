import Mathlib.Data.List.Range
import PasswordManager.Security.Paging

/-!
# A user with many groups

Nothing bounds the number of groups that a user makes, but the list of the passwords names them all in
one statement.
-/

namespace PasswordManager
open Interaction

/-- What a device's request for a group inserts. -/
def groupRow (uuid : Uuid) (user : String) (body : CreateGroupRequest) : NewGroup where
  uuid := uuid.toString
  userId := user
  name := body.name
  extra := body.extra.getD "{}"

theorem served_groupCreate [Crypto] [Archive] {config : Config} {choices : Nat → Choice} {db : Db}
    {headers : HeaderMap} {ip user : String} {d : Identity} (calm : Calm choices)
    (access : Access db headers ip d user) {body : CreateGroupRequest}
    (short : validateLength "group name" body.name 128 = .ok ())
    (unused : Unused db ((choices 6).chance 0).uuid.toString) :
    (served config choices (.groupCreate headers ip body) db).2.toTables = { db.toTables with
      groups := db.groups ++
        [(groupRow ((choices 6).chance 0).uuid user body).row ((choices 7).chance 0).clock] } := by
  obtain ⟨conn, connected⟩ := exec_conn db (calm.shift 4)
  obtain ⟨owner, present, same, -⟩ := access.active
  have fresh : Unused db (groupRow ((choices 6).chance 0).uuid user body).uuid := unused
  obtain ⟨after, created, tables⟩ := exec_newGroup ((choices 7).chance 0).toMoment fresh
    (List.mem_map.mpr ⟨owner, present, same⟩)
  have drawn : Fallible.exec Action.answer (liftM newUuid : Handler String) (fun n => choices (n + 6), db) =
      (.ok ((choices 6).chance 0).uuid.toString, fun n => choices (n + 7), db) := rfl
  have added : Fallible.exec Action.answer
      (liftM (Group.create conn (groupRow ((choices 6).chance 0).uuid user body)) : Handler Group)
      (fun n => choices (n + 7), db) = (.ok _, fun n => choices (n + 8), after) :=
    exec_statement (calm.statements 7) created
  have done : Fallible.exec Action.answer (groupCreateHandler headers ip body) (choices, db) =
      (.ok ⟨((choices 6).chance 0).uuid.toString, body.name, body.extra.getD "{}"⟩,
        fun n => choices (n + 8), after) := by
    unfold groupRow at added
    unfold groupCreateHandler
    simp only [Fallible.exec_bind, exec_attempt, short, Except.mapError, exec_validateAuth calm access,
      exec_okOr, access.linked, connected, drawn, added]
    rfl
  unfold served serve
  rw [exec_map done]
  exact tables

/-- The group that the device of the example makes with its `n`-th request. -/
def folder (user : String) (n : Nat) : Group :=
  (⟨(numbered (20000 + n)).toString, user, "mail", "{}"⟩ : NewGroup).row 0

theorem deviceRun_taken :
    deviceRun.world.groups.map (·.uuid) = [(numbered 4096).toString] ∧
      deviceRun.world.passwords.map (·.uuid) = [(numbered 5128).toString] ∧
      ∀ e ∈ deviceRun.trace, e.rid < 8 := by
  decide +kernel

/-- The database of the example with more groups of the user. -/
structure Filed (user : String) (n : Nat) (db : Db) : Prop where
  users : db.users = deviceRun.world.users
  identities : db.identities = deviceRun.world.identities
  groups : db.groups = deviceRun.world.groups ++ (List.range n).map (folder user)
  passwords : db.passwords = deviceRun.world.passwords

theorem Filed.unused {user : String} {n : Nat} {db : Db} (filed : Filed user n db) (few : n < 40000) :
    Unused db (numbered (20000 + n)).toString := by
  obtain ⟨groups, passwords, -⟩ := deviceRun_taken
  have apart : ∀ m, m < 60000 → 20000 + n ≠ m → (numbered (20000 + n)).toString ≠ (numbered m).toString :=
    fun m few' other same => other (numbered_injective (by omega) few' same)
  constructor
  · rw [filed.groups, List.map_append, groups, List.map_map]
    intro member
    rcases List.mem_append.mp member with first | later
    · exact apart 4096 (by decide) (by omega) (List.mem_singleton.mp first)
    · obtain ⟨m, below, same⟩ := List.mem_map.mp later
      rw [List.mem_range] at below
      exact apart (20000 + m) (by omega) (by omega) same.symm
  · rw [filed.passwords, passwords]
    intro member
    exact apart 5128 (by decide) (by omega) (List.mem_singleton.mp member)

theorem Filed.access {user : User} {d : Identity} {n : Nat} {db : Db} (filed : Filed user.uuid n db)
    (uses : InUse d user) (device : d ∈ deviceRun.world.identities) (owner : user ∈ deviceRun.world.users) :
    letI := plainCrypto
    Access db deviceHeaders deviceIp d user.uuid := by
  let _ := plainCrypto
  have there := uses.access device owner
  refine ⟨there.token, ?_, there.address, there.confirmed, there.linked, user, ?_, rfl, uses.active⟩
  · rw [filed.identities]
    exact device
  · rw [filed.users]
    exact owner

theorem Filed.groupsOf {user : String} {n : Nat} {db : Db} (filed : Filed user n db) :
    n ≤ (db.groupsOf user).length := by
  have own : ((List.range n).map (folder user)).filter (fun g => g.userId = user) =
      (List.range n).map (folder user) := by
    refine List.filter_eq_self.mpr fun g member => ?_
    obtain ⟨m, -, rfl⟩ := List.mem_map.mp member
    exact decide_eq_true rfl
  rw [Db.groupsOf, filed.groups, List.filter_append, own, List.length_append, List.length_map,
    List.length_range]
  omega

/-- The device makes one group after another. -/
theorem filed_reachable {d : Identity} {user : User} (uses : InUse d user)
    (device : d ∈ deviceRun.world.identities) (owner : user ∈ deviceRun.world.users) {n : Nat} (few : n ≤ 40000) :
    letI := plainCrypto
    letI := plainArchive
    ∃ c, (server plainConfig).Reachable c ∧ Filed user.uuid n c.world ∧ ∀ e ∈ c.trace, e.rid < 8 + n := by
  let _ := plainCrypto
  let _ := plainArchive
  induction n with
  | zero => exact ⟨deviceRun, deviceRun_reachable, ⟨rfl, rfl, (List.append_nil _).symm, rfl⟩, deviceRun_taken.2.2⟩
  | succ n ih =>
    obtain ⟨c, reached, filed, earlier⟩ := ih (by omega)
    let choices : Nat → Choice := fun _ => { chance := fun _ => { uuid := numbered (20000 + n) } }
    have unused : ∀ e ∈ c.trace, e.rid ≠ 8 + n := fun e member => Nat.ne_of_lt (earlier e member)
    obtain ⟨c', steps, ran, done, trace, own⟩ := serve_alone (S := server plainConfig) groupRequest unused choices
    have calm : Calm choices := ⟨fun _ => ⟨⟨0⟩, rfl⟩, fun _ => rfl⟩
    have tables : (served plainConfig choices groupRequest c.world).2.toTables = _ :=
      served_groupCreate calm (filed.access uses device owner) rfl (filed.unused (by omega))
    have world : c'.world.toTables = { c.world.toTables with
        groups := c.world.groups ++ [folder user.uuid n] } := ran ▸ tables
    refine ⟨c', reached.trans steps, ⟨?_, ?_, ?_, ?_⟩, ?_⟩
    · rw [world]
      exact filed.users
    · rw [world]
      exact filed.identities
    · rw [world, List.range_succ, List.map_append, ← List.append_assoc, ← filed.groups]
      rfl
    · rw [world]
      exact filed.passwords
    · intro e member
      rw [trace] at member
      rcases List.mem_cons.mp member with rfl | member
      · exact Nat.lt_succ_self _
      · rcases List.mem_append.mp member with here | before
        · exact own e here ▸ Nat.lt_succ_self _
        · exact Nat.lt_succ_of_lt (earlier e before)

/-- With one group more than a statement can name, no page is answered. -/
theorem pages_refused :
    letI := plainCrypto
    letI := plainArchive
    ∃ c d user, (server plainConfig).Reachable c ∧ Access c.world deviceHeaders deviceIp d user ∧
      (∀ choices params, Calm choices → (respond (served plainConfig choices
        (.pwdList deviceHeaders deviceIp params) c.world).1).1 = 500) ∧
      ∀ now order size, ¬PagesComplete plainConfig c.world deviceHeaders deviceIp d user now order size := by
  let _ := plainCrypto
  let _ := plainArchive
  obtain ⟨d, device, user, owner, uses⟩ := deviceRun_inUse
  obtain ⟨c, reached, filed, -⟩ := filed_reachable uses device owner (n := 32767) (by omega)
  have access := filed.access uses device owner
  have many : SQLITE_MAX_VARIABLE_NUMBER < (c.world.groupsOf user.uuid).length := filed.groupsOf
  refine ⟨c, d, user.uuid, reached, access, fun choices params calm => ?_, fun now order size => ?_⟩
  · rw [list_exceeds plainConfig access many calm params]
    rfl
  · exact pages_exceed access many

end PasswordManager
