import PasswordManager.Server.Neighbours
import PasswordManager.Server.Runs

/-!
# Ownership

Groups and passwords are never lost and never change owner, and only an accepted request of
their owner changes them.
-/

namespace PasswordManager
open Interaction

/-- The user that owns the group with the uuid. -/
def Db.groupOwner (db : Db) (uuid : String) : Option String :=
  (Table.find (·.uuid) db.groups uuid).map (·.userId)

/-- The user that owns a password: the user of the group that it is in. -/
def Db.owner (db : Db) (p : Password) : Option String := db.groupOwner p.groupId

def Db.groupsOf (db : Db) (user : String) : List Group :=
  db.groups.filter fun g => g.userId = user

def Db.passwordsOf (db : Db) (user : String) : List Password :=
  db.passwords.filter fun p => db.owner p = some user

/-- Every group is still there, and every password, with the same owner. -/
structure Kept (a b : Db) : Prop where
  groups : ∀ g ∈ a.groups, g ∈ b.groups
  passwords : ∀ p ∈ a.passwords, ∃ q ∈ b.passwords, q.uuid = p.uuid ∧ b.owner q = a.owner p

theorem Kept.refl (db : Db) : Kept db db := ⟨fun _ => id, fun p member => ⟨p, member, rfl, rfl⟩⟩

theorem Kept.trans {a b c : Db} (first : Kept a b) (second : Kept b c) : Kept a c where
  groups g member := second.groups g (first.groups g member)
  passwords p member := by
    obtain ⟨q, present, uuid, owner⟩ := first.passwords p member
    obtain ⟨r, present, uuid', owner'⟩ := second.passwords q present
    exact ⟨r, present, uuid'.trans uuid, owner'.trans owner⟩

/-! ## Owners -/

theorem groupOwner_of_mem {db : Db} {g : Group} (member : g ∈ db.groups) :
    db.groupOwner g.uuid = some g.userId := by
  unfold Db.groupOwner
  rw [(Table.find_eq_some_iff db.valid.groupUuid).mpr ⟨member, rfl⟩]
  rfl

theorem owner_exists {db : Db} {p : Password} (member : p ∈ db.passwords) :
    ∃ g ∈ db.groups, g.uuid = p.groupId ∧ db.owner p = some g.userId := by
  obtain ⟨g, present, uuid⟩ := List.mem_map.mp (db.valid.passwordGroup p member)
  refine ⟨g, present, uuid, ?_⟩
  unfold Db.owner
  rw [← uuid]
  exact groupOwner_of_mem present

theorem owner_kept {a b : Db} (groups : ∀ g ∈ a.groups, g ∈ b.groups) {p q : Password}
    (member : p ∈ a.passwords) (group : q.groupId = p.groupId) : b.owner q = a.owner p := by
  obtain ⟨g, present, uuid, owner⟩ := owner_exists member
  rw [owner]
  unfold Db.owner
  rw [group, ← uuid]
  exact groupOwner_of_mem (groups g present)

/-! ## One step -/

section
variable [Crypto] [Archive] {config : Config} {req : Request} {rid : Nat} {tr : Journal}
  {pre post : Db}

theorem found_group (run : Run config tr pre)
    (past : Past config Kept tr pre)
    {conn : Conn} {uuid : String} {group : Group}
    (member : answered conn (.groupFindByUuid uuid) (some group) ∈ own rid tr) :
    group ∈ pre.groups ∧ group.uuid = uuid := by
  obtain ⟨newer, older, before, moment, split, earlier, done⟩ := run.read rfl member
  have found : Table.find (·.uuid) before.groups uuid = some group :=
    Except.ok.inj (Prod.mk.inj done).1
  obtain ⟨present, same⟩ := Table.find_some found
  exact ⟨(past _ _ _ split earlier).groups group present, same⟩

/-- A password that a request has looked up is still there, with the owner it had. -/
theorem found_password (run : Run config tr pre)
    (past : Past config Kept tr pre)
    {conn : Conn} {uuid : String} {existing : Password}
    (member : answered conn (.passwordFindByUuid uuid) (some existing) ∈ own rid tr) :
    ∃ p ∈ pre.passwords, p.uuid = uuid ∧ pre.owner p = pre.groupOwner existing.groupId := by
  obtain ⟨newer, older, before, moment, split, earlier, done⟩ := run.read rfl member
  have found : Table.find (·.uuid) before.passwords uuid = some existing :=
    Except.ok.inj (Prod.mk.inj done).1
  obtain ⟨present, same⟩ := Table.find_some found
  have kept := past _ _ _ split earlier
  obtain ⟨p, member, uuid', owner⟩ := kept.passwords existing present
  refine ⟨p, member, uuid'.trans same, ?_⟩
  rw [owner]
  exact (owner_kept (q := existing) kept.groups present rfl).symm

/-- The row that an update is about to change belongs to the user that the request acts for. -/
theorem updated_owner (run : Run config tr pre)
    (past : Past config Kept tr pre)
    {conn conn' : Conn} {uuid : String} {existing old : Password} {group : Group}
    (lookup : answered conn (.passwordFindByUuid uuid) (some existing) ∈ own rid tr)
    (current : answered conn' (.groupFindByUuid existing.groupId) (some group) ∈ own rid tr)
    (found : Table.find (·.uuid) pre.passwords uuid = some old) :
    pre.owner old = some group.userId := by
  obtain ⟨p, member, uuid', owner⟩ := found_password run past lookup
  obtain ⟨present, same⟩ := found_group run past current
  obtain ⟨member', uuid''⟩ := Table.find_some found
  rw [Table.key_unique pre.valid.passwordUuid member' member (uuid''.trans uuid'.symm), owner, ← same]
  exact groupOwner_of_mem present

theorem change_kept {e : Exchange Action.Answer} (run : Run config tr pre)
    (past : Past config Kept tr pre) (change : Change config req (own rid tr) e pre post) :
    Kept pre post := by
  have same : post.groups = pre.groups → post.passwords = pre.passwords → Kept pre post := by
    intro groups passwords
    refine ⟨fun g member => groups ▸ member, fun p member => ⟨p, passwords ▸ member, rfl, ?_⟩⟩
    exact owner_kept (fun g member => groups ▸ member) member rfl
  cases change with
  | none => exact .refl pre
  | signUp write vacant found after => exact same (by rw [after]) (by rw [after])
  | userUpdate write found after => exact same (by rw [after]) (by rw [after])
  | identityCreate write after => exact same (by rw [after]) (by rw [after])
  | identityUpdate write found after => exact same (by rw [after]) (by rw [after])
  | identityDelete write after => exact same (by rw [after]) (by rw [after])
  | groupCreate write after =>
    have groups : ∀ g ∈ pre.groups, g ∈ post.groups := by
      intro g member
      rw [after]
      exact List.mem_append_left _ member
    refine ⟨groups, fun p member => ⟨p, ?_, rfl, owner_kept groups member rfl⟩⟩
    rw [after]
    exact member
  | passwordCreate write after =>
    have groups : ∀ g ∈ pre.groups, g ∈ post.groups := by
      intro g member
      rw [after]
      exact member
    refine ⟨groups, fun p member => ⟨p, ?_, rfl, owner_kept groups member rfl⟩⟩
    rw [after]
    exact List.mem_append_left _ member
  | @passwordUpdate conn uuid changes now old pre post write found after =>
    have groups : ∀ g ∈ pre.groups, g ∈ post.groups := by
      intro g member
      rw [after]
      exact member
    refine ⟨groups, fun p member => ?_⟩
    by_cases changed : p.uuid = uuid
    · refine ⟨changes.apply now p, ?_, rfl, ?_⟩
      · rw [after]
        exact Table.mem_update.mpr (.inl ⟨p, member, changed, rfl⟩)
      · have found' := (Table.find_eq_some_iff pre.valid.passwordUuid).mpr ⟨member, changed⟩
        cases write with
        | pwdUpdate accepted lookup current owned target targetOwned opened sealed =>
          obtain ⟨_, lookup⟩ := lookup
          obtain ⟨_, current⟩ := current
          obtain ⟨_, target⟩ := target
          obtain ⟨moved, uuid⟩ := found_group run past target
          have owns := groupOwner_of_mem (groups _ moved)
          rw [uuid, targetOwned, ← owned, ← updated_owner run past lookup current found'] at owns
          exact owns
    · refine ⟨p, ?_, rfl, owner_kept groups member rfl⟩
      rw [after]
      exact Table.mem_update.mpr (.inr ⟨member, changed⟩)

/-- What changes rows of a user is a statement of a request that was accepted for that user. -/
theorem change_accepted (run : Run config tr pre)
    (past : Past config Kept tr pre)
    {e : Exchange Action.Answer} (change : Change config req (own rid tr) e pre post) {user : String}
    (touched : post.groupsOf user ≠ pre.groupsOf user ∨
      post.passwordsOf user ≠ pre.passwordsOf user) :
    ∃ headers ip identity, req.session = some (headers, ip) ∧
      Accepted (own rid tr) headers ip identity user := by
  have kept := change_kept run past change
  have stay : pre.passwords.filter (fun p => post.owner p = some user) = pre.passwordsOf user :=
    List.filter_congr fun p member => by rw [owner_kept (q := p) kept.groups member rfl]
  have same : post.groups = pre.groups → post.passwords = pre.passwords → False := by
    intro groups passwords
    rcases touched with touched | touched
    · exact touched (by rw [Db.groupsOf, Db.groupsOf, groups])
    · exact touched (by rw [Db.passwordsOf, passwords, stay])
  cases change with
  | none => exact (same rfl rfl).elim
  | signUp write vacant found after => exact (same (by rw [after]) (by rw [after])).elim
  | userUpdate write found after => exact (same (by rw [after]) (by rw [after])).elim
  | identityCreate write after => exact (same (by rw [after]) (by rw [after])).elim
  | identityUpdate write found after => exact (same (by rw [after]) (by rw [after])).elim
  | identityDelete write after => exact (same (by rw [after]) (by rw [after])).elim
  | groupCreate write after =>
    cases write with
    | @groupCreate headers ip body h conn identity userId uuid accepted drew =>
      by_cases mine : userId = user
      · exact ⟨headers, ip, identity, rfl, mine ▸ accepted⟩
      · rcases touched with touched | touched
        · refine absurd ?_ touched
          rw [Db.groupsOf, Db.groupsOf, after, List.filter_append]
          simp [NewGroup.row, mine]
        · refine absurd ?_ touched
          rw [Db.passwordsOf, show post.passwords = pre.passwords by rw [after], stay]
  | @passwordCreate _ _ clock _ _ write after =>
    cases write with
    | @pwdCreate headers ip body h conn identity userId plain blob group uuid now accepted opened sealed
        target owned drew time =>
      by_cases mine : userId = user
      · exact ⟨headers, ip, identity, rfl, mine ▸ accepted⟩
      · obtain ⟨_, target⟩ := target
        obtain ⟨present, uuid'⟩ := found_group run past target
        have owns := groupOwner_of_mem (kept.groups _ present)
        rw [uuid', owned] at owns
        have owns : post.owner ((createRow body uuid blob now).row clock) = some userId := owns
        rcases touched with touched | touched
        · refine absurd ?_ touched
          rw [Db.groupsOf, Db.groupsOf, show post.groups = pre.groups by rw [after]]
        · refine absurd ?_ touched
          rw [Db.passwordsOf, show post.passwords = pre.passwords ++ [_] by rw [after],
            List.filter_append, stay]
          simp [owns, mine]
  | @passwordUpdate _ _ _ now _ _ _ write found after =>
    cases write with
    | @pwdUpdate headers ip body h conn identity userId plain blob existing group targetGroup uuid now'
        accepted lookup current owned target targetOwned opened sealed =>
      by_cases mine : userId = user
      · exact ⟨headers, ip, identity, rfl, mine ▸ accepted⟩
      · obtain ⟨_, lookup⟩ := lookup
        obtain ⟨_, current⟩ := current
        obtain ⟨_, target⟩ := target
        obtain ⟨present, uuid'⟩ := found_group run past target
        have owns := groupOwner_of_mem (kept.groups _ present)
        rw [uuid', targetOwned] at owns
        have owns : ∀ p, post.owner ((updateChanges body blob).apply now p) = some userId := fun _ => owns
        rcases touched with touched | touched
        · refine absurd ?_ touched
          rw [Db.groupsOf, Db.groupsOf, show post.groups = pre.groups by rw [after]]
        · refine absurd ?_ touched
          rw [Db.passwordsOf, Db.passwordsOf, show post.passwords = Table.update _ _ _ _ by rw [after]]
          refine Table.filter_update (fun p member other => ?_) (fun p member same => ?_)
            fun p member same => ?_
          · rw [owner_kept (q := p) kept.groups member rfl]
          · have found := (Table.find_eq_some_iff pre.valid.passwordUuid).mpr ⟨member, same⟩
            rw [updated_owner run past lookup current found, owned]
            simp [mine]
          · simp [owns, mine]

theorem run_kept {db : Db} (run : Run config tr db) : Past config Kept tr db :=
  run.past Kept Kept.refl Kept.trans change_kept

/-- Ownership is permanent: between any two states of a run no group is lost or changed, no
password is lost or changes its owner, and every statement that changed rows of a user belongs
to a request that `validate_auth` had accepted for a device linked to that user. -/
theorem ownership_permanent {c c' : ServerState} (reached : (server config).Reachable c)
    (later : (server config).Steps c c') :
    Kept c.world c'.world ∧
      ∀ newer rid req e pre post older, c'.trace = newer ++ .act rid req e pre post :: older →
        ∀ user, (post.groupsOf user ≠ pre.groupsOf user ∨
            post.passwordsOf user ≠ pre.passwordsOf user) →
          ∃ headers ip identity, req.session = some (headers, ip) ∧
            Accepted (own rid older) headers ip identity user ∧
            ∃ req' conn token before, .act rid req'
              (answered conn (.identityFindByDeviceToken (hashToken token)) (some identity))
                before before ∈ older ∧ identity ∈ before.identities := by
  have run := reachable_run (Machine.Steps.trans reached later)
  obtain ⟨newer, split⟩ := later.trace_suffix
  refine ⟨run_kept run newer c.trace c.world split.symm (reachable_run reached), ?_⟩
  intro newer rid req e pre post older split user touched
  rw [split] at run
  have run := Run.suffix run
  have earlier := run.newest.1
  obtain ⟨headers, ip, identity, session, accepted⟩ :=
    change_accepted earlier (run_kept earlier) run.change touched
  obtain ⟨req', conn, token, before, -, member, present, -⟩ := earlier.accepted accepted
  exact ⟨headers, ip, identity, session, accepted, req', conn, token, before, member, present⟩

end

/-- The first password of the example stays its user's while a neighbour joins and its user moves it
to another group. -/
theorem ownership_permanent_device :
    letI := plainCrypto
    letI := plainArchive
    (deviceRun.world.groups ≠ [] ∧ deviceRun.world.passwords ≠ []) ∧
    Kept deviceRun.world shelfRun.world ∧
      ∀ newer rid req e pre post older, shelfRun.trace = newer ++ .act rid req e pre post :: older →
        ∀ user, (post.groupsOf user ≠ pre.groupsOf user ∨
            post.passwordsOf user ≠ pre.passwordsOf user) →
          ∃ headers ip identity, req.session = some (headers, ip) ∧
            Accepted (own rid older) headers ip identity user ∧
            ∃ req' conn token before, .act rid req'
              (answered conn (.identityFindByDeviceToken (hashToken token)) (some identity))
                before before ∈ older ∧ identity ∈ before.identities := by
  let _ := plainCrypto
  let _ := plainArchive
  have filled : deviceRun.world.groups ≠ [] ∧ deviceRun.world.passwords ≠ [] := by decide +kernel
  exact ⟨filled, ownership_permanent deviceRun_reachable (neighbourRun_later.trans shelfRun_later)⟩

end PasswordManager
