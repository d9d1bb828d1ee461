import PasswordManager.Interaction.Crash
import PasswordManager.Security.RoundTrip
import PasswordManager.Security.View
import PasswordManager.Vault.Points

/-!
# The server is a vault

However the statements of concurrent requests are interleaved, and whenever the process crashes,
the requests that create and list groups and create, update and get passwords have the effect of
operations on a `Vault`, each at one moment between its request and its reply.
-/

namespace PasswordManager
open Interaction

variable [Crypto] [Archive] {config : Config}

/-- The operations that a run has performed, newest first. -/
abbrev vaultHistory (config : Config) (tr : Journal) : List (Point VaultOp VaultOut) :=
  points (mark config) tr

/-- A run in which every request keeps to what `sight_spec` says. -/
abbrev Sights (config : Config) : Journal → Db → Prop :=
  (server config).Traced (fun req h x => Justified config req h x ∧ Sighted req h x)
    fun req h (r : Result) => Settled config req h r ∧ ∀ reply, r = .ok reply → Answered config req h reply

/-! ## What an operation asks for -/

/-- The request of the device asks for the operation. -/
inductive Asks (config : Config) (identity : Identity) : Request → VaultOp → Prop where
  | groupCreate {headers ip body} {folder : Folder} (name : folder.name = body.name)
      (extra : folder.extra = body.extra.getD "{}") :
      Asks config identity (.groupCreate headers ip body) (.createFolder folder)
  | groupList {headers ip user} : Asks config identity (.groupList headers ip) (.listFolders user)
  | pwdCreate {headers ip body user uuid} {entry : Entry} (folder : entry.folder = body.groupId)
      (secret : Opens config identity body.pwd entry.secret) (name : entry.name = body.name.getD "")
      (extra : entry.extra = body.extra.getD "{}")
      (days : entry.days = (body.validSinceDays.map (clampInt 1 365)).getD 30) :
      Asks config identity (.pwdCreate headers ip body) (.createEntry user uuid entry)
  | pwdUpdate {headers ip body user} {uuid : Uuid} {revision : Revision} (folder : revision.folder = body.groupId)
      (secret : Opens config identity body.pwd revision.secret) (name : revision.name = body.name)
      (extra : revision.extra = body.extra) :
      Asks config identity (.pwdUpdate headers ip uuid body) (.updateEntry user uuid.toString revision)
  | pwdGet {headers ip user} {uuid : Uuid} :
      Asks config identity (.pwdGet headers ip uuid) (.getEntry user uuid.toString)

section
variable {tr : Journal} {db pre post : Db} {rid : Nat} {req : Request} {h : History Action.Answer}
  {e : Exchange Action.Answer} {headers : HeaderMap} {ip user : String} {identity : Identity}

theorem Sights.run (sights : Sights config tr db) : Run config tr db :=
  sights.mono (fun _ _ _ allowed => allowed.1) fun _ _ _ met => met.1

/-- A request bears the user that it was accepted for. -/
theorem bearer_accepted (run : Run config tr db)
    (accepted : Accepted (own rid tr) headers ip identity user) :
    bearer (own rid tr) = some user := by
  obtain ⟨token, conn, -, member⟩ := accepted.device
  cases found : bearer (own rid tr) with
  | none =>
    have none := List.findSome?_eq_none_iff.mp found _ member
    exact absurd (none.symm.trans accepted.linked) nofun
  | some other =>
    obtain ⟨x, present, named⟩ := List.exists_of_findSome?_eq_some found
    split at named
    · rename_i conn' token' d
      cases run.identify_once present member rfl rfl
      exact (named.symm.trans accepted.linked)
    · cases named

/-! ## One step -/

/-- The device asked for the operation, which does to the vault what the statement does to the
database. -/
def Operates (config : Config) (req : Request) (h : History Action.Answer) (pre post : Db)
    (op : VaultOp) (out : VaultOut) : Prop :=
  (∃ headers ip identity, req.session = some (headers, ip) ∧ Accepted h headers ip identity op.user ∧
    Asks config identity req op) ∧
  op.step (pre.vault config) = some (out, post.vault config)

theorem operates_createFolder {body : CreateGroupRequest} {conn : Conn} {new : NewGroup} {row : Group}
    (sights : Sights config (.act rid (.groupCreate headers ip body)
      (answered conn (.groupCreate new) row) pre post :: tr) post) :
    Operates config (.groupCreate headers ip body) (own rid tr) pre post (.createFolder row.folder)
      .done := by
  have change := Run.change sights.run
  cases change with
  | none unchanged => cases unchanged
  | @groupCreate _ _ clock _ _ write after =>
    cases write with
    | @groupCreate _ _ _ _ _ identity user uuid accepted drew =>
      let new : NewGroup := ⟨uuid.toString, user, body.name, body.extra.getD "{}"⟩
      have groups : post.groups = pre.groups ++ [new.row clock] := by rw [after]
      have passwords : post.passwords = pre.passwords := by rw [after]
      refine ⟨⟨headers, ip, identity, rfl, accepted, .groupCreate rfl rfl⟩, ?_⟩
      have unique := post.valid.groupUuid
      rw [groups, List.map_append, List.nodup_append'] at unique
      have fresh : (new.row clock).folder.uuid ∉ (pre.vault config).folders.map (·.uuid) := by
        rw [Db.vault, folders_uuid]
        exact fun member => unique.2.2 member (List.mem_singleton.mpr rfl)
      rw [step_createFolder fresh, vault_newGroup groups passwords]

theorem operates_listFolders {conn : Conn} {rows : List Group}
    (sights : Sights config (.act rid (.groupList headers ip)
      (answered conn (.groupFindByUser user) rows) pre post :: tr) post) :
    Operates config (.groupList headers ip) (own rid tr) pre post (.listFolders user)
      (.folders (rows.map (·.folder))) := by
  obtain ⟨identity, accepted⟩ := sights.act_inv.2.2.1.2.list _ _ _ _ rfl rfl
  obtain ⟨-, moment, done⟩ := Run.looked rfl sights.run
  obtain ⟨-, -, happened, -⟩ := sights.run.newest
  obtain rfl : post = pre := happened_unwritten rfl happened
  obtain rfl := Except.ok.inj (Prod.mk.inj done).1
  refine ⟨⟨headers, ip, identity, rfl, accepted, .groupList⟩, ?_⟩
  simp only [VaultOp.step, Db.vault, List.filter_map]
  rfl

theorem operates_createEntry (opens : OpensSealed) {body : CreatePasswordRequest} {conn : Conn}
    {new : NewPassword} {row : Password}
    (sights : Sights config (.act rid (.pwdCreate headers ip body)
      (answered conn (.passwordCreate new) row) pre post :: tr) post)
    (bears : bearer (own rid tr) = some user) :
    Operates config (.pwdCreate headers ip body) (own rid tr) pre post
      (.createEntry user row.uuid (row.entry config)) .done := by
  have run := sights.run.newest.1
  have change := Run.change sights.run
  cases change with
  | none unchanged => cases unchanged
  | @passwordCreate _ _ clock _ _ write after =>
    cases write with
    | @pwdCreate _ _ _ _ _ identity owner plain blob group uuid now accepted opened sealed target owned
        drew time =>
      obtain rfl : user = owner := Option.some.inj (bears.symm.trans (bearer_accepted run accepted))
      obtain ⟨nonce, sealed⟩ := sealed
      obtain ⟨_, target⟩ := target
      obtain ⟨present, same⟩ := found_group run (run_kept run) target
      have groups : post.groups = pre.groups := by rw [after]
      have passwords : post.passwords = pre.passwords ++ [(createRow body uuid blob now).row clock] := by
        rw [after]
      have secret := Password.entry_secret (p := (createRow body uuid blob now).row clock)
        (openPwd_sealed opens sealed)
      refine ⟨⟨headers, ip, identity, rfl, accepted, .pwdCreate rfl ?_ rfl rfl rfl⟩, ?_⟩
      · rw [secret]
        exact opened
      · have owns : (pre.vault config).Owns user body.groupId := by
          rw [← same, ← owned]
          exact vault_owns present
        have unique := post.valid.passwordUuid
        rw [passwords, List.map_append, List.nodup_append'] at unique
        have fresh : uuid.toString ∉ pre.passwords.map (·.uuid) :=
          fun member => unique.2.2 member (List.mem_singleton.mpr rfl)
        rw [vault_insert groups passwords owns.placed]
        exact step_createEntry (vault_vacant fresh) owns

theorem operates_updateEntry (opens : OpensSealed) {uuid : Uuid} {body : UpdatePasswordRequest}
    {conn : Conn} {key : String} {changes : UpdatePassword} {now : NaiveDateTime} {row : Password}
    (sights : Sights config (.act rid (.pwdUpdate headers ip uuid body)
      (answered conn (.passwordUpdate key changes now) row) pre post :: tr) post)
    (bears : bearer (own rid tr) = some user) :
    Operates config (.pwdUpdate headers ip uuid body) (own rid tr) pre post
      (.updateEntry user key ⟨row.groupId, (row.entry config).secret, changes.name, changes.extra, now⟩)
      .done := by
  have run := sights.run.newest.1
  have change := Run.change sights.run
  cases change with
  | none unchanged => cases unchanged
  | @passwordUpdate _ _ _ _ old _ _ write found after =>
    cases write with
    | @pwdUpdate _ _ _ _ _ identity owner plain blob existing group targetGroup _ _ accepted lookup current
        owned target targetOwned opened sealed time =>
      obtain rfl : user = owner := Option.some.inj (bears.symm.trans (bearer_accepted run accepted))
      obtain ⟨nonce, sealed⟩ := sealed
      obtain ⟨_, lookup⟩ := lookup
      obtain ⟨_, current⟩ := current
      obtain ⟨_, target⟩ := target
      have past := run_kept run
      obtain ⟨member, same⟩ := Table.find_some found
      have secret := Password.entry_secret (p := (updateChanges body blob).apply now old)
        (openPwd_sealed opens sealed)
      refine ⟨⟨headers, ip, identity, rfl, accepted, .pwdUpdate rfl ?_ rfl rfl⟩, ?_⟩
      · show Opens config identity body.pwd _
        rw [secret]
        exact opened
      · have here : (pre.vault config).Owns user old.groupId := by
          have owner := updated_owner run past lookup current found
          obtain ⟨g, present, uuid', owner'⟩ := owner_exists member
          rw [← uuid', ← owned, ← Option.some.inj (owner'.symm.trans owner)]
          exact vault_owns present
        have there : (pre.vault config).Owns user body.groupId := by
          obtain ⟨present, uuid'⟩ := found_group run past target
          rw [← uuid', ← targetOwned]
          exact vault_owns present
        have entry := vault_entry config member
        rw [same] at entry
        have groups : post.groups = pre.groups := by rw [after]
        have passwords : post.passwords = Table.update (·.uuid) pre.passwords old.uuid
            ((updateChanges body blob).apply now) := by
          rw [after, same]
        rw [vault_update groups passwords (fun _ => rfl) member there.placed, same]
        exact step_updateEntry entry here there

theorem operates_getEntry {uuid : Uuid} {conn : Conn} {key : String} {row : Password} {group : Group}
    (sights : Sights config (.act rid (.pwdGet headers ip uuid)
      (answered conn (.passwordFindByUuid key) (some row)) pre post :: tr) post)
    (bears : bearer (own rid tr) = some user)
    (found : Table.find (·.uuid) pre.groups row.groupId = some group) (owned : group.userId = user) :
    Operates config (.pwdGet headers ip uuid) (own rid tr) pre post (.getEntry user key)
      (.entry (row.entry config) group.folder) := by
  obtain ⟨rfl, identity, owner, accepted⟩ := sights.act_inv.2.2.1.2.get _ _ _ _ _ rfl rfl
  obtain ⟨run, moment, done⟩ := Run.looked rfl sights.run
  obtain ⟨-, -, happened, -⟩ := sights.run.newest
  obtain rfl : post = pre := happened_unwritten rfl happened
  obtain rfl : user = owner := Option.some.inj (bears.symm.trans (bearer_accepted run accepted))
  obtain ⟨member, same⟩ := Table.find_some (Except.ok.inj (Prod.mk.inj done).1)
  obtain ⟨present, named⟩ := Table.find_some found
  refine ⟨⟨headers, ip, identity, rfl, accepted, .pwdGet⟩, ?_⟩
  have entry := vault_entry config member
  have folder := vault_folder config present
  rw [same] at entry
  rw [named] at folder
  exact step_getEntry entry folder owned

theorem operates (opens : OpensSealed) {done : VaultOp × VaultOut}
    (sights : Sights config (.act rid req e pre post :: tr) post)
    (marked : mark config req (own rid tr) e pre = some done) :
    Operates config req (own rid tr) pre post done.1 done.2 := by
  unfold mark at marked
  split at marked
  · obtain rfl := Option.some.inj marked
    exact operates_createFolder sights
  · obtain rfl := Option.some.inj marked
    exact operates_listFolders sights
  · obtain ⟨user, bears, rfl⟩ := Option.map_eq_some_iff.mp marked
    exact operates_createEntry opens sights bears
  · obtain ⟨user, bears, rfl⟩ := Option.map_eq_some_iff.mp marked
    exact operates_updateEntry opens sights bears
  · obtain ⟨user, bears, marked⟩ := Option.bind_eq_some_iff.mp marked
    obtain ⟨group, found, marked⟩ := Option.bind_eq_some_iff.mp marked
    split at marked
    · rename_i owned
      obtain rfl := Option.some.inj marked
      exact operates_getEntry sights bears found owned
    · cases marked
  · cases marked

/-- What is not an operation leaves the vault as it is. -/
theorem vault_framed (run : Run config (.act rid req e pre post :: tr) post)
    (unmarked : mark config req (own rid tr) e pre = none) : post.vault config = pre.vault config := by
  have earlier := run.newest.1
  have change := Run.change run
  cases change with
  | none => rfl
  | signUp write vacant found after => exact vault_same (by rw [after]) (by rw [after])
  | userUpdate write found after => exact vault_same (by rw [after]) (by rw [after])
  | identityCreate write after => exact vault_same (by rw [after]) (by rw [after])
  | identityUpdate write found after => exact vault_same (by rw [after]) (by rw [after])
  | identityDelete write after => exact vault_same (by rw [after]) (by rw [after])
  | groupCreate write after =>
    cases write with
    | groupCreate accepted drew => cases unmarked
  | passwordCreate write after =>
    cases write with
    | pwdCreate accepted opened sealed target owned drew time =>
      have bears := bearer_accepted earlier accepted
      cases bears.symm.trans (Option.map_eq_none_iff.mp unmarked)
  | passwordUpdate write found after =>
    cases write with
    | pwdUpdate accepted lookup current owned target targetOwned opened sealed time =>
      have bears := bearer_accepted earlier accepted
      cases bears.symm.trans (Option.map_eq_none_iff.mp unmarked)

/-! ## Replies -/

/-- The reply shows the result, as the device with the key reads it. -/
inductive Displays (h : History Action.Answer) (key : BytesN 32) : VaultOp → VaultOut → Reply → Prop where
  | folder {folder : Folder} : Displays h key (.createFolder folder) .done
      (.group ⟨folder.uuid, folder.name, folder.extra⟩)
  | folders {user : String} {folders : List Folder} : Displays h key (.listFolders user) (.folders folders)
      (.groups (folders.map fun f => ⟨f.uuid, f.name, f.extra⟩))
  | created {user uuid sent : String} {entry : Entry} {now : NaiveDateTime} (time : readClock now ∈ h)
      (secret : clientOpen sent key = some entry.secret) :
      Displays h key (.createEntry user uuid entry) .done (.password {
        uuid
        pwd := sent
        expires := daysRemainingAt now entry.validSince entry.days
        createdAt := entry.createdAt.display
        updatedAt := entry.updatedAt.display
        validSinceDays := entry.days })
  | updated {user uuid : String} {revision : Revision} :
      Displays h key (.updateEntry user uuid revision) .done .null
  | entry {user uuid sent : String} {entry : Entry} {folder : Folder} {now : NaiveDateTime}
      (time : readClock now ∈ h) (secret : clientOpen sent key = some entry.secret) :
      Displays h key (.getEntry user uuid) (.entry entry folder) (.detail {
        uuid
        pwd := sent
        name := entry.name
        extra := entry.extra
        expires := daysRemainingAt now entry.validSince entry.days
        createdAt := entry.createdAt.display
        updatedAt := entry.updatedAt.display
        validSinceDays := entry.days
        group := ⟨folder.name, folder.extra⟩ })

/-- The requests that are operations on the vault. -/
def Request.isVault : Request → Bool
  | groupCreate _ _ _ | groupList _ _ | pwdCreate _ _ _ | pwdUpdate _ _ _ _ | pwdGet _ _ _ => true
  | _ => false

/-- The key that the server shares with the device of an accepted request. -/
theorem accepted_key (opens : OpensSealed) (run : Run config tr db)
    (accepted : Accepted (own rid tr) headers ip identity user) :
    ∃ key, openSharedKey identity config = .ok key := by
  obtain ⟨req, conn, token, before, -, member, present, -⟩ := run.accepted accepted
  obtain ⟨newer, older, -, earlier⟩ := run.upTo member
  exact openSharedKey_usable ((run_atRest opens earlier).identities identity present)

/-- An exchange of an answered request at its place in the run. -/
theorem Sights.performed (sights : Sights config tr db) (started : .start rid req ∈ tr)
    (member : e ∈ own rid tr) : ∃ pre post newer older, tr = newer ++ .act rid req e pre post :: older ∧
      Sights config (.act rid req e pre post :: older) post := by
  obtain ⟨req', pre, post, present⟩ := mem_own.mp member
  obtain rfl := sights.start_unique (sights.started present) started
  obtain ⟨newer, older, rfl⟩ := List.append_of_mem present
  obtain ⟨v, earlier⟩ := sights.suffix
  obtain rfl := (System.Traced.act_inv earlier).2.2.2.1
  exact ⟨pre, post, newer, older, rfl, earlier⟩

/-- The reply of a vault request, with the operation that it reports. -/
def Reported (config : Config) (tr : Journal) (rid : Nat) (req : Request) (reply : Reply) : Prop :=
  ∃ p ∈ vaultHistory config tr, p.rid = rid ∧ ∃ headers ip identity key,
    req.session = some (headers, ip) ∧ Accepted (own rid tr) headers ip identity p.op.user ∧
    openSharedKey identity config = .ok key ∧ Displays (own rid tr) key p.op p.out reply

theorem reported_point (opens : OpensSealed) {newer older : Journal} {reply : Reply}
    {done : VaultOp × VaultOut} (sights : Sights config tr db)
    (split : tr = newer ++ .act rid req e pre post :: older)
    (earlier : Sights config (.act rid req e pre post :: older) post)
    (marked : mark config req (own rid older) e pre = some done)
    (shown : ∀ headers ip identity key, req.session = some (headers, ip) →
      Accepted (own rid tr) headers ip identity done.1.user → openSharedKey identity config = .ok key →
      Displays (own rid tr) key done.1 done.2 reply) : Reported config tr rid req reply := by
  obtain ⟨⟨headers, ip, identity, session, accepted, -⟩, -⟩ := operates opens earlier marked
  have accepted : Accepted (own rid tr) headers ip identity done.1.user := by
    rw [split]
    exact accepted.mono own_older
  obtain ⟨key, derived⟩ := accepted_key opens sights.run accepted
  have point : ⟨rid, done.1, done.2⟩ ∈ vaultHistory config tr :=
    mem_points.mpr ⟨newer, older, req, e, pre, post, split, marked⟩
  exact ⟨_, point, rfl, headers, ip, identity, key, session, accepted, derived,
    shown headers ip identity key session accepted derived⟩

omit [Archive] in
/-- What the device opens is what the row holds. -/
theorem forClient_secret (opens : OpensSealed) {p : Password} {sent : String} {key : BytesN 32}
    (derived : openSharedKey identity config = .ok key) (forClient : ForClient config identity p.pwd sent) :
    clientOpen sent key = some (p.entry config).secret := by
  obtain ⟨plain, key', nonce, blob, opened, derived', sealed, rfl⟩ := forClient
  obtain rfl := Except.ok.inj (derived.symm.trans derived')
  rw [Password.entry_secret opened]
  exact clientOpen_sealed opens sealed

/-- A request that writes a password bears the user that it was accepted for. -/
theorem writer_bears (run : Run config (.act rid req e pre post :: tr) post)
    (writes : e.action.isWrite = true)
    (kind : (∃ headers ip body, req = .pwdCreate headers ip body) ∨
      ∃ headers ip uuid body, req = .pwdUpdate headers ip uuid body) :
    ∃ user, bearer (own rid tr) = some user := by
  obtain ⟨earlier, justified, -⟩ := run.newest
  have write := (justified.write writes).2
  rcases kind with ⟨headers, ip, body, rfl⟩ | ⟨headers, ip, uuid, body, rfl⟩
  · generalize e.action = x at write
    cases write with
    | pwdCreate accepted => exact ⟨_, bearer_accepted earlier accepted⟩
  · generalize e.action = x at write
    cases write with
    | pwdUpdate accepted => exact ⟨_, bearer_accepted earlier accepted⟩

theorem reported_pwdGet (opens : OpensSealed) (sights : Sights config tr db) {uuid : Uuid}
    {detail : PasswordDetail} (started : .start rid (.pwdGet headers ip uuid) ∈ tr)
    (answer : Answered config (.pwdGet headers ip uuid) (own rid tr) (.detail detail)) :
    Reported config tr rid (.pwdGet headers ip uuid) (.detail detail) := by
  obtain ⟨identity, user, conn, row, group, now, accepted, member, inside, owned, time, forClient, shape⟩ :=
    answer
  obtain ⟨pre, post, newer, older, split, earlier⟩ := sights.performed started member
  obtain ⟨-, identity', user', accepted'⟩ := earlier.act_inv.2.2.1.2.get _ _ _ _ _ rfl rfl
  obtain ⟨run, moment, done⟩ := Run.looked rfl earlier.run
  obtain ⟨present, same⟩ := Table.find_some (Except.ok.inj (Prod.mk.inj done).1)
  have later : Accepted (own rid tr) headers ip identity' user' := by
    rw [split]
    exact accepted'.mono own_older
  obtain rfl := accepted_unique sights.run accepted later
  obtain rfl : user = user' := Option.some.inj (accepted.linked.symm.trans later.linked)
  -- The group was there already, and it is the one that was looked up later.
  obtain ⟨g, there, named, -⟩ := owner_exists present
  have kept := run_kept sights.run (newer ++ [_]) older pre (by simpa using split) run
  obtain ⟨here, named'⟩ := found_group sights.run (run_kept sights.run) inside
  obtain rfl := Table.key_unique db.valid.groupUuid (kept.groups g there) here (named.trans named'.symm)
  have found : Table.find (·.uuid) pre.groups row.groupId = some g :=
    (Table.find_eq_some_iff pre.valid.groupUuid).mpr ⟨there, named⟩
  have marked : mark config (.pwdGet headers ip uuid) (own rid older)
      (answered conn (.passwordFindByUuid uuid.toString) (some row)) pre =
        some (.getEntry user uuid.toString, .entry (row.entry config) g.folder) := by
    simp only [mark, bearer_accepted run accepted', Option.bind_eq_bind, Option.bind_some, found,
      if_pos owned]
  refine reported_point opens sights split earlier marked fun _ _ d key session accepted'' derived => ?_
  cases session
  obtain rfl := accepted_unique sights.run accepted accepted''
  rw [shape, rowDetail, same]
  exact .entry time (forClient_secret opens derived forClient)

theorem reported_ok (opens : OpensSealed) (sights : Sights config tr db) (vault : req.isVault = true)
    {reply : Reply} (started : .start rid req ∈ tr) (settled : Settled config req (own rid tr) (.ok reply))
    (answer : Answered config req (own rid tr) reply) : Reported config tr rid req reply := by
  cases req with
  | groupCreate headers ip body =>
    cases reply with
    | group group =>
      obtain ⟨conn, new, row, member, rfl⟩ := answer
      obtain ⟨pre, post, newer, older, split, earlier⟩ := sights.performed started member
      exact reported_point opens sights split earlier rfl fun _ _ _ _ _ _ _ => .folder
    | _ => cases answer
  | groupList headers ip =>
    cases reply with
    | groups groups =>
      obtain ⟨conn, user, rows, member, rfl⟩ := answer
      obtain ⟨pre, post, newer, older, split, earlier⟩ := sights.performed started member
      refine reported_point opens sights split earlier rfl fun _ _ _ _ _ _ _ => ?_
      have shown : rows.map groupResponse = (rows.map Group.folder).map fun f => ⟨f.uuid, f.name, f.extra⟩ := by
        rw [List.map_map]
        rfl
      rw [shown]
      exact .folders
    | _ => cases answer
  | pwdCreate headers ip body =>
    cases reply with
    | password entry =>
      obtain ⟨identity, user, conn, new, row, now, accepted, member, time, forClient, shape⟩ := answer
      obtain ⟨pre, post, newer, older, split, earlier⟩ := sights.performed started member
      obtain ⟨user', bears⟩ := writer_bears earlier.run rfl (.inl ⟨headers, ip, body, rfl⟩)
      have marked : mark config (.pwdCreate headers ip body) (own rid older)
          (answered conn (.passwordCreate new) row) pre =
            some (.createEntry user' row.uuid (row.entry config), .done) := by
        simp only [mark, bears, Option.map_some]
      refine reported_point opens sights split earlier marked fun _ _ d key session accepted' derived => ?_
      cases session
      obtain rfl := accepted_unique sights.run accepted accepted'
      rw [shape]
      exact .created time (forClient_secret opens derived forClient)
    | _ => cases answer
  | pwdUpdate headers ip uuid body =>
    obtain rfl : reply = .null := answer
    obtain ⟨conn, changes, now, row, member⟩ := settled
    obtain ⟨pre, post, newer, older, split, earlier⟩ := sights.performed started member
    obtain ⟨user, bears⟩ := writer_bears earlier.run rfl (.inr ⟨headers, ip, uuid, body, rfl⟩)
    have marked : mark config (.pwdUpdate headers ip uuid body) (own rid older)
        (answered conn (.passwordUpdate uuid.toString changes now) row) pre =
          some (.updateEntry user uuid.toString ⟨row.groupId, (row.entry config).secret, changes.name,
            changes.extra, now⟩, .done) := by
      simp only [mark, bears, Option.map_some]
    exact reported_point opens sights split earlier marked fun _ _ _ _ _ _ _ => .updated
  | pwdGet headers ip uuid =>
    cases reply with
    | detail detail => exact reported_pwdGet opens sights started answer
    | _ => cases answer
  | _ => cases vault

/-! ## Runs -/

/-- The run is a run of the vault: its operations are legal and lead to the vault that the database
stands for; each was asked for by the device of an accepted request, which has no other; every
successful reply of a vault request reports one; and an operation whose request was answered before
another request was started comes before the other's. -/
structure Linearized (config : Config) (tr : Journal) (db : Db) : Prop where
  legal : Legal VaultOp.step Vault.empty (vaultHistory config tr) (db.vault config)
  once : ((vaultHistory config tr).map (·.rid)).Nodup
  asked : ∀ p ∈ vaultHistory config tr, ∃ req headers ip identity, .start p.rid req ∈ tr ∧
    req.session = some (headers, ip) ∧ Accepted (own p.rid tr) headers ip identity p.op.user ∧
    Asks config identity req p.op
  reported : ∀ rid req reply, .reply rid req (.ok reply) ∈ tr → req.isVault = true →
    Reported config tr rid req reply
  ordered : ∀ newer rid req res older req' p p', tr = newer ++ .reply rid req res :: older →
    p ∈ vaultHistory config tr → p.rid = rid → p' ∈ vaultHistory config tr → .start p'.rid req' ∈ newer →
    [p', p].Sublist (vaultHistory config tr)

theorem sights_linearized (opens : OpensSealed) (sights : Sights config tr db) :
    Linearized config tr db where
  legal := by
    show Legal VaultOp.step ((server config).initial.vault config) (vaultHistory config tr) (db.vault config)
    refine sights.points_legal fun step => ⟨fun done marked => ?_, fun unmarked => ?_⟩
    · exact (operates opens step marked).2
    · exact vault_framed (Sights.run step) unmarked
  once := sights.points_once (fun req x => x.marks req = true) mark_marks
    fun _ _ _ allowed marked e member => Bool.eq_false_iff.mp (allowed.2.once marked e member)
  asked p member := by
    obtain ⟨newer, older, req, e, pre, post, rfl, marked⟩ := mem_points.mp member
    obtain ⟨v, earlier⟩ := sights.suffix
    obtain rfl := (System.Traced.act_inv earlier).2.2.2.1
    obtain ⟨⟨headers, ip, identity, session, accepted, asks⟩, -⟩ := operates opens earlier marked
    have performed : .act p.rid req e pre post ∈ newer ++ .act p.rid req e pre post :: older := by simp
    exact ⟨req, headers, ip, identity, sights.started performed, session, accepted.mono own_older, asks⟩
  reported rid req reply member vault := by
    obtain ⟨started, settled, answer⟩ := sights.replied member
    exact reported_ok opens sights vault started settled (answer reply rfl)
  ordered := by
    rintro newer rid req res older req' p p' rfl one same two started
    exact sights.points_ordered same started one two

end

/-- The server is a linearizable vault that survives crashes: the operations of every run, in the
order in which they take effect, are a legal history, and whatever happens later only adds to it. So
an acknowledged write is never lost. -/
theorem vault_linearizable (opens : OpensSealed) {c c' : ServerState}
    (reached : (server config).CrashReachable c) (later : (server config).CrashSteps c c') :
    Linearized config c'.trace c'.world ∧
      vaultHistory config c.trace <:+ vaultHistory config c'.trace := by
  obtain ⟨d, steps, survives⟩ := reached.uncrashed
  obtain ⟨d', steps', survives'⟩ := later.uncrashed survives
  have sights : Sights config d'.trace d'.world :=
    (Machine.reachable_tracked (M := (server config).machine) (sight_spec config) (Machine.Steps.trans steps steps')).traced
  rw [survives'.trace, survives'.world] at sights
  obtain ⟨newer, split⟩ := Machine.Steps.trace_suffix steps'
  rw [survives.trace, survives'.trace] at split
  refine ⟨sights_linearized opens sights, ?_⟩
  rw [← split]
  exact points_suffix (mark config) newer c.trace

/-- The device of the example has created a group and a password and got the password when the process
crashes. -/
def crashedRun : ServerState := { deviceRun with procs := fun _ => none }

omit [Crypto] [Archive] in
theorem vault_linearizable_device :
    letI := plainCrypto
    letI := plainArchive
    Linearized plainConfig crashedRun.trace crashedRun.world ∧
      (vaultHistory plainConfig crashedRun.trace).map (·.rid) = [6, 5, 4] := by
  let _ := plainCrypto
  let _ := plainArchive
  have reached : (server plainConfig).CrashReachable deviceRun := deviceRun_reachable.crashing
  have crashed : (server plainConfig).CrashSteps deviceRun crashedRun := System.CrashSteps.refl.crash
  exact ⟨(vault_linearizable plain_opens reached crashed).1, by decide +kernel⟩

end PasswordManager
