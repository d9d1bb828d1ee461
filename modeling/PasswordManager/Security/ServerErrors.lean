import PasswordManager.Security.AdminGate
import PasswordManager.Security.Contention
import PasswordManager.Security.Enrollment
import PasswordManager.Security.Ownership
import PasswordManager.Security.SignUp
import PasswordManager.Security.View
import PasswordManager.Server.Faults

/-!
# Errors of the server

A request is answered with an error of the server only for one of the reasons that `Cause`
lists. Most of them lie outside the server; the others are a field that does not open, a
re-sign request for a taken address, a list of the passwords in more groups than a statement can name,
and a device that is deleted while its request runs.
-/

namespace PasswordManager
open Interaction

variable [Crypto]

/-- The database already has the uuid, or its hash as a token. -/
inductive Db.Holds (db : Db) (u : Uuid) : Prop where
  | user (used : u.toString ∈ db.users.map (·.uuid))
  | device (used : u.toString ∈ db.identities.map (·.uuid))
  | group (used : u.toString ∈ db.groups.map (·.uuid))
  | password (used : u.toString ∈ db.passwords.map (·.uuid))
  | token {d} (holder : d ∈ db.identities) (same : d.deviceToken = some (hashToken u.toString))

/-- A request deleted the device after this one had found it. -/
inductive Removed (tr : Journal) (rid : Nat) (uuid : String) : Prop where
  | intro {newer older d other req conn count pre post} (split : tr = newer ++ older)
      (found : Found (own rid older) d uuid)
      (deleted : .act other req (answered conn (.identityDelete uuid) count) pre post ∈ newer)

omit [Crypto] in
theorem Removed.later (newer : Journal) {tr : Journal} {rid : Nat} {uuid : String}
    (removed : Removed tr rid uuid) : Removed (newer ++ tr) rid uuid := by
  obtain ⟨rfl, found, deleted⟩ := removed
  exact .intro (List.append_assoc ..).symm found (List.mem_append_right _ deleted)

/-- Why a request is answered with an error of the server. -/
inductive Cause [Archive] (config : Config) (tr : Journal) (rid : Nat) (req : Request)
    (f : Failure) : Prop where
  | connection {pool message} (failed : gotConn pool (.error message) ∈ own rid tr)
  | statement {conn q message}
      (failed : refused conn q (.databaseError .unknown message) ∈ own rid tr)
  | groups {conn ids} (failed : refused conn (.passwordFindByGroups ids) .tooManyVariables ∈ own rid tr)
      (many : SQLITE_MAX_VARIABLE_NUMBER < ids.length)
  | transaction {conn t message} (failed : rolledBack conn t f ∈ own rid tr)
      (itself : f.error = .database (.databaseError .unknown message))
  | openFile {path message}
      (failed : ⟨.file (.openFile path), Except.error message⟩ ∈ own rid tr)
  | readFile {message} (failed : ⟨.file .readToEnd, Except.error message⟩ ∈ own rid tr)
  | pack {now content message} (read : ⟨.file .readToEnd, Except.ok content⟩ ∈ own rid tr)
      (failed : Archive.pack (exportFiles config now content) = .error message)
  | sealing {nonce data key} (drew : drewNonce nonce ∈ own rid tr)
      (failed : sealWith nonce data key = .error f.error)
  | subnet {headers addr} (checked : req.admin = some (headers, addr))
      (malformed : ¬∃ base p, Subnet config.adminAllowedSubnet.toList base p ∧ p ≤ 32)
  | field {d uuid text blob key} (found : Found (own rid tr) d uuid)
      (sent : text ∈ req.sealedFields) (decoded : Hex.decode text = some blob)
      (derived : openSharedKey d config = .ok key)
      (unopened : decryptWithSharedKey blob key = .error f.error)
  | taken {ip body} (move : req = .resign ip body) (late : Late tr rid req)
  | removed {uuid} (removed : Removed tr rid uuid)
  | collision {e pre post u} (event : .act rid req e pre post ∈ tr)
      (drew : drewUuid u ∈ own rid tr) (holds : pre.Holds u)
  | collisionInside {conn t pre post choice n}
      (event : .act rid req (rolledBack conn t f) pre post ∈ tr)
      (ran : Action.answer choice pre (.transaction conn t) = (.error f, post))
      (holds : pre.Holds (choice.chance n).uuid)

/-! ## Devices that are gone -/

section
variable [Archive] {config : Config} {tr newer older : Journal} {db before : Db} {rid : Nat}

omit [Archive] in
theorem Change.deletes {req : Request} {h : History Action.Answer} {e : Exchange Action.Answer}
    {pre post : Db} {uuid : String} (change : Change config req h e pre post)
    (present : uuid ∈ pre.identities.map (·.uuid)) (gone : uuid ∉ post.identities.map (·.uuid)) :
    ∃ conn count, e = answered conn (.identityDelete uuid) count := by
  have updated : ∀ {device : String} {changes : UpdateIdentity} {now : NaiveDateTime},
      (Table.update (·.uuid) pre.identities device (changes.apply now)).map Identity.uuid =
        pre.identities.map Identity.uuid := Table.map_update Identity.uuid fun _ => rfl
  rcases change.identities with same | ⟨_, new, clock, -, -, same⟩ |
    ⟨_, t, _, _, _, _, _, -, -, -, -, same⟩ | ⟨_, device, changes, now, _, -, -, -, same⟩ |
    ⟨conn, device, count, rfl, -, same⟩ <;> rw [same] at gone
  · exact absurd present gone
  · rw [List.map_append] at gone
    exact absurd (List.mem_append_left _ present) gone
  · exact absurd (updated ▸ present) gone
  · exact absurd (updated ▸ present) gone
  · obtain ⟨d, member, rfl⟩ := List.mem_map.mp present
    by_cases chosen : d.uuid = device
    · exact ⟨conn, count, by rw [chosen]⟩
    · have stays : d ∈ pre.identities.filter fun d => d.uuid ≠ device :=
        List.mem_filter.mpr ⟨member, decide_eq_true chosen⟩
      exact absurd (List.mem_map_of_mem stays) gone

theorem deleted_since (earlier : Run config older before) {uuid : String}
    (present : uuid ∈ before.identities.map (·.uuid)) (run : Run config (newer ++ older) db)
    (gone : uuid ∉ db.identities.map (·.uuid)) : ∃ other req conn count pre post,
      .act other req (answered conn (.identityDelete uuid) count) pre post ∈ newer := by
  have later : ∀ {e : Event Action.Answer Request Result Db} {newer : Journal},
      (∃ other req conn count pre post, .act other req (answered conn (.identityDelete uuid) count)
        pre post ∈ newer) → ∃ other req conn count pre post,
          .act other req (answered conn (.identityDelete uuid) count) pre post ∈ e :: newer := by
    rintro e newer ⟨other, req, conn, count, pre, post, member⟩
    exact ⟨other, req, conn, count, pre, post, List.mem_cons_of_mem e member⟩
  induction newer generalizing db with
  | nil =>
    rw [Run.world_unique run earlier] at gone
    exact absurd present gone
  | cons e newer ih =>
    cases e with
    | start rid req =>
      exact later (ih run.start_inv.1 gone)
    | reply rid req res =>
      exact later (ih run.reply_inv.1 gone)
    | act other req e pre post =>
      obtain ⟨run', -, -, rfl⟩ := Run.newest run
      by_cases there : uuid ∈ pre.identities.map (·.uuid)
      · obtain ⟨conn, count, rfl⟩ := (Run.change run).deletes there gone
        exact ⟨other, req, conn, count, pre, post, List.mem_cons_self⟩
      · exact later (ih run' there)

/-- A device that a request has found is still there, or it was deleted since. -/
theorem found_or_removed (run : Run config tr db) {d : Identity} {uuid : String}
    (found : Found (own rid tr) d uuid) (gone : uuid ∉ db.identities.map (·.uuid)) :
    Removed tr rid uuid := by
  have looked : ∀ {conn q} {a : q.Answer}, answered conn q a ∈ own rid tr → q.isWrite = false →
      (∀ (before : Db) moment, before.exec moment q = (.ok a, before) →
        d ∈ before.identities ∧ d.uuid = uuid) →
      (∀ h, answered conn q a ∈ h → Found h d uuid) → Removed tr rid uuid := by
    intro conn q a member read holds finds
    obtain ⟨req, pre, post, newer, older, rfl, earlier⟩ := run.performed member
    obtain ⟨-, moment, done⟩ := Run.looked read earlier
    obtain ⟨there, same⟩ := holds _ _ done
    have kept : post = pre := by
      obtain ⟨-, -, happened, -⟩ := earlier.newest
      exact happened_unwritten (show wrote (answered conn q a) = false from read) happened
    subst kept
    obtain ⟨other, req', conn', count, pre', post', deleted⟩ :=
      deleted_since earlier (List.mem_map.mpr ⟨d, there, same⟩) run gone
    refine .intro rfl (finds _ ?_) deleted
    rw [own_act_same]
    exact List.mem_cons_self
  cases found with
  | byIp found =>
    refine looked found rfl (fun before moment done => ?_) fun h => .byIp
    exact ⟨(Table.find_some (Except.ok.inj (Prod.mk.inj done).1)).1, rfl⟩
  | byToken found =>
    refine looked found rfl (fun before moment done => ?_) fun h => .byToken
    exact ⟨(Table.find_some (Except.ok.inj (Prod.mk.inj done).1)).1, rfl⟩
  | byUuid found =>
    refine looked found rfl (fun before moment done => ?_) fun h => .byUuid
    exact Table.find_some (Except.ok.inj (Prod.mk.inj done).1)

end

/-! ## Statements that fail -/

section
omit [Crypto]

variable {db after : Db} {moment : Moment} {now : NaiveDateTime} {uuid : String} {e : DbError}

/-- A query fails only for the number of its parameters. -/
theorem read_error {q : Query} (read : q.isWrite = false) (carried : db.exec moment q = (.error e, after)) :
    ∃ ids, q = .passwordFindByGroups ids ∧ e = .tooManyVariables ∧ SQLITE_MAX_VARIABLE_NUMBER < ids.length := by
  cases q with
  | passwordFindByGroups ids =>
    simp only [Db.exec] at carried
    split at carried
    · cases carried
    · cases carried
      exact ⟨ids, rfl, rfl, Nat.lt_of_not_le ‹_›⟩
  | _ => first | cases carried | cases read

theorem not_refused {q : Query} {a : q.Answer} {result : Db → Prop}
    (carried : db.exec moment q = (.error e, after))
    (done : ∃ after, db.exec moment q = (.ok a, after) ∧ result after) : False := by
  obtain ⟨after', done, -⟩ := done
  cases carried.symm.trans done

/-- Why an UPDATE of a device fails. -/
theorem changeDevice_error {changes : UpdateIdentity}
    (carried : db.exec moment (.identityUpdate uuid changes now) = (.error e, after))
    (known : ∀ u ∈ changes.userId, u ∈ db.users.map (·.uuid)) :
    uuid ∉ db.identities.map (·.uuid) ∨
      (∃ ip ∈ changes.ipAddress, ∃ d ∈ db.identities, d.uuid ≠ uuid ∧ d.ipAddress = ip) ∨
      ∃ t ∈ changes.deviceToken, ∃ d ∈ db.identities, d.deviceToken = some t := by
  by_contra none
  simp only [not_or, not_not, not_exists, not_and] at none
  obtain ⟨present, free, unused⟩ := none
  obtain ⟨old, member, rfl⟩ := List.mem_map.mp present
  have found := (Table.find_eq_some_iff db.valid.identityUuid).mpr ⟨member, rfl⟩
  exact not_refused carried (exec_changeDevice moment now found free
    (fun t wanted d there _ => unused t wanted d there) known)

theorem changeUser_ok (moment : Moment) (now : NaiveDateTime) {changes : UpdateUser} {old : User}
    (found : Table.find (·.uuid) db.users uuid = some old) :
    ∃ after, db.exec moment (.userUpdate uuid changes now) = (.ok (changes.apply now old), after) := by
  simp only [Db.exec, found]
  have valid := db.valid
  have uuids : (Table.update (·.uuid) db.users uuid (changes.apply now)).map User.uuid =
      db.users.map User.uuid := Table.map_update User.uuid fun _ => rfl
  have names : (Table.update (·.uuid) db.users uuid (changes.apply now)).map User.name =
      db.users.map User.name := Table.map_update User.name fun _ => rfl
  have kept : ({ db.toTables with
      users := Table.update (·.uuid) db.users uuid (changes.apply now) } : Tables).Valid :=
    { valid with
      userUuid := uuids ▸ valid.userUuid
      userName := names ▸ valid.userName
      identityUser := fun d member u linked => uuids ▸ valid.identityUser d member u linked
      groupUser := fun g member => uuids ▸ valid.groupUser g member }
  obtain ⟨after, done, -⟩ := commit_valid kept
  exact ⟨after, done⟩

end

section
variable [Archive] {config : Config} {tr newer older : Journal} {pre post db : Db} {rid : Nat}
  {req : Request}

/-- A user that a request has found is still there. -/
theorem found_user (run : Run config tr pre) {q : Query} {a : q.Answer} {conn : Conn} {u : User}
    (read : q.isWrite = false) (member : answered conn q a ∈ own rid tr)
    (holds : ∀ (before : Db) moment, before.exec moment q = (.ok a, before) → u ∈ before.users) :
    u.uuid ∈ pre.users.map (·.uuid) := by
  obtain ⟨newer, older, before, moment, split, earlier, done⟩ := run.read read member
  obtain ⟨v, present, same, -⟩ := run_usersKept run _ _ _ split earlier u (holds _ _ done)
  exact List.mem_map.mpr ⟨v, present, same⟩

omit [Archive] in
theorem holds_of_used {u : Uuid} (used : ¬Unused pre u.toString) : pre.Holds u := by
  by_contra free
  exact used ⟨fun member => free (.group member), fun member => free (.password member)⟩

theorem statement_cause (run : Run config tr db) {conn : Conn} {q : Query} {e : DbError}
    (split : tr = newer ++ .act rid req (refused conn q e) pre post :: older)
    (prepared : q.Prepared (own rid older))
    (settled : ∀ ip body new message, req = .greet ip body → q = .identityCreate new →
      e ≠ .databaseError .uniqueViolation message) :
    Cause config tr rid req ⟨.database e, .backend⟩ := by
  subst split
  have event : .act rid req (refused conn q e) pre post ∈
      newer ++ .act rid req (refused conn q e) pre post :: older := by simp
  have grown : own rid older ⊆ own rid (newer ++ .act rid req (refused conn q e) pre post :: older) :=
    own_older
  obtain ⟨earlier, justified, ⟨choice, happened⟩, -⟩ := Run.newest (Run.suffix run)
  have past := run_kept earlier
  simp only [Action.answer, Effect.answer] at happened
  split at happened
  · cases happened
    exact .statement (mem_own.mpr ⟨_, _, _, event⟩)
  rename_i calm
  have carried := happened
  by_cases writes : q.isWrite = true
  case neg =>
    obtain ⟨ids, rfl, rfl, many⟩ := read_error (Bool.eq_false_iff.mpr writes) carried
    exact .groups (mem_own.mpr ⟨_, _, _, event⟩) many
  have gone : ∀ {uuid d}, Found (own rid older) d uuid → uuid ∉ pre.identities.map (·.uuid) →
      Cause config (newer ++ .act rid req (refused conn q e) pre post :: older) rid req
        ⟨.database e, .backend⟩ := by
    intro uuid d found missing
    rw [List.append_cons]
    exact .removed ((found_or_removed earlier found missing).later _)
  have write := (justified.write writes).2
  cases write with
  | greet decoded size drew sealed =>
    rename_i ip body key random uuid blob
    by_cases used : uuid.toString ∈ pre.identities.map (·.uuid)
    · exact .collision event (grown (drawn_mem drew)) (.device used)
    · by_cases held : ip ∈ pre.identities.map (·.ipAddress)
      · obtain ⟨d, holder, address⟩ := List.mem_map.mp held
        obtain ⟨message, late⟩ := @exec_newDevice_late pre (choice.chance 0).toMoment
          (greetRow ip random uuid blob key) d holder address
        obtain ⟨same, -⟩ := Prod.mk.inj (carried.symm.trans late)
        exact absurd (Except.error.inj same) (settled ip body _ message rfl rfl)
      · exact (not_refused carried (exec_newDevice _ used held rfl rfl)).elim
  | signIn decoded found active known drew =>
    obtain ⟨d, device⟩ := prepared
    obtain ⟨conn', member⟩ := found
    have there := found_user earlier rfl member fun before moment done =>
      (Table.find_some (Except.ok.inj (Prod.mk.inj done).1)).1
    rcases changeDevice_error carried (by rintro _ ⟨⟩; exact there) with
      missing | ⟨ip, ⟨⟩, -⟩ | ⟨t, ⟨⟩, d, holder, same⟩
    · exact gone device missing
    · exact .collision event (grown (drawn_mem drew)) (.token holder same)
  | refresh device opened holds knows drew =>
    obtain ⟨d, found⟩ := prepared
    rcases changeDevice_error carried (by rintro _ ⟨⟩) with
      missing | ⟨ip, ⟨⟩, -⟩ | ⟨t, ⟨⟩, d, holder, same⟩
    · exact gone found missing
    · exact .collision event (grown (drawn_mem drew)) (.token holder same)
  | resign decoded device knows =>
    rename_i ip body identity token user now
    obtain ⟨d, found⟩ := prepared
    by_cases present : identity.uuid ∈ pre.identities.map (·.uuid)
    · rcases changeDevice_error carried (by rintro _ ⟨⟩) with
        missing | ⟨ip, ⟨⟩, d, holder, other, address⟩ | ⟨t, ⟨⟩, -⟩
      · exact absurd present missing
      · refine .taken rfl (.intro event carried rfl ?_ holder address fun same => other ?_)
        · rintro _ ⟨⟩
          exact present
        · exact (Option.some.inj same).symm
    · exact gone found present
  | approve admin | toggleIdentity admin =>
    obtain ⟨d, found⟩ := prepared
    rcases changeDevice_error carried (by rintro _ ⟨⟩) with missing | ⟨ip, ⟨⟩, -⟩ | ⟨t, ⟨⟩, -⟩
    exact gone found missing
  | deleteIdentity admin =>
    obtain ⟨count, removed⟩ := exec_removeDevice pre (choice.chance 0).toMoment _
    exact (not_refused carried removed).elim
  | toggleUser admin =>
    obtain ⟨conn', u, member⟩ := prepared
    obtain ⟨newer', older', before, moment, -, earlier', done⟩ := earlier.read rfl member
    obtain ⟨-, same⟩ := Table.find_some (Except.ok.inj (Prod.mk.inj done).1)
    have there := found_user earlier rfl member fun before moment done =>
      (Table.find_some (Except.ok.inj (Prod.mk.inj done).1)).1
    obtain ⟨v, present, equal⟩ := List.mem_map.mp there
    have found := (Table.find_eq_some_iff pre.valid.userUuid).mpr ⟨present, equal.trans same⟩
    obtain ⟨after, done⟩ := changeUser_ok (choice.chance 0).toMoment _ found
    cases carried.symm.trans done
  | groupCreate accepted drew =>
    rename_i identity user uuid
    obtain ⟨conn', u, member, -⟩ := accepted.active
    obtain ⟨newer', older', before, moment, -, earlier', done⟩ := earlier.read rfl member
    obtain ⟨-, same⟩ := Table.find_some (Except.ok.inj (Prod.mk.inj done).1)
    have there := found_user earlier rfl member fun before moment done =>
      (Table.find_some (Except.ok.inj (Prod.mk.inj done).1)).1
    rw [same] at there
    by_cases unused : Unused pre uuid.toString
    · exact (not_refused carried (exec_newGroup _ unused there)).elim
    · exact .collision event (grown (drawn_mem drew)) (holds_of_used unused)
  | pwdCreate accepted opened sealed target owned drew time =>
    rename_i identity user plain blob group uuid now
    obtain ⟨conn', member⟩ := target
    obtain ⟨present, same⟩ := found_group earlier past member
    have there := List.mem_map.mpr ⟨group, present, same⟩
    by_cases unused : Unused pre uuid.toString
    · exact (not_refused carried (exec_newPassword _ unused there)).elim
    · exact .collision event (grown (drawn_mem drew)) (holds_of_used unused)
  | pwdUpdate accepted found current owned target targetOwned opened sealed time =>
    obtain ⟨conn', member⟩ := found
    obtain ⟨conn'', member'⟩ := target
    obtain ⟨p, present, same, -⟩ := found_password earlier past member
    obtain ⟨present', same'⟩ := found_group earlier past member'
    have row := (Table.find_eq_some_iff pre.valid.passwordUuid).mpr ⟨present, same⟩
    refine (not_refused carried (exec_movePassword _ _ row ?_)).elim
    rintro _ ⟨⟩
    exact List.mem_map.mpr ⟨_, present', same'⟩

end

/-! ## The sign-up transaction -/

/-- SQLite or the disk failed a statement for a reason of its own. -/
def Itself (f : Failure) : Prop := ∃ message, f.error = .database (.databaseError .unknown message)

section
variable {conn : Conn} {chance : Nat → Chance} {pre post : Db} {t : SignUpTransaction} {f : Failure}

omit [Crypto] in
theorem sql_steps {w rest : (Nat → Chance) × Db} {q : Query} {r : Except Failure q.Answer}
    (ran : Fallible.exec Effect.answer (sql conn q) w = (r, rest)) : rest.1 = fun n => w.1 (n + 1) := by
  rw [exec_sql] at ran
  split at ran <;> cases ran <;> rfl

omit [Crypto] in
/-- A statement fails of itself, or because it cannot be carried out. -/
theorem sql_error {w rest : (Nat → Chance) × Db} {q : Query}
    (failed : Fallible.exec Effect.answer (sql conn q) w = (.error f, rest)) :
    Itself f ∨ ∃ e, w.2.exec (w.1 0).toMoment q = (.error e, rest.2) := by
  rw [exec_sql] at failed
  split at failed
  · cases failed
  · rename_i e after answer
    cases failed
    simp only [Effect.answer] at answer
    split at answer
    · cases answer
      exact .inl ⟨_, rfl⟩
    · exact .inr ⟨e, answer⟩

theorem linkDevice_error {w rest : (Nat → Chance) × Db} {device user : String}
    (known : user ∈ w.2.users.map (·.uuid))
    (failed : Fallible.exec Effect.answer (linkDevice conn device user) w = (.error f, rest)) :
    Itself f ∨ device ∉ w.2.identities.map (·.uuid) ∨
      ∃ d ∈ w.2.identities, d.deviceToken = some (hashToken (w.1 0).uuid.toString) := by
  unfold linkDevice Identity.update at failed
  rcases Fallible.bind_error failed with drawing | ⟨token, drawn, drew, failed⟩
  · cases drawing
  obtain ⟨rfl, same⟩ := newUuid_ok drew
  rcases Fallible.bind_error failed with failed | ⟨row, after, updated, failed⟩
  · rcases Fallible.bind_error failed with reading | ⟨now, timed, read, failed⟩
    · cases reading
    rw [exec_utcNow] at read
    cases read
    rcases sql_error failed with itself | ⟨e, carried⟩
    · exact .inl itself
    · rw [same] at carried
      rcases changeDevice_error carried (by rintro _ ⟨⟩; exact known) with
        missing | ⟨ip, ⟨⟩, -⟩ | ⟨t, ⟨⟩, holder⟩
      · exact .inr (.inl missing)
      · exact .inr (.inr holder)
  · cases failed

theorem body_error {w rest : (Nat → Chance) × Db}
    (failed : Fallible.exec Effect.answer (t.body conn) w = (.error f, rest)) :
    Itself f ∨ f.error.status < 500 ∨ t.identityUuid ∉ w.2.identities.map (·.uuid) ∨
      ∃ n, w.2.Holds (w.1 n).uuid := by
  unfold SignUpTransaction.body User.findByName User.create at failed
  rcases Fallible.bind_error failed with stopped | ⟨taken, looked, lookup, checking⟩
  · rcases sql_error stopped with itself | ⟨e, carried⟩
    · exact .inl itself
    · cases carried
  have steps := sql_steps lookup
  obtain ⟨found, kept⟩ := Prod.mk.inj (sql_ok lookup)
  rcases Fallible.bind_error checking with stopped | ⟨_, checked, check, drawing⟩
  · rw [exec_refuseIf] at stopped
    split at stopped <;> cases stopped
    exact .inr (.inl (by decide))
  obtain ⟨vacant, rfl⟩ := refuseIf_ok check
  rcases Fallible.bind_error drawing with stopped | ⟨uuid, drawn, drew, creating⟩
  · cases stopped
  rw [exec_drawn] at drew
  cases drew
  have free : t.name ∉ w.2.users.map (·.name) := by
    intro member
    obtain ⟨user, there, same⟩ := List.mem_map.mp member
    have missing : Table.find User.name w.2.users t.name = none := by
      rw [Except.ok.inj found]
      simpa using vacant
    exact Table.find_none missing there same
  rcases Fallible.bind_error creating with stopped | ⟨user, created, create, linking⟩
  · rcases sql_error stopped with itself | ⟨e, carried⟩
    · exact .inl itself
    · by_cases used : (checked.1 0).uuid.toString ∈ w.2.users.map (·.uuid)
      · rw [steps] at used
        exact .inr (.inr (.inr ⟨1, .user used⟩))
      · simp only [← kept] at carried
        exact (not_refused carried (exec_newUser _ used free)).elim
  have inserted := sql_ok create
  have steps' := sql_steps create
  simp only [← kept] at inserted
  obtain ⟨rfl, tables⟩ := exec_userCreate inserted
  have same : created.2.identities = w.2.identities := by rw [tables]
  have known : (checked.1 0).uuid.toString ∈ created.2.users.map (·.uuid) := by
    rw [tables, List.map_append]
    exact List.mem_append_right _ (List.mem_singleton.mpr rfl)
  rcases Fallible.bind_error linking with stopped | ⟨token, linked, link, returned⟩
  · rcases linkDevice_error known stopped with itself | missing | ⟨d, holder, token⟩
    · exact .inl itself
    · rw [same] at missing
      exact .inr (.inr (.inl missing))
    · rw [same] at holder
      rw [steps', steps] at token
      exact .inr (.inr (.inr ⟨3, .token holder token⟩))
  · cases returned

/-- Why the sign-up transaction fails with an error of the server. -/
theorem transaction_fails (ran : t.run conn chance pre = (.error f, post))
    (server : 500 ≤ f.error.status) : Itself f ∨ t.identityUuid ∉ pre.identities.map (·.uuid) ∨
      ∃ n, pre.Holds (chance n).uuid := by
  unfold SignUpTransaction.run at ran
  split at ran
  · cases ran
  · rename_i e rest calm body
    cases ran
    rcases body_error body with itself | client | missing | ⟨n, holds⟩
    · exact .inl itself
    · omega
    · exact .inr (.inl missing)
    · exact .inr (.inr ⟨n + 1, holds⟩)
  · cases ran
    exact .inl ⟨_, rfl⟩

end

/-! ## Every error of the server -/

section
omit [Crypto]

theorem subnet_error {config : Config} {addr : IpAddr} {e : AppError}
    (failed : checkAdminIp addr config = .error e) (server : 500 ≤ e.status) :
    ¬∃ base p, Subnet config.adminAllowedSubnet.toList base p ∧ p ≤ 32 := by
  rintro ⟨base, p, subnet, fits⟩
  have client : unauthorized.status < 500 := by decide
  rw [checkAdminIp_subnet subnet, if_neg (Nat.not_lt.mpr fits)] at failed
  cases addr with
  | v6 bits =>
    obtain rfl := Except.error.inj failed
    omega
  | v4 peer =>
    by_cases inside : peer &&& prefixMask p = base &&& prefixMask p
    · simp only [if_pos inside] at failed
      cases failed
    · simp only [if_neg inside] at failed
      obtain rfl := Except.error.inj failed
      omega

theorem adminKey_error {config : Config} {headers : HeaderMap} {e : AppError}
    (failed : checkAdminKey headers config = .error e) : e = unauthorized := by
  unfold checkAdminKey at failed
  cases header : headers.getStr "admin-key" with
  | none =>
    rw [header] at failed
    exact (Except.error.inj failed).symm
  | some text =>
    simp only [header, Option.elim, bind, Except.bind] at failed
    split at failed
    · exact (Except.error.inj failed).symm
    · cases failed

theorem admin_error {config : Config} {headers : HeaderMap} {addr : IpAddr} {e : AppError}
    (failed : checkAdmin headers addr config = .error e) (server : 500 ≤ e.status) :
    ¬∃ base p, Subnet config.adminAllowedSubnet.toList base p ∧ p ≤ 32 := by
  unfold checkAdmin at failed
  cases key : checkAdminKey headers config with
  | ok _ =>
    rw [key] at failed
    exact subnet_error failed server
  | error e' =>
    rw [key] at failed
    obtain rfl := Except.error.inj failed
    have client : unauthorized.status < 500 := by decide
    rw [adminKey_error key] at server
    omega

end

variable [Archive] {config : Config} {c : ServerState} {rid : Nat} {req : Request} {f : Failure}

/-- Whatever the requests are and however they interleave, an error of the server has a cause. -/
theorem server_error_caused (opens : OpensSealed) (reached : (server config).Reachable c)
    (ended : Ended c rid req (.error f)) (server : 500 ≤ (respond (.error f)).1) :
    Cause config c.trace rid req f := by
  have run := reachable_run reached
  have same : ∀ {req' e pre post}, .act rid req' e pre post ∈ c.trace → req' = req :=
    fun event => run.start_unique (run.started event) (ended_started reached ended)
  have fault : Fault config req (own rid c.trace) f :=
    ended_meets (fun _ _ _ => True) (serve_faults config) reached ended
  cases fault with
  | refusal client => exact absurd server (Nat.not_le.mpr client)
  | connection failed => exact .connection failed
  | @statement conn q e before newest prepared =>
    obtain ⟨newer, older, req', pre, post, split, rfl⟩ := own_newest newest
    have event : .act rid req' (refused conn q e) pre post ∈ c.trace := by simp [split]
    obtain rfl := same event
    refine statement_cause run split prepared ?_
    rintro ip body new message rfl rfl rfl
    have lost : (own rid c.trace).any losing = true := by
      rw [newest]
      rfl
    have late := (ended_yields reached ended lost).1
    cases late
  | @transaction conn t _ d before newest found =>
    obtain ⟨newer, older, req', pre, post, split, rfl⟩ := own_newest newest
    have event : .act rid req' (rolledBack conn t f) pre post ∈ c.trace := by simp [split]
    obtain rfl := same event
    obtain ⟨earlier, -, ⟨choice, happened⟩, -⟩ := Run.newest (Run.suffix (split ▸ run))
    rcases transaction_fails happened server with ⟨message, itself⟩ | missing | ⟨n, holds⟩
    · exact .transaction (mem_own.mpr ⟨_, _, _, event⟩) itself
    · rw [split, List.append_cons]
      exact .removed ((found_or_removed earlier found missing).later _)
    · exact .collisionInside event happened holds
  | openFile failed => exact .openFile failed
  | readFile failed => exact .readFile failed
  | pack read failed => exact .pack read failed
  | sealing drew failed => exact .sealing drew failed
  | stored =>
    have settled : Blame config (own rid c.trace) ⟨_, .stored⟩ := ended_settled reached ended
    exact absurd rfl (blame_origin opens run settled)
  | field found sent decoded derived unopened => exact .field found sent decoded derived unopened
  | admin checked failed => exact .subnet checked (admin_error failed server)

omit [Crypto] [Archive] in
theorem server_error_caused_move :
    letI := plainCrypto
    letI := plainArchive
    ∃ f, f.error.status = 500 ∧ Cause plainConfig takenRun.trace 3 moveRequest f := by
  let _ := plainCrypto
  let _ := plainArchive
  have reached : (server plainConfig).Reachable takenRun := Machine.play_reachable takenMoves _
  obtain ⟨r, ended, kind⟩ := ended_of_replies takenRun_checked.answered
  cases r with
  | ok reply => cases kind
  | error f =>
    have status : f.error.status = 500 := beq_iff_eq.mp kind
    exact ⟨f, status, server_error_caused plain_opens reached ended status.ge⟩

end PasswordManager
