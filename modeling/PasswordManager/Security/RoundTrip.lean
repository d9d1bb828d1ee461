import PasswordManager.Security.SharedKey

/-!
# The password round trip

What one device stores every device reads, each under its own key.
-/

namespace PasswordManager
open Interaction

/-- The event is a successful update of the entry. -/
def Updates (uuid : String) : Event Action.Answer Request Result Db → Prop
  | .act _ _ ⟨.effect (.sql _ (.passwordUpdate p _ _)), (.ok _ : Except DbError Password)⟩ _ _ =>
    p = uuid
  | _ => False

variable [Crypto] [Archive] {config : Config} {newer older : Journal} {db before : Db}

theorem password_stays {uuid : String} (run : Run config (newer ++ older) db)
    (earlier : Run config older before) (untouched : ∀ e ∈ newer, ¬Updates uuid e) :
    ∀ p ∈ before.passwords, p.uuid = uuid → p ∈ db.passwords := by
  induction newer generalizing db with
  | nil =>
    obtain rfl := run.world_unique earlier
    exact fun p member _ => member
  | cons e newer ih =>
    have rest : ∀ e ∈ newer, ¬Updates uuid e := fun e member => untouched e (List.mem_cons_of_mem _ member)
    have now := untouched e List.mem_cons_self
    cases e with
    | start rid req => exact ih run.start_inv.1 rest
    | reply rid req res => exact ih run.reply_inv.1 rest
    | act rid req x pre post =>
      obtain ⟨run', -, -, rfl⟩ := run.newest
      have before := ih run' rest
      intro p member same
      rcases (Run.change run).passwords with kept | ⟨_, new, clock, -, -, created⟩ |
        ⟨_, target, changes, at_, old, rfl, -, -, updated⟩
      · rw [kept]
        exact before p member same
      · rw [created]
        exact List.mem_append_left _ (before p member same)
      · rw [updated]
        exact Table.mem_update.mpr (.inr ⟨before p member same, fun hit => now (hit.symm.trans same)⟩)

/-! ## Devices -/

/-- `validate_auth` accepted the request for a device whose client has the key. -/
def FromDevice (config : Config) (c : ServerState) (rid : Nat) (headers : HeaderMap) (ip : String)
    (key : BytesN 32) : Prop :=
  ∃ identity userId, Accepted (own rid c.trace) headers ip identity userId ∧
    Shares config c identity.uuid key

variable {c : ServerState} {rid : Nat} {headers : HeaderMap} {ip : String} {key : BytesN 32}

theorem accepted_unique (run : Run config older db) {d d' : Identity} {user user' : String}
    (one : Accepted (own rid older) headers ip d user)
    (two : Accepted (own rid older) headers ip d' user') : d = d' := by
  obtain ⟨token, conn, header, first⟩ := one.device
  obtain ⟨token', conn', header', second⟩ := two.device
  cases header.symm.trans header'
  cases run.identify_once first second rfl rfl
  rfl

theorem device_key (opens : OpensSealed) (agree : KeysAgree) (reached : (server config).Reachable c)
    (fresh : Fresh c.trace) (device : FromDevice config c rid headers ip key) {d : Identity}
    {user : String} (accepted : Accepted (own rid c.trace) headers ip d user) :
    openSharedKey d config = .ok key := by
  have run := reachable_run reached
  obtain ⟨identity, userId, accepted', shares⟩ := device
  obtain rfl := accepted_unique run accepted' accepted
  obtain ⟨req, conn, token, before, -, member, present, -⟩ := run.accepted accepted
  obtain ⟨newer, older, split, earlier⟩ := run.upTo member
  exact shared_key opens agree reached fresh shares split earlier present rfl

/-! ## Reading -/

/-- A request that reports passwords. -/
inductive Fetches : Request → HeaderMap → String → Prop where
  | get {headers ip uuid} : Fetches (.pwdGet headers ip uuid) headers ip
  | list {headers ip params} : Fetches (.pwdList headers ip params) headers ip

/-- The reply reports the password for the entry. -/
def Reports : Reply → String → String → Prop
  | .detail detail, uuid, pwd => detail.uuid = uuid ∧ detail.pwd = pwd
  | .passwords entries, uuid, pwd => ∃ entry ∈ entries, entry.uuid = uuid ∧ entry.pwd = pwd
  | _, _, _ => False

omit [Archive] in
theorem forClient_opens (opens : OpensSealed) {d : Identity} {stored sent : String}
    (shared : openSharedKey d config = .ok key) (forClient : ForClient config d stored sent) :
    ∃ plain, openPwd stored config = .ok plain ∧ clientOpen sent key = some plain := by
  obtain ⟨plain, key', nonce, blob, opened, derived, done, rfl⟩ := forClient
  cases shared.symm.trans derived
  exact ⟨plain, opened, clientOpen_sealed opens done⟩

/-- What a reply reports was read from a row and opens to its plaintext. -/
theorem fetched (opens : OpensSealed) (agree : KeysAgree) (reached : (server config).Reachable c)
    (fresh : Fresh c.trace) {req : Request} {reply : Reply} {uuid pwd : String}
    (fetches : Fetches req headers ip) (ended : Ended c rid req (.ok reply))
    (device : FromDevice config c rid headers ip key) (reports : Reports reply uuid pwd) :
    ∃ newer older before row, c.trace = newer ++ older ∧ .start rid req ∈ older ∧
      Run config older before ∧ row ∈ before.passwords ∧ row.uuid = uuid ∧
      (∃ plain, openPwd row.pwd config = .ok plain ∧ clientOpen pwd key = some plain) ∧
      ∀ detail, reply = .detail detail → detail.name = row.name ∧ detail.extra = row.extra := by
  have outcome := ended_settled reached ended
  cases fetches with
  | get =>
    cases reply with
    | detail detail =>
      obtain ⟨rfl, rfl⟩ := reports
      obtain ⟨identity, userId, conn, row, accepted, read, uuid, name, extra, forClient⟩ := outcome
      obtain ⟨pre, post, newer, older, split, read⟩ := ended_performed reached ended read
      obtain ⟨earlier, moment, done⟩ := Run.looked rfl read
      obtain ⟨present, -⟩ := Table.find_some (Except.ok.inj (Prod.mk.inj done).1)
      refine ⟨newer ++ [_], older, pre, row, by simpa using split, Run.begun read, earlier, present,
        uuid.symm, ?_, ?_⟩
      · exact forClient_opens opens (device_key opens agree reached fresh device accepted) forClient
      · rintro detail ⟨⟩
        exact ⟨name, extra⟩
    | _ => cases outcome
  | list =>
    cases reply with
    | passwords entries =>
      obtain ⟨entry, member, rfl, rfl⟩ := reports
      obtain ⟨identity, userId, conn, groupIds, rows, accepted, read, shown⟩ := outcome
      obtain ⟨pre, post, newer, older, split, read⟩ := ended_performed reached ended read
      obtain ⟨earlier, moment, done⟩ := Run.looked rfl read
      obtain ⟨row, listed, uuid, forClient⟩ := shown entry member
      obtain ⟨-, -, stored⟩ := exec_passwordFindByGroups done
      refine ⟨newer ++ [_], older, pre, row, by simpa using split, Run.begun read, earlier,
        List.mem_of_mem_filter (stored.subset listed), uuid.symm, ?_, nofun⟩
      exact forClient_opens opens (device_key opens agree reached fresh device accepted) forClient
    | _ => cases outcome

/-! ## Writing -/

/-- The server decrypts what the device's client has encrypted. -/
theorem received (opens : OpensSealed) (agree : KeysAgree) (reached : (server config).Reachable c)
    (fresh : Fresh c.trace) (device : FromDevice config c rid headers ip key)
    {e : Event Action.Answer Request Result Db} (split : c.trace = newer ++ e :: older)
    {nonce : BytesN 12} {m plain : Bytes} {field : String} (sent : clientSeal nonce m key = .ok field)
    {d : Identity} {user : String} (accepted : Accepted (own rid older) headers ip d user)
    (read : Opens config d field plain) : plain = m := by
  have later : Accepted (own rid c.trace) headers ip d user := by
    rw [split]
    exact accepted.mono own_older
  exact opens_clientSeal opens (device_key opens agree reached fresh device later) sent read

theorem created_holds (opens : OpensSealed) (agree : KeysAgree)
    (reached : (server config).Reachable c) (fresh : Fresh c.trace)
    {body : CreatePasswordRequest} {entry : PasswordEntry}
    (ended : Ended c rid (.pwdCreate headers ip body) (.ok (.password entry)))
    (device : FromDevice config c rid headers ip key) {nonce : BytesN 12} {m : Bytes}
    (sent : clientSeal nonce m key = .ok body.pwd) :
    ∃ newer older after row, c.trace = newer ++ older ∧ Run config older after ∧
      row ∈ after.passwords ∧ row.uuid = entry.uuid ∧ openPwd row.pwd config = .ok m := by
  obtain ⟨_, _, conn, new, row, _, inserted, uuid, _⟩ := ended_settled reached ended
  obtain ⟨pre, post, newer, older, split, done⟩ := ended_performed reached ended inserted
  have change := Run.change done
  cases change with
  | none unchanged => cases unchanged
  | passwordCreate write after =>
    cases write with
    | pwdCreate accepted opened encrypted target owned drew time =>
      obtain ⟨nonce', encrypted⟩ := encrypted
      obtain rfl := received opens agree reached fresh device split sent accepted opened
      refine ⟨newer, _, post, _, split, done, ?_, uuid.symm, openPwd_sealed opens encrypted⟩
      rw [after]
      exact List.mem_append_right _ (List.mem_singleton.mpr rfl)

theorem updated_holds (opens : OpensSealed) (agree : KeysAgree)
    (reached : (server config).Reachable c) (fresh : Fresh c.trace) {uuid : Uuid}
    {body : UpdatePasswordRequest} {conn : Conn} {changes : UpdatePassword} {now : NaiveDateTime}
    {row : Password} {pre post : Db}
    (split : c.trace = newer ++ .act rid (.pwdUpdate headers ip uuid body)
      (answered conn (.passwordUpdate uuid.toString changes now) row) pre post :: older)
    (device : FromDevice config c rid headers ip key) {nonce : BytesN 12} {m : Bytes}
    (sent : clientSeal nonce m key = .ok body.pwd) :
    row ∈ post.passwords ∧ row.uuid = uuid.toString ∧ openPwd row.pwd config = .ok m ∧
      ∃ old ∈ pre.passwords, old.uuid = uuid.toString ∧ row.name = body.name.getD old.name ∧
        row.extra = body.extra.getD old.extra := by
  have done : Run config _ _ := Run.suffix (split ▸ reachable_run reached)
  have change := Run.change done
  cases change with
  | none unchanged => cases unchanged
  | @passwordUpdate _ _ _ _ old _ _ write found after =>
    obtain ⟨present, same⟩ := Table.find_some found
    cases write with
    | pwdUpdate accepted found' current owned target targetOwned opened encrypted =>
      obtain ⟨nonce', encrypted⟩ := encrypted
      obtain rfl := received opens agree reached fresh device split sent accepted opened
      refine ⟨?_, same, openPwd_sealed opens encrypted, old, present, same, rfl, rfl⟩
      rw [after]
      exact Table.mem_update.mpr (.inl ⟨old, present, same, rfl⟩)

/-! ## The round trip -/

/-- What a device stored every device reads under its own key: the plaintext that the last
successful update of the entry carried, or else the create request. A name or extra that an
update omits keeps its value. -/
theorem password_round_trip (opens : OpensSealed) (agree : KeysAgree)
    (reached : (server config).Reachable c) (fresh : Fresh c.trace) {headers headers' : HeaderMap}
    {ip ip' : String} {rid rid' : Nat} {key key' : BytesN 32} {nonce : BytesN 12} {m : Bytes}
    {req : Request} {reply : Reply} {pwd : String}
    (writer : FromDevice config c rid headers ip key) (fetches : Fetches req headers' ip')
    (reader : FromDevice config c rid' headers' ip' key') (ended : Ended c rid' req (.ok reply)) :
    (∀ body entry, Ended c rid (.pwdCreate headers ip body) (.ok (.password entry)) →
      clientSeal nonce m key = .ok body.pwd → (∀ e ∈ c.trace, ¬Updates entry.uuid e) →
      Reports reply entry.uuid pwd → clientOpen pwd key' = some m) ∧
    ∀ newer older uuid body conn changes now row pre post,
      c.trace = newer ++ .act rid (.pwdUpdate headers ip uuid body)
        (answered conn (.passwordUpdate uuid.toString changes now) row) pre post :: older →
      clientSeal nonce m key = .ok body.pwd → (∀ e ∈ newer, ¬Updates uuid.toString e) →
      .start rid' req ∈ newer → Reports reply uuid.toString pwd →
      clientOpen pwd key' = some m ∧
        ∀ detail, reply = .detail detail → ∃ old ∈ pre.passwords, old.uuid = uuid.toString ∧
          detail.name = body.name.getD old.name ∧ detail.extra = body.extra.getD old.extra := by
  have run := reachable_run reached
  constructor
  · intro body entry created sent untouched reports
    obtain ⟨newer, older, after, row, split, done, present, uuid, holds⟩ :=
      created_holds opens agree reached fresh created writer sent
    obtain ⟨newer', older', before, row', split', -, earlier, present', uuid', ⟨plain, holds', opened⟩, -⟩ :=
      fetched opens agree reached fresh fetches ended reader reports
    have stays := password_stays (split ▸ run) done
      (fun e member => untouched e (split ▸ List.mem_append_left _ member)) row present uuid
    have stays' := password_stays (split' ▸ run) earlier
      (fun e member => untouched e (split' ▸ List.mem_append_left _ member)) row' present' uuid'
    obtain rfl := Table.key_unique c.world.valid.passwordUuid stays stays' (uuid.trans uuid'.symm)
    cases holds.symm.trans holds'
    exact opened
  · intro newer older uuid body conn changes now row pre post split sent untouched starts reports
    obtain ⟨present, same, holds, old, was, same', name, extra⟩ :=
      updated_holds opens agree reached fresh split writer sent
    obtain ⟨newer', older', before, row', split', begun, earlier, present', uuid', ⟨plain, holds', opened⟩, shown⟩ :=
      fetched opens agree reached fresh fetches ended reader reports
    have done : Run config _ post := Run.suffix (split ▸ run)
    -- The request was started after the UPDATE, so it has read after it.
    rcases List.suffix_or_suffix_of_suffix ⟨newer, split.symm⟩ ⟨newer', split'.symm⟩ with
      ⟨middle, rfl⟩ | inside
    · have between : newer = newer' ++ middle :=
        List.append_cancel_right (split.symm.trans (split'.trans (List.append_assoc ..).symm))
      have stays := password_stays earlier done
        (fun e member => untouched e (between ▸ List.mem_append_right _ member)) row present same
      obtain rfl := Table.key_unique before.valid.passwordUuid stays present' (same.trans uuid'.symm)
      cases holds.symm.trans holds'
      refine ⟨opened, fun detail report => ⟨old, was, same', ?_⟩⟩
      obtain ⟨name', extra'⟩ := shown detail report
      exact ⟨name'.trans name, extra'.trans extra⟩
    · exact absurd rfl (Machine.Traced.unused (split ▸ run) starts _ (inside.subset begun))

omit [Crypto] [Archive] in
theorem deviceRun_fromDevice {rid : Nat} {d : Identity} {user : String} :
    letI := plainCrypto
    letI := plainArchive
    Accepted (own rid deviceRun.trace) deviceHeaders deviceIp d user →
      FromDevice plainConfig deviceRun rid deviceHeaders deviceIp deviceKey := by
  let _ := plainCrypto
  let _ := plainArchive
  intro accepted
  have run := reachable_run deviceRun_reachable
  obtain ⟨req, conn, token, before, -, member, present, -⟩ := run.accepted accepted
  obtain ⟨newer, older, split, earlier⟩ := run.upTo member
  obtain ⟨rid', row, born, same⟩ := run_born earlier d present
  have born : Born deviceRun.trace rid' row := split ▸ born.later _
  -- There is one greet request, and its answer gives the key.
  obtain rfl : rid' = 0 := by
    obtain ⟨ip, body, conn, new, pre, post, event⟩ := born
    have once := List.any_eq_false.mp deviceRun_checked.greetedOnce _ event
    simpa [greetsAgain] using once
  obtain ⟨res, greeted, kind⟩ := ended_of_replies deviceRun_checked.greeted
  cases res with
  | error f => cases kind
  | ok reply =>
    cases reply with
    | greet key =>
      obtain rfl := eq_of_beq kind
      exact ⟨d, user, accepted, .intro greeted born same.uuid.symm clientSharedKey_encode⟩
    | _ => cases kind

omit [Crypto] [Archive] in
/-- A device in use reads back what it stored. -/
theorem password_round_trip_device :
    letI := plainCrypto
    letI := plainArchive
    ∃ detail, Ended deviceRun 6 getRequest (.ok (.detail detail)) ∧
      clientOpen detail.pwd deviceKey = some (asBytes "hunter2") := by
  let _ := plainCrypto
  let _ := plainArchive
  obtain ⟨_ | created, stored, kind⟩ := ended_of_replies deviceRun_checked.created
  · cases kind
  obtain ⟨_ | fetched, ended, kind'⟩ := ended_of_replies deviceRun_checked.fetched
  · cases kind'
  cases created with
  | password entry =>
    cases fetched with
    | detail detail =>
      obtain ⟨_, _, _, _, _, accepted, -⟩ := ended_settled deviceRun_reachable stored
      obtain ⟨_, _, _, _, accepted', -⟩ := ended_settled deviceRun_reachable ended
      have untouched : ∀ e ∈ deviceRun.trace, ¬Updates entry.uuid e := by
        intro e member updates
        have quiet := List.any_eq_false.mp deviceRun_checked.unchanged e member
        unfold Updates at updates
        split at updates
        · exact quiet rfl
        · exact updates
      have sent : clientSeal ⟨List.replicate 12 0, rfl⟩ (asBytes "hunter2") deviceKey =
          .ok (hidden (asBytes "hunter2")) := rfl
      have reports : Reports (.detail detail) entry.uuid detail.pwd :=
        ⟨(eq_of_beq kind').trans (eq_of_beq kind).symm, rfl⟩
      exact ⟨detail, ended, (password_round_trip plain_opens plain_agrees deviceRun_reachable
        deviceRun_checked.fresh (deviceRun_fromDevice accepted) .get (deviceRun_fromDevice accepted')
        ended).1 _ entry stored sent untouched reports⟩
    | _ => cases kind'
  | _ => cases kind

end PasswordManager
