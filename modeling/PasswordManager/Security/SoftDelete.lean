import PasswordManager.Security.Ownership
import PasswordManager.Security.Whole

/-!
# Deleted users

An admin deletes a user by a flag and restores it. In between nothing is done for the user, whatever
the order of the requests, and afterwards its devices have access as before.
-/

namespace PasswordManager
open Interaction

variable [Crypto] [Archive] {config : Config} {tr older : Journal} {db : Db}
  {c c' c₁ c₂ : ServerState} {rid : Nat} {u : String}

/-! ## Sessions and toggles -/

omit [Crypto] [Archive] in
/-- A step before `validate_auth` that asks for nothing. -/
theorem spec_checked {β : Type} {good : History Action.Answer → β → Prop} {h : History Action.Answer}
    {r : Except AppError Unit} {f : Unit → Handler β}
    (next : Fallible.Spec (fun _ _ => True) (fun _ _ => True) good h (f ())) :
    Fallible.Spec (fun _ _ => True) (fun _ _ => True) good h (attempt .request r >>= f) :=
  Fallible.spec_bind.mpr (spec_attempt.mpr ⟨fun _ _ => next, fun _ _ => trivial⟩)

/-- A protected request that succeeds was accepted by `validate_auth`. -/
def Entered (headers : HeaderMap) (ip : String) (h : History Action.Answer) : Prop :=
  ∃ identity userId, Accepted h headers ip identity userId

omit [Archive] in
theorem entered_keeps {headers : HeaderMap} {ip : String} (h : History Action.Answer)
    (e : Exchange Action.Answer) (entered : Entered headers ip h) : Entered headers ip (e :: h) := by
  obtain ⟨identity, userId, accepted⟩ := entered
  exact ⟨identity, userId, accepted.mono (List.subset_cons_self e h)⟩

omit [Archive] in
theorem validateAuth_enters {headers : HeaderMap} {ip : String} :
    Fallible.Spec (fun _ _ => True) (fun _ _ => True) (fun h _ => Entered headers ip h) []
      (validateAuth headers ip) := by
  unfold validateAuth Identity.findByDeviceToken User.findByUuid
  refine Fallible.spec_bind.mpr (spec_okOr.mpr ⟨fun token header => ?_, fun _ => trivial⟩)
  refine Fallible.spec_bind.mpr (spec_stateConn.mpr ⟨trivial, fun pool =>
    ⟨trivial, fun conn => ?_, fun _ => trivial⟩⟩)
  refine spec_statement (fun e => trivial) fun found => ?_
  refine Fallible.spec_bind.mpr (spec_okOr.mpr ⟨fun identity present => ?_, fun _ => trivial⟩)
  subst present
  refine Fallible.spec_bind.mpr (spec_refuseIf.mpr ⟨fun address => ?_, fun _ => trivial⟩)
  refine Fallible.spec_bind.mpr (spec_refuseIf.mpr ⟨fun confirmed => ?_, fun _ => trivial⟩)
  refine Fallible.spec_bind.mpr (spec_okOr.mpr ⟨fun userId linked => ?_, fun _ => trivial⟩)
  refine spec_statement (fun e => trivial) fun found => ?_
  refine Fallible.spec_bind.mpr (spec_okOr.mpr ⟨fun user present => ?_, fun _ => trivial⟩)
  subst present
  refine Fallible.spec_bind.mpr (spec_refuseIf.mpr ⟨fun active => ?_, fun _ => trivial⟩)
  refine ⟨identity, userId, ⟨token, conn, header, by simp⟩, not_not.mp address, ?_, linked, ?_⟩
  · exact Bool.not_eq_false _ |>.mp confirmed
  · exact ⟨conn, user, by simp, Bool.eq_false_iff.mpr active⟩

theorem serve_enters {req : Request} {headers : HeaderMap} {ip : String}
    (session : req.session = some (headers, ip)) :
    Fallible.Spec (fun _ _ => True) (fun _ _ => True) (fun h _ => Entered headers ip h) []
      (serve config req) := by
  have guarded : ∀ {β : Type} {f : Identity → Handler β},
      Fallible.Spec (fun _ _ => True) (fun _ _ => True) (fun h _ => Entered headers ip h) []
        (validateAuth headers ip >>= f) :=
    Fallible.spec_guard entered_keeps validateAuth_enters
  cases req with
  | verify => cases session; exact Fallible.spec_map.mpr guarded
  | pwdList => cases session; exact Fallible.spec_map.mpr guarded
  | pwdCreate => cases session; exact Fallible.spec_map.mpr (spec_checked guarded)
  | pwdUpdate => cases session; exact Fallible.spec_map.mpr (spec_checked guarded)
  | pwdGet => cases session; exact Fallible.spec_map.mpr guarded
  | groupCreate => cases session; exact Fallible.spec_map.mpr (spec_checked guarded)
  | groupList => cases session; exact Fallible.spec_map.mpr guarded
  | _ => cases session

/-- A request of the session that is answered with success has entered it. -/
def EntersSession (req : Request) (h : History Action.Answer) : Result → Prop
  | .ok _ => ∀ headers ip, req.session = some (headers, ip) → Entered headers ip h
  | .error _ => True

theorem ended_entered (reached : (server config).Reachable c) {req : Request} {headers : HeaderMap}
    {ip : String} {r : Reply} (session : req.session = some (headers, ip))
    (ended : Ended c rid req (.ok r)) : Entered headers ip (own rid c.trace) := by
  have specs : ∀ req, Prog.Spec (fun _ _ => True) (EntersSession req) [] (serve config req).run := by
    intro req
    cases found : req.session with
    | none =>
      refine Prog.spec_mono (fun _ _ allowed => allowed) (fun h r _ => ?_) (Prog.spec_trivial _)
      cases r with
      | ok reply => exact fun headers ip session => by cases found.symm.trans session
      | error f => trivial
    | some pair =>
      obtain ⟨headers, ip⟩ := pair
      refine Prog.spec_mono (fun _ _ allowed => allowed) (fun h r met => ?_) (serve_enters found)
      cases r with
      | ok reply =>
        rintro headers' ip' session
        cases found.symm.trans session
        exact met
      | error f => trivial
  exact ended_meets (fun _ _ _ => True) specs reached ended headers ip session

/-! ## While the user is deleted -/

theorem found_at (run : Run config tr db) {conn : Conn} {ip : String} {d : Identity}
    (lookup : answered conn (.identityFindByIp ip) (some d) ∈ own rid tr) : d.ipAddress = ip := by
  obtain ⟨newer, older, before, moment, split, earlier, done⟩ := run.read rfl lookup
  exact (Table.find_some (Except.ok.inj (Prod.mk.inj done).1)).2

/-- The last toggle of the user in the first state is a delete, and the user is not restored on the
way to the second. -/
structure Deleted (config : Config) (u : String) (c c' : ServerState) : Prop
    extends Period config c c' where
  deleted : lastDeleted (deeds c.trace) u = some true
  unrestored : ∀ later, deeds c'.trace = later ++ deeds c.trace → .toggle u false ∉ later

omit [Crypto] [Archive] in
theorem lastDeleted_stays {later log : List Deed} (deleted : lastDeleted log u = some true)
    (unrestored : .toggle u false ∉ later) : lastDeleted (later ++ log) u = some true := by
  rw [lastDeleted, List.findSome?_append]
  cases found : later.findSome? (Deed.deleted u) with
  | none => exact deleted
  | some b =>
    obtain ⟨x, member, marked⟩ := List.exists_of_findSome?_eq_some found
    obtain rfl := Deed.deleted_toggle marked
    cases b with
    | true => rfl
    | false => exact absurd member unrestored

theorem Deleted.flag (period : Deleted config u c c') {middle : Journal} {before : Db}
    (inside : middle ++ c.trace <:+ c'.trace) (run : Run config (middle ++ c.trace) before) :
    ∀ user ∈ before.users, user.uuid = u → user.isDeleted = true := by
  intro user member same
  obtain ⟨newest, split⟩ := inside
  obtain ⟨later, log⟩ := deeds_append middle c.trace
  obtain ⟨latest, log'⟩ := deeds_append newest (middle ++ c.trace)
  have unrestored : .toggle u false ∉ latest ++ later :=
    period.unrestored _ (by rw [← split, log', log, List.append_assoc])
  have last : lastDeleted (later ++ deeds c.trace) u = some true := lastDeleted_stays period.deleted
    fun restored => unrestored (List.mem_append_right _ restored)
  rw [(run_toggled run).2 user member, same, log, last]
  rfl

theorem Deleted.active (period : Deleted config u c c') (unstarted : Unstarted c.trace rid)
    {conn : Conn} {q : Query} {a : q.Answer} (read : q.isWrite = false)
    (member : answered conn q a ∈ own rid c'.trace) :
    ∃ middle before moment, middle ++ c.trace <:+ c'.trace ∧ Run config (middle ++ c.trace) before ∧
      before.exec moment q = (.ok a, before) ∧
      ∀ user ∈ before.users, user.isDeleted = false → user.uuid ≠ u := by
  have run := reachable_run (Machine.Steps.trans period.reached period.later)
  obtain ⟨req, pre, post, middle, inside, done⟩ :=
    read_later run period.later.trace_suffix unstarted member
  have within := (List.suffix_cons _ _).trans inside
  obtain ⟨earlier, moment, answer⟩ := Run.looked read done
  refine ⟨middle, pre, moment, within, earlier, answer, fun user present active same => ?_⟩
  cases active.symm.trans (period.flag within earlier user present same)

theorem Deleted.byUuid (period : Deleted config u c c') (unstarted : Unstarted c.trace rid)
    {conn : Conn} {uuid : String} {user : User}
    (member : answered conn (.userFindByUuid uuid) (some user) ∈ own rid c'.trace)
    (active : user.isDeleted = false) : uuid ≠ u := by
  obtain ⟨_, before, _, _, _, answer, others⟩ := period.active unstarted rfl member
  obtain ⟨present, same⟩ := Table.find_some (Except.ok.inj (Prod.mk.inj answer).1)
  exact same ▸ others user present active

theorem Deleted.byName (period : Deleted config u c c') (unstarted : Unstarted c.trace rid)
    {conn : Conn} {name : String} {user : User}
    (member : answered conn (.userFindByName name) (some user) ∈ own rid c'.trace)
    (active : user.isDeleted = false) :
    ∀ old ∈ c.world.users, old.uuid = u → name ≠ old.name := by
  rintro old present rfl named
  obtain ⟨middle, before, _, ⟨newest, split⟩, run, answer, others⟩ :=
    period.active unstarted rfl member
  obtain ⟨found, same⟩ := Table.find_some (Except.ok.inj (Prod.mk.inj answer).1)
  obtain ⟨now, there, uuid, name', -⟩ :=
    run_usersKept run middle c.trace c.world rfl (reachable_run period.reached) old present
  have one := Table.key_unique before.valid.userName found there
    (same.trans (named.trans name'.symm))
  exact others user found active (one ▸ uuid)

/-- What belongs to the user stays as it is. -/
structure RowsKept (u : String) (a b : Db) : Prop where
  groups : b.groupsOf u = a.groupsOf u
  passwords : b.passwordsOf u = a.passwordsOf u

theorem Deleted.untouched (period : Deleted config u c c') :
    ∀ middle before, middle ++ c.trace <:+ c'.trace → Run config (middle ++ c.trace) before →
      RowsKept u c.world before := by
  refine period.keeps ⟨rfl, rfl⟩ fun middle rid req e pre post inside run earlier => ?_
  obtain ⟨before, -, -, -⟩ := run.newest
  have kept := earlier middle pre (List.suffix_refl _) before
  have change := Run.change run
  have own_later : own rid (middle ++ c.trace) ⊆ own rid c'.trace := by
    obtain ⟨newest, split⟩ := (List.suffix_cons _ _).trans inside
    rw [← split]
    exact own_mono newest
  have same : post.groupsOf u = pre.groupsOf u ∧ post.passwordsOf u = pre.passwordsOf u := by
    by_contra touched
    have changed : post.groupsOf u ≠ pre.groupsOf u ∨ post.passwordsOf u ≠ pre.passwordsOf u := by tauto
    obtain ⟨headers, ip, identity, session, accepted⟩ :=
      change_accepted before (run_kept before) change changed
    obtain ⟨conn, user, member, active⟩ := accepted.active
    exact period.byUuid (period.unstarted inside) (own_later member) active rfl
  exact ⟨same.1.trans kept.groups, same.2.trans kept.passwords⟩

/-! ## What is refused -/

theorem Deleted.session (period : Deleted config u c c') (unstarted : Unstarted c.trace rid)
    {req : Request} {headers : HeaderMap} {ip : String} {r : Reply}
    (session : req.session = some (headers, ip)) (ended : Ended c' rid req (.ok r)) :
    ∃ token d, headers.getStr "device-token" = some token ∧ Looked c'.trace rid d ∧
      d.deviceToken = some (hashToken token) ∧ d.userId ≠ some u := by
  have reached : (server config).Reachable c' := Machine.Steps.trans period.reached period.later
  obtain ⟨d, userId, accepted⟩ := ended_entered reached session ended
  obtain ⟨token, conn, header, lookup⟩ := accepted.device
  obtain ⟨conn', user, member, active⟩ := accepted.active
  refine ⟨token, d, header, .byToken lookup, found_holds (reachable_run reached) lookup, ?_⟩
  rw [accepted.linked]
  exact fun same => period.byUuid unstarted member active (Option.some.inj same)

theorem Deleted.signIn (period : Deleted config u c c') (unstarted : Unstarted c.trace rid)
    {ip : String} {body : SignRequest} {r : Reply} (ended : Ended c' rid (.signIn ip body) (.ok r)) :
    ∃ d name, Looked c'.trace rid d ∧ d.ipAddress = ip ∧ Opens config d body.name (asBytes name) ∧
      ∀ old ∈ c.world.users, old.uuid = u → name ≠ old.name := by
  have reached : (server config).Reachable c' := Machine.Steps.trans period.reached period.later
  obtain ⟨row, left⟩ := accepted_left reached rfl ended
  obtain ⟨newer, older, conn, uuid, changes, now, pre, post, old, split, earlier, -, -, -, write⟩ :=
    left_write reached ended left
  have own_later : own rid older ⊆ own rid c'.trace := by
    rw [split]
    exact own_older
  cases write with
  | @signIn _ _ _ _ d name ehlo user token _ decoded found active known drew =>
    obtain ⟨conn', lookup⟩ := decoded.device
    obtain ⟨conn'', member⟩ := found
    exact ⟨d, name, .byIp (own_later lookup), found_at (reachable_run reached) (own_later lookup), decoded.name,
      period.byName unstarted (own_later member) active⟩

theorem Deleted.signUp (period : Deleted config u c c') (unstarted : Unstarted c.trace rid)
    {ip : String} {body : SignRequest} {r : Reply} (ended : Ended c' rid (.signUp ip body) (.ok r)) :
    ∃ d name, Looked c'.trace rid d ∧ d.ipAddress = ip ∧ Opens config d body.name (asBytes name) ∧
      ∀ old ∈ c.world.users, old.uuid = u → name ≠ old.name := by
  have reached : (server config).Reachable c' := Machine.Steps.trans period.reached period.later
  have settled : Outcome config (.signUp ip body) (own rid c'.trace) r := ended_settled reached ended
  cases r with
  | token token =>
    obtain ⟨conn, t, user, member⟩ := settled
    obtain ⟨req, pre, post, middle, ⟨newest, split⟩, done⟩ :=
      read_later (reachable_run reached) period.later.trace_suffix unstarted member
    have started := (reachable_run reached).started (split ▸ List.mem_append_right _ List.mem_cons_self)
    obtain rfl := (reachable_run reached).start_unique started (ended_started reached ended)
    obtain ⟨earlier, -, -, -⟩ := done.newest
    have own_later : own rid (middle ++ c.trace) ⊆ own rid c'.trace := by
      rw [← split]
      exact own_older
    have change := Run.change done
    cases change with
    | none unchanged => cases unchanged
    | signUp write vacant found after =>
      cases write with
      | @signUp _ _ _ _ d name ehlo blob decoded valid sealed =>
        obtain ⟨conn', lookup⟩ := decoded.device
        refine ⟨d, name, .byIp (own_later lookup), found_at (reachable_run reached) (own_later lookup),
          decoded.name, fun old present same named => ?_⟩
        obtain ⟨now, there, -, name', -⟩ :=
          run_usersKept earlier middle c.trace c.world rfl (reachable_run period.reached) old present
        exact Table.find_none vacant there (name'.trans named.symm)
  | _ => cases settled

/-- What a request that recovers the access of a device has looked it up by. -/
def Recovers (d : Identity) : Request → Prop
  | .refresh ip _ => d.ipAddress = ip
  | .resign _ body => ∃ token, Hex.decode body.token = some (asBytes token) ∧
      d.deviceToken = some (hashToken token)
  | _ => False

theorem Deleted.recovery (period : Deleted config u c c') (unstarted : Unstarted c.trace rid)
    {req : Request} {r : Reply} (recovers : ∃ ip body, req = .refresh ip body ∨ req = .resign ip body)
    (ended : Ended c' rid req (.ok r)) :
    ∃ d, Looked c'.trace rid d ∧ Recovers d req ∧ d.userId ≠ some u := by
  have reached : (server config).Reachable c' := Machine.Steps.trans period.reached period.later
  have updates : req.updates = true := by
    obtain ⟨ip, body, rfl | rfl⟩ := recovers <;> rfl
  obtain ⟨row, left⟩ := accepted_left reached updates ended
  obtain ⟨newer, older, conn, uuid, changes, now, pre, post, old, split, earlier, -, -, -, write⟩ :=
    left_write reached ended left
  have own_later : own rid older ⊆ own rid c'.trace := by
    rw [split]
    exact own_older
  have other : ∀ {d field user}, KnowsEhlo config (own rid older) d field user → d.userId ≠ some u := by
    intro d field user knows same
    obtain ⟨conn', found, ehlo, member, active, -⟩ := knows.proof
    exact period.byUuid unstarted (own_later member) active
      (Option.some.inj (knows.linked.symm.trans same))
  obtain ⟨ip, body, rfl | rfl⟩ := recovers
  · cases write with
    | @refresh _ _ _ _ d _ _ _ _ device opened holds knows drew =>
      obtain ⟨conn', lookup⟩ := device
      exact ⟨d, .byIp (own_later lookup), found_at (reachable_run reached) (own_later lookup), other knows⟩
  · cases write with
    | @resign _ _ _ _ d token _ _ decoded device knows =>
      obtain ⟨conn', lookup⟩ := device
      exact ⟨d, .byToken (own_later lookup),
        ⟨token, decoded, found_holds (reachable_run reached) (own_later lookup)⟩, other knows⟩

/-! ## Devices of the user -/

/-- Nothing on the way links the device to a user, takes its confirmation away or deletes it. -/
structure LeftAlone (device : String) (c c' : ServerState) : Prop where
  deeds : ∀ later, deeds c'.trace = later ++ deeds c.trace → ∀ x ∈ later,
    x.user device = none ∧ x.confirmed device ≠ some false
  undeleted : ∀ rid req conn count pre post,
    .act rid req (answered conn (.identityDelete device) count) pre post ∈ c'.trace →
    .act rid req (answered conn (.identityDelete device) count) pre post ∈ c.trace

/-- The device is there, as far as `validate_auth` looks at it. -/
structure StillThere (d : Identity) (db : Db) : Prop where
  row : ∃ d' ∈ db.identities, d'.uuid = d.uuid ∧ d'.deviceToken = d.deviceToken ∧
    d'.ipAddress = d.ipAddress ∧ d'.userId = d.userId ∧ (d.isConfirmed = true → d'.isConfirmed = true)

omit [Crypto] [Archive] in
theorem deed_later {middle : Journal} {req : Request} {e : Exchange Action.Answer} {pre post : Db}
    {x : Deed} (inside : .act rid req e pre post :: (middle ++ c.trace) <:+ c'.trace)
    (deed : Deed.ofExchange req (own rid (middle ++ c.trace)) e = some x) :
    ∃ later, deeds c'.trace = later ++ deeds c.trace ∧ x ∈ later := by
  obtain ⟨newest, split⟩ := inside
  obtain ⟨earlier, log⟩ := deeds_append middle c.trace
  obtain ⟨latest, log'⟩ := deeds_append newest (.act rid req e pre post :: (middle ++ c.trace))
  rw [deeds, deed, log] at log'
  refine ⟨latest ++ x :: earlier, ?_, List.mem_append_right _ List.mem_cons_self⟩
  rw [← split, log']
  simp

omit [Archive] in
/-- An update that neither links a device nor takes its confirmation away. -/
theorem update_kinds {req : Request} {h : History Action.Answer} {conn : Conn} {target : String}
    {changes : UpdateIdentity} {now : NaiveDateTime}
    (write : Write config req h (.effect (.sql conn (.identityUpdate target changes now))))
    (unlinked : changes.userId = none) (confirmed : changes.isConfirmed ≠ some false) :
    changes = confirmChanges true ∨ ∃ conn ip seen field userId,
      answered conn (.identityFindByIp ip) (some seen) ∈ h ∧ seen.uuid = target ∧
      KnowsEhlo config h seen field userId := by
  cases write with
  | signIn => cases unlinked
  | refresh device opened holds knows drew =>
    obtain ⟨conn', lookup⟩ := device
    exact .inr ⟨conn', _, _, _, _, lookup, rfl, knows⟩
  | resign => exact absurd rfl confirmed
  | approve => exact .inl rfl
  | @toggleIdentity _ _ _ _ _ b =>
    cases b with
    | true => exact .inl rfl
    | false => exact absurd rfl confirmed

theorem Deleted.devices (period : Deleted config u c c') {d : Identity}
    (member : d ∈ c.world.identities) (linked : d.userId = some u) (alone : LeftAlone d.uuid c c') :
    ∀ middle before, middle ++ c.trace <:+ c'.trace → Run config (middle ++ c.trace) before →
      StillThere d before := by
  refine period.keeps ⟨d, member, rfl, rfl, rfl, rfl, id⟩ fun middle rid req e pre post inside run earlier => ?_
  obtain ⟨before, -, -, -⟩ := run.newest
  obtain ⟨d', present, uuid, token, address, user, confirmed⟩ :=
    (earlier middle pre (List.suffix_refl _) before).row
  have unstarted := period.unstarted inside
  have quiet : ∀ x, Deed.ofExchange req (own rid (middle ++ c.trace)) e = some x →
      x.user d.uuid = none ∧ x.confirmed d.uuid ≠ some false := by
    intro x deed
    obtain ⟨later, log, among⟩ := deed_later inside deed
    exact alone.deeds later log x among
  have stays : ∀ {target : String} {f : Identity → Identity}, target ≠ d.uuid →
      post.identities = Table.update (·.uuid) pre.identities target f → StillThere d post := by
    intro target f other updated
    refine ⟨d', ?_, uuid, token, address, user, confirmed⟩
    rw [updated]
    exact Table.mem_update.mpr (.inr ⟨present, fun same => other (same.symm.trans uuid)⟩)
  have change := Run.change run
  rcases change.identities with same | ⟨conn, new, clock, -, -, created⟩ |
    ⟨conn, t, user', token', clock, now, old, rfl, write, found, -, updated⟩ |
    ⟨conn, target, changes, now, old, rfl, write, found, updated⟩ |
    ⟨conn, target, count, rfl, write, removed⟩
  · exact ⟨d', same ▸ present, uuid, token, address, user, confirmed⟩
  · exact ⟨d', created ▸ List.mem_append_left _ present, uuid, token, address, user, confirmed⟩
  · by_cases here : t.identityUuid = d.uuid
    · have linked := (quiet _ rfl).1
      simp [Deed.user, here] at linked
    · exact stays here updated
  · by_cases here : target = d.uuid
    · obtain ⟨x, deed, fits⟩ := identityUpdate_deed (changes.apply now old) write
      obtain ⟨unlinked, unreset⟩ := quiet x deed
      rw [← here] at unlinked unreset
      rcases update_kinds write (fits.user.trans unlinked) (fits.confirmed ▸ unreset) with rfl |
        ⟨conn', ip, seen, field, userId, lookup, same, knows⟩
      · refine ⟨(confirmChanges true).apply now d', ?_, uuid, token, address, user, fun _ => rfl⟩
        rw [updated]
        exact Table.mem_update.mpr (.inl ⟨d', present, uuid.trans here.symm, rfl⟩)
      · -- A refresh has found the device linked to the user, and the user active.
        obtain ⟨_, pre', _, middle', inside', done⟩ :=
          read_later before (List.suffix_append _ _) unstarted lookup
        obtain ⟨run', clock, answer⟩ := Run.looked rfl done
        obtain ⟨seen', -⟩ := Table.find_some (Except.ok.inj (Prod.mk.inj answer).1)
        obtain ⟨d'', present', uuid', -, -, user', -⟩ :=
          (earlier middle' pre' ((List.suffix_cons _ _).trans inside') run').row
        obtain rfl := Table.key_unique pre'.valid.identityUuid seen' present'
          ((same.trans here).trans uuid'.symm)
        obtain ⟨conn'', owner, ehlo, member', active, -⟩ := knows.proof
        obtain ⟨newest, split⟩ := (List.suffix_cons _ _).trans inside
        have own_later : answered conn'' (.userFindByUuid userId) (some owner) ∈ own rid c'.trace := by
          rw [← split]
          exact own_mono newest member'
        exact absurd (Option.some.inj (knows.linked.symm.trans (user'.trans linked)))
          (period.byUuid unstarted own_later active)
    · exact stays here updated
  · refine ⟨d', ?_, uuid, token, address, user, confirmed⟩
    rw [removed]
    refine List.mem_filter.mpr ⟨present, decide_eq_true fun same => ?_⟩
    obtain rfl : d.uuid = target := uuid.symm.trans same
    exact unstarted _ (alone.undeleted _ _ _ _ _ _ (inside.subset List.mem_cons_self)) rfl

/-! ## Toggles -/

omit [Crypto] [Archive] in
theorem toggleUser_updates {headers : HeaderMap} {addr : IpAddr} {uuid : Uuid} {action : String} :
    Fallible.Spec (fun _ _ => True) (fun _ _ => True)
      (fun h _ => ∃ conn uuid changes now row, answered conn (.userUpdate uuid changes now) row ∈ h)
      [] (toggleUser config headers addr uuid action) := by
  have updates : ∀ isDeleted, Fallible.Spec (fun _ _ => True) (fun _ _ => True)
      (fun h _ => ∃ conn uuid changes now row, answered conn (.userUpdate uuid changes now) row ∈ h) []
      (do
        let conn ← stateConn
        let _ ← okOr (← User.findByUuid conn uuid.toString) (.notFound "user not found")
        let _ ← User.update conn uuid.toString { isDeleted := some isDeleted, extra := none } :
        Handler Unit) := by
    intro isDeleted
    refine Fallible.spec_bind.mpr (spec_stateConn.mpr ⟨trivial, fun pool =>
      ⟨trivial, fun conn => ?_, fun _ => trivial⟩⟩)
    refine spec_statement (fun e => trivial) fun found => ?_
    refine Fallible.spec_bind.mpr (spec_okOr.mpr ⟨fun user present => ?_, fun _ => trivial⟩)
    refine Fallible.spec_bind.mpr (spec_userUpdate.mpr ⟨trivial, fun now =>
      ⟨trivial, fun row => ?_, fun _ => trivial⟩⟩)
    exact ⟨_, _, _, _, _, List.mem_cons_self⟩
  unfold toggleUser
  refine spec_checked ?_
  split
  · exact updates true
  · exact updates false
  · exact Fallible.spec_bind.mpr trivial

omit [Crypto] [Archive] in
theorem deleteWord_injective {a b : Bool} (same : deleteWord a = deleteWord b) : a = b := by
  revert a b
  decide

/-- A toggle that is answered with success has updated a user. -/
def UpdatesUser : Request → History Action.Answer → Result → Prop
  | .adminToggleUser _ _ _ _, h, .ok _ =>
    ∃ conn uuid changes now row, answered conn (.userUpdate uuid changes now) row ∈ h
  | _, _, _ => True

theorem toggled (reached : (server config).Reachable c) {headers : HeaderMap} {addr : IpAddr}
    {uuid : Uuid} {action : String} {r : Reply}
    (alone : Uninterrupted config c c' rid (.adminToggleUser headers addr uuid action) (.ok r)) :
    ∃ isDeleted now, action = deleteWord isDeleted ∧
      deeds c'.trace = .toggle uuid.toString isDeleted :: deeds c.trace ∧
      c'.world.toTables = { c.world.toTables with
        users := Table.update (·.uuid) c.world.users uuid.toString
          (UpdateUser.apply ⟨some isDeleted, none⟩ now) } := by
  have specs : ∀ req, Prog.Spec (fun _ _ => True) (UpdatesUser req) [] (serve config req).run := by
    intro req
    by_cases toggles : ∃ headers addr uuid action, req = .adminToggleUser headers addr uuid action
    · obtain ⟨headers, addr, uuid, action, rfl⟩ := toggles
      have spec : Fallible.Spec (fun _ _ => True) (fun _ _ => True)
          (fun h _ => ∃ conn uuid changes now row, answered conn (.userUpdate uuid changes now) row ∈ h)
          [] (serve config (.adminToggleUser headers addr uuid action)) :=
        Fallible.spec_map.mpr toggleUser_updates
      refine Prog.spec_mono (fun _ _ allowed => allowed) (fun h r met => ?_) spec
      cases r with
      | ok reply => exact met
      | error f => trivial
    · refine Prog.spec_mono (fun _ _ allowed => allowed) (fun h r _ => ?_) (Prog.spec_trivial _)
      cases req with
      | adminToggleUser headers addr uuid action => exact absurd ⟨_, _, _, _, rfl⟩ toggles
      | _ => trivial
  have reached' : (server config).Reachable c' := Machine.Steps.trans reached alone.later
  obtain ⟨conn, target, changes, now, row, member⟩ :=
    ended_meets (fun _ _ _ => True) specs reached' alone.ended
  rcases alone.changed reached with ⟨-, -, unwritten⟩ | ⟨e, h, changed, mine, change, log⟩
  · cases unwritten _ member
  · obtain rfl := (reachable_run reached').write_once mine member (wrote_isWrite changed) rfl
    generalize c.world = pre, c'.world = post at change ⊢
    cases change with
    | none unchanged => cases unchanged
    | userUpdate write found after =>
      cases write with
      | @toggleUser _ _ _ _ _ isDeleted =>
        refine ⟨isDeleted, now, rfl, ?_, after⟩
        rw [log]
        cases isDeleted <;> rfl

/-! ## Freezing and thawing -/

/-- The request comes from a device of the user, or it is about the user's name. -/
inductive ForUser (config : Config) (u : String) (db : Db) : Request → Prop where
  | session {req headers ip token d} (session : req.session = some (headers, ip))
      (header : headers.getStr "device-token" = some token) (member : d ∈ db.identities)
      (holds : d.deviceToken = some (hashToken token)) (linked : d.userId = some u) :
      ForUser config u db req
  | signUp {ip body d user} (member : d ∈ db.identities) (address : d.ipAddress = ip)
      (present : user ∈ db.users) (same : user.uuid = u)
      (name : Opens config d body.name (asBytes user.name)) : ForUser config u db (.signUp ip body)
  | signIn {ip body d user} (member : d ∈ db.identities) (address : d.ipAddress = ip)
      (present : user ∈ db.users) (same : user.uuid = u)
      (name : Opens config d body.name (asBytes user.name)) : ForUser config u db (.signIn ip body)
  | recovery {req d} (kind : ∃ ip body, req = .refresh ip body ∨ req = .resign ip body)
      (member : d ∈ db.identities) (recovers : Recovers d req) (linked : d.userId = some u) :
      ForUser config u db req

/-- From the first state to the second nothing is done for the user. -/
structure Frozen (config : Config) (u : String) (c c' : ServerState) : Prop where
  refused : ∀ c₁ c₂ rid req r, (server config).Steps c c₁ → Uninterrupted config c₁ c₂ rid req r →
    (server config).Steps c₂ c' → ForUser config u c₁.world req → ∃ f, r = .error f
  user : ∀ c₁, (server config).Steps c c₁ → (server config).Steps c₁ c' →
    ∀ user ∈ c.world.users, user.uuid = u → ∃ now ∈ c₁.world.users,
      now.uuid = u ∧ now.name = user.name ∧ now.ehloSecret = user.ehloSecret
  rows : ∀ c₁, (server config).Steps c c₁ → (server config).Steps c₁ c' → RowsKept u c.world c₁.world

omit [Archive] in
theorem opens_unique {d : Identity} {field a b : String} (one : Opens config d field (asBytes a))
    (two : Opens config d field (asBytes b)) : a = b :=
  asBytes_injective (one.unique two)

theorem deeds_later (later : (server config).Steps c c') :
    ∃ done, deeds c'.trace = done ++ deeds c.trace := by
  obtain ⟨newer, split⟩ := later.trace_suffix
  obtain ⟨done, log⟩ := deeds_append newer c.trace
  exact ⟨done, split ▸ log⟩

theorem Deleted.within (period : Deleted config u c c') (first : (server config).Steps c c₁)
    {req : Request} {r : Result} (alone : Uninterrupted config c₁ c₂ rid req r)
    (rest : (server config).Steps c₂ c') : Deleted config u c₁ c₂ := by
  obtain ⟨before, log⟩ := deeds_later first
  obtain ⟨during, log'⟩ := deeds_later alone.later
  obtain ⟨after, log''⟩ := deeds_later rest
  have unrestored : .toggle u false ∉ after ++ during ++ before :=
    period.unrestored _ (by rw [log'', log', log, List.append_assoc, List.append_assoc])
  refine ⟨⟨Machine.Steps.trans period.reached first, alone.later, alone.whole⟩, ?_, ?_⟩
  · rw [log]
    exact lastDeleted_stays period.deleted fun here => unrestored (List.mem_append_right _ here)
  · intro done split here
    obtain rfl := List.append_cancel_right (log'.symm.trans split)
    exact unrestored (List.mem_append_left _ (List.mem_append_right _ here))

theorem Deleted.refused (period : Deleted config u c c') {req : Request} {r : Result}
    (alone : Uninterrupted config c c' rid req r) (forUser : ForUser config u c.world req) :
    ∃ f, r = .error f := by
  cases r with
  | error f => exact ⟨f, rfl⟩
  | ok reply =>
    have unstarted := alone.unstarted
    have ended := alone.ended
    cases forUser with
    | @session _ headers ip token d session header member holds linked =>
      obtain ⟨token', d', header', looked, holds', other⟩ := period.session unstarted session ended
      obtain rfl := Option.some.inj (header.symm.trans header')
      have device : req.fromDevice = true := by cases req <;> first | rfl | cases session
      have present := alone.looked period.reached device looked
      obtain rfl := Table.column_unique c.world.valid.identityToken member present holds holds'
      exact absurd linked other
    | @signUp ip body d user member address present same name =>
      obtain ⟨d', name', looked, address', opened, other⟩ := period.signUp unstarted ended
      have there := alone.looked period.reached rfl looked
      obtain rfl := Table.key_unique c.world.valid.identityIp member there (address.trans address'.symm)
      exact absurd (opens_unique opened name) (other user present same)
    | @signIn ip body d user member address present same name =>
      obtain ⟨d', name', looked, address', opened, other⟩ := period.signIn unstarted ended
      have there := alone.looked period.reached rfl looked
      obtain rfl := Table.key_unique c.world.valid.identityIp member there (address.trans address'.symm)
      exact absurd (opens_unique opened name) (other user present same)
    | @recovery _ d kind member recovers linked =>
      obtain ⟨d', looked, recovers', other⟩ := period.recovery unstarted kind ended
      obtain ⟨ip, body, rfl | rfl⟩ := kind
      · have there := alone.looked period.reached rfl looked
        obtain rfl := Table.key_unique c.world.valid.identityIp member there (recovers.trans recovers'.symm)
        exact absurd linked other
      · have there := alone.looked period.reached rfl looked
        obtain ⟨token, decoded, holds⟩ := recovers
        obtain ⟨token', decoded', holds'⟩ := recovers'
        obtain rfl := asBytes_injective (Option.some.inj (decoded.symm.trans decoded'))
        obtain rfl := Table.column_unique c.world.valid.identityToken member there holds holds'
        exact absurd linked other

theorem Deleted.frozen (period : Deleted config u c c') : Frozen config u c c' := by
  have between : ∀ {c₁}, (server config).Steps c c₁ → (server config).Steps c₁ c' →
      ∃ middle, middle ++ c.trace = c₁.trace ∧ middle ++ c.trace <:+ c'.trace ∧
        Run config (middle ++ c.trace) c₁.world := by
    intro c₁ first rest
    obtain ⟨middle, split⟩ := first.trace_suffix
    refine ⟨middle, split, split ▸ rest.trace_suffix, ?_⟩
    rw [split]
    exact reachable_run (Machine.Steps.trans period.reached first)
  constructor
  · intro c₁ c₂ rid req r first alone rest forUser
    exact (period.within first alone rest).refused alone forUser
  · rintro c₁ first rest user member rfl
    obtain ⟨middle, split, -, run⟩ := between first rest
    obtain ⟨now, present, same, name, secret⟩ :=
      run_usersKept run middle c.trace c.world rfl (reachable_run period.reached) user member
    exact ⟨now, present, same, name, secret⟩
  · intro c₁ first rest
    obtain ⟨middle, -, inside, run⟩ := between first rest
    exact period.untouched middle _ inside run

/-- A device that had access when the user was deleted has access again, to the same token and
address, once the user is restored. -/
def Thawed (u : String) (b c₀ c c' : ServerState) : Prop :=
  ∀ moments headers ip d, Serving moments b.world b.world → authenticate moments headers ip = .ok d →
    d.userId = some u → LeftAlone d.uuid c₀ c → ∀ moments', Serving moments' c'.world c'.world →
      ∃ d', authenticate moments' headers ip = .ok d' ∧ d'.uuid = d.uuid

/-- From the delete of a user to its restore nothing is done for the user, and after it the devices
of the user have access as before. -/
theorem delete_freezes {b : ServerState} {rid : Nat} {headers : HeaderMap} {addr : IpAddr}
    {uuid : Uuid} {r : Reply} (reached : (server config).Reachable b)
    (deleted : Uninterrupted config b c rid (.adminToggleUser headers addr uuid "delete") (.ok r))
    (later : (server config).Steps c c') (whole : Whole c c')
    (unrestored : ∀ done, deeds c'.trace = done ++ deeds c.trace → .toggle uuid.toString false ∉ done) :
    Frozen config uuid.toString c c' ∧
      ∀ c'' rid' headers' addr' r',
        Uninterrupted config c' c'' rid' (.adminToggleUser headers' addr' uuid "restore") (.ok r') →
          Thawed uuid.toString b c c' c'' := by
  have reached' : (server config).Reachable c := Machine.Steps.trans reached deleted.later
  obtain ⟨isDeleted, now, word, log, world⟩ := toggled reached deleted
  obtain rfl : true = isDeleted := deleteWord_injective word
  have period : Deleted config uuid.toString c c' := by
    refine ⟨⟨reached', later, whole⟩, ?_, unrestored⟩
    rw [log, lastDeleted, List.findSome?_cons]
    simp [Deed.deleted]
  refine ⟨period.frozen, ?_⟩
  intro c'' rid' headers' addr' r' restored moments headers ip d serving accepted linked alone moments'
    serving'
  have reached'' : (server config).Reachable c' := Machine.Steps.trans reached' later
  obtain ⟨isDeleted, now', word', -, world'⟩ := toggled reached'' restored
  obtain rfl : false = isDeleted := deleteWord_injective word'
  obtain ⟨token, user, header, found, address, confirmed, linked', found', -⟩ :=
    (authenticate_ok serving).mp accepted
  obtain ⟨device, holds⟩ := Table.find_some found
  obtain ⟨newer, split⟩ := later.trace_suffix
  have run := reachable_run reached''
  obtain ⟨d', present, uuid', token', address', user', confirmed'⟩ :=
    (period.devices (by rwa [world]) linked alone newer c'.world
      ⟨[], split⟩ (by rwa [split])).row
  -- The user's row is still there, and the restore takes the flag away.
  obtain ⟨newer', split'⟩ := (deleted.later.trans later).trace_suffix
  obtain ⟨owner, there, same, -⟩ :=
    run_usersKept run newer' b.trace b.world split'.symm (reachable_run reached) user (Table.find_some found').1
  have target : owner.uuid = uuid.toString := same.trans (Option.some.inj (linked'.symm.trans linked))
  have active : UpdateUser.apply ⟨some false, none⟩ now' owner ∈ c''.world.users := by
    rw [world']
    exact Table.mem_update.mpr (.inl ⟨owner, there, target, rfl⟩)
  refine ⟨d', (authenticate_ok serving').mpr ⟨token, UpdateUser.apply ⟨some false, none⟩ now' owner, header,
    ?_, address'.trans address, confirmed' confirmed, ?_, ?_, rfl⟩, uuid'⟩
  · refine Table.find_column c''.world.valid.identityToken ?_ (token'.trans holds)
    rw [world']
    exact present
  · exact (user'.trans linked).trans (congrArg some target.symm)
  · exact (Table.find_eq_some_iff c''.world.valid.userUuid).mpr ⟨active, rfl⟩

/-! ## A user that is deleted and restored -/

def aliceUuid : Uuid := numbered 1066

def deletedRun : ServerState :=
  letI := plainCrypto
  letI := plainArchive
  (server plainConfig).play (alone 8 7 (.adminToggleUser adminHeaders localhost aliceUuid "delete")) deviceRun

def frozenRun : ServerState :=
  letI := plainCrypto
  letI := plainArchive
  (server plainConfig).play (alone 9 11 (.verify deviceHeaders deviceIp)) deletedRun

def restoredRun : ServerState :=
  letI := plainCrypto
  letI := plainArchive
  (server plainConfig).play (alone 10 7 (.adminToggleUser adminHeaders localhost aliceUuid "restore"))
    frozenRun

def refuses : Result → Bool
  | .ok _ => false
  | .error _ => true

def deletesDevice : Event Action.Answer Request Result Db → Bool
  | .act _ _ ⟨.effect (.sql _ (.identityDelete _)), _⟩ _ _ => true
  | _ => false

/-- What the example needs to know about its states. -/
structure DeletedAndRestored : Prop where
  unstarted : ∀ e ∈ deviceRun.trace, e.rid < 8
  unstarted' : ∀ e ∈ deletedRun.trace, e.rid < 9
  unstarted'' : ∀ e ∈ frozenRun.trace, e.rid < 10
  deleted : deletedRun.trace.head?.any (replies 8
    (.adminToggleUser adminHeaders localhost aliceUuid "delete") accepts)
  refused : frozenRun.trace.head?.any (replies 9 (.verify deviceHeaders deviceIp) refuses)
  restored : restoredRun.trace.head?.any (replies 10
    (.adminToggleUser adminHeaders localhost aliceUuid "restore") accepts)
  quiet : deeds frozenRun.trace = deeds deletedRun.trace
  undeleted : frozenRun.trace.any deletesDevice = false
  user : deviceRun.world.users.all fun user => user.uuid = aliceUuid.toString

instance : Decidable DeletedAndRestored :=
  decidable_of_iff (_ ∧ _ ∧ _ ∧ _ ∧ _ ∧ _ ∧ _ ∧ _ ∧ _)
    ⟨fun ⟨a, b, c, d, e, f, g, h, i⟩ => ⟨a, b, c, d, e, f, g, h, i⟩,
      fun ⟨a, b, c, d, e, f, g, h, i⟩ => ⟨a, b, c, d, e, f, g, h, i⟩⟩

omit [Crypto] [Archive] in
theorem deletedAndRestored_checked : DeletedAndRestored := by
  decide +kernel

omit [Crypto] [Archive] in
/-- The device of the example is refused while its user is deleted, and has access again later. -/
theorem delete_freezes_device :
    letI := plainCrypto
    letI := plainArchive
    Frozen plainConfig aliceUuid.toString deletedRun frozenRun ∧
      ∃ d, authenticate (fun _ => ({}, restoredRun.world)) deviceHeaders deviceIp = .ok d := by
  let _ := plainCrypto
  let _ := plainArchive
  have checked := deletedAndRestored_checked
  have unused : ∀ {c : ServerState} {n : Nat}, (∀ e ∈ c.trace, e.rid < n) → Unstarted c.trace n :=
    fun early e member => Nat.ne_of_lt (early e member)
  obtain ⟨r, deleted, ok⟩ := uninterrupted_of_play (unused checked.unstarted) checked.deleted
  obtain ⟨r', verified, -⟩ := uninterrupted_of_play (unused checked.unstarted') checked.refused
  obtain ⟨r'', restored, ok'⟩ := uninterrupted_of_play (unused checked.unstarted'') checked.restored
  cases r with
  | error f => cases ok
  | ok reply =>
  cases r'' with
  | error f => cases ok'
  | ok reply' =>
  have unrestored : ∀ done, deeds frozenRun.trace = done ++ deeds deletedRun.trace → done = [] := by
    intro done split
    rw [checked.quiet] at split
    exact (List.append_cancel_right ((List.nil_append _).trans split)).symm
  have quiet : ∀ done, deeds frozenRun.trace = done ++ deeds deletedRun.trace →
      .toggle aliceUuid.toString false ∉ done := by
    intro done split
    rw [unrestored done split]
    exact List.not_mem_nil
  obtain ⟨frozen, thaws⟩ := delete_freezes deviceRun_reachable deleted verified.later verified.whole quiet
  refine ⟨frozen, ?_⟩
  have serving : ∀ db, Serving (fun _ => ({}, db)) db db :=
    fun db => ⟨⟨⟨0⟩, rfl⟩, ⟨rfl, rfl⟩, rfl, rfl⟩
  obtain ⟨d, device, user, owner, uses⟩ := deviceRun_inUse
  have alice : user.uuid = aliceUuid.toString := by simpa using List.all_eq_true.mp checked.user user owner
  have header : HeaderMap.getStr deviceHeaders "device-token" = some (numbered 2064).toString := by
    decide +kernel
  have access : authenticate (fun _ => ({}, deviceRun.world)) deviceHeaders deviceIp = .ok d := by
    refine (authenticate_ok (serving _)).mpr ⟨_, user, header, ?_, uses.address, uses.confirmed,
      uses.linked, ?_, uses.active⟩
    · exact Table.find_column deviceRun.world.valid.identityToken device uses.token
    · exact (Table.find_eq_some_iff deviceRun.world.valid.userUuid).mpr ⟨owner, rfl⟩
  have alone : LeftAlone d.uuid deletedRun frozenRun := by
    constructor
    · intro done split x member
      rw [unrestored done split] at member
      cases member
    · intro rid req conn count pre post member
      have found := List.any_eq_false.mp checked.undeleted _ member
      exact absurd rfl found
  obtain ⟨d', again, -⟩ := thaws _ _ _ _ _ restored _ _ _ d (serving _) access
    (uses.linked.trans (congrArg some alice)) alone _ (serving _)
  exact ⟨d', again⟩

end PasswordManager
