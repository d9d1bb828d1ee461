import PasswordManager.Security.Deeds
import PasswordManager.Server.Authenticate
import PasswordManager.Server.Plain

/-!
# Authorization provenance

`validate_auth` accepts a token exactly when the log of deeds says so: the columns that it
checks are what the last deeds made them.
-/

namespace PasswordManager
open Interaction

variable [Crypto] {tr : Journal} {db : Db}

/-! ## Marked devices -/

/-- The columns that decide about the access of a device are what the last deeds made them. -/
structure Marked (log : List Deed) (d : Identity) : Prop where
  token : d.deviceToken = (lastToken log d.uuid).map hashToken
  user : d.userId = lastUser log d.uuid
  address : lastAddress log d.uuid = some d.ipAddress
  confirmed : d.isConfirmed = (lastConfirmed log d.uuid).getD false

/-- No deed of the log is about the device. -/
def Untouched (log : List Deed) (uuid : String) : Prop := ∀ x ∈ log, x.device ≠ some uuid

section
variable {log log' : List Deed} {d : Identity} {uuid : String}

omit [Crypto] in
theorem Untouched.unmarked (untouched : Untouched log uuid) {α : Type} {mark : Deed → Option α}
    (device : ∀ x b, mark x = some b → x.device = some uuid) : log.findSome? mark = none := by
  refine List.findSome?_eq_none_iff.mpr fun x member => ?_
  refine Option.eq_none_iff_forall_ne_some.mpr fun b marked => ?_
  exact untouched x member (device x b marked)

theorem Marked.other (marked : Marked log d) (untouched : Untouched log' d.uuid) :
    Marked (log' ++ log) d := by
  constructor
  · rw [lastToken, List.findSome?_append, untouched.unmarked fun x b found => (Deed.token_device found).1]
    exact marked.token
  · rw [lastUser, List.findSome?_append, untouched.unmarked fun x b => Deed.user_device]
    exact marked.user
  · rw [lastAddress, List.findSome?_append, untouched.unmarked fun x b => Deed.address_device]
    exact marked.address
  · rw [lastConfirmed, List.findSome?_append, untouched.unmarked fun x b => Deed.confirmed_device]
    exact marked.confirmed

theorem Marked.linked (marked : Marked log d) {user : String} (linked : d.userId = some user) :
    ∃ token, d.deviceToken = some (hashToken token) := by
  obtain ⟨x, member, link⟩ := List.exists_of_findSome?_eq_some (marked.user.symm.trans linked)
  have given : (lastToken log d.uuid).isSome :=
    List.findSome?_isSome_iff.mpr ⟨x, member, Deed.user_token (Option.isSome_of_eq_some link)⟩
  obtain ⟨token, last⟩ := Option.isSome_iff_exists.mp given
  exact ⟨token, by rw [marked.token, last]; rfl⟩

theorem Marked.last (marked : Marked log d) (injective : HashInjective) {token : String}
    (holds : d.deviceToken = some (hashToken token)) : lastToken log d.uuid = some token := by
  obtain ⟨other, last, same⟩ := Option.map_eq_some_iff.mp (marked.token.symm.trans holds)
  rw [last, injective same]

theorem Marked.created (untouched : Untouched log d.uuid) (token : d.deviceToken = none)
    (user : d.userId = none) (confirmed : d.isConfirmed = false) :
    Marked (.greet d.uuid d.ipAddress :: log) d := by
  constructor
  · rw [lastToken, List.findSome?_cons, untouched.unmarked fun x b found => (Deed.token_device found).1]
    exact token
  · rw [lastUser, List.findSome?_cons, untouched.unmarked fun x b => Deed.user_device]
    exact user
  · simp [lastAddress, Deed.address]
  · rw [lastConfirmed, List.findSome?_cons, untouched.unmarked fun x b => Deed.confirmed_device]
    exact confirmed

theorem Marked.apply {x : Deed} {changes : UpdateIdentity} {now : NaiveDateTime}
    (marked : Marked log d) (fits : Fits x d.uuid changes) :
    Marked (x :: log) (changes.apply now d) := by
  constructor
  · show changes.deviceToken.or d.deviceToken = (lastToken (x :: log) d.uuid).map hashToken
    rw [lastToken, List.findSome?_cons, fits.token, marked.token]
    cases x.token d.uuid <;> rfl
  · show changes.userId.or d.userId = lastUser (x :: log) d.uuid
    rw [lastUser, List.findSome?_cons, fits.user, marked.user]
    cases x.user d.uuid <;> rfl
  · show lastAddress (x :: log) d.uuid = some (changes.ipAddress.getD d.ipAddress)
    rw [lastAddress, List.findSome?_cons, fits.address]
    cases x.address d.uuid with
    | none => exact marked.address
    | some ip => rfl
  · show changes.isConfirmed.getD d.isConfirmed = (lastConfirmed (x :: log) d.uuid).getD false
    rw [lastConfirmed, List.findSome?_cons, fits.confirmed, marked.confirmed]
    cases x.confirmed d.uuid <;> rfl

end

variable [Archive] {config : Config}

/-- Every deed is about a device that a greet request created. -/
theorem deed_born (run : Run config tr db) {x : Deed} (member : x ∈ deeds tr) {uuid : String}
    (device : x.device = some uuid) : ∃ rid row, Born tr rid row ∧ row.uuid = uuid := by
  induction run using Run.induction with
  | nil => cases member
  | start tr db rid req before run ih | reply tr db rid req res before run ih =>
    obtain ⟨rid, row, born, same⟩ := ih member
    exact ⟨rid, row, born.cons, same⟩
  | act tr rid req e pre post before run change ih =>
    rcases List.mem_append.mp member with done | earlier
    · have deed := Option.mem_toList.mp done
      rcases change_devices change with ⟨other, -⟩ |
        ⟨ip, body, conn, new, d, rfl, rfl, deed', -⟩ | ⟨y, _, _, _, deed', fits, ⟨old, present, rfl⟩, -⟩
      · cases (other x deed).symm.trans device
      · cases deed.symm.trans deed'
        cases device
        exact ⟨rid, d, ⟨ip, body, conn, new, pre, post, List.mem_cons_self⟩, rfl⟩
      · cases deed.symm.trans deed'
        cases fits.device.symm.trans device
        obtain ⟨rid, row, born, same⟩ := run_born before old present
        exact ⟨rid, row, born.cons, same.uuid.symm⟩
    · obtain ⟨rid, row, born, same⟩ := ih earlier
      exact ⟨rid, row, born.cons, same⟩

theorem created_new {rid : Nat} {req : Request} {conn : Conn} {new : NewIdentity} {row : Identity}
    {pre post : Db}
    (run : Run config (.act rid req (answered conn (.identityCreate new) row) pre post :: tr) db)
    (fresh : Fresh tr) : Untouched (deeds tr) row.uuid := by
  intro x member device
  obtain ⟨before, justified, -, -⟩ := run.newest
  obtain ⟨quiet, write⟩ := justified.write rfl
  obtain ⟨rid', row', born, same⟩ := deed_born before member device
  have change := run.change
  cases change with
  | none unchanged => cases unchanged
  | identityCreate write after =>
    cases write with
    | @greet _ _ _ _ _ _ u _ decoded size drew sealed =>
      obtain ⟨v, named, drew'⟩ := born_drew before born
      obtain rfl := fresh.draw_unique drew' (drawn_mem drew) (named.symm.trans same)
      obtain ⟨ip, body, conn, new, pre, post, member⟩ := born
      cases quiet _ (mem_own.mpr ⟨_, _, _, member⟩)

theorem run_marked (run : Run config tr db) (fresh : Fresh tr) :
    ∀ d ∈ db.identities, Marked (deeds tr) d := by
  induction run using Run.induction with
  | nil => nofun
  | start tr db rid req before run ih | reply tr db rid req res before run ih => exact ih fresh
  | act tr rid req e pre post before run change ih =>
    have before_fresh : Fresh tr := Fresh.suffix [_] fresh
    have marked := ih before_fresh
    intro d member
    rcases change_devices change with ⟨other, devices⟩ |
      ⟨ip, body, conn, new, row, rfl, rfl, deed, token, user, confirmed, created⟩ |
      ⟨x, uuid, changes, now, deed, fits, -, updated⟩
    · refine (marked d (devices d member)).other fun x done same => ?_
      cases (other x (Option.mem_toList.mp done)).symm.trans same
    · have new_row : Untouched (deeds tr) row.uuid := created_new run before_fresh
      rw [deeds, deed]
      rw [created] at member
      rcases List.mem_append.mp member with present | here
      · refine (marked d present).other fun x done same => ?_
        obtain rfl := List.mem_singleton.mp done
        have unique := post.valid.identityUuid
        rw [created, List.map_append] at unique
        exact List.disjoint_of_nodup_append unique (List.mem_map_of_mem present)
          (List.mem_singleton.mpr (Option.some.inj same).symm)
      · obtain rfl := List.mem_singleton.mp here
        exact .created new_row token user confirmed
    · rw [deeds, deed]
      rw [updated] at member
      rcases Table.mem_update.mp member with ⟨old, present, rfl, rfl⟩ | ⟨present, apart⟩
      · exact (marked old present).apply fits
      · refine (marked d present).other fun y done same => apart ?_
        obtain rfl := List.mem_singleton.mp done
        exact Option.some.inj (same.symm.trans fits.device)

theorem run_toggled (run : Run config tr db) :
    (∀ u b, .toggle u b ∈ deeds tr → u ∈ db.users.map (·.uuid)) ∧
      ∀ u ∈ db.users, u.isDeleted = (lastDeleted (deeds tr) u.uuid).getD false := by
  induction run using Run.induction with
  | nil => exact ⟨nofun, nofun⟩
  | start tr db rid req before run ih | reply tr db rid req res before run ih => exact ih
  | act tr rid req e pre post before run change ih =>
    obtain ⟨known, deleted⟩ := ih
    have kept : ∀ u, u ∈ pre.users.map (·.uuid) → u ∈ post.users.map (·.uuid) := by
      intro u member
      obtain ⟨old, present, rfl⟩ := List.mem_map.mp member
      obtain ⟨row, present, same, -⟩ := change_usersKept change old present
      exact List.mem_map.mpr ⟨row, present, same⟩
    rcases change_toggles change with ⟨other, users⟩ |
      ⟨uuid, changes, now, isDeleted, deed, writes, ⟨old, present, same⟩, updated⟩
    · constructor
      · intro u b member
        rcases List.mem_append.mp member with done | earlier
        · have := other _ (Option.mem_toList.mp done) u
          simp [Deed.deleted] at this
        · exact kept u (known u b earlier)
      · intro u member
        rw [lastDeleted, findSome?_deeds,
          Option.bind_eq_none_iff.mpr fun x done => other x done u.uuid]
        rcases users u member with present | ⟨new, active⟩
        · exact deleted u present
        · rw [active, Option.none_or, List.findSome?_eq_none_iff.mpr]
          · rfl
          · intro x done
            refine Option.eq_none_iff_forall_ne_some.mpr fun b toggled => new ?_
            exact known u.uuid b (Deed.deleted_toggle toggled ▸ done)
    · constructor
      · intro u b member
        rcases List.mem_append.mp member with done | earlier
        · cases deed.symm.trans (Option.mem_toList.mp done)
          exact kept _ (List.mem_map.mpr ⟨old, present, same⟩)
        · exact kept u (known u b earlier)
      · intro u member
        rw [updated] at member
        rw [lastDeleted, findSome?_deeds, deed]
        rcases Table.mem_update.mp member with ⟨old, present, rfl, rfl⟩ | ⟨present, apart⟩
        · simp [UpdateUser.apply, writes, Deed.deleted]
        · simp only [Option.bind_some, Deed.deleted, if_neg (Ne.symm apart), Option.none_or]
          exact deleted u present

/-! ## Tokens -/

/-- The tokens that the log hands out. -/
def tokens (log : List Deed) : List String := log.filterMap Deed.issued

omit [Crypto] [Archive] in
theorem issued_drawn (rid : Nat) {req : Request} {h : History Action.Answer}
    {e : Exchange Action.Answer} (pre post : Db) {x : Deed} {token : String}
    (deed : Deed.ofExchange req h e = some x) (issued : x.issued = some token) :
    e.action.isWrite = true ∧
      (token ∈ uuids (.act rid req e pre post) ∨ ∃ u, drewUuid u ∈ h ∧ Uuid.toString u = token) := by
  unfold Deed.ofExchange at deed
  split at deed
  · cases deed
    cases issued
    exact ⟨rfl, .inl (by simp [uuids])⟩
  · unfold Deed.ofStatement at deed
    split at deed
    · cases deed
      cases issued
    · obtain ⟨user, -, rfl⟩ := Option.map_eq_some_iff.mp deed
      cases issued
      exact ⟨rfl, .inr ⟨_, drawn_mem ‹_›, rfl⟩⟩
    · cases deed
      cases issued
      exact ⟨rfl, .inr ⟨_, drawn_mem ‹_›, rfl⟩⟩
    all_goals
      cases deed
      try cases issued
  · cases deed

theorem token_issuer (run : Run config tr db) {token : String} (member : token ∈ tokens (deeds tr)) :
    ∃ rid req e pre post, .act rid req e pre post ∈ tr ∧
      token ∈ uuids (.act rid req e pre post) ∧ ∃ w ∈ own rid tr, w.action.isWrite = true := by
  have later : ∀ {a : Event Action.Answer Request Result Db} {tr : Journal},
      (∃ rid req e pre post, .act rid req e pre post ∈ tr ∧
        token ∈ uuids (.act rid req e pre post) ∧ ∃ w ∈ own rid tr, w.action.isWrite = true) →
      ∃ rid req e pre post, .act rid req e pre post ∈ a :: tr ∧
        token ∈ uuids (.act rid req e pre post) ∧ ∃ w ∈ own rid (a :: tr), w.action.isWrite = true := by
    rintro a tr ⟨rid, req, e, pre, post, present, generated, w, own, writes⟩
    exact ⟨rid, req, e, pre, post, List.mem_cons_of_mem _ present, generated, w,
      own_mono [a] own, writes⟩
  induction run using Run.induction with
  | nil => cases member
  | start tr db rid req before run ih | reply tr db rid req res before run ih => exact later (ih member)
  | act tr rid req e pre post before run change ih =>
    obtain ⟨x, done, issued⟩ := List.mem_filterMap.mp member
    rcases List.mem_append.mp done with now | earlier
    · obtain ⟨writes, generated⟩ := issued_drawn rid pre post
        (Option.mem_toList.mp now) issued
      have newest : e ∈ own rid (.act rid req e pre post :: tr) := by
        rw [own_act_same]
        exact List.mem_cons_self
      rcases generated with here | ⟨u, drew, rfl⟩
      · exact ⟨rid, req, e, pre, post, List.mem_cons_self, here, e, newest, writes⟩
      · obtain ⟨req', pre', post', drew⟩ := mem_own.mp drew
        exact ⟨rid, req', drewUuid u, pre', post', List.mem_cons_of_mem _ drew, by simp [uuids], e,
          newest, writes⟩
    · exact later (ih (List.mem_filterMap.mpr ⟨x, earlier, issued⟩))

theorem run_tokens (run : Run config tr db) (fresh : Fresh tr) : (tokens (deeds tr)).Nodup := by
  induction run using Run.induction with
  | nil => exact List.nodup_nil
  | start tr db rid req before run ih | reply tr db rid req res before run ih => exact ih fresh
  | act tr rid req e pre post before run change ih =>
    have earlier := ih (Fresh.suffix [_] fresh)
    show (((Deed.ofExchange req (own rid tr) e).toList ++ deeds tr).filterMap Deed.issued).Nodup
    cases deed : Deed.ofExchange req (own rid tr) e with
    | none => exact earlier
    | some x =>
      cases issued : x.issued with
      | none => simpa [tokens, issued] using earlier
      | some token =>
        simp only [Option.toList_some, List.singleton_append, List.filterMap_cons, issued]
        refine List.nodup_cons.mpr ⟨fun old => ?_, earlier⟩
        obtain ⟨rid', req', e', pre', post', present, generated, w, mine, writes⟩ := token_issuer before old
        obtain ⟨writing, generated'⟩ := issued_drawn rid pre post deed issued
        rcases generated' with here | ⟨u, drew, rfl⟩
        · exact List.disjoint_of_nodup_append fresh here (List.mem_flatMap.mpr ⟨_, present, generated⟩)
        · obtain ⟨req'', pre'', post'', drew⟩ := mem_own.mp drew
          have same := (Fresh.suffix [_] fresh).event_unique _ present drew generated (by simp [uuids])
          cases same
          cases (run.newest.2.1.write writing).1 w mine ▸ writes

/-! ## Access -/

/-- What the log says, at the moments of the two lookups, about a device that has access. -/
structure Granted (lookup later : ServerState) (token ip : String) (d : Identity) : Prop where
  device : d ∈ lookup.world.identities
  token : lastToken (deeds lookup.trace) d.uuid = some token
  address : d.ipAddress = ip ∧ lastAddress (deeds lookup.trace) d.uuid = some ip
  confirmed : lastConfirmed (deeds lookup.trace) d.uuid = some true
  user : ∃ user ∈ later.world.users, lastUser (deeds lookup.trace) d.uuid = some user.uuid ∧
    lastDeleted (deeds later.trace) user.uuid ≠ some true

theorem granted_iff (injective : HashInjective) {lookup later : ServerState}
    (run : Run config lookup.trace lookup.world) (run' : Run config later.trace later.world)
    (fresh : Fresh lookup.trace) {moments : Nat → Choice × Db}
    (serving : Serving moments lookup.world later.world) (headers : HeaderMap) (ip : String)
    (d : Identity) :
    authenticate moments headers ip = .ok d ↔
      ∃ token, headers.getStr "device-token" = some token ∧ Granted lookup later token ip d := by
  have toggled := (run_toggled run').2
  rw [authenticate_ok serving]
  constructor
  · rintro ⟨token, user, header, found, address, confirmed, linked, found', active⟩
    obtain ⟨device, hash⟩ := Table.find_some found
    obtain ⟨present, -⟩ := Table.find_some found'
    have marked := run_marked run fresh d device
    refine ⟨token, header, device, ?_, ⟨address, address ▸ marked.address⟩, ?_, user, present,
      marked.user.symm.trans linked, ?_⟩
    · exact marked.last injective hash
    · have last := marked.confirmed.symm.trans confirmed
      cases found : lastConfirmed (deeds lookup.trace) d.uuid with
      | none => simp [found] at last
      | some b => simpa [found] using last
    · intro deleted
      have := toggled user present
      simp [deleted, active] at this
  · rintro ⟨token, header, device, last, ⟨address, -⟩, confirmed, user, present, linked, active⟩
    have marked := run_marked run fresh d device
    refine ⟨token, user, header, ?_, address, ?_, marked.user.trans linked, ?_, ?_⟩
    · refine Table.find_column lookup.world.valid.identityToken device ?_
      rw [marked.token, last]
      rfl
    · rw [marked.confirmed, confirmed]
      rfl
    · exact (Table.find_eq_some_iff later.world.valid.userUuid).mpr ⟨present, rfl⟩
    · rw [toggled user present]
      cases deleted : lastDeleted (deeds later.trace) user.uuid with
      | none => rfl
      | some b =>
        cases b with
        | true => exact absurd deleted active
        | false => rfl

omit [Crypto] [Archive] in
/-- A token that another one has replaced is never the last token again. -/
theorem replaced_never_last {newer older : List Deed} {x y : Deed} {device device' token : String}
    (unique : (tokens (newer ++ x :: older)).Nodup) (member : y ∈ older)
    (wrote : y.token device = some token) (replaced : (x.token device).isSome) :
    lastToken (newer ++ x :: older) device' ≠ some token := by
  intro last
  obtain ⟨here, issued⟩ := Deed.token_device wrote
  obtain ⟨z, present, marked⟩ := List.exists_of_findSome?_eq_some last
  obtain ⟨there, issued'⟩ := Deed.token_device marked
  obtain rfl := Table.column_unique unique present
    (List.mem_append_right _ (List.mem_cons_of_mem _ member)) issued' issued
  obtain rfl : device = device' := Option.some.inj (here.symm.trans there)
  -- The last token of the device comes from `x` or from a later deed, so it is there twice.
  rw [lastToken, List.append_cons, List.findSome?_append] at last
  rw [List.append_cons, tokens, List.filterMap_append] at unique
  obtain ⟨other, recent⟩ : ∃ other, (newer ++ [x]).findSome? (Deed.token device) = some other := by
    refine Option.isSome_iff_exists.mp (List.findSome?_isSome_iff.mpr ⟨x, ?_, replaced⟩)
    exact List.mem_append_right _ (List.mem_singleton.mpr rfl)
  rw [recent, Option.some_or] at last
  obtain rfl := Option.some.inj last
  obtain ⟨w, early, again⟩ := List.exists_of_findSome?_eq_some recent
  exact List.disjoint_of_nodup_append unique
    (List.mem_filterMap.mpr ⟨w, early, (Deed.token_device again).2⟩)
    (List.mem_filterMap.mpr ⟨_, member, issued⟩)

theorem token_gone (injective : HashInjective) (run : Run config tr db) (fresh : Fresh tr)
    {newer older : List Deed} {x y : Deed} {device token : String}
    (split : deeds tr = newer ++ x :: older) (given : y ∈ older)
    (wrote : y.token device = some token) (replaced : (x.token device).isSome) :
    ∀ d ∈ db.identities, d.deviceToken ≠ some (hashToken token) := by
  intro d member holds
  have last := (run_marked run fresh d member).last injective holds
  have unique := run_tokens run fresh
  rw [split] at last unique
  exact replaced_never_last unique given wrote replaced last

omit [Crypto] [Archive] in
/-- A confirmed device was confirmed after the last deed that took the confirmation away. -/
theorem confirmed_after {newer older : List Deed} {x : Deed} {device : String}
    (confirmed : lastConfirmed (newer ++ x :: older) device = some true)
    (reset : x.confirmed device = some false) : .confirm device true ∈ newer := by
  rw [lastConfirmed, List.findSome?_append, List.findSome?_cons, reset] at confirmed
  cases recent : newer.findSome? (Deed.confirmed device) with
  | none => simp [recent] at confirmed
  | some b =>
    simp only [recent, Option.some_or, Option.some.injEq] at confirmed
    subst confirmed
    obtain ⟨z, member, marked⟩ := List.exists_of_findSome?_eq_some recent
    exact Deed.confirmed_true marked ▸ member

/-- Access has its provenance in what was done before. `validate_auth` accepts a token from an
address exactly if the last deeds gave the token, the address, a user and a confirmation to one
device, and the user is there and not deleted. A token that was replaced never gives access
again, and after a device was linked to a user or moved to an address it has access only if an
admin has confirmed it since. -/
theorem access_has_provenance (injective : HashInjective) {lookup later : ServerState}
    (reached : (server config).Reachable lookup) (going : (server config).Steps lookup later)
    (fresh : Fresh lookup.trace) {moments : Nat → Choice × Db}
    (serving : Serving moments lookup.world later.world) (headers : HeaderMap) (ip : String) :
    (∀ d, authenticate moments headers ip = .ok d ↔
      ∃ token, headers.getStr "device-token" = some token ∧ Granted lookup later token ip d) ∧
    (∀ newer x older y device token, deeds lookup.trace = newer ++ x :: older → y ∈ older →
      y.token device = some token → (x.token device).isSome →
      headers.getStr "device-token" = some token → ∀ d, authenticate moments headers ip ≠ .ok d) ∧
    ∀ newer x older d, deeds lookup.trace = newer ++ x :: older →
      authenticate moments headers ip = .ok d →
      ((x.user d.uuid).isSome ∨ ∃ address, x = .resign d.uuid address) →
      .confirm d.uuid true ∈ newer := by
  have run := reachable_run reached
  have granted := fun d => granted_iff injective run
    (reachable_run (Machine.Steps.trans reached going)) fresh serving headers ip d
  refine ⟨granted, ?_, ?_⟩
  · intro newer x older y device token split member wrote replaced header d accepted
    obtain ⟨sent, header', access⟩ := (granted d).mp accepted
    cases header.symm.trans header'
    have unique := run_tokens run fresh
    rw [split] at unique
    have last := access.token
    rw [split] at last
    exact replaced_never_last unique member wrote replaced last
  · intro newer x older d split accepted changed
    obtain ⟨token, -, access⟩ := (granted d).mp accepted
    have confirmed := access.confirmed
    rw [split] at confirmed
    refine confirmed_after confirmed ?_
    rcases changed with linked | ⟨address, rfl⟩
    · exact Deed.user_resets linked
    · simp [Deed.confirmed]

omit [Crypto] [Archive] in
theorem access_has_provenance_device :
    letI := plainCrypto
    letI := plainArchive
    let moments : Nat → Choice × Db := fun _ => ({}, deviceRun.world)
    (∀ d, authenticate moments deviceHeaders deviceIp = .ok d ↔
      ∃ token, deviceHeaders.getStr "device-token" = some token ∧
        Granted deviceRun deviceRun token deviceIp d) ∧
    (∀ newer x older y device token, deeds deviceRun.trace = newer ++ x :: older → y ∈ older →
      y.token device = some token → (x.token device).isSome →
      deviceHeaders.getStr "device-token" = some token →
      ∀ d, authenticate moments deviceHeaders deviceIp ≠ .ok d) ∧
    ∀ newer x older d, deeds deviceRun.trace = newer ++ x :: older →
      authenticate moments deviceHeaders deviceIp = .ok d →
      ((x.user d.uuid).isSome ∨ ∃ address, x = .resign d.uuid address) →
      .confirm d.uuid true ∈ newer := by
  let _ := plainCrypto
  let _ := plainArchive
  have serving : ∀ db, Serving (fun _ => ({}, db)) db db :=
    fun db => ⟨⟨⟨0⟩, rfl⟩, ⟨rfl, rfl⟩, rfl, rfl⟩
  exact access_has_provenance plain_hash deviceRun_reachable .refl deviceRun_checked.fresh
    (serving deviceRun.world) deviceHeaders deviceIp

end PasswordManager
