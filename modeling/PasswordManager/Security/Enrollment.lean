import PasswordManager.Security.AtRest
import PasswordManager.Server.Births
import PasswordManager.Server.Plain

/-!
# Enrollment

A device is linked to a user only by a request that knew the user's secret, and the name and
the secret of a user never change.
-/

namespace PasswordManager
open Interaction

/-! ## Users -/

/-- Every user is still there, with the name and the secret it had. -/
def UsersKept (a b : Db) : Prop :=
  ∀ u ∈ a.users, ∃ v ∈ b.users, v.uuid = u.uuid ∧ v.name = u.name ∧ v.ehloSecret = u.ehloSecret

theorem UsersKept.refl (db : Db) : UsersKept db db := fun u member => ⟨u, member, rfl, rfl, rfl⟩

theorem UsersKept.trans {a b c : Db} (first : UsersKept a b) (second : UsersKept b c) :
    UsersKept a c := by
  intro u member
  obtain ⟨v, present, uuid, name, secret⟩ := first u member
  obtain ⟨w, present, uuid', name', secret'⟩ := second v present
  exact ⟨w, present, uuid'.trans uuid, name'.trans name, secret'.trans secret⟩

variable [Crypto] {config : Config} {pre post : Db}

theorem change_usersKept {req : Request} {h : History Action.Answer} {e : Exchange Action.Answer}
    (change : Change config req h e pre post) : UsersKept pre post := by
  rcases change.users with users | ⟨_, _, _, _, _, -, -, users⟩ | ⟨_, uuid, changes, now, _, -, -, -, users⟩
  · exact fun u member => ⟨u, users ▸ member, rfl, rfl, rfl⟩
  · exact fun u member => ⟨u, users ▸ List.mem_append_left _ member, rfl, rfl, rfl⟩
  · intro u member
    by_cases changed : u.uuid = uuid
    · refine ⟨changes.apply now u, ?_, rfl, rfl, rfl⟩
      rw [users]
      exact Table.mem_update.mpr (.inl ⟨u, member, changed, rfl⟩)
    · refine ⟨u, ?_, rfl, rfl, rfl⟩
      rw [users]
      exact Table.mem_update.mpr (.inr ⟨member, changed⟩)

/-- The sign-up that created the user carried the name and the ehlo. -/
inductive SignedUp (config : Config) (tr : Journal) (user name : String) (ehlo : Bytes) : Prop where
  | intro {newer older rid ip body conn t token pre post identity}
      (split : tr = newer ++ .act rid (.signUp ip body) (committed conn t (user, token)) pre post :: older)
      (decoded : Decoded config (own rid older) ip body identity name ehlo)

theorem SignedUp.cons {tr : Journal} {user name : String} {ehlo : Bytes}
    {e : Event Action.Answer Request Result Db} (signedUp : SignedUp config tr user name ehlo) :
    SignedUp config (e :: tr) user name ehlo := by
  obtain ⟨rfl, decoded⟩ := signedUp
  exact .intro (List.cons_append ..).symm decoded

variable {tr : Journal} {db : Db}

section
variable [Archive]

theorem run_usersKept (run : Run config tr db) : Past config UsersKept tr db :=
  run.past UsersKept UsersKept.refl UsersKept.trans fun _ _ => change_usersKept

theorem run_signedUp (opens : OpensSealed) (run : Run config tr db) :
    ∀ u ∈ db.users, ∃ ehlo, SignedUp config tr u.uuid u.name ehlo ∧ openEhlo u config = .ok ehlo := by
  have later : ∀ {e : Event Action.Answer Request Result Db} {tr : Journal} {u : User},
      (∃ ehlo, SignedUp config tr u.uuid u.name ehlo ∧ openEhlo u config = .ok ehlo) →
        ∃ ehlo, SignedUp config (e :: tr) u.uuid u.name ehlo ∧ openEhlo u config = .ok ehlo := by
    rintro e tr u ⟨ehlo, signedUp, opened⟩
    exact ⟨ehlo, signedUp.cons, opened⟩
  induction run using Run.induction with
  | nil => nofun
  | start tr db rid req before run ih => exact fun u member => later (ih u member)
  | reply tr db rid req res before run ih => exact fun u member => later (ih u member)
  | act tr rid req e pre post before run change ih =>
    intro u member
    rcases change.users with users | ⟨_, _, _, _, _, rfl, write, users⟩ |
      ⟨_, uuid, changes, now, _, -, -, -, users⟩ <;> rw [users] at member
    · exact later (ih u member)
    · rcases List.mem_append.mp member with present | created
      · exact later (ih u present)
      · obtain rfl := List.mem_singleton.mp created
        cases write with
        | signUp decoded valid sealed =>
          obtain ⟨nonce, sealed⟩ := sealed
          exact ⟨_, .intro (List.nil_append _).symm decoded, openEhlo_sealed opens sealed rfl⟩
    · rcases Table.mem_update.mp member with ⟨old, present, -, rfl⟩ | ⟨present, -⟩
      · exact later (ih old present)
      · exact later (ih u present)

end

/-! ## Devices -/

/-- A sign-up or sign-in request's write that links the device to the user. -/
inductive Links : Request → String → SignRequest → Exchange Action.Answer → String → String → Prop where
  | signUp {ip body conn t user token} :
      Links (.signUp ip body) ip body (committed conn t (user, token)) t.identityUuid user
  | signIn {ip body conn device user token now row} :
      Links (.signIn ip body) ip body
        (answered conn (.identityUpdate device (linkChanges user token) now) row) device user

/-- An earlier request linked the device to the user. It was sent from the address that the
device had when it was looked up, and carried the name and the ehlo under the device's key. -/
inductive Enrolled (config : Config) (tr : Journal) (d : Identity) (user name : String)
    (ehlo : Bytes) : Prop where
  | intro {newer older rid req ip body e pre post seen}
      (split : tr = newer ++ .act rid req e pre post :: older)
      (links : Links req ip body e d.uuid user)
      (lookup : ∃ conn, answered conn (.identityFindByIp ip) (some seen) ∈ own rid older)
      (device : seen.uuid = d.uuid) (address : seen.ipAddress = ip)
      (name : Opens config d body.name (asBytes name)) (ehlo : Opens config d body.ehlo ehlo)

theorem openSharedKey_same {d d' : Identity} (same : SameDevice d d') :
    openSharedKey d config = openSharedKey d' config := by
  unfold openSharedKey
  rw [same.serverPrivateKey, same.clientPublicKey]

theorem opens_same {d d' : Identity} {field : String} {plain : Bytes} (same : SameDevice d d')
    (opens : Opens config d field plain) : Opens config d' field plain := by
  obtain ⟨blob, key, decoded, derived, opened⟩ := opens
  exact ⟨blob, key, decoded, (openSharedKey_same same).symm.trans derived, opened⟩

theorem Enrolled.later {d d' : Identity} {user name : String} {ehlo : Bytes}
    {e : Event Action.Answer Request Result Db} (same : SameDevice d d')
    (enrolled : Enrolled config tr d user name ehlo) :
    Enrolled config (e :: tr) d' user name ehlo := by
  obtain ⟨rfl, links, lookup, device, address, name, ehlo⟩ := enrolled
  exact .intro (List.cons_append ..).symm (same.uuid ▸ links) lookup (device.trans same.uuid) address
    (opens_same same name) (opens_same same ehlo)

/-- The user that the device is linked to is known, and so is the request that linked it. -/
def Known (config : Config) (tr : Journal) (db : Db) (d : Identity) : Prop :=
  ∀ u, d.userId = some u → ∃ user ∈ db.users, user.uuid = u ∧
    ∃ ehlo, Enrolled config tr d u user.name ehlo ∧ openEhlo user config = .ok ehlo

theorem openEhlo_same {u v : User} (secret : v.ehloSecret = u.ehloSecret) :
    openEhlo v config = openEhlo u config := by
  unfold openEhlo
  rw [secret]

theorem Known.later {d d' : Identity} {e : Event Action.Answer Request Result Db}
    (kept : UsersKept pre post) (same : SameDevice d d') (link : d'.userId = d.userId)
    (known : Known config tr pre d) : Known config (e :: tr) post d' := by
  intro u linked
  obtain ⟨user, member, uuid, ehlo, enrolled, opened⟩ := known u (link ▸ linked)
  obtain ⟨v, present, uuid', name, secret⟩ := kept user member
  refine ⟨v, present, uuid'.trans uuid, ehlo, ?_, (openEhlo_same secret).trans opened⟩
  rw [name]
  exact enrolled.later same

variable [Archive]

/-- A linking write enrolls the device: the row that it changes has the keys of the row that
was looked up. -/
theorem enrolled_by {rid : Nat} {req : Request} {ip : String} {body : SignRequest}
    {e : Exchange Action.Answer} {seen old d : Identity} {user name : String} {ehlo : Bytes}
    (before : Run config tr pre) (fresh : Fresh tr) (links : Links req ip body e d.uuid user)
    (decoded : Decoded config (own rid tr) ip body seen name ehlo) (device : seen.uuid = d.uuid)
    (present : old ∈ pre.identities) (same : SameDevice old d) :
    Enrolled config (.act rid req e pre post :: tr) d user name ehlo := by
  obtain ⟨conn, lookup⟩ := decoded.device
  obtain ⟨newer, older, then_, moment, split, earlier, done⟩ := before.read rfl lookup
  obtain ⟨found, address⟩ := Table.find_some (Except.ok.inj (Prod.mk.inj done).1)
  have keys : SameDevice seen d :=
    (same_device before fresh split earlier present found (same.uuid.trans device.symm)).symm.trans same
  exact .intro (List.nil_append _).symm links ⟨conn, lookup⟩ device address (opens_same keys decoded.name)
    (opens_same keys decoded.ehlo)

theorem run_known (opens : OpensSealed) (run : Run config tr db) (fresh : Fresh tr) :
    ∀ d ∈ db.identities, Known config tr db d := by
  have still : ∀ d : Identity, SameDevice d d := fun d => ⟨rfl, rfl, rfl, rfl⟩
  induction run using Run.induction with
  | nil => nofun
  | start tr db rid req before run ih =>
    exact fun d member => (ih fresh d member).later (.refl db) (still d) rfl
  | reply tr db rid req res before run ih =>
    exact fun d member => (ih fresh d member).later (.refl db) (still d) rfl
  | act tr rid req e pre post before run change ih =>
    have before_fresh : Fresh tr := Fresh.suffix [_] fresh
    have kept := change_usersKept change
    have later := fun d member => (ih before_fresh d member).later
      (e := .act rid req e pre post) kept (still d) rfl
    intro d member
    rcases change.identities with same | ⟨conn, new, clock, rfl, write, created⟩ |
      ⟨_, t, user, token, _, now, old, rfl, write, -, created, linked⟩ |
      ⟨_, uuid, changes, now, old, rfl, write, found, changed⟩ | ⟨_, uuid, _, -, -, deleted⟩
    · exact later d (same ▸ member)
    · rw [created] at member
      rcases List.mem_append.mp member with present | here
      · exact later d present
      · obtain rfl := List.mem_singleton.mp here
        cases write with
        | greet => nofun
    · rw [linked] at member
      rcases Table.mem_update.mp member with ⟨old, present, target, rfl⟩ | ⟨present, -⟩
      · cases write with
        | signUp decoded valid sealed =>
          obtain ⟨nonce, sealed⟩ := sealed
          rintro u ⟨⟩
          refine ⟨_, created, rfl, _, ?_, openEhlo_sealed opens sealed rfl⟩
          exact enrolled_by before before_fresh (target ▸ .signUp) decoded target.symm present
            ((still old).apply (linkChanges _ _) _ rfl).symm
      · exact later d present
    · rw [changed] at member
      rcases Table.mem_update.mp member with ⟨old, present, target, rfl⟩ | ⟨present, -⟩
      · have same := ((still old).apply changes now (write_keeps_key write)).symm
        cases write with
        | signIn decoded lookup active known drew =>
          obtain ⟨conn, lookup⟩ := lookup
          obtain ⟨newer, older, then_, moment, split, earlier, done⟩ := before.read rfl lookup
          obtain ⟨was, named⟩ := Table.find_some (Except.ok.inj (Prod.mk.inj done).1)
          obtain ⟨v, present', uuid, name, secret⟩ :=
            (run_usersKept before newer older then_ split earlier).trans kept _ was
          rintro u ⟨⟩
          refine ⟨v, present', uuid, _, ?_, (openEhlo_same secret).trans known⟩
          rw [name, named]
          exact enrolled_by before before_fresh (target ▸ .signIn) decoded target.symm present same
        | refresh => exact (ih before_fresh old present).later kept same rfl
        | resign => exact (ih before_fresh old present).later kept same rfl
        | approve => exact (ih before_fresh old present).later kept same rfl
        | toggleIdentity => exact (ih before_fresh old present).later kept same rfl
      · exact later d present
    · rw [deleted] at member
      exact later d (List.mem_of_mem_filter member)

/-- No device is linked to a user without that user's secret: an earlier sign-up or sign-in,
sent from the address of the device at the time, carried the user's name and the ehlo of the
sign-up that created the user, both under the device's key. The name and the ehlo of a user
never change after that sign-up. -/
theorem link_needs_secret (opens : OpensSealed) {c c' : ServerState}
    (reached : (server config).Reachable c) (later : (server config).Steps c c')
    (fresh : Fresh c.trace) :
    (∀ d ∈ c.world.identities, ∀ u, d.userId = some u → ∃ user ∈ c.world.users, user.uuid = u ∧
      ∃ ehlo, SignedUp config c.trace u user.name ehlo ∧
        Enrolled config c.trace d u user.name ehlo) ∧
    ∀ user ∈ c.world.users, ∃ ehlo, SignedUp config c.trace user.uuid user.name ehlo ∧
      openEhlo user config = .ok ehlo ∧
      ∃ user' ∈ c'.world.users, user'.uuid = user.uuid ∧ user'.name = user.name ∧
        openEhlo user' config = .ok ehlo := by
  have run := reachable_run reached
  constructor
  · intro d member u linked
    obtain ⟨user, present, uuid, ehlo, enrolled, opened⟩ := run_known opens run fresh d member u linked
    obtain ⟨given, signedUp, opened'⟩ := run_signedUp opens run user present
    cases opened.symm.trans opened'
    exact ⟨user, present, uuid, ehlo, uuid ▸ signedUp, enrolled⟩
  · intro user member
    obtain ⟨ehlo, signedUp, opened⟩ := run_signedUp opens run user member
    obtain ⟨newer, split⟩ := later.trace_suffix
    have kept := run_usersKept (reachable_run (Machine.Steps.trans reached later)) newer c.trace
      c.world split.symm run
    obtain ⟨user', present, uuid, name, secret⟩ := kept user member
    exact ⟨ehlo, signedUp, opened, user', present, uuid, name, (openEhlo_same secret).trans opened⟩

omit [Crypto] [Archive] in
theorem link_needs_secret_device :
    letI := plainCrypto
    letI := plainArchive
    (∀ d ∈ deviceRun.world.identities, ∀ u, d.userId = some u →
      ∃ user ∈ deviceRun.world.users, user.uuid = u ∧
        ∃ ehlo, SignedUp plainConfig deviceRun.trace u user.name ehlo ∧
          Enrolled plainConfig deviceRun.trace d u user.name ehlo) ∧
    ∀ user ∈ deviceRun.world.users, ∃ ehlo,
      SignedUp plainConfig deviceRun.trace user.uuid user.name ehlo ∧
        openEhlo user plainConfig = .ok ehlo ∧
        ∃ user' ∈ deviceRun.world.users, user'.uuid = user.uuid ∧ user'.name = user.name ∧
          openEhlo user' plainConfig = .ok ehlo := by
  let _ := plainCrypto
  let _ := plainArchive
  exact link_needs_secret plain_opens deviceRun_reachable .refl deviceRun_checked.fresh

end PasswordManager
