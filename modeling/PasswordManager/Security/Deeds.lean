import PasswordManager.Security.Enrollment

/-!
# The log of deeds

What happened to the access of devices, seen from outside: a run is read as a log of deeds,
and the columns that `validate_auth` checks are what the last deeds in the log made them.
-/

namespace PasswordManager
open Interaction

inductive Deed where
  | greet (device ip : String)
  | signUp (device user token : String)
  | signIn (device user token : String)
  | refresh (device token : String)
  | resign (device ip : String)
  | confirm (device : String) (confirmed : Bool)
  | toggle (user : String) (isDeleted : Bool)
  deriving DecidableEq

namespace Deed

/-- The token that the deed writes to the device. -/
def token (device : String) : Deed → Option String
  | signUp d _ t | signIn d _ t | refresh d t => if d = device then some t else none
  | _ => none

/-- The user that the deed links the device to. -/
def user (device : String) : Deed → Option String
  | signUp d u _ | signIn d u _ => if d = device then some u else none
  | _ => none

/-- The address that the deed gives to the device. -/
def address (device : String) : Deed → Option String
  | greet d ip | resign d ip => if d = device then some ip else none
  | _ => none

/-- Whether the device is confirmed after the deed, where the deed decides it. -/
def confirmed (device : String) : Deed → Option Bool
  | signUp d _ _ | signIn d _ _ | resign d _ => if d = device then some false else none
  | confirm d b => if d = device then some b else none
  | _ => none

/-- Whether the user is deleted after the deed, where the deed decides it. -/
def deleted (user : String) : Deed → Option Bool
  | toggle u b => if u = user then some b else none
  | _ => none

/-- The device whose row the deed changes. -/
def device : Deed → Option String
  | greet d _ | signUp d _ _ | signIn d _ _ | refresh d _ | resign d _ | confirm d _ => some d
  | toggle _ _ => none

/-- The token that the deed hands out. -/
def issued : Deed → Option String
  | signUp _ _ t | signIn _ _ t | refresh _ t => some t
  | _ => none

/-- The deed that a request does with a statement, given the uuid it has drawn last. -/
def ofStatement : Request → Option Uuid → Query → Option Deed
  | .greet ip _, _, .identityCreate new => some (greet new.uuid ip)
  | .signIn _ _, some u, .identityUpdate d changes _ =>
    changes.userId.map fun user => signIn d user u.toString
  | .refresh _ _, some u, .identityUpdate d _ _ => some (refresh d u.toString)
  | .resign ip _, _, .identityUpdate d _ _ => some (resign d ip)
  | .adminApprove _ _ _, _, .identityUpdate d _ _ => some (confirm d true)
  | .adminToggleIdentity _ _ _ action, _, .identityUpdate d _ _ =>
    some (confirm d (action = "confirm"))
  | .adminToggleUser _ _ _ action, _, .userUpdate u _ _ => some (toggle u (action = "delete"))
  | _, _, _ => none

/-- The deed that an action does, if it succeeds. -/
def ofExchange (req : Request) (h : History Action.Answer) : Exchange Action.Answer → Option Deed
  | ⟨.transaction _ t, (.ok (user, token) : Except Failure (String × String))⟩ =>
    some (signUp t.identityUuid user token)
  | ⟨.effect (.sql _ q), (.ok _ : Except DbError q.Answer)⟩ => ofStatement req (drawnUuid h) q
  | _ => none

end Deed

/-- The deeds of a run, newest first. -/
def deeds : Journal → List Deed
  | [] => []
  | .act rid req e _ _ :: older => (Deed.ofExchange req (own rid older) e).toList ++ deeds older
  | _ :: older => deeds older

/-- The token written to the device last. -/
def lastToken (log : List Deed) (device : String) : Option String :=
  log.findSome? (Deed.token device)

/-- The user that the device was linked to last. -/
def lastUser (log : List Deed) (device : String) : Option String :=
  log.findSome? (Deed.user device)

/-- The address that the device was given last. -/
def lastAddress (log : List Deed) (device : String) : Option String :=
  log.findSome? (Deed.address device)

/-- Whether the last deed that decides the confirmation of the device is a confirm. -/
def lastConfirmed (log : List Deed) (device : String) : Option Bool :=
  log.findSome? (Deed.confirmed device)

/-- Whether the last toggle of the user is a delete. -/
def lastDeleted (log : List Deed) (user : String) : Option Bool :=
  log.findSome? (Deed.deleted user)

theorem deeds_append (newer older : Journal) : ∃ later, deeds (newer ++ older) = later ++ deeds older := by
  induction newer with
  | nil => exact ⟨[], rfl⟩
  | cons e newer ih =>
    obtain ⟨later, split⟩ := ih
    cases e with
    | start | reply => exact ⟨later, split⟩
    | act rid req e pre post => exact ⟨_ ++ later, by rw [List.cons_append, deeds, split, List.append_assoc]⟩

/-! ## Marks -/

namespace Deed
variable {x : Deed} {uuid t : String} {b : Bool}

theorem token_device (marked : x.token uuid = some t) :
    x.device = some uuid ∧ x.issued = some t := by
  cases x <;> simp_all [token, device, issued]

theorem user_device (marked : x.user uuid = some t) : x.device = some uuid := by
  cases x <;> simp_all [user, device]

theorem address_device (marked : x.address uuid = some t) : x.device = some uuid := by
  cases x <;> simp_all [address, device]

theorem confirmed_device (marked : x.confirmed uuid = some b) : x.device = some uuid := by
  cases x <;> simp_all [confirmed, device]

theorem confirmed_true (marked : x.confirmed uuid = some true) : x = .confirm uuid true := by
  cases x <;> simp_all [confirmed]

theorem user_token (linked : (x.user uuid).isSome) : (x.token uuid).isSome := by
  cases x <;> simp_all [user, token]

theorem user_resets (linked : (x.user uuid).isSome) : x.confirmed uuid = some false := by
  cases x <;> simp_all [user, confirmed]

theorem deleted_none {user : String} (device : x.device = some uuid) : x.deleted user = none := by
  cases x <;> simp_all [deleted, Deed.device]

theorem deleted_toggle (marked : x.deleted uuid = some b) : x = .toggle uuid b := by
  cases x <;> simp_all [deleted]

end Deed

theorem findSome?_deeds {α : Type} {mark : Deed → Option α} {rid : Nat} {req : Request}
    {e : Exchange Action.Answer} {pre post : Db} {tr : Journal} :
    (deeds (.act rid req e pre post :: tr)).findSome? mark =
      ((Deed.ofExchange req (own rid tr) e).bind mark).or ((deeds tr).findSome? mark) := by
  rw [deeds, List.findSome?_append]
  cases Deed.ofExchange req (own rid tr) e <;> simp

/-! ## The deed of a change -/

theorem ofExchange_unwritten {req : Request} {h : History Action.Answer} {e : Exchange Action.Answer}
    (unchanged : wrote e = false) : Deed.ofExchange req h e = none := by
  unfold Deed.ofExchange
  split
  · cases unchanged
  · unfold Deed.ofStatement
    split <;> first | cases unchanged | rfl
  · rfl

variable [Crypto] {config : Config} {req : Request} {h : History Action.Answer}

/-- The deed says what the changes do to the one device. -/
structure Fits (x : Deed) (uuid : String) (changes : UpdateIdentity) : Prop where
  device : x.device = some uuid
  token : changes.deviceToken = (x.token uuid).map hashToken
  user : changes.userId = x.user uuid
  address : changes.ipAddress = x.address uuid
  confirmed : changes.isConfirmed = x.confirmed uuid

theorem signUp_fits {uuid user token : String} :
    Fits (.signUp uuid user token) uuid (linkChanges user token) := by
  constructor <;> simp [Deed.device, Deed.token, Deed.user, Deed.address, Deed.confirmed]

/-- An update of a device is a deed, and the deed says what the update writes. -/
theorem identityUpdate_deed {conn : Conn} {uuid : String} {changes : UpdateIdentity}
    {now : NaiveDateTime} (row : Identity)
    (write : Write config req h (.effect (.sql conn (.identityUpdate uuid changes now)))) :
    ∃ x, Deed.ofExchange req h (answered conn (.identityUpdate uuid changes now) row) = some x ∧
      Fits x uuid changes := by
  cases write with
  | signIn decoded found active known drew =>
    refine ⟨.signIn _ _ _, by simp only [Deed.ofExchange, Deed.ofStatement, drew]; rfl, ?_⟩
    constructor <;> simp [Deed.device, Deed.token, Deed.user, Deed.address, Deed.confirmed]
  | refresh device opened holds knows drew =>
    refine ⟨.refresh _ _, by simp only [Deed.ofExchange, Deed.ofStatement, drew]; rfl, ?_⟩
    constructor <;> simp [Deed.device, Deed.token, Deed.user, Deed.address, Deed.confirmed]
  | resign =>
    refine ⟨.resign _ _, rfl, ?_⟩
    constructor <;> simp [Deed.device, Deed.token, Deed.user, Deed.address, Deed.confirmed]
  | approve =>
    refine ⟨.confirm _ true, rfl, ?_⟩
    constructor <;> simp [Deed.device, Deed.token, Deed.user, Deed.address, Deed.confirmed]
  | @toggleIdentity _ _ target _ _ confirmed =>
    refine ⟨.confirm target.toString confirmed, ?_, ?_⟩
    · cases confirmed <;> rfl
    · constructor <;> simp [Deed.device, Deed.token, Deed.user, Deed.address, Deed.confirmed]

/-- An update of a user is a deed, and the deed says what the update writes. -/
theorem userUpdate_deed {conn : Conn} {uuid : String} {changes : UpdateUser} {now : NaiveDateTime}
    (row : User) (write : Write config req h (.effect (.sql conn (.userUpdate uuid changes now)))) :
    ∃ isDeleted, changes.isDeleted = some isDeleted ∧
      Deed.ofExchange req h (answered conn (.userUpdate uuid changes now) row) =
        some (.toggle uuid isDeleted) := by
  cases write with
  | @toggleUser _ _ _ _ _ isDeleted =>
    refine ⟨isDeleted, rfl, ?_⟩
    cases isDeleted <;> rfl

/-- What a change does to the devices, and the deed that says so. -/
theorem change_devices {e : Exchange Action.Answer} {pre post : Db}
    (change : Change config req h e pre post) :
    ((∀ x ∈ Deed.ofExchange req h e, x.device = none) ∧
      ∀ d ∈ post.identities, d ∈ pre.identities) ∨
    (∃ ip body conn new d, req = .greet ip body ∧ e = answered conn (.identityCreate new) d ∧
      Deed.ofExchange req h e = some (.greet d.uuid d.ipAddress) ∧
      d.deviceToken = none ∧ d.userId = none ∧ d.isConfirmed = false ∧
      post.identities = pre.identities ++ [d]) ∨
    ∃ x uuid changes now, Deed.ofExchange req h e = some x ∧ Fits x uuid changes ∧
      (∃ old ∈ pre.identities, old.uuid = uuid) ∧
      post.identities = Table.update (·.uuid) pre.identities uuid (changes.apply now) := by
  cases change with
  | none unchanged =>
    rw [ofExchange_unwritten unchanged]
    exact .inl ⟨nofun, fun d member => member⟩
  | signUp write vacant found after =>
    exact .inr (.inr ⟨_, _, _, _, rfl, signUp_fits, ⟨_, Table.find_some found⟩, by rw [after]⟩)
  | userUpdate write found after =>
    obtain ⟨isDeleted, -, deed⟩ := userUpdate_deed _ write
    refine .inl ⟨fun x member => ?_, fun d member => ?_⟩
    · cases deed.symm.trans member
      rfl
    · rwa [after] at member
  | identityCreate write after =>
    cases write with
    | greet => exact .inr (.inl ⟨_, _, _, _, _, rfl, rfl, rfl, rfl, rfl, rfl, by rw [after]⟩)
  | identityUpdate write found after =>
    obtain ⟨x, deed, fits⟩ := identityUpdate_deed _ write
    exact .inr (.inr ⟨x, _, _, _, deed, fits, ⟨_, Table.find_some found⟩, by rw [after]⟩)
  | identityDelete write after =>
    cases write with
    | deleteIdentity =>
      refine .inl ⟨nofun, fun d member => ?_⟩
      rw [after] at member
      exact List.mem_of_mem_filter member
  | groupCreate write after =>
    cases write with
    | groupCreate => exact .inl ⟨nofun, fun d member => by rwa [after] at member⟩
  | passwordCreate write after =>
    cases write with
    | pwdCreate => exact .inl ⟨nofun, fun d member => by rwa [after] at member⟩
  | passwordUpdate write found after =>
    cases write with
    | pwdUpdate => exact .inl ⟨nofun, fun d member => by rwa [after] at member⟩

/-- What a change does to the users, and the deed that says so. -/
theorem change_toggles {e : Exchange Action.Answer} {pre post : Db}
    (change : Change config req h e pre post) :
    ((∀ x ∈ Deed.ofExchange req h e, ∀ user, x.deleted user = none) ∧ ∀ u ∈ post.users,
      u ∈ pre.users ∨ u.uuid ∉ pre.users.map (·.uuid) ∧ u.isDeleted = false) ∨
    ∃ (uuid : String) (changes : UpdateUser) (now : NaiveDateTime) (isDeleted : Bool),
      Deed.ofExchange req h e = some (.toggle uuid isDeleted) ∧
      changes.isDeleted = some isDeleted ∧ (∃ old ∈ pre.users, old.uuid = uuid) ∧
      post.users = Table.update (·.uuid) pre.users uuid (changes.apply now) := by
  have none_of : ∀ {x uuid}, Deed.ofExchange req h e = some x → x.device = some uuid →
      ∀ y ∈ Deed.ofExchange req h e, ∀ user, y.deleted user = none := by
    intro x uuid deed device y member user
    cases deed.symm.trans member
    exact Deed.deleted_none device
  cases change with
  | none unchanged =>
    rw [ofExchange_unwritten unchanged]
    exact .inl ⟨nofun, fun u member => .inl member⟩
  | @signUp conn t user token clock _ _ _ _ write vacant found after =>
    refine .inl ⟨none_of rfl rfl, fun u member => ?_⟩
    have unique := post.valid.userUuid
    rw [after, List.map_append] at unique
    rw [after] at member
    rcases List.mem_append.mp member with present | created
    · exact .inl present
    · obtain rfl := List.mem_singleton.mp created
      refine .inr ⟨fun present => ?_, rfl⟩
      exact List.disjoint_of_nodup_append unique present (List.mem_singleton.mpr rfl)
  | userUpdate write found after =>
    obtain ⟨isDeleted, writes, deed⟩ := userUpdate_deed _ write
    exact .inr ⟨_, _, _, isDeleted, deed, writes, ⟨_, Table.find_some found⟩, by rw [after]⟩
  | identityCreate write after =>
    cases write with
    | greet => exact .inl ⟨none_of rfl rfl, fun u member => .inl (by rwa [after] at member)⟩
  | identityUpdate write found after =>
    obtain ⟨x, deed, fits⟩ := identityUpdate_deed _ write
    exact .inl ⟨none_of deed fits.device, fun u member => .inl (by rwa [after] at member)⟩
  | identityDelete write after =>
    cases write with
    | deleteIdentity => exact .inl ⟨nofun, fun u member => .inl (by rwa [after] at member)⟩
  | groupCreate write after =>
    cases write with
    | groupCreate => exact .inl ⟨nofun, fun u member => .inl (by rwa [after] at member)⟩
  | passwordCreate write after =>
    cases write with
    | pwdCreate => exact .inl ⟨nofun, fun u member => .inl (by rwa [after] at member)⟩
  | passwordUpdate write found after =>
    cases write with
    | pwdUpdate => exact .inl ⟨nofun, fun u member => .inl (by rwa [after] at member)⟩

end PasswordManager
