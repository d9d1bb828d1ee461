import Mathlib.Data.List.Forall2
import PasswordManager.Security.SharedKey
import PasswordManager.Security.View
import PasswordManager.Server.Alone

/-!
# What a device reads

Two devices of one user, each with its own key, are answered with the same passwords.
-/

namespace PasswordManager
open Interaction

variable [Crypto] {config : Config} {choices choices' : Nat → Choice} {db db' : Db} {headers headers' : HeaderMap}
  {ip ip' user : String} {d d' : Identity} {key key' : BytesN 32}

/-! ## Access -/

/-- The device may read the user's passwords, with the token that the headers carry. -/
structure Access (db : Db) (headers : HeaderMap) (ip : String) (d : Identity) (user : String) : Prop where
  token : ∃ token, headers.getStr "device-token" = some token ∧ d.deviceToken = some (hashToken token)
  device : d ∈ db.identities
  address : d.ipAddress = ip
  confirmed : d.isConfirmed = true
  linked : d.userId = some user
  active : ∃ owner ∈ db.users, owner.uuid = user ∧ owner.isDeleted = false

theorem exec_validateAuth (calm : Calm choices) (access : Access db headers ip d user) :
    Fallible.exec Action.answer (validateAuth headers ip) (choices, db) =
      (.ok d, fun n => choices (n + 4), db) := by
  obtain ⟨conn, connected⟩ := exec_conn db calm
  obtain ⟨token, header, holds⟩ := access.token
  obtain ⟨owner, present, same, active⟩ := access.active
  have found := Table.find_column db.valid.identityToken access.device holds
  have owned := (Table.find_eq_some_iff db.valid.userUuid).mpr ⟨present, same⟩
  have device : Fallible.exec Action.answer
      (liftM (Identity.findByDeviceToken conn (hashToken token)) : Handler (Option Identity))
      (fun n => choices (n + 2), db) = (.ok (some d), fun n => choices (n + 3), db) :=
    exec_statement (calm.statements 2) (by rw [← found]; rfl)
  have loaded : Fallible.exec Action.answer
      (liftM (User.findByUuid conn user) : Handler (Option User)) (fun n => choices (n + 3), db) =
        (.ok (some owner), fun n => choices (n + 4), db) :=
    exec_statement (calm.statements 3) (by rw [← owned]; rfl)
  unfold validateAuth
  simp only [Fallible.exec_bind, exec_okOr, exec_refuseIf, header, connected, device, access.address,
    access.confirmed, access.linked, loaded, active, ne_eq, not_true_eq_false, if_false,
    Bool.true_eq_false, Bool.false_eq_true, Fallible.exec_pure]

/-! ## One password -/

/-- The two fields open to the same text, each under its own key. -/
def SameText (key key' : BytesN 32) (sent sent' : String) : Prop :=
  ∃ plain, clientOpen sent key = some plain ∧ clientOpen sent' key' = some plain

theorem exec_encryptForClient {stored : String} {plain blob : Bytes}
    (opened : openPwd stored config = .ok plain) (derived : openSharedKey d config = .ok key)
    (sealed : sealWith ((choices 0).chance 0).nonce plain key = .ok blob) :
    Fallible.exec Action.answer (liftM (encryptForClient stored d config) : Handler String)
      (choices, db) = (.ok (Hex.encode blob), fun n => choices (n + 1), db) := by
  unfold encryptForClient
  rw [lift_bind, Fallible.exec_bind, lift_attempt, exec_attempt, opened]
  simp only [Except.mapError]
  rw [lift_bind, Fallible.exec_bind, lift_attempt, exec_attempt, derived]
  simp only [Except.mapError]
  rw [lift_bind, Fallible.exec_bind, exec_encrypt rfl sealed]
  rfl

theorem sent_alike (opens : OpensSealed) (seals : Seals) {stored : String} {plain : Bytes}
    (opened : openPwd stored config = .ok plain) (derived : openSharedKey d config = .ok key)
    (derived' : openSharedKey d' config = .ok key') (choices choices' : Nat → Choice) (db db' : Db) :
    ∃ sent sent', SameText key key' sent sent' ∧
      Fallible.exec Action.answer (liftM (encryptForClient stored d config) : Handler String)
        (choices, db) = (.ok sent, fun n => choices (n + 1), db) ∧
      Fallible.exec Action.answer (liftM (encryptForClient stored d' config) : Handler String)
        (choices', db') = (.ok sent', fun n => choices' (n + 1), db') := by
  obtain ⟨blob, sealed⟩ := sealWith_isOk seals ((choices 0).chance 0).nonce plain key
  obtain ⟨blob', sealed'⟩ := sealWith_isOk seals ((choices' 0).chance 0).nonce plain key'
  exact ⟨_, _, ⟨plain, clientOpen_sealed opens sealed, clientOpen_sealed opens sealed'⟩,
    exec_encryptForClient opened derived sealed, exec_encryptForClient opened derived' sealed'⟩

theorem exec_daysRemaining {since : NaiveDateTime} {days : Int} :
    Fallible.exec Action.answer (liftM (daysRemaining since days) : Handler Int) (choices, db) =
      (.ok (daysRemainingAt ((choices 0).chance 0).clock since days), fun n => choices (n + 1), db) :=
  rfl

theorem exec_isExpired {since : NaiveDateTime} {days : Int} :
    Fallible.exec Action.answer (liftM (isExpired since days) : Handler Bool) (choices, db) =
      (.ok (decide (daysRemainingAt ((choices 0).chance 0).clock since days ≤ 0)),
        fun n => choices (n + 1), db) :=
  rfl

/-! ## Pages -/

/-- The clock shows the same times, and SQLite returns rows in the same order. -/
def SameMoments (choices choices' : Nat → Choice) : Prop :=
  ∀ n, ((choices n).chance 0).toMoment = ((choices' n).chance 0).toMoment

omit [Crypto] in
theorem SameMoments.shift (same : SameMoments choices choices') (k : Nat) :
    SameMoments (fun n => choices (n + k)) fun n => choices' (n + k) :=
  fun n => same (n + k)

/-- The entries differ only in the key that the password is sealed under. -/
structure SameEntry (key key' : BytesN 32) (entry entry' : PasswordEntry) : Prop where
  pwd : SameText key key' entry.pwd entry'.pwd
  rest : entry' = { entry with pwd := entry'.pwd }

/-- `SameEntry` of what `/pwd/get` answers. -/
structure SameDetail (key key' : BytesN 32) (detail detail' : PasswordDetail) : Prop where
  pwd : SameText key key' detail.pwd detail'.pwd
  rest : detail' = { detail with pwd := detail'.pwd }

/-- The entry of a row. -/
abbrev rowEntry (p : Password) (sent : String) (expires : Int) : PasswordEntry where
  uuid := p.uuid
  pwd := sent
  expires := expires
  createdAt := p.createdAt.display
  updatedAt := p.updatedAt.display
  validSinceDays := p.validSinceDays

theorem listEntries_alike (db db' : Db) (opens : OpensSealed) (seals : Seals)
    (derived : openSharedKey d config = .ok key) (derived' : openSharedKey d' config = .ok key')
    (expired : Bool) {rows : List Password} (usable : ∀ p ∈ rows, p.Usable config) (skip take : Nat)
    (times : SameMoments choices choices') :
    ∃ m entries entries', List.Forall₂ (SameEntry key key') entries entries' ∧
      Fallible.exec Action.answer (liftM (listEntries config d expired rows skip take) :
        Handler (List PasswordEntry)) (choices, db) = (.ok entries, fun n => choices (n + m), db) ∧
      Fallible.exec Action.answer (liftM (listEntries config d' expired rows skip take) :
        Handler (List PasswordEntry)) (choices', db') = (.ok entries', fun n => choices' (n + m), db') := by
  induction rows generalizing choices choices' skip take with
  | nil => exact ⟨0, [], [], .nil, rfl, rfl⟩
  | cons p rows ih =>
    have rest := fun q member => usable q (List.mem_cons_of_mem _ member)
    cases take with
    | zero => exact ⟨0, [], [], .nil, rfl, rfl⟩
    | succ take =>
      unfold listEntries
      simp only [lift_bind, Fallible.exec_bind, exec_isExpired, times 0]
      split
      · cases skip with
        | succ skip =>
          obtain ⟨m, entries, entries', same, left, right⟩ := ih rest skip (take + 1) (times.shift 1)
          exact ⟨m + 1, entries, entries', same, left, right⟩
        | zero =>
          obtain ⟨plain, opened⟩ := usable p List.mem_cons_self
          obtain ⟨sent, sent', text, left, right⟩ := sent_alike opens seals opened derived derived'
            (fun n => choices (n + 1)) (fun n => choices' (n + 1)) db db'
          simp only [lift_bind, Fallible.exec_bind, left, right]
          cases expired with
          | true =>
            obtain ⟨m, entries, entries', same, left', right'⟩ := ih rest 0 take (times.shift 2)
            refine ⟨m + 2, rowEntry p sent 0 :: entries, rowEntry p sent' 0 :: entries',
              .cons ⟨text, rfl⟩ same, ?_, ?_⟩
            · simp only [if_true, pure_bind, lift_bind, Fallible.exec_bind]
              rw [left']
              rfl
            · simp only [if_true, pure_bind, lift_bind, Fallible.exec_bind]
              rw [right']
              rfl
          | false =>
            obtain ⟨m, entries, entries', same, left', right'⟩ := ih rest 0 take (times.shift 3)
            have clock := times 2
            generalize left_days : daysRemainingAt ((choices 2).chance 0).clock p.validSince
              p.validSinceDays = days
            refine ⟨m + 3, rowEntry p sent days :: entries, rowEntry p sent' days :: entries',
              .cons ⟨text, rfl⟩ same, ?_, ?_⟩
            · simp only [Bool.false_eq_true, if_false, lift_bind, Fallible.exec_bind, exec_daysRemaining]
              rw [left', ← left_days]
              rfl
            · simp only [Bool.false_eq_true, if_false, lift_bind, Fallible.exec_bind, exec_daysRemaining]
              rw [right', ← left_days, clock]
              rfl
      · obtain ⟨m, entries, entries', same, left, right⟩ := ih rest skip (take + 1) (times.shift 1)
        exact ⟨m + 1, entries, entries', same, left, right⟩

/-! ## The endpoints -/

/-- The order in which the list handler is given the rows. -/
def listOrder (choices : Nat → Choice) : RowOrder := ((choices 7).chance 0).order

/-- Up to the query for the passwords of the groups. -/
theorem list_queries (config : Config) (calm : Calm choices) (access : Access db headers ip d user)
    (params : ListParams) {r : Except DbError (List Password)}
    (answered : db.exec ((choices 7).chance 0).toMoment
      (.passwordFindByGroups ((db.groupsOf user).map (·.uuid))) = (r, db)) :
    Fallible.exec Action.answer (listHandler config headers ip params) (choices, db) =
      match r with
      | .ok rows => Fallible.exec Action.answer (liftM (listEntries config d (params.expired.getD false) rows
          (max (params.take.getD 0) 0).toNat (clampInt 1 200 (params.size.getD 50)).toNat) :
          Handler (List PasswordEntry)) (fun n => choices (n + 8), db)
      | .error e => (.error ⟨.database e, .backend⟩, fun n => choices (n + 8), db) := by
  obtain ⟨conn, connected⟩ := exec_conn db (calm.shift 4)
  have groups : Fallible.exec Action.answer
      (liftM (Group.findByUser conn user) : Handler (List Group)) (fun n => choices (n + 6), db) =
        (.ok (db.groupsOf user), fun n => choices (n + 7), db) :=
    exec_statement (calm.statements 6) rfl
  have passwords : Fallible.exec Action.answer
      (liftM (Password.findByGroups conn ((db.groupsOf user).map (·.uuid))) : Handler (List Password))
        (fun n => choices (n + 7), db) =
      match r with
      | .ok rows => (.ok rows, fun n => choices (n + 8), db)
      | .error e => (.error ⟨.database e, .backend⟩, fun n => choices (n + 8), db) := by
    have done : Action.answer (choices 7) db
        (.effect (.sql conn (.passwordFindByGroups ((db.groupsOf user).map (·.uuid))))) = (r, db) := by
      simp only [Action.answer, Effect.answer, calm.statements 7, answered]
    unfold Password.findByGroups
    rw [handler_sql]
    simp only [Nat.zero_add, done]
    cases r <;> rfl
  unfold listHandler
  simp only [Fallible.exec_bind, exec_validateAuth calm access, exec_okOr, access.linked, connected,
    groups, passwords]
  cases r <;> rfl

theorem list_reads (config : Config) (calm : Calm choices) (access : Access db headers ip d user)
    (params : ListParams) (few : (db.groupsOf user).length ≤ SQLITE_MAX_VARIABLE_NUMBER) :
    Fallible.exec Action.answer (listHandler config headers ip params) (choices, db) =
      Fallible.exec Action.answer (liftM (listEntries config d (params.expired.getD false)
        ((listOrder choices).arrange (db.passwordsOf user))
        (max (params.take.getD 0) 0).toNat (clampInt 1 200 (params.size.getD 50)).toNat) :
        Handler (List PasswordEntry)) (fun n => choices (n + 8), db) := by
  refine list_queries config calm access params (r := .ok _) ?_
  rw [Db.exec, if_pos (by rwa [List.length_map]), passwords_in_groups]
  rfl

/-- With more groups SQLite refuses the query. -/
theorem list_refused (config : Config) (calm : Calm choices) (access : Access db headers ip d user)
    (params : ListParams) (many : SQLITE_MAX_VARIABLE_NUMBER < (db.groupsOf user).length) :
    Fallible.exec Action.answer (listHandler config headers ip params) (choices, db) =
      (.error ⟨.database .tooManyVariables, .backend⟩, fun n => choices (n + 8), db) := by
  refine list_queries config calm access params (r := .error _) ?_
  rw [Db.exec, if_neg (by rw [List.length_map]; omega)]

/-- The two databases hold the same passwords. -/
structure SamePasswords (db db' : Db) : Prop where
  groups : db'.groups = db.groups
  passwords : db'.passwords = db.passwords

omit [Crypto] in
theorem SamePasswords.groupsOf (same : SamePasswords db db') (user : String) :
    db'.groupsOf user = db.groupsOf user := by
  rw [Db.groupsOf, same.groups]
  rfl

omit [Crypto] in
theorem SamePasswords.passwordsOf (same : SamePasswords db db') (user : String) :
    db'.passwordsOf user = db.passwordsOf user := by
  unfold Db.passwordsOf Db.owner Db.groupOwner
  rw [same.groups, same.passwords]

/-- Both requests are refused alike, or both are answered alike. -/
inductive AnsweredAlike {α : Type} (alike : α → α → Prop) : Except Failure α → Except Failure α → Prop where
  | refused (f : Failure) : AnsweredAlike alike (.error f) (.error f)
  | sent {a a'} (same : alike a a') : AnsweredAlike alike (.ok a) (.ok a')

section
variable [Archive] (opens : OpensSealed) (seals : Seals) (calm : Calm choices) (calm' : Calm choices')
  (times : SameMoments choices choices') (access : Access db headers ip d user)
  (access' : Access db' headers' ip' d' user) (derived : openSharedKey d config = .ok key)
  (derived' : openSharedKey d' config = .ok key') (same : SamePasswords db db')
  (usable : ∀ p ∈ db.passwords, p.Usable config)
include opens seals calm calm' times access access' derived derived' same usable

/-- Two devices of a user are answered alike about each page. -/
theorem pages_alike (params : ListParams) :
    ∃ r r', AnsweredAlike (List.Forall₂ (SameEntry key key')) r r' ∧
      ((db.groupsOf user).length ≤ SQLITE_MAX_VARIABLE_NUMBER → ∃ entries, r = .ok entries) ∧
      served config choices (.pwdList headers ip params) db = (r.map .passwords, db) ∧
      served config choices' (.pwdList headers' ip' params) db' = (r'.map .passwords, db') := by
  have groups : db'.groupsOf user = db.groupsOf user := same.groupsOf user
  by_cases few : (db.groupsOf user).length ≤ SQLITE_MAX_VARIABLE_NUMBER
  · have read := list_reads config calm access params few
    have read' := list_reads config calm' access' params (groups ▸ few)
    have order : listOrder choices' = listOrder choices := congrArg Moment.order (times 7).symm
    rw [same.passwordsOf, order] at read'
    have rows : ∀ p ∈ (listOrder choices).arrange (db.passwordsOf user), p.Usable config := fun p member =>
      usable p (mem_passwordsOf.mp (((listOrder choices).perm _).subset member)).1
    obtain ⟨m, entries, entries', alike, left, right⟩ := listEntries_alike db db' opens seals derived
      derived' (params.expired.getD false) rows (max (params.take.getD 0) 0).toNat
      (clampInt 1 200 (params.size.getD 50)).toNat (times.shift 8)
    refine ⟨.ok entries, .ok entries', .sent alike, fun _ => ⟨entries, rfl⟩, ?_, ?_⟩
    · unfold served serve
      rw [exec_map (read.trans left)]
    · unfold served serve
      rw [exec_map (read'.trans right)]
  · have many := Nat.lt_of_not_le few
    refine ⟨_, _, .refused ⟨.database .tooManyVariables, .backend⟩, fun within => absurd within few, ?_, ?_⟩
    · unfold served serve
      rw [exec_map (list_refused config calm access params many)]
    · unfold served serve
      rw [exec_map (list_refused config calm' access' params (groups ▸ many))]

/-- Two devices of a user are answered alike about each password. -/
theorem fetched_alike (uuid : Uuid) :
    ∃ r r', AnsweredAlike (SameDetail key key') r r' ∧
      served config choices (.pwdGet headers ip uuid) db = (r.map .detail, db) ∧
      served config choices' (.pwdGet headers' ip' uuid) db' = (r'.map .detail, db') := by
  suffices run : ∃ r r' rest rest', AnsweredAlike (SameDetail key key') r r' ∧
      Fallible.exec Action.answer (getHandler config headers ip uuid) (choices, db) = (r, rest, db) ∧
      Fallible.exec Action.answer (getHandler config headers' ip' uuid) (choices', db') = (r', rest', db') by
    obtain ⟨r, r', rest, rest', alike, left, right⟩ := run
    refine ⟨r, r', alike, ?_, ?_⟩
    · unfold served serve
      rw [exec_map left]
    · unfold served serve
      rw [exec_map right]
  obtain ⟨conn, connected⟩ := exec_conn db (calm.shift 4)
  obtain ⟨conn', connected'⟩ := exec_conn db' (calm'.shift 4)
  have entered := exec_validateAuth calm access
  have entered' := exec_validateAuth calm' access'
  have lookup : Fallible.exec Action.answer
      (liftM (Password.findByUuid conn uuid.toString) : Handler (Option Password))
      (fun n => choices (n + 6), db) =
        (.ok (Table.find (·.uuid) db.passwords uuid.toString), fun n => choices (n + 7), db) :=
    exec_statement (calm.statements 6) rfl
  have lookup' : Fallible.exec Action.answer
      (liftM (Password.findByUuid conn' uuid.toString) : Handler (Option Password))
      (fun n => choices' (n + 6), db') =
        (.ok (Table.find (·.uuid) db.passwords uuid.toString), fun n => choices' (n + 7), db') :=
    exec_statement (calm'.statements 6) (by rw [← same.passwords]; rfl)
  have group : ∀ target, Fallible.exec Action.answer
      (liftM (Group.findByUuid conn target) : Handler (Option Group)) (fun n => choices (n + 7), db) =
        (.ok (Table.find (·.uuid) db.groups target), fun n => choices (n + 8), db) :=
    fun target => exec_statement (calm.statements 7) rfl
  have group' : ∀ target, Fallible.exec Action.answer
      (liftM (Group.findByUuid conn' target) : Handler (Option Group)) (fun n => choices' (n + 7), db') =
        (.ok (Table.find (·.uuid) db.groups target), fun n => choices' (n + 8), db') :=
    fun target => exec_statement (calm'.statements 7) (by rw [← same.groups]; rfl)
  unfold getHandler
  simp only [Fallible.exec_bind, entered, entered', exec_okOr, access.linked, access'.linked, connected,
    connected', lookup, lookup']
  cases found : Table.find (·.uuid) db.passwords uuid.toString with
  | none => exact ⟨_, _, _, _, .refused _, rfl, rfl⟩
  | some p =>
    simp only [group, group']
    cases owned : Table.find (·.uuid) db.groups p.groupId with
    | none => exact ⟨_, _, _, _, .refused _, rfl, rfl⟩
    | some g =>
      simp only [exec_refuseIf]
      by_cases mine : g.userId = user
      · obtain ⟨plain, opened⟩ := usable p (Table.find_some found).1
        obtain ⟨sent, sent', text, left, right⟩ := sent_alike opens seals opened derived derived'
          (fun n => choices (n + 8)) (fun n => choices' (n + 8)) db db'
        have clock : ((choices 9).chance 0).clock = ((choices' 9).chance 0).clock :=
          congrArg Moment.clock (times 9)
        simp only [mine, ne_eq, not_true_eq_false, if_false, left, right, exec_daysRemaining,
          Fallible.exec_pure, Nat.zero_add, clock]
        exact ⟨_, _, _, _, .sent ⟨text, rfl⟩, rfl, rfl⟩
      · simp only [ne_eq, mine, not_false_eq_true, if_true]
        exact ⟨_, _, _, _, .refused _, rfl, rfl⟩

end

end PasswordManager
