import PasswordManager.Security.AtRest
import PasswordManager.Security.Reading
import PasswordManager.Security.View
import PasswordManager.Server.Neighbours
import PasswordManager.Store.Page

/-!
# Pages of passwords

What `/pwd/list` answers at one instant, and when a client that asks for page after page gets every
password of the user once.
-/

namespace PasswordManager
open Interaction Fallible Page

/-- The environment serves the requests, and its clock stands still. -/
structure StoppedAt (now : NaiveDateTime) (choices : Nat → Choice) : Prop extends Calm choices where
  clock : ∀ n, ((choices n).chance 0).clock = now

theorem StoppedAt.shift {now : NaiveDateTime} {choices : Nat → Choice} (stopped : StoppedAt now choices)
    (k : Nat) : StoppedAt now fun n => choices (n + k) :=
  ⟨stopped.toCalm.shift k, fun n => stopped.clock (n + k)⟩

/-- In addition SQLite returns the rows of a query in the same order each time. -/
structure SteadyAt (now : NaiveDateTime) (order : RowOrder) (choices : Nat → Choice) : Prop
    extends StoppedAt now choices where
  order : ∀ n, ((choices n).chance 0).order = order

theorem steadyAt_constant (now : NaiveDateTime) (order : RowOrder) :
    SteadyAt now order fun _ => { chance := fun _ => { clock := now, order } } where
  pool _ := ⟨⟨0⟩, rfl⟩
  statements _ := rfl
  clock _ := rfl
  order _ := rfl

/-- `is_expired` of a row, given the time. -/
def Password.expiredAt (now : NaiveDateTime) (p : Password) : Bool :=
  daysRemainingAt now p.validSince p.validSinceDays ≤ 0

variable [Crypto] {config : Config} {choices : Nat → Choice} {db : Db} {headers : HeaderMap}
  {ip user : String} {d : Identity} {key : BytesN 32} {now : NaiveDateTime}

/-- The entry shows the row as it is at the time, the password sealed under the device's key. -/
structure Shown (config : Config) (key : BytesN 32) (now : NaiveDateTime) (p : Password)
    (entry : PasswordEntry) : Prop where
  pwd : ∃ plain, openPwd p.pwd config = .ok plain ∧ clientOpen entry.pwd key = some plain
  rest : entry = rowEntry p entry.pwd
    (if p.expiredAt now then 0 else daysRemainingAt now p.validSince p.validSinceDays)

/-! ## One page -/

/-- At one instant the page has the rows of the wanted kind from `skip` on, at most `take`. -/
theorem listEntries_page (opens : OpensSealed) (seals : Seals)
    (derived : openSharedKey d config = .ok key) (expired : Bool) {rows : List Password}
    (usable : ∀ p ∈ rows, p.Usable config) (stopped : StoppedAt now choices) (skip take : Nat) :
    ∃ m entries, exec Action.answer (liftM (listEntries config d expired rows skip take) :
        Handler (List PasswordEntry)) (choices, db) = (.ok entries, fun n => choices (n + m), db) ∧
      List.Forall₂ (Shown config key now)
        (((rows.filter fun p => p.expiredAt now = expired).drop skip).take take) entries := by
  induction rows generalizing choices skip take with
  | nil => exact ⟨0, [], rfl, by simp⟩
  | cons p rows ih =>
    have usable' := fun q member => usable q (List.mem_cons_of_mem _ member)
    cases take with
    | zero => exact ⟨0, [], rfl, by simp⟩
    | succ take =>
      have kind : decide (daysRemainingAt ((choices 0).chance 0).clock p.validSince p.validSinceDays ≤ 0) =
          p.expiredAt now := by
        rw [stopped.clock]
        rfl
      unfold listEntries
      simp only [lift_bind, exec_bind, exec_isExpired, kind]
      split
      · rename_i wanted
        rw [List.filter_cons_of_pos (by simpa using wanted)]
        cases skip with
        | succ skip =>
          obtain ⟨m, entries, done, shown⟩ := ih usable' (stopped.shift 1) skip (take + 1)
          exact ⟨m + 1, entries, done, shown⟩
        | zero =>
          obtain ⟨plain, opened⟩ := usable p List.mem_cons_self
          obtain ⟨blob, sealed⟩ := sealWith_isOk seals ((choices 1).chance 0).nonce plain key
          have sent : exec Action.answer (liftM (encryptForClient p.pwd d config) : Handler String)
              (fun n => choices (n + 1), db) = (.ok (Hex.encode blob), fun n => choices (n + 2), db) :=
            exec_encryptForClient opened derived sealed
          have text := clientOpen_sealed opens sealed
          simp only [lift_bind, exec_bind, sent]
          cases expired with
          | true =>
            obtain ⟨m, entries, done, shown⟩ := ih usable' (stopped.shift 2) 0 take
            refine ⟨m + 2, rowEntry p (Hex.encode blob) 0 :: entries, ?_, .cons ⟨⟨plain, opened, text⟩, ?_⟩ shown⟩
            · simp only [if_true, pure_bind, lift_bind, exec_bind]
              rw [done]
              rfl
            · rw [if_pos wanted]
          | false =>
            obtain ⟨m, entries, done, shown⟩ := ih usable' (stopped.shift 3) 0 take
            refine ⟨m + 3, rowEntry p (Hex.encode blob)
              (daysRemainingAt now p.validSince p.validSinceDays) :: entries, ?_,
              .cons ⟨⟨plain, opened, text⟩, ?_⟩ shown⟩
            · simp only [Bool.false_eq_true, if_false, lift_bind, exec_bind, exec_daysRemaining]
              rw [done, ← stopped.clock 2]
              rfl
            · rw [if_neg (Bool.eq_false_iff.mp wanted)]
      · rename_i unwanted
        rw [List.filter_cons_of_neg (by simpa using unwanted)]
        obtain ⟨m, entries, done, shown⟩ := ih usable' (stopped.shift 1) skip (take + 1)
        exact ⟨m + 1, entries, done, shown⟩

/-! ## All pages -/

/-- The number of entries of a page: the size that is asked for, from 1 to 200. -/
def pageSize (size : Option Int) : Nat := (clampInt 1 200 (size.getD 50)).toNat

omit [Crypto] in
theorem pageSize_bounds (size : Option Int) : 1 ≤ pageSize size ∧ pageSize size ≤ 200 := by
  unfold pageSize clampInt
  omega

/-- The rows of a kind, as they come. -/
def Db.ofKind (db : Db) (user : String) (order : RowOrder) (now : NaiveDateTime) (expired : Bool) :
    List Password :=
  (order.arrange (db.passwordsOf user)).filter fun p => p.expiredAt now = expired

omit [Crypto] in
/-- Each password of the user is of one kind. -/
theorem kinds_perm (db : Db) (user : String) (order : RowOrder) (now : NaiveDateTime) :
    (db.ofKind user order now false ++ db.ofKind user order now true).Perm (db.passwordsOf user) := by
  have split := List.filter_append_perm (fun p => decide (p.expiredAt now = false))
    (order.arrange (db.passwordsOf user))
  have rest : (order.arrange (db.passwordsOf user)).filter (fun p => !decide (p.expiredAt now = false)) =
      db.ofKind user order now true := by
    refine List.filter_congr fun p _ => ?_
    cases p.expiredAt now <;> rfl
  rw [rest] at split
  exact split.trans (order.perm _)

/-- At one instant the user is answered with the page that the parameters name. -/
theorem list_page [Archive] (opens : OpensSealed) (seals : Seals) (atRest : AtRest config db)
    (access : Access db headers ip d user) (derived : openSharedKey d config = .ok key)
    (few : (db.groupsOf user).length ≤ SQLITE_MAX_VARIABLE_NUMBER) (stopped : StoppedAt now choices)
    (params : ListParams) :
    ∃ entries, served config choices (.pwdList headers ip params) db = (.ok (.passwords entries), db) ∧
      List.Forall₂ (Shown config key now)
        (((db.ofKind user (listOrder choices) now (params.expired.getD false)).drop
          (max (params.take.getD 0) 0).toNat).take (pageSize params.size)) entries := by
  have usable : ∀ p ∈ (listOrder choices).arrange (db.passwordsOf user), p.Usable config := fun p member =>
    atRest.passwords p (mem_passwordsOf.mp (((listOrder choices).perm _).subset member)).1
  obtain ⟨m, entries, done, shown⟩ := listEntries_page opens seals derived (params.expired.getD false) usable
    (stopped.shift 8) (max (params.take.getD 0) 0).toNat (pageSize params.size)
  refine ⟨entries, ?_, shown⟩
  unfold served serve
  rw [exec_map ((list_reads config stopped.toCalm access params few).trans done)]
  rfl

/-- A user with more groups than a statement can have parameters is answered with an error. -/
theorem list_exceeds [Archive] (config : Config) (access : Access db headers ip d user)
    (many : SQLITE_MAX_VARIABLE_NUMBER < (db.groupsOf user).length) (calm : Calm choices) (params : ListParams) :
    served config choices (.pwdList headers ip params) db =
      (.error ⟨.database .tooManyVariables, .backend⟩, db) := by
  unfold served serve
  rw [exec_map (list_refused config calm access params many)]
  rfl

/-- A client that asks with this size for the pages 0, 1, 2 and so on until an empty one, of the valid and
of the expired passwords, at one instant and while the rows come in one order, gets every password of the
user once. -/
structure PagesComplete [Archive] (config : Config) (db : Db) (headers : HeaderMap) (ip : String)
    (d : Identity) (user : String) (now : NaiveDateTime) (order : RowOrder) (size : Option Int) : Prop where
  bounds : 1 ≤ pageSize size ∧ pageSize size ≤ 200
  negative : ∀ choices expired take, take ≤ 0 →
    served config choices (.pwdList headers ip ⟨expired, some take, size⟩) db =
      served config choices (.pwdList headers ip ⟨expired, some 0, size⟩) db
  short : ∀ choices expired take, StoppedAt now choices → ∃ entries,
    served config choices (.pwdList headers ip ⟨expired, take, size⟩) db = (.ok (.passwords entries), db) ∧
      entries.length ≤ pageSize size
  complete : ∀ env : Bool → Nat → Nat → Choice, (∀ expired k, SteadyAt now order (env expired k)) →
    ∃ (key : BytesN 32) (pages : Bool → Nat → List PasswordEntry),
      openSharedKey d config = .ok key ∧
      (∀ expired k, served config (env expired k)
        (.pwdList headers ip ⟨some expired, some (k * pageSize size : Nat), size⟩) db =
          (.ok (.passwords (pages expired k)), db)) ∧
      ∃ valid expired rows, Collects (pages false) 0 valid ∧ Collects (pages true) 0 expired ∧
        rows.Perm (db.passwordsOf user) ∧ List.Forall₂ (Shown config key now) rows (valid ++ expired)

section
variable [Archive] (opens : OpensSealed) (seals : Seals) (atRest : AtRest config db)
  (access : Access db headers ip d user) (few : (db.groupsOf user).length ≤ SQLITE_MAX_VARIABLE_NUMBER)
include opens seals atRest access few

theorem pages_short (choices : Nat → Choice) (stopped : StoppedAt now choices) (params : ListParams) :
    ∃ entries, served config choices (.pwdList headers ip params) db = (.ok (.passwords entries), db) ∧
      entries.length ≤ pageSize params.size := by
  obtain ⟨key, derived⟩ := openSharedKey_usable (atRest.identities d access.device)
  obtain ⟨entries, done, shown⟩ := list_page opens seals atRest access derived few stopped params
  refine ⟨entries, done, ?_⟩
  rw [← shown.length_eq]
  exact List.length_take_le _ _

theorem pages_collect {order : RowOrder} (size : Option Int) {env : Bool → Nat → Nat → Choice}
    (steady : ∀ expired k, SteadyAt now order (env expired k)) :
    ∃ (key : BytesN 32) (pages : Bool → Nat → List PasswordEntry),
      openSharedKey d config = .ok key ∧
      (∀ expired k, served config (env expired k)
        (.pwdList headers ip ⟨some expired, some (k * pageSize size : Nat), size⟩) db =
          (.ok (.passwords (pages expired k)), db)) ∧
      ∃ valid expired rows, Collects (pages false) 0 valid ∧ Collects (pages true) 0 expired ∧
        rows.Perm (db.passwordsOf user) ∧ List.Forall₂ (Shown config key now) rows (valid ++ expired) := by
  obtain ⟨key, derived⟩ := openSharedKey_usable (atRest.identities d access.device)
  choose pages done shown using fun expired k => list_page opens seals atRest access derived few
    (steady expired k).toStoppedAt ⟨some expired, some (k * pageSize size : Nat), size⟩
  have page : ∀ expired k, List.Forall₂ (Shown config key now)
      (page (db.ofKind user order now expired) (pageSize size) k) (pages expired k) := by
    intro expired k
    have skipped : (max ((k * pageSize size : Nat) : Int) 0).toNat = k * pageSize size := by omega
    have ordered : listOrder (env expired k) = order := (steady expired k).order 7
    have shown := shown expired k
    rwa [Option.getD_some, Option.getD_some, skipped, ordered] at shown
  have positive : 0 < pageSize size := (pageSize_bounds size).1
  obtain ⟨valid, collects, all⟩ := collects_all positive (page false)
  obtain ⟨expired, collects', all'⟩ := collects_all positive (page true)
  exact ⟨key, pages, derived, done, valid, expired, _, collects, collects', kinds_perm db user order now,
    List.rel_append all all'⟩

end

theorem pages_exceed [Archive] {order : RowOrder} {size : Option Int} (access : Access db headers ip d user)
    (many : SQLITE_MAX_VARIABLE_NUMBER < (db.groupsOf user).length) :
    ¬PagesComplete config db headers ip d user now order size := by
  intro complete
  have stopped := (steadyAt_constant now order).toStoppedAt
  obtain ⟨entries, done, -⟩ := complete.short _ none none stopped
  cases done.symm.trans (list_exceeds config access many stopped.toCalm _)

/-- Paging is complete for exactly the users whose groups a statement can name. -/
theorem pages_complete_iff [Archive] (opens : OpensSealed) (seals : Seals) {c : ServerState}
    (reached : (server config).Reachable c) (access : Access c.world headers ip d user)
    (now : NaiveDateTime) (order : RowOrder) (size : Option Int) :
    PagesComplete config c.world headers ip d user now order size ↔
      (c.world.groupsOf user).length ≤ SQLITE_MAX_VARIABLE_NUMBER := by
  have atRest := run_atRest opens (reachable_run reached)
  constructor
  · intro complete
    by_contra many
    exact pages_exceed access (Nat.lt_of_not_le many) complete
  · intro few
    refine ⟨pageSize_bounds size, ?_, fun choices expired take stopped => ?_, fun env steady => ?_⟩
    · intro choices expired take negative
      have first : (max take 0).toNat = (max (0 : Int) 0).toNat := by omega
      unfold served serve listHandler
      simp only [Option.getD_some, first]
    · exact pages_short opens seals atRest access few choices stopped ⟨expired, take, size⟩
    · exact pages_collect opens seals atRest access few size steady

omit [Crypto] in
theorem InUse.access {c : ServerState} {u : User} (uses : InUse d u) (device : d ∈ c.world.identities)
    (owner : u ∈ c.world.users) :
    letI := plainCrypto
    Access c.world deviceHeaders deviceIp d u.uuid := by
  let _ := plainCrypto
  have header : HeaderMap.getStr deviceHeaders "device-token" = some (numbered 2064).toString := by
    decide +kernel
  exact ⟨⟨_, header, uses.token⟩, device, uses.address, uses.confirmed, uses.linked, u, owner, rfl, uses.active⟩

/-- The order of the index on `group_id`. -/
def RowOrder.byGroup : RowOrder where
  arrange rows := rows.mergeSort fun p q => p.groupId ≤ q.groupId
  perm rows := List.mergeSort_perm rows _

omit [Crypto] in
theorem shelfRun_shelves :
    ∃ d ∈ shelfRun.world.identities, ∃ u ∈ shelfRun.world.users, InUse d u ∧
      (shelfRun.world.groupsOf u.uuid).length = 2 ∧ (shelfRun.world.passwordsOf u.uuid).length = 4 := by
  decide +kernel

omit [Crypto] in
/-- After two days one of the four passwords in the two groups has expired; the pages have two entries. -/
theorem pages_complete_iff_shelf :
    letI := plainCrypto
    letI := plainArchive
    ∃ d u, (shelfRun.world.groupsOf u).length = 2 ∧ (shelfRun.world.passwordsOf u).length = 4 ∧
      pageSize (some 2) = 2 ∧ PagesComplete plainConfig shelfRun.world deviceHeaders deviceIp d u
        (2 * NaiveDateTime.day) .byGroup (some 2) := by
  let _ := plainCrypto
  let _ := plainArchive
  obtain ⟨d, device, u, owner, uses, groups, passwords⟩ := shelfRun_shelves
  refine ⟨d, u.uuid, groups, passwords, by decide, ?_⟩
  refine (pages_complete_iff plain_opens plain_seals shelfRun_reachable (uses.access device owner) _ _ _).mpr ?_
  rw [groups]
  decide

end PasswordManager
