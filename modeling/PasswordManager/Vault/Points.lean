import PasswordManager.Interaction.Linear
import PasswordManager.Security.Paging
import PasswordManager.Vault.Object

/-!
# Where the operations take effect

The statement of each handler at which its vault operation happens, and what the handler has
checked by then and replies in the end.
-/

namespace PasswordManager
open Interaction

/-- The user of the device that the request has identified itself as. -/
def bearer (h : History Action.Answer) : Option String :=
  h.findSome? fun
    | ⟨.effect (.sql _ (.identityFindByDeviceToken _)),
        (.ok (some d) : Except DbError (Option Identity))⟩ => d.userId
    | _ => none

/-- The statement at which the operation of the request takes effect, or its list is read. -/
def Action.marks : Request → Action → Bool
  | .groupCreate _ _ _, .effect (.sql _ (.groupCreate _)) => true
  | .groupList _ _, .effect (.sql _ (.groupFindByUser _)) => true
  | .pwdList _ _ _, .effect (.sql _ (.passwordFindByGroups _)) => true
  | .pwdCreate _ _ _, .effect (.sql _ (.passwordCreate _)) => true
  | .pwdUpdate _ _ _ _, .effect (.sql _ (.passwordUpdate _ _ _)) => true
  | .pwdGet _ _ _, .effect (.sql _ (.passwordFindByUuid _)) => true
  | _, _ => false

variable [Crypto]

/-- The operation that takes effect at an action, with its result. A lookup is one only if the
password belongs to the user. -/
def mark (config : Config) : Request → History Action.Answer → Exchange Action.Answer → Db →
    Option (VaultOp × VaultOut)
  | .groupCreate _ _ _, _, ⟨.effect (.sql _ (.groupCreate _)), (.ok row : Except DbError Group)⟩, _ =>
    some (.createFolder row.folder, .done)
  | .groupList _ _, _, ⟨.effect (.sql _ (.groupFindByUser user)),
      (.ok rows : Except DbError (List Group))⟩, _ =>
    some (.listFolders user, .folders (rows.map (·.folder)))
  | .pwdCreate _ _ _, h, ⟨.effect (.sql _ (.passwordCreate _)),
      (.ok row : Except DbError Password)⟩, _ =>
    (bearer h).map fun user => (.createEntry user row.uuid (row.entry config), .done)
  | .pwdUpdate _ _ _ _, h, ⟨.effect (.sql _ (.passwordUpdate uuid changes now)),
      (.ok row : Except DbError Password)⟩, _ =>
    (bearer h).map fun user => (.updateEntry user uuid {
      folder := row.groupId
      secret := (row.entry config).secret
      name := changes.name
      extra := changes.extra
      now }, .done)
  | .pwdGet _ _ _, h, ⟨.effect (.sql _ (.passwordFindByUuid uuid)),
      (.ok (some row) : Except DbError (Option Password))⟩, db => do
    let user ← bearer h
    let group ← Table.find (·.uuid) db.groups row.groupId
    if group.userId = user then some (.getEntry user uuid, .entry (row.entry config) group.folder)
    else none
  | _, _, _, _ => none

variable {config : Config} {req : Request} {h : History Action.Answer} {e : Exchange Action.Answer}
  {db : Db} {done : VaultOp × VaultOut}

theorem mark_marks (marked : mark config req h e db = some done) : e.action.marks req = true := by
  unfold mark at marked
  split at marked
  all_goals first
    | rfl
    | cases marked

/-! ## What a query has checked -/

/-- The queries that are operations of their own come once, for the user of the device, and passwords
are listed by groups that were listed before. -/
structure Sighted (req : Request) (h : History Action.Answer) (x : Action) : Prop where
  once : x.marks req = true → ∀ e ∈ h, e.action.marks req = false
  list : ∀ headers ip conn user, req = .groupList headers ip →
    x = .effect (.sql conn (.groupFindByUser user)) → ∃ identity, Accepted h headers ip identity user
  get : ∀ headers ip uuid conn key, req = .pwdGet headers ip uuid →
    x = .effect (.sql conn (.passwordFindByUuid key)) →
    key = uuid.toString ∧ ∃ identity user, Accepted h headers ip identity user
  pages : ∀ headers ip params conn ids, req = .pwdList headers ip params →
    x = .effect (.sql conn (.passwordFindByGroups ids)) → ∃ identity user conn groups,
      Accepted h headers ip identity user ∧ answered conn (.groupFindByUser user) groups ∈ h ∧
      ids = groups.map (·.uuid)

theorem Sighted.free {x : Action} (free : x.marks req = false) : Sighted req h x where
  once marked := by cases free.symm.trans marked
  list := by
    rintro headers ip conn user rfl rfl
    cases free
  get := by
    rintro headers ip uuid conn key rfl rfl
    cases free
  pages := by
    rintro headers ip params conn ids rfl rfl
    cases free

/-- The operation has not taken effect. -/
def Unmarked (req : Request) (h : History Action.Answer) : Prop := ∀ e ∈ h, e.action.marks req = false

omit [Crypto] in
theorem Unmarked.cons (free : e.action.marks req = false) (unmarked : Unmarked req h) :
    Unmarked req (e :: h) :=
  List.forall_mem_cons.mpr ⟨free, unmarked⟩

/-- A handler whose queries are `Sighted`. -/
abbrev Sees {α : Type} (req : Request) (good : History Action.Answer → α → Prop)
    (h : History Action.Answer) (p : Handler α) : Prop :=
  Fallible.Spec (Sighted req) (fun _ _ => True) good h p

section
variable {α β : Type} {good : History Action.Answer → β → Prop}

theorem sees_okOr {value : Option α} {error : AppError} {f : α → Handler β}
    (next : ∀ v, value = some v → Sees req good h (f v)) : Sees req good h (okOr value error >>= f) := by
  rw [Sees, Fallible.spec_bind, spec_okOr]
  exact ⟨next, fun _ => trivial⟩

theorem sees_refuseIf {condition : Prop} [Decidable condition] {error : AppError} {f : Unit → Handler β}
    (next : ¬condition → Sees req good h (f ())) : Sees req good h (refuseIf condition error >>= f) := by
  rw [Sees, Fallible.spec_bind, spec_refuseIf]
  exact ⟨next, fun _ => trivial⟩

theorem sees_attempt {origin : Origin} {r : Except AppError α} {f : α → Handler β}
    (next : ∀ v, r = .ok v → Sees req good h (f v)) : Sees req good h (attempt origin r >>= f) := by
  rw [Sees, Fallible.spec_bind, spec_attempt]
  exact ⟨next, fun _ _ => trivial⟩

theorem sees_sql {conn : Conn} {q : Query} {f : q.Answer → Handler β}
    (sighted : Sighted req h (.effect (.sql conn q)))
    (next : ∀ a, Sees req good (answered conn q a :: h) (f a)) :
    Sees req good h ((liftM (sql conn q) : Handler q.Answer) >>= f) := by
  rw [Sees, Fallible.spec_bind, spec_sql]
  exact ⟨sighted, next, fun _ => trivial⟩

omit [Crypto] in
theorem free_clonePool : (Action.file .clonePool).marks req = false := by cases req <;> rfl

omit [Crypto] in
theorem free_poolGet {pool : DbPool} : (Action.file (.poolGet pool)).marks req = false := by
  cases req <;> rfl

omit [Crypto] in
theorem free_uuid : (Action.effect .uuid).marks req = false := by cases req <;> rfl

omit [Crypto] in
theorem free_now : (Action.effect .now).marks req = false := by cases req <;> rfl

omit [Crypto] in
theorem free_nonce : (Action.effect .nonce).marks req = false := by cases req <;> rfl

omit [Crypto] in
theorem free_device {conn : Conn} {token : String} :
    (Action.effect (.sql conn (.identityFindByDeviceToken token))).marks req = false := by
  cases req <;> rfl

omit [Crypto] in
theorem free_user {conn : Conn} {uuid : String} :
    (Action.effect (.sql conn (.userFindByUuid uuid))).marks req = false := by
  cases req <;> rfl

omit [Crypto] in
theorem free_group {conn : Conn} {uuid : String} :
    (Action.effect (.sql conn (.groupFindByUuid uuid))).marks req = false := by
  cases req <;> rfl

theorem sees_stateConn {f : Conn → Handler β} (unmarked : Unmarked req h)
    (next : ∀ h' conn, h ⊆ h' → Unmarked req h' → Sees req good h' (f conn)) :
    Sees req good h ((liftM stateConn : Handler Conn) >>= f) := by
  rw [Sees, Fallible.spec_bind, spec_stateConn]
  refine ⟨.free free_clonePool, fun pool => ⟨.free free_poolGet, fun conn => ?_, fun _ => trivial⟩⟩
  have later : Unmarked req (gotConn pool (.ok conn) :: clonedPool pool :: h) :=
    (unmarked.cons free_clonePool).cons free_poolGet
  exact next _ conn (fun e member => by simp [member]) later

theorem sees_newUuid {f : String → Handler β}
    (next : ∀ u, Sees req good (drewUuid u :: h) (f u.toString)) :
    Sees req good h ((liftM newUuid : Handler String) >>= f) := by
  rw [Sees, Fallible.spec_bind, spec_newUuid]
  exact ⟨.free free_uuid, next⟩

theorem sees_utcNow {f : NaiveDateTime → Handler β}
    (next : ∀ t, Sees req good (readClock t :: h) (f t)) :
    Sees req good h ((liftM utcNow : Handler NaiveDateTime) >>= f) := by
  rw [Sees, Fallible.spec_bind, spec_utcNow]
  exact ⟨.free free_now, next⟩

theorem sees_encrypt {data : Bytes} {key : BytesN 32} {f : Bytes → Handler β}
    (next : ∀ nonce blob, Sees req good (drewNonce nonce :: h) (f blob)) :
    Sees req good h ((liftM (encryptWithSharedKey data key) : Handler Bytes) >>= f) := by
  rw [Sees, Fallible.spec_bind, spec_encrypt]
  exact ⟨.free free_nonce, fun nonce => ⟨fun blob _ => next nonce blob, fun _ _ => trivial⟩⟩

theorem sees_daysRemaining {validSince : NaiveDateTime} {days : Int} {f : Int → Handler β}
    (next : ∀ now, Sees req good (readClock now :: h) (f (daysRemainingAt now validSince days))) :
    Sees req good h ((liftM (daysRemaining validSince days) : Handler Int) >>= f) := by
  unfold daysRemaining
  rw [Sees, lift_bind, bind_assoc, Fallible.spec_bind, spec_utcNow]
  exact ⟨.free free_now, next⟩

theorem sees_encryptForClient {stored : String} {identity : Identity} {f : String → Handler β}
    (next : ∀ nonce sent, ForClient config identity stored sent →
      Sees req good (drewNonce nonce :: h) (f sent)) :
    Sees req good h ((liftM (encryptForClient stored identity config) : Handler String) >>= f) := by
  unfold encryptForClient
  simp only [lift_bind, lift_pure, lift_attempt, bind_assoc, pure_bind]
  refine sees_attempt fun plain opened => ?_
  refine sees_attempt fun key derived => ?_
  rw [Sees, Fallible.spec_bind, spec_encrypt]
  refine ⟨.free free_nonce, fun nonce => ⟨fun blob sealed => ?_, fun _ _ => trivial⟩⟩
  exact next nonce _ ⟨plain, key, nonce, blob, opened, derived, sealed, rfl⟩

theorem sees_decryptFromClient {field : String} {identity : Identity} {f : Bytes → Handler β}
    (next : ∀ plain, Sees req good h (f plain)) :
    Sees req good h ((liftM (decryptFromClient field identity config) : Handler Bytes) >>= f) := by
  unfold decryptFromClient
  simp only [lift_bind, lift_okOr, lift_attempt, bind_assoc]
  refine sees_okOr fun blob decoded => ?_
  refine sees_attempt fun key derived => ?_
  exact sees_attempt fun plain opened => next plain

theorem sees_validateAuth {headers : HeaderMap} {ip : String} {f : Identity → Handler β}
    (next : ∀ h identity user, Accepted h headers ip identity user → Unmarked req h →
      Sees req good h (f identity)) : Sees req good [] (validateAuth headers ip >>= f) := by
  unfold validateAuth
  simp only [bind_assoc, pure_bind]
  refine sees_okOr fun token header => ?_
  refine sees_stateConn (by simp [Unmarked]) fun h conn _ unmarked => ?_
  refine sees_sql (.free free_device) fun found => ?_
  refine sees_okOr fun identity present => ?_
  subst present
  refine sees_refuseIf fun address => ?_
  refine sees_refuseIf fun confirmed => ?_
  refine sees_okOr fun user linked => ?_
  refine sees_sql (.free free_user) fun found => ?_
  refine sees_okOr fun row present => ?_
  subst present
  refine sees_refuseIf fun active => ?_
  refine next _ identity user ⟨⟨token, conn, header, by simp⟩, not_not.mp address, ?_, linked, ?_⟩
    ((unmarked.cons free_device).cons free_user)
  · exact Bool.not_eq_false _ |>.mp confirmed
  · exact ⟨conn, row, by simp, Bool.eq_false_iff.mpr active⟩

end

/-! ## What the replies show -/

/-- The details of a row. -/
abbrev rowDetail (p : Password) (g : Group) (sent : String) (expires : Int) : PasswordDetail where
  uuid := p.uuid
  pwd := sent
  name := p.name
  extra := p.extra
  expires := expires
  createdAt := p.createdAt.display
  updatedAt := p.updatedAt.display
  validSinceDays := p.validSinceDays
  group := ⟨g.name, g.extra⟩

abbrev groupResponse (g : Group) : GroupResponse := ⟨g.uuid, g.name, g.extra⟩

/-- The entries of a page, each row judged by the clock as `listEntries` comes to it. -/
inductive Pages (config : Config) (identity : Identity) (expired : Bool) (h : History Action.Answer) :
    List Password → Nat → Nat → List PasswordEntry → Prop where
  | nil {skip take} : Pages config identity expired h [] skip take []
  | full {p rest skip} : Pages config identity expired h (p :: rest) skip 0 []
  | pass {p : Password} {rest skip take entries now} (time : readClock now ∈ h)
      (kind : p.expiredAt now ≠ expired) (pages : Pages config identity expired h rest skip (take + 1) entries) :
      Pages config identity expired h (p :: rest) skip (take + 1) entries
  | skip {p : Password} {rest skip take entries now} (time : readClock now ∈ h)
      (kind : p.expiredAt now = expired) (pages : Pages config identity expired h rest skip (take + 1) entries) :
      Pages config identity expired h (p :: rest) (skip + 1) (take + 1) entries
  | take {p : Password} {rest take entries now now' sent} (time : readClock now ∈ h)
      (kind : p.expiredAt now = expired) (time' : readClock now' ∈ h)
      (forClient : ForClient config identity p.pwd sent)
      (pages : Pages config identity expired h rest 0 take entries) :
      Pages config identity expired h (p :: rest) 0 (take + 1) (rowEntry p sent
        (if expired then 0 else daysRemainingAt now' p.validSince p.validSinceDays) :: entries)

/-- All that a successful reply shows of the rows that the request was given. -/
def Answered (config : Config) : Request → History Action.Answer → Reply → Prop
  | .groupCreate _ _ _, h, .group group => ∃ conn new row,
    answered conn (.groupCreate new) row ∈ h ∧ group = groupResponse row
  | .groupList _ _, h, .groups groups => ∃ conn user rows,
    answered conn (.groupFindByUser user) rows ∈ h ∧ groups = rows.map groupResponse
  | .pwdCreate headers ip _, h, .password entry => ∃ identity user conn new row now,
    Accepted h headers ip identity user ∧ answered conn (.passwordCreate new) row ∈ h ∧
      readClock now ∈ h ∧ ForClient config identity row.pwd entry.pwd ∧
      entry = rowEntry row entry.pwd (daysRemainingAt now row.validSince row.validSinceDays)
  | .pwdList headers ip params, h, .passwords entries => ∃ identity user conn ids rows,
    Accepted h headers ip identity user ∧ answered conn (.passwordFindByGroups ids) rows ∈ h ∧
      Pages config identity (params.expired.getD false) h rows (max (params.take.getD 0) 0).toNat
        (pageSize params.size) entries
  | .pwdUpdate _ _ _ _, _, reply => reply = .null
  | .pwdGet headers ip uuid, h, .detail detail => ∃ identity user conn row group now,
    Accepted h headers ip identity user ∧
      answered conn (.passwordFindByUuid uuid.toString) (some row) ∈ h ∧
      answered conn (.groupFindByUuid row.groupId) (some group) ∈ h ∧ group.userId = user ∧
      readClock now ∈ h ∧ ForClient config identity row.pwd detail.pwd ∧
      detail = rowDetail row group detail.pwd (daysRemainingAt now row.validSince row.validSinceDays)
  | .groupCreate _ _ _, _, _ | .groupList _ _, _, _ | .pwdCreate _ _ _, _, _ | .pwdGet _ _ _, _, _
  | .pwdList _ _ _, _, _ => False
  | _, _, _ => True

theorem sees_groupCreate {headers : HeaderMap} {ip : String} {body : CreateGroupRequest} :
    Sees (.groupCreate headers ip body)
      (fun h group => Answered config (.groupCreate headers ip body) h (.group group)) []
      (groupCreateHandler headers ip body) := by
  unfold groupCreateHandler
  refine sees_attempt fun _ lengths => ?_
  refine sees_validateAuth fun h identity user accepted unmarked => ?_
  refine sees_okOr fun owner linked => ?_
  refine sees_stateConn unmarked fun h' conn _ unmarked => ?_
  refine sees_newUuid fun uuid => ?_
  refine sees_sql ⟨fun _ => unmarked.cons free_uuid, nofun, nofun, nofun⟩ fun row => ?_
  exact ⟨conn, _, row, List.mem_cons_self, rfl⟩

theorem sees_groupList {headers : HeaderMap} {ip : String} :
    Sees (.groupList headers ip)
      (fun h groups => Answered config (.groupList headers ip) h (.groups groups)) []
      (groupListHandler headers ip) := by
  unfold groupListHandler
  refine sees_validateAuth fun h identity user accepted unmarked => ?_
  refine sees_okOr fun owner linked => ?_
  cases linked.symm.trans accepted.linked
  refine sees_stateConn unmarked fun h' conn grown unmarked => ?_
  refine sees_sql ⟨fun _ => unmarked, ?_, nofun, nofun⟩ fun rows => ?_
  · rintro _ _ _ _ ⟨⟩ ⟨⟩
    exact ⟨identity, accepted.mono grown⟩
  · exact ⟨conn, _, rows, List.mem_cons_self, rfl⟩

theorem sees_pwdCreate {headers : HeaderMap} {ip : String} {body : CreatePasswordRequest} :
    Sees (.pwdCreate headers ip body)
      (fun h entry => Answered config (.pwdCreate headers ip body) h (.password entry)) []
      (createHandler config headers ip body) := by
  unfold createHandler
  refine sees_attempt fun _ lengths => ?_
  refine sees_validateAuth fun h identity user accepted unmarked => ?_
  refine sees_okOr fun owner linked => ?_
  refine sees_stateConn unmarked fun h' conn grown unmarked => ?_
  have accepted := accepted.mono grown
  refine sees_decryptFromClient fun plain => ?_
  refine sees_encrypt fun nonce blob => ?_
  refine sees_sql (.free free_group) fun found => ?_
  refine sees_okOr fun group present => ?_
  refine sees_refuseIf fun owned => ?_
  refine sees_newUuid fun uuid => ?_
  refine sees_utcNow fun now => ?_
  have unmarked := ((((unmarked.cons (e := drewNonce nonce) free_nonce).cons
    (e := answered conn (.groupFindByUuid body.groupId) found) free_group).cons
    (e := drewUuid uuid) free_uuid).cons (e := readClock now) free_now)
  refine sees_sql ⟨fun _ => unmarked, nofun, nofun, nofun⟩ fun row => ?_
  refine sees_encryptForClient fun nonce sent forClient => ?_
  refine sees_daysRemaining fun now => ?_
  exact ⟨identity, user, conn, _, row, now, accepted.mono fun e member => by simp [member], by simp,
    by simp, forClient, rfl⟩

theorem sees_pwdGet {headers : HeaderMap} {ip : String} {uuid : Uuid} :
    Sees (.pwdGet headers ip uuid)
      (fun h detail => Answered config (.pwdGet headers ip uuid) h (.detail detail)) []
      (getHandler config headers ip uuid) := by
  unfold getHandler
  refine sees_validateAuth fun h identity user accepted unmarked => ?_
  refine sees_okOr fun owner linked => ?_
  cases linked.symm.trans accepted.linked
  refine sees_stateConn unmarked fun h' conn grown unmarked => ?_
  have accepted := accepted.mono grown
  refine sees_sql ⟨fun _ => unmarked, nofun, ?_, nofun⟩ fun found => ?_
  · rintro _ _ _ _ _ ⟨⟩ ⟨⟩
    exact ⟨rfl, identity, user, accepted⟩
  · refine sees_okOr fun row present => ?_
    subst present
    refine sees_sql (.free free_group) fun found => ?_
    refine sees_okOr fun group present => ?_
    subst present
    refine sees_refuseIf fun owned => ?_
    refine sees_encryptForClient fun nonce sent forClient => ?_
    refine sees_daysRemaining fun now => ?_
    exact ⟨identity, user, conn, row, group, now, accepted.mono fun e member => by simp [member],
      by simp, by simp, not_not.mp owned, by simp, forClient, rfl⟩

theorem sees_isExpired {α : Type} {good : History Action.Answer → α → Prop} {p : Password}
    {f : Bool → Handler α} (next : ∀ now, Sees req good (readClock now :: h) (f (p.expiredAt now))) :
    Sees req good h ((liftM (isExpired p.validSince p.validSinceDays) : Handler Bool) >>= f) := by
  unfold isExpired daysRemaining
  rw [Sees, lift_bind, bind_assoc, lift_bind, bind_assoc, Fallible.spec_bind, spec_utcNow]
  exact ⟨.free free_now, next⟩

theorem sees_listEntries {identity : Identity} {expired : Bool} {rows : List Password} {skip take : Nat} :
    Sees req (fun h' entries => h ⊆ h' ∧ Pages config identity expired h' rows skip take entries) h
      (liftM (listEntries config identity expired rows skip take)) := by
  induction rows generalizing h skip take with
  | nil =>
    unfold listEntries
    exact ⟨List.Subset.refl _, .nil⟩
  | cons p rest ih =>
    cases take with
    | zero =>
      unfold listEntries
      exact ⟨List.Subset.refl _, .full⟩
    | succ take =>
      unfold listEntries
      rw [lift_bind]
      refine sees_isExpired fun now => ?_
      split
      · rename_i kind
        cases skip with
        | succ skip =>
          refine Fallible.spec_mono (fun h' entries met => ?_) ih
          have grown := List.Subset.trans (List.subset_cons_self _ _) met.1
          exact ⟨grown, .skip (met.1 List.mem_cons_self) kind met.2⟩
        | zero =>
          simp only [lift_bind]
          refine sees_encryptForClient fun nonce sent forClient => ?_
          cases expired with
          | true =>
            simp only [if_true, pure_bind, lift_bind]
            rw [Sees, Fallible.spec_bind]
            refine Fallible.spec_mono (fun h' entries met => ⟨?_, ?_⟩) ih
            · exact fun e member => met.1 (by simp [member])
            · have time : readClock now ∈ h' := met.1 (by simp)
              exact .take time kind time forClient met.2
          | false =>
            simp only [Bool.false_eq_true, if_false, lift_bind]
            refine sees_daysRemaining fun now' => ?_
            rw [Sees, Fallible.spec_bind]
            refine Fallible.spec_mono (fun h' entries met => ⟨?_, ?_⟩) ih
            · exact fun e member => met.1 (by simp [member])
            · exact .take (met.1 (by simp)) kind (met.1 (by simp)) forClient met.2
      · rename_i kind
        refine Fallible.spec_mono (fun h' entries met => ?_) ih
        have grown := List.Subset.trans (List.subset_cons_self _ _) met.1
        exact ⟨grown, .pass (met.1 List.mem_cons_self) kind met.2⟩

theorem sees_pwdList {headers : HeaderMap} {ip : String} {params : ListParams} :
    Sees (.pwdList headers ip params)
      (fun h entries => Answered config (.pwdList headers ip params) h (.passwords entries)) []
      (listHandler config headers ip params) := by
  unfold listHandler
  refine sees_validateAuth fun h identity user accepted unmarked => ?_
  refine sees_okOr fun owner linked => ?_
  cases linked.symm.trans accepted.linked
  refine sees_stateConn unmarked fun h' conn grown unmarked => ?_
  have accepted := accepted.mono grown
  refine sees_sql (.free rfl) fun groups => ?_
  have unmarked := unmarked.cons (e := answered conn (.groupFindByUser user) groups) rfl
  have accepted := accepted.mono (List.subset_cons_self (answered conn (.groupFindByUser user) groups) h')
  refine sees_sql ⟨fun _ => unmarked, nofun, nofun, ?_⟩ fun rows => ?_
  · rintro _ _ _ _ _ ⟨⟩ ⟨⟩
    exact ⟨identity, user, conn, groups, accepted, List.mem_cons_self, rfl⟩
  · refine Fallible.spec_mono (fun h'' entries met => ?_) sees_listEntries
    have within := List.Subset.trans (List.subset_cons_self _ _) met.1
    exact ⟨identity, user, conn, _, rows, accepted.mono within, met.1 List.mem_cons_self, met.2⟩

/-! ## Every request -/

/-- The requests that only read. -/
def Request.queries : Request → Bool
  | groupList _ _ | pwdList _ _ _ | pwdGet _ _ _ => true
  | _ => false

omit [Crypto] in
theorem marks_kind {x : Action} (marked : x.marks req = true) (plain : req.queries = false) :
    x.isWrite = true := by
  unfold Action.marks at marked
  split at marked
  all_goals first
    | rfl
    | cases plain
    | cases marked

/-- A handler whose operation is a write. -/
theorem Justified.sighted {x : Action} (plain : req.queries = false)
    (justified : Justified config req h x) : Sighted req h x := by
  refine ⟨fun marked e member => ?_, ?_, ?_, ?_⟩
  · refine Bool.eq_false_iff.mpr fun again => ?_
    have quiet := (justified.write (marks_kind marked plain)).1 e member
    cases (marks_kind again plain).symm.trans quiet
  · rintro headers ip conn user rfl
    cases plain
  · rintro headers ip uuid conn key rfl
    cases plain
  · rintro headers ip params conn ids rfl
    cases plain

theorem sees_map {α : Type} {p : Handler α} {f : α → Reply}
    (sees : Sees req (fun h v => Answered config req h (f v)) [] p) :
    Prog.Spec (Sighted req) (fun h (r : Result) => ∀ reply, r = .ok reply → Answered config req h reply) []
      (f <$> p : Handler Reply).run := by
  refine Prog.spec_mono (fun _ _ sighted => sighted) (fun h r met => ?_) (Fallible.spec_map.mpr sees)
  rintro reply rfl
  exact met

variable [Archive]

/-- Every handler keeps to `Justified` and `Sighted`, and its results to `Settled` and `Answered`. -/
theorem sight_spec (config : Config) (req : Request) :
    Prog.Spec (fun h x => Justified config req h x ∧ Sighted req h x)
      (fun h (r : Result) => Settled config req h r ∧ ∀ reply, r = .ok reply → Answered config req h reply)
      [] (serve config req).run := by
  refine Prog.spec_and (serve_spec config req) ?_
  have rest : req.queries = false →
      (∀ h reply, Outcome config req h reply → Answered config req h reply) →
      Prog.Spec (Sighted req) (fun h (r : Result) => ∀ reply, r = .ok reply → Answered config req h reply) []
        (serve config req).run := by
    intro plain implied
    refine Prog.spec_mono (fun _ _ justified => justified.sighted plain) (fun h r settled => ?_)
      (serve_spec config req)
    rintro reply rfl
    exact implied h reply settled
  cases req with
  | groupCreate headers ip body => exact sees_map sees_groupCreate
  | groupList headers ip => exact sees_map sees_groupList
  | pwdCreate headers ip body => exact sees_map sees_pwdCreate
  | pwdGet headers ip uuid => exact sees_map sees_pwdGet
  | pwdList headers ip params => exact sees_map sees_pwdList
  | pwdUpdate headers ip uuid body =>
    refine rest rfl fun h reply outcome => ?_
    cases reply with
    | null => rfl
    | _ => cases outcome
  | _ => exact rest rfl fun _ _ _ => trivial

end PasswordManager
