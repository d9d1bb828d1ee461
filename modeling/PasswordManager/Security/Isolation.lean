import PasswordManager.Interaction.Relational
import PasswordManager.Routes.Exec
import PasswordManager.Security.View
import PasswordManager.Server.Neighbours

/-!
# Isolation

A protected request is answered from the rows of its own user alone: two databases that agree on
them, whatever else they hold, give the same response and agree on them again afterwards.
-/

namespace PasswordManager
open Interaction Fallible

variable [Crypto] {headers : HeaderMap} {α β : Type}

/-! ## Related worlds -/

/-- Two databases agree on the identity row that holds the token of the request, and on the rows
of the user that it is linked to. -/
structure SameView (headers : HeaderMap) (a b : Db) : Prop where
  identity : ∀ token, headers.getStr "device-token" = some token →
    Table.find (·.deviceToken) a.identities (some (hashToken token)) =
      Table.find (·.deviceToken) b.identities (some (hashToken token))
  rows : ∀ token d user, headers.getStr "device-token" = some token →
    Table.find (·.deviceToken) a.identities (some (hashToken token)) = some d →
    d.userId = some user → SameRows user a b

abbrev World := (Nat → Choice) × Db

/-- Two worlds with the same clock and random values, in which no statement fails of itself and
generated uuids are in no row, look the same to the caller. -/
structure Near (headers : HeaderMap) (w w' : World) : Prop where
  choices : w.1 = w'.1
  calm : ∀ n, ((w.1 n).chance 0).failure = none
  unused : ∀ n, Unused w.2 (Uuid.toString ((w.1 n).chance 0).uuid) ∧
    Unused w'.2 (Uuid.toString ((w.1 n).chance 0).uuid)
  view : SameView headers w.2 w'.2

/-- The caller is the user, and its rows are the same. -/
structure Mine (headers : HeaderMap) (user : String) (a b : Db) : Prop where
  rows : SameRows user a b
  known : user ∈ a.users.map (·.uuid)
  caller : ∀ token d other, headers.getStr "device-token" = some token →
    Table.find (·.deviceToken) a.identities (some (hashToken token)) = some d →
    d.userId = some other → other = user

/-- What a program returns, run where `rel` holds of two databases that look the same to the
caller, depends on nothing else, and they look the same again when it has ended. -/
def Same (headers : HeaderMap) (rel : Db → Db → Prop) (p : Handler α) : Prop :=
  Alike Action.answer (fun w w' => Near headers w w' ∧ rel w.2 w'.2)
    (fun _ w w' => SameView headers w.2 w'.2) (fun w w' => SameView headers w.2 w'.2) p

theorem Near.shift {k : Nat} {c : Nat → Choice} {a b : Db} (near : Near headers (c, a) (c, b)) :
    Near headers (fun n => c (n + k), a) (fun n => c (n + k), b) where
  choices := rfl
  calm n := near.calm (n + k)
  unused n := near.unused (n + k)
  view := near.view

/-! ## Blind steps -/

theorem blind_attempt {origin : Origin} {r : Except AppError α} :
    Blind Action.answer (attempt origin r : Handler α) := by
  cases r with
  | ok v => exact blind_pure
  | error e => exact blind_throw

theorem blind_okOr {value : Option α} {error : AppError} :
    Blind Action.answer (okOr value error : Handler α) := by
  cases value with
  | some v => exact blind_pure
  | none => exact blind_throw

theorem blind_utcNow : Blind Action.answer (liftM utcNow : Handler NaiveDateTime) :=
  fun _ => ⟨.ok _, 1, fun _ => rfl⟩

theorem blind_stateConn : Blind Action.answer (liftM stateConn : Handler Conn) := by
  intro choices
  cases pooled : (choices 1).conn with
  | ok conn => exact ⟨.ok conn, 2, fun s => by rw [handler_conn]; simp [Action.answer, FileAction.answer, pooled]⟩
  | error m =>
    exact ⟨.error ⟨.pool m, .backend⟩, 2, fun s => by
      rw [handler_conn]; simp [Action.answer, FileAction.answer, pooled]⟩

theorem blind_encrypt {data : Bytes} {key : BytesN 32} :
    Blind Action.answer (liftM (encryptWithSharedKey data key) : Handler Bytes) := by
  unfold encryptWithSharedKey generateNonce
  rw [lift_bind]
  refine blind_bind (fun _ => ⟨.ok _, 1, fun _ => rfl⟩) fun nonce => ?_
  rw [lift_attempt]
  exact blind_attempt

theorem blind_encryptForClient {config : Config} {stored : String} {identity : Identity} :
    Blind Action.answer (liftM (encryptForClient stored identity config) : Handler String) := by
  unfold encryptForClient
  rw [lift_bind, lift_attempt]
  refine blind_bind blind_attempt fun plain => ?_
  rw [lift_bind, lift_attempt]
  refine blind_bind blind_attempt fun key => ?_
  rw [lift_bind]
  exact blind_bind blind_encrypt fun blob => blind_pure

theorem blind_decryptFromClient {config : Config} {field : String} {identity : Identity} :
    Blind Action.answer (liftM (decryptFromClient field identity config) : Handler Bytes) := by
  unfold decryptFromClient
  rw [lift_bind, lift_okOr]
  refine blind_bind blind_okOr fun blob => ?_
  rw [lift_bind, lift_attempt]
  refine blind_bind blind_attempt fun key => ?_
  rw [lift_attempt]
  exact blind_attempt

theorem blind_daysRemaining {since : NaiveDateTime} {days : Int} :
    Blind Action.answer (liftM (daysRemaining since days) : Handler Int) :=
  fun _ => ⟨.ok _, 1, fun _ => rfl⟩

theorem blind_listEntries {config : Config} {identity : Identity} {expired : Bool}
    {rows : List Password} {skip take : Nat} :
    Blind Action.answer
      (liftM (listEntries config identity expired rows skip take) : Handler (List PasswordEntry)) := by
  induction rows generalizing skip take with
  | nil =>
    unfold listEntries
    exact blind_pure
  | cons row rows ih =>
    cases take with
    | zero => exact blind_pure
    | succ take =>
      unfold listEntries isExpired
      rw [lift_bind, lift_bind]
      refine blind_bind (blind_bind blind_daysRemaining fun days => blind_pure) fun gone => ?_
      split
      · cases skip with
        | succ skip => exact ih
        | zero =>
          rw [lift_bind]
          refine blind_bind blind_encryptForClient fun pwd => ?_
          split
          · simp only [pure_bind, lift_bind]
            exact blind_bind ih fun entries => blind_pure
          · simp only [lift_bind]
            refine blind_bind blind_daysRemaining fun expires => ?_
            exact blind_bind ih fun entries => blind_pure
      · exact ih

/-! ## Statements that read -/

section
variable {rel rel' : Db → Db → Prop} {f : α → Handler β} {conn : Conn} {user uuid : String}

theorem Same.weaken {p : Handler α} (same : Same headers rel p) (implied : ∀ a b, rel' a b → rel a b) :
    Same headers rel' p :=
  alike_mono (fun w w' ⟨near, related⟩ => ⟨near, implied w.2 w'.2 related⟩) (fun _ _ _ => id) same

theorem same_blind {p : Handler α} (blind : Blind Action.answer p)
    (next : ∀ v, Same headers rel (f v)) : Same headers rel (p >>= f) := by
  refine alike_bind _ (blind_alike blind (fun w w' related => related.1.choices) ?_ ?_) next
  · exact fun k c a b ⟨near, related⟩ => ⟨near.shift, related⟩
  · exact fun w w' related => related.1.view

theorem same_okOr {value : Option α} {error : AppError}
    (next : ∀ v, value = some v → Same headers rel (f v)) :
    Same headers rel (okOr value error >>= f) := by
  cases value with
  | some v => exact next v rfl
  | none => exact fun w w' related => .inr ⟨_, w, w', rfl, rfl, related.1.view⟩

theorem same_refuseIf {condition : Prop} [Decidable condition] {error : AppError}
    {f : Unit → Handler β} (next : ¬condition → Same headers rel (f ())) :
    Same headers rel (refuseIf condition error >>= f) := by
  unfold refuseIf
  split
  · exact fun w w' related => .inr ⟨_, w, w', rfl, rfl, related.1.view⟩
  · exact next ‹_›

theorem same_read {q : Query} {f : q.Answer → Handler β} (seen : q.Answer → Db → Db → Prop)
    (reads : ∀ a b moment, SameView headers a b → rel a b →
      ∃ r, a.exec moment q = (.ok r, a) ∧ b.exec moment q = (.ok r, b) ∧ seen r a b)
    (next : ∀ r, Same headers (seen r) (f r)) :
    Same headers rel ((liftM (sql conn q) : Handler q.Answer) >>= f) := by
  refine alike_bind (fun r w w' => Near headers w w' ∧ seen r w.2 w'.2) ?_ next
  rintro ⟨c, a⟩ ⟨c', b⟩ ⟨near, related⟩
  obtain rfl : c = c' := near.choices
  obtain ⟨r, left, right, met⟩ := reads a b ((c 0).chance 0).toMoment near.view related
  exact .inl ⟨r, _, _, exec_statement (near.calm 0) left, exec_statement (near.calm 0) right,
    near.shift, met⟩

/-- A query that fails in one world fails in the other. -/
theorem same_refused {q : Query} {e : DbError} {f : q.Answer → Handler β}
    (fails : ∀ a b moment, SameView headers a b → rel a b →
      a.exec moment q = (.error e, a) ∧ b.exec moment q = (.error e, b)) :
    Same headers rel ((liftM (sql conn q) : Handler q.Answer) >>= f) := by
  rintro ⟨c, a⟩ ⟨c', b⟩ ⟨near, related⟩
  obtain rfl : c = c' := near.choices
  obtain ⟨left, right⟩ := fails a b ((c 0).chance 0).toMoment near.view related
  have calm : ((c 0).chance 0).failure = none := near.calm 0
  have done : ∀ db : Db, db.exec ((c 0).chance 0).toMoment q = (.error e, db) →
      exec Action.answer ((liftM (sql conn q) : Handler q.Answer) >>= f) (c, db) =
        (.error ⟨.database e, .backend⟩, fun n => c (n + 1), db) := by
    intro db failed
    have answered : Action.answer (c 0) db (.effect (.sql conn q)) = (.error e, db) := by
      simp only [Action.answer, Effect.answer, calm, failed]
    rw [exec_bind, handler_sql, answered]
  exact .inr ⟨_, _, _, done a left, done b right, near.view⟩

/-- `validate_auth` accepts in both worlds the same device, of a user whose rows are the same. -/
theorem same_validateAuth {ip : String} {f : Identity → Handler β}
    (next : ∀ d user, d.userId = some user → Same headers (Mine headers user) (f d)) :
    Same headers (fun _ _ => True) (validateAuth headers ip >>= f) := by
  unfold validateAuth Identity.findByDeviceToken User.findByUuid
  simp only [bind_assoc, pure_bind]
  refine same_okOr fun token header => ?_
  refine same_blind blind_stateConn fun conn => ?_
  refine same_read (fun r a b => Table.find (·.deviceToken) a.identities
    (some (hashToken token)) = r) (fun a b moment view _ => ?_) fun found => ?_
  · exact ⟨_, rfl, by rw [view.identity token header]; rfl, rfl⟩
  refine same_okOr fun d present => ?_
  subst present
  refine same_refuseIf fun address => ?_
  refine same_refuseIf fun confirmed => ?_
  refine same_okOr fun user linked => ?_
  refine same_read (fun r a b => r.isSome → Mine headers user a b)
    (fun a b moment view found => ?_) fun found => ?_
  · have rows := view.rows token d user header found linked
    refine ⟨_, rfl, by rw [rows.row]; rfl, fun some => ⟨rows, ?_, ?_⟩⟩
    · obtain ⟨u, lookup⟩ := Option.isSome_iff_exists.mp some
      obtain ⟨member, rfl⟩ := Table.find_some lookup
      exact List.mem_map_of_mem member
    · intro token' d' other header' found' linked'
      cases header.symm.trans header'
      cases found.symm.trans found'
      exact Option.some.inj (linked'.symm.trans linked)
  refine same_okOr fun u present => ?_
  refine same_refuseIf fun active => ?_
  exact (next d user linked).weaken fun a b mine => mine (present ▸ rfl)

/-! ## Rows of somebody else -/

/-- The check that handlers make of a group: it must be there and belong to the user. -/
def ownGroup (conn : Conn) (user uuid : String) : Handler Group := do
  let group ← okOr (← Group.findByUuid conn uuid) unauthorized
  refuseIf (group.userId ≠ user) unauthorized
  return group

/-- The check that handlers make of a password: it must be there, in a group of the user. -/
def ownPassword (conn : Conn) (user uuid : String) : Handler (Password × Group) := do
  let existing ← okOr (← Password.findByUuid conn uuid) unauthorized
  let group ← ownGroup conn user existing.groupId
  return (existing, group)

/-- Somebody else's group is answered like a missing one. -/
theorem exec_ownGroup (conn : Conn) (user uuid : String) {w : World} (calm : ((w.1 0).chance 0).failure = none) :
    exec Action.answer (ownGroup conn user uuid) w =
      match Table.find (·.uuid) (w.2.groupsOf user) uuid with
      | some g => (.ok g, fun n => w.1 (n + 1), w.2)
      | none => (.error ⟨unauthorized, .request⟩, fun n => w.1 (n + 1), w.2) := by
  have lookup : exec Action.answer (liftM (Group.findByUuid conn uuid) : Handler (Option Group)) w =
      (.ok (Table.find (·.uuid) w.2.groups uuid), fun n => w.1 (n + 1), w.2) :=
    exec_statement calm rfl
  simp only [ownGroup, exec_bind, lookup, exec_okOr, exec_refuseIf, exec_pure]
  cases own : Table.find (·.uuid) (w.2.groupsOf user) uuid with
  | some g =>
    obtain ⟨found, owner⟩ := find_ownGroup.mp own
    simp [found, owner]
  | none =>
    cases found : Table.find (·.uuid) w.2.groups uuid with
    | none => rfl
    | some g =>
      have foreign : g.userId ≠ user := by
        intro owner
        cases own.symm.trans (find_ownGroup.mpr ⟨found, owner⟩)
      simp [foreign]

/-- Somebody else's password is answered like a missing one. -/
theorem exec_ownPassword (conn : Conn) (user uuid : String) {w : World}
    (calm : ∀ n, ((w.1 n).chance 0).failure = none) :
    match Table.find (·.uuid) (w.2.passwordsOf user) uuid with
    | some p => ∃ g ∈ w.2.groupsOf user, g.uuid = p.groupId ∧
      exec Action.answer (ownPassword conn user uuid) w = (.ok (p, g), fun n => w.1 (n + 2), w.2)
    | none => ∃ rest, exec Action.answer (ownPassword conn user uuid) w =
      (.error ⟨unauthorized, .request⟩, rest, w.2) := by
  have lookup : exec Action.answer
      (liftM (Password.findByUuid conn uuid) : Handler (Option Password)) w =
        (.ok (Table.find (·.uuid) w.2.passwords uuid), fun n => w.1 (n + 1), w.2) :=
    exec_statement (calm 0) rfl
  have group : ∀ gid, exec Action.answer (ownGroup conn user gid) (fun n => w.1 (n + 1), w.2) =
      match Table.find (·.uuid) (w.2.groupsOf user) gid with
      | some g => (.ok g, fun n => w.1 (n + 2), w.2)
      | none => (.error ⟨unauthorized, .request⟩, fun n => w.1 (n + 2), w.2) :=
    fun gid => exec_ownGroup conn user gid (calm 1)
  simp only [ownPassword, exec_bind, lookup, exec_okOr, exec_pure]
  cases own : Table.find (·.uuid) (w.2.passwordsOf user) uuid with
  | some p =>
    obtain ⟨found, owner⟩ := find_ownPassword.mp own
    obtain ⟨g, member, belongs⟩ := owner_group.mp owner
    have present := find_ownGroup.mpr ⟨member, belongs⟩
    obtain ⟨owned, same⟩ := Table.find_some present
    exact ⟨g, owned, same, by simp [found, group, present]⟩
  | none =>
    cases found : Table.find (·.uuid) w.2.passwords uuid with
    | none => exact ⟨_, rfl⟩
    | some p =>
      have foreign : Table.find (·.uuid) (w.2.groupsOf user) p.groupId = none := by
        refine Option.eq_none_iff_forall_ne_some.mpr fun g present => ?_
        cases own.symm.trans
          (find_ownPassword.mpr ⟨found, owner_group.mpr ⟨g, find_ownGroup.mp present⟩⟩)
      exact ⟨_, by simp [group, foreign]; rfl⟩

omit [Crypto] in
theorem ownGroup_bind {f : Group → Handler β} :
    ownGroup conn user uuid >>= f = (do
      let group ← okOr (← (liftM (Group.findByUuid conn uuid) : Handler (Option Group))) unauthorized
      refuseIf (group.userId ≠ user) unauthorized
      f group) := by
  simp only [ownGroup, bind_assoc, pure_bind]

omit [Crypto] in
theorem ownPassword_bind {f : Password → Group → Handler β} :
    (ownPassword conn user uuid >>= fun r => f r.1 r.2) = (do
      let existing ← okOr (← (liftM (Password.findByUuid conn uuid) : Handler (Option Password)))
        unauthorized
      let group ← okOr (← (liftM (Group.findByUuid conn existing.groupId) : Handler (Option Group)))
        unauthorized
      refuseIf (group.userId ≠ user) unauthorized
      f existing group) := by
  simp only [ownPassword, ownGroup, bind_assoc, pure_bind]

theorem same_ownGroup {f : Group → Handler β} (mine : ∀ a b, rel a b → Mine headers user a b)
    (next : ∀ g, Same headers (fun a b => rel a b ∧ g ∈ a.groupsOf user ∧ g.uuid = uuid) (f g)) :
    Same headers rel (ownGroup conn user uuid >>= f) := by
  refine alike_bind (fun g w w' => Near headers w w' ∧ rel w.2 w'.2 ∧
    g ∈ w.2.groupsOf user ∧ g.uuid = uuid) ?_ next
  rintro ⟨c, a⟩ ⟨c', b⟩ ⟨near, related⟩
  obtain rfl : c = c' := near.choices
  have left := exec_ownGroup conn user uuid (w := (c, a)) (near.calm 0)
  have right := exec_ownGroup conn user uuid (w := (c, b)) (near.calm 0)
  simp only [(mine a b related).rows.groups] at left
  cases own : Table.find (·.uuid) (b.groupsOf user) uuid with
  | some g =>
    simp only [own] at left right
    obtain ⟨member, same⟩ := Table.find_some own
    rw [← (mine a b related).rows.groups] at member
    exact .inl ⟨g, _, _, left, right, near.shift, related, member, same⟩
  | none =>
    simp only [own] at left right
    exact .inr ⟨_, _, _, left, right, near.view⟩

theorem same_ownPassword {f : Password × Group → Handler β}
    (mine : ∀ a b, rel a b → Mine headers user a b)
    (next : ∀ p g, Same headers (fun a b => rel a b ∧ p ∈ a.passwordsOf user ∧ p.uuid = uuid) (f (p, g))) :
    Same headers rel (ownPassword conn user uuid >>= f) := by
  refine alike_bind (fun (r : Password × Group) w w' => Near headers w w' ∧ rel w.2 w'.2 ∧
    r.1 ∈ w.2.passwordsOf user ∧ r.1.uuid = uuid) ?_ fun r => next r.1 r.2
  rintro ⟨c, a⟩ ⟨c', b⟩ ⟨near, related⟩
  obtain rfl : c = c' := near.choices
  have rows := (mine a b related).rows
  have left := exec_ownPassword conn user uuid (w := (c, a)) near.calm
  have right := exec_ownPassword conn user uuid (w := (c, b)) near.calm
  simp only [rows.passwords, rows.groups] at left
  cases own : Table.find (·.uuid) (b.passwordsOf user) uuid with
  | some p =>
    simp only [own] at left right
    obtain ⟨g, member, same, left⟩ := left
    obtain ⟨g', member', same', right⟩ := right
    obtain rfl := Table.key_unique b.valid.groupUuid (mem_groupsOf.mp member).1
      (mem_groupsOf.mp member').1 (same.trans same'.symm)
    obtain ⟨present, uuid⟩ := Table.find_some own
    rw [← rows.passwords] at present
    exact .inl ⟨(p, g), _, _, left, right, near.shift, related, present, uuid⟩
  | none =>
    simp only [own] at left right
    obtain ⟨rest, left⟩ := left
    obtain ⟨rest', right⟩ := right
    exact .inr ⟨_, _, _, left, right, near.view⟩

/-! ## Statements that write -/

theorem same_newUuid {f : String → Handler β}
    (next : ∀ uuid, Same headers (fun a b => rel a b ∧ Unused a uuid ∧ Unused b uuid) (f uuid)) :
    Same headers rel ((liftM newUuid : Handler String) >>= f) := by
  refine alike_bind (fun uuid w w' => Near headers w w' ∧ rel w.2 w'.2 ∧
    Unused w.2 uuid ∧ Unused w'.2 uuid) ?_ next
  rintro ⟨c, a⟩ ⟨c', b⟩ ⟨near, related⟩
  obtain rfl : c = c' := near.choices
  exact .inl ⟨_, _, _, rfl, rfl, near.shift (k := 1), related, near.unused 0⟩

/-- After its write a handler reads the clock and draws nonces at most. -/
theorem same_write {q : Query} {f : q.Answer → Handler β}
    (writes : ∀ a b moment, SameView headers a b → rel a b → ∃ r a' b',
      a.exec moment q = (.ok r, a') ∧ b.exec moment q = (.ok r, b') ∧ SameView headers a' b')
    (next : ∀ r, Blind Action.answer (f r)) :
    Same headers rel ((liftM (sql conn q) : Handler q.Answer) >>= f) := by
  refine alike_bind (fun _ w w' => w.1 = w'.1 ∧ SameView headers w.2 w'.2) ?_ fun r => ?_
  · rintro ⟨c, a⟩ ⟨c', b⟩ ⟨near, related⟩
    obtain rfl : c = c' := near.choices
    obtain ⟨r, a', b', left, right, view⟩ := writes a b ((c 0).chance 0).toMoment near.view related
    exact .inl ⟨r, _, _, exec_statement (near.calm 0) left, exec_statement (near.calm 0) right, rfl, view⟩
  · refine alike_mono (fun _ _ => id) (fun _ _ _ kept => kept.2)
      (blind_alike (next r) (fun _ _ kept => kept.1) ?_ fun _ _ kept => kept.2)
    exact fun k c s s' kept => ⟨rfl, kept.2⟩

variable {a b a' b' : Db} {moment : Moment}

theorem Mine.known_right (mine : Mine headers user a b) : user ∈ b.users.map (·.uuid) := by
  obtain ⟨u, member, same⟩ := List.mem_map.mp mine.known
  have found := mine.rows.row.symm.trans
    ((Table.find_eq_some_iff a.valid.userUuid).mpr ⟨member, same⟩)
  obtain ⟨present, same⟩ := Table.find_some found
  exact List.mem_map.mpr ⟨u, present, same⟩

theorem Mine.after (mine : Mine headers user a b) (view : SameView headers a b)
    (left : a'.identities = a.identities) (right : b'.identities = b.identities)
    (rows : SameRows user a' b') : SameView headers a' b' where
  identity token header := by
    rw [left, right]
    exact view.identity token header
  rows token d other header found linked := by
    rw [left] at found
    rw [mine.caller token d other header found linked]
    exact rows

theorem newGroup_view {new : NewGroup} (mine : Mine headers user a b) (view : SameView headers a b)
    (unused : Unused a new.uuid ∧ Unused b new.uuid) (owned : new.userId = user) :
    ∃ r a' b', a.exec moment (.groupCreate new) = (.ok r, a') ∧
      b.exec moment (.groupCreate new) = (.ok r, b') ∧ SameView headers a' b' := by
  subst owned
  obtain ⟨a', left, tables⟩ := exec_newGroup moment unused.1 mine.known
  obtain ⟨b', right, tables'⟩ := exec_newGroup moment unused.2 mine.known_right
  obtain ⟨groups, passwords⟩ := newGroup_rows tables rfl
  obtain ⟨groups', passwords'⟩ := newGroup_rows tables' rfl
  refine ⟨_, a', b', left, right, mine.after view (by rw [tables]) (by rw [tables']) ?_⟩
  constructor
  · rw [tables, tables']
    exact mine.rows.row
  · exact groups.trans ((congrArg (· ++ _) mine.rows.groups).trans groups'.symm)
  · exact passwords.trans (mine.rows.passwords.trans passwords'.symm)

theorem newPassword_view {new : NewPassword} (mine : Mine headers user a b)
    (view : SameView headers a b) (unused : Unused a new.uuid ∧ Unused b new.uuid) {g : Group}
    (owned : g ∈ a.groupsOf user) (target : g.uuid = new.groupId) :
    ∃ r a' b', a.exec moment (.passwordCreate new) = (.ok r, a') ∧
      b.exec moment (.passwordCreate new) = (.ok r, b') ∧ SameView headers a' b' := by
  obtain ⟨member, owner⟩ := mem_groupsOf.mp owned
  obtain ⟨member', -⟩ := mem_groupsOf.mp (mine.rows.groups ▸ owned)
  obtain ⟨a', left, tables⟩ :=
    exec_newPassword moment unused.1 (target ▸ List.mem_map_of_mem member)
  obtain ⟨b', right, tables'⟩ :=
    exec_newPassword moment unused.2 (target ▸ List.mem_map_of_mem member')
  have own : ∀ db : Db, g ∈ db.groups → db.owner (new.row moment.clock) = some user := by
    intro db present
    rw [← owner]
    show db.groupOwner new.groupId = _
    rw [← target]
    exact groupOwner_of_mem present
  obtain ⟨groups, passwords⟩ := newPassword_rows tables (own a member)
  obtain ⟨groups', passwords'⟩ := newPassword_rows tables' (own b member')
  refine ⟨_, a', b', left, right, mine.after view (by rw [tables]) (by rw [tables']) ?_⟩
  constructor
  · rw [tables, tables']
    exact mine.rows.row
  · exact groups.trans (mine.rows.groups.trans groups'.symm)
  · exact passwords.trans ((congrArg (· ++ _) mine.rows.passwords).trans passwords'.symm)

theorem movePassword_view {changes : UpdatePassword} {now : NaiveDateTime}
    (mine : Mine headers user a b) (view : SameView headers a b) {p : Password}
    (own : p ∈ a.passwordsOf user) (same : p.uuid = uuid) {g : Group} (owned : g ∈ a.groupsOf user)
    (target : changes.groupId = some g.uuid) :
    ∃ r a' b', a.exec moment (.passwordUpdate uuid changes now) = (.ok r, a') ∧
      b.exec moment (.passwordUpdate uuid changes now) = (.ok r, b') ∧ SameView headers a' b' := by
  obtain ⟨member, owner⟩ := mem_groupsOf.mp owned
  obtain ⟨member', -⟩ := mem_groupsOf.mp (mine.rows.groups ▸ owned)
  obtain ⟨found, was⟩ := find_password.mpr ⟨own, same⟩
  obtain ⟨found', was'⟩ := find_password.mpr ⟨mine.rows.passwords ▸ own, same⟩
  have known : ∀ db : Db, g ∈ db.groups → ∀ gid ∈ changes.groupId, gid ∈ db.groups.map (·.uuid) := by
    intro db present gid moved
    obtain rfl := Option.some.inj (target.symm.trans moved)
    exact List.mem_map_of_mem present
  have moves : ∀ db : Db, g ∈ db.groups → db.owner (changes.apply now p) = some user := by
    intro db present
    rw [← owner]
    show db.groupOwner (changes.groupId.getD p.groupId) = _
    rw [target]
    exact groupOwner_of_mem present
  obtain ⟨a', left, tables⟩ := exec_movePassword moment now found (known a member)
  obtain ⟨b', right, tables'⟩ := exec_movePassword moment now found' (known b member')
  obtain ⟨groups, passwords⟩ := movePassword_rows tables found was (moves a member)
  obtain ⟨groups', passwords'⟩ := movePassword_rows tables' found' was' (moves b member')
  refine ⟨_, a', b', left, right, mine.after view (by rw [tables]) (by rw [tables']) ?_⟩
  constructor
  · rw [tables, tables']
    exact mine.rows.row
  · exact groups.trans (mine.rows.groups.trans groups'.symm)
  · rw [passwords, passwords', mine.rows.passwords]

end

/-! ## Handlers -/

section
variable {config : Config} {ip : String}

theorem same_end {rel : Db → Db → Prop} {p : Handler α} (blind : Blind Action.answer p) :
    Same headers rel p := by
  refine alike_mono (fun _ _ => id) (fun _ _ _ kept => kept.1.view)
    (blind_alike blind (fun _ _ kept => kept.1.choices) ?_ fun _ _ kept => kept.1.view)
  exact fun k c a b kept => ⟨kept.1.shift, kept.2⟩

theorem same_verify : Same headers (fun _ _ => True) (verifyHandler headers ip) :=
  same_validateAuth fun _ _ _ => same_end blind_pure

theorem same_groupCreate {body : CreateGroupRequest} :
    Same headers (fun _ _ => True) (groupCreateHandler headers ip body) := by
  unfold groupCreateHandler Group.create
  refine same_blind blind_attempt fun _ => ?_
  refine same_validateAuth fun d user linked => ?_
  rw [linked]
  refine same_okOr fun u own => ?_
  obtain rfl := Option.some.inj own
  refine same_blind blind_stateConn fun conn => ?_
  refine same_newUuid fun uuid => ?_
  refine same_write (fun a b moment view ⟨mine, unused⟩ => ?_) fun row => blind_pure
  exact newGroup_view mine view unused rfl

theorem same_groupList : Same headers (fun _ _ => True) (groupListHandler headers ip) := by
  unfold groupListHandler Group.findByUser
  refine same_validateAuth fun d user linked => ?_
  rw [linked]
  refine same_okOr fun u own => ?_
  obtain rfl := Option.some.inj own
  refine same_blind blind_stateConn fun conn => ?_
  refine same_read (fun _ _ _ => True) (fun a b moment view mine => ?_) fun groups =>
    same_end blind_pure
  exact ⟨a.groupsOf user, rfl, by rw [mine.rows.groups]; rfl, trivial⟩

theorem same_list {params : ListParams} :
    Same headers (fun _ _ => True) (listHandler config headers ip params) := by
  unfold listHandler Group.findByUser Password.findByGroups
  refine same_validateAuth fun d user linked => ?_
  rw [linked]
  refine same_okOr fun u own => ?_
  obtain rfl := Option.some.inj own
  refine same_blind blind_stateConn fun conn => ?_
  refine same_read (fun groups a b => Mine headers user a b ∧ groups = a.groupsOf user)
    (fun a b moment view mine => ?_) fun groups => ?_
  · exact ⟨a.groupsOf user, rfl, by rw [mine.rows.groups]; rfl, mine, rfl⟩
  by_cases few : (groups.map (·.uuid)).length ≤ SQLITE_MAX_VARIABLE_NUMBER
  · refine same_read (fun _ _ _ => True) (fun a b moment view ⟨mine, shown⟩ => ?_) fun passwords =>
      same_end blind_listEntries
    refine ⟨moment.order.arrange (a.passwordsOf user), ?_, ?_, trivial⟩
    · rw [Db.exec, if_pos few, shown, passwords_in_groups]
    · rw [Db.exec, if_pos few, shown, mine.rows.groups, mine.rows.passwords, passwords_in_groups]
  · refine same_refused (e := .tooManyVariables) fun a b moment view related => ⟨?_, ?_⟩
    · rw [Db.exec, if_neg few]
    · rw [Db.exec, if_neg few]

theorem same_get {uuid : Uuid} :
    Same headers (fun _ _ => True) (getHandler config headers ip uuid) := by
  unfold getHandler
  refine same_validateAuth fun d user linked => ?_
  rw [linked]
  refine same_okOr fun u own => ?_
  obtain rfl := Option.some.inj own
  refine same_blind blind_stateConn fun conn => ?_
  rw [← ownPassword_bind]
  refine same_ownPassword (fun a b mine => mine) fun p g => ?_
  refine same_blind blind_encryptForClient fun pwd => ?_
  refine same_blind blind_daysRemaining fun expires => ?_
  exact same_end blind_pure

theorem same_create {body : CreatePasswordRequest} :
    Same headers (fun _ _ => True) (createHandler config headers ip body) := by
  unfold createHandler Password.create
  refine same_blind blind_attempt fun _ => ?_
  refine same_validateAuth fun d user linked => ?_
  rw [linked]
  refine same_okOr fun u own => ?_
  obtain rfl := Option.some.inj own
  refine same_blind blind_stateConn fun conn => ?_
  refine same_blind blind_decryptFromClient fun plain => ?_
  refine same_blind blind_encrypt fun blob => ?_
  rw [← ownGroup_bind]
  refine same_ownGroup (fun a b mine => mine) fun g => ?_
  refine same_newUuid fun uuid => ?_
  refine same_blind blind_utcNow fun now => ?_
  refine same_write (fun a b moment view ⟨⟨mine, owned, target⟩, unused⟩ => ?_) fun row => ?_
  · exact newPassword_view mine view unused owned target
  · refine blind_bind blind_encryptForClient fun pwd => ?_
    exact blind_bind blind_daysRemaining fun expires => blind_pure

theorem same_update {uuid : Uuid} {body : UpdatePasswordRequest} :
    Same headers (fun _ _ => True) (updateHandler config headers ip uuid body) := by
  unfold updateHandler Password.update
  refine same_blind blind_attempt fun _ => ?_
  refine same_validateAuth fun d user linked => ?_
  rw [linked]
  refine same_okOr fun u own => ?_
  obtain rfl := Option.some.inj own
  refine same_blind blind_stateConn fun conn => ?_
  rw [← ownPassword_bind]
  refine same_ownPassword (fun a b mine => mine) fun p g => ?_
  rw [← ownGroup_bind]
  refine same_ownGroup (fun a b related => related.1) fun target => ?_
  refine same_blind blind_decryptFromClient fun plain => ?_
  refine same_blind blind_encrypt fun blob => ?_
  simp only [lift_bind, bind_assoc]
  refine same_blind blind_utcNow fun now => ?_
  refine same_write (fun a b moment view ⟨⟨mine, own, same⟩, owned, moved⟩ => ?_) fun row => blind_pure
  exact movePassword_view mine view own same owned (congrArg some moved.symm)

end

variable [Archive] {config : Config}

/-- Users cannot observe each other. A protected request that runs alone on two databases that
agree on the caller's identity row, user row, groups and passwords, with the same clock and random
values, gets the same response from both, and leaves them in agreement on the caller's rows.
Neither needs the other rows to be alike: what belongs to somebody else is answered as if it did
not exist. -/
theorem users_isolated {req : Request} {ip : String} (session : req.session = some (headers, ip))
    {choices : Nat → Choice} {a b : Db} (near : Near headers (choices, a) (choices, b)) :
    respond (exec Action.answer (serve config req) (choices, a)).1 =
        respond (exec Action.answer (serve config req) (choices, b)).1 ∧
      SameView headers (exec Action.answer (serve config req) (choices, a)).2.2
        (exec Action.answer (serve config req) (choices, b)).2.2 := by
  have same : Same headers (fun _ _ => True) (serve config req) := by
    cases req with
    | verify => cases session; exact alike_map same_verify
    | pwdList => cases session; exact alike_map same_list
    | pwdCreate => cases session; exact alike_map same_create
    | pwdUpdate => cases session; exact alike_map same_update
    | pwdGet => cases session; exact alike_map same_get
    | groupCreate => cases session; exact alike_map same_groupCreate
    | groupList => cases session; exact alike_map same_groupList
    | _ => cases session
  rcases same _ _ ⟨near, trivial⟩ with ⟨v, u, u', left, right, view⟩ | ⟨e, u, u', left, right, view⟩
  · rw [left, right]
    exact ⟨rfl, view⟩
  · rw [left, right]
    exact ⟨rfl, view⟩

omit [Archive] in
theorem near_of_rows {choices : Nat → Choice} {a b : Db} {token : String} {d : Identity} {user : User}
    (header : headers.getStr "device-token" = some token)
    (calm : ∀ n, ((choices n).chance 0).failure = none)
    (both : ∀ db ∈ [a, b],
      Table.find (·.deviceToken) db.identities (some (hashToken token)) = some d ∧
      Table.find (·.uuid) db.users user.uuid = some user ∧
      ∀ n, Unused db (Uuid.toString ((choices n).chance 0).uuid))
    (linked : d.userId = some user.uuid)
    (groups : a.groupsOf user.uuid = b.groupsOf user.uuid)
    (passwords : a.passwordsOf user.uuid = b.passwordsOf user.uuid) :
    Near headers (choices, a) (choices, b) := by
  obtain ⟨found, owner, unused⟩ := both a List.mem_cons_self
  obtain ⟨found', owner', unused'⟩ := both b (List.mem_cons_of_mem _ List.mem_cons_self)
  refine ⟨rfl, calm, fun n => ⟨unused n, unused' n⟩, ?_, ?_⟩
  · intro token' sent
    obtain rfl := Option.some.inj (header.symm.trans sent)
    exact found.trans found'.symm
  · intro token' d' user' sent device linked'
    obtain rfl := Option.some.inj (header.symm.trans sent)
    obtain rfl := Option.some.inj (found.symm.trans device)
    obtain rfl := Option.some.inj (linked.symm.trans linked')
    exact ⟨owner.trans owner'.symm, groups, passwords⟩

/-! ## A neighbour -/

/-- Every action draws a uuid that no row has. -/
def isolatedChoices : Nat → Choice := fun _ => turn 20 0

/-- The caller asks for a password of the neighbour. -/
def foreignRequest : Request := .pwdGet deviceHeaders deviceIp neighbourPassword

omit [Crypto] [Archive] in
theorem neighbourRun_facts :
    letI := plainCrypto
    letI := plainArchive
    (∃ d ∈ deviceRun.world.identities, ∃ user ∈ deviceRun.world.users,
      deviceHeaders.getStr "device-token" = some (numbered 2064).toString ∧
      (∀ db ∈ [deviceRun.world, neighbourRun.world],
        Table.find (·.deviceToken) db.identities (some (hashToken (numbered 2064).toString)) = some d ∧
        Table.find (·.uuid) db.users user.uuid = some user ∧
        (numbered 20000).toString ∉ db.groups.map (·.uuid) ∧
        (numbered 20000).toString ∉ db.passwords.map (·.uuid)) ∧
      d.userId = some user.uuid ∧
      deviceRun.world.groupsOf user.uuid = neighbourRun.world.groupsOf user.uuid ∧
      deviceRun.world.passwordsOf user.uuid = neighbourRun.world.passwordsOf user.uuid) ∧
    neighbourPassword.toString ∈ neighbourRun.world.passwords.map (·.uuid) ∧
      neighbourPassword.toString ∉ deviceRun.world.passwords.map (·.uuid) ∧
      [getRequest, createRequest, foreignRequest].map (fun req =>
        (respond (exec Action.answer (serve plainConfig req) (isolatedChoices, deviceRun.world)).1).1) =
          [200, 200, 401] := by
  decide +kernel

omit [Crypto] [Archive] in
theorem neighbourRun_near :
    letI := plainCrypto
    Near deviceHeaders (isolatedChoices, deviceRun.world) (isolatedChoices, neighbourRun.world) := by
  let _ := plainCrypto
  obtain ⟨d, -, user, -, header, both, linked, groups, passwords⟩ := neighbourRun_facts.1
  refine near_of_rows header (fun _ => rfl) (fun db member => ?_) linked groups passwords
  obtain ⟨found, owner, newGroup, newPassword⟩ := both db member
  exact ⟨found, owner, fun _ => ⟨newGroup, newPassword⟩⟩

omit [Crypto] [Archive] in
/-- The caller reads and stores a password alike with and without a neighbour, and cannot tell the
neighbour's password from one that nobody has. -/
theorem users_isolated_neighbour :
    letI := plainCrypto
    letI := plainArchive
    (neighbourPassword.toString ∈ neighbourRun.world.passwords.map (·.uuid) ∧
      neighbourPassword.toString ∉ deviceRun.world.passwords.map (·.uuid) ∧
      [getRequest, createRequest, foreignRequest].map (fun req =>
        (respond (exec Action.answer (serve plainConfig req) (isolatedChoices, deviceRun.world)).1).1) =
          [200, 200, 401]) ∧
      ∀ req ∈ [getRequest, createRequest, foreignRequest],
        respond (exec Action.answer (serve plainConfig req) (isolatedChoices, deviceRun.world)).1 =
            respond (exec Action.answer (serve plainConfig req) (isolatedChoices, neighbourRun.world)).1 ∧
          SameView deviceHeaders
            (exec Action.answer (serve plainConfig req) (isolatedChoices, deviceRun.world)).2.2
            (exec Action.answer (serve plainConfig req) (isolatedChoices, neighbourRun.world)).2.2 := by
  let _ := plainCrypto
  let _ := plainArchive
  refine ⟨neighbourRun_facts.2, fun req member => ?_⟩
  have session : req.session = some (deviceHeaders, deviceIp) := by
    rcases List.mem_cons.mp member with rfl | member
    · rfl
    · rcases List.mem_cons.mp member with rfl | member
      · rfl
      · obtain rfl := List.mem_singleton.mp member
        rfl
  exact users_isolated session neighbourRun_near

end PasswordManager
