import Mathlib.Algebra.Group.Int.Defs
import PasswordManager.Security.Paging
import PasswordManager.Security.RoundTrip

/-!
# Expiry

How long a password is valid over its whole life: the time that its creation gives it, counted from
its last create or update, as `/pwd/list` and `/pwd/get` report it.
-/

namespace PasswordManager
open Interaction Fallible NaiveDateTime

/-! ## The time that is left -/

/-- The time of the password is over. -/
def Password.Due (now : NaiveDateTime) (p : Password) : Prop := p.validSince + p.validSinceDays * day ≤ now

instance (now : NaiveDateTime) (p : Password) : Decidable (p.Due now) :=
  inferInstanceAs (Decidable (_ ≤ _))

/-- What a reply has to report of a password: 0 when its time is over, and before it the rest in whole
days, rounded up. -/
structure Expires (now : NaiveDateTime) (p : Password) (days : Int) : Prop where
  passed : p.Due now → days = 0
  left : ¬p.Due now → RoundedUp (p.validSince + p.validSinceDays * day - now) days ∧
    1 ≤ days ∧ days ≤ p.validSinceDays

/-- `num_days` truncates, so it counts the days that have gone by. -/
theorem daysRemainingAt_floor {now since : Int} (days : Int) (later : since ≤ now) :
    ∃ elapsed : Int, daysRemainingAt now since days = max (days - elapsed) 0 ∧ 0 ≤ elapsed ∧
      elapsed * day ≤ now - since ∧ now - since < (elapsed + 1) * day := by
  have truncated : NaiveDateTime.numDays now since = (now - since) / day :=
    Int.tdiv_eq_ediv_of_nonneg (by omega)
  refine ⟨(now - since) / day, ?_, ?_⟩
  · unfold daysRemainingAt
    rw [if_neg (Int.not_lt.mpr later), truncated]
  · unfold day second
    omega

theorem max_rounded {now since days elapsed : Int} (past : 0 ≤ elapsed) (below : elapsed * day ≤ now - since)
    (above : now - since < (elapsed + 1) * day) (left : now < since + days * day) :
    RoundedUp (since + days * day - now) (max (days - elapsed) 0) ∧ 1 ≤ max (days - elapsed) 0 ∧
      max (days - elapsed) 0 ≤ days := by
  unfold RoundedUp
  unfold day second at *
  omega

theorem max_over {now since days elapsed : Int} (above : now - since < (elapsed + 1) * day)
    (passed : since + days * day ≤ now) : max (days - elapsed) 0 = 0 := by
  unfold day second at *
  omega

theorem daysRemainingAt_expires {now : NaiveDateTime} {p : Password} (later : p.validSince ≤ now) :
    Expires now p (daysRemainingAt now p.validSince p.validSinceDays) := by
  obtain ⟨elapsed, days, past, below, above⟩ := daysRemainingAt_floor p.validSinceDays later
  rw [days]
  exact ⟨fun passed => max_over above passed, fun left => max_rounded past below above (Int.not_le.mp left)⟩

theorem Expires.zero_iff {now : NaiveDateTime} {p : Password} {days : Int} (expires : Expires now p days) :
    days ≤ 0 ↔ p.Due now := by
  constructor
  · intro none
    by_contra left
    have := (expires.left left).2.1
    omega
  · exact fun passed => Int.le_of_eq (expires.passed passed)

theorem Expires.antitone {now now' : NaiveDateTime} {p : Password} {days days' : Int} (order : now ≤ now')
    (expires : Expires now p days) (expires' : Expires now' p days') : days' ≤ days := by
  by_cases passed' : p.Due now'
  · rw [expires'.passed passed']
    by_cases passed : p.Due now
    · exact Int.le_of_eq (expires.passed passed).symm
    · have := (expires.left passed).2.1
      omega
  · have left : ¬p.Due now := fun passed => passed' (Int.le_trans passed order)
    exact RoundedUp.mono (Int.sub_le_sub_left order _) (expires.left left).1 (expires'.left passed').1

/-! ## The arithmetic -/

/-- An `i64`, unless the number is too large for it. -/
def checkedI64 (n : Int) : Option Int := if -2 ^ 63 ≤ n ∧ n < 2 ^ 63 then some n else none

/-- The subtraction of two `NaiveDateTime`s: a `TimeDelta` has at most `i64::MAX` milliseconds. -/
def checkedSince (later earlier : NaiveDateTime) : Option Int :=
  if (later - earlier).natAbs ≤ (2 ^ 63 - 1) * 1000000 then some (later - earlier) else none

/-- `days_remaining` in the number types of the source, `none` where a step overflows. -/
def checkedDaysRemaining (now validSince : NaiveDateTime) (validSinceDays : Int) : Option Int :=
  if now < validSince then checkedI64 validSinceDays
  else do
    let delta ← checkedSince now validSince
    let elapsed ← checkedI64 (delta.tdiv day)
    let rest ← checkedI64 (validSinceDays - elapsed)
    return max rest 0

/-- A time in the range of `NaiveDateTime`, which ends before 10^8 days from 1970. -/
def Representable (nanoseconds : Int) : Prop :=
  -(100000000 * day) ≤ nanoseconds ∧ nanoseconds ≤ 100000000 * day

theorem checkedDaysRemaining_some {now since days : Int} (known : Representable now)
    (known' : Representable since) (small : -2 ^ 31 ≤ days ∧ days < 2 ^ 31) :
    checkedDaysRemaining now since days = some (daysRemainingAt now since days) := by
  unfold Representable day second at known known'
  unfold checkedDaysRemaining daysRemainingAt
  split
  · unfold checkedI64
    rw [if_pos (by omega)]
  · rename_i started
    have order : since ≤ now := Int.not_lt.mp started
    have truncated : (now - since).tdiv day = (now - since) / day :=
      Int.tdiv_eq_ediv_of_nonneg (by omega)
    have elapsed : 0 ≤ (now - since) / day ∧ (now - since) / day ≤ 200000000 := by
      unfold day second
      omega
    have duration : checkedSince now since = some (now - since) := if_pos (by omega)
    have counted : checkedI64 ((now - since) / day) = some ((now - since) / day) := if_pos (by omega)
    have rest : checkedI64 (days - (now - since) / day) = some (days - (now - since) / day) := if_pos (by omega)
    simp only [duration, Option.bind_eq_bind, Option.bind_some, truncated, counted, rest]
    unfold NaiveDateTime.numDays
    rw [truncated]
    rfl

/-! ## What the journal knows of a password -/

/-- The time of a successful create or update of the entry. -/
def stampOf (uuid : String) : Event Action.Answer Request Result Db → Option NaiveDateTime
  | .act _ _ ⟨.effect (.sql _ (.passwordCreate new)), (.ok _ : Except DbError Password)⟩ _ _ =>
    if new.uuid = uuid then some new.validSince else none
  | .act _ _ ⟨.effect (.sql _ (.passwordUpdate p _ now)), (.ok _ : Except DbError Password)⟩ _ _ =>
    if p = uuid then some now else none
  | _ => none

/-- The time of the last successful create or update of the entry. -/
def lastStamp (tr : Journal) (uuid : String) : Option NaiveDateTime := tr.findSome? (stampOf uuid)

def clockRead : Event Action.Answer Request Result Db → Option NaiveDateTime
  | .act _ _ ⟨.effect .now, t⟩ _ _ => some t
  | _ => none

/-- The times that requests have read from the clock. -/
def readings (tr : Journal) : List NaiveDateTime := tr.filterMap clockRead

/-- The password has the term that the request which created it asked for, its time of creation, and
the time of its last create or update, which the clock has shown. -/
structure Aged (tr : Journal) (p : Password) : Prop where
  created : ∃ rid headers ip body conn new clock pre post,
    .act rid (.pwdCreate headers ip body) (answered conn (.passwordCreate new) (new.row clock)) pre post ∈ tr ∧
      new.uuid = p.uuid ∧ p.createdAt = (new.row clock).createdAt ∧
      p.validSinceDays = (body.validSinceDays.map (clampInt 1 365)).getD 30
  stamped : lastStamp tr p.uuid = some p.validSince
  read : p.validSince ∈ readings tr

theorem Aged.term {tr : Journal} {p : Password} (aged : Aged tr p) :
    1 ≤ p.validSinceDays ∧ p.validSinceDays ≤ 365 := by
  obtain ⟨_, _, _, body, _, _, _, _, _, -, -, -, term⟩ := aged.created
  rw [term]
  cases body.validSinceDays with
  | none => decide
  | some asked =>
    simp only [Option.map_some, Option.getD_some, clampInt]
    omega

theorem lastStamp_new {tr : Journal} {uuid : String} {e : Event Action.Answer Request Result Db}
    {t : NaiveDateTime} (stamp : stampOf uuid e = some t) : lastStamp (e :: tr) uuid = some t := by
  rw [lastStamp, List.findSome?_cons, stamp]

theorem readings_cons {tr : Journal} {t : NaiveDateTime} (e : Event Action.Answer Request Result Db)
    (read : t ∈ readings tr) : t ∈ readings (e :: tr) :=
  ((List.sublist_cons_self e tr).filterMap clockRead).subset read

theorem Aged.cons {tr : Journal} {p : Password} {e : Event Action.Answer Request Result Db}
    (other : stampOf p.uuid e = none) (aged : Aged tr p) : Aged (e :: tr) p := by
  obtain ⟨⟨rid, headers, ip, body, conn, new, clock, pre, post, member, created⟩, stamped, read⟩ := aged
  refine ⟨⟨rid, headers, ip, body, conn, new, clock, pre, post, List.mem_cons_of_mem _ member, created⟩, ?_,
    readings_cons e read⟩
  rw [lastStamp, List.findSome?_cons, other]
  exact stamped

theorem readings_own {tr : Journal} {rid : Nat} {now : NaiveDateTime} (member : readClock now ∈ own rid tr) :
    now ∈ readings tr := by
  obtain ⟨req, pre, post, member⟩ := mem_own.mp member
  exact List.mem_filterMap.mpr ⟨_, member, rfl⟩

theorem stampOf_unwritten {rid : Nat} {req : Request} {e : Exchange Action.Answer} {pre post : Db}
    (unchanged : wrote e = false) (uuid : String) : stampOf uuid (.act rid req e pre post) = none := by
  rcases e with ⟨x | ⟨conn, t⟩ | x, a⟩
  · rcases x with ⟨conn, q⟩ | _ | _ | _ | _
    · rcases a with e | a
      · cases q <;> rfl
      · cases q <;> first | rfl | cases unchanged
    all_goals rfl
  · rfl
  · rfl

variable [Crypto] [Archive] {config : Config} {tr : Journal} {db : Db}

theorem run_aged (run : Run config tr db) : ∀ p ∈ db.passwords, Aged tr p := by
  induction run using Run.induction with
  | nil => nofun
  | start tr db rid req before run ih => exact fun p member => (ih p member).cons rfl
  | reply tr db rid req res before run ih => exact fun p member => (ih p member).cons rfl
  | act tr rid req e pre post before run change ih =>
    have other : (∀ uuid, stampOf uuid (.act rid req e pre post) = none) → post.passwords = pre.passwords →
        ∀ p ∈ post.passwords, Aged (.act rid req e pre post :: tr) p :=
      fun none kept p member => (ih p (kept ▸ member)).cons (none p.uuid)
    cases change with
    | none unchanged => exact other (stampOf_unwritten unchanged) rfl
    | passwordCreate write after =>
      cases write with
      | @pwdCreate headers ip body _ conn _ _ _ blob _ uuid now _ _ _ _ _ drew time =>
        have unique : (post.passwords.map (·.uuid)).Nodup := post.valid.passwordUuid
        rw [after] at unique ⊢
        intro p member
        rcases List.mem_append.mp member with present | here
        · refine (ih p present).cons (if_neg fun same => ?_)
          rw [List.map_append] at unique
          exact List.disjoint_of_nodup_append unique (List.mem_map_of_mem present)
            (List.mem_singleton.mpr same.symm)
        · obtain rfl := List.mem_singleton.mp here
          exact ⟨⟨_, _, _, _, _, _, _, _, _, List.mem_cons_self, rfl, rfl, rfl⟩, lastStamp_new (if_pos rfl),
            readings_cons _ (readings_own time)⟩
    | @passwordUpdate conn target changes now old _ _ write found after =>
      cases write with
      | @pwdUpdate _ _ body _ _ _ _ _ blob _ _ _ uuid _ _ _ _ _ _ _ _ _ time =>
        rw [after]
        intro p member
        rcases Table.mem_update.mp member with ⟨row, present, same, rfl⟩ | ⟨present, apart⟩
        · obtain ⟨created, -, -⟩ := ih row present
          obtain ⟨rid, headers, ip, body', conn, new, clock, pre, post, member, created⟩ := created
          refine ⟨⟨rid, headers, ip, body', conn, new, clock, pre, post, List.mem_cons_of_mem _ member, created⟩,
            lastStamp_new (if_pos same.symm), readings_cons _ (readings_own time)⟩
        · exact (ih p present).cons (if_neg fun same => apart same.symm)
    | signUp write vacant found after => exact other (fun _ => rfl) (by rw [after])
    | userUpdate write found after => exact other (fun _ => rfl) (by rw [after])
    | identityCreate write after => exact other (fun _ => rfl) (by rw [after])
    | identityUpdate write found after => exact other (fun _ => rfl) (by rw [after])
    | identityDelete write after => exact other (fun _ => rfl) (by rw [after])
    | groupCreate write after => exact other (fun _ => rfl) (by rw [after])

/-- Every password is still there, with its term and its time of creation. -/
def TermKept (a b : Db) : Prop :=
  ∀ p ∈ a.passwords, ∃ q ∈ b.passwords, q.uuid = p.uuid ∧ q.validSinceDays = p.validSinceDays ∧
    q.createdAt = p.createdAt

omit [Crypto] [Archive] in
theorem TermKept.refl (db : Db) : TermKept db db := fun p member => ⟨p, member, rfl, rfl, rfl⟩

omit [Crypto] [Archive] in
theorem TermKept.trans {a b c : Db} (first : TermKept a b) (second : TermKept b c) : TermKept a c := by
  intro p member
  obtain ⟨q, present, uuid, term, created⟩ := first p member
  obtain ⟨r, present, uuid', term', created'⟩ := second q present
  exact ⟨r, present, uuid'.trans uuid, term'.trans term, created'.trans created⟩

omit [Archive] in
theorem change_termKept {req : Request} {h : History Action.Answer} {e : Exchange Action.Answer} {pre post : Db}
    (change : Change config req h e pre post) : TermKept pre post := by
  intro p member
  rcases change.passwords with kept | ⟨_, new, clock, -, -, created⟩ |
    ⟨_, target, changes, now, old, -, write, -, updated⟩
  · exact ⟨p, kept ▸ member, rfl, rfl, rfl⟩
  · exact ⟨p, created ▸ List.mem_append_left _ member, rfl, rfl, rfl⟩
  · rw [updated]
    by_cases same : p.uuid = target
    · cases write with
      | pwdUpdate => exact ⟨_, Table.mem_update.mpr (.inl ⟨p, member, same, rfl⟩), rfl, rfl, rfl⟩
    · exact ⟨p, Table.mem_update.mpr (.inr ⟨member, same⟩), rfl, rfl, rfl⟩

theorem run_termKept (run : Run config tr db) : Past config TermKept tr db :=
  run.past TermKept TermKept.refl TermKept.trans fun _ _ => change_termKept

/-! ## What the replies report -/

section
variable {choices : Nat → Choice} {headers : HeaderMap} {ip user : String} {d : Identity} {key : BytesN 32}
  {now : NaiveDateTime}

/-- At one instant the user is answered about each of its passwords. -/
theorem get_detail (seals : Seals) (atRest : AtRest config db) (access : Access db headers ip d user)
    (derived : openSharedKey d config = .ok key) (stopped : StoppedAt now choices) {uuid : Uuid} {p : Password}
    (member : p ∈ db.passwordsOf user) (same : p.uuid = uuid.toString) :
    ∃ detail, served config choices (.pwdGet headers ip uuid) db = (.ok (.detail detail), db) ∧
      detail.uuid = p.uuid ∧ detail.expires = daysRemainingAt now p.validSince p.validSinceDays := by
  have calm := stopped.toCalm
  obtain ⟨found, owner⟩ := find_password.mpr ⟨member, same⟩
  obtain ⟨g, owned, mine⟩ := owner_group.mp owner
  obtain ⟨conn, connected⟩ := exec_conn db (calm.shift 4)
  obtain ⟨plain, opened⟩ := atRest.passwords p (mem_passwordsOf.mp member).1
  obtain ⟨blob, sealed⟩ := sealWith_isOk seals ((choices 8).chance 0).nonce plain key
  have lookup : exec Action.answer (liftM (Password.findByUuid conn uuid.toString) : Handler (Option Password))
      (fun n => choices (n + 6), db) = (.ok (some p), fun n => choices (n + 7), db) :=
    exec_statement (calm.statements 6) (by rw [← found]; rfl)
  have group : exec Action.answer (liftM (Group.findByUuid conn p.groupId) : Handler (Option Group))
      (fun n => choices (n + 7), db) = (.ok (some g), fun n => choices (n + 8), db) :=
    exec_statement (calm.statements 7) (by rw [← owned]; rfl)
  have sent : exec Action.answer (liftM (encryptForClient p.pwd d config) : Handler String)
      (fun n => choices (n + 8), db) = (.ok (Hex.encode blob), fun n => choices (n + 9), db) :=
    exec_encryptForClient opened derived sealed
  obtain ⟨detail, named, days, done⟩ : ∃ detail : PasswordDetail, detail.uuid = p.uuid ∧
      detail.expires = daysRemainingAt now p.validSince p.validSinceDays ∧
      exec Action.answer (getHandler config headers ip uuid) (choices, db) =
        (.ok detail, fun n => choices (n + 10), db) := by
    refine ⟨⟨p.uuid, Hex.encode blob, p.name, p.extra, daysRemainingAt now p.validSince p.validSinceDays,
      p.createdAt.display, p.updatedAt.display, p.validSinceDays, ⟨g.name, g.extra⟩⟩, rfl, rfl, ?_⟩
    unfold getHandler
    simp only [exec_bind, exec_validateAuth calm access, exec_okOr, access.linked, connected, lookup, group,
      exec_refuseIf, mine, ne_eq, not_true_eq_false, if_false, sent, exec_daysRemaining, exec_pure,
      Nat.zero_add, stopped.clock]
  refine ⟨detail, ?_, named, days⟩
  unfold served serve
  rw [exec_map done]
  rfl

/-- What the replies at the instant report: of every user that a device may read for, the list of the
expired and of the valid passwords, in the order in which SQLite returns the rows, and each password. -/
structure ReportedAt (config : Config) (db : Db) (now : NaiveDateTime) : Prop where
  list : ∀ headers ip d user choices params, Access db headers ip d user → StoppedAt now choices →
    ∃ r, served config choices (.pwdList headers ip params) db = (r, db) ∧
      (r.isOk ↔ (db.groupsOf user).length ≤ SQLITE_MAX_VARIABLE_NUMBER) ∧
      ∀ reply, r = .ok reply → ∃ entries, reply = .passwords entries ∧
        List.Forall₂ (fun p entry => entry.uuid = p.uuid ∧ Expires now p entry.expires)
          (((((listOrder choices).arrange (db.passwordsOf user)).filter fun p =>
            p.Due now ↔ params.expired.getD false = true).drop
            (max (params.take.getD 0) 0).toNat).take (pageSize params.size)) entries
  get : ∀ headers ip d user choices uuid p, Access db headers ip d user → StoppedAt now choices →
    p ∈ db.passwordsOf user → p.uuid = Uuid.toString uuid →
      ∃ detail, served config choices (.pwdGet headers ip uuid) db = (.ok (.detail detail), db) ∧
        detail.uuid = p.uuid ∧ Expires now p detail.expires

omit [Archive] in
theorem expires_on_page {rows : List Password} {expired : Bool} {skip take : Nat} {entries : List PasswordEntry}
    (expires : ∀ p ∈ rows, Expires now p (daysRemainingAt now p.validSince p.validSinceDays))
    (shown : List.Forall₂ (Shown config key now)
      (((rows.filter fun p => p.expiredAt now = expired).drop skip).take take) entries) :
    List.Forall₂ (fun p entry => entry.uuid = p.uuid ∧ Expires now p entry.expires)
      (((rows.filter fun p => p.Due now ↔ expired = true).drop skip).take take) entries := by
  have kind : (rows.filter fun p => p.expiredAt now = expired) =
      rows.filter fun p => p.Due now ↔ expired = true := by
    refine List.filter_congr fun p member => ?_
    rw [decide_eq_decide, Password.expiredAt, ← (expires p member).zero_iff, Bool.eq_iff_iff, decide_eq_true_iff]
  rw [kind] at shown
  have listed : ∀ p ∈ ((rows.filter fun p => p.Due now ↔ expired = true).drop skip).take take, p ∈ rows :=
    fun p member => List.mem_of_mem_filter (List.mem_of_mem_drop (List.mem_of_mem_take member))
  refine ((List.forall₂_and_left ..).mpr ⟨listed, shown⟩).imp ?_
  rintro p entry ⟨member, shown⟩
  rw [shown.rest]
  refine ⟨rfl, ?_⟩
  show Expires now p (if p.expiredAt now then 0 else _)
  split
  · rename_i expired
    have passed := (expires p member).zero_iff.mp (of_decide_eq_true expired)
    exact (expires p member).passed passed ▸ expires p member
  · exact expires p member

theorem reported (opens : OpensSealed) (seals : Seals) (atRest : AtRest config db)
    (later : ∀ p ∈ db.passwords, p.validSince ≤ now) : ReportedAt config db now := by
  have expires : ∀ {user p}, p ∈ db.passwordsOf user →
      Expires now p (daysRemainingAt now p.validSince p.validSinceDays) :=
    fun member => daysRemainingAt_expires (later _ (mem_passwordsOf.mp member).1)
  constructor
  · intro headers ip d user choices params access stopped
    by_cases few : (db.groupsOf user).length ≤ SQLITE_MAX_VARIABLE_NUMBER
    · obtain ⟨key, derived⟩ := openSharedKey_usable (atRest.identities d access.device)
      obtain ⟨entries, done, shown⟩ := list_page opens seals atRest access derived few stopped params
      refine ⟨_, done, iff_of_true rfl few, ?_⟩
      rintro reply ⟨⟩
      exact ⟨entries, rfl, expires_on_page
        (fun p member => expires (((listOrder choices).perm _).subset member)) shown⟩
    · have many := Nat.lt_of_not_le few
      exact ⟨_, list_exceeds config access many stopped.toCalm params, iff_of_false nofun few, nofun⟩
  · intro headers ip d user choices uuid p access stopped member same
    obtain ⟨key, derived⟩ := openSharedKey_usable (atRest.identities d access.device)
    obtain ⟨detail, done, uuid, days⟩ := get_detail seals atRest access derived stopped member same
    exact ⟨detail, done, uuid, days ▸ expires member⟩

end

/-! ## The whole life -/

/-- Over every run a password keeps the term that it was created with, from 1 to 365 days, and its time
of creation. Counted from its last create or update, the replies report when the term is over, and until
then the days that are left, rounded up, which do not get more without an update. No step of the
arithmetic overflows. -/
theorem password_expiry (opens : OpensSealed) (seals : Seals) {c : ServerState}
    (reached : (server config).Reachable c) :
    (∀ p ∈ c.world.passwords, Aged c.trace p ∧ 1 ≤ p.validSinceDays ∧ p.validSinceDays ≤ 365) ∧
      (∀ now, (∀ t ∈ readings c.trace, t ≤ now) → ReportedAt config c.world now) ∧
      (∀ c', (server config).Steps c c' → TermKept c.world c'.world ∧ ∀ p ∈ c.world.passwords,
        (∀ newer, c'.trace = newer ++ c.trace → ∀ e ∈ newer, ¬Updates p.uuid e) →
          p ∈ c'.world.passwords ∧ ∀ now now' days days', now ≤ now' → Expires now p days →
            Expires now' p days' → days' ≤ days) ∧
      ∀ now since days, Representable now → Representable since → -2 ^ 31 ≤ days ∧ days < 2 ^ 31 →
        checkedDaysRemaining now since days = some (daysRemainingAt now since days) := by
  have run := reachable_run reached
  refine ⟨fun p member => ⟨run_aged run p member, (run_aged run p member).term⟩, ?_, ?_, ?_⟩
  · intro now later
    exact reported opens seals (run_atRest opens run) fun p member => later _ (run_aged run p member).read
  · intro c' steps
    have run' := reachable_run (Machine.Steps.trans reached steps)
    obtain ⟨newer, split⟩ := steps.trace_suffix
    refine ⟨run_termKept run' newer c.trace c.world split.symm run, fun p member untouched => ⟨?_, ?_⟩⟩
    · exact password_stays (split ▸ run') run (untouched newer split.symm) p member rfl
    · exact fun now now' days days' order expires expires' => expires.antitone order expires'
  · exact fun now since days known known' small => checkedDaysRemaining_some known known' small

omit [Crypto] [Archive] in
/-- The password of the example has 30 days, and the replies say so. -/
theorem password_expiry_device :
    letI := plainCrypto
    letI := plainArchive
    (∃ p ∈ deviceRun.world.passwords, Aged deviceRun.trace p ∧ p.validSinceDays = 30) ∧
      ∀ now : Int, 0 ≤ now → ReportedAt plainConfig deviceRun.world now := by
  let _ := plainCrypto
  let _ := plainArchive
  obtain ⟨aged, reported, -⟩ := password_expiry plain_opens plain_seals deviceRun_reachable
  have checked : (∃ p ∈ deviceRun.world.passwords, p.validSinceDays = 30) ∧
      ∀ t ∈ readings deviceRun.trace, t = 0 := by
    decide +kernel
  obtain ⟨⟨p, member, term⟩, early⟩ := checked
  exact ⟨⟨p, member, (aged p member).1, term⟩, fun now later => reported now fun t read => early t read ▸ later⟩

end PasswordManager
