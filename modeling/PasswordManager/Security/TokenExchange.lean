import PasswordManager.Security.Provenance
import PasswordManager.Server.Plain

/-!
# Exchanging tokens

`refresh_handler` checks the token in one statement and replaces it in another. What it has
checked still holds when it writes if nobody sets the token or the user of the device in between.
-/

namespace PasswordManager
open Interaction

/-! ## Rows between two statements -/

/-- The event sets the token and the user of the device, or one of them. -/
def Sets (uuid : String) : Event Action.Answer Request Result Db → Prop
  | .act _ _ ⟨.transaction _ t, (.ok _ : Except Failure (String × String))⟩ _ _ =>
    t.identityUuid = uuid
  | .act _ _ ⟨.effect (.sql _ (.identityUpdate d changes _)), (.ok _ : Except DbError Identity)⟩ _ _ =>
    d = uuid ∧ (changes.deviceToken.isSome ∨ changes.userId.isSome)
  | .act _ _ ⟨.effect (.sql _ (.identityCreate new)), (.ok _ : Except DbError Identity)⟩ _ _ =>
    new.uuid = uuid
  | _ => False

theorem sets_write {uuid : String} {e : Event Action.Answer Request Result Db} (sets : Sets uuid e) :
    ∃ rid req x pre post, e = .act rid req x pre post ∧ x.action.isWrite = true := by
  unfold Sets at sets
  split at sets
  · exact ⟨_, _, _, _, _, rfl, rfl⟩
  · exact ⟨_, _, _, _, _, rfl, rfl⟩
  · exact ⟨_, _, _, _, _, rfl, rfl⟩
  · exact sets.elim

/-- Between the lookup and the UPDATE of a refresh request nothing sets the token or the user of
its device. -/
def Undisturbed (tr : Journal) : Prop :=
  ∀ newer middle older rid ip body conn conn' seen changes now row pre post req before after,
    tr = newer ++ .act rid (.refresh ip body)
        (answered conn (.identityUpdate (Identity.uuid seen) changes now) row) pre post ::
      (middle ++ .act rid req (answered conn' (.identityFindByIp ip) (some seen)) before after ::
        older) →
    ∀ e ∈ middle, ¬Sets (Identity.uuid seen) e

variable [Crypto] [Archive] {config : Config} {older middle : Journal} {db before : Db}
  {c : ServerState} {tr : Journal}

/-- A row whose token and user nothing has set in between is the row that was there before. -/
theorem row_since {uuid : String} (run : Run config (middle ++ older) db)
    (earlier : Run config older before) (unset : ∀ e ∈ middle, ¬Sets uuid e) :
    ∀ d ∈ db.identities, d.uuid = uuid → ∃ row ∈ before.identities,
      row.uuid = uuid ∧ d.deviceToken = row.deviceToken ∧ d.userId = row.userId := by
  induction middle generalizing db with
  | nil =>
    obtain rfl := run.world_unique earlier
    exact fun d member same => ⟨d, member, same, rfl, rfl⟩
  | cons e middle ih =>
    have rest : ∀ e ∈ middle, ¬Sets uuid e := fun e member => unset e (List.mem_cons_of_mem _ member)
    have now := unset e List.mem_cons_self
    cases e with
    | start rid req => exact ih run.start_inv.1 rest
    | reply rid req res => exact ih run.reply_inv.1 rest
    | act rid req x pre post =>
      obtain ⟨run', -, -, rfl⟩ := run.newest
      have change := Run.change run
      have before := ih run' rest
      intro d member same
      rcases change.identities with kept | ⟨_, new, clock, rfl, -, created⟩ |
        ⟨_, t, user, token, _, at_, old, rfl, -, -, -, linked⟩ |
        ⟨_, target, changes, at_, old, rfl, -, -, changed⟩ | ⟨_, _, _, -, -, deleted⟩
      · exact before d (kept ▸ member) same
      · rw [created] at member
        rcases List.mem_append.mp member with present | here
        · exact before d present same
        · obtain rfl := List.mem_singleton.mp here
          exact absurd same now
      · rw [linked] at member
        rcases Table.mem_update.mp member with ⟨old, present, target, rfl⟩ | ⟨present, -⟩
        · exact absurd (target.symm.trans same) now
        · exact before d present same
      · rw [changed] at member
        rcases Table.mem_update.mp member with ⟨old, present, found, rfl⟩ | ⟨present, -⟩
        · obtain ⟨row, was, uuid, token, user⟩ := before old present same
          have keeps : changes.deviceToken = none ∧ changes.userId = none := by
            by_contra sets
            refine now ⟨found.symm.trans same, ?_⟩
            rw [Option.isSome_iff_ne_none, Option.isSome_iff_ne_none]
            tauto
          refine ⟨row, was, uuid, ?_, ?_⟩
          · simp only [UpdateIdentity.apply, keeps, Option.none_or]
            exact token
          · simp only [UpdateIdentity.apply, keeps, Option.none_or]
            exact user
        · exact before d present same
      · rw [deleted] at member
        exact before d (List.mem_of_mem_filter member) same

/-! ## Refreshes -/

/-- The UPDATE of a refresh request, with the token that it presented and the row and the user
that it verified. -/
inductive Refreshed (config : Config) (tr : Journal) (rid : Nat) (old : String) (seen : Identity)
    (user : String) (pre : Db) : Prop where
  | intro {newer older ip body conn changes now row post}
      (split : tr = newer ++ .act rid (.refresh ip body)
        (answered conn (.identityUpdate seen.uuid changes now) row) pre post :: older)
      (lookup : ∃ conn, answered conn (.identityFindByIp ip) (some seen) ∈ own rid older)
      (presented : Opens config seen body.token (asBytes old))
      (verified : hashToken old = seen.deviceToken.getD "")
      (knows : KnowsEhlo config (own rid older) seen body.ehlo user)

/-- A token is exchanged at most once: when a refresh request that succeeds writes, the row still
holds the token and the user that it verified, and no two requests exchange the same token. -/
structure ExchangedOnce (config : Config) (c : ServerState) : Prop where
  held : ∀ rid ip body token, Ended c rid (.refresh ip body) (.ok (.token token)) →
    ∃ old seen user pre, Refreshed config c.trace rid old seen user pre ∧
      ∃ row ∈ pre.identities, row.uuid = seen.uuid ∧ row.deviceToken = some (hashToken old) ∧
        row.userId = some user
  once : ∀ rid rid' old seen seen' user user' pre pre',
    Refreshed config c.trace rid old seen user pre →
    Refreshed config c.trace rid' old seen' user' pre' → rid = rid'

theorem refreshed (reached : (server config).Reachable c) {rid : Nat} {ip : String}
    {body : TokenRequest} {token : String}
    (ended : Ended c rid (.refresh ip body) (.ok (.token token))) :
    ∃ old seen user pre, Refreshed config c.trace rid old seen user pre := by
  obtain ⟨conn, uuid, now, row, member⟩ := ended_settled reached ended
  obtain ⟨pre, post, newer, older, split, earlier⟩ := ended_performed reached ended member
  obtain ⟨-, write⟩ := earlier.newest.2.1.write rfl
  generalize refreshChanges token = changes at *
  cases write with
  | refresh device opened holds knows drew =>
    exact ⟨_, _, _, pre, .intro split device opened holds knows⟩

/-- Undisturbed, the row that is updated is as it was when it was verified. -/
theorem held_at_update (run : Run config tr db) (fresh : Fresh tr) (undisturbed : Undisturbed tr)
    {rid : Nat} {old user : String} {seen : Identity} {pre : Db}
    (refreshed : Refreshed config tr rid old seen user pre) :
    ∃ row ∈ pre.identities, row.uuid = seen.uuid ∧ row.deviceToken = some (hashToken old) ∧
      row.userId = some user := by
  obtain ⟨rfl, ⟨conn, lookup⟩, presented, verified, knows⟩ := refreshed
  have updated := Run.suffix run
  obtain ⟨before, -, -, -⟩ := updated.newest
  obtain ⟨req, early, late, middle, oldest, rfl, read⟩ := before.performed lookup
  obtain ⟨-, -, happened, -⟩ := read.newest
  obtain rfl : late = early := happened_unwritten rfl happened
  obtain ⟨moment, found⟩ := happened_sql happened
  obtain ⟨present, -⟩ := Table.find_some (Except.ok.inj (Prod.mk.inj found).1)
  -- The row that was looked up is linked, so it has a token.
  have marked := run_marked read (Fresh.suffix (_ ++ _ :: middle) (by simpa using fresh)) seen present
  obtain ⟨token, handed⟩ := Marked.linked marked knows.linked
  have shown : seen.deviceToken = some (hashToken old) := by
    rw [verified, handed]
    rfl
  have change := Run.change updated
  cases change with
  | none unchanged => cases unchanged
  | @identityUpdate _ _ _ _ row _ _ write target after =>
    obtain ⟨member, same⟩ := Table.find_some target
    obtain ⟨row', was, same', token', user'⟩ := row_since before read
      (undisturbed _ _ _ _ _ _ _ _ _ _ _ _ _ _ _ _ _ rfl) row member same
    obtain rfl := Table.key_unique late.valid.identityUuid was present same'
    exact ⟨row, member, same, token'.trans shown, user'.trans knows.linked⟩

theorem exchanged_gone (injective : HashInjective) {rid : Nat} {ip : String} {body : TokenRequest}
    {conn : Conn} {uuid old : String} {changes : UpdateIdentity} {now : NaiveDateTime}
    {row : Identity} {pre post : Db}
    (run : Run config (middle ++ .act rid (.refresh ip body)
      (answered conn (.identityUpdate uuid changes now) row) pre post :: older) db)
    (fresh : Fresh (middle ++ .act rid (.refresh ip body)
      (answered conn (.identityUpdate uuid changes now) row) pre post :: older))
    (held : ∃ d ∈ pre.identities, d.uuid = uuid ∧ d.deviceToken = some (hashToken old)) :
    ∀ d ∈ db.identities, d.deviceToken ≠ some (hashToken old) := by
  obtain ⟨d', member', same, holds'⟩ := held
  have updated := Run.suffix run
  obtain ⟨-, write⟩ := updated.newest.2.1.write rfl
  obtain ⟨x, deed, fits⟩ := identityUpdate_deed row write
  have replaced : (x.token uuid).isSome := by
    have written : changes.deviceToken.isSome := by cases write; rfl
    rw [fits.token, Option.isSome_map] at written
    exact written
  subst same
  have first := (run_marked updated.newest.1 (Fresh.suffix (middle ++ [_]) (by simpa using fresh))
    d' member').last injective holds'
  obtain ⟨y, handed, wrote⟩ := List.exists_of_findSome?_eq_some first
  obtain ⟨later, split⟩ := deeds_append middle (.act rid (.refresh ip body)
    (answered conn (.identityUpdate d'.uuid changes now) row) pre post :: older)
  rw [deeds, deed] at split
  exact token_gone injective run fresh split handed wrote replaced

/-- Requests that are served one after another do not disturb a refresh. -/
theorem undisturbed_of_serial (run : Run config tr db) (alone : Trace.serial tr) : Undisturbed tr := by
  intro newer middle older rid ip body conn conn' seen changes now row pre post req before after split
    e member sets
  subst split
  have updated := Run.suffix run
  obtain ⟨earlier, justified, -, -⟩ := updated.newest
  have unstarted : ∀ req, .start rid req ∉ middle := fun req starts =>
    Machine.Traced.unused earlier starts _ List.mem_cons_self rfl
  have own_event := serial_between (by nofun) unstarted (serial_suffix alone) e member
  -- So it is an event of the same request, which has written nothing yet.
  have quiet := (justified.write rfl).1
  obtain ⟨rid', req', x, before', after', rfl, writes⟩ := sets_write sets
  obtain rfl : rid' = rid := own_event
  cases (quiet x (mem_own.mpr ⟨_, _, _, List.mem_append_left _ member⟩)).symm.trans writes

/-- A token is exchanged at most once in every run in which nothing sets the token or the user of
a device between the lookup and the UPDATE of a refresh request. -/
theorem refresh_exchanges_once (injective : HashInjective)
    (reached : (server config).Reachable c) (fresh : Fresh c.trace)
    (undisturbed : Undisturbed c.trace) : ExchangedOnce config c := by
  have run := reachable_run reached
  constructor
  · intro rid ip body token ended
    obtain ⟨old, seen, user, pre, exchange⟩ := refreshed reached ended
    exact ⟨old, seen, user, pre, exchange, held_at_update run fresh undisturbed exchange⟩
  · intro rid rid' old seen seen' user user' pre pre' one two
    obtain ⟨d, member, same, holds, -⟩ := held_at_update run fresh undisturbed one
    obtain ⟨d', member', same', holds', -⟩ := held_at_update run fresh undisturbed two
    obtain ⟨split, -⟩ := one
    obtain ⟨split', -⟩ := two
    have before : ∀ {a b : Event Action.Answer Request Result Db} {newer middle older : Journal},
        c.trace = newer ++ a :: (middle ++ b :: older) → Fresh (middle ++ b :: older) := by
      intro a b newer middle older split
      rw [split] at fresh
      exact Fresh.suffix (newer ++ [a]) (by simpa using fresh)
    rcases places_ordered split split' with ⟨same, -⟩ | ⟨middle, rfl⟩ | ⟨middle, rfl⟩
    · exact congrArg Event.rid same
    · have run := (Run.suffix (split ▸ run)).newest.1
      exact absurd holds
        (exchanged_gone injective run (before split) ⟨d', member', same', holds'⟩ d member)
    · have run := (Run.suffix (split' ▸ run)).newest.1
      exact absurd holds'
        (exchanged_gone injective run (before split') ⟨d, member, same, holds⟩ d' member')

omit [Crypto] [Archive] in
theorem refresh_exchanges_once_device :
    letI := plainCrypto
    letI := plainArchive
    ExchangedOnce plainConfig deviceRun := by
  let _ := plainCrypto
  let _ := plainArchive
  have undisturbed := undisturbed_of_serial (reachable_run deviceRun_reachable) deviceRun_checked.serial
  exact refresh_exchanges_once plain_hash deviceRun_reachable deviceRun_checked.fresh undisturbed

/-! ## Two requests with one token -/

/-- Two refresh requests with the same token: both check it, and then both write. -/
def racingMoves : List (Move Request Choice) :=
  alone 0 8 greetRequest ++ alone 1 6 signUpRequest ++
    [.start 2 refreshRequest, .start 3 refreshRequest] ++
    (List.range 6).map (fun k => .step 2 (turn 2 k)) ++
    (List.range 6).map (fun k => .step 3 (turn 3 k)) ++
    [.step 2 (turn 2 6), .step 3 (turn 3 6), .step 2 (turn 2 7), .step 3 (turn 3 7)]

def racingRun : ServerState :=
  letI := plainCrypto
  letI := plainArchive
  (server plainConfig).play racingMoves { world := Db.empty }

/-- What the device's row holds when the requests check it. -/
def sharedToken : String := Hex.encode (asBytes (numbered 1068).toString)

/-- The second request is not told of a device with another token. -/
def readsToken : Event Action.Answer Request Result Db → Bool
  | .act rid _ ⟨.effect (.sql _ (.identityFindByIp _)), (.ok seen : Except DbError (Option Identity))⟩ _ _ =>
    rid != 3 || seen.all fun d => d.deviceToken == some sharedToken
  | _ => true

/-- The second request does not update a database in which a device has the token. -/
def writesLate : Event Action.Answer Request Result Db → Bool
  | .act rid _ ⟨.effect (.sql _ (.identityUpdate _ _ _)), _⟩ pre _ =>
    rid != 3 || pre.identities.all fun d => d.deviceToken != some sharedToken
  | _ => true

structure Racing (tr : Journal) : Prop where
  fresh : Fresh tr
  answered : tr.any (replies 3 refreshRequest fun
    | .ok (.token _) => true
    | _ => false)
  reads : tr.all readsToken
  writes : tr.all writesLate

instance (tr : Journal) : Decidable (Racing tr) :=
  decidable_of_iff (_ ∧ _ ∧ _ ∧ _) ⟨fun ⟨a, b, c, d⟩ => ⟨a, b, c, d⟩, fun ⟨a, b, c, d⟩ => ⟨a, b, c, d⟩⟩

omit [Crypto] [Archive] in
theorem racingRun_checked : Racing racingRun.trace := by
  decide +kernel

omit [Crypto] [Archive] in
/-- The second of two requests with one token succeeds although the row that it updates does not
hold the token any more. -/
theorem refresh_races :
    letI := plainCrypto
    letI := plainArchive
    ∃ c, (server plainConfig).Reachable c ∧ Fresh c.trace ∧ ¬ExchangedOnce plainConfig c := by
  let _ := plainCrypto
  let _ := plainArchive
  refine ⟨racingRun, Machine.play_reachable racingMoves _, racingRun_checked.fresh, fun once => ?_⟩
  obtain ⟨_ | reply, ended, kind⟩ := ended_of_replies racingRun_checked.answered
  · cases kind
  cases reply with
  | token token =>
    obtain ⟨old, seen, user, pre, ⟨split, ⟨conn, lookup⟩, -, verified, -⟩, row, member, -, holds, -⟩ :=
      once.held _ _ _ _ ended
    have shown : seen.deviceToken = some sharedToken := by
      obtain ⟨req, pre', post', event⟩ := mem_own.mp lookup
      have read := List.all_eq_true.mp racingRun_checked.reads _
        (split ▸ List.mem_append_right _ (List.mem_cons_of_mem _ event))
      simpa [readsToken] using read
    have gone := List.all_eq_true.mp racingRun_checked.writes _
      (split ▸ List.mem_append_right _ List.mem_cons_self)
    have absent : ∀ d ∈ pre.identities, d.deviceToken ≠ some sharedToken := by
      simpa [writesLate] using gone
    refine absent row member (holds.trans ?_)
    rw [verified, shown]
    rfl
  | _ => cases kind

end PasswordManager
