import PasswordManager.Security.Contention
import PasswordManager.Security.TokenExchange

/-!
# Bodies that are sent again

No handler remembers which bodies it has accepted. A body is refused the second time only because
of what has changed since: `/refresh` replaces the token that its body proves, `/sign-in` and
`/re-sign` leave what theirs prove as it was.
-/

namespace PasswordManager
open Interaction

/-- The same body, sent to the same endpoint from any two addresses. -/
inductive Replays : Request → Request → Prop where
  | signIn {ip ip' body} : Replays (.signIn ip body) (.signIn ip' body)
  | refresh {ip ip' body} : Replays (.refresh ip body) (.refresh ip' body)
  | resign {ip ip' body} : Replays (.resign ip body) (.resign ip' body)

/-- The request has not been started. -/
def Unstarted (tr : Journal) (rid : Nat) : Prop := ∀ e ∈ tr, e.rid ≠ rid

/-- The first request was accepted by the first state, the second later on the way to the second. -/
def Repeats (c c' : ServerState) (req req' : Request) : Prop :=
  ∃ rid rid' r r', Ended c rid req (.ok r) ∧ Unstarted c.trace rid' ∧ Ended c' rid' req' (.ok r')

/-- No body that was accepted is accepted again. -/
def NeverReplayed (c c' : ServerState) : Prop :=
  ∀ req req', Replays req req' → ¬Repeats c c' req req'

/-- The request has updated a device and left it with this row. -/
def Left (tr : Journal) (rid : Nat) (row : Identity) : Prop :=
  ∃ req conn uuid changes now pre post,
    .act rid req (answered conn (.identityUpdate uuid changes now) row) pre post ∈ tr

/-- The deed was done after the request wrote. -/
inductive Since (tr : Journal) (rid : Nat) (x : Deed) : Prop where
  | intro {newer req e pre post older later}
      (split : tr = newer ++ .act rid req e pre post :: older) (changed : wrote e = true)
      (log : deeds tr = later ++ deeds (.act rid req e pre post :: older)) (member : x ∈ later)

/-! ## Lookups -/

variable [Crypto] [Archive] {config : Config} {tr older : Journal} {db : Db} {c c' : ServerState}
  {rid : Nat}

/-- The row was in the database at some point of the run. -/
def Seen (config : Config) (tr : Journal) (d : Identity) : Prop :=
  ∃ newer older before, tr = newer ++ older ∧ Run config older before ∧ d ∈ before.identities

theorem token_given (injective : HashInjective) (fresh : Fresh tr) {d : Identity} {token : String}
    (seen : Seen config tr d) (holds : d.deviceToken = some (hashToken token)) :
    ∃ y ∈ deeds tr, y.token d.uuid = some token := by
  obtain ⟨newer, older, before, rfl, earlier, member⟩ := seen
  have last := (run_marked earlier (Fresh.suffix newer fresh) d member).last injective holds
  obtain ⟨y, given, wrote⟩ := List.exists_of_findSome?_eq_some last
  obtain ⟨later, split⟩ := deeds_append newer older
  exact ⟨y, split ▸ List.mem_append_right _ given, wrote⟩

/-- A linked device that was looked up has a token, so the default is not used. -/
theorem token_verified (fresh : Fresh tr) {d : Identity} {token user : String}
    (seen : Seen config tr d) (verified : hashToken token = d.deviceToken.getD "")
    (linked : d.userId = some user) : d.deviceToken = some (hashToken token) := by
  obtain ⟨newer, older, before, rfl, earlier, member⟩ := seen
  have marked := run_marked earlier (Fresh.suffix newer fresh) d member
  obtain ⟨given, handed⟩ := Marked.linked marked linked
  rw [verified, handed]
  rfl

theorem seen_same (fresh : Fresh tr) {d d' : Identity} (one : Seen config tr d)
    (two : Seen config tr d') (same : d.uuid = d'.uuid) : SameDevice d d' := by
  obtain ⟨newer, older, before, rfl, run, member⟩ := one
  obtain ⟨newer', older', before', split, run', member'⟩ := two
  rcases List.suffix_or_suffix_of_suffix ⟨newer, rfl⟩ ⟨newer', split.symm⟩ with
    ⟨middle, rfl⟩ | ⟨middle, rfl⟩
  · have fresh' : Fresh (middle ++ older) := Fresh.suffix newer' (split ▸ fresh)
    exact (same_device run' fresh' rfl run member' member same.symm).symm
  · exact same_device run (Fresh.suffix newer fresh) rfl run' member member' same

/-- The request looked up the device that it comes from. -/
inductive Looked (tr : Journal) (rid : Nat) (d : Identity) : Prop where
  | byIp {conn ip} (lookup : answered conn (.identityFindByIp ip) (some d) ∈ own rid tr)
  | byToken {conn token}
      (lookup : answered conn (.identityFindByDeviceToken token) (some d) ∈ own rid tr)

theorem read_later (run : Run config tr db) (suffix : older <:+ tr) (unstarted : Unstarted older rid)
    {e : Exchange Action.Answer} (member : e ∈ own rid tr) :
    ∃ req pre post middle, .act rid req e pre post :: (middle ++ older) <:+ tr ∧
      Run config (.act rid req e pre post :: (middle ++ older)) post := by
  obtain ⟨req, pre, post, newest, oldest, split, done⟩ := run.performed member
  have here : .act rid req e pre post :: oldest <:+ tr := ⟨newest, split.symm⟩
  rcases List.suffix_or_suffix_of_suffix suffix here with inside | inside
  · rcases List.suffix_cons_iff.mp inside with same | ⟨middle, rfl⟩
    · exact absurd rfl (unstarted (.act rid req e pre post) (same ▸ List.mem_cons_self))
    · exact ⟨req, pre, post, middle, here, done⟩
  · exact absurd rfl (unstarted _ (inside.subset List.mem_cons_self))

theorem Looked.later (run : Run config tr db) (suffix : older <:+ tr)
    (unstarted : Unstarted older rid) {d : Identity} (looked : Looked tr rid d) :
    ∃ middle before, middle ++ older <:+ tr ∧ Run config (middle ++ older) before ∧
      d ∈ before.identities := by
  cases looked with
  | byIp lookup =>
    obtain ⟨req, pre, post, middle, inside, done⟩ := read_later run suffix unstarted lookup
    obtain ⟨earlier, moment, answer⟩ := Run.looked rfl done
    exact ⟨middle, pre, (List.suffix_cons _ _).trans inside, earlier,
      (Table.find_some (Except.ok.inj (Prod.mk.inj answer).1)).1⟩
  | byToken lookup =>
    obtain ⟨req, pre, post, middle, inside, done⟩ := read_later run suffix unstarted lookup
    obtain ⟨earlier, moment, answer⟩ := Run.looked rfl done
    exact ⟨middle, pre, (List.suffix_cons _ _).trans inside, earlier,
      (Table.find_some (Except.ok.inj (Prod.mk.inj answer).1)).1⟩

theorem Looked.seen (run : Run config tr db) {d : Identity} (looked : Looked tr rid d) :
    Seen config tr d := by
  obtain ⟨middle, before, ⟨newer, split⟩, earlier, member⟩ :=
    looked.later run (List.nil_suffix) (List.forall_mem_nil _)
  exact ⟨newer, middle ++ [], before, split.symm, earlier, member⟩

theorem found_holds (run : Run config tr db) {conn : Conn} {hash : String} {d : Identity}
    (lookup : answered conn (.identityFindByDeviceToken hash) (some d) ∈ own rid tr) :
    d.deviceToken = some hash := by
  obtain ⟨newer, older, before, moment, split, earlier, done⟩ := run.read rfl lookup
  exact (Table.find_some (Except.ok.inj (Prod.mk.inj done).1)).2

/-! ## Updates -/

/-- The request is answered through an UPDATE of a device. -/
def Request.updates : Request → Bool
  | .signIn _ _ | .refresh _ _ | .resign _ _ => true
  | _ => false

theorem accepted_left (reached : (server config).Reachable c) {req : Request} {r : Reply}
    (updates : req.updates = true) (ended : Ended c rid req (.ok r)) : ∃ d, Left c.trace rid d := by
  have leaves : ∀ {conn uuid changes now row},
      answered conn (.identityUpdate uuid changes now) row ∈ own rid c.trace →
        ∃ d, Left c.trace rid d := by
    intro conn uuid changes now row member
    obtain ⟨req, pre, post, event⟩ := mem_own.mp member
    exact ⟨row, req, conn, uuid, changes, now, pre, post, event⟩
  have settled : Outcome config req (own rid c.trace) r := ended_settled reached ended
  cases req with
  | signIn ip body =>
    cases r with
    | token token =>
      obtain ⟨conn, uuid, user, now, row, member⟩ := settled
      exact leaves member
    | _ => cases settled
  | refresh ip body =>
    cases r with
    | token token =>
      obtain ⟨conn, uuid, now, row, member⟩ := settled
      exact leaves member
    | _ => cases settled
  | resign ip body =>
    obtain ⟨-, conn, uuid, changes, now, row, member⟩ := ended_yields reached ended
    exact leaves member
  | _ => cases updates

theorem left_write (reached : (server config).Reachable c) {req : Request} {r : Result}
    (ended : Ended c rid req r) {row : Identity} (left : Left c.trace rid row) :
    ∃ newer older conn uuid changes now pre post old,
      c.trace = newer ++ .act rid req (answered conn (.identityUpdate uuid changes now) row) pre post :: older ∧
      Run config older pre ∧ old ∈ pre.identities ∧ old.uuid = uuid ∧ row = changes.apply now old ∧
      Write config req (own rid older) (.effect (.sql conn (.identityUpdate uuid changes now))) := by
  obtain ⟨req', conn, uuid, changes, now, pre, post, event⟩ := left
  have run := reachable_run reached
  obtain rfl := run.start_unique (run.started event) (ended_started reached ended)
  obtain ⟨newer, older, split, done⟩ := run.upTo event
  obtain ⟨earlier, justified, -, -⟩ := done.newest
  have change := Run.change done
  cases change with
  | none unchanged => cases unchanged
  | identityUpdate write found after =>
    obtain ⟨member, same⟩ := Table.find_some found
    exact ⟨newer, older, conn, uuid, changes, now, pre, post, _, split, earlier, member, same, rfl, write⟩

/-- The token that a request of `/refresh` or `/re-sign` presents, read off its body with the key
of the device. -/
def Presents (config : Config) (d : Identity) (token : String) : Request → Prop
  | .refresh _ body => Opens config d body.token (asBytes token)
  | .resign _ body => Hex.decode body.token = some (asBytes token)
  | _ => False

theorem accepted_held (reached : (server config).Reachable c) (fresh : Fresh c.trace) {req : Request}
    {r : Result} (ended : Ended c rid req r) {row : Identity} (left : Left c.trace rid row)
    (token : ∃ ip body, req = .refresh ip body ∨ req = .resign ip body) :
    ∃ older conn seen changes now pre post token,
      .act rid req (answered conn (.identityUpdate (Identity.uuid seen) changes now) row) pre post ::
        older <:+ c.trace ∧
      Run config older pre ∧ Looked older rid seen ∧ seen.deviceToken = some (hashToken token) ∧
      SameDevice row seen ∧ Presents config seen token req := by
  obtain ⟨newer, older, conn, uuid, changes, now, pre, post, old, split, earlier, member, same, rfl, write⟩ :=
    left_write reached ended left
  have fresh : Fresh older := Fresh.suffix (newer ++ [_]) (by simpa [split] using fresh)
  have inside : .act rid req (answered conn (.identityUpdate uuid changes now) (changes.apply now old))
      pre post :: older <:+ c.trace := ⟨newer, split.symm⟩
  have present : Seen config older old := ⟨[], older, pre, rfl, earlier, member⟩
  have like : ∀ {seen : Identity}, Looked older rid seen → uuid = seen.uuid →
      SameDevice (changes.apply now old) seen := by
    intro seen looked target
    exact (seen_same fresh present (looked.seen earlier) (same.trans target)).apply _ _
      (write_keeps_key write)
  obtain ⟨ip, body, rfl | rfl⟩ := token
  · cases write with
    | @refresh _ _ _ _ seen token user _ _ device opened holds knows drew =>
      obtain ⟨conn', lookup⟩ := device
      have held := token_verified fresh ((Looked.byIp lookup).seen earlier) holds knows.linked
      exact ⟨older, conn, seen, _, now, pre, post, token, inside, earlier, .byIp lookup, held,
        like (.byIp lookup) rfl, opened⟩
  · cases write with
    | @resign _ _ _ _ seen token user _ decoded device knows =>
      obtain ⟨conn', lookup⟩ := device
      exact ⟨older, conn, seen, _, now, pre, post, token, inside, earlier, .byToken lookup,
        found_holds earlier lookup, like (.byToken lookup) rfl, decoded⟩

/-- What a body that was accepted still brings about when it is sent again by a request that starts
later: nothing at `/refresh`, for the same device or under its key; nothing at `/re-sign` once the
token of the device was replaced; and what `/sign-in` and `/re-sign` leave behind has no access
before an admin confirms it again. -/
structure NoReplay (config : Config) (c c' : ServerState) : Prop where
  updates : ∀ rid req r, req.updates = true → Ended c rid req (.ok r) → ∃ d, Left c.trace rid d
  refresh : ∀ rid rid' ip ip' body r r' d d', Ended c rid (.refresh ip body) (.ok r) →
    Left c.trace rid d → Unstarted c.trace rid' → Ended c' rid' (.refresh ip' body) (.ok r') →
    Left c'.trace rid' d' → d'.uuid ≠ d.uuid ∧ openSharedKey d' config ≠ openSharedKey d config
  resign : ∀ rid rid' ip ip' body r r' d x, Ended c rid (.resign ip body) (.ok r) →
    Left c.trace rid d → Since c.trace rid x → (x.token d.uuid).isSome → Unstarted c.trace rid' →
    ¬Ended c' rid' (.resign ip' body) (.ok r')
  unconfirmed : ∀ rid req r d d', (∃ ip body, req = .signIn ip body) ∨ (∃ ip body, req = .resign ip body) →
    Ended c rid req (.ok r) → Left c.trace rid d → d' ∈ c.world.identities → d'.uuid = d.uuid →
    d'.isConfirmed = true → Since c.trace rid (.confirm d.uuid true)

theorem refresh_gone (injective : HashInjective) (run : Run config tr db) (fresh : Fresh tr)
    {ip token : String} {body : TokenRequest} {conn : Conn} {changes : UpdateIdentity}
    {now : NaiveDateTime} {row seen : Identity} {pre post : Db}
    (inside : .act rid (.refresh ip body) (answered conn (.identityUpdate seen.uuid changes now) row) pre
      post :: older <:+ tr)
    (earlier : Run config older pre) (looked : Looked older rid seen)
    (holds : seen.deviceToken = some (hashToken token)) :
    ∀ d ∈ db.identities, d.deviceToken ≠ some (hashToken token) := by
  obtain ⟨newer, rfl⟩ := inside
  have updated := Run.suffix run
  obtain ⟨-, write⟩ := updated.newest.2.1.write rfl
  obtain ⟨x, deed, fits⟩ := identityUpdate_deed row write
  have replaced : (x.token seen.uuid).isSome := by
    have written : changes.deviceToken.isSome := by
      generalize seen.uuid = device at write
      cases write
      rfl
    rw [fits.token, Option.isSome_map] at written
    exact written
  have fresh' : Fresh older := Fresh.suffix (newer ++ [_]) (by simpa using fresh)
  obtain ⟨y, given, wrote⟩ := token_given injective fresh' (looked.seen earlier) holds
  obtain ⟨later, split⟩ := deeds_append newer (.act rid (.refresh ip body)
    (answered conn (.identityUpdate seen.uuid changes now) row) pre post :: older)
  rw [deeds, deed] at split
  exact token_gone injective run fresh split given wrote replaced

omit [Archive] in
theorem presents_unique {d d' : Identity} {token token' ip ip' : String} {body : TokenRequest}
    (key : openSharedKey d' config = openSharedKey d config)
    (one : Presents config d token (.refresh ip body))
    (two : Presents config d' token' (.refresh ip' body)) : token' = token := by
  obtain ⟨blob, k, decoded, derived, opened⟩ := one
  obtain ⟨blob', k', decoded', derived', opened'⟩ := two
  obtain rfl := Option.some.inj (decoded.symm.trans decoded')
  obtain rfl := Except.ok.inj ((derived.symm.trans key.symm).trans derived')
  exact asBytes_injective (Except.ok.inj (opened'.symm.trans opened))

theorem looked_after (later : (server config).Steps c c')
    {rid : Nat} (unstarted : Unstarted c.trace rid) {older : Journal} {db : Db}
    (inside : older <:+ c'.trace) (run : Run config older db) (started : ∃ req, .start rid req ∈ older)
    {d : Identity} (looked : Looked older rid d) :
    ∃ middle before, middle ++ c.trace <:+ c'.trace ∧ Run config (middle ++ c.trace) before ∧
      d ∈ before.identities := by
  have suffix : c.trace <:+ older := by
    rcases List.suffix_or_suffix_of_suffix later.trace_suffix inside with short | long
    · exact short
    · obtain ⟨req, here⟩ := started
      exact absurd rfl (unstarted _ (long.subset here))
  obtain ⟨middle, before, inside', run', member⟩ := looked.later run suffix unstarted
  exact ⟨middle, before, inside'.trans inside, run', member⟩

theorem write_place (run : Run config tr db) {req req' : Request} {e e' : Exchange Action.Answer}
    {pre post pre' post' : Db} {older' : Journal} (one : .act rid req e pre post :: older <:+ tr)
    (two : .act rid req' e' pre' post' :: older' <:+ tr) (first : wrote e = true)
    (second : wrote e' = true) : older = older' := by
  have apart : ∀ {req req' : Request} {e e' : Exchange Action.Answer} {pre post pre' post' : Db}
      {older older' : Journal}, .act rid req' e' pre' post' :: older' <:+ tr →
      wrote e = true → wrote e' = true → ¬.act rid req e pre post :: older <:+ older' := by
    rintro req req' e e' pre post pre' post' older older' ⟨newer, split⟩ first second inside
    obtain ⟨quiet, -⟩ := (Run.suffix (split ▸ run)).newest.2.1.write (wrote_isWrite second)
    have earlier : e ∈ own rid older' :=
      mem_own.mpr ⟨req, pre, post, inside.subset List.mem_cons_self⟩
    cases (quiet e earlier).symm.trans (wrote_isWrite first)
  rcases List.suffix_or_suffix_of_suffix one two with inside | inside
  · rcases List.suffix_cons_iff.mp inside with same | inside
    · exact (List.cons.inj same).2
    · exact absurd inside (apart two first second)
  · rcases List.suffix_cons_iff.mp inside with same | inside
    · exact (List.cons.inj same).2.symm
    · exact absurd inside (apart one second first)

/-- A device that was linked or moved is confirmed only if an admin has confirmed it since. -/
theorem confirmed_since (reached : (server config).Reachable c) (fresh : Fresh c.trace)
    {req : Request} {r : Result} {d d' : Identity}
    (resets : (∃ ip body, req = .signIn ip body) ∨ ∃ ip body, req = .resign ip body)
    (ended : Ended c rid req r) (left : Left c.trace rid d) (member : d' ∈ c.world.identities)
    (same : d'.uuid = d.uuid) (confirmed : d'.isConfirmed = true) :
    Since c.trace rid (.confirm d.uuid true) := by
  obtain ⟨newer, older, conn, uuid, changes, now, pre, post, old, split, earlier, present, target, rfl,
    write⟩ := left_write reached ended left
  obtain ⟨x, deed, fits⟩ := identityUpdate_deed (changes.apply now old) write
  have reset : x.confirmed uuid = some false := by
    rw [← fits.confirmed]
    rcases resets with ⟨ip, body, rfl⟩ | ⟨ip, body, rfl⟩
    · cases write; rfl
    · cases write; rfl
  obtain ⟨later, log⟩ := deeds_append newer (.act rid req
    (answered conn (.identityUpdate uuid changes now) (changes.apply now old)) pre post :: older)
  have device : d'.uuid = uuid := same.trans target
  have marked := run_marked (reachable_run reached) fresh d' member
  have last : lastConfirmed (deeds c.trace) uuid = some true := by
    have given := marked.confirmed.symm.trans confirmed
    rw [device] at given
    cases decided : lastConfirmed (deeds c.trace) uuid with
    | none => simp [decided] at given
    | some b => simpa [decided] using given
  refine .intro split rfl (by rw [split, log]) ?_
  rw [split, log, deeds, deed] at last
  have confirm := confirmed_after last reset
  rwa [← target] at confirm

/-- A body has no second effect but what the state since the first one allows. -/
theorem no_replay (injective : HashInjective) (reached : (server config).Reachable c)
    (later : (server config).Steps c c') (fresh : Fresh c'.trace) : NoReplay config c c' := by
  have reached' : (server config).Reachable c' := Machine.Steps.trans reached later
  have run' := reachable_run reached'
  have fresh_of : ∀ {tr : Journal}, tr <:+ c'.trace → Fresh tr := by
    rintro tr ⟨newer, split⟩
    exact Fresh.suffix newer (split ▸ fresh)
  constructor
  · exact fun rid req r updates ended => accepted_left reached updates ended
  · intro rid rid' ip ip' body r r' d d' ended left unstarted ended' left'
    obtain ⟨older, conn, seen, changes, now, pre, post, token, inside, earlier, looked, holds, same,
      presents⟩ := accepted_held reached (fresh_of later.trace_suffix) ended left ⟨ip, body, .inl rfl⟩
    obtain ⟨older', conn', seen', changes', now', pre', post', token', inside', earlier', looked',
      holds', same', presents'⟩ := accepted_held reached' fresh ended' left' ⟨ip', body, .inl rfl⟩
    obtain ⟨newer', split'⟩ := inside'
    have begun := Run.begun (Run.suffix (split' ▸ run'))
    have older_inside : older' <:+ c'.trace := (List.suffix_cons _ _).trans ⟨newer', split'⟩
    obtain ⟨middle, before, within, run, member⟩ :=
      looked_after later unstarted older_inside earlier' ⟨_, begun⟩ looked'
    have gone := refresh_gone injective run (fresh_of within) (inside.trans (List.suffix_append _ _))
      earlier looked holds seen' member
    have key : openSharedKey d' config ≠ openSharedKey d config := by
      intro key
      rw [openSharedKey_same same, openSharedKey_same same'] at key
      obtain rfl := presents_unique key presents presents'
      exact gone holds'
    refine ⟨fun uuid => key ?_, key⟩
    have seen_here : Seen config c'.trace seen := by
      obtain ⟨newer, oldest, then_, rfl, start, present⟩ := looked.seen earlier
      obtain ⟨newest, split⟩ := ((List.suffix_cons _ _).trans inside).trans later.trace_suffix
      exact ⟨newest ++ newer, oldest, then_, by rw [← split, List.append_assoc], start, present⟩
    have seen_here' : Seen config c'.trace seen' := by
      obtain ⟨newest, split⟩ := within
      exact ⟨newest, _, before, split.symm, run, member⟩
    have like := seen_same fresh seen_here' seen_here
      ((same'.uuid.symm.trans uuid).trans same.uuid)
    rw [openSharedKey_same same, openSharedKey_same same', openSharedKey_same like]
  · intro rid rid' ip ip' body r r' d x ended left since replaced unstarted ended'
    obtain ⟨older, conn, seen, changes, now, pre, post, token, inside, earlier, looked, holds, same,
      presents⟩ := accepted_held reached (fresh_of later.trace_suffix) ended left ⟨ip, body, .inr rfl⟩
    obtain ⟨d', left'⟩ := accepted_left reached' rfl ended'
    obtain ⟨older', conn', seen', changes', now', pre', post', token', inside', earlier', looked',
      holds', same', presents'⟩ := accepted_held reached' fresh ended' left' ⟨ip', body, .inr rfl⟩
    obtain rfl : token' = token :=
      asBytes_injective (Option.some.inj (presents'.symm.trans presents))
    obtain ⟨newer', split'⟩ := inside'
    have begun := Run.begun (Run.suffix (split' ▸ run'))
    have older_inside : older' <:+ c'.trace := (List.suffix_cons _ _).trans ⟨newer', split'⟩
    obtain ⟨middle, before, within, run, member⟩ :=
      looked_after later unstarted older_inside earlier' ⟨_, begun⟩ looked'
    -- The token of the body was given before the write, and `x` came after it.
    obtain ⟨y, given, wrote⟩ := token_given injective
      (fresh_of (((List.suffix_cons _ _).trans inside).trans later.trace_suffix))
      (looked.seen earlier) holds
    obtain ⟨split, changed, log, among⟩ := since
    obtain rfl := write_place (reachable_run reached) inside ⟨_, split.symm⟩ rfl changed
    obtain ⟨front, back, rfl⟩ := List.append_of_mem among
    obtain ⟨newest, log'⟩ := deeds_append middle c.trace
    rw [log, List.append_assoc, List.cons_append, ← List.append_assoc] at log'
    rw [same.uuid] at replaced
    refine token_gone injective run (fresh_of within) log' ?_ wrote replaced seen' member holds'
    exact List.mem_append_right _ (List.mem_append_right _ given)
  · intro rid req r d d' resets ended left member same confirmed
    exact confirmed_since reached (fresh_of later.trace_suffix) resets ended left member same confirmed

/-! ## Bodies that are accepted twice -/

def secondIp : String := "192.168.0.8"

def thirdIp : String := "192.168.0.9"

def signInBody : SignRequest := ⟨hidden (asBytes "alice"), hidden (asBytes "secret")⟩

def moveBody : TokenRequest :=
  ⟨Hex.encode (asBytes (numbered 2064).toString), hidden (asBytes "secret")⟩

/-- A device signs in and moves. -/
def capturedRun : ServerState :=
  letI := plainCrypto
  letI := plainArchive
  (server plainConfig).play (alone 0 8 greetRequest ++ alone 1 6 signUpRequest ++
    alone 2 8 (.signIn deviceIp signInBody) ++ alone 3 8 (.resign secondIp moveBody))
    { world := Db.empty }

/-- Somebody moves the device again, and signs it in from there. -/
def replayedRun : ServerState :=
  letI := plainCrypto
  letI := plainArchive
  (server plainConfig).play (alone 4 8 (.resign thirdIp moveBody) ++
    alone 5 8 (.signIn thirdIp signInBody)) capturedRun

def accepts : Result → Bool
  | .ok _ => true
  | .error _ => false

structure Captured (tr tr' : Journal) : Prop where
  fresh : Fresh tr'
  unstarted : ∀ e ∈ tr, e.rid < 4
  signedIn : tr.any (replies 2 (.signIn deviceIp signInBody) accepts)
  moved : tr.any (replies 3 (.resign secondIp moveBody) accepts)
  movedAgain : tr'.any (replies 4 (.resign thirdIp moveBody) accepts)
  signedInAgain : tr'.any (replies 5 (.signIn thirdIp signInBody) accepts)

instance (tr tr' : Journal) : Decidable (Captured tr tr') :=
  decidable_of_iff (_ ∧ _ ∧ _ ∧ _ ∧ _ ∧ _)
    ⟨fun ⟨a, b, c, d, e, f⟩ => ⟨a, b, c, d, e, f⟩, fun ⟨a, b, c, d, e, f⟩ => ⟨a, b, c, d, e, f⟩⟩

omit [Crypto] [Archive] in
theorem captured_checked : Captured capturedRun.trace replayedRun.trace := by
  decide +kernel

omit [Crypto] [Archive] in
theorem captured_reachable :
    letI := plainCrypto
    letI := plainArchive
    (server plainConfig).Reachable capturedRun ∧ (server plainConfig).Steps capturedRun replayedRun :=
  letI := plainCrypto
  letI := plainArchive
  ⟨Machine.play_reachable _ _, Machine.play_steps _ _⟩

omit [Crypto] [Archive] in
theorem repeats_of_replies {c c' : ServerState} {rid rid' : Nat} {req req' : Request}
    (one : c.trace.any (replies rid req accepts)) (two : c'.trace.any (replies rid' req' accepts))
    (unstarted : Unstarted c.trace rid') : Repeats c c' req req' := by
  obtain ⟨r, ended, ok⟩ := ended_of_replies one
  obtain ⟨r', ended', ok'⟩ := ended_of_replies two
  cases r with
  | error f => cases ok
  | ok reply =>
    cases r' with
    | error f => cases ok'
    | ok reply' => exact ⟨rid, rid', reply, reply', ended, unstarted, ended'⟩

omit [Crypto] [Archive] in
/-- Both the body of a sign-in and that of a re-sign are accepted again, from another address. -/
theorem bodies_replayed :
    letI := plainCrypto
    letI := plainArchive
    ∃ c c', (server plainConfig).Reachable c ∧ (server plainConfig).Steps c c' ∧ Fresh c'.trace ∧
      Repeats c c' (.signIn deviceIp signInBody) (.signIn thirdIp signInBody) ∧
      Repeats c c' (.resign secondIp moveBody) (.resign thirdIp moveBody) ∧ ¬NeverReplayed c c' := by
  let _ := plainCrypto
  let _ := plainArchive
  have checked := captured_checked
  have unstarted : ∀ rid, 4 ≤ rid → Unstarted capturedRun.trace rid := by
    intro rid late e member
    have early := checked.unstarted e member
    omega
  have moved := repeats_of_replies checked.moved checked.movedAgain (unstarted 4 (by omega))
  have signedIn := repeats_of_replies checked.signedIn checked.signedInAgain (unstarted 5 (by omega))
  obtain ⟨reached, later⟩ := captured_reachable
  exact ⟨capturedRun, replayedRun, reached, later, checked.fresh, signedIn, moved,
    fun never => never _ _ .resign moved⟩

omit [Crypto] [Archive] in
theorem no_replay_captured :
    letI := plainCrypto
    letI := plainArchive
    NoReplay plainConfig capturedRun replayedRun := by
  let _ := plainCrypto
  let _ := plainArchive
  obtain ⟨reached, later⟩ := captured_reachable
  exact no_replay plain_hash reached later captured_checked.fresh

end PasswordManager
