import PasswordManager.Server.Alone
import PasswordManager.Server.Crowd
import PasswordManager.Security.AtRest
import PasswordManager.Store.Accept

/-!
# Competing for an address

At most one device has an address. `/greet` and `/re-sign` write the column, each with its own
answer for the device that comes too late.
-/

namespace PasswordManager
open Interaction

/-- The address that a statement asks for, with the device that shall have it if there is one. -/
def Query.asksFor : Query → Option (String × Option String)
  | .identityFindByIp ip => some (ip, none)
  | .identityCreate new => some (new.ipAddress, none)
  | .identityUpdate uuid changes _ => changes.ipAddress.map fun ip => (ip, some uuid)
  | _ => none

/-- A statement of the request that asks for an address was carried out while another device had
the address. -/
inductive Late (tr : Journal) (rid : Nat) (req : Request) : Prop where
  | intro {conn q a pre post moment ip target d}
      (event : .act rid req ⟨.effect (.sql conn q), a⟩ pre post ∈ tr)
      (carried : pre.exec moment q = (a, post)) (asks : q.asksFor = some (ip, target))
      (present : ∀ uuid ∈ target, uuid ∈ pre.identities.map (·.uuid))
      (holder : d ∈ pre.identities) (address : d.ipAddress = ip) (other : target ≠ some d.uuid)

/-! ## What the two handlers answer -/

/-- The answer to a statement that asks for an address and does not get it. -/
def losing : Exchange Action.Answer → Bool
  | ⟨.effect (.sql _ (.identityFindByIp _)), (.ok (some _) : Except DbError (Option Identity))⟩ => true
  | ⟨.effect (.sql _ (.identityCreate _)),
      (.error (.databaseError .uniqueViolation _) : Except DbError Identity)⟩ => true
  | ⟨.effect (.sql _ (.identityUpdate _ _ _)), (.error _ : Except DbError Identity)⟩ => true
  | _ => false

def tooLate : Failure := ⟨.preconditionFailed "precondition failed", .request⟩

/-- A greet that has lost is answered so, and has written nothing. A re-sign that has lost is
answered with the database's error, and one that succeeds has updated a device. -/
def Yields : Request → History Action.Answer → Result → Prop
  | .greet _ _, h, r => h.any losing = true → r = .error tooLate ∧ h.all (fun e => !wrote e) = true
  | .resign _ _, h, .error f => h.any losing = true → ∃ e, f = ⟨.database e, .backend⟩
  | .resign _ _, h, .ok _ => h.any losing = false ∧ ∃ conn uuid changes now row,
    answered conn (.identityUpdate uuid changes now) row ∈ h
  | _, _, _ => True

section
variable [Crypto] {config : Config}

theorem greet_yields {ip : String} {body : GreetRequest} :
    Fallible.Spec (fun _ _ => True) (fun h f => Yields (.greet ip body) h (.error f))
      (fun h key => Yields (.greet ip body) h (.ok (.greet key))) []
      (greetHandler config ip body) := by
  unfold greetHandler Identity.findByIp Identity.create
  refine Fallible.spec_bind.mpr (spec_stateConn.mpr ⟨trivial, fun pool => ⟨trivial, fun conn => ?_, fun _ => nofun⟩⟩)
  refine Fallible.spec_bind.mpr (spec_okOr.mpr ⟨fun key decoded => ?_, fun _ => nofun⟩)
  refine Fallible.spec_bind.mpr (spec_refuseIf.mpr ⟨fun size => ?_, fun _ => nofun⟩)
  refine spec_statement (fun e => nofun) fun found => ?_
  refine Fallible.spec_bind.mpr (spec_refuseIf.mpr ⟨fun unknown => ?_, fun known lost => ⟨rfl, rfl⟩⟩)
  obtain rfl : found = none := by simpa using unknown
  refine Fallible.spec_bind.mpr (spec_generateIdentityKeys.mpr ⟨trivial, fun random => ?_⟩)
  refine Fallible.spec_bind.mpr (spec_newUuid.mpr ⟨trivial, fun uuid => ?_⟩)
  refine Fallible.spec_bind.mpr (spec_encrypt.mpr ⟨trivial, fun nonce => ⟨fun blob sealed => ?_, fun _ _ => nofun⟩⟩)
  refine spec_inspected (fun e => ?_) fun row => nofun
  cases e with
  | notFound => nofun
  | databaseError kind message =>
    cases kind with
    | uniqueViolation => exact fun lost => ⟨rfl, rfl⟩
    | foreignKeyViolation => nofun
    | unknown => nofun

/-- A re-sign request stops before its UPDATE, or the UPDATE fails, or it is done. -/
theorem resign_steps {bad : History Action.Answer → Failure → Prop}
    {good : History Action.Answer → Unit → Prop} {ip : String} {body : TokenRequest}
    (stopped : ∀ h f, h.any losing = false → bad h f)
    (failed : ∀ h e, bad h ⟨.database e, .backend⟩)
    (done : ∀ h conn uuid changes now row, h.any losing = false →
      good (answered conn (.identityUpdate uuid changes now) row :: h) ()) :
    Fallible.Spec (fun _ _ => True) bad good [] (resignHandler config ip body) := by
  unfold resignHandler Identity.findByDeviceToken User.findByUuid
  refine Fallible.spec_bind.mpr (spec_stateConn.mpr ⟨trivial, fun pool =>
    ⟨trivial, fun conn => ?_, fun _ => stopped _ _ rfl⟩⟩)
  refine Fallible.spec_bind.mpr (spec_okOr.mpr ⟨fun bytes decoded => ?_, fun _ => stopped _ _ rfl⟩)
  refine Fallible.spec_bind.mpr (spec_okOr.mpr ⟨fun token utf8 => ?_, fun _ => stopped _ _ rfl⟩)
  refine spec_statement (fun e => failed _ e) fun found => ?_
  refine Fallible.spec_bind.mpr (spec_okOr.mpr ⟨fun identity present => ?_, fun _ => stopped _ _ rfl⟩)
  refine Fallible.spec_bind.mpr (spec_attempt.mpr ⟨fun key derived => ?_, fun _ _ => stopped _ _ rfl⟩)
  refine Fallible.spec_bind.mpr (spec_okOr.mpr ⟨fun ehloBytes ehloHex => ?_, fun _ => stopped _ _ rfl⟩)
  refine Fallible.spec_bind.mpr (spec_attempt.mpr ⟨fun ehlo opened => ?_, fun _ _ => stopped _ _ rfl⟩)
  refine Fallible.spec_bind.mpr (spec_okOr.mpr ⟨fun userId linked => ?_, fun _ => stopped _ _ rfl⟩)
  refine spec_statement (fun e => failed _ e) fun found => ?_
  refine Fallible.spec_bind.mpr (spec_okOr.mpr ⟨fun user present => ?_, fun _ => stopped _ _ rfl⟩)
  refine Fallible.spec_bind.mpr (spec_refuseIf.mpr ⟨fun active => ?_, fun _ => stopped _ _ rfl⟩)
  refine Fallible.spec_bind.mpr (spec_attempt.mpr ⟨fun stored opened => ?_, fun _ _ => stopped _ _ rfl⟩)
  refine Fallible.spec_bind.mpr (spec_refuseIf.mpr ⟨fun known => ?_, fun _ => stopped _ _ rfl⟩)
  exact Fallible.spec_bind.mpr (spec_identityUpdate.mpr ⟨trivial, fun now =>
    ⟨trivial, fun row => done _ conn identity.uuid _ now row rfl, fun e => failed _ e⟩⟩)

theorem resign_yields {ip : String} {body : TokenRequest} :
    Fallible.Spec (fun _ _ => True) (fun h f => Yields (.resign ip body) h (.error f))
      (fun h _ => Yields (.resign ip body) h (.ok .null)) []
      (resignHandler config ip body) := by
  refine resign_steps (fun h f none lost => ?_) (fun h e lost => ⟨e, rfl⟩) ?_
  · cases none.symm.trans lost
  · intro h conn uuid changes now row none
    exact ⟨none, conn, uuid, changes, now, row, List.mem_cons_self⟩

variable [Archive] {tr : Journal} {db : Db} {c : ServerState} {rid : Nat} {req : Request}

theorem serve_yields (req : Request) :
    Prog.Spec (fun _ _ => True) (Yields req) [] (serve config req).run := by
  suffices spec : Fallible.Spec (fun _ _ => True) (fun h f => Yields req h (.error f))
      (fun h reply => Yields req h (.ok reply)) [] (serve config req) from
    Prog.spec_mono (fun _ _ allowed => allowed) (fun h r met => by cases r <;> exact met) spec
  cases req with
  | greet ip body => exact Fallible.spec_map.mpr greet_yields
  | resign ip body => exact Fallible.spec_map.mpr resign_yields
  | _ =>
    refine Prog.spec_mono (fun _ _ allowed => allowed) (fun _ r _ => ?_) (Prog.spec_trivial _)
    cases r <;> trivial

theorem ended_yields (reached : (server config).Reachable c) {r : Result}
    (ended : Ended c rid req r) : Yields req (own rid c.trace) r :=
  ended_meets (fun _ _ _ => True) serve_yields reached ended

omit [Crypto] [Archive] in
/-- A request that is too late has been told so. -/
theorem Late.told (late : Late tr rid req) :
    ∃ e pre post, .act rid req e pre post ∈ tr ∧ losing e = true := by
  obtain ⟨event, carried, asks, present, holder, address, other⟩ := late
  rename_i conn q a pre post moment ip target d
  refine ⟨_, _, _, event, ?_⟩
  cases q with
  | identityFindByIp ip' =>
    obtain ⟨rfl, rfl⟩ := Prod.mk.inj (Option.some.inj asks)
    obtain ⟨rfl, -⟩ := Prod.mk.inj carried
    have found := (Table.find_eq_some_iff pre.valid.identityIp).mpr ⟨holder, address⟩
    simp only [found]
    rfl
  | identityCreate new =>
    obtain ⟨rfl, rfl⟩ := Prod.mk.inj (Option.some.inj asks)
    obtain ⟨message, refused⟩ := exec_newDevice_late moment holder address
    obtain ⟨rfl, -⟩ := Prod.mk.inj (carried.symm.trans refused)
    rfl
  | identityUpdate uuid changes now =>
    obtain ⟨ip', moves, asked⟩ := Option.map_eq_some_iff.mp asks
    obtain ⟨rfl, rfl⟩ := Prod.mk.inj asked
    obtain ⟨old, member, same⟩ := List.mem_map.mp (present uuid rfl)
    have found := (Table.find_eq_some_iff pre.valid.identityUuid).mpr ⟨member, same⟩
    obtain ⟨message, refused⟩ := exec_changeDevice_late moment now found moves holder
      address fun same => other (congrArg some same.symm)
    obtain ⟨rfl, -⟩ := Prod.mk.inj (carried.symm.trans refused)
    rfl
  | _ => cases asks

omit [Crypto] [Archive] in
theorem Late.losing (late : Late tr rid req) : (own rid tr).any losing = true := by
  obtain ⟨e, pre, post, event, lost⟩ := late.told
  exact List.any_eq_true.mpr ⟨e, mem_own.mpr ⟨_, _, _, event⟩, lost⟩

/-! ## Runs -/

/-- The events of the request have left the tables as they were. -/
def Unchanged (tr : Journal) (rid : Nat) : Prop :=
  ∀ req e pre post, .act rid req e pre post ∈ tr → post = pre

/-- How competing for an address ends: it has one device at most, a greet that is answered has
stored the key that it answers, and a request that is too late is answered with an error of the
client and has changed nothing. -/
structure AddressSettled (c : ServerState) : Prop where
  unique : ∀ d ∈ c.world.identities, ∀ d' ∈ c.world.identities, d.ipAddress = d'.ipAddress → d = d'
  greeted : ∀ rid ip body reply, Ended c rid (.greet ip body) (.ok reply) →
    ∃ conn new d pre post, .act rid (.greet ip body) (answered conn (.identityCreate new) d) pre post ∈
      c.trace ∧ d ∈ post.identities ∧ d.ipAddress = ip ∧
        reply = .greet (Hex.encode d.serverPublicKey)
  greetLate : ∀ rid ip body r, Ended c rid (.greet ip body) r → Late c.trace rid (.greet ip body) →
    (respond r).1 = 412 ∧ Unchanged c.trace rid
  resignLate : ∀ rid ip body r, Ended c rid (.resign ip body) r → Late c.trace rid (.resign ip body) →
    (400 ≤ (respond r).1 ∧ (respond r).1 < 500) ∧ Unchanged c.trace rid

theorem unwritten_unchanged (run : Run config tr db) (unwritten : Unwritten (own rid tr)) :
    Unchanged tr rid := by
  intro req e pre post member
  obtain ⟨newer, older, -, earlier⟩ := run.upTo member
  exact happened_unwritten (unwritten e (mem_own.mpr ⟨_, _, _, member⟩)) earlier.newest.2.2.1

/-- A greet that succeeds has stored the row with the key that it returns. -/
theorem greet_stored (reached : (server config).Reachable c) {ip : String} {body : GreetRequest}
    {reply : Reply} (ended : Ended c rid (.greet ip body) (.ok reply)) :
    ∃ conn new d pre post, .act rid (.greet ip body) (answered conn (.identityCreate new) d) pre post ∈
      c.trace ∧ d ∈ post.identities ∧ d.ipAddress = ip ∧
        reply = .greet (Hex.encode d.serverPublicKey) := by
  have settled : Outcome config (.greet ip body) (own rid c.trace) reply :=
    ended_settled reached ended
  cases reply with
  | greet key =>
    obtain ⟨conn, new, row, member, rfl⟩ := settled
    obtain ⟨pre, post, newer, older, split, earlier⟩ := ended_performed reached ended member
    have event : .act rid (.greet ip body) (answered conn (.identityCreate new) row) pre post ∈
        c.trace := by
      rw [split]
      exact List.mem_append_right _ List.mem_cons_self
    have change := Run.change earlier
    cases change with
    | none unchanged => cases unchanged
    | @identityCreate _ _ clock _ _ write after =>
      have stored : new.row clock ∈ post.identities := by
        rw [after]
        exact List.mem_append_right _ (List.mem_singleton.mpr rfl)
      cases write with
      | greet => exact ⟨conn, _, _, pre, post, event, stored, rfl, rfl⟩
  | _ => cases settled

/-- A re-sign request that is too late is answered with an error of the server. -/
theorem resign_unsettled (reached : (server config).Reachable c) {ip : String} {body : TokenRequest}
    {r : Result} (ended : Ended c rid (.resign ip body) r) (late : Late c.trace rid (.resign ip body)) :
    ¬AddressSettled c := by
  intro settled
  obtain ⟨⟨-, client⟩, -⟩ := settled.resignLate rid ip body r ended late
  have yields := ended_yields reached ended
  cases r with
  | ok reply => cases yields.1.symm.trans late.losing
  | error f =>
    obtain ⟨e, rfl⟩ := yields late.losing
    have server : (500 : Nat) < 500 := client
    omega

/-- Competing for an address ends as it should in exactly the runs in which no re-sign request
comes too late: a greet request is told that the address is taken, a re-sign request is answered
with the error of the database. -/
theorem address_settled_iff (reached : (server config).Reachable c) :
    AddressSettled c ↔ ∀ rid ip body r, Ended c rid (.resign ip body) r →
      ¬Late c.trace rid (.resign ip body) := by
  constructor
  · exact fun settled rid ip body r ended late => resign_unsettled reached ended late settled
  · intro inTime
    have run := reachable_run reached
    refine ⟨fun d member d' member' => Table.key_unique c.world.valid.identityIp member member',
      fun rid ip body reply => greet_stored reached, ?_, ?_⟩
    · intro rid ip body r ended late
      obtain ⟨rfl, unwritten⟩ := ended_yields reached ended late.losing
      refine ⟨rfl, unwritten_unchanged run fun e member => ?_⟩
      simpa using List.all_eq_true.mp unwritten e member
    · intro rid ip body r ended late
      exact absurd late (inTime rid ip body r ended)

end

/-! ## A device that moves to a taken address -/

def otherIp : String := "192.168.0.8"

def otherGreetRequest : Request := .greet otherIp ⟨Hex.encode zeroKey.val⟩

def moveRequest : Request :=
  .resign otherIp ⟨Hex.encode (asBytes (numbered 1068).toString), hidden (asBytes "secret")⟩

/-- A device enrolls, another one greets from another address, and the first moves there. -/
def takenMoves : List (Move Request Choice) :=
  alone 0 8 greetRequest ++ alone 1 6 signUpRequest ++ alone 2 8 otherGreetRequest ++
    alone 3 8 moveRequest

def takenRun : ServerState :=
  letI := plainCrypto
  letI := plainArchive
  (server plainConfig).play takenMoves { world := Db.empty }

/-- The move breaks the constraint, and the address belongs to another device. -/
def movesLate : Event Action.Answer Request Result Db → Bool
  | .act rid req ⟨.effect (.sql _ (.identityUpdate uuid changes _)),
      (.error (.databaseError .uniqueViolation _) : Except DbError Identity)⟩ pre _ =>
    rid == 3 && req == moveRequest && changes.ipAddress == some otherIp &&
      pre.identities.any (fun d => d.uuid == uuid) &&
      pre.identities.any fun d => d.ipAddress == otherIp && d.uuid != uuid
  | _ => false

structure Taken (tr : Journal) : Prop where
  answered : tr.any (replies 3 moveRequest fun
    | .error f => f.error.status == 500
    | _ => false)
  late : tr.any movesLate

instance (tr : Journal) : Decidable (Taken tr) :=
  decidable_of_iff (_ ∧ _) ⟨fun ⟨a, b⟩ => ⟨a, b⟩, fun ⟨a, b⟩ => ⟨a, b⟩⟩

theorem takenRun_checked : Taken takenRun.trace := by
  decide +kernel

/-- SQLite reports a unique violation only of a statement that it carried out. -/
theorem happened_violation [Crypto] {conn : Conn} {q : Query} {message : String} {pre post : Db}
    (happened : Happened (refused conn q (.databaseError .uniqueViolation message)) pre post) :
    ∃ moment, pre.exec moment q = (.error (.databaseError .uniqueViolation message), post) := by
  obtain ⟨choice, happened⟩ := happened
  refine ⟨(choice.chance 0).toMoment, ?_⟩
  simp only [Action.answer, Effect.answer] at happened
  split at happened
  · cases happened
  · exact happened

theorem late_of_moves [Crypto] [Archive] {config : Config} {tr : Journal} {db : Db}
    (run : Run config tr db) (moves : tr.any movesLate) : Late tr 3 moveRequest := by
  obtain ⟨event, member, found⟩ := List.any_eq_true.mp moves
  unfold movesLate at found
  split at found
  · rename_i rid req conn uuid changes now message pre post
    simp only [Bool.and_eq_true, beq_iff_eq, List.any_eq_true, bne_iff_ne] at found
    obtain ⟨⟨⟨⟨rfl, rfl⟩, target⟩, mover, here, same⟩, d, holder, address, other⟩ := found
    obtain ⟨newer, older, -, earlier⟩ := run.upTo member
    obtain ⟨moment, carried⟩ := happened_violation earlier.newest.2.2.1
    have asks : (Query.identityUpdate uuid changes now).asksFor = some (otherIp, some uuid) := by
      simp [Query.asksFor, target]
    refine .intro member carried asks ?_ holder address fun same' => other ?_
    · rintro _ ⟨⟩
      exact List.mem_map.mpr ⟨mover, here, same⟩
    · exact (Option.some.inj same').symm
  · cases found

/-- A re-sign request that comes too late is answered 500. -/
theorem resign_taken :
    letI := plainCrypto
    letI := plainArchive
    ∃ c, (server plainConfig).Reachable c ∧ ¬AddressSettled c := by
  let _ := plainCrypto
  let _ := plainArchive
  have reached : (server plainConfig).Reachable takenRun := Machine.play_reachable takenMoves _
  have late := late_of_moves (reachable_run reached) takenRun_checked.late
  obtain ⟨r, ended, -⟩ := ended_of_replies takenRun_checked.answered
  exact ⟨takenRun, reached, resign_unsettled reached ended late⟩

/-! ## A device that moves to a free address -/

/-- The device moves before the other one greets from its new address. -/
def movedMoves : List (Move Request Choice) :=
  alone 0 8 greetRequest ++ alone 1 6 signUpRequest ++ alone 2 8 moveRequest ++
    alone 3 8 otherGreetRequest

def movedRun : ServerState :=
  letI := plainCrypto
  letI := plainArchive
  (server plainConfig).play movedMoves { world := Db.empty }

def movesInVain : Event Action.Answer Request Result Db → Bool
  | .act _ (.resign _ _) e _ _ => losing e
  | _ => false

structure MovedInTime (tr : Journal) : Prop where
  moved : tr.any (replies 2 moveRequest fun
    | .ok _ => true
    | _ => false)
  taken : tr.any (replies 3 otherGreetRequest fun
    | .error f => f.error.status == 412
    | _ => false)
  inTime : tr.any movesInVain = false

instance (tr : Journal) : Decidable (MovedInTime tr) :=
  decidable_of_iff (_ ∧ _ ∧ _) ⟨fun ⟨a, b, c⟩ => ⟨a, b, c⟩, fun ⟨a, b, c⟩ => ⟨a, b, c⟩⟩

theorem movedRun_checked : MovedInTime movedRun.trace := by
  decide +kernel

/-- The device gets the address, and the one that greets from there is told that it is taken. -/
theorem address_settled_iff_moved :
    letI := plainCrypto
    letI := plainArchive
    MovedInTime movedRun.trace ∧ AddressSettled movedRun := by
  let _ := plainCrypto
  let _ := plainArchive
  have reached : (server plainConfig).Reachable movedRun := Machine.play_reachable movedMoves _
  refine ⟨movedRun_checked, (address_settled_iff reached).mpr fun rid ip body r _ late => ?_⟩
  obtain ⟨e, pre, post, event, lost⟩ := late.told
  have found : movedRun.trace.any movesInVain = true := List.any_eq_true.mpr ⟨_, event, lost⟩
  cases movedRun_checked.inTime.symm.trans found

end PasswordManager
