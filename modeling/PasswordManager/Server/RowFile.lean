import PasswordManager.Codec.Record
import PasswordManager.Server.Plain
import PasswordManager.Server.Startup

/-!
# A database file of rows

A stand-in for SQLite whose files hold their rows, and the life of a server on such a file.
-/

namespace PasswordManager
open Interaction

namespace Codec

def times : Codec (NaiveDateTime × NaiveDateTime) := int.pair int

def user : Codec User :=
  (((string.pair string).pair (string.pair bool)).pair (string.pair times)).via
    (fun u => (((u.uuid, u.name), u.ehloSecret, u.isDeleted), u.extra, u.createdAt, u.updatedAt))
    (fun p => some {
      uuid := p.1.1.1
      name := p.1.1.2
      ehloSecret := p.1.2.1
      isDeleted := p.1.2.2
      extra := p.2.1
      createdAt := p.2.2.1
      updatedAt := p.2.2.2 })
    fun _ => rfl

def identity : Codec Identity :=
  ((((string.pair string.option).pair (string.pair string.option)).pair
      ((bytes.pair bytes).pair (bytes.pair string))).pair (bool.pair times)).via
    (fun d => ((((d.uuid, d.userId), d.ipAddress, d.deviceToken),
        (d.serverPrivateKey, d.serverPublicKey), d.clientPublicKey, d.extra),
      d.isConfirmed, d.createdAt, d.updatedAt))
    (fun p => some {
      uuid := p.1.1.1.1
      userId := p.1.1.1.2
      ipAddress := p.1.1.2.1
      deviceToken := p.1.1.2.2
      serverPrivateKey := p.1.2.1.1
      serverPublicKey := p.1.2.1.2
      clientPublicKey := p.1.2.2.1
      extra := p.1.2.2.2
      isConfirmed := p.2.1
      createdAt := p.2.2.1
      updatedAt := p.2.2.2 })
    fun _ => rfl

def group : Codec Group :=
  (((string.pair string).pair (string.pair string)).pair times).via
    (fun g => (((g.uuid, g.userId), g.name, g.extra), g.createdAt, g.updatedAt))
    (fun p => some {
      uuid := p.1.1.1
      userId := p.1.1.2
      name := p.1.2.1
      extra := p.1.2.2
      createdAt := p.2.1
      updatedAt := p.2.2 })
    fun _ => rfl

def password : Codec Password :=
  ((((string.pair string).pair (string.pair string)).pair (string.pair int)).pair
      (times.pair int)).via
    (fun p => ((((p.uuid, p.groupId), p.pwd, p.name), p.extra, p.validSinceDays),
      (p.createdAt, p.updatedAt), p.validSince))
    (fun p => some {
      uuid := p.1.1.1.1
      groupId := p.1.1.1.2
      pwd := p.1.1.2.1
      name := p.1.1.2.2
      extra := p.1.2.1
      validSinceDays := p.1.2.2
      createdAt := p.2.1.1
      updatedAt := p.2.1.2
      validSince := p.2.2 })
    fun _ => rfl

def db : Codec Db :=
  ((user.list.pair identity.list).pair (group.list.pair password.list)).via
    (fun d => ((d.users, d.identities), d.groups, d.passwords))
    (fun p =>
      let tables : Tables := {
        users := p.1.1
        identities := p.1.2
        groups := p.2.1
        passwords := p.2.2 }
      if valid : tables.Valid then some ⟨tables, valid⟩ else none)
    fun d => dif_pos d.valid

end Codec

/-- Files that begin with the number of their applied migrations and go on with their rows. -/
abbrev rowEngine : Engine where
  load content := if content.head? = some 2 then (Codec.db.read content.tail).map Prod.fst else none
  store _ db := 2 :: Codec.db.write db
  migrate content := if content.head? = some 2 then content else 2 :: Codec.db.write Db.empty

theorem load_written (db : Db) : rowEngine.load (2 :: Codec.db.write db) = some db := by
  have read := Codec.db.read_write db []
  rw [List.append_nil] at read
  show (Codec.db.read (Codec.db.write db)).map Prod.fst = some db
  rw [read]
  rfl

theorem row_stores : @StoresRows rowEngine := fun _ db _ => load_written db

theorem row_settled :
    letI := rowEngine
    NonePending := by
  intro content db loaded
  have current : content.head? = some 2 := by
    by_contra other
    have none : rowEngine.load content = none := if_neg other
    cases none.symm.trans loaded
  exact if_pos current

theorem row_creates : @CreatesTables rowEngine := load_written Db.empty

/-! ## A life -/

theorem Machine.Steps.lives [Crypto] [Archive] [Engine] {config : Config} {a b c : BackendState}
    (life : Lives config a b) (steps : (backend config).Steps b c) : Lives config a c := by
  induction steps with
  | refl => exact life
  | tail _ step ih => exact ih.step step

/-- A disk without any file. -/
def emptyDisk : Storage where
  directory _ := none
  content _ := []
  next := 1
  pool := ⟨0⟩
  named_exists := nofun
  pool_exists := Nat.zero_lt_one

/-- What a start of the process answers, and the files after it. -/
def starting (s : Storage) : Except Failure Unit × Storage :=
  letI := plainArchive
  letI := rowEngine
  s.run {} (startUp plainConfig)

theorem starting_ok {s : Storage} (ok : (starting s).1.toOption.isSome) :
    letI := plainArchive
    letI := rowEngine
    s.run {} (startUp plainConfig) = (.ok (), (starting s).2) := by
  obtain ⟨v, same⟩ := Option.isSome_iff_exists.mp ok
  exact Prod.ext (toOption_ok same) rfl

/-- The same move of a server over files. -/
def onFiles : Move Request Choice → Move Demand Turn
  | .start rid req => .start rid (.request req)
  | .step rid choice => .step rid { calm with choice := choice }
  | .background choice => .background { calm with choice := choice }

/-- A process that starts, with the trace of those before it, and makes the moves. -/
def process (s : Storage) (tr : BackendTrace) (moves : List (Move Request Choice)) : BackendState :=
  letI := plainCrypto
  letI := plainArchive
  letI := rowEngine
  (backend plainConfig).play (moves.map onFiles) { world := { storage := (starting s).2 }, trace := tr }

theorem process_lives {s : Storage} {tr : BackendTrace} {moves : List (Move Request Choice)}
    {c : BackendState} :
    letI := plainCrypto
    letI := plainArchive
    letI := rowEngine
    Lives plainConfig c { world := { storage := (starting s).2 }, trace := tr } →
      Lives plainConfig c (process s tr moves) :=
  letI := plainCrypto
  letI := plainArchive
  letI := rowEngine
  fun life => Machine.Steps.lives life (Machine.play_steps _ _)

/-- The device has enrolled and is signing up when the process stops. -/
def stoppedProcess : BackendState :=
  process emptyDisk [] (alone 0 8 greetRequest ++
    .start 1 signUpRequest :: (List.range 3).map fun k => .step 1 (turn 1 k))

/-- It signs up with the next process. -/
def nextProcess : BackendState :=
  process stoppedProcess.world.storage stoppedProcess.trace (alone 2 6 signUpRequest)

def granted (rid : Nat) : Event Action.Answer Demand Result Backend → Bool
  | .reply r _ (.ok _) => r == rid
  | _ => false

def startsRequest : Event Action.Answer Demand Result Backend → Bool
  | .start _ (.import _ _ _) => false
  | _ => true

theorem files_hold_rows_restarted :
    letI := plainCrypto
    letI := plainArchive
    letI := rowEngine
    stoppedProcess.trace.any (granted 0) ∧ nextProcess.trace.any (granted 2) ∧
      ∃ f c' d', (server plainConfig).CrashReachable c' ∧
        (overRows plainConfig row_stores f).Mirrors stoppedProcess c' ∧
        (server plainConfig).CrashSteps c' d' ∧
        (overRows plainConfig row_stores f).Mirrors nextProcess d' := by
  let _ := plainCrypto
  let _ := plainArchive
  let _ := rowEngine
  have checked : stoppedProcess.trace.any (granted 0) ∧ nextProcess.trace.any (granted 2) ∧
      nextProcess.trace.all startsRequest ∧ (starting emptyDisk).1.toOption.isSome ∧
      (starting stoppedProcess.world.storage).1.toOption.isSome := by
    decide +kernel
  obtain ⟨enrolled, signedUp, requests, ok, ok'⟩ := checked
  have first : FirstStart plainConfig (starting emptyDisk).2 := ⟨emptyDisk, {}, rfl, starting_ok ok⟩
  have life : Lives plainConfig { world := { storage := (starting emptyDisk).2 } } stoppedProcess :=
    process_lives .refl
  have later : Lives plainConfig stoppedProcess nextProcess :=
    process_lives (.restart .refl (starting_ok ok'))
  refine ⟨enrolled, signedUp, files_hold_rows row_stores row_settled row_creates first life later ?_⟩
  intro rid demand started
  have only := List.all_eq_true.mp requests _ started
  cases demand with
  | request req => exact ⟨req, rfl⟩
  | «import» headers addr body => cases only

end PasswordManager
