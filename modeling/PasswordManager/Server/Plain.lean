import PasswordManager.Crypto.Plain
import PasswordManager.Interaction.Schedule
import PasswordManager.Server.Backend
import PasswordManager.Server.Births

/-!
# A server without third parties

Formats that stand in for the archive and the database file, on top of the plain cipher, and the
configuration of a server that uses them. What the server relies on holds of them.
-/

namespace PasswordManager
open Interaction

/-! ## An archive that is not compressed -/

/-- The bytes, each after a one, and a zero at the end. -/
def frame (bytes : Bytes) : Bytes := bytes.flatMap (fun b => [1, b]) ++ [0]

def readFrame : Bytes → Option (Bytes × Bytes)
  | [] => none
  | [mark] => if mark = 0 then some ([], []) else none
  | mark :: b :: rest =>
    if mark = 0 then some ([], b :: rest)
    else (readFrame rest).map fun (bytes, rest) => (b :: bytes, rest)

theorem readFrame_frame (bytes rest : Bytes) : readFrame (frame bytes ++ rest) = some (bytes, rest) := by
  induction bytes with
  | nil => cases rest <;> rfl
  | cons b bytes ih =>
    show (readFrame (frame bytes ++ rest)).map _ = _
    rw [ih]
    rfl

theorem frame_length (bytes : Bytes) : (frame bytes).length = 2 * bytes.length + 1 := by
  induction bytes with
  | nil => rfl
  | cons b bytes ih =>
    show (frame bytes).length + 2 = _
    rw [ih, List.length_cons]
    omega

def frameFile (named : String × Bytes) : Bytes := frame (asBytes named.1) ++ frame named.2

/-- The files of an archive, of which there are at most as many as `limit`. -/
def readFiles : Nat → Bytes → Option (List (String × Bytes))
  | 0, bytes => if bytes = [] then some [] else none
  | limit + 1, bytes =>
    if bytes = [] then some []
    else do
      let (name, rest) ← readFrame bytes
      let (content, rest) ← readFrame rest
      let name ← fromUtf8 name
      let files ← readFiles limit rest
      return (name, content) :: files

theorem frameFile_nonempty (named : String × Bytes) : 0 < (frameFile named).length := by
  rw [frameFile, List.length_append, frame_length]
  omega

theorem readFiles_frames (files : List (String × Bytes)) {limit : Nat} (enough : files.length ≤ limit) :
    readFiles limit (files.flatMap frameFile) = some files := by
  induction files generalizing limit with
  | nil => cases limit <;> rfl
  | cons named files ih =>
    obtain ⟨limit, rfl⟩ : ∃ n, limit = n + 1 := ⟨limit - 1, by simp at enough; omega⟩
    have rest := ih (Nat.le_of_succ_le_succ enough)
    have more : frameFile named ++ files.flatMap frameFile ≠ [] :=
      List.append_ne_nil_of_left_ne_nil (List.ne_nil_of_length_pos (frameFile_nonempty named)) _
    rw [List.flatMap_cons, readFiles, if_neg more, frameFile, List.append_assoc, readFrame_frame]
    simp [readFrame_frame, rest]

theorem flatMap_length {α : Type} {f : α → Bytes} {k : Nat} {l : List α}
    (long : ∀ a ∈ l, k ≤ (f a).length) : l.length * k ≤ (l.flatMap f).length := by
  induction l with
  | nil => simp
  | cons a l ih =>
    have here := long a List.mem_cons_self
    have rest := ih fun b member => long b (List.mem_cons_of_mem _ member)
    rw [List.flatMap_cons, List.length_append, List.length_cons, Nat.succ_mul]
    omega

abbrev plainArchive : Archive where
  pack files := .ok (files.flatMap frameFile)
  unpack bytes := (readFiles bytes.length bytes).elim (.error "corrupt archive") .ok

theorem plain_lossless : @Lossless plainArchive := by
  intro files archive packed
  cases packed
  show (readFiles _ _).elim _ _ = _
  have enough := flatMap_length (l := files) fun named _ => frameFile_nonempty named
  rw [readFiles_frames files (by omega)]
  rfl

/-! ## A database file that lists the rows -/

/-- The texts and byte strings of all rows. -/
def Db.dump (db : Db) : Bytes :=
  db.users.flatMap (fun u => frameFile (u.uuid, asBytes (u.name ++ u.ehloSecret))) ++
    db.identities.flatMap (fun d => frameFile (d.uuid, d.serverPrivateKey ++ d.clientPublicKey)) ++
    db.groups.flatMap (fun g => frameFile (g.uuid, asBytes (g.userId ++ g.name))) ++
    db.passwords.flatMap (fun p => frameFile (p.uuid, asBytes (p.groupId ++ p.pwd)))

abbrev plainSqlite : Sqlite where
  Holds content db := content = db.dump
  migrate content := content

theorem plain_none_pending : @NonePending plainSqlite := fun _ _ _ => rfl

/-- A database without rows, which begins with the number of its applied migrations. -/
abbrev plainEngine : Engine where
  load content := if content.head? = some 2 then some Db.empty else none
  store content _ := content
  migrate content := 2 :: content.tail

theorem plain_stays : @StaysCurrent plainEngine := fun _ _ current => current

/-! ## A configuration -/

def plainConfig : Config where
  databaseEncryptSecret := ⟨List.replicate 32 0, by decide⟩
  softwareSecret := ⟨List.replicate 32 0, by decide⟩
  databaseUrl := "pwd_manager.db"
  dbPoolSize := 8
  adminAllowedSubnet := "127.0.0.1"

/-- The headers and the address of the administrator's requests. -/
def adminHeaders : HeaderMap :=
  [("admin-key", asBytes (Hex.encode plainConfig.softwareSecret.val))]

def localhost : IpAddr := .v4 2130706433

/-- A server whose database file has the given content. -/
def plainStorage (content : Bytes) : Storage where
  directory := Function.update (fun _ => none) plainConfig.databaseUrl (some 0)
  content _ := content
  next := 1
  pool := ⟨0⟩
  named_exists := by
    intro path file named
    rw [Function.update_apply] at named
    split at named
    · cases named
      exact Nat.zero_lt_one
    · cases named
  pool_exists := Nat.zero_lt_one

theorem plain_admin : checkAdmin adminHeaders localhost plainConfig = .ok () := by
  decide +kernel

theorem plain_deployed (rest : Bytes) :
    letI := plainEngine
    Deployed plainConfig (plainStorage (2 :: rest)) :=
  letI := plainEngine
  ⟨rfl, rfl, fun same => nomatch same⟩

/-- The archive of a server with these secrets. -/
def plainArchived (content : Bytes) : Bytes := (exportFiles plainConfig 0 content).flatMap frameFile

/-- The environment lets an operation succeed. -/
def calm : Turn where
  pending x :=
    letI := plainCrypto
    (x.answer {} Db.empty).1

/-! ## One device in use -/

/-- A number in two bytes. -/
def word (n : Nat) : Bytes := [UInt8.ofNat (n / 256), UInt8.ofNat n]

theorem word_injective {m n : Nat} (small : m < 65536) (small' : n < 65536) (same : word m = word n) :
    m = n := by
  have high := congrArg UInt8.toNat (List.cons.inj same).1
  have low := congrArg UInt8.toNat (List.cons.inj (List.cons.inj same).2).1
  simp only [UInt8.toNat_ofNat'] at high low
  omega

/-- The uuid that the random source gives at the `n`-th time. -/
def numbered (n : Nat) : Uuid := ⟨List.replicate 14 0 ++ word n, rfl⟩

theorem numbered_injective {m n : Nat} (few : m < 60000) (few' : n < 60000)
    (same : (numbered m).toString = (numbered n).toString) : m = n := by
  have bytes := congrArg Subtype.val (Uuid.toString_injective same)
  exact word_injective (by omega) (by omega) (List.append_cancel_left bytes)

def zeroKey : BytesN 32 := ⟨List.replicate 32 0, by decide⟩

/-- The key that the device shares with the server. -/
def deviceKey : BytesN 32 := addBytes zeroKey (addBytes (clamp zeroKey) x25519Basepoint)

/-- A field that the device seals. -/
def hidden (plain : Bytes) : String := Hex.encode (List.replicate 12 0 ++ (deviceKey.val ++ plain))

def deviceIp : String := "192.0.2.7"

def greetRequest : Request := .greet deviceIp ⟨Hex.encode (addBytes zeroKey x25519Basepoint).val⟩

def signUpRequest : Request :=
  .signUp deviceIp ⟨hidden (asBytes "alice"), hidden (asBytes "secret")⟩

def refreshRequest : Request :=
  .refresh deviceIp ⟨hidden (asBytes (numbered 1068).toString), hidden (asBytes "secret")⟩

def approveRequest : Request := .adminApprove adminHeaders localhost (numbered 64)

def deviceHeaders : HeaderMap := [("device-token", asBytes (numbered 2064).toString)]

def groupRequest : Request := .groupCreate deviceHeaders deviceIp ⟨"mail", none⟩

def createRequest : Request :=
  .pwdCreate deviceHeaders deviceIp
    ⟨hidden (asBytes "hunter2"), (numbered 4096).toString, none, none, none⟩

def getRequest : Request := .pwdGet deviceHeaders deviceIp (numbered 5128)

/-- The choices of the environment for the `k`-th action of a request. -/
def turn (rid k : Nat) : Choice :=
  { chance := fun i => { uuid := numbered (1000 * rid + 16 * k + i) } }

def alone (rid steps : Nat) (req : Request) : List (Move Request Choice) :=
  Move.alone rid req ((List.range steps).map (turn rid))

/-- The device enrolls, changes its token, is approved, stores a password and fetches it, and sends
a request without its token. -/
def deviceMoves : List (Move Request Choice) :=
  alone 0 8 greetRequest ++ alone 1 6 signUpRequest ++ alone 2 8 refreshRequest ++
    alone 3 6 approveRequest ++ alone 4 9 groupRequest ++ alone 5 14 createRequest ++
    alone 6 11 getRequest ++ alone 7 1 (.verify [] deviceIp)

def deviceRun : ServerState :=
  letI := plainCrypto
  letI := plainArchive
  (server plainConfig).play deviceMoves { world := Db.empty }

theorem deviceRun_reachable :
    letI := plainCrypto
    letI := plainArchive
    (server plainConfig).Reachable deviceRun :=
  Machine.play_reachable deviceMoves _

/-- The event is a reply of the kind to the request. -/
def replies (rid : Nat) (req : Request) (kind : Result → Bool) : Event Action.Answer Request Result Db → Bool
  | .reply r q res => r == rid && q == req && kind res
  | _ => false

theorem ended_of_replies {c : ServerState} {rid : Nat} {req : Request} {kind : Result → Bool}
    (replied : c.trace.any (replies rid req kind)) : ∃ res, Ended c rid req res ∧ kind res := by
  obtain ⟨e, member, found⟩ := List.any_eq_true.mp replied
  unfold replies at found
  split at found
  · simp only [Bool.and_eq_true, beq_iff_eq] at found
    obtain ⟨⟨rfl, rfl⟩, ok⟩ := found
    exact ⟨_, .inl member, ok⟩
  · cases found

/-- An event of a greet request other than the first request. -/
def greetsAgain : Event Action.Answer Request Result Db → Bool
  | .act rid (.greet _ _) _ _ _ => rid != 0
  | _ => false

def updatesPassword : Event Action.Answer Request Result Db → Bool
  | .act _ _ ⟨.effect (.sql _ (.passwordUpdate _ _ _)), _⟩ _ _ => true
  | _ => false

/-- What the examples of the results about runs need to know about this one. -/
structure DeviceRun (tr : Journal) : Prop where
  serial : Trace.serial tr
  fresh : Fresh tr
  greeted : tr.any (replies 0 greetRequest fun
    | .ok (.greet key) => key == Hex.encode (addBytes (clamp zeroKey) x25519Basepoint).val
    | _ => false)
  refreshed : tr.any (replies 2 refreshRequest fun
    | .ok (.token _) => true
    | _ => false)
  created : tr.any (replies 5 createRequest fun
    | .ok (.password entry) => entry.uuid == (numbered 5128).toString
    | _ => false)
  fetched : tr.any (replies 6 getRequest fun
    | .ok (.detail detail) => detail.uuid == (numbered 5128).toString
    | _ => false)
  refused : tr.any (replies 7 (.verify [] deviceIp) fun
    | .error _ => true
    | _ => false)
  greetedOnce : tr.any greetsAgain = false
  unchanged : tr.any updatesPassword = false

instance (tr : Journal) : Decidable (DeviceRun tr) :=
  decidable_of_iff (_ ∧ _ ∧ _ ∧ _ ∧ _ ∧ _ ∧ _ ∧ _ ∧ _)
    ⟨fun ⟨a, b, c, d, e, f, g, h, i⟩ => ⟨a, b, c, d, e, f, g, h, i⟩,
      fun ⟨a, b, c, d, e, f, g, h, i⟩ => ⟨a, b, c, d, e, f, g, h, i⟩⟩

/-- The device and its user at the end of the run. -/
structure InUse (d : Identity) (user : User) : Prop where
  address : d.ipAddress = deviceIp
  token : d.deviceToken = some (Hex.encode (asBytes (numbered 2064).toString))
  confirmed : d.isConfirmed = true
  linked : d.userId = some user.uuid
  name : user.name = "alice"
  active : user.isDeleted = false
  key : letI := plainCrypto; (openSharedKey d plainConfig).toOption = some deviceKey
  ehlo : letI := plainCrypto; (openEhlo user plainConfig).toOption = some (asBytes "secret")

instance (d : Identity) (user : User) : Decidable (InUse d user) :=
  decidable_of_iff (_ ∧ _ ∧ _ ∧ _ ∧ _ ∧ _ ∧ _ ∧ _)
    ⟨fun ⟨a, b, c, d, e, f, g, h⟩ => ⟨a, b, c, d, e, f, g, h⟩,
      fun ⟨a, b, c, d, e, f, g, h⟩ => ⟨a, b, c, d, e, f, g, h⟩⟩

theorem deviceRun_facts :
    DeviceRun deviceRun.trace ∧
      ∃ d ∈ deviceRun.world.identities, ∃ user ∈ deviceRun.world.users, InUse d user := by
  decide +kernel

theorem deviceRun_checked : DeviceRun deviceRun.trace := deviceRun_facts.1

theorem deviceRun_inUse :
    ∃ d ∈ deviceRun.world.identities, ∃ user ∈ deviceRun.world.users, InUse d user :=
  deviceRun_facts.2

theorem toOption_ok {ε α : Type} {r : Except ε α} {v : α} (same : r.toOption = some v) : r = .ok v := by
  cases r with
  | error e => cases same
  | ok w =>
    cases same
    rfl

end PasswordManager
