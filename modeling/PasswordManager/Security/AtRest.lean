import PasswordManager.Server.Plain
import PasswordManager.Server.Runs

/-!
# Secrets at rest

Every secret that the server has stored can be read back.
-/

namespace PasswordManager
open Interaction

variable [Crypto] {config : Config}

/-- Every stored secret opens under the database key. -/
structure AtRest (config : Config) (db : Db) : Prop where
  identities : ∀ d ∈ db.identities, d.Usable config
  users : ∀ u ∈ db.users, u.Usable config
  passwords : ∀ p ∈ db.passwords, p.Usable config

theorem empty_atRest : AtRest config Db.empty where
  identities := nofun
  users := nofun
  passwords := nofun

/-! ## What a handler stores -/

theorem opens_sealed (opens : OpensSealed) {nonce : BytesN 12} {plain blob : Bytes}
    (sealed : sealWith nonce plain config.databaseEncryptSecret = .ok blob) :
    decryptDb blob config = .ok plain :=
  decrypt_sealed opens sealed

theorem openPwd_sealed (opens : OpensSealed) {nonce : BytesN 12} {plain blob : Bytes}
    (sealed : sealWith nonce plain config.databaseEncryptSecret = .ok blob) :
    openPwd (Hex.encode blob) config = .ok plain := by
  unfold openPwd
  rw [Hex.decode_encode]
  exact opens_sealed opens sealed

theorem openEhlo_sealed (opens : OpensSealed) {nonce : BytesN 12} {plain blob : Bytes} {user : User}
    (sealed : sealWith nonce plain config.databaseEncryptSecret = .ok blob)
    (stored : user.ehloSecret = Hex.encode blob) : openEhlo user config = .ok plain := by
  unfold openEhlo
  rw [stored, Hex.decode_encode]
  exact opens_sealed opens sealed

theorem Identity.Usable.apply {d : Identity} {changes : UpdateIdentity} {now : NaiveDateTime}
    (kept : changes.clientPublicKey = none) (usable : d.Usable config) :
    (changes.apply now d).Usable config := by
  obtain ⟨scalar, opened, pair, sized⟩ := usable
  refine ⟨scalar, opened, pair, ?_⟩
  simp only [UpdateIdentity.apply, kept, Option.getD_none]
  exact sized

variable {req : Request} {h : History Action.Answer} {pre post : Db}

theorem update_usable {changes : UpdateIdentity} {now : NaiveDateTime} {uuid : String}
    {rows : List Identity} (kept : changes.clientPublicKey = none)
    (usable : ∀ d ∈ rows, d.Usable config) :
    ∀ d ∈ Table.update (·.uuid) rows uuid (changes.apply now), d.Usable config := by
  intro d member
  rcases Table.mem_update.mp member with ⟨old, present, -, rfl⟩ | ⟨present, -⟩
  · exact (usable old present).apply kept
  · exact usable d present

theorem change_atRest (opens : OpensSealed) {e : Exchange Action.Answer}
    (change : Change config req h e pre post) (before : AtRest config pre) : AtRest config post := by
  obtain ⟨identities, users, passwords⟩ := before
  cases change with
  | none => exact ⟨identities, users, passwords⟩
  | signUp write vacant found after =>
    cases write with
    | signUp decoded valid sealed =>
      obtain ⟨nonce, sealed⟩ := sealed
      constructor
      · rw [after]
        exact update_usable rfl identities
      · rw [after]
        refine List.forall_mem_append.mpr ⟨users, List.forall_mem_singleton.mpr ?_⟩
        exact ⟨_, openEhlo_sealed opens sealed rfl⟩
      · rw [after]
        exact passwords
  | userUpdate write found after =>
    constructor
    · rw [after]
      exact identities
    · rw [after]
      intro u member
      rcases Table.mem_update.mp member with ⟨old, present, -, rfl⟩ | ⟨present, -⟩
      · exact users old present
      · exact users u present
    · rw [after]
      exact passwords
  | identityCreate write after =>
    cases write with
    | greet decoded size drew sealed =>
      obtain ⟨nonce, sealed⟩ := sealed
      constructor
      · rw [after]
        refine List.forall_mem_append.mpr ⟨identities, List.forall_mem_singleton.mpr ?_⟩
        exact ⟨_, opens_sealed opens sealed, rfl, size⟩
      · rw [after]
        exact users
      · rw [after]
        exact passwords
  | identityUpdate write found after =>
    constructor
    · rw [after]
      exact update_usable (write_keeps_key write) identities
    · rw [after]
      exact users
    · rw [after]
      exact passwords
  | identityDelete write after =>
    constructor
    · rw [after]
      exact fun d member => identities d (List.mem_of_mem_filter member)
    · rw [after]
      exact users
    · rw [after]
      exact passwords
  | groupCreate write after =>
    constructor <;> rw [after]
    · exact identities
    · exact users
    · exact passwords
  | passwordCreate write after =>
    cases write with
    | pwdCreate accepted opened sealed target owned drew time =>
      obtain ⟨nonce, sealed⟩ := sealed
      constructor
      · rw [after]
        exact identities
      · rw [after]
        exact users
      · rw [after]
        refine List.forall_mem_append.mpr ⟨passwords, List.forall_mem_singleton.mpr ?_⟩
        exact ⟨_, openPwd_sealed opens sealed⟩
  | passwordUpdate write found after =>
    cases write with
    | pwdUpdate accepted found' current owned target targetOwned opened sealed =>
      obtain ⟨nonce, sealed⟩ := sealed
      constructor
      · rw [after]
        exact identities
      · rw [after]
        exact users
      · rw [after]
        intro p member
        rcases Table.mem_update.mp member with ⟨old, present, -, rfl⟩ | ⟨present, -⟩
        · exact ⟨_, openPwd_sealed opens sealed⟩
        · exact passwords p present

/-! ## What a handler reads back -/

/-- Rows that come out of a usable database can be read back. -/
theorem readable_answer {conn : Conn} {q : Query} {a : q.Answer}
    (happened : Happened (answered conn q a) pre post) (before : AtRest config pre)
    (after : AtRest config post) : q.Readable config a := by
  obtain ⟨moment, done⟩ := happened_sql happened
  cases q with
  | userFindByUuid | userFindByName =>
    cases done
    exact Table.forall_find before.users
  | identityFindByIp | identityFindByDeviceToken | identityFindByUuid =>
    cases done
    exact Table.forall_find before.identities
  | passwordFindByUuid =>
    cases done
    exact Table.forall_find before.passwords
  | passwordFindByGroups =>
    obtain ⟨-, -, rows⟩ := exec_passwordFindByGroups done
    exact fun p member => before.passwords p (List.mem_of_mem_filter (rows.subset member))
  | passwordCreate new =>
    obtain ⟨rfl, stored⟩ := exec_passwordCreate done
    refine after.passwords _ ?_
    rw [stored]
    simp
  | _ => trivial

variable [Archive] {tr : Journal} {db : Db}

theorem run_atRest (opens : OpensSealed) (run : Run config tr db) : AtRest config db :=
  run.invariant empty_atRest (change_atRest opens)

theorem run_readable (opens : OpensSealed) (run : Run config tr db) {rid : Nat} {conn : Conn}
    {q : Query} {a : q.Answer} (member : .act rid req (answered conn q a) pre post ∈ tr) :
    q.Readable config a := by
  obtain ⟨newer, older, -, run⟩ := run.upTo member
  obtain ⟨earlier, -, happened, -⟩ := run.newest
  exact readable_answer happened (run_atRest opens earlier) (run_atRest opens run)

theorem run_not_corrupt (opens : OpensSealed) (run : Run config tr db) {rid : Nat} :
    ¬Corrupt config (own rid tr) := by
  rintro ⟨conn, q, a, member, unreadable⟩
  obtain ⟨req, pre, post, present⟩ := mem_own.mp member
  exact unreadable (run_readable opens run present)

theorem blame_origin (opens : OpensSealed) (run : Run config tr db) {rid : Nat} {f : Failure}
    (blame : Blame config (own rid tr) f) : f.origin ≠ .stored := by
  cases blame with
  | refused origin => rcases origin with origin | origin <;> simp [origin]
  | stored origin corrupt => exact absurd corrupt (run_not_corrupt opens run)
  | sealing origin => simp [origin]
  | rolledBack transaction =>
    obtain ⟨conn, t, member⟩ := transaction
    obtain ⟨req, pre, post, newer, older, -, run⟩ := run.performed member
    obtain ⟨choice, happened⟩ := run.newest.2.2.1
    rcases (transaction_error happened).2 with origin | origin <;> simp [origin]

/-- Stored secrets are always usable: every secret in a reachable database can be read back, so
is every secret in a row that a handler was given, and no handler ends with the error of a
stored secret that cannot be read back. -/
theorem stored_secrets_usable (opens : OpensSealed) {c : ServerState}
    (reached : (server config).Reachable c) :
    AtRest config c.world ∧
      (∀ rid req conn q a pre post,
        .act rid req (answered conn q a) pre post ∈ c.trace → q.Readable config a) ∧
      ∀ rid req f, Ended c rid req (.error f) → f.origin ≠ .stored := by
  have run := reachable_run reached
  refine ⟨run_atRest opens run, fun _ _ _ _ _ _ _ => run_readable opens run, ?_⟩
  intro rid req f ended
  exact blame_origin opens run (ended_settled reached ended)

omit [Crypto] [Archive] in
theorem stored_secrets_usable_device :
    letI := plainCrypto
    letI := plainArchive
    AtRest plainConfig deviceRun.world ∧
      (∀ rid req conn q a pre post,
        .act rid req (answered conn q a) pre post ∈ deviceRun.trace → q.Readable plainConfig a) ∧
      ∀ rid req f, Ended deviceRun rid req (.error f) → f.origin ≠ .stored := by
  let _ := plainCrypto
  let _ := plainArchive
  exact stored_secrets_usable plain_opens deviceRun_reachable

end PasswordManager
