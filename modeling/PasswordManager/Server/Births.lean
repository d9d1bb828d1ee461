import Mathlib.Data.List.Pairwise
import PasswordManager.Server.Runs

/-!
# Where rows come from

The uuids that a run has generated, and the greet request that created each device. Uuids
that are fresh make a device's row unique for ever, also after it was deleted.
-/

namespace PasswordManager
open Interaction

/-- The uuids that an event shows to have been generated, tokens among them. -/
def uuids : Event Action.Answer Request Result Db → List String
  | .act _ _ ⟨.effect .uuid, u⟩ _ _ => [Uuid.toString u]
  | .act _ _ ⟨.transaction _ _, (.ok (user, token) : Except Failure (String × String))⟩ _ _ =>
    [user, token]
  | _ => []

/-- The uuids that the run has generated. -/
def issued (tr : Journal) : List String := tr.flatMap uuids

/-- No uuid was generated twice. -/
def Fresh (tr : Journal) : Prop := (issued tr).Nodup

instance (tr : Journal) : Decidable (Fresh tr) := inferInstanceAs (Decidable (issued tr).Nodup)

section
variable {tr older : Journal} {rid rid' : Nat}

theorem Fresh.suffix (newer : Journal) (fresh : Fresh (newer ++ older)) : Fresh older := by
  unfold Fresh issued at fresh ⊢
  rw [List.flatMap_append] at fresh
  exact fresh.of_append_right

/-- A fresh uuid comes from one event. -/
theorem Fresh.event_unique (fresh : Fresh tr) {a b : Event Action.Answer Request Result Db}
    (uuid : String) (one : a ∈ tr) (two : b ∈ tr) (first : uuid ∈ uuids a) (second : uuid ∈ uuids b) :
    a = b := by
  by_contra other
  have : Std.Symm (Function.onFun List.Disjoint uuids) := ⟨fun _ _ apart _ one two => apart two one⟩
  have disjoint := (List.nodup_flatMap.mp fresh).2.forall one two other
  exact disjoint first second

theorem drawn_mem {h : History Action.Answer} {u : Uuid} (drawn : drawnUuid h = some u) :
    drewUuid u ∈ h := by
  obtain ⟨e, member, found⟩ := List.exists_of_findSome?_eq_some drawn
  split at found
  · cases found
    exact member
  · cases found

theorem Fresh.draw_unique (fresh : Fresh tr) {u v : Uuid} (one : drewUuid u ∈ own rid tr)
    (two : drewUuid v ∈ own rid' tr) (same : u.toString = v.toString) : rid = rid' := by
  obtain ⟨req, pre, post, one⟩ := mem_own.mp one
  obtain ⟨req', pre', post', two⟩ := mem_own.mp two
  have equal := fresh.event_unique u.toString one two (by simp [uuids]) (by simp [uuids, same])
  cases equal
  rfl

end

/-! ## Devices -/

/-- The request created the device with this row. -/
def Born (tr : Journal) (rid : Nat) (row : Identity) : Prop :=
  ∃ ip body conn new pre post,
    .act rid (.greet ip body) (answered conn (.identityCreate new) row) pre post ∈ tr

/-- Two rows of one device, which has one key pair for ever. -/
structure SameDevice (d row : Identity) : Prop where
  uuid : d.uuid = row.uuid
  serverPrivateKey : d.serverPrivateKey = row.serverPrivateKey
  serverPublicKey : d.serverPublicKey = row.serverPublicKey
  clientPublicKey : d.clientPublicKey = row.clientPublicKey

theorem SameDevice.symm {d row : Identity} (same : SameDevice d row) : SameDevice row d :=
  ⟨same.uuid.symm, same.serverPrivateKey.symm, same.serverPublicKey.symm, same.clientPublicKey.symm⟩

theorem SameDevice.trans {a b c : Identity} (first : SameDevice a b) (second : SameDevice b c) :
    SameDevice a c where
  uuid := first.uuid.trans second.uuid
  serverPrivateKey := first.serverPrivateKey.trans second.serverPrivateKey
  serverPublicKey := first.serverPublicKey.trans second.serverPublicKey
  clientPublicKey := first.clientPublicKey.trans second.clientPublicKey

theorem SameDevice.apply {d row : Identity} (changes : UpdateIdentity) (now : NaiveDateTime)
    (kept : changes.clientPublicKey = none) (same : SameDevice d row) :
    SameDevice (changes.apply now d) row where
  uuid := same.uuid
  serverPrivateKey := same.serverPrivateKey
  serverPublicKey := same.serverPublicKey
  clientPublicKey := by
    simp only [UpdateIdentity.apply, kept, Option.getD_none]
    exact same.clientPublicKey

theorem Born.later (newer : Journal) {older : Journal} {rid : Nat} {row : Identity} (born : Born older rid row) :
    Born (newer ++ older) rid row := by
  obtain ⟨ip, body, conn, new, pre, post, member⟩ := born
  exact ⟨ip, body, conn, new, pre, post, List.mem_append_right _ member⟩

theorem Born.cons {tr : Journal} {rid : Nat} {row : Identity}
    {e : Event Action.Answer Request Result Db} (born : Born tr rid row) : Born (e :: tr) rid row :=
  born.later [e]

variable [Crypto] [Archive] {config : Config} {tr : Journal} {db : Db}

theorem run_born (run : Run config tr db) :
    ∀ d ∈ db.identities, ∃ rid row, Born tr rid row ∧ SameDevice d row := by
  have later : ∀ {e : Event Action.Answer Request Result Db} {tr : Journal} {d : Identity},
      (∃ rid row, Born tr rid row ∧ SameDevice d row) →
        ∃ rid row, Born (e :: tr) rid row ∧ SameDevice d row := by
    rintro e tr d ⟨rid, row, born, same⟩
    exact ⟨rid, row, born.cons, same⟩
  induction run using Run.induction with
  | nil => nofun
  | start tr db rid req before run ih => exact fun d member => later (ih d member)
  | reply tr db rid req res before run ih => exact fun d member => later (ih d member)
  | act tr rid req e pre post before run change ih =>
    have updated : ∀ {uuid : String} {changes : UpdateIdentity} {now : NaiveDateTime},
        changes.clientPublicKey = none →
        ∀ d ∈ Table.update (·.uuid) pre.identities uuid (changes.apply now),
          ∃ rid row, Born tr rid row ∧ SameDevice d row := by
      intro uuid changes now kept d member
      rcases Table.mem_update.mp member with ⟨old, present, -, rfl⟩ | ⟨present, -⟩
      · obtain ⟨rid, row, born, same⟩ := ih old present
        exact ⟨rid, row, born, same.apply changes now kept⟩
      · exact ih d present
    intro d member
    rcases change.identities with same | ⟨conn, new, clock, rfl, write, created⟩ |
      ⟨_, t, user, token, _, now, old, -, write, -, -, linked⟩ |
      ⟨_, uuid, changes, now, old, -, write, -, changed⟩ | ⟨_, uuid, _, -, -, deleted⟩
    · exact later (ih d (same ▸ member))
    · rw [created] at member
      rcases List.mem_append.mp member with present | here
      · exact later (ih d present)
      · obtain rfl := List.mem_singleton.mp here
        cases write with
        | greet => exact ⟨rid, _, ⟨_, _, _, _, _, _, List.mem_cons_self⟩, rfl, rfl, rfl, rfl⟩
    · rw [linked] at member
      exact later (updated rfl d member)
    · rw [changed] at member
      exact later (updated (write_keeps_key write) d member)
    · rw [deleted] at member
      exact later (ih d (List.mem_of_mem_filter member))

theorem born_drew (run : Run config tr db) {rid : Nat} {row : Identity} (born : Born tr rid row) :
    ∃ u, row.uuid = Uuid.toString u ∧ drewUuid u ∈ own rid tr := by
  obtain ⟨ip, body, conn, new, pre, post, member⟩ := born
  obtain ⟨newer, older, rfl, earlier⟩ := run.upTo member
  have change := earlier.change
  cases change with
  | none unchanged => cases unchanged
  | identityCreate write after =>
    cases write with
    | @greet _ _ _ _ _ _ u _ decoded size drew sealed =>
      exact ⟨u, rfl, own_older (drawn_mem drew)⟩

theorem born_unique (run : Run config tr db) (fresh : Fresh tr) {rid rid' : Nat}
    {row row' : Identity} (one : Born tr rid row) (two : Born tr rid' row')
    (same : row.uuid = row'.uuid) : rid = rid' ∧ row = row' := by
  obtain ⟨u, first, drew⟩ := born_drew run one
  obtain ⟨v, second, drew'⟩ := born_drew run two
  obtain rfl := fresh.draw_unique drew drew' (first.symm.trans (same.trans second))
  obtain ⟨ip, body, conn, new, pre, post, member⟩ := one
  obtain ⟨ip', body', conn', new', pre', post', member'⟩ := two
  have equal := run.write_once (mem_own.mpr ⟨_, _, _, member⟩) (mem_own.mpr ⟨_, _, _, member'⟩) rfl rfl
  cases equal
  exact ⟨rfl, rfl⟩

/-- Rows with one uuid, from any two points of a run, belong to one device. -/
theorem same_device (run : Run config tr db) (fresh : Fresh tr) {newer older : Journal} {before : Db}
    (split : tr = newer ++ older) (earlier : Run config older before) {d row : Identity}
    (now : d ∈ db.identities) (past : row ∈ before.identities) (same : d.uuid = row.uuid) :
    SameDevice d row := by
  obtain ⟨rid, first, born, like⟩ := run_born run d now
  obtain ⟨rid', second, born', like'⟩ := run_born earlier row past
  have born' : Born tr rid' second := split ▸ born'.later newer
  obtain ⟨-, rfl⟩ := born_unique run fresh born born' (like.uuid.symm.trans (same.trans like'.uuid))
  exact like.trans like'.symm

end PasswordManager
