import PasswordManager.Vault.Linear

/-!
# Lists of passwords

`/pwd/list` reads the groups and then the passwords in them, so it is no operation on the vault: other
requests may come between the two statements. What it answers all the same.
-/

namespace PasswordManager
open Interaction

/-- `is_expired` of an entry, given the time. -/
def Entry.expiredAt (e : Entry) (now : NaiveDateTime) : Bool := daysRemainingAt now e.validSince e.days ≤ 0

variable [Crypto] [Archive] {config : Config}

/-- The line of a page for an entry, as the device with the key reads it. -/
structure Lists (h : History Action.Answer) (key : BytesN 32) (expired : Bool) (row : String × Entry)
    (line : PasswordEntry) : Prop where
  uuid : line.uuid = row.1
  secret : clientOpen line.pwd key = some row.2.secret
  createdAt : line.createdAt = row.2.createdAt.display
  updatedAt : line.updatedAt = row.2.updatedAt.display
  days : line.validSinceDays = row.2.days
  expires : ∃ now, readClock now ∈ h ∧
    line.expires = if expired then 0 else daysRemainingAt now row.2.validSince row.2.days

/-- The entry of a row under its uuid. -/
abbrev Password.named (config : Config) (p : Password) : String × Entry := (p.uuid, p.entry config)

/-- The rows of the wanted kind, each judged at its own time. -/
def ofKind (clock : String → NaiveDateTime) (expired : Bool) (rows : List (String × Entry)) :
    List (String × Entry) :=
  rows.filter fun row => row.2.expiredAt (clock row.1) = expired

section
variable {h : History Action.Answer} {identity : Identity} {key : BytesN 32} {expired : Bool}
  {rows : List (String × Entry)} {clock : String → NaiveDateTime} {now : NaiveDateTime}

omit [Crypto] [Archive] in
/-- The time at which one row is judged does not matter to the others. -/
theorem ofKind_update {uuid : String} (absent : uuid ∉ rows.map (·.1)) :
    ofKind (Function.update clock uuid now) expired rows = ofKind clock expired rows := by
  refine List.filter_congr fun row member => ?_
  have apart : row.1 ≠ uuid := fun same => absent (List.mem_map.mpr ⟨row, member, same⟩)
  rw [Function.update_of_ne apart]

omit [Crypto] [Archive] in
theorem ofKind_pos {row : String × Entry} (absent : row.1 ∉ rows.map (·.1))
    (kind : row.2.expiredAt now = expired) :
    ofKind (Function.update clock row.1 now) expired (row :: rows) = row :: ofKind clock expired rows := by
  unfold ofKind
  rw [List.filter_cons_of_pos (by simpa using kind)]
  exact congrArg _ (ofKind_update absent)

omit [Crypto] [Archive] in
theorem ofKind_neg {row : String × Entry} (absent : row.1 ∉ rows.map (·.1))
    (kind : row.2.expiredAt now ≠ expired) :
    ofKind (Function.update clock row.1 now) expired (row :: rows) = ofKind clock expired rows := by
  unfold ofKind
  rw [List.filter_cons_of_neg (by simpa using kind)]
  exact ofKind_update absent

omit [Archive] in
/-- A page is the part from `skip` on of what is of its kind when the clock comes to it. -/
theorem Pages.listed (opens : OpensSealed) (derived : openSharedKey identity config = .ok key)
    {passwords : List Password} {skip take : Nat} {lines : List PasswordEntry}
    (unique : (passwords.map (·.uuid)).Nodup) (read : readClock now ∈ h)
    (pages : Pages config identity expired h passwords skip take lines) :
    ∃ clock : String → NaiveDateTime, (∀ uuid, readClock (clock uuid) ∈ h) ∧
      List.Forall₂ (Lists h key expired)
        (((ofKind clock expired (passwords.map (·.named config))).drop skip).take take) lines := by
  have named : ∀ (p : Password) rest, ((p :: rest).map (·.uuid)).Nodup →
      (p.named config).1 ∉ (rest.map (·.named config)).map (·.1) := by
    intro p rest unique
    rw [List.map_map]
    exact (List.nodup_cons.mp unique).1
  have clocked : ∀ {clock : String → NaiveDateTime} {uuid now}, readClock now ∈ h →
      (∀ uuid, readClock (clock uuid) ∈ h) → ∀ k, readClock (Function.update clock uuid now k) ∈ h := by
    intro clock uuid now time times k
    by_cases same : k = uuid
    · subst same
      rwa [Function.update_self]
    · rw [Function.update_of_ne same]
      exact times k
  induction pages with
  | nil => exact ⟨fun _ => now, fun _ => read, by simp [ofKind]⟩
  | full => exact ⟨fun _ => now, fun _ => read, by simp⟩
  | @pass p rest skip take lines now time kind _ ih =>
    obtain ⟨clock, times, listed⟩ := ih (List.nodup_cons.mp unique).2
    refine ⟨Function.update clock p.uuid now, clocked time times, ?_⟩
    rw [List.map_cons, ofKind_neg (named p rest unique) kind]
    exact listed
  | @skip p rest skip take lines now time kind _ ih =>
    obtain ⟨clock, times, listed⟩ := ih (List.nodup_cons.mp unique).2
    refine ⟨Function.update clock p.uuid now, clocked time times, ?_⟩
    rw [List.map_cons, ofKind_pos (named p rest unique) kind]
    exact listed
  | @take p rest take lines now now' sent time kind time' forClient _ ih =>
    obtain ⟨clock, times, listed⟩ := ih (List.nodup_cons.mp unique).2
    refine ⟨Function.update clock p.uuid now, clocked time times, ?_⟩
    rw [List.map_cons, ofKind_pos (named p rest unique) kind]
    refine .cons ⟨rfl, forClient_secret opens derived forClient, rfl, rfl, rfl, now', time', rfl⟩ ?_
    exact listed

omit [Archive] in
theorem Pages.read {passwords : List Password} {skip take : Nat} {lines : List PasswordEntry}
    (pages : Pages config identity expired h passwords skip take lines) (some : 0 < take) :
    passwords = [] ∨ ∃ now, readClock now ∈ h := by
  cases pages with
  | nil => exact .inl rfl
  | full => omega
  | pass time => exact .inr ⟨_, time⟩
  | skip time => exact .inr ⟨_, time⟩
  | take time => exact .inr ⟨_, time⟩

omit [Archive] in
/-- The rows of the second statement are what the vault has in the folders of the first. -/
theorem mem_listed {before after : Db} {user uuid : String} {e : Entry} :
    (uuid, e) ∈ (after.passwords.filter fun p =>
        p.groupId ∈ (before.groups.filter fun g => g.userId = user).map (·.uuid)).map (·.named config) ↔
      (after.vault config).entries uuid = some e ∧ (before.vault config).Owns user e.folder := by
  constructor
  · intro member
    obtain ⟨p, listed, same⟩ := List.mem_map.mp member
    obtain ⟨rfl, rfl⟩ := Prod.mk.inj same
    obtain ⟨present, inside⟩ := List.mem_filter.mp listed
    obtain ⟨g, found, named⟩ := List.mem_map.mp (of_decide_eq_true inside)
    obtain ⟨there, owner⟩ := List.mem_filter.mp found
    exact ⟨vault_entry config present, g.folder, List.mem_map_of_mem there, named, of_decide_eq_true owner⟩
  · rintro ⟨found, f, member, same, owner⟩
    obtain ⟨p, hit, rfl⟩ := Option.map_eq_some_iff.mp found
    obtain ⟨present, rfl⟩ := Table.find_some hit
    obtain ⟨g, there, rfl⟩ := List.mem_map.mp member
    have own : g ∈ before.groups.filter fun g => g.userId = user :=
      List.mem_filter.mpr ⟨there, decide_eq_true owner⟩
    refine List.mem_map.mpr ⟨p, List.mem_filter.mpr ⟨present, decide_eq_true ?_⟩, rfl⟩
    exact List.mem_map.mpr ⟨g, own, same⟩

end

/-- The lines are a page of the entries that the vault has at one moment in folders that the user has at
an earlier one, both after the request was started. -/
def ListedBetween (config : Config) (tr : Journal) (rid : Nat) (headers : HeaderMap) (ip : String)
    (params : ListParams) (lines : List PasswordEntry) : Prop :=
  ∃ older oldest before after identity user key rows clock,
    older <:+ tr ∧ oldest <:+ older ∧ .start rid (.pwdList headers ip params) ∈ oldest ∧
    Run config oldest before ∧ Run config older after ∧
    Accepted (own rid tr) headers ip identity user ∧ openSharedKey identity config = .ok key ∧
    (rows.map (·.1)).Nodup ∧
    (∀ uuid e, (uuid, e) ∈ rows ↔
      (after.vault config).entries uuid = some e ∧ (before.vault config).Owns user e.folder) ∧
    (∀ row ∈ rows, readClock (clock row.1) ∈ own rid tr) ∧
    List.Forall₂ (Lists (own rid tr) key (params.expired.getD false))
      (((ofKind clock (params.expired.getD false) rows).drop (max (params.take.getD 0) 0).toNat).take
        (pageSize params.size)) lines

/-- What `/pwd/list` answers, whatever else happens meanwhile. So an entry of the user is left out only if
its folder is newer than the request, and no entry of anybody else is shown. -/
theorem list_between (opens : OpensSealed) {c : ServerState} (reached : (server config).CrashReachable c)
    {rid : Nat} {headers : HeaderMap} {ip : String} {params : ListParams} {lines : List PasswordEntry}
    (replied : .reply rid (.pwdList headers ip params) (.ok (.passwords lines)) ∈ c.trace) :
    ListedBetween config c.trace rid headers ip params lines := by
  obtain ⟨d, steps, survives⟩ := reached.uncrashed
  have sights : Sights config d.trace d.world :=
    (Machine.reachable_tracked (M := (server config).machine) (sight_spec config) steps).traced
  rw [survives.trace] at sights
  obtain ⟨started, -, answer⟩ := sights.replied replied
  obtain ⟨identity, user, conn, ids, passwords, accepted, member, pages⟩ := answer _ rfl
  obtain ⟨key, derived⟩ := accepted_key opens sights.run accepted
  obtain ⟨after, post, newer, older, split, second⟩ := sights.performed started member
  obtain ⟨earlier, live, ⟨-, sighted⟩, -⟩ := second.act_inv
  obtain ⟨identity', user', conn', groups, accepted', listed, rfl⟩ := sighted.pages _ _ _ _ _ rfl rfl
  obtain ⟨before, post', middle, oldest, split', first⟩ := Sights.performed earlier live.1 listed
  obtain ⟨run, moment, done⟩ := Run.looked rfl second.run
  obtain ⟨run', moment', done'⟩ := Run.looked rfl first.run
  obtain ⟨-, -, order⟩ := exec_passwordFindByGroups done
  obtain rfl := Except.ok.inj (Prod.mk.inj done').1
  -- The device of the first statement is the one that the reply is for.
  have later : Accepted (own rid c.trace) headers ip identity' user' := by
    rw [split]
    exact accepted'.mono own_older
  obtain rfl := accepted_unique sights.run accepted later
  obtain rfl : user = user' := Option.some.inj (accepted.linked.symm.trans later.linked)
  have unique : (passwords.map (·.uuid)).Nodup := (order.map _).nodup_iff.mpr
    ((List.filter_sublist.map _).nodup after.valid.passwordUuid)
  have uuids : (passwords.map (·.named config)).map (·.1) = passwords.map (·.uuid) := by
    rw [List.map_map]
    rfl
  have page : ∃ clock : String → NaiveDateTime,
      (∀ row ∈ passwords.map (·.named config), readClock (clock row.1) ∈ own rid c.trace) ∧
      List.Forall₂ (Lists (own rid c.trace) key (params.expired.getD false))
        (((ofKind clock (params.expired.getD false) (passwords.map (·.named config))).drop
          (max (params.take.getD 0) 0).toNat).take (pageSize params.size)) lines := by
    rcases pages.read (pageSize_bounds params.size).1 with rfl | ⟨now, read⟩
    · cases pages
      exact ⟨fun _ => 0, by simp, by simp [ofKind]⟩
    · obtain ⟨clock, times, lists⟩ := pages.listed opens derived unique read
      exact ⟨clock, fun row _ => times row.1, lists⟩
  obtain ⟨judged, times, lists⟩ := page
  have suffix : older <:+ c.trace := by
    rw [split]
    exact (List.suffix_cons _ _).trans (List.suffix_append _ _)
  have suffix' : oldest <:+ older := by
    rw [split']
    exact (List.suffix_cons _ _).trans (List.suffix_append _ _)
  refine ⟨older, oldest, before, after, identity, user, key, passwords.map (·.named config), judged,
    suffix, suffix', first.act_inv.2.1.1, run', run, accepted, derived, ?_, ?_, times, lists⟩
  · rw [uuids]
    exact unique
  · intro uuid e
    rw [(order.map _).mem_iff]
    exact mem_listed

def listParams : ListParams := ⟨none, none, none⟩

def listRequest : Request := .pwdList deviceHeaders deviceIp listParams

/-- The device of the example lists its passwords. -/
def listRun : ServerState :=
  letI := plainCrypto
  letI := plainArchive
  (server plainConfig).play (alone 8 12 listRequest) deviceRun

/-- The only line is the one of this entry. -/
def listsOnly (uuid : String) : Result → Bool
  | .ok (.passwords [line]) => line.uuid == uuid
  | _ => false

omit [Crypto] [Archive] in
theorem listsOnly_line {uuid : String} {result : Result} (only : listsOnly uuid result = true) :
    ∃ line, line.uuid = uuid ∧ result = .ok (.passwords [line]) := by
  unfold listsOnly at only
  split at only
  · rename_i line
    exact ⟨line, beq_iff_eq.mp only, rfl⟩
  · cases only

omit [Crypto] [Archive] in
theorem list_between_device :
    letI := plainCrypto
    letI := plainArchive
    ∃ line, line.uuid = (numbered 5128).toString ∧
      ListedBetween plainConfig listRun.trace 8 deviceHeaders deviceIp listParams [line] := by
  let _ := plainCrypto
  let _ := plainArchive
  have reached : (server plainConfig).CrashReachable listRun :=
    (deviceRun_reachable.trans (Machine.play_steps _ deviceRun)).crashing
  have shown : listRun.trace.any (replies 8 listRequest (listsOnly (numbered 5128).toString)) := by
    decide +kernel
  obtain ⟨event, member, kind⟩ := List.any_eq_true.mp shown
  unfold replies at kind
  split at kind
  · rename_i rid req result
    simp only [Bool.and_eq_true, beq_iff_eq] at kind
    obtain ⟨⟨rfl, rfl⟩, only⟩ := kind
    obtain ⟨line, same, rfl⟩ := listsOnly_line only
    exact ⟨line, same, list_between plain_opens reached member⟩
  · cases kind

end PasswordManager
