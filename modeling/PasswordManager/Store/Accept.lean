import PasswordManager.Store.Query

/-!
# Statements that are carried out

When an INSERT, UPDATE or DELETE breaks no constraint.
-/

namespace PasswordManager

variable {db : Db}

theorem commit_valid {α : Type} {t : Tables} {answer : α} (valid : t.Valid) :
    ∃ after, db.commit t answer = (.ok answer, after) ∧ after.toTables = t := by
  refine ⟨⟨t, valid⟩, ?_, rfl⟩
  unfold Db.commit
  rw [dif_pos valid]

theorem nodup_append_new {α : Type} {rows : List α} {new : α} (unique : rows.Nodup)
    (unused : new ∉ rows) : (rows ++ [new]).Nodup := by
  refine List.nodup_append.mpr ⟨unique, List.nodup_singleton new, ?_⟩
  intro old member other here same
  obtain rfl := List.mem_singleton.mp here
  exact unused (same ▸ member)

theorem exec_newUser (moment : Moment) {new : NewUser}
    (unused : new.uuid ∉ db.users.map (·.uuid)) (free : new.name ∉ db.users.map (·.name)) :
    ∃ after, db.exec moment (.userCreate new) = (.ok (new.row moment.clock), after) ∧
      after.toTables = { db.toTables with users := db.users ++ [new.row moment.clock] } := by
  refine commit_valid ?_
  have valid := db.valid
  have kept : ∀ {u : String}, u ∈ db.users.map (·.uuid) →
      u ∈ (db.users ++ [new.row moment.clock]).map (·.uuid) := by
    intro u member
    rw [List.map_append]
    exact List.mem_append_left _ member
  refine { valid with userUuid := ?_, userName := ?_, identityUser := ?_, groupUser := ?_ }
  · rw [List.map_append]
    exact nodup_append_new valid.userUuid unused
  · rw [List.map_append]
    exact nodup_append_new valid.userName free
  · exact fun d member u linked => kept (valid.identityUser d member u linked)
  · exact fun g member => kept (valid.groupUser g member)

/-! ## Devices -/

theorem exec_newDevice (moment : Moment) {new : NewIdentity}
    (unused : new.uuid ∉ db.identities.map (·.uuid))
    (free : new.ipAddress ∉ db.identities.map (·.ipAddress))
    (token : new.deviceToken = none) (user : new.userId = none) :
    ∃ after, db.exec moment (.identityCreate new) = (.ok (new.row moment.clock), after) ∧
      after.toTables = { db.toTables with identities := db.identities ++ [new.row moment.clock] } := by
  refine commit_valid ?_
  have valid := db.valid
  refine { valid with identityUuid := ?_, identityIp := ?_, identityToken := ?_, identityUser := ?_ }
  · rw [List.map_append]
    exact nodup_append_new valid.identityUuid unused
  · rw [List.map_append]
    exact nodup_append_new valid.identityIp free
  · rw [List.filterMap_append]
    have none : [new.row moment.clock].filterMap (·.deviceToken) = [] := by
      simp [NewIdentity.row, token]
    rw [none, List.append_nil]
    exact valid.identityToken
  · refine List.forall_mem_append.mpr ⟨valid.identityUser, List.forall_mem_singleton.mpr ?_⟩
    intro u linked
    cases user.symm.trans linked

/-- An UPDATE of a device that takes no address and no token of another device. -/
theorem exec_changeDevice (moment : Moment) (now : NaiveDateTime) {uuid : String} {changes : UpdateIdentity}
    {old : Identity} (found : Table.find (·.uuid) db.identities uuid = some old)
    (free : ∀ ip ∈ changes.ipAddress, ∀ d ∈ db.identities, d.uuid ≠ uuid → d.ipAddress ≠ ip)
    (unused : ∀ t ∈ changes.deviceToken, ∀ d ∈ db.identities, d.uuid ≠ uuid → d.deviceToken ≠ some t)
    (known : ∀ u ∈ changes.userId, u ∈ db.users.map (·.uuid)) :
    ∃ after, db.exec moment (.identityUpdate uuid changes now) = (.ok (changes.apply now old), after) ∧
      after.toTables = { db.toTables with
        identities := Table.update (·.uuid) db.identities uuid (changes.apply now) } := by
  simp only [Db.exec, found]
  refine commit_valid ?_
  have valid := db.valid
  refine { valid with identityUuid := ?_, identityIp := ?_, identityToken := ?_, identityUser := ?_ }
  · have kept : (Table.update (·.uuid) db.identities uuid (changes.apply now)).map Identity.uuid =
        db.identities.map Identity.uuid := Table.map_update Identity.uuid fun _ => rfl
    exact kept ▸ valid.identityUuid
  · refine Table.nodup_update valid.identityUuid valid.identityIp ?_
    intro row member target other present apart same
    have kept : (changes.apply now row).ipAddress = changes.ipAddress.getD row.ipAddress := rfl
    rw [kept] at same
    cases address : changes.ipAddress with
    | none =>
      rw [address] at same
      exact apart (Table.key_unique valid.identityIp present member same ▸ target)
    | some ip =>
      rw [address] at same
      exact free ip address other present apart same
  · refine Table.nodup_update_column valid.identityUuid valid.identityToken ?_
    intro row member target value holds other present apart same
    have kept : (changes.apply now row).deviceToken = changes.deviceToken.or row.deviceToken := rfl
    rw [kept] at holds
    cases token : changes.deviceToken with
    | none =>
      rw [token] at holds
      exact apart (Table.column_unique valid.identityToken present member same holds ▸ target)
    | some t =>
      rw [token] at holds
      obtain rfl := Option.some.inj holds
      exact unused t token other present apart same
  · intro d member u linked
    rcases Table.mem_update.mp member with ⟨row, present, -, rfl⟩ | ⟨present, -⟩
    · have kept : (changes.apply now row).userId = changes.userId.or row.userId := rfl
      rw [kept] at linked
      cases user : changes.userId with
      | none =>
        rw [user] at linked
        exact valid.identityUser row present u linked
      | some v =>
        rw [user] at linked
        obtain rfl := Option.some.inj linked
        exact known v user
    · exact valid.identityUser d present u linked

theorem exec_removeDevice (db : Db) (moment : Moment) (uuid : String) :
    ∃ count after, db.exec moment (.identityDelete uuid) = (.ok count, after) ∧
      after.toTables = { db.toTables with
        identities := db.identities.filter fun d => d.uuid ≠ uuid } := by
  have valid := db.valid
  have rest : (db.identities.filter fun d => d.uuid ≠ uuid).Sublist db.identities :=
    List.filter_sublist
  refine ⟨_, commit_valid ?_⟩
  exact { valid with
    identityUuid := (rest.map _).nodup valid.identityUuid
    identityIp := (rest.map _).nodup valid.identityIp
    identityToken := (rest.filterMap _).nodup valid.identityToken
    identityUser := fun d member => valid.identityUser d (List.mem_of_mem_filter member) }

/-! ## Devices that come too late -/

/-- Tables in which two devices have one address break a unique constraint. -/
theorem violation_address {t : Tables} (users : (t.users.map (·.uuid)).Nodup)
    (twice : ¬(t.identities.map (·.ipAddress)).Nodup) :
    ∃ message, t.violation = .databaseError .uniqueViolation message := by
  unfold Tables.violation
  simp only [users, twice, not_true_eq_false, not_false_eq_true, if_false, if_true]
  split
  · exact ⟨_, rfl⟩
  · split <;> exact ⟨_, rfl⟩

theorem commit_twice {α : Type} {t : Tables} {answer : α} (users : (t.users.map (·.uuid)).Nodup)
    (twice : ¬(t.identities.map (·.ipAddress)).Nodup) :
    ∃ message, db.commit t answer = (.error (.databaseError .uniqueViolation message), db) := by
  obtain ⟨message, violated⟩ := violation_address users twice
  refine ⟨message, ?_⟩
  unfold Db.commit
  rw [dif_neg fun valid => twice valid.identityIp, violated]

theorem exec_newDevice_late (moment : Moment) {new : NewIdentity} {d : Identity}
    (holder : d ∈ db.identities) (address : d.ipAddress = new.ipAddress) :
    ∃ message, db.exec moment (.identityCreate new) =
      (.error (.databaseError .uniqueViolation message), db) := by
  refine commit_twice db.valid.userUuid fun unique => ?_
  rw [List.map_append] at unique
  refine List.disjoint_of_nodup_append unique (List.mem_map_of_mem holder) ?_
  exact List.mem_singleton.mpr address

theorem exec_changeDevice_late (moment : Moment) (now : NaiveDateTime) {uuid ip : String}
    {changes : UpdateIdentity} {old d : Identity}
    (found : Table.find (·.uuid) db.identities uuid = some old) (moves : changes.ipAddress = some ip)
    (holder : d ∈ db.identities) (address : d.ipAddress = ip) (other : d.uuid ≠ uuid) :
    ∃ message, db.exec moment (.identityUpdate uuid changes now) =
      (.error (.databaseError .uniqueViolation message), db) := by
  simp only [Db.exec, found]
  refine commit_twice db.valid.userUuid fun unique => other ?_
  obtain ⟨member, same⟩ := Table.find_some found
  have moved : changes.apply now old ∈
      Table.update (·.uuid) db.identities uuid (changes.apply now) :=
    Table.mem_update.mpr (.inl ⟨old, member, same, rfl⟩)
  have stayed : d ∈ Table.update (·.uuid) db.identities uuid (changes.apply now) :=
    Table.mem_update.mpr (.inr ⟨holder, other⟩)
  have arrived : (changes.apply now old).ipAddress = ip := by
    show changes.ipAddress.getD old.ipAddress = ip
    rw [moves]
    rfl
  rw [Table.key_unique unique stayed moved (address.trans arrived.symm)]
  exact same

end PasswordManager
