import PasswordManager.Vault.Linear

/-!
# Each user's own vault

What a user is answered is what a vault would answer on which nobody else has ever performed an
operation.
-/

namespace PasswordManager
open Interaction

namespace Vault

variable {v : Vault} {user other folder uuid : String} {e : Entry} {f : Folder}

theorem Owns.unique (one : v.Owns user folder) (two : v.Owns other folder) : user = other := by
  obtain ⟨f, member, same, owner⟩ := one
  obtain ⟨g, member', same', owner'⟩ := two
  obtain rfl := Table.key_unique v.unique member member' (same.trans same'.symm)
  exact owner.symm.trans owner'

/-- What belongs to the user. -/
def restrict (v : Vault) (user : String) : Vault where
  folders := v.folders.filter fun f => f.owner = user
  entries uuid := (v.entries uuid).filter fun e => v.Owns user e.folder
  unique := (List.filter_sublist.map _).nodup v.unique
  placed uuid e found := by
    obtain ⟨f, member, same, owner⟩ := of_decide_eq_true (Option.filter_eq_some_iff.mp found).2
    exact ⟨f, List.mem_filter.mpr ⟨member, decide_eq_true owner⟩, same⟩

theorem restrict_owns : (v.restrict user).Owns user folder ↔ v.Owns user folder := by
  constructor
  · rintro ⟨f, member, same, owner⟩
    exact ⟨f, (List.mem_filter.mp member).1, same, owner⟩
  · rintro ⟨f, member, same, owner⟩
    exact ⟨f, List.mem_filter.mpr ⟨member, decide_eq_true owner⟩, same, owner⟩

theorem restrict_some (found : v.entries uuid = some e) (owns : v.Owns user e.folder) :
    (v.restrict user).entries uuid = some e :=
  Option.filter_eq_some_iff.mpr ⟨found, decide_eq_true owns⟩

theorem restrict_none (vacant : v.entries uuid = none) : (v.restrict user).entries uuid = none := by
  simp only [restrict, vacant, Option.filter_none]

/-- A new folder holds no entry yet. -/
theorem addFolder_owns {new : f.uuid ∉ v.folders.map (·.uuid)} (found : v.entries uuid = some e) :
    (v.addFolder f new).Owns user e.folder ↔ v.Owns user e.folder := by
  constructor
  · rintro ⟨g, member, same, owner⟩
    rcases List.mem_append.mp member with before | last
    · exact ⟨g, before, same, owner⟩
    · obtain rfl := List.mem_singleton.mp last
      obtain ⟨h, present, same'⟩ := v.placed uuid e found
      exact absurd (List.mem_map.mpr ⟨h, present, same'.trans same.symm⟩) new
  · rintro ⟨g, member, same, owner⟩
    exact ⟨g, List.mem_append_left _ member, same, owner⟩

theorem addFolder_entries {new : f.uuid ∉ v.folders.map (·.uuid)} :
    ((v.addFolder f new).restrict user).entries = (v.restrict user).entries := by
  funext uuid
  simp only [restrict]
  cases found : v.entries uuid with
  | none => simp only [addFolder, found, Option.filter_none]
  | some e =>
    have same : (v.addFolder f new).Owns user e.folder ↔ v.Owns user e.folder := addFolder_owns found
    simp only [addFolder, found, Option.filter_some] at same ⊢
    simp only [same]

/-! ## An operation of the user -/

theorem restrict_addFolder (mine : f.owner = user) {new : f.uuid ∉ v.folders.map (·.uuid)}
    {new' : f.uuid ∉ (v.restrict user).folders.map (·.uuid)} :
    (v.addFolder f new).restrict user = (v.restrict user).addFolder f new' := by
  apply Vault.ext
  · simp [restrict, addFolder, List.filter_append, mine]
  · exact addFolder_entries

theorem restrict_putEntry (owns : v.Owns user e.folder) {placed : ∃ f ∈ v.folders, f.uuid = e.folder}
    {placed' : ∃ f ∈ (v.restrict user).folders, f.uuid = e.folder} :
    (v.putEntry uuid e placed).restrict user = (v.restrict user).putEntry uuid e placed' := by
  apply Vault.ext
  · rfl
  · funext k
    by_cases same : k = uuid
    · subst same
      rw [putEntry_self]
      exact restrict_some putEntry_self owns
    · rw [putEntry_other same]
      simp only [restrict, putEntry_other same]
      rfl

/-- The user's own vault does to an operation of the user what the whole vault does. -/
theorem own_step {op : VaultOp} {v' : Vault} {out : VaultOut} (done : op.step v = some (out, v')) :
    op.step (v.restrict op.user) = some (out, v'.restrict op.user) := by
  cases step_performs done with
  | @createFolder _ folder new =>
    have new' : folder.uuid ∉ (v.restrict folder.owner).folders.map (·.uuid) :=
      fun member => new (((List.filter_sublist).map _).subset member)
    show VaultOp.step _ (v.restrict folder.owner) = some (_, Vault.restrict _ folder.owner)
    rw [step_createFolder new', restrict_addFolder rfl]
  | @listFolders _ user =>
    show VaultOp.step _ (v.restrict user) = some (_, v.restrict user)
    simp only [VaultOp.step, restrict, List.filter_filter, Bool.and_self]
  | @createEntry _ user _ _ vacant owns =>
    show VaultOp.step _ (v.restrict user) = some (_, Vault.restrict _ user)
    rw [step_createEntry (restrict_none vacant) (restrict_owns.mpr owns), restrict_putEntry owns]
  | @updateEntry _ user _ _ _ found here there =>
    show VaultOp.step _ (v.restrict user) = some (_, Vault.restrict _ user)
    rw [step_updateEntry (restrict_some found here) (restrict_owns.mpr here) (restrict_owns.mpr there),
      restrict_putEntry there]
  | @getEntry _ user _ entry folder found inside owned =>
    have found' : Table.find Folder.uuid v.folders entry.folder = some folder := inside
    obtain ⟨member, same⟩ := Table.find_some found'
    have here : v.Owns user entry.folder := ⟨folder, member, same, owned⟩
    have inside' : Table.find Folder.uuid (v.restrict user).folders entry.folder = some folder :=
      (Table.find_eq_some_iff (v.restrict user).unique).mpr
        ⟨List.mem_filter.mpr ⟨member, decide_eq_true owned⟩, same⟩
    exact step_getEntry (restrict_some found here) inside' owned

/-! ## An operation of another user -/

theorem restrict_foreign {placed : ∃ f ∈ v.folders, f.uuid = e.folder} (foreign : ¬v.Owns user e.folder)
    (before : ∀ old, v.entries uuid = some old → ¬v.Owns user old.folder) :
    (v.putEntry uuid e placed).restrict user = v.restrict user := by
  have gone : ∀ {e : Entry}, ¬v.Owns user e.folder → (some e).filter (fun e => v.Owns user e.folder) = none :=
    fun foreign => by rw [Option.filter_some, if_neg (by simpa using foreign)]
  apply Vault.ext
  · rfl
  · funext k
    by_cases same : k = uuid
    · subst same
      have now : ((v.putEntry k e placed).restrict user).entries k = none := by
        simp only [restrict, putEntry_self]
        exact gone foreign
      rw [now]
      cases found : v.entries k with
      | none => rw [restrict_none found]
      | some old =>
        simp only [restrict, found]
        exact (gone (before old found)).symm
    · simp only [restrict, putEntry_other same]
      rfl

theorem other_step {op : VaultOp} {v' : Vault} {out : VaultOut} (apart : op.user ≠ user)
    (done : op.step v = some (out, v')) : v'.restrict user = v.restrict user := by
  cases step_performs done with
  | @createFolder _ folder new =>
    have apart : folder.owner ≠ user := apart
    apply Vault.ext
    · simp [restrict, addFolder, List.filter_append, apart]
    · exact addFolder_entries
  | listFolders => rfl
  | getEntry found inside owned => rfl
  | @createEntry _ _ uuid entry vacant owns =>
    have foreign : ¬v.Owns user entry.folder := fun mine => apart (owns.unique mine)
    refine restrict_foreign foreign fun old found => ?_
    cases vacant.symm.trans found
  | @updateEntry _ _ uuid revision entry found here there =>
    have foreign : ¬v.Owns user (entry.revise revision).folder := fun mine => apart (there.unique mine)
    refine restrict_foreign foreign fun old found' mine => ?_
    cases found.symm.trans found'
    exact apart (here.unique mine)

end Vault

variable [Crypto] [Archive] {config : Config}

/-- Every user might as well be alone: in every run, crashes included, the operations of a user are a
legal history of a vault of their own, which ends with what the database holds of the user, and every
successful reply to a vault request of the user reports one of them. -/
theorem vault_private (opens : OpensSealed) {c : ServerState} (reached : (server config).CrashReachable c)
    (user : String) :
    Legal VaultOp.step Vault.empty ((vaultHistory config c.trace).filter fun p => p.op.user = user)
        ((c.world.vault config).restrict user) ∧
      ∀ rid req reply headers ip identity, .reply rid req (.ok reply) ∈ c.trace → req.isVault = true →
        req.session = some (headers, ip) → Accepted (own rid c.trace) headers ip identity user →
        ∃ p ∈ (vaultHistory config c.trace).filter fun p => p.op.user = user, p.rid = rid ∧
          ∃ key, openSharedKey identity config = .ok key ∧
            Displays (own rid c.trace) key p.op p.out reply := by
  obtain ⟨linearized, -⟩ := vault_linearizable opens reached .refl
  constructor
  · have empty : Vault.empty.restrict user = Vault.empty := rfl
    rw [← empty]
    let mine (op : VaultOp) : Bool := op.user = user
    have own : ∀ {op v out v'}, mine op = true → VaultOp.step op v = some (out, v') →
        op.step (v.restrict user) = some (out, v'.restrict user) := by
      intro op v out v' same done
      obtain rfl : op.user = user := of_decide_eq_true same
      exact Vault.own_step done
    have other : ∀ {op v out v'}, mine op = false → VaultOp.step op v = some (out, v') →
        v'.restrict user = v.restrict user :=
      fun apart done => Vault.other_step (of_decide_eq_false apart) done
    exact linearized.legal.project own other
  · intro rid req reply headers ip identity replied vault session accepted
    obtain ⟨p, member, same, headers', ip', identity', key, session', accepted', derived, displays⟩ :=
      linearized.reported rid req reply replied vault
    cases session.symm.trans session'
    obtain ⟨d, steps, survives⟩ := reached.uncrashed
    have run := reachable_run steps
    rw [survives.trace] at run
    obtain rfl := accepted_unique run accepted accepted'
    have mine : p.op.user = user := Option.some.inj (accepted'.linked.symm.trans accepted.linked)
    exact ⟨p, List.mem_filter.mpr ⟨member, decide_eq_true mine⟩, same, key, derived, displays⟩

omit [Crypto] [Archive] in
theorem vault_private_device :
    letI := plainCrypto
    letI := plainArchive
    ∃ user ∈ deviceRun.world.users,
      Legal VaultOp.step Vault.empty
        ((vaultHistory plainConfig deviceRun.trace).filter fun p => p.op.user = user.uuid)
        ((deviceRun.world.vault plainConfig).restrict user.uuid) ∧
      ((vaultHistory plainConfig deviceRun.trace).filter fun p => p.op.user = user.uuid).map (·.rid) =
        [6, 5, 4] := by
  let _ := plainCrypto
  let _ := plainArchive
  have reached : (server plainConfig).CrashReachable deviceRun := deviceRun_reachable.crashing
  have performed : ∃ user ∈ deviceRun.world.users,
      ((vaultHistory plainConfig deviceRun.trace).filter fun p => p.op.user = user.uuid).map (·.rid) =
        [6, 5, 4] := by
    decide +kernel
  obtain ⟨user, member, rids⟩ := performed
  exact ⟨user, member, (vault_private plain_opens reached user.uuid).1, rids⟩

end PasswordManager
