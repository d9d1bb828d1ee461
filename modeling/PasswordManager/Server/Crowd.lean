import Mathlib.Data.List.Range
import PasswordManager.Server.Alone
import PasswordManager.Server.Plain

/-!
# A server with many devices

Greeting adds a device, and nothing ever bounds their number: a server can reach databases of many
rows.
-/

namespace PasswordManager
open Interaction

theorem greet_enrolls [Crypto] [Archive] (config : Config) (ip : String) (key : BytesN 32)
    {choices : Nat → Choice} {db after : Db} {blob : Bytes} {row : Identity} (calm : Calm choices)
    (unknown : Table.find (·.ipAddress) db.identities ip = none)
    (sealed : sealWith ((choices 5).chance 0).nonce (clamp ((choices 3).chance 0).random).val
      config.databaseEncryptSecret = .ok blob)
    (created : db.exec ((choices 6).chance 0).toMoment (.identityCreate
      (greetRow ip ((choices 3).chance 0).random ((choices 4).chance 0).uuid blob key.val)) =
        (.ok row, after)) :
    (((server config).handler (.greet ip ⟨Hex.encode key.val⟩)).run (server config).answer
      (choices, db)).2.2 = after := by
  show (Fallible.exec Action.answer (Reply.greet <$> greetHandler config ip ⟨Hex.encode key.val⟩)
    (choices, db)).2.2 = after
  rw [exec_map (exec_greet calm unknown sealed created)]

/-- The address of a device. -/
def host (n : Nat) : String := "fd00::" ++ Hex.encode (word (n + 4096))

/-- The device's row, in a server with the plain cipher. -/
def greeter (n : Nat) : Identity :=
  letI := plainCrypto
  (greetRow (host n) zeroKey (numbered n)
    (List.replicate 12 0 ++ (zeroKey.val ++ (clamp zeroKey).val)) zeroKey.val).row 0

def crowd (n : Nat) : Tables := { identities := (List.range n).map greeter }

theorem host_injective {m n : Nat} (few : m < 60000) (few' : n < 60000) (same : host m = host n) :
    m = n := by
  have text := Hex.encode_injective (String.append_right_inj _ |>.mp same)
  have := word_injective (by omega) (by omega) text
  omega

theorem crowd_valid {n : Nat} (few : n ≤ 60000) : (crowd n).Valid := by
  have distinct : ∀ {α : Type} (column : Identity → α),
      (∀ m k, m < 60000 → k < 60000 → column (greeter m) = column (greeter k) → m = k) →
        ((crowd n).identities.map column).Nodup := by
    intro α column injective
    rw [crowd, List.map_map]
    refine List.Nodup.map_on (fun m member k member' same => ?_) List.nodup_range
    rw [List.mem_range] at member member'
    exact injective m k (by omega) (by omega) same
  have untokened : (crowd n).identities.filterMap (·.deviceToken) = [] := by
    rw [crowd, List.filterMap_map]
    exact List.filterMap_eq_nil_iff.mpr fun _ _ => rfl
  have unlinked : ∀ d ∈ (crowd n).identities, ∀ u ∈ d.userId, u ∈ (crowd n).users.map (·.uuid) := by
    intro d member u linked
    obtain ⟨k, -, rfl⟩ := List.mem_map.mp member
    cases linked
  exact {
    userUuid := List.nodup_nil
    userName := List.nodup_nil
    identityUuid := distinct _ fun _ _ => numbered_injective
    identityIp := distinct _ fun _ _ => host_injective
    identityToken := untokened ▸ List.nodup_nil
    identityUser := unlinked
    groupUuid := List.nodup_nil
    groupUser := nofun
    passwordUuid := List.nodup_nil
    passwordGroup := nofun }

/-- The requests of many devices, one after another, lead to a database with a row for each. -/
theorem crowd_reachable {n : Nat} (few : n ≤ 60000) :
    letI := plainCrypto
    letI := plainArchive
    ∃ c, (server plainConfig).Reachable c ∧ c.world.toTables = crowd n ∧ ∀ e ∈ c.trace, e.rid < n := by
  let _ := plainCrypto
  let _ := plainArchive
  induction n with
  | zero => exact ⟨{ world := Db.empty }, .refl, rfl, List.forall_mem_nil _⟩
  | succ n ih =>
    obtain ⟨c, reached, world, earlier⟩ := ih (by omega)
    let choices : Nat → Choice := fun _ => { chance := fun _ => { uuid := numbered n } }
    have unused : ∀ e ∈ c.trace, e.rid ≠ n := fun e member => Nat.ne_of_lt (earlier e member)
    obtain ⟨c', steps, served, done, trace, own⟩ := serve_alone (S := server plainConfig)
      (.greet (host n) ⟨Hex.encode zeroKey.val⟩) unused choices
    refine ⟨c', reached.trans steps, ?_, ?_⟩
    · have unknown : Table.find (·.ipAddress) c.world.identities (host n) = none := by
        rw [Table.find, List.find?_eq_none, world]
        intro d member
        obtain ⟨m, below, rfl⟩ := List.mem_map.mp member
        rw [List.mem_range] at below
        have other : host m ≠ host n := fun same => by
          have := host_injective (by omega) (by omega) same
          omega
        exact fun same => other (of_decide_eq_true same)
      have grown : { c.world.toTables with identities := c.world.identities ++ [greeter n] } =
          crowd (n + 1) := by
        rw [world, crowd, crowd, List.range_succ, List.map_append]
        rfl
      have created : c.world.exec {} (.identityCreate (greetRow (host n) zeroKey (numbered n)
          (List.replicate 12 0 ++ (zeroKey.val ++ (clamp zeroKey).val)) zeroKey.val)) =
            (.ok (greeter n), ⟨_, grown ▸ crowd_valid few⟩) := dif_pos (grown ▸ crowd_valid few)
      have calm : Calm choices := ⟨fun _ => ⟨⟨0⟩, rfl⟩, fun _ => rfl⟩
      rw [served, greet_enrolls plainConfig (host n) zeroKey calm unknown rfl created]
      exact grown
    · intro e member
      rw [trace] at member
      rcases List.mem_cons.mp member with rfl | member
      · exact Nat.lt_succ_self n
      · rcases List.mem_append.mp member with here | before
        · exact own e here ▸ Nat.lt_succ_self n
        · exact Nat.lt_succ_of_lt (earlier e before)

theorem crowd_dump {n : Nat} {db : Db} (tables : db.toTables = crowd n) : n * 200 ≤ db.dump.length := by
  have rows : n * 200 ≤ (db.identities.flatMap fun d =>
      frameFile (d.uuid, d.serverPrivateKey ++ d.clientPublicKey)).length := by
    have count : (crowd n).identities.length = n := by simp [crowd]
    rw [tables]
    refine Nat.le_trans (Nat.le_of_eq (by rw [count])) (flatMap_length (k := 200) fun d member => ?_)
    obtain ⟨k, -, rfl⟩ := List.mem_map.mp member
    have keys : ((greeter k).serverPrivateKey ++ (greeter k).clientPublicKey).length = 108 := rfl
    rw [frameFile, List.length_append, frame_length, frame_length, keys]
    omega
  simp only [Db.dump, List.length_append]
  omega

end PasswordManager
