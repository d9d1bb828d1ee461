import PasswordManager.Security.AtRest
import PasswordManager.Server.Births

/-!
# The shared key

The client's half of the protocol: the key that it derives from the answer to its greet request
is the key that the server reads back from the device's row, for ever.
-/

namespace PasswordManager
open Interaction

variable [Crypto]

/-! ## The client -/

/-- `pub = X25519(priv, basepoint)` -/
def clientPublicKey (priv : BytesN 32) : BytesN 32 := Crypto.x25519 priv x25519Basepoint

/-- `shared_key = X25519(client_private_key, unhex(server_public_key))` -/
def clientSharedKey (priv : BytesN 32) (serverPublicKey : String) : Option (BytesN 32) := do
  let bytes ← Hex.decode serverPublicKey
  let pub ← BytesN.tryFrom 32 bytes
  return Crypto.x25519 priv pub

/-- `hex(nonce ‖ ct)`, given the nonce. -/
def clientSeal (nonce : BytesN 12) (plain : Bytes) (key : BytesN 32) : Except AppError String :=
  Hex.encode <$> sealWith nonce plain key

/-- `open(hex_blob, shared_key)` -/
def clientOpen (field : String) (key : BytesN 32) : Option Bytes := do
  let blob ← Hex.decode field
  (decryptWithSharedKey blob key).toOption

theorem clientSharedKey_encode {priv pub : BytesN 32} :
    clientSharedKey priv (Hex.encode pub.val) = some (Crypto.x25519 priv pub) := by
  unfold clientSharedKey
  rw [Hex.decode_encode]
  show (BytesN.tryFrom 32 pub.val).bind _ = _
  rw [BytesN.tryFrom_val]
  rfl

theorem clientOpen_sealed (opens : OpensSealed) {nonce : BytesN 12} {plain blob : Bytes}
    {key : BytesN 32} (done : sealWith nonce plain key = .ok blob) :
    clientOpen (Hex.encode blob) key = some plain := by
  unfold clientOpen
  rw [Hex.decode_encode]
  show (decryptWithSharedKey blob key).toOption = some plain
  rw [decrypt_sealed opens done]
  rfl

theorem opens_clientSeal (opens : OpensSealed) {config : Config} {identity : Identity}
    {nonce : BytesN 12} {plain opened : Bytes} {key : BytesN 32} {field : String}
    (shared : openSharedKey identity config = .ok key) (sent : clientSeal nonce plain key = .ok field)
    (read : Opens config identity field opened) : opened = plain := by
  obtain ⟨blob, key', decoded, derived, decrypted⟩ := read
  unfold clientSeal at sent
  cases done : sealWith nonce plain key with
  | error e =>
    rw [done] at sent
    cases sent
  | ok blob' =>
    rw [done] at sent
    cases sent
    cases (Hex.decode_encode blob').symm.trans decoded
    cases shared.symm.trans derived
    exact Except.ok.inj (decrypted.symm.trans (decrypt_sealed opens done))

variable [Archive] {config : Config}

/-- A client has the key: it derived it from the answer to the greet request that created the
device. -/
inductive Shares (config : Config) (c : ServerState) (device : String) (key : BytesN 32) : Prop where
  | intro {rid ip priv serverPublicKey row}
      (greeted : Ended c rid (.greet ip ⟨Hex.encode (clientPublicKey priv).val⟩)
        (.ok (.greet serverPublicKey)))
      (created : Born c.trace rid row) (device : row.uuid = device)
      (derived : clientSharedKey priv serverPublicKey = some key)

/-- The server reads the client's key back from every row that the device ever has. -/
theorem shared_key (opens : OpensSealed) (agree : KeysAgree) {c : ServerState}
    (reached : (server config).Reachable c) (fresh : Fresh c.trace) {device : String}
    {key : BytesN 32} (shares : Shares config c device key) {newer older : Journal} {before : Db}
    (split : c.trace = newer ++ older) (earlier : Run config older before) {d : Identity}
    (member : d ∈ before.identities) (same : d.uuid = device) :
    openSharedKey d config = .ok key := by
  have run := reachable_run reached
  obtain ⟨greeted, created, rfl, derived⟩ := shares
  obtain ⟨rid', row', born', like⟩ := run_born earlier d member
  obtain ⟨rfl, rfl⟩ := born_unique run fresh created (split ▸ born'.later _) (same.symm.trans like.uuid)
  -- The row was created from what the answer shows.
  obtain ⟨conn, new, row, inserted, rfl⟩ := ended_settled reached greeted
  obtain ⟨pre, post, _, _, _, done⟩ := ended_performed reached greeted inserted
  obtain ⟨ip, body, conn', new', pre', post', born⟩ := created
  cases run.write_once inserted (mem_own.mpr ⟨_, _, _, born⟩) rfl rfl
  have change := Run.change done
  cases change with
  | none unchanged => cases unchanged
  | identityCreate write after =>
    cases write with
    | @greet _ _ _ _ key random uuid blob decoded size drew encrypted =>
      cases (Hex.decode_encode _).symm.trans decoded
      obtain ⟨nonce, encrypted⟩ := encrypted
      obtain rfl := Option.some.inj (clientSharedKey_encode.symm.trans derived)
      rw [openSharedKey, like.serverPrivateKey, like.clientPublicKey]
      show (decryptDb blob config).bind _ = _
      rw [opens_sealed opens encrypted]
      exact (deriveSharedKey_sized _ _).trans (congrArg Except.ok (agree _ _).symm)

end PasswordManager
