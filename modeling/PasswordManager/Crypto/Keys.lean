import PasswordManager.Codec.Hex
import PasswordManager.Crypto.Error

/-!
# Keys and sealed data

The primitives come from outside the repository and are parameters: AES-256-GCM, X25519 and
SHA-256. What the server relies on is stated as properties of them.
-/

namespace PasswordManager
open Interaction

class Crypto where
  /-- `Aes256Gcm::encrypt`; its error carries no information. -/
  encrypt : BytesN 32 → BytesN 12 → Bytes → Option Bytes
  /-- `Aes256Gcm::decrypt` -/
  decrypt : BytesN 32 → BytesN 12 → Bytes → Option Bytes
  x25519 : BytesN 32 → BytesN 32 → BytesN 32
  sha256 : Bytes → Bytes

variable [Crypto]

/-- AES-GCM open undoes seal under the same key. -/
def OpensSealed : Prop :=
  ∀ key nonce data sealed,
    Crypto.encrypt key nonce data = some sealed → Crypto.decrypt key nonce sealed = some data

/-- AES-GCM sealing succeeds. -/
def Seals : Prop := ∀ key nonce data, (Crypto.encrypt key nonce data).isSome

def x25519Basepoint : BytesN 32 := ⟨9 :: List.replicate 31 0, by decide⟩

/-- Both sides of an X25519 exchange arrive at the same key. -/
def KeysAgree : Prop :=
  ∀ a b : BytesN 32,
    Crypto.x25519 a (Crypto.x25519 b x25519Basepoint) =
      Crypto.x25519 b (Crypto.x25519 a x25519Basepoint)

def hashToken (token : String) : String := Hex.encode (Crypto.sha256 (asBytes token))

/-- Token hashing is injective. -/
def HashInjective : Prop := Function.Injective hashToken

structure IdentityKeys where
  serverPrivateKey : Bytes
  serverPublicKey : Bytes

/-- The bits that `generate_identity_keys` clears and sets in a random scalar. -/
def clamp (random : BytesN 32) : BytesN 32 :=
  ⟨(random.val.modify 0 (· &&& 248)).modify 31 (fun b => (b &&& 127) ||| 64), by
    simp [random.property]⟩

/-- `generate_identity_keys`, given the random bytes. -/
def identityKeys (random : BytesN 32) : IdentityKeys where
  serverPrivateKey := (clamp random).val
  serverPublicKey := (Crypto.x25519 (clamp random) x25519Basepoint).val

def deriveSharedKey (myPrivate peerPublic : Bytes) : Except AppError (BytesN 32) := do
  let myPrivate ← (BytesN.tryFrom 32 myPrivate).elim
    (.error (.crypto "invalid private key length")) .ok
  let peerPublic ← (BytesN.tryFrom 32 peerPublic).elim
    (.error (.crypto "invalid public key length")) .ok
  return Crypto.x25519 myPrivate peerPublic

/-- `encrypt_with_shared_key`, given the nonce. -/
def sealWith (nonce : BytesN 12) (data : Bytes) (key : BytesN 32) : Except AppError Bytes :=
  match Crypto.encrypt key nonce data with
  | none => .error (.crypto "encryption failed: aead::Error")
  | some ciphertext => .ok (nonce.val ++ ciphertext)

def decryptWithSharedKey (data : Bytes) (key : BytesN 32) : Except AppError Bytes :=
  if h : data.length < 12 then .error (.crypto "encrypted data too short")
  else
    match Crypto.decrypt key ⟨data.take 12, by simp; omega⟩ (data.drop 12) with
    | none => .error (.crypto "decryption failed: aead::Error")
    | some plaintext => .ok plaintext

theorem sealWith_ok {nonce : BytesN 12} {data blob : Bytes} {key : BytesN 32}
    (h : sealWith nonce data key = .ok blob) :
    ∃ sealed, Crypto.encrypt key nonce data = some sealed ∧ blob = nonce.val ++ sealed := by
  unfold sealWith at h
  split at h
  · cases h
  · rename_i sealed encrypted
    cases h
    exact ⟨sealed, encrypted, rfl⟩

/-- What was sealed opens under the same key. -/
theorem decrypt_sealed (opens : OpensSealed) {nonce : BytesN 12} {data blob : Bytes}
    {key : BytesN 32} (h : sealWith nonce data key = .ok blob) :
    decryptWithSharedKey blob key = .ok data := by
  obtain ⟨sealed, encrypted, rfl⟩ := sealWith_ok h
  have long : ¬(nonce.val ++ sealed).length < 12 := by
    have := nonce.property
    simp only [List.length_append]
    omega
  have prefixed : (nonce.val ++ sealed).take 12 = nonce.val := by
    simp [nonce.property]
  have rest : (nonce.val ++ sealed).drop 12 = sealed := by
    simp [nonce.property]
  unfold decryptWithSharedKey
  simp only [long, dite_false, prefixed, rest]
  rw [show (⟨nonce.val, nonce.property⟩ : BytesN 12) = nonce from rfl,
    opens _ _ _ _ encrypted]

theorem sealWith_isOk (seals : Seals) (nonce : BytesN 12) (data : Bytes) (key : BytesN 32) :
    ∃ blob, sealWith nonce data key = .ok blob := by
  have sealed := seals key nonce data
  unfold sealWith
  split
  · simp_all
  · exact ⟨_, rfl⟩

@[simp] theorem deriveSharedKey_sized (a b : BytesN 32) :
    deriveSharedKey a.val b.val = .ok (Crypto.x25519 a b) := by
  simp [deriveSharedKey]
  rfl

end PasswordManager
