import PasswordManager.Crypto.Keys

/-!
# A cipher without secrets

What the server relies on can hold all at once: it does of this cipher, which hides nothing
but refuses the wrong key.
-/

namespace PasswordManager

/-- Byte-wise sum. -/
def addBytes (a b : BytesN 32) : BytesN 32 :=
  ⟨List.zipWith (· + ·) a.val b.val, by simp [a.property, b.property]⟩

abbrev plainCrypto : Crypto where
  encrypt key _ data := some (key.val ++ data)
  decrypt key _ sealed := if sealed.take 32 = key.val then some (sealed.drop 32) else none
  x25519 := addBytes
  sha256 := id

theorem plain_seals : @Seals plainCrypto := fun _ _ _ => rfl

theorem plain_opens : @OpensSealed plainCrypto := by
  intro key nonce data sealed encrypted
  cases encrypted
  have prefixed : (key.val ++ data).take 32 = key.val := by simp [key.property]
  have rest : (key.val ++ data).drop 32 = data := by simp [key.property]
  show (if (key.val ++ data).take 32 = key.val then some ((key.val ++ data).drop 32) else none) = _
  rw [if_pos prefixed, rest]

theorem zipWith_add_left_comm (a b c : Bytes) :
    List.zipWith (· + ·) a (List.zipWith (· + ·) b c) =
      List.zipWith (· + ·) b (List.zipWith (· + ·) a c) := by
  induction a generalizing b c with
  | nil => cases b <;> simp
  | cons x a ih =>
    cases b with
    | nil => simp
    | cons y b =>
      cases c with
      | nil => simp
      | cons z c =>
        simp only [List.zipWith_cons_cons, List.cons.injEq]
        exact ⟨by rw [← UInt8.add_assoc, UInt8.add_comm x, UInt8.add_assoc], ih b c⟩

theorem plain_agrees : @KeysAgree plainCrypto := fun a b =>
  Subtype.ext (zipWith_add_left_comm a.val b.val x25519Basepoint.val)

theorem plain_hash : @HashInjective plainCrypto := fun _ _ same =>
  asBytes_injective (Hex.encode_injective same)

end PasswordManager
