import Shuli.Ipsec.Crypto

/-!
What the cryptographic crates document about the primitives: an opened AEAD message or CBC block
chain is what was sealed, and both ends of a Diffie-Hellman exchange compute the same secret. A
small instance, with checksums for tags, shows that the laws are met by computable functions.
-/

namespace Shuli.Ipsec

/-- The correctness of the primitives on honest inputs. -/
class LawfulCrypto [Crypto] : Prop where
  gcm_open_seal : ∀ {key nonce aad plaintext ciphertext : Octets},
    Crypto.gcmSeal key nonce aad plaintext = some ciphertext →
      Crypto.gcmOpen key nonce aad ciphertext = some plaintext
  cbc_decrypt_encrypt : ∀ key iv plaintext : Octets, iv.length = 16 → plaintext.length % 16 = 0 →
    Crypto.cbcDecrypt key iv (Crypto.cbcEncrypt key iv plaintext) = plaintext
  dh_agree_comm : ∀ (group : DhGroup) (secret other : Octets),
    Crypto.dhAgree group secret (Crypto.dhPublic group other) =
      Crypto.dhAgree group other (Crypto.dhPublic group secret)

def checksumTag (key nonce aad plaintext : Octets) : Octets :=
  beOctets 16 (checksum (key ++ nonce ++ aad ++ plaintext))

@[reducible] def checksumCrypto : Crypto where
  hmac algorithm key data := beOctets algorithm.outputLen (checksum (key ++ [0x36] ++ data))
  hmac_length _ _ _ := beOctets_length _ _
  sha1 data := beOctets 20 (checksum data)
  gcmSeal key nonce aad plaintext := some (plaintext ++ checksumTag key nonce aad plaintext)
  gcmOpen key nonce aad ciphertext :=
    let plaintext := ciphertext.take (ciphertext.length - 16)
    if ciphertext = plaintext ++ checksumTag key nonce aad plaintext then some plaintext else none
  cbcEncrypt _ _ plaintext := plaintext
  cbcDecrypt _ _ ciphertext := ciphertext
  dhPublic _ secret := beOctets 32 (beNat secret * 5 % checksumModulus)
  dhAgree _ secret peerPublic := some (beOctets 32 (beNat secret * beNat peerPublic % checksumModulus))
  loadLocal _ := .error (.internal "no certificates")
  verifyPeer _ _ _ _ := .error (.internal "no certificates")
  verifySignature _ _ _ _ := .error (.internal "no certificates")

theorem checksumCrypto_lawful : @LawfulCrypto checksumCrypto := by
  refine @LawfulCrypto.mk checksumCrypto ?_ ?_ ?_
  · intro key nonce aad plaintext ciphertext sealed
    obtain rfl := Option.some.inj sealed
    simp [Crypto.gcmOpen, checksumTag]
  · intro key iv plaintext _ _
    rfl
  · intro group secret other
    have small (value : Nat) : value % checksumModulus % 256 ^ 32 = value % checksumModulus :=
      Nat.mod_eq_of_lt (lt_trans (Nat.mod_lt _ (by decide)) (by decide))
    simp only [Crypto.dhAgree, Crypto.dhPublic, beNat_beOctets, small, Nat.mul_mod_mod]
    rw [← Nat.mul_assoc, ← Nat.mul_assoc, Nat.mul_comm (beNat secret)]

end Shuli.Ipsec
