import Shuli.Ipsec.Codec

/-!
Cryptographic primitives used by IKEv2 (`crypto.rs`). What comes from other crates (HMAC,
AES, elliptic-curve agreement, X.509) is the parameter `Crypto`; the code around it, with
its length checks and truncations, is modelled here.
-/

namespace Shuli.Ipsec

inductive HashAlgorithm
  | sha1 | sha256
  deriving DecidableEq, Repr

def HashAlgorithm.outputLen : HashAlgorithm → Nat
  | sha1 => 20
  | sha256 => 32

structure LocalAuth where
  chain : List Octets
  method : UInt8
  sign : Octets → Except IpsecError Octets

inductive PeerRole
  | initiator | responder
  deriving DecidableEq, Repr

class Crypto where
  hmac : HashAlgorithm → (key data : Octets) → Octets
  hmac_length : ∀ algorithm key data, (hmac algorithm key data).length = algorithm.outputLen
  sha1 : Octets → Octets
  gcmSeal : (key nonce aad plaintext : Octets) → Option Octets
  gcmOpen : (key nonce aad ciphertext : Octets) → Option Octets
  cbcEncrypt : (key iv plaintext : Octets) → Octets
  cbcDecrypt : (key iv ciphertext : Octets) → Octets
  dhPublic : DhGroup → (secret : Octets) → Octets
  dhAgree : DhGroup → (secret peerPublic : Octets) → Option Octets
  loadLocal : CertificateConfig → Except IpsecError LocalAuth
  verifyPeer : (caCertificates peerChain : List Octets) → Identity → PeerRole → Except IpsecError Unit
  verifySignature : (peerChain : List Octets) → (method : UInt8) → (signed auth : Octets) →
    Except IpsecError Unit

section

variable [Crypto]

def hmacAlgorithm : PrfAlgorithm → HashAlgorithm
  | .hmacSha1 => .sha1
  | .hmacSha2_256 => .sha256

def prf (algorithm : PrfAlgorithm) (key data : Octets) : Octets :=
  Crypto.hmac (hmacAlgorithm algorithm) key data

def prfPlusLoop (algorithm : PrfAlgorithm) (key seed : Octets) : Nat → Octets → UInt8 → Nat → Octets
  | 0, _, _, _ => []
  | bound + 1, previous, counter, need =>
    if need = 0 then []
    else
      let block := prf algorithm key (previous ++ seed ++ [counter])
      block.take need ++
        prfPlusLoop algorithm key seed bound block (counter + 1) (need - min need block.length)

/-- IKEv2 prf+. Every block has an octet or more, so `outputLen` bounds the iterations. -/
def prfPlus (algorithm : PrfAlgorithm) (key seed : Octets) (outputLen : Nat) : Octets :=
  prfPlusLoop algorithm key seed outputLen [] 1 outputLen

def integrity (algorithm : IntegrityAlgorithm) (key data : Octets) : Except IpsecError Octets := do
  let hash ← (match algorithm with
    | .hmacSha1_96 => pure .sha1
    | .hmacSha2_256_128 => pure .sha256
    | .none => throw (.internal "cannot compute integrity with the NONE algorithm") :
      Except IpsecError HashAlgorithm)
  let tag := Crypto.hmac hash key data
  let length := if hash.outputLen = 20 then 12 else 16
  return tag.take (min length tag.length)

def verifyIntegrity (algorithm : IntegrityAlgorithm) (key data expected : Octets) :
    Except IpsecError Unit := do
  let actual ← integrity algorithm key data
  if actual.length = expected.length ∧ actual = expected then pure ()
  else throw (.authentication "IKE integrity check failed")

def gcmNonce (algorithm : EncryptionAlgorithm) (key iv : Octets) : Except IpsecError Octets :=
  let salt := key.drop algorithm.keyLen
  if salt.length ≠ 4 ∨ iv.length ≠ 8 then
    .error (.internal "invalid IKE AEAD key or IV length")
  else .ok (salt ++ iv)

def encryptGcm (algorithm : EncryptionAlgorithm) (key iv plaintext aad : Octets) :
    Except IpsecError Octets := do
  let nonce ← gcmNonce algorithm key iv
  match Crypto.gcmSeal (key.take algorithm.keyLen) nonce aad plaintext with
  | some output => return output
  | none => throw (.internal "AEAD encryption failed")

def decryptGcm (algorithm : EncryptionAlgorithm) (key iv ciphertext aad : Octets) :
    Except IpsecError Octets := do
  let nonce ← gcmNonce algorithm key iv
  match Crypto.gcmOpen (key.take algorithm.keyLen) nonce aad ciphertext with
  | some plaintext => return plaintext
  | none => throw (.authentication "IKE AEAD authentication failed")

def encryptCbc (algorithm : EncryptionAlgorithm) (key iv plaintext : Octets) :
    Except IpsecError Octets := do
  if plaintext.length % 16 ≠ 0 then
    throw (.internal "AES-CBC plaintext is not block aligned")
  if iv.length ≠ 16 then
    throw (.internal "invalid AES-CBC IV length")
  if key.length ≠ algorithm.keyLen then
    throw (.internal "invalid AES key")
  return Crypto.cbcEncrypt key iv plaintext

def decryptCbc (algorithm : EncryptionAlgorithm) (key iv ciphertext : Octets) :
    Except IpsecError Octets := do
  if ciphertext.length % 16 ≠ 0 ∨ ciphertext.isEmpty then
    throw (.ike "invalid AES-CBC ciphertext length")
  if iv.length ≠ 16 then
    throw (.internal "invalid AES-CBC IV length")
  if key.length ≠ algorithm.keyLen then
    throw (.internal "invalid AES key")
  return Crypto.cbcDecrypt key iv ciphertext

def encrypt (algorithm : EncryptionAlgorithm) (key iv plaintext aad : Octets) :
    Except IpsecError Octets :=
  if algorithm.isAead then encryptGcm algorithm key iv plaintext aad
  else encryptCbc algorithm key iv plaintext

def decrypt (algorithm : EncryptionAlgorithm) (key iv ciphertext aad : Octets) :
    Except IpsecError Octets :=
  if algorithm.isAead then decryptGcm algorithm key iv ciphertext aad
  else decryptCbc algorithm key iv ciphertext

def modpPrime : Nat :=
  0xFFFFFFFFFFFFFFFFC90FDAA22168C234C4C6628B80DC1CD129024E088A67CC74020BBEA63B139B22514A08798E3404DDEF9519B3CD3A431B302B0A6DF25F14374FE1356D6D51C245E485B576625E7EC6F44C42E9A637ED6B0BFF5CB6F406B7EDEE386BFB5A899FA5AE9F24117C4B1FE649286651ECE45B3DC2007CB8A163BF0598DA48361C55D39A69163FA8FD24CF5F83655D23DCA3AD961C62F356208552BB9ED529077096966D670C354E4ABC9804F1746C08CA18217C32905E462E36CE3BE39E772C180E86039B2783A2EC07A28FB5C55DF06F4C52C9DE2BCBF6955817183995497CEA956AE515D2261898FA051015728E5A8AACAA68FFFFFFFFFFFFFFFF

inductive DhPrivate
  | ephemeral (secret : Octets)
  | modp (exponent : Nat)
  deriving DecidableEq, Repr

structure DhKeyPair where
  group : DhGroup
  publicKey : Octets
  privateKey : DhPrivate
  deriving DecidableEq, Repr

namespace DhKeyPair

def agree (pair : DhKeyPair) (peerPublic : Octets) : Except IpsecError Octets :=
  match pair.privateKey with
  | .ephemeral secret =>
    match Crypto.dhAgree pair.group secret peerPublic with
    | some shared => .ok shared
    | none => .error (.ike "Diffie-Hellman key agreement failed")
  | .modp exponent =>
    let peer := beNat peerPublic
    if peer ≤ 1 ∨ peer ≥ modpPrime - 1 then
      .error (.ike "peer MODP public value is out of range")
    else .ok (beOctets 256 (peer ^ exponent % modpPrime))

def generate (group : DhGroup) (random : Except IpsecError Octets) :
    Except IpsecError DhKeyPair := do
  match group with
  | .modp2048 =>
    let exponent := beNat (← random) % (modpPrime - 2) + 2
    return ⟨group, beOctets 256 (2 ^ exponent % modpPrime), .modp exponent⟩
  | .none => throw (.ike "cannot generate a key pair for DH group NONE")
  | _ =>
    let secret ← random
    return ⟨group, Crypto.dhPublic group secret, .ephemeral secret⟩

end DhKeyPair

def natDetectionHash (spiI spiR : UInt64) (address : IpAddr) (port : UInt16) : Octets :=
  Crypto.sha1 (be64 spiI ++ be64 spiR ++ address.octets ++ be16 port)

def natDetectionMatches (notifyData : Octets) (spiI spiR : UInt64) (address : IpAddr)
    (port : UInt16) : Bool :=
  let expected := natDetectionHash spiI spiR address port
  expected.length == notifyData.length && expected == notifyData

end

end Shuli.Ipsec
