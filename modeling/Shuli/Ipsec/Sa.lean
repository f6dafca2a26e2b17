import Shuli.Ipsec.Crypto

/-!
IKE SA keys, key derivation, and the protected message format (`sa.rs`), with the AUTH
octets that the key schedule feeds (`auth/mod.rs`, `auth/psk.rs`).
-/

namespace Shuli.Ipsec

inductive Role
  | initiator | responder
  deriving DecidableEq, Repr

def Role.isInitiator (role : Role) : Bool := role == .initiator

structure IkeKeys where
  skD : Octets
  skAi : Octets
  skAr : Octets
  skEi : Octets
  skEr : Octets
  skPi : Octets
  skPr : Octets
  deriving DecidableEq, Repr

structure ChildSaHandle where
  localSpi : UInt32
  remoteSpi : UInt32
  encryption : EncryptionAlgorithm
  integrity : Option IntegrityAlgorithm
  esn : Bool
  mode : ChildMode
  localSelectors : List TrafficSelector
  remoteSelectors : List TrafficSelector
  outboundKey : Octets
  outboundIntegrityKey : Option Octets
  inboundKey : Octets
  inboundIntegrityKey : Option Octets
  deriving DecidableEq, Repr

namespace IkeKeys

def outboundEncryption (keys : IkeKeys) (role : Role) : Octets :=
  if role.isInitiator then keys.skEi else keys.skEr

def inboundEncryption (keys : IkeKeys) (role : Role) : Octets :=
  if role.isInitiator then keys.skEr else keys.skEi

def outboundIntegrity (keys : IkeKeys) (role : Role) : Octets :=
  if role.isInitiator then keys.skAi else keys.skAr

def inboundIntegrity (keys : IkeKeys) (role : Role) : Octets :=
  if role.isInitiator then keys.skAr else keys.skAi

end IkeKeys

section

variable [Crypto]

def IkeKeys.derive (prfAlgorithm : PrfAlgorithm) (sharedSecret nonceI nonceR : Octets)
    (spiI spiR : UInt64) (encryption : EncryptionAlgorithm) (integrity : IntegrityAlgorithm) :
    IkeKeys :=
  let seed := nonceI ++ nonceR ++ be64 spiI ++ be64 spiR
  let skeyseed := prf prfAlgorithm (nonceI ++ nonceR) sharedSecret
  let prfLen := prfAlgorithm.keyLen
  let encLen := encryption.materialLen
  let integLen := integrity.keyLen
  let total := prfLen * 3 + encLen * 2 + integLen * 2
  let material := prfPlus prfAlgorithm skeyseed seed total
  let take (offset length : Nat) := slice material offset (offset + length)
  { skD := take 0 prfLen
    skAi := take prfLen integLen
    skAr := take (prfLen + integLen) integLen
    skEi := take (prfLen + 2 * integLen) encLen
    skEr := take (prfLen + 2 * integLen + encLen) encLen
    skPi := take (prfLen + 2 * integLen + 2 * encLen) prfLen
    skPr := take (2 * prfLen + 2 * integLen + 2 * encLen) prfLen }

def childSeed (nonceI nonceR : Octets) (dhShared : Option Octets) : Octets :=
  dhShared.getD [] ++ nonceI ++ nonceR

def childMaterialLen (encryption : EncryptionAlgorithm) (integrity : IntegrityAlgorithm) : Nat :=
  encryption.materialLen * 2 + integrity.keyLen * 2

def deriveChildKeys (prfAlgorithm : PrfAlgorithm) (skD nonceI nonceR : Octets)
    (dhShared : Option Octets) (role : Role) (encryption : EncryptionAlgorithm)
    (integrity : IntegrityAlgorithm) (localSpi remoteSpi : UInt32) (mode : ChildMode)
    (localSelectors remoteSelectors : List TrafficSelector) (esn : Bool) : ChildSaHandle :=
  let encLen := encryption.materialLen
  let integLen := integrity.keyLen
  let material := prfPlus prfAlgorithm skD (childSeed nonceI nonceR dhShared)
    (childMaterialLen encryption integrity)
  let encryptionI := slice material 0 encLen
  let encryptionR := slice material encLen (encLen * 2)
  let integrityI := slice material (encLen * 2) (encLen * 2 + integLen)
  let integrityR := slice material (encLen * 2 + integLen) (encLen * 2 + integLen * 2)
  let (outboundKey, inboundKey, outboundIntegrityKey, inboundIntegrityKey) :=
    if role.isInitiator then (encryptionI, encryptionR, integrityI, integrityR)
    else (encryptionR, encryptionI, integrityR, integrityI)
  { localSpi, remoteSpi, encryption
    integrity := if integrity = .none then none else some integrity
    esn, mode, localSelectors, remoteSelectors, outboundKey
    outboundIntegrityKey := if integrity ≠ .none then some outboundIntegrityKey else none
    inboundKey
    inboundIntegrityKey := if integrity ≠ .none then some inboundIntegrityKey else none }

def sealMessage (header : IkeHeader) (payloads : List Payload) (encryption : EncryptionAlgorithm)
    (integrityAlgorithm : IntegrityAlgorithm) (keyE keyA : Octets)
    (drawIv : Nat → Except IpsecError Octets) : Except IpsecError Octets := do
  let plaintext ← encodeChain payloads
  let ivLen := encryption.ivLen
  let block := encryption.blockLen
  let padding := if encryption.isAead then 0 else (block - ((plaintext.length + 1) % block)) % block
  let plaintext := plaintext ++ List.replicate padding 0 ++ [UInt8.ofNat padding]
  let ciphertextLen := if encryption.isAead then plaintext.length + 16 else plaintext.length
  let icvLen := integrityAlgorithm.outputLen
  let total := ikeHeaderLen + 4 + ivLen + ciphertextLen + icvLen
  let header := { header with nextPayload := PayloadType.SK, length := UInt32.ofNat total }
  let aad := header.encode
  let iv ← drawIv ivLen
  let ciphertext ← encrypt encryption keyE iv plaintext aad
  let first := (payloads.head?.map Payload.payloadType).getD 0
  let message := aad ++ [first, 0] ++ be16 (UInt16.ofNat (4 + iv.length + ciphertext.length + icvLen)) ++
    iv ++ ciphertext
  let icv ← if integrityAlgorithm ≠ .none then integrity integrityAlgorithm keyA message else pure []
  if (message ++ icv).length ≠ total then
    throw (.internal "IKE encrypted message length mismatch")
  return message ++ icv

def openMessage (header : IkeHeader) (encrypted : Payload) (encryption : EncryptionAlgorithm)
    (integrityAlgorithm : IntegrityAlgorithm) (keyE keyA : Octets) :
    Except IpsecError (List Payload) := do
  let .encrypted next data := encrypted
    | throw (.ike "expected an encrypted IKE payload")
  let ivLen := encryption.ivLen
  let icvLen := integrityAlgorithm.outputLen
  if data.length < ivLen + icvLen then
    throw (.ike "truncated encrypted IKE payload")
  if integrityAlgorithm ≠ .none then
    let split := data.length - icvLen
    let signed := header.encode ++ [next, 0] ++ be16 (UInt16.ofNat (4 + data.length)) ++ data.take split
    verifyIntegrity integrityAlgorithm keyA signed (data.drop split)
  let iv := data.take ivLen
  let rest := data.drop ivLen
  let ciphertext := rest.take (rest.length - icvLen)
  let plaintext ← decrypt encryption keyE iv ciphertext header.encode
  let some padding := plaintext.getLast?
    | throw (.ike "empty encrypted IKE payload")
  if padding.toNat + 1 > plaintext.length then
    throw (.ike "invalid IKE padding length")
  decodeChain next (plaintext.take (plaintext.length - padding.toNat - 1))

def authPsk : UInt8 := 2

def signedOctets (realMessage nonce : Octets) (prfAlgorithm : PrfAlgorithm) (skP id : Octets) :
    Octets :=
  realMessage ++ nonce ++ prf prfAlgorithm skP id

def keyPad : Octets :=
  [75, 101, 121, 32, 80, 97, 100, 32, 102, 111, 114, 32, 73, 75, 69, 118, 50]

def pskCompute (psk : Octets) (prfAlgorithm : PrfAlgorithm) (signed : Octets) : Octets :=
  prf prfAlgorithm (prf prfAlgorithm psk keyPad) signed

def pskVerify (psk : Octets) (prfAlgorithm : PrfAlgorithm) (signed auth : Octets) :
    Except IpsecError Unit :=
  let expected := pskCompute psk prfAlgorithm signed
  if expected.length = auth.length ∧ expected = auth then .ok ()
  else .error (.authentication "pre-shared key authentication failed")

end

end Shuli.Ipsec
