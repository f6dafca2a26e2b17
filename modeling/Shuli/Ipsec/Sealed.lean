import Shuli.Ipsec.LawfulCrypto
import Shuli.Ipsec.RoundTrip
import Shuli.Ipsec.Sa

/-!
Sealed messages. `IsSealed` names the parts a successful `sealMessage` puts together: the encoded
chain, the IV, the ciphertext of the padded chain, and the ICV. An SK payload is decoded with its
generic header, and opening it strips the parts off again.
-/

namespace Shuli.Ipsec

def paddingLen (encryption : EncryptionAlgorithm) (length : Nat) : Nat :=
  if encryption.isAead then 0
  else (encryption.blockLen - ((length + 1) % encryption.blockLen)) % encryption.blockLen

def padded (encryption : EncryptionAlgorithm) (chain : Octets) : Octets :=
  chain ++ List.replicate (paddingLen encryption chain.length) 0 ++
    [UInt8.ofNat (paddingLen encryption chain.length)]

theorem paddingLen_lt (encryption : EncryptionAlgorithm) (length : Nat) :
    paddingLen encryption length < 16 := by
  unfold paddingLen EncryptionAlgorithm.blockLen
  split <;> omega

theorem padded_length (encryption : EncryptionAlgorithm) (chain : Octets) :
    (padded encryption chain).length = chain.length + paddingLen encryption chain.length + 1 := by
  simp [padded, Nat.add_assoc]

theorem padded_aligned {encryption : EncryptionAlgorithm} (plain : encryption.isAead = false)
    (chain : Octets) : (padded encryption chain).length % 16 = 0 := by
  rw [padded_length, paddingLen, if_neg (by simp [plain]), EncryptionAlgorithm.blockLen]
  omega

def decodePlaintext (next : UInt8) (plaintext : Octets) : Except IpsecError (List Payload) := do
  let some padding := plaintext.getLast?
    | throw (.ike "empty encrypted IKE payload")
  if padding.toNat + 1 > plaintext.length then
    throw (.ike "invalid IKE padding length")
  decodeChain next (plaintext.take (plaintext.length - padding.toNat - 1))

theorem decodePlaintext_padded (next : UInt8) (encryption : EncryptionAlgorithm) (chain : Octets) :
    decodePlaintext next (padded encryption chain) = decodeChain next chain := by
  have small := paddingLen_lt encryption chain.length
  have length := padded_length encryption chain
  have count : (UInt8.ofNat (paddingLen encryption chain.length)).toNat =
      paddingLen encryption chain.length := toNat_ofNat8 (by omega)
  have last : (padded encryption chain).getLast? =
      some (UInt8.ofNat (paddingLen encryption chain.length)) := by simp [padded]
  have fits : ¬paddingLen encryption chain.length + 1 > (padded encryption chain).length := by omega
  have kept : (padded encryption chain).length - paddingLen encryption chain.length - 1 =
      chain.length := by omega
  have stripped : (padded encryption chain).take chain.length = chain := by
    rw [padded, List.append_assoc]
    exact List.take_left' rfl
  simp only [decodePlaintext, last, count, if_neg fits, kept, stripped]

def sealedTotal (encryption : EncryptionAlgorithm) (integrityAlgorithm : IntegrityAlgorithm)
    (chain : Octets) : Nat :=
  ikeHeaderLen + 4 + encryption.ivLen +
    (if encryption.isAead then (padded encryption chain).length + 16
      else (padded encryption chain).length) + integrityAlgorithm.outputLen

def IkeHeader.sealed (header : IkeHeader) (length : Nat) : IkeHeader :=
  { header with nextPayload := PayloadType.SK, length := UInt32.ofNat length }

def skMessage (header : IkeHeader) (next reserved : UInt8) (data : Octets) : Octets :=
  header.encode ++ ([next, reserved] ++ be16 (UInt16.ofNat (4 + data.length)) ++ data)

theorem skMessage_length (header : IkeHeader) (next reserved : UInt8) (data : Octets) :
    (skMessage header next reserved data).length = ikeHeaderLen + (4 + data.length) := by
  rw [skMessage, List.length_append, List.length_append]
  rfl

/-- An SK payload ends its chain; its reserved octet is not looked at. -/
theorem decode_skMessage {header : IkeHeader} {next reserved : UInt8} {data : Octets}
    (version : header.version &&& 0xf0 = ikeVersion2) (kind : header.nextPayload = PayloadType.SK)
    (length : header.length.toNat = ikeHeaderLen + (4 + data.length)) (fits : 4 + data.length ≤ 65535) :
    Message.decode (skMessage header next reserved data) = .ok ⟨header, [.encrypted next data]⟩ := by
  let front : Octets := [next, reserved] ++ be16 (UInt16.ofNat (4 + data.length))
  have four : front.length = 4 := rfl
  have total : (front ++ data).length = 4 + data.length := by rw [List.length_append, four]
  have size : ofBe16 (slice (front ++ data) 2 4) = UInt16.ofNat (4 + data.length) := ofBe16_be16 _
  have valid : ¬(4 + data.length < 4 ∨ 4 + data.length > (front ++ data).length) := by omega
  have body : slice (front ++ data) 4 (4 + data.length) = data := by
    rw [slice, List.take_of_length_le (Nat.le_of_eq total), List.drop_left' four]
  have behind : (front ++ data).drop (4 + data.length) = [] :=
    List.drop_eq_nil_of_le (Nat.le_of_eq total)
  have loop : decodeChainLoop ((front ++ data).length + 1) PayloadType.SK (front ++ data) =
      .ok ([.encrypted next data], []) := by
    simp only [decodeChainLoop, size, toNat_ofNat16 (Nat.lt_succ_of_le fits),
      if_neg valid, body, behind]
    rfl
  apply Message.decode_append version
  · rw [length, total]
  · change decodeChain header.nextPayload (front ++ data) = _
    rw [decodeChain, kind, loop]
    rfl

def macInput (header : IkeHeader) (next : UInt8) (data : Octets) (icvLen : Nat) : Octets :=
  header.encode ++ [next, 0] ++ be16 (UInt16.ofNat (4 + data.length)) ++
    data.take (data.length - icvLen)

def sealedFront (header : IkeHeader) (payloads : List Payload) (iv ciphertext : Octets)
    (icvLen : Nat) : Octets :=
  header.encode ++ [firstType payloads, 0] ++
    be16 (UInt16.ofNat (4 + iv.length + ciphertext.length + icvLen)) ++ iv ++ ciphertext

def finishSeal (total : Nat) (message : Octets) : Except IpsecError Octets := do
  if message.length ≠ total then
    throw (.internal "IKE encrypted message length mismatch")
  return message

theorem finishSeal_eq_ok {total : Nat} {message bytes : Octets} :
    finishSeal total message = .ok bytes ↔ message.length = total ∧ message = bytes := by
  simp only [finishSeal, Except.guard_eq_ok, not_not, pure, Except.pure, Except.ok.injEq]

theorem sealedFront_eq_macInput (header : IkeHeader) (payloads : List Payload) (iv ciphertext icv : Octets) :
    sealedFront header payloads iv ciphertext icv.length =
      macInput header (firstType payloads) (iv ++ ciphertext ++ icv) icv.length := by
  have content : (iv ++ ciphertext ++ icv).take ((iv ++ ciphertext ++ icv).length - icv.length) =
      iv ++ ciphertext := by
    rw [List.length_append, Nat.add_sub_cancel]
    exact List.take_left' rfl
  rw [macInput, content]
  simp only [sealedFront, List.length_append, List.append_assoc, Nat.add_assoc]

theorem sealedFront_append (header : IkeHeader) (payloads : List Payload) (iv ciphertext icv : Octets) :
    sealedFront header payloads iv ciphertext icv.length ++ icv =
      skMessage header (firstType payloads) 0 (iv ++ ciphertext ++ icv) := by
  simp only [sealedFront, skMessage, List.append_assoc, List.length_append, Nat.add_assoc]

def ciphertextOf (data : Octets) (ivLen icvLen : Nat) : Octets :=
  (data.drop ivLen).take ((data.drop ivLen).length - icvLen)

/-- The parts of an SK payload's data. -/
theorem parts_of_append {iv : Octets} (ciphertext : Octets) {icv : Octets} {ivLen icvLen : Nat}
    (first : iv.length = ivLen) (last : icv.length = icvLen) :
    (iv ++ ciphertext ++ icv).take ivLen = iv ∧
      ciphertextOf (iv ++ ciphertext ++ icv) ivLen icvLen = ciphertext ∧
      (iv ++ ciphertext ++ icv).drop ((iv ++ ciphertext ++ icv).length - icvLen) = icv := by
  have rest : (iv ++ ciphertext ++ icv).drop ivLen = ciphertext ++ icv := by
    rw [List.append_assoc]
    exact List.drop_left' first
  refine ⟨?_, ?_, ?_⟩
  · rw [List.append_assoc]
    exact List.take_left' first
  · rw [ciphertextOf, rest, List.length_append, last, Nat.add_sub_cancel]
    exact List.take_left' rfl
  · rw [List.length_append, last, Nat.add_sub_cancel]
    exact List.drop_left' rfl

section

variable [Crypto]

structure IsSealed (header : IkeHeader) (payloads : List Payload) (encryption : EncryptionAlgorithm)
    (integrityAlgorithm : IntegrityAlgorithm) (keyE keyA bytes chain iv ciphertext icv : Octets) :
    Prop where
  encoded : encodeChain payloads = .ok chain
  encrypted : encrypt encryption keyE iv (padded encryption chain)
    (header.sealed bytes.length).encode = .ok ciphertext
  ivLen : iv.length = encryption.ivLen
  icvLen : icv.length = integrityAlgorithm.outputLen
  ciphertextLen : encryption.isAead = false → ciphertext.length = (padded encryption chain).length
  tagged : integrityAlgorithm ≠ .none → integrity integrityAlgorithm keyA
    (macInput (header.sealed bytes.length) (firstType payloads) (iv ++ ciphertext ++ icv)
      integrityAlgorithm.outputLen) = .ok icv
  bytes : bytes = skMessage (header.sealed bytes.length) (firstType payloads) 0
    (iv ++ ciphertext ++ icv)

theorem integrity_length {algorithm : IntegrityAlgorithm} {key data icv : Octets}
    (made : integrity algorithm key data = .ok icv) : icv.length = algorithm.outputLen := by
  cases algorithm with
  | none => cases made
  | hmacSha1_96 =>
    obtain rfl := Except.ok.inj made
    simp [Crypto.hmac_length, HashAlgorithm.outputLen, IntegrityAlgorithm.outputLen]
  | hmacSha2_256_128 =>
    obtain rfl := Except.ok.inj made
    simp [Crypto.hmac_length, HashAlgorithm.outputLen, IntegrityAlgorithm.outputLen]

variable {algorithm : EncryptionAlgorithm} {key iv plaintext aad ciphertext : Octets}

theorem encryptGcm_eq_ok :
    encryptGcm algorithm key iv plaintext aad = .ok ciphertext ↔
      (key.drop algorithm.keyLen).length = 4 ∧ iv.length = 8 ∧
        Crypto.gcmSeal (key.take algorithm.keyLen) (key.drop algorithm.keyLen ++ iv) aad plaintext =
          some ciphertext := by
  rw [encryptGcm, gcmNonce]
  by_cases lengths : (key.drop algorithm.keyLen).length ≠ 4 ∨ iv.length ≠ 8
  · simp only [if_pos lengths]
    constructor
    · intro made
      cases made
    · rintro ⟨salt, nonce, -⟩
      simp [salt, nonce] at lengths
  · simp only [if_neg lengths, bind, Except.bind]
    obtain ⟨salt, nonce⟩ := not_or.mp lengths
    cases Crypto.gcmSeal (key.take algorithm.keyLen) (key.drop algorithm.keyLen ++ iv) aad plaintext with
    | none => simp
    | some output => simp [not_not.mp salt, not_not.mp nonce, pure, Except.pure]

theorem decryptGcm_eq_ok :
    decryptGcm algorithm key iv ciphertext aad = .ok plaintext ↔
      (key.drop algorithm.keyLen).length = 4 ∧ iv.length = 8 ∧
        Crypto.gcmOpen (key.take algorithm.keyLen) (key.drop algorithm.keyLen ++ iv) aad ciphertext =
          some plaintext := by
  rw [decryptGcm, gcmNonce]
  by_cases lengths : (key.drop algorithm.keyLen).length ≠ 4 ∨ iv.length ≠ 8
  · simp only [if_pos lengths]
    constructor
    · intro made
      cases made
    · rintro ⟨salt, nonce, -⟩
      simp [salt, nonce] at lengths
  · simp only [if_neg lengths, bind, Except.bind]
    obtain ⟨salt, nonce⟩ := not_or.mp lengths
    cases Crypto.gcmOpen (key.take algorithm.keyLen) (key.drop algorithm.keyLen ++ iv) aad ciphertext with
    | none => simp
    | some output => simp [not_not.mp salt, not_not.mp nonce, pure, Except.pure]

theorem encryptCbc_eq_ok {key iv plaintext ciphertext : Octets} :
    encryptCbc algorithm key iv plaintext = .ok ciphertext ↔
      plaintext.length % 16 = 0 ∧ iv.length = 16 ∧ key.length = algorithm.keyLen ∧
        Crypto.cbcEncrypt key iv plaintext = ciphertext := by
  simp only [encryptCbc, Except.guard_eq_ok, not_not, pure, Except.pure, Except.ok.injEq]

theorem decryptCbc_eq_ok {key iv plaintext ciphertext : Octets} :
    decryptCbc algorithm key iv ciphertext = .ok plaintext ↔
      (ciphertext.length % 16 = 0 ∧ ciphertext ≠ []) ∧ iv.length = 16 ∧
        key.length = algorithm.keyLen ∧ Crypto.cbcDecrypt key iv ciphertext = plaintext := by
  simp only [decryptCbc, Except.guard_eq_ok, not_or, not_not, pure, Except.pure, Except.ok.injEq,
    List.isEmpty_iff]

theorem encrypt_iv (made : encrypt algorithm key iv plaintext aad = .ok ciphertext) :
    iv.length = algorithm.ivLen := by
  unfold encrypt at made
  unfold EncryptionAlgorithm.ivLen
  split at made
  · rw [if_pos ‹_›]
    exact (encryptGcm_eq_ok.mp made).2.1
  · rw [if_neg ‹_›]
    exact (encryptCbc_eq_ok.mp made).2.1

/-- What was encrypted is decrypted, for a ciphertext of whole blocks where the mode needs it. -/
theorem decrypt_of_encrypt [LawfulCrypto] (made : encrypt algorithm key iv plaintext aad = .ok ciphertext)
    (blocks : algorithm.isAead = false → ciphertext.length % 16 = 0 ∧ ciphertext ≠ []) :
    decrypt algorithm key iv ciphertext aad = .ok plaintext := by
  unfold encrypt at made
  unfold decrypt
  split at made
  · rw [if_pos ‹_›]
    obtain ⟨salt, nonce, sealed⟩ := encryptGcm_eq_ok.mp made
    exact decryptGcm_eq_ok.mpr ⟨salt, nonce, LawfulCrypto.gcm_open_seal sealed⟩
  · rw [if_neg ‹_›]
    obtain ⟨aligned, ivLen, keyLen, rfl⟩ := encryptCbc_eq_ok.mp made
    exact decryptCbc_eq_ok.mpr ⟨blocks (Bool.eq_false_iff.mpr ‹_›), ivLen, keyLen,
      LawfulCrypto.cbc_decrypt_encrypt key iv plaintext ivLen aligned⟩

theorem sealMessage_eq (header : IkeHeader) (payloads : List Payload) (encryption : EncryptionAlgorithm)
    (integrityAlgorithm : IntegrityAlgorithm) (keyE keyA : Octets) (drawIv : Nat → Except IpsecError Octets) :
    sealMessage header payloads encryption integrityAlgorithm keyE keyA drawIv = (do
      let chain ← encodeChain payloads
      let iv ← drawIv encryption.ivLen
      let total := sealedTotal encryption integrityAlgorithm chain
      let ciphertext ← encrypt encryption keyE iv (padded encryption chain)
        (header.sealed total).encode
      let front := sealedFront (header.sealed total) payloads iv ciphertext
        integrityAlgorithm.outputLen
      if integrityAlgorithm ≠ .none then
        let icv ← integrity integrityAlgorithm keyA front
        finishSeal total (front ++ icv)
      else finishSeal total (front ++ [])) := by
  refine congrArg (encodeChain payloads >>= ·) (funext fun chain => ?_)
  -- fold the pieces first: comparing the whole terms would unfold the header's octets
  have plaintext : chain ++ List.replicate (if encryption.isAead then 0 else
      (encryption.blockLen - ((chain.length + 1) % encryption.blockLen)) % encryption.blockLen) 0 ++
      [UInt8.ofNat (if encryption.isAead then 0 else
        (encryption.blockLen - ((chain.length + 1) % encryption.blockLen)) % encryption.blockLen)] =
      padded encryption chain := rfl
  have total : ikeHeaderLen + 4 + encryption.ivLen +
      (if encryption.isAead then (padded encryption chain).length + 16
        else (padded encryption chain).length) + integrityAlgorithm.outputLen =
      sealedTotal encryption integrityAlgorithm chain := rfl
  simp only [plaintext, total]
  generalize sealedTotal encryption integrityAlgorithm chain = total
  simp only [pure_bind]
  rfl

/-- A successful seal puts the parts of a sealed message together. -/
theorem sealMessage_isSealed {header : IkeHeader} {payloads : List Payload} {encryption : EncryptionAlgorithm}
    {integrityAlgorithm : IntegrityAlgorithm} {keyE keyA bytes : Octets} {drawIv : Nat → Except IpsecError Octets}
    (made : sealMessage header payloads encryption integrityAlgorithm keyE keyA drawIv = .ok bytes) :
    ∃ chain iv ciphertext icv, IsSealed header payloads encryption integrityAlgorithm keyE keyA bytes
      chain iv ciphertext icv := by
  rw [sealMessage_eq] at made
  obtain ⟨chain, encoded, made⟩ := Except.bind_eq_ok.mp made
  obtain ⟨iv, -, made⟩ := Except.bind_eq_ok.mp made
  obtain ⟨ciphertext, encrypted, made⟩ := Except.bind_eq_ok.mp made
  obtain ⟨icv, icvLen, tagged, finished⟩ : ∃ icv, icv.length = integrityAlgorithm.outputLen ∧
      (integrityAlgorithm ≠ .none → integrity integrityAlgorithm keyA
        (sealedFront (header.sealed (sealedTotal encryption integrityAlgorithm chain)) payloads iv
          ciphertext integrityAlgorithm.outputLen) = .ok icv) ∧
      finishSeal (sealedTotal encryption integrityAlgorithm chain)
        (sealedFront (header.sealed (sealedTotal encryption integrityAlgorithm chain)) payloads iv
          ciphertext integrityAlgorithm.outputLen ++ icv) = .ok bytes := by
    by_cases bare : integrityAlgorithm = .none
    · rw [if_neg (not_not_intro bare)] at made
      exact ⟨[], by rw [bare]; rfl, fun some => absurd bare some, made⟩
    · rw [if_pos bare] at made
      obtain ⟨icv, tagged, made⟩ := Except.bind_eq_ok.mp made
      exact ⟨icv, integrity_length tagged, fun _ => tagged, made⟩
  obtain ⟨length, joined⟩ := finishSeal_eq_ok.mp finished
  rw [joined] at length
  rw [← length, ← icvLen, sealedFront_eq_macInput] at tagged
  rw [← length, ← icvLen, sealedFront_append] at joined
  rw [← length] at encrypted
  have ivLen := encrypt_iv encrypted
  refine ⟨chain, iv, ciphertext, icv, encoded, encrypted, ivLen, icvLen, ?_, ?_, joined.symm⟩
  · intro plain
    have size := congrArg List.length joined
    rw [skMessage_length, length, sealedTotal, if_neg (by simp [plain]), List.length_append,
      List.length_append] at size
    omega
  · rwa [← icvLen]

theorem verifyIntegrity_eq_ok {algorithm : IntegrityAlgorithm} {key data expected : Octets} :
    verifyIntegrity algorithm key data expected = .ok () ↔ integrity algorithm key data = .ok expected := by
  unfold verifyIntegrity
  cases integrity algorithm key data with
  | error failure => simp [bind, Except.bind]
  | ok actual =>
    by_cases same : actual = expected
    · simp [bind, Except.bind, same, pure, Except.pure]
    · simp [bind, Except.bind, same]

/-- Everything a successful opening has checked. -/
theorem openMessage_eq_ok {header : IkeHeader} {next : UInt8} {data : Octets} {encryption : EncryptionAlgorithm}
    {integrityAlgorithm : IntegrityAlgorithm} {keyE keyA : Octets} {payloads : List Payload} :
    openMessage header (.encrypted next data) encryption integrityAlgorithm keyE keyA = .ok payloads ↔
      encryption.ivLen + integrityAlgorithm.outputLen ≤ data.length ∧
      (integrityAlgorithm ≠ .none → integrity integrityAlgorithm keyA
        (macInput header next data integrityAlgorithm.outputLen) =
          .ok (data.drop (data.length - integrityAlgorithm.outputLen))) ∧
      ∃ plaintext, decrypt encryption keyE (data.take encryption.ivLen)
        (ciphertextOf data encryption.ivLen integrityAlgorithm.outputLen) header.encode =
          .ok plaintext ∧ decodePlaintext next plaintext = .ok payloads := by
  have finish : (decrypt encryption keyE (data.take encryption.ivLen)
      (ciphertextOf data encryption.ivLen integrityAlgorithm.outputLen) header.encode >>=
        decodePlaintext next) = .ok payloads ↔ ∃ plaintext, decrypt encryption keyE
      (data.take encryption.ivLen) (ciphertextOf data encryption.ivLen integrityAlgorithm.outputLen)
        header.encode = .ok plaintext ∧ decodePlaintext next plaintext = .ok payloads :=
    Except.bind_eq_ok
  rw [← finish, ← Nat.not_lt, openMessage]
  rw [Except.guard_eq_ok]
  refine and_congr_right fun _ => ?_
  by_cases bare : integrityAlgorithm = .none
  · rw [if_neg (not_not_intro bare)]
    exact ⟨fun opened => ⟨fun some => absurd bare some, opened⟩, fun opened => opened.2⟩
  · rw [if_pos bare, Except.bind_eq_ok]
    constructor
    · rintro ⟨⟨⟩, verified, opened⟩
      exact ⟨fun _ => verifyIntegrity_eq_ok.mp verified, opened⟩
    · rintro ⟨verified, opened⟩
      exact ⟨(), verifyIntegrity_eq_ok.mpr (verified bare), opened⟩


variable [LawfulCrypto] {header : IkeHeader} {payloads : List Payload}
  {encryption : EncryptionAlgorithm} {integrityAlgorithm : IntegrityAlgorithm}
  {keyE keyA bytes chain iv ciphertext icv : Octets}

theorem IsSealed.decrypted (parts : IsSealed header payloads encryption integrityAlgorithm keyE keyA
    bytes chain iv ciphertext icv) :
    decrypt encryption keyE iv ciphertext (header.sealed bytes.length).encode =
      .ok (padded encryption chain) := by
  refine decrypt_of_encrypt parts.encrypted fun plain => ?_
  have length := parts.ciphertextLen plain
  have aligned := padded_aligned plain chain
  have positive := padded_length encryption chain
  refine ⟨by rw [length, aligned], fun empty => ?_⟩
  rw [empty, List.length_nil] at length
  omega

/-- A sealed payload opens under any type that its ICV, if it has one, was computed for. -/
theorem IsSealed.opens (parts : IsSealed header payloads encryption integrityAlgorithm keyE keyA bytes
    chain iv ciphertext icv) {next : UInt8}
    (covered : integrityAlgorithm ≠ .none → next = firstType payloads) {opened : List Payload}
    (decoded : decodeChain next chain = .ok opened) :
    openMessage (header.sealed bytes.length) (.encrypted next (iv ++ ciphertext ++ icv)) encryption
      integrityAlgorithm keyE keyA = .ok opened := by
  obtain ⟨ivTaken, body, tag⟩ := parts_of_append ciphertext parts.ivLen parts.icvLen
  refine openMessage_eq_ok.mpr ⟨?_, ?_, padded encryption chain, ?_, ?_⟩
  · rw [List.length_append, List.length_append, parts.ivLen, parts.icvLen]
    omega
  · intro some
    rw [covered some, tag]
    exact parts.tagged some
  · rw [ivTaken, body]
    exact parts.decrypted
  · rw [decodePlaintext_padded, decoded]

omit [LawfulCrypto] in
/-- A sealed message of a version 2 header is decoded, also with other octets in front of the length
of its SK payload. -/
theorem IsSealed.decoded (parts : IsSealed header payloads encryption integrityAlgorithm keyE keyA
    bytes chain iv ciphertext icv) (version : header.version &&& 0xf0 = ikeVersion2)
    (fits : bytes.length ≤ ikeHeaderLen + 65535) (next reserved : UInt8) :
    Message.decode (skMessage (header.sealed bytes.length) next reserved (iv ++ ciphertext ++ icv)) =
      .ok ⟨header.sealed bytes.length, [.encrypted next (iv ++ ciphertext ++ icv)]⟩ := by
  have length : bytes.length = ikeHeaderLen + (4 + (iv ++ ciphertext ++ icv).length) := by
    conv_lhs => rw [parts.bytes]
    exact skMessage_length _ _ _ _
  have small : bytes.length < 2 ^ 32 := by
    unfold ikeHeaderLen at fits
    omega
  apply decode_skMessage
  · exact version
  · rfl
  · rw [← length]
    exact UInt32.toNat_ofNat_of_lt' small
  · omega

/-- A sealed message is decoded into one encrypted payload, which opens to what was sealed. -/
theorem sealed_message_opens {drawIv : Nat → Except IpsecError Octets}
    (made : sealMessage header payloads encryption integrityAlgorithm keyE keyA drawIv = .ok bytes)
    (version : header.version &&& 0xf0 = ikeVersion2) (formed : ∀ payload ∈ payloads, payload.WellFormed)
    (fits : bytes.length ≤ ikeHeaderLen + 65535) :
    ∃ decodedHeader next data,
      Message.decode bytes = .ok ⟨decodedHeader, [.encrypted next data]⟩ ∧
      openMessage decodedHeader (.encrypted next data) encryption integrityAlgorithm keyE keyA =
        .ok payloads := by
  obtain ⟨chain, iv, ciphertext, icv, parts⟩ := sealMessage_isSealed made
  refine ⟨header.sealed bytes.length, firstType payloads, iv ++ ciphertext ++ icv, ?_, ?_⟩
  · conv_lhs => rw [parts.bytes]
    exact parts.decoded version fits _ _
  · exact parts.opens (fun _ => rfl) (decodeChain_encodeChain formed parts.encoded)

end

def zeroIv (length : Nat) : Except IpsecError Octets := .ok (List.replicate length 0)

theorem exists_sealed {made : Except IpsecError Octets}
    (fits : (made.toOption.any fun bytes => decide (bytes.length ≤ ikeHeaderLen + 65535)) = true) :
    ∃ bytes, made = .ok bytes ∧ bytes.length ≤ ikeHeaderLen + 65535 := by
  cases made with
  | error failure => cases fits
  | ok bytes => exact ⟨bytes, rfl, of_decide_eq_true fits⟩

def sampleSealed : Except IpsecError Octets :=
  @sealMessage checksumCrypto sampleMessage.header sampleMessage.payloads .aesCbc128 .hmacSha1_96
    (List.replicate 16 1) [2] zeroIv

/-- The sample payloads open again. -/
theorem sealed_message_opens_sample :
    ∃ bytes, sampleSealed = .ok bytes ∧
      ∃ header next data, Message.decode bytes = .ok ⟨header, [.encrypted next data]⟩ ∧
        @openMessage checksumCrypto header (.encrypted next data) .aesCbc128 .hmacSha1_96
          (List.replicate 16 1) [2] = .ok sampleMessage.payloads := by
  obtain ⟨bytes, made, fits⟩ : ∃ bytes, sampleSealed = .ok bytes ∧ bytes.length ≤ _ :=
    exists_sealed (by decide +kernel)
  exact ⟨bytes, made, @sealed_message_opens checksumCrypto checksumCrypto_lawful _ _ _ _ _ _ _ _ made
    (by decide) (fun payload member => (sampleMessage_wellFormed.payloads payload member).1) fits⟩

/-- A header of another major version is sealed as it is, and its message then refused. -/
theorem sealed_version_refused :
    ∃ bytes, @sealMessage checksumCrypto { sampleMessage.header with version := 0x10 } [] .aesGcm16_128
        .none (List.replicate 20 1) [] zeroIv = .ok bytes ∧
      Message.decode bytes = .error (.ike "unsupported IKE major version") := by
  exact ⟨_, rfl, by decide +kernel⟩

end Shuli.Ipsec
