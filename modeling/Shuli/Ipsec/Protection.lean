import Shuli.Ipsec.Engine
import Shuli.Ipsec.Sealed

/-!
What the protection of an IKE message covers. The ICV of an encrypt-then-MAC suite is computed over
the whole message, but the associated data of an AEAD suite is the IKE header alone: the generic
header of the SK payload, with the type of the first inner payload, can be changed on the way. A
message is then authenticated exactly when the type does not matter.
-/

namespace Shuli.Ipsec

section

variable [Crypto]

def receiveSealed (encryption : EncryptionAlgorithm) (integrityAlgorithm : IntegrityAlgorithm)
    (keyE keyA buffer : Octets) : Except IpsecError (List Payload) := do
  let message ← Message.decode buffer
  match message.payloads.head? with
  | none => .error (.ike "empty encrypted IKE message")
  | some payload => openMessage message.header payload encryption integrityAlgorithm keyE keyA

theorem openEncrypted_eq_receiveSealed (ike : IkeRuntime) (buffer : Octets) :
    (Message.decode buffer >>= ike.openEncrypted) =
      receiveSealed ike.suite.encryption ike.suite.integrity (ike.keys.inboundEncryption ike.role)
        (ike.keys.inboundIntegrity ike.role) buffer := rfl

/-- No forgery: what the primitives accept in `received` are the octets that `bytes` fed into them. -/
structure NoForgery (encryption : EncryptionAlgorithm) (integrityAlgorithm : IntegrityAlgorithm)
    (keyE keyA bytes received : Octets) : Prop where
  mac : ∀ header next data rest,
    Message.decode received = .ok ⟨header, .encrypted next data :: rest⟩ →
    integrity integrityAlgorithm keyA (macInput header next data integrityAlgorithm.outputLen) =
      .ok (data.drop (data.length - integrityAlgorithm.outputLen)) →
    macInput header next data integrityAlgorithm.outputLen =
      bytes.take (bytes.length - integrityAlgorithm.outputLen)
  aead : encryption.isAead = true → ∀ header next data rest plaintext,
    Message.decode received = .ok ⟨header, .encrypted next data :: rest⟩ →
    decrypt encryption keyE (data.take encryption.ivLen)
      (ciphertextOf data encryption.ivLen integrityAlgorithm.outputLen) header.encode = .ok plaintext →
    header.encode = bytes.take ikeHeaderLen ∧
      data.take encryption.ivLen = (bytes.drop (ikeHeaderLen + 4)).take encryption.ivLen ∧
      ciphertextOf data encryption.ivLen integrityAlgorithm.outputLen =
        ciphertextOf (bytes.drop (ikeHeaderLen + 4)) encryption.ivLen integrityAlgorithm.outputLen

/-- Whatever an attacker makes of `bytes` is refused or opens to `payloads`. -/
def Authenticated (encryption : EncryptionAlgorithm) (integrityAlgorithm : IntegrityAlgorithm)
    (keyE keyA bytes : Octets) (payloads : List Payload) : Prop :=
  ∀ received, received ≠ bytes →
    NoForgery encryption integrityAlgorithm keyE keyA bytes received →
    ∀ opened, receiveSealed encryption integrityAlgorithm keyE keyA received = .ok opened →
      opened = payloads

omit [Crypto] in
/-- Under the type `next` the encoded chain is refused or read back as `payloads`. -/
def ReadsBack (payloads : List Payload) (next : UInt8) : Prop :=
  ∀ chain opened, encodeChain payloads = .ok chain → decodeChain next chain = .ok opened →
    opened = payloads

theorem receiveSealed_eq_ok {encryption : EncryptionAlgorithm}
    {integrityAlgorithm : IntegrityAlgorithm} {keyE keyA received : Octets} {opened : List Payload} :
    receiveSealed encryption integrityAlgorithm keyE keyA received = .ok opened ↔
      ∃ header next data rest,
        Message.decode received = .ok ⟨header, .encrypted next data :: rest⟩ ∧
        openMessage header (.encrypted next data) encryption integrityAlgorithm keyE keyA =
          .ok opened := by
  rw [receiveSealed, Except.bind_eq_ok]
  constructor
  · rintro ⟨⟨header, payloads⟩, decoded, result⟩
    match payloads, result with
    | .encrypted next data :: rest, result => exact ⟨header, next, data, rest, decoded, result⟩
  · rintro ⟨header, next, data, rest, decoded, result⟩
    exact ⟨_, decoded, result⟩

omit [Crypto] in
theorem ciphertextOf_eq (data : Octets) (ivLen icvLen : Nat) :
    ciphertextOf data ivLen icvLen = (data.take (data.length - icvLen)).drop ivLen := by
  rw [ciphertextOf, List.drop_take, List.length_drop]
  congr 1
  omega

section Parts

variable {header : IkeHeader} {payloads : List Payload} {encryption : EncryptionAlgorithm}
  {integrityAlgorithm : IntegrityAlgorithm} {keyE keyA bytes chain iv ciphertext icv : Octets}
  (parts : IsSealed header payloads encryption integrityAlgorithm keyE keyA bytes chain iv ciphertext
    icv)
include parts

/-- The sealed message as the octets fed into the primitives. -/
theorem IsSealed.pieces :
    bytes.take ikeHeaderLen = (header.sealed bytes.length).encode ∧
      bytes.drop (ikeHeaderLen + 4) = iv ++ ciphertext ++ icv ∧
      bytes.take (bytes.length - integrityAlgorithm.outputLen) =
        macInput (header.sealed bytes.length) (firstType payloads) (iv ++ ciphertext ++ icv)
          integrityAlgorithm.outputLen := by
  have whole := parts.bytes
  have front := sealedFront_append (header.sealed bytes.length) payloads iv ciphertext icv
  have covered := sealedFront_eq_macInput (header.sealed bytes.length) payloads iv ciphertext icv
  rw [← whole] at front
  generalize header.sealed bytes.length = sealedHeader at whole front covered ⊢
  have headerLen := sealedHeader.encode_length
  refine ⟨?_, ?_, ?_⟩
  · rw [whole]
    exact List.take_left' headerLen
  · rw [whole]
    rfl
  · rw [← parts.icvLen, ← covered, ← front, List.length_append, Nat.add_sub_cancel]
    exact List.take_left' rfl

theorem IsSealed.decoded_chain [LawfulCrypto] {received : IkeHeader} {next : UInt8} {data : Octets}
    {opened : List Payload} (sameHeader : received.encode = (header.sealed bytes.length).encode)
    (sameIv : data.take encryption.ivLen = iv)
    (sameCiphertext : ciphertextOf data encryption.ivLen integrityAlgorithm.outputLen = ciphertext)
    (result : openMessage received (.encrypted next data) encryption integrityAlgorithm keyE keyA =
      .ok opened) : decodeChain next chain = .ok opened := by
  obtain ⟨-, -, plaintext, decrypted, decoded⟩ := openMessage_eq_ok.mp result
  rw [sameHeader, sameIv, sameCiphertext, parts.decrypted] at decrypted
  obtain rfl : padded encryption chain = plaintext := Except.ok.inj decrypted
  rwa [decodePlaintext_padded] at decoded

/-- An accepted ICV fixes the octets of the message up to the ICV. -/
theorem IsSealed.of_mac {received : IkeHeader} {next : UInt8} {data : Octets}
    (enough : encryption.ivLen + integrityAlgorithm.outputLen ≤ data.length)
    (same : macInput received next data integrityAlgorithm.outputLen =
      macInput (header.sealed bytes.length) (firstType payloads) (iv ++ ciphertext ++ icv)
        integrityAlgorithm.outputLen) :
    received.encode = (header.sealed bytes.length).encode ∧ next = firstType payloads ∧
      data.take encryption.ivLen = iv ∧
      ciphertextOf data encryption.ivLen integrityAlgorithm.outputLen = ciphertext := by
  generalize header.sealed bytes.length = sealedHeader at same ⊢
  have content : (iv ++ ciphertext ++ icv).take ((iv ++ ciphertext ++ icv).length -
      integrityAlgorithm.outputLen) = iv ++ ciphertext := by
    rw [List.length_append, parts.icvLen, Nat.add_sub_cancel]
    exact List.take_left' rfl
  simp only [macInput, List.append_assoc] at same
  obtain ⟨sameHeader, same⟩ :=
    List.append_inj same (by rw [received.encode_length, sealedHeader.encode_length])
  obtain ⟨sameOctets, same⟩ := List.append_inj same rfl
  obtain ⟨-, sameData⟩ := List.append_inj same (by rw [be16_length, be16_length])
  rw [← List.append_assoc, content] at sameData
  have sameNext : next = firstType payloads := by simpa using sameOctets
  refine ⟨sameHeader, sameNext, ?_, ?_⟩
  · have shorter : data.take encryption.ivLen =
        (data.take (data.length - integrityAlgorithm.outputLen)).take encryption.ivLen := by
      rw [List.take_take]
      congr 1
      omega
    rw [shorter, sameData]
    exact List.take_left' parts.ivLen
  · rw [ciphertextOf_eq, sameData]
    exact List.drop_left' parts.ivLen

/-- Octets before the length of the SK payload can be changed without touching what the primitives
see, as long as the type is not covered by an ICV. -/
theorem IsSealed.noForgery (version : header.version &&& 0xf0 = ikeVersion2)
    (fits : bytes.length ≤ ikeHeaderLen + 65535) {next : UInt8} (reserved : UInt8)
    (covered : integrityAlgorithm ≠ .none → next = firstType payloads) :
    NoForgery encryption integrityAlgorithm keyE keyA bytes
      (skMessage (header.sealed bytes.length) next reserved (iv ++ ciphertext ++ icv)) := by
  obtain ⟨sealedHeader, data, front⟩ := parts.pieces
  have decoded := parts.decoded version fits next reserved
  constructor
  · intro header' next' data' rest decoded' tagged
    cases decoded.symm.trans decoded'
    by_cases bare : integrityAlgorithm = .none
    · rw [bare] at tagged
      cases tagged
    · rw [front, covered bare]
  · intro _ header' next' data' rest plaintext decoded' _
    cases decoded.symm.trans decoded'
    exact ⟨sealedHeader.symm, by rw [data], by rw [data]⟩

/-- An authenticated message reads back under each type that an attacker can give it: all types
without an ICV, its own otherwise. The received message differs in the reserved octet, too. -/
theorem IsSealed.readsBack [LawfulCrypto] (version : header.version &&& 0xf0 = ikeVersion2)
    (fits : bytes.length ≤ ikeHeaderLen + 65535)
    (holds : Authenticated encryption integrityAlgorithm keyE keyA bytes payloads) {next : UInt8}
    (covered : integrityAlgorithm ≠ .none → next = firstType payloads) :
    ReadsBack payloads next := by
  intro chain' opened encoded decoded
  obtain rfl : chain = chain' := Except.ok.inj (parts.encoded.symm.trans encoded)
  refine holds (skMessage (header.sealed bytes.length) next 1 (iv ++ ciphertext ++ icv)) ?_
    (parts.noForgery version fits 1 covered) opened ?_
  · intro same
    have octets := List.append_cancel_left (same.trans parts.bytes)
    simp at octets
  · exact receiveSealed_eq_ok.mpr ⟨_, _, _, _, parts.decoded version fits next 1,
      parts.opens covered decoded⟩

theorem IsSealed.authenticated_mac [LawfulCrypto] (some : integrityAlgorithm ≠ .none)
    (reads : ReadsBack payloads (firstType payloads)) :
    Authenticated encryption integrityAlgorithm keyE keyA bytes payloads := by
  intro received _ genuine opened result
  obtain ⟨header', next, data, rest, decoded, opens⟩ := receiveSealed_eq_ok.mp result
  obtain ⟨enough, tagged, -⟩ := openMessage_eq_ok.mp opens
  have same := genuine.mac header' next data rest decoded (tagged some)
  rw [parts.pieces.2.2] at same
  obtain ⟨sameHeader, rfl, sameIv, sameCiphertext⟩ := parts.of_mac enough same
  exact reads chain opened parts.encoded
    (parts.decoded_chain sameHeader sameIv sameCiphertext opens)

/-- Without one, an AEAD accepts every type. -/
theorem IsSealed.authenticated_aead [LawfulCrypto] (aead : encryption.isAead = true)
    (reads : ∀ next, ReadsBack payloads next) :
    Authenticated encryption integrityAlgorithm keyE keyA bytes payloads := by
  intro received _ genuine opened result
  obtain ⟨header', next, data, rest, decoded, opens⟩ := receiveSealed_eq_ok.mp result
  obtain ⟨-, -, plaintext, decrypted, -⟩ := openMessage_eq_ok.mp opens
  obtain ⟨sameHeader, sameIv, sameCiphertext⟩ :=
    genuine.aead aead header' next data rest plaintext decoded decrypted
  obtain ⟨sealedHeader, sealedData, -⟩ := parts.pieces
  obtain ⟨ivTaken, body, -⟩ := parts_of_append ciphertext parts.ivLen parts.icvLen
  rw [sealedHeader] at sameHeader
  rw [sealedData, ivTaken] at sameIv
  rw [sealedData, body] at sameCiphertext
  exact reads next chain opened parts.encoded
    (parts.decoded_chain sameHeader sameIv sameCiphertext opens)

end Parts

omit [Crypto] in
theorem readsBack_firstType {payloads : List Payload}
    (formed : ∀ payload ∈ payloads, payload.WellFormed) : ReadsBack payloads (firstType payloads) := by
  intro chain opened encoded decoded
  rw [decodeChain_encodeChain formed encoded] at decoded
  exact (Except.ok.inj decoded).symm

omit [Crypto] in
/-- A well-formed chain reads as another one once its first payload is taken for one of a type that
has no format. -/
theorem exists_retyped {payload : Payload} {rest : List Payload} {chain : Octets}
    (formed : ∀ other ∈ payload :: rest, other.WellFormed) (encoded : encodeChain (payload :: rest) = .ok chain) :
    ∃ kind opened, decodeChain kind chain = .ok opened ∧ opened ≠ payload :: rest := by
  obtain ⟨body, tail, -, tailEncoded, short, rfl⟩ := encodeChain_cons.mp encoded
  obtain ⟨kind, unassigned, some, plain, other⟩ : ∃ kind : UInt8, kind ∉ assignedTypes ∧
      kind ≠ PayloadType.NONE ∧ kind ≠ PayloadType.SK ∧ Payload.other kind body ≠ payload := by
    by_cases same : Payload.other 200 body = payload
    · refine ⟨201, by decide, by decide, by decide, ?_⟩
      rw [← same]
      simp
    · exact ⟨200, by decide, by decide, by decide, same⟩
  refine ⟨kind, .other kind body :: rest, ?_, fun same => other (List.cons.inj same).1⟩
  have others : decodeChainLoop ([firstType rest, 0] ++ be16 (UInt16.ofNat (4 + body.length)) ++
      body ++ tail).length (firstType rest) tail = .ok (rest, []) := by
    refine decodeChainLoop_encodeChain
      (fun payload member => formed payload (List.mem_cons_of_mem _ member)) tailEncoded ?_
    simp only [List.length_append, be16_length]
    omega
  rw [decodeChain, decodeChainLoop_cons some plain short (decodePayload_other unassigned body _) others]
  rfl

omit [Crypto] in
theorem readsBack_nil (next : UInt8) : ReadsBack [] next := by
  intro chain opened encoded decoded
  obtain rfl := Except.ok.inj encoded
  by_cases none : next = PayloadType.NONE
  · rw [none] at decoded
    exact (Except.ok.inj decoded).symm
  · simp [decodeChain, decodeChainLoop, none, bind, Except.bind]
      at decoded

/-- A sealed message is authenticated exactly when the suite has an ICV and the codec gives the payloads
back, or when the chain reads as the payloads under every type; of the well-formed lists under an
AEAD suite that is the empty one. -/
theorem authenticated_iff [LawfulCrypto] {header : IkeHeader} {payloads : List Payload} {suite : IkeProposal}
    {keyE keyA bytes : Octets} {drawIv : Nat → Except IpsecError Octets} (valid : suite.isValid = true)
    (made : sealMessage header payloads suite.encryption suite.integrity keyE keyA drawIv = .ok bytes)
    (version : header.version &&& 0xf0 = ikeVersion2) (fits : bytes.length ≤ ikeHeaderLen + 65535) :
    (Authenticated suite.encryption suite.integrity keyE keyA bytes payloads ↔
      suite.integrity ≠ .none ∧ ReadsBack payloads (firstType payloads) ∨
        ∀ next, ReadsBack payloads next) ∧
    ((∀ payload ∈ payloads, payload.WellFormed) →
      (Authenticated suite.encryption suite.integrity keyE keyA bytes payloads ↔
        suite.integrity ≠ .none ∨ payloads = [])) := by
  obtain ⟨chain, iv, ciphertext, icv, parts⟩ := sealMessage_isSealed made
  have general : Authenticated suite.encryption suite.integrity keyE keyA bytes payloads ↔
      suite.integrity ≠ .none ∧ ReadsBack payloads (firstType payloads) ∨
        ∀ next, ReadsBack payloads next := by
    by_cases bare : suite.integrity = .none
    · have aead : suite.encryption.isAead = true := by
        simpa [IkeProposal.isValid, bare] using valid
      constructor
      · intro holds
        exact .inr fun next => parts.readsBack version fits holds fun some => absurd bare some
      · rintro (⟨some, -⟩ | reads)
        · exact absurd bare some
        · exact parts.authenticated_aead aead reads
    · constructor
      · intro holds
        exact .inl ⟨bare, parts.readsBack version fits holds fun _ => rfl⟩
      · rintro (⟨-, reads⟩ | reads)
        · exact parts.authenticated_mac bare reads
        · exact parts.authenticated_mac bare (reads _)
  refine ⟨general, fun formed => general.trans ?_⟩
  constructor
  · rintro (⟨some, -⟩ | reads)
    · exact .inl some
    · cases payloads with
      | nil => exact .inr rfl
      | cons payload rest =>
        obtain ⟨kind, opened, decoded, other⟩ := exists_retyped formed parts.encoded
        exact absurd (reads kind chain opened parts.encoded decoded) other
  · rintro (some | rfl)
    · exact .inl ⟨some, readsBack_firstType formed⟩
    · exact .inr readsBack_nil

end

/-- The sample payloads under CBC with HMAC-SHA1-96 are authenticated. -/
theorem authenticated_iff_mac :
    ∃ bytes, sampleSealed = .ok bytes ∧
      @Authenticated checksumCrypto .aesCbc128 .hmacSha1_96 (List.replicate 16 1) [2] bytes
        sampleMessage.payloads := by
  obtain ⟨bytes, made, fits⟩ : ∃ bytes, sampleSealed = .ok bytes ∧ bytes.length ≤ _ :=
    exists_sealed (by decide +kernel)
  have suite := @authenticated_iff checksumCrypto checksumCrypto_lawful _ _
    ⟨.aesCbc128, .hmacSha1, .hmacSha1_96, .modp2048⟩ _ _ _ _ (by decide) made (by decide) fits
  have formed : ∀ payload ∈ sampleMessage.payloads, payload.WellFormed :=
    fun payload member => (sampleMessage_wellFormed.payloads payload member).1
  exact ⟨bytes, made, (suite.2 formed).mpr (.inl (by decide))⟩

def sampleNotify : Payload := .notify ProtocolId.ESP (be32 9) 1 []

def sealedNotify : Except IpsecError Octets :=
  @sealMessage checksumCrypto sampleMessage.header [sampleNotify] .aesGcm16_128 .none
    (List.replicate 20 1) [] zeroIv

/-- Under AES-GCM the Notify is not authenticated: with the next-payload octet of the SK payload
changed, the receiver takes it for a Delete of that SPI. -/
theorem notify_opens_as_delete :
    (∃ bytes, sealedNotify = .ok bytes ∧ ¬@Authenticated checksumCrypto .aesGcm16_128 .none
      (List.replicate 20 1) [] bytes [sampleNotify]) ∧
    (sealedNotify >>= fun bytes =>
      @receiveSealed checksumCrypto .aesGcm16_128 .none (List.replicate 20 1) []
        (bytes.set 28 PayloadType.DELETE)) = .ok [.delete ProtocolId.ESP 4 [9]] := by
  refine ⟨?_, by decide +kernel⟩
  obtain ⟨bytes, made, fits⟩ : ∃ bytes, sealedNotify = .ok bytes ∧ bytes.length ≤ _ :=
    exists_sealed (by decide +kernel)
  obtain ⟨chain, iv, ciphertext, icv, parts⟩ := @sealMessage_isSealed checksumCrypto _ _ _ _ _ _ _ _ made
  refine ⟨bytes, made, fun holds => ?_⟩
  have reads := @IsSealed.readsBack checksumCrypto _ _ _ _ _ _ _ _ _ _ _ parts checksumCrypto_lawful
    (by decide) fits holds PayloadType.DELETE (fun some => absurd rfl some)
  have other := reads _ [.delete ProtocolId.ESP 4 [9]] rfl (by decide)
  exact absurd other (by decide)

end Shuli.Ipsec
