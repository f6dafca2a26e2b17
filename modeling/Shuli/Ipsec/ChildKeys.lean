import Shuli.Ipsec.Authentication

/-!
The keys of a Child SA. RFC 7296 section 2.17 cuts KEYMAT into the keys of the direction from the
sender of the request and then those of the opposite direction, and within a direction into the
encryption key and then the integrity key. `derive_child_keys` takes both encryption keys first,
and it assigns the directions by the role in the IKE SA and not by who sent the request. The two
cuts agree for suites without an integrity key, when the original initiator sent the request.
-/

namespace Shuli.Ipsec

open Shuli.Core

structure DirectionKeys where
  encryption : Octets
  integrity : Octets
  deriving DecidableEq, Repr

namespace ChildSaHandle

def outbound (handle : ChildSaHandle) : DirectionKeys :=
  ⟨handle.outboundKey, handle.outboundIntegrityKey.getD []⟩

def inbound (handle : ChildSaHandle) : DirectionKeys :=
  ⟨handle.inboundKey, handle.inboundIntegrityKey.getD []⟩

end ChildSaHandle

section

variable [Crypto]

/-- RFC 7296 section 2.17: the keys from the sender of the request, then the opposite direction. -/
def rfcChildKeys (prfAlgorithm : PrfAlgorithm) (skD nonceI nonceR : Octets) (shared : Option Octets)
    (encryption : EncryptionAlgorithm) (integrity : IntegrityAlgorithm) :
    DirectionKeys × DirectionKeys :=
  let e := encryption.materialLen
  let i := integrity.keyLen
  let keymat := prfPlus prfAlgorithm skD (shared.getD [] ++ nonceI ++ nonceR) ((e + i) + (e + i))
  (⟨slice keymat 0 e, slice keymat e (e + i)⟩,
    ⟨slice keymat (e + i) (e + i + e), slice keymat (e + i + e) (e + i + e + i)⟩)

/-- The side that sent the request uses the first pair outbound, the other side inbound. -/
def ChildSaHandle.Follows (handle : ChildSaHandle) (sentRequest : Bool)
    (keys : DirectionKeys × DirectionKeys) : Prop :=
  if sentRequest then handle.outbound = keys.1 ∧ handle.inbound = keys.2
  else handle.outbound = keys.2 ∧ handle.inbound = keys.1

instance (handle : ChildSaHandle) (sentRequest : Bool) (keys : DirectionKeys × DirectionKeys) :
    Decidable (handle.Follows sentRequest keys) :=
  inferInstanceAs (Decidable (if sentRequest then _ ∧ _ else _ ∧ _))

variable [Tls]

/-- A Child SA that an exchange under the IKE SA `ike` creates, with the nonces and the shared
secret of the exchange, on the side that sent the request or on the other. -/
inductive Derived (ike : IkeRuntime) :
    (sentRequest : Bool) → (nonceI nonceR : Octets) → (shared : Option Octets) → ChildSaHandle → Prop
  | authAnswered {self : Runner} {env : Env} {peer : PeerConfig} {payloads : List Payload}
      {answer : ChildAnswer} {signed auth : Octets}
      (answered : answerAuth self env peer ike payloads = .ok (answer, signed, auth)) :
      Derived ike false ike.nonceI ike.nonceR none answer.handle
  | authCompleted {self : Runner} {peer : PeerConfig} {payloads : List Payload}
      {handle : ChildSaHandle} (accepted : acceptAuth self peer ike payloads = .ok handle) :
      Derived ike true ike.nonceI ike.nonceR none handle
  | rekeyAnswered {self : Runner} {env : Env} {payloads : List Payload} {answer : ChildAnswer}
      {sa : List Proposal} {suite : ChildProposal} {number : UInt8} {nonceI : Octets}
      {nonceR : { bytes : Octets // bytes.length = nonceLen }} {ke : List Payload}
      {shared : Option Octets}
      (answered : answerCreateChild self env ike payloads = .ok answer)
      (offered : findSa payloads = some sa)
      (selected : selectEsp self.config.child.proposals sa = .ok (suite, number))
      (peerNonce : findNonce payloads = some nonceI) (ownNonce : env.nonce nonceLen = .ok nonceR)
      (agreed : answerKe env suite.dh (findKe payloads) = .ok (ke, shared)) :
      Derived ike false nonceI nonceR.val shared answer.handle
  | rekeyCompleted {self : Runner} {pending : PendingRekey} {payloads : List Payload}
      {handle : ChildSaHandle} {nonceR : Octets} {shared : Option Octets}
      (accepted : acceptCreateChild self ike pending payloads = .ok handle)
      (peerNonce : findNonce payloads = some nonceR)
      (agreed : rekeyShared pending.keyPair (findKe payloads) = .ok shared) :
      Derived ike true pending.nonceI nonceR shared handle

variable {sentRequest : Bool}

/-- All four exchanges derive their keys by `childKeys`. -/
theorem Derived.childKeys {ike : IkeRuntime} {nonceI nonceR : Octets} {shared : Option Octets}
    {handle : ChildSaHandle} (derived : Derived ike sentRequest nonceI nonceR shared handle) :
    ∃ mode suite localSpi remoteSpi localSelectors remoteSelectors,
      handle = ike.childKeys mode nonceI nonceR shared suite localSpi remoteSpi localSelectors
        remoteSelectors := by
  cases derived with
  | authAnswered answered =>
    simp only [answerAuth, Except.bind_eq_ok] at answered
    obtain ⟨_, _, _, _, _, _, _, _, _, _, _, _, _, _, result⟩ := answered
    cases result
    exact ⟨_, _, _, _, _, _, rfl⟩
  | authCompleted accepted =>
    simp only [acceptAuth, Except.bind_eq_ok] at accepted
    obtain ⟨_, _, _, _, _, _, _, _, result⟩ := accepted
    cases result
    exact ⟨_, _, _, _, _, _, rfl⟩
  | rekeyAnswered answered offered selected peerNonce ownNonce agreed =>
    simp only [answerCreateChild, Except.bind_eq_ok, orThrow_eq_ok, offered, selected, peerNonce,
      ownNonce, agreed, Option.some.injEq, exists_eq_left', Except.ok.injEq] at answered
    obtain ⟨_, _, _, _, _, _, _, _, result⟩ := answered
    cases result
    exact ⟨_, _, _, _, _, _, rfl⟩
  | rekeyCompleted accepted peerNonce agreed =>
    simp only [acceptCreateChild, Except.bind_eq_ok, Except.guard_eq_ok, orThrow_eq_ok, peerNonce,
      agreed, Option.some.injEq, exists_eq_left', Except.ok.injEq] at accepted
    obtain ⟨_, _, _, _, _, _, _, _, _, _, _, result⟩ := accepted
    cases result
    exact ⟨_, _, _, _, _, _, rfl⟩

omit [Tls] in
/-- Without integrity keys both cuts agree, and the roles match those of the exchange. -/
theorem childKeys_follows (ike : IkeRuntime) (sentRequest : Bool) (mode : ChildMode)
    (nonceI nonceR : Octets) (shared : Option Octets) (suite : ChildProposal)
    (localSpi remoteSpi : UInt32) (localSelectors remoteSelectors : List TrafficSelector)
    (plain : suite.integrity = .none) (sides : ike.role = .initiator ↔ sentRequest = true) :
    (ike.childKeys mode nonceI nonceR shared suite localSpi remoteSpi localSelectors
      remoteSelectors).Follows sentRequest
        (rfcChildKeys ike.suite.prf ike.keys.skD nonceI nonceR shared suite.encryption
          suite.integrity) := by
  have lengths : suite.encryption.materialLen * 2 =
      suite.encryption.materialLen + suite.encryption.materialLen := Nat.mul_two _
  have empty (octets : Octets) (n : Nat) : slice octets n n = [] := by simp [slice]
  have none : IntegrityAlgorithm.keyLen .none = 0 := rfl
  cases role : ike.role with
  | initiator =>
    obtain rfl : sentRequest = true := sides.mp role
    simp [ChildSaHandle.Follows, ChildSaHandle.outbound, ChildSaHandle.inbound, IkeRuntime.childKeys,
      deriveChildKeys, rfcChildKeys, childSeed, childMaterialLen, plain, role, none, lengths, empty,
      Role.isInitiator]
  | responder =>
    obtain rfl : sentRequest = false := by
      cases sentRequest with
      | false => rfl
      | true => simp [role] at sides
    simp [ChildSaHandle.Follows, ChildSaHandle.outbound, ChildSaHandle.inbound, IkeRuntime.childKeys,
      deriveChildKeys, rfcChildKeys, childSeed, childMaterialLen, plain, role, none, lengths, empty,
      Role.isInitiator]

end

def ChildSaHandle.Uses (handle : ChildSaHandle) (encryption : EncryptionAlgorithm)
    (integrity : IntegrityAlgorithm) : Prop :=
  handle.encryption = encryption ∧ handle.integrity = if integrity = .none then none else some integrity

instance (handle : ChildSaHandle) (encryption : EncryptionAlgorithm) (integrity : IntegrityAlgorithm) :
    Decidable (handle.Uses encryption integrity) := inferInstanceAs (Decidable (_ ∧ _))

/-! An exchange for every suite, role and side, over checksums, whose keys are not where they belong -/

section

attribute [local instance] checksumCrypto closedTls

def sampleIke (role : Role) : IkeRuntime where
  role := role
  localSpi := 1
  remoteSpi := 2
  keys := ⟨[1], [2], [3], [4], [5], [6], [7]⟩
  suite := sampleIkeProposal
  nonceI := [8]
  nonceR := [9]
  realMessage1 := []
  realMessage2 := []
  localChildSpi := 10
  child := none
  innerAddresses := []
  dns := []

def suiteRunner (own remote : UInt32) (encryption : EncryptionAlgorithm)
    (integrity : IntegrityAlgorithm) : Runner :=
  .spawn { sampleConfig own remote true [1] with
    child := ⟨[⟨encryption, integrity, false, .none⟩], .tunnel, .fromSecs 3600⟩ }

def suitePayloads (encryption : EncryptionAlgorithm) (integrity : IntegrityAlgorithm) : List Payload :=
  [.sa [⟨1, ProtocolId.ESP, be32 7, espTransforms encryption integrity false .none⟩], .nonce [11],
    tsPayload true [host 1], tsPayload false [host 2]]

def suiteHandle (role : Role) (sentRequest : Bool) (encryption : EncryptionAlgorithm)
    (integrity : IntegrityAlgorithm) : Except IpsecError ChildSaHandle :=
  if sentRequest then
    acceptCreateChild (suiteRunner 1 2 encryption integrity) (sampleIke role)
      ⟨none, [12], 13, ⟨encryption, integrity, false, .none⟩⟩ (suitePayloads encryption integrity)
  else
    (answerCreateChild (suiteRunner 2 1 encryption integrity) (sampleEnv 12) (sampleIke role)
      (suitePayloads encryption integrity)).map ChildAnswer.handle

def suiteNonces (sentRequest : Bool) : Octets × Octets :=
  if sentRequest then ([12], [11]) else ([11], List.replicate 32 12)

variable {encryption : EncryptionAlgorithm} {integrity : IntegrityAlgorithm}

theorem selectEsp_suite (valid : encryption.isAead = true ↔ integrity = .none) :
    selectEsp (suiteRunner 2 1 encryption integrity).config.child.proposals
      [⟨1, ProtocolId.ESP, be32 7, espTransforms encryption integrity false .none⟩] =
        .ok (⟨encryption, integrity, false, .none⟩, 1) := by
  cases encryption <;> cases integrity <;> first | exact absurd valid (by decide) | rfl

theorem suiteHandle_derived {role : Role} {handle : ChildSaHandle}
    (valid : encryption.isAead = true ↔ integrity = .none)
    (made : suiteHandle role sentRequest encryption integrity = .ok handle) :
    Derived (sampleIke role) sentRequest (suiteNonces sentRequest).1 (suiteNonces sentRequest).2 none
      handle := by
  cases sentRequest with
  | true => exact .rekeyCompleted made rfl rfl
  | false =>
    cases answered : answerCreateChild (suiteRunner 2 1 encryption integrity) (sampleEnv 12)
        (sampleIke role) (suitePayloads encryption integrity) with
    | error e => simp [suiteHandle, answered, Except.map] at made
    | ok answer =>
      obtain rfl : answer.handle = handle := by simpa [suiteHandle, answered, Except.map] using made
      exact .rekeyAnswered answered rfl (selectEsp_suite valid) rfl rfl rfl

theorem suiteHandle_gcm :
    ∃ handle, suiteHandle .initiator true .aesGcm16_128 .none = .ok handle ∧
      handle.Uses .aesGcm16_128 .none := ⟨_, rfl, rfl, rfl⟩

def misplaced (role : Role) (sentRequest : Bool) (encryption : EncryptionAlgorithm)
    (integrity : IntegrityAlgorithm) : Bool :=
  match suiteHandle role sentRequest encryption integrity with
  | .ok handle =>
    decide (handle.Uses encryption integrity) &&
      !decide (handle.Follows sentRequest (rfcChildKeys (sampleIke role).suite.prf
        (sampleIke role).keys.skD (suiteNonces sentRequest).1 (suiteNonces sentRequest).2 none
        encryption integrity))
  | .error _ => false

theorem misplaced_of_not {role : Role} (valid : encryption.isAead = true ↔ integrity = .none)
    (other : ¬(integrity = .none ∧ (role = .initiator ↔ sentRequest = true))) :
    misplaced role sentRequest encryption integrity = true := by
  cases encryption <;> cases integrity <;> cases role <;> cases sentRequest <;>
    first
      | exact absurd valid (by decide)
      | exact absurd other (by decide)
      | decide +kernel

/-- For every other suite, role and side some exchange has its keys in another place. -/
theorem exists_misplaced {role : Role} (valid : encryption.isAead = true ↔ integrity = .none)
    (other : ¬(integrity = .none ∧ (role = .initiator ↔ sentRequest = true))) :
    ∃ handle, Derived (sampleIke role) sentRequest (suiteNonces sentRequest).1
        (suiteNonces sentRequest).2 none handle ∧ handle.Uses encryption integrity ∧
      ¬handle.Follows sentRequest (rfcChildKeys (sampleIke role).suite.prf (sampleIke role).keys.skD
        (suiteNonces sentRequest).1 (suiteNonces sentRequest).2 none encryption integrity) := by
  have elsewhere := misplaced_of_not valid other
  unfold misplaced at elsewhere
  cases made : suiteHandle role sentRequest encryption integrity with
  | error e => simp [made] at elsewhere
  | ok handle =>
    simp only [made, Bool.and_eq_true, decide_eq_true_eq, Bool.not_eq_true', decide_eq_false_iff_not]
      at elsewhere
    exact ⟨handle, suiteHandle_derived valid made, elsewhere.1, elsewhere.2⟩

end

/-- The keys of a Child SA are where RFC 7296 section 2.17 puts them, on the side that sent the
request (or on the other) and for a role in the IKE SA, exactly for suites without an integrity key
when the original initiator sent the request. -/
theorem child_keys_rfc_iff (encryption : EncryptionAlgorithm) (integrity : IntegrityAlgorithm)
    (valid : encryption.isAead = true ↔ integrity = .none) (role : Role) (sentRequest : Bool) :
    (∀ [Crypto] [Tls] (ike : IkeRuntime) (nonceI nonceR : Octets) (shared : Option Octets)
        (handle : ChildSaHandle), ike.role = role → handle.Uses encryption integrity →
        Derived ike sentRequest nonceI nonceR shared handle →
        handle.Follows sentRequest (rfcChildKeys ike.suite.prf ike.keys.skD nonceI nonceR shared
          encryption integrity)) ↔
      integrity = .none ∧ (role = .initiator ↔ sentRequest = true) := by
  constructor
  · intro follows
    by_contra other
    obtain ⟨handle, derived, uses, elsewhere⟩ := exists_misplaced valid other
    exact elsewhere (@follows checksumCrypto closedTls _ _ _ _ _ rfl uses derived)
  · rintro ⟨plain, sides⟩ _ _ ike nonceI nonceR shared handle rfl uses derived
    obtain ⟨mode, suite, localSpi, remoteSpi, localSelectors, remoteSelectors, rfl⟩ := derived.childKeys
    obtain ⟨rfl, same⟩ := uses
    have none : suite.integrity = .none := by
      by_contra some
      simp [IkeRuntime.childKeys, deriveChildKeys, plain, some] at same
    have follows := childKeys_follows ike sentRequest mode nonceI nonceR shared suite localSpi remoteSpi
      localSelectors remoteSelectors none sides
    rw [none] at follows
    rw [plain]
    exact follows

theorem child_keys_rfc_gcm :
    ∃ handle, @Derived checksumCrypto closedTls (sampleIke .initiator) true [12] [11] none handle ∧
      handle.Uses .aesGcm16_128 .none ∧
      handle.Follows true (@rfcChildKeys checksumCrypto (sampleIke .initiator).suite.prf
        (sampleIke .initiator).keys.skD [12] [11] none .aesGcm16_128 .none) := by
  obtain ⟨handle, made, uses⟩ := suiteHandle_gcm
  have derived := suiteHandle_derived (by decide) made
  let crypto := checksumCrypto
  let tls := closedTls
  exact ⟨handle, derived, uses,
    (child_keys_rfc_iff .aesGcm16_128 .none (by decide) .initiator true).mpr (by decide) _ _ _ _ _ rfl
      uses derived⟩

/-- The original initiator completes a rekey under AES-CBC with HMAC-SHA-256: its integrity keys are
not where the standard puts them. -/
theorem child_keys_rfc_fails :
    ∃ handle, @Derived checksumCrypto closedTls (sampleIke .initiator) true [12] [11] none handle ∧
      handle.Uses .aesCbc128 .hmacSha2_256_128 ∧
      ¬handle.Follows true (@rfcChildKeys checksumCrypto (sampleIke .initiator).suite.prf
        (sampleIke .initiator).keys.skD [12] [11] none .aesCbc128 .hmacSha2_256_128) :=
  exists_misplaced (by decide) (by decide)

end Shuli.Ipsec
