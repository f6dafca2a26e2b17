import Mathlib.Data.List.Find
import Shuli.Ipsec.ChildKeys
import Shuli.Ipsec.Handlers
import Shuli.Ipsec.Narrowing
import Shuli.Ipsec.Negotiation

/-!
ESP proposal negotiation between two configurations. An offer admits a configured proposal of the same
suite, and in a rekey one whose PFS group is the offered one or none at all. The rekey guesses the key
exchange group from the first proposal of its sender, while the responder and then the initiator take the
first proposal of their own lists that is admitted.
-/

namespace Shuli.Ipsec

open Shuli.Core

section Transforms

attribute [local simp] TransformType.ENCR TransformType.INTEG TransformType.DH TransformType.ESN

variable (encryption : EncryptionAlgorithm) (integrity : IntegrityAlgorithm) (esn : Bool) (dh : DhGroup)

theorem hasEncryption_espTransforms (wanted : EncryptionAlgorithm) :
    hasEncryption (espTransforms encryption integrity esn dh) wanted = decide (encryption = wanted) := by
  rw [← hasEncryption_encryptionTransform]
  simp [hasEncryption, espTransforms, any_optional]

theorem hasTransform_espIntegrity (wanted : IntegrityAlgorithm) (some : wanted ≠ .none) :
    hasTransform (espTransforms encryption integrity esn dh) TransformType.INTEG wanted.transformId =
      decide (integrity = wanted) := by
  rw [← offers_integrity some]
  simp [hasTransform, espTransforms, any_optional, encryptionTransform]

theorem hasTransform_espDh (wanted : DhGroup) (some : wanted ≠ .none) :
    hasTransform (espTransforms encryption integrity esn dh) TransformType.DH wanted.transformId =
      decide (dh = wanted) := by
  rw [← offers_dh some]
  simp [hasTransform, espTransforms, any_optional, encryptionTransform]

theorem esnOfferMatches_espTransforms (wanted : Bool) :
    esnOfferMatches (espTransforms encryption integrity esn dh) wanted = (esn == wanted) := by
  cases esn <;> simp [esnOfferMatches, espTransforms, any_optional, encryptionTransform]

end Transforms

namespace ChildProposal

def suite (proposal : ChildProposal) : EncryptionAlgorithm × IntegrityAlgorithm × Bool :=
  (proposal.encryption, proposal.integrity, proposal.esn)

def fits (includeDh : Bool) (offered candidate : ChildProposal) : Bool :=
  candidate.suite == offered.suite && (!includeDh || candidate.dh == .none || candidate.dh == offered.dh)

def selected (includeDh : Bool) (candidate : ChildProposal) : ChildProposal :=
  if includeDh then candidate else { candidate with dh := .none }

end ChildProposal

variable {offered candidate : ChildProposal}

/-- The integrity transform is settled by the cipher if there is none. -/
theorem transformOfferMatches_esp (valid : offered.isValid = true)
    (known : candidate.isValid = true) (dh wanted : DhGroup) :
    transformOfferMatches (espTransforms offered.encryption offered.integrity offered.esn dh)
        candidate.encryption none candidate.integrity wanted = true ↔
      candidate.encryption = offered.encryption ∧ candidate.integrity = offered.integrity ∧
        (wanted = .none ∨ wanted = dh) := by
  rw [ChildProposal.isValid_iff] at valid known
  have group : (wanted == .none || hasTransform (espTransforms offered.encryption offered.integrity offered.esn dh)
      TransformType.DH wanted.transformId) = true ↔ wanted = .none ∨ wanted = dh := by
    by_cases keyless : wanted = .none
    · simp [keyless]
    · simp only [hasTransform_espDh _ _ _ _ wanted keyless, Bool.or_eq_true, beq_iff_eq, decide_eq_true_eq,
        eq_comm (a := dh)]
  by_cases cipher : offered.encryption = candidate.encryption
  · by_cases plain : candidate.integrity = .none
    · -- a combined-mode candidate leaves the integrity open; the cipher of the offer settles it
      by_cases keyless : wanted = .none <;>
        simp_all [transformOfferMatches, hasEncryption_espTransforms]
    · by_cases same : offered.integrity = candidate.integrity
      · by_cases keyless : wanted = .none <;>
          simp_all [transformOfferMatches, hasEncryption_espTransforms,
            hasTransform_espIntegrity]
      · simp [transformOfferMatches, plain,
          hasTransform_espIntegrity _ _ _ _ _ plain, same, Ne.symm same]
  · simp [transformOfferMatches, hasEncryption_espTransforms, cipher, Ne.symm cipher]

def espOffer (number : UInt8) (spi : UInt32) (proposal : ChildProposal) : Proposal :=
  ⟨number, ProtocolId.ESP, be32 spi,
    espTransforms proposal.encryption proposal.integrity proposal.esn proposal.dh⟩

theorem espOfferMatches_espOffer (valid : offered.isValid = true)
    (known : candidate.isValid = true) (number : UInt8) (spi : UInt32) (includeDh : Bool) :
    espOfferMatches includeDh (espOffer number spi (offered.selected includeDh)) candidate =
      offered.fits includeDh candidate := by
  rw [Bool.eq_iff_iff, espOfferMatches, Bool.and_eq_true, espOffer]
  cases includeDh with
  | false =>
    rw [@transformOfferMatches_esp (offered.selected false) candidate valid known,
      esnOfferMatches_espTransforms]
    simp [ChildProposal.suite, ChildProposal.fits]
    tauto
  | true =>
    rw [@transformOfferMatches_esp (offered.selected true) candidate valid known,
      esnOfferMatches_espTransforms]
    simp [ChildProposal.suite, ChildProposal.fits]
    tauto

def espOffers (includeDh : Bool) (spi : UInt32) (first : Nat) (proposals : List ChildProposal) :
    List Proposal :=
  proposals.mapIdx fun index proposal =>
    espOffer (proposalNumber (first + index)) spi (proposal.selected includeDh)

theorem buildEsp_eq_espOffers (proposals : List ChildProposal) (spi : UInt32) (includeDh : Bool) :
    buildEsp proposals spi includeDh = espOffers includeDh spi 0 proposals := by
  cases includeDh <;> simp [buildEsp, espOffers, espOffer, ChildProposal.selected]

theorem espOffers_cons (includeDh : Bool) (spi : UInt32) (first : Nat) (proposal : ChildProposal)
    (rest : List ChildProposal) :
    espOffers includeDh spi first (proposal :: rest) =
      espOffer (proposalNumber first) spi (proposal.selected includeDh) ::
        espOffers includeDh spi (first + 1) rest := by
  simp [espOffers, Nat.add_assoc, Nat.add_comm 1]

def firstFit (includeDh : Bool) (offered configured : List ChildProposal) : Option ChildProposal :=
  offered.findSome? fun proposal => configured.find? (proposal.fits includeDh)

section Selection

variable {configured : List ChildProposal} (usable : ∀ proposal ∈ configured, proposal.isValid = true)
include usable

theorem find?_espOffer {proposal : ChildProposal} (valid : proposal.isValid = true) (number : UInt8)
    (spi : UInt32) (includeDh : Bool) :
    configured.find? (espOfferMatches includeDh (espOffer number spi (proposal.selected includeDh))) =
      configured.find? (proposal.fits includeDh) :=
  List.find?_congr fun candidate member => espOfferMatches_espOffer valid (usable candidate member) ..

/-- What selection returns on the offers of a list, by induction along that list. -/
theorem selectEspWithDh_espOffers (includeDh : Bool) (spi : UInt32) {offered : List ChildProposal}
    (valid : ∀ proposal ∈ offered, proposal.isValid = true) (first : Nat) :
    match firstFit includeDh offered configured with
    | some candidate => ∃ number,
        selectEspWithDh configured includeDh (espOffers includeDh spi first offered) =
          .ok (candidate.selected includeDh, number) ∧
        ∃ offer ∈ espOffers includeDh spi first offered, offer.number = number
    | none => ∃ e, selectEspWithDh configured includeDh (espOffers includeDh spi first offered) = .error e := by
  induction offered generalizing first with
  | nil => exact ⟨_, rfl⟩
  | cons proposal rest ih =>
    have later := ih (fun other member => valid other (List.mem_cons_of_mem _ member)) (first + 1)
    rw [espOffers_cons, selectEspWithDh,
      find?_espOffer usable (valid proposal List.mem_cons_self), firstFit, List.findSome?_cons]
    cases found : configured.find? (proposal.fits includeDh) with
    | some candidate => exact ⟨_, rfl, _, List.mem_cons_self, rfl⟩
    | none =>
      revert later
      rw [firstFit]
      cases rest.findSome? fun proposal => configured.find? (proposal.fits includeDh) with
      | none => exact id
      | some candidate =>
        rintro ⟨number, selected, offer, member, numbered⟩
        exact ⟨number, selected, offer, List.mem_cons_of_mem _ member, numbered⟩

end Selection

theorem proposalSpi_espOffer (number : UInt8) (spi : UInt32) (proposal : ChildProposal) :
    proposalSpi (espOffer number spi proposal) = some spi := by
  rw [proposalSpi, if_neg (by simp [espOffer]), espOffer, List.take_of_length_le (by simp), ofBe32_be32]

variable {includeDh : Bool}

theorem find?_espOffers_spi {spi : UInt32} {first : Nat} {proposals : List ChildProposal}
    {wanted : Proposal → Bool} (some_ : ∃ offer ∈ espOffers includeDh spi first proposals, wanted offer = true) :
    ((espOffers includeDh spi first proposals).find? wanted).bind proposalSpi = some spi := by
  obtain ⟨offer, found⟩ := Option.isSome_iff_exists.mp (List.find?_isSome.mpr some_)
  have member := List.mem_of_find?_eq_some found
  obtain ⟨index, bound, rfl⟩ := List.mem_mapIdx.mp member
  rw [found]
  exact proposalSpi_espOffer ..

/-- The lists have a suite in common, whatever its PFS groups. -/
def SharedSuite (left right : List ChildProposal) : Prop := ∃ one ∈ left, ∃ other ∈ right, other.suite = one.suite

instance (left right : List ChildProposal) : Decidable (SharedSuite left right) :=
  inferInstanceAs (Decidable (∃ one ∈ left, ∃ other ∈ right, _))

/-- The initial selection ignores the PFS groups. -/
theorem selectEspInitial_iff {offered configured : List ChildProposal}
    (valid : ∀ proposal ∈ offered, proposal.isValid = true)
    (usable : ∀ proposal ∈ configured, proposal.isValid = true) (spi : UInt32) :
    (∃ selection, selectEspInitial configured (buildEsp offered spi false) = .ok selection) ↔
      SharedSuite offered configured := by
  have outcome := selectEspWithDh_espOffers usable false spi valid 0
  have found : (firstFit false offered configured).isSome = true ↔ SharedSuite offered configured := by
    simp [firstFit, SharedSuite, ChildProposal.fits]
  rw [buildEsp_eq_espOffers, selectEspInitial, ← found]
  cases fit : firstFit false offered configured with
  | none =>
    simp only [fit] at outcome
    obtain ⟨e, refused⟩ := outcome
    simp [refused]
  | some chosen =>
    simp only [fit] at outcome
    obtain ⟨number, selected, _⟩ := outcome
    simp [selected]

/-! Rekeying between two lists -/

/-- The sender's first proposal tells the group of the key exchange. The responder's choice must have that
group, and so must the first of the sender's proposals that fits the choice. -/
def rekeyFits (offered configured : List ChildProposal) : Bool :=
  match offered.head?, firstFit true offered configured with
  | some first, some chosen => chosen.dh == first.dh &&
    (offered.find? (chosen.fits true)).any fun own => own.dh == first.dh
  | _, _ => false

def ChildSaHandle.suite (handle : ChildSaHandle) : EncryptionAlgorithm × Option IntegrityAlgorithm × Bool :=
  (handle.encryption, handle.integrity, handle.esn)

theorem findSa_rekeyPayloads (proposals : List ChildProposal) (selectors : TrafficSelectorPair)
    (localSpi : UInt32) (nonceI : Octets) (keyPair : Option DhKeyPair) :
    findSa (rekeyPayloads proposals selectors localSpi nonceI keyPair) =
      some (buildEsp proposals localSpi true) := rfl

theorem findNonce_rekeyPayloads (proposals : List ChildProposal) (selectors : TrafficSelectorPair)
    (localSpi : UInt32) (nonceI : Octets) (keyPair : Option DhKeyPair) :
    findNonce (rekeyPayloads proposals selectors localSpi nonceI keyPair) = some nonceI := by
  cases keyPair <;> rfl

theorem findKe_rekeyPayloads (proposals : List ChildProposal) (selectors : TrafficSelectorPair)
    (localSpi : UInt32) (nonceI : Octets) (keyPair : Option DhKeyPair) :
    findKe (rekeyPayloads proposals selectors localSpi nonceI keyPair) =
      keyPair.map fun pair => (pair.group.transformId, pair.publicKey) := by
  cases keyPair <;> rfl

theorem tsOfSide_rekeyPayloads (proposals : List ChildProposal) (selectors : TrafficSelectorPair)
    (localSpi : UInt32) (nonceI : Octets) (keyPair : Option DhKeyPair) :
    tsOfSide true (rekeyPayloads proposals selectors localSpi nonceI keyPair) = selectors.localSide ∧
      tsOfSide false (rekeyPayloads proposals selectors localSpi nonceI keyPair) = selectors.remoteSide := by
  cases keyPair <;> simp [tsOfSide, rekeyPayloads, tsPayload, Function.comp_def]

def rekeyResponse (sa : List Proposal) (ke : List Payload) (nonceR : Octets)
    (initiator responder : List TrafficSelector) : List Payload :=
  [.sa sa] ++ ke ++ [.nonce nonceR, tsPayload true initiator, tsPayload false responder]

structure ResponseReads (response : List Payload) (sa : List Proposal) (ke : List Payload) (nonceR : Octets)
    (initiator responder : List TrafficSelector) : Prop where
  sa : findSa response = some sa
  ke : findKe response = findKe ke
  nonce : findNonce response = some nonceR
  initiator : tsOfSide true response = initiator
  responder : tsOfSide false response = responder

variable {ke : List Payload}

theorem rekeyResponse_reads (lone : ke = [] ∨ ∃ group data, ke = [.ke group data])
    (sa : List Proposal) (nonceR : Octets) (initiator responder : List TrafficSelector) :
    ResponseReads (rekeyResponse sa ke nonceR initiator responder) sa ke nonceR initiator responder := by
  rcases lone with rfl | ⟨group, data, rfl⟩
  all_goals
    refine ⟨rfl, rfl, rfl, ?_, ?_⟩ <;>
      simp [tsOfSide, rekeyResponse, tsPayload, Function.comp_def]

section Rekey

variable {env asking answering : Env} {pending : PendingRekey} {shared : Option Octets} {dh : DhGroup}

theorem selectEsp_buildEsp {offered configured : List ChildProposal}
    (valid : ∀ proposal ∈ offered, proposal.isValid = true)
    (usable : ∀ proposal ∈ configured, proposal.isValid = true) (spi : UInt32) :
    match firstFit true offered configured with
    | some chosen => ∃ number, selectEsp configured (buildEsp offered spi true) = .ok (chosen, number) ∧
        ((buildEsp offered spi true).find? fun proposal => proposal.number == number).bind proposalSpi = some spi
    | none => ∃ e, selectEsp configured (buildEsp offered spi true) = .error e := by
  have outcome := selectEspWithDh_espOffers usable true spi valid 0
  rw [buildEsp_eq_espOffers, selectEsp]
  cases fit : firstFit true offered configured with
  | none => simpa only [fit] using outcome
  | some chosen =>
    simp only [fit] at outcome
    obtain ⟨number, selected, offer, member, numbered⟩ := outcome
    exact ⟨number, selected, find?_espOffers_spi ⟨offer, member, by simp [numbered]⟩⟩

theorem selectEsp_espOffer {configured : List ChildProposal}
    (usable : ∀ proposal ∈ configured, proposal.isValid = true) {proposal : ChildProposal}
    (valid : proposal.isValid = true) (number : UInt8) (spi : UInt32) :
    match configured.find? (proposal.fits true) with
    | some own => selectEsp configured [espOffer number spi proposal] = .ok (own, number)
    | none => ∃ e, selectEsp configured [espOffer number spi proposal] = .error e := by
  have found := find?_espOffer usable valid number spi true
  simp only [ChildProposal.selected, if_true] at found
  rw [selectEsp, selectEspWithDh, found]
  cases configured.find? (proposal.fits true) with
  | some own => rfl
  | none => exact ⟨_, rfl⟩

theorem firstFit_mem {offered configured : List ChildProposal} {chosen : ChildProposal}
    (fit : firstFit includeDh offered configured = some chosen) : chosen ∈ configured := by
  obtain ⟨_, _, found⟩ := List.exists_of_findSome?_eq_some fit
  exact List.mem_of_find?_eq_some found

theorem suite_of_fits (fits : offered.fits includeDh candidate = true) : candidate.suite = offered.suite := by
  simp only [ChildProposal.fits, Bool.and_eq_true, beq_iff_eq] at fits
  exact fits.1

variable [Crypto]

/-- The responder's key exchange is that of the group that its suite has, or there is none. -/
theorem answerKe_eq_ok {asked : Option (UInt16 × Octets)} :
    answerKe env dh asked = .ok (ke, shared) ↔
      (dh = .none ∧ asked = none ∧ ke = [] ∧ shared = none) ∨
      ∃ peerPublic pair secret, dh ≠ .none ∧ asked = some (dh.transformId, peerPublic) ∧
        DhKeyPair.generate dh (env.dhSecret dh) = .ok pair ∧ pair.agree peerPublic = .ok secret ∧
        ke = [.ke dh.transformId pair.publicKey] ∧ shared = some secret := by
  rcases asked with _ | ⟨group, peerPublic⟩
  · simp only [answerKe, Except.guard_eq_ok, not_not, reduceCtorEq, false_and, and_false, exists_false, or_false]
    constructor
    · rintro ⟨keyless, same⟩
      cases same
      exact ⟨keyless, trivial, rfl, rfl⟩
    · rintro ⟨keyless, _, rfl, rfl⟩
      exact ⟨keyless, rfl⟩
  · simp only [answerKe, Except.guard_eq_ok, not_not, Except.bind_eq_ok, reduceCtorEq, false_and, and_false,
      false_or, Option.some.injEq, Prod.mk.injEq]
    constructor
    · rintro ⟨keyed, rfl, pair, generated, secret, agreed, same⟩
      cases same
      exact ⟨peerPublic, pair, secret, keyed, ⟨rfl, rfl⟩, generated, agreed, rfl, rfl⟩
    · rintro ⟨_, pair, secret, keyed, ⟨rfl, rfl⟩, generated, agreed, rfl, rfl⟩
      exact ⟨keyed, rfl, pair, generated, secret, agreed, rfl⟩

theorem generate_group {random : Except IpsecError Octets} {pair : DhKeyPair}
    (generated : DhKeyPair.generate dh random = .ok pair) : pair.group = dh := by
  cases dh <;> simp only [DhKeyPair.generate, Except.bind_eq_ok] at generated
  case none => cases generated
  all_goals
    obtain ⟨_, _, same⟩ := generated
    cases same
    rfl

theorem rekeyKeyPair_eq_ok {keyPair : Option DhKeyPair}
    (made : rekeyKeyPair env dh = .ok keyPair) :
    (dh = .none ∧ keyPair = none) ∨ (dh ≠ .none ∧ ∃ pair, keyPair = some pair ∧ pair.group = dh) := by
  unfold rekeyKeyPair at made
  split at made
  · rename_i keyed
    cases generated : DhKeyPair.generate dh (env.dhSecret dh) with
    | error e => rw [generated] at made; cases made
    | ok pair =>
      rw [generated] at made
      cases made
      exact .inr ⟨keyed, pair, rfl, generate_group generated⟩
  · rename_i keyless
    cases made
    exact .inl ⟨not_not.mp keyless, rfl⟩

theorem suite_childKeys (ike : IkeRuntime) (mode : ChildMode) (nonceI nonceR : Octets) (shared : Option Octets)
    (proposal : ChildProposal) (localSpi remoteSpi : UInt32) (localSelectors remoteSelectors : List TrafficSelector) :
    (ike.childKeys mode nonceI nonceR shared proposal localSpi remoteSpi localSelectors remoteSelectors).suite =
      (proposal.encryption, if proposal.integrity = .none then none else some proposal.integrity, proposal.esn) := by
  rfl

theorem answerKe_group {dh chosen : DhGroup} {keyPair : Option DhKeyPair}
    (made : rekeyKeyPair asking dh = .ok keyPair)
    (agreed : answerKe answering chosen (keyPair.map fun pair => (pair.group.transformId, pair.publicKey)) =
      .ok (ke, shared)) : chosen = dh := by
  rcases rekeyKeyPair_eq_ok made with ⟨rfl, rfl⟩ | ⟨_, pair, rfl, rfl⟩
  · rcases answerKe_eq_ok.mp agreed with ⟨same, _⟩ | ⟨_, _, _, _, absent, _⟩
    · exact same
    · cases absent
  · rcases answerKe_eq_ok.mp agreed with ⟨_, absent, _⟩ | ⟨_, _, _, _, asked, _⟩
    · cases absent
    · exact DhGroup.transformId_injective (congrArg Prod.fst (Option.some.inj asked)).symm

theorem answerKe_lone {asked : Option (UInt16 × Octets)}
    (agreed : answerKe env dh asked = .ok (ke, shared)) :
    ke = [] ∨ ∃ group data, ke = [.ke group data] := by
  rcases answerKe_eq_ok.mp agreed with ⟨_, _, none, _⟩ | ⟨_, _, _, _, _, _, _, some, _⟩
  · exact .inl none
  · exact .inr ⟨_, _, some⟩

variable [Tls]

/-- What the answer to a rekey request was made of. -/
theorem answerCreateChild_eq_ok {self : Runner} {ike : IkeRuntime} {payloads : List Payload}
    {answer : ChildAnswer} :
    answerCreateChild self env ike payloads = .ok answer ↔
      ∃ sa suite number remoteSpi localSpi nonceI nonceR peer localSelectors remoteSelectors ke shared,
        findSa payloads = some sa ∧ selectEsp self.config.child.proposals sa = .ok (suite, number) ∧
        (sa.find? fun proposal => proposal.number == number).bind proposalSpi = some remoteSpi ∧
        env.randomU32 = .ok localSpi ∧ findNonce payloads = some nonceI ∧ env.nonce nonceLen = .ok nonceR ∧
        self.peer? = some peer ∧
        narrowRequestSelectors peer.selectors payloads = .ok (localSelectors, remoteSelectors) ∧
        answerKe env suite.dh (findKe payloads) = .ok (ke, shared) ∧
        answer = ⟨rekeyResponse [espOffer number localSpi suite] ke nonceR.val remoteSelectors localSelectors,
          ike.childKeys self.config.child.mode nonceI nonceR.val shared suite localSpi remoteSpi
            localSelectors remoteSelectors⟩ := by
  simp only [answerCreateChild, Except.bind_eq_ok, orThrow_eq_ok, Prod.exists]
  constructor
  · rintro ⟨sa, offered, suite, number, selected, remoteSpi, theirs, localSpi, drawn, nonceI, asked, nonceR, nonce,
      peer, configured, localSelectors, remoteSelectors, narrowed, ke, shared, agreed, same⟩
    cases same
    exact ⟨sa, suite, number, remoteSpi, localSpi, nonceI, nonceR, peer, localSelectors, remoteSelectors, ke,
      shared, offered, selected, theirs, drawn, asked, nonce, configured, narrowed, agreed, rfl⟩
  · rintro ⟨sa, suite, number, remoteSpi, localSpi, nonceI, nonceR, peer, localSelectors, remoteSelectors, ke,
      shared, offered, selected, theirs, drawn, asked, nonce, configured, narrowed, agreed, rfl⟩
    exact ⟨sa, offered, suite, number, selected, remoteSpi, theirs, localSpi, drawn, nonceI, asked, nonceR, nonce,
      peer, configured, localSelectors, remoteSelectors, narrowed, ke, shared, agreed, rfl⟩

theorem acceptCreateChild_eq_ok {self : Runner} {ike : IkeRuntime}
    {payloads : List Payload} {handle : ChildSaHandle} :
    acceptCreateChild self ike pending payloads = .ok handle ↔
      ∃ sa suite number remoteSpi nonceR shared peer localSelectors remoteSelectors,
        findSa payloads = some sa ∧ selectEsp self.config.child.proposals sa = .ok (suite, number) ∧
        suite.dh = pending.suite.dh ∧ sa.head?.bind proposalSpi = some remoteSpi ∧
        findNonce payloads = some nonceR ∧ rekeyShared pending.keyPair (findKe payloads) = .ok shared ∧
        self.peer? = some peer ∧
        narrowResponseSelectors peer.selectors payloads = .ok (localSelectors, remoteSelectors) ∧
        handle = ike.childKeys self.config.child.mode pending.nonceI nonceR shared suite pending.localSpi
          remoteSpi localSelectors remoteSelectors := by
  simp only [acceptCreateChild, Except.bind_eq_ok, Except.guard_eq_ok, orThrow_eq_ok, Prod.exists, not_not]
  constructor
  · rintro ⟨sa, granted, suite, number, selected, group, remoteSpi, theirs, nonceR, nonce, shared, agreed, peer,
      configured, localSelectors, remoteSelectors, narrowed, same⟩
    cases same
    exact ⟨sa, suite, number, remoteSpi, nonceR, shared, peer, localSelectors, remoteSelectors, granted, selected,
      group, theirs, nonce, agreed, configured, narrowed, rfl⟩
  · rintro ⟨sa, suite, number, remoteSpi, nonceR, shared, peer, localSelectors, remoteSelectors, granted, selected,
      group, theirs, nonce, agreed, configured, narrowed, rfl⟩
    exact ⟨sa, granted, suite, number, selected, group, remoteSpi, theirs, nonceR, nonce, shared, agreed, peer,
      configured, localSelectors, remoteSelectors, narrowed, rfl⟩

/-- A rekey in which everything succeeds that the proposals do not decide: numbers are drawn, the selectors
overlap, and the key exchange of the group that was asked for computes. -/
structure RekeyReady (initiator responder : Runner) (asking answering : Env) (pending : PendingRekey)
    (request : List Payload) : Prop where
  first : initiator.config.child.proposals.head? = some pending.suite
  keyPair : rekeyKeyPair asking pending.suite.dh = .ok pending.keyPair
  draws : ∃ spi nonce, answering.randomU32 = .ok spi ∧ answering.nonce nonceLen = .ok nonce
  computes : ∀ pair, pending.keyPair = some pair → ∃ own secret shared,
    DhKeyPair.generate pair.group (answering.dhSecret pair.group) = .ok own ∧
      own.agree pair.publicKey = .ok secret ∧ pair.agree own.publicKey = .ok shared
  overlap : ∃ own other narrowed, initiator.peer? = some own ∧ responder.peer? = some other ∧
    request = rekeyPayloads initiator.config.child.proposals own.selectors pending.localSpi pending.nonceI
      pending.keyPair ∧
    narrowRequestSelectors other.selectors request = .ok narrowed

def RekeyAccepted (initiator responder : Runner) (ike other : IkeRuntime) (answering : Env)
    (pending : PendingRekey) (request : List Payload) : Prop :=
  ∃ answer handle, answerCreateChild responder answering other request = .ok answer ∧
    acceptCreateChild initiator ike pending answer.response = .ok handle ∧
    handle.suite = answer.handle.suite

/-- The key exchange of a ready rekey computes under the group that was asked for. -/
theorem RekeyReady.agrees {initiator responder : Runner}
    {request : List Payload} (ready : RekeyReady initiator responder asking answering pending request) :
    ∃ ke shared secret, answerKe answering pending.suite.dh
        (pending.keyPair.map fun pair => (pair.group.transformId, pair.publicKey)) = .ok (ke, shared) ∧
      rekeyShared pending.keyPair (findKe ke) = .ok secret := by
  rcases rekeyKeyPair_eq_ok ready.keyPair with ⟨keyless, none⟩ | ⟨keyed, pair, own, group⟩
  · rw [none]
    exact ⟨[], .none, .none, answerKe_eq_ok.mpr (.inl ⟨keyless, rfl, rfl, rfl⟩), rfl⟩
  · obtain ⟨other, secret, shared, generated, answered, completed⟩ := ready.computes pair own
    rw [group] at generated
    rw [own, ← group]
    rw [← group] at generated keyed
    exact ⟨[.ke pair.group.transformId other.publicKey], some secret, some shared, answerKe_eq_ok.mpr
      (.inr ⟨pair.publicKey, other, secret, keyed, rfl, generated, answered, rfl, rfl⟩),
      congrArg (some <$> ·) completed⟩

/-- The rekey is accepted on both sides exactly if the lists allow it. -/
theorem rekeyAccepted_iff {initiator responder : Runner} {ike other : IkeRuntime}
    {request : List Payload}
    (valid : ∀ proposal ∈ initiator.config.child.proposals, proposal.isValid = true)
    (usable : ∀ proposal ∈ responder.config.child.proposals, proposal.isValid = true)
    (ready : RekeyReady initiator responder asking answering pending request) :
    RekeyAccepted initiator responder ike other answering pending request ↔
      rekeyFits initiator.config.child.proposals responder.config.child.proposals = true := by
  obtain ⟨own, peer, ⟨localSide, remoteSide⟩, ownPeer, otherPeer, rfl, narrowed⟩ := ready.overlap
  have offers := selectEsp_buildEsp valid usable pending.localSpi
  simp only [rekeyFits, ready.first]
  constructor
  · rintro ⟨answer, handle, answered, accepted, _⟩
    obtain ⟨_, suite, number, _, localSpi, _, nonceR, _, localSelectors, remoteSelectors, ke, shared, offered, selected,
      _, _, _, _, _, _, agreed, rfl⟩ := answerCreateChild_eq_ok.mp answered
    obtain rfl := Option.some.inj offered
    cases fit : firstFit true initiator.config.child.proposals responder.config.child.proposals with
    | none =>
      simp only [fit] at offers
      obtain ⟨e, refused⟩ := offers
      rw [refused] at selected
      cases selected
    | some chosen =>
      simp only [fit] at offers ⊢
      obtain ⟨taken, chosenSelected, _⟩ := offers
      rw [chosenSelected] at selected
      obtain ⟨rfl, rfl⟩ := Prod.mk.inj (Except.ok.inj selected)
      rw [findKe_rekeyPayloads] at agreed
      have grants := selectEsp_espOffer valid (usable _ (firstFit_mem fit)) taken localSpi
      obtain ⟨_, _, _, _, _, _, _, _, _, granted, reselected, group, _⟩ := acceptCreateChild_eq_ok.mp accepted
      obtain rfl := Option.some.inj granted
      cases found : initiator.config.child.proposals.find? (chosen.fits true) with
      | none =>
        simp only [found] at grants
        obtain ⟨e, refused⟩ := grants
        rw [refused] at reselected
        cases reselected
      | some mine =>
        simp only [found] at grants
        rw [grants] at reselected
        cases reselected
        simp [answerKe_group ready.keyPair agreed, group]
  · intro fits
    cases fit : firstFit true initiator.config.child.proposals responder.config.child.proposals with
    | none => simp [fit] at fits
    | some chosen =>
      simp only [fit, Bool.and_eq_true, beq_iff_eq, Option.any_eq_true] at offers fits
      obtain ⟨group, mine, found, ownGroup⟩ := fits
      obtain ⟨number, selected, theirs⟩ := offers
      obtain ⟨spi, nonce, drawn, drawnNonce⟩ := ready.draws
      obtain ⟨ke, shared, secret, agreed, completed⟩ := ready.agrees
      have reads := rekeyResponse_reads (answerKe_lone agreed) [espOffer number spi chosen] nonce.val remoteSide
        localSide
      have asked := tsOfSide_rekeyPayloads initiator.config.child.proposals own.selectors pending.localSpi
        pending.nonceI pending.keyPair
      obtain ⟨nearSide, farSide, narrowedAgain, _⟩ :=
        narrowResponse_of_request asked.1 asked.2 reads.initiator reads.responder narrowed
      have grants := selectEsp_espOffer valid (usable chosen (firstFit_mem fit)) number spi
      simp only [found] at grants
      refine ⟨_, _, answerCreateChild_eq_ok.mpr ⟨_, chosen, number, pending.localSpi, spi, pending.nonceI, nonce, peer,
        localSide, remoteSide, ke, shared, findSa_rekeyPayloads .., selected, theirs, drawn,
        findNonce_rekeyPayloads .., drawnNonce, otherPeer, narrowed, ?_, rfl⟩,
        acceptCreateChild_eq_ok.mpr ⟨_, mine, number, spi, nonce.val, secret, own, nearSide, farSide, reads.sa, grants,
          ownGroup, proposalSpi_espOffer .., reads.nonce, ?_, ownPeer, narrowedAgain, rfl⟩, ?_⟩
      · rw [findKe_rekeyPayloads, group]
        exact agreed
      · rw [reads.ke]
        exact completed
      · have same := suite_of_fits (List.find?_some found)
        simp only [ChildProposal.suite, Prod.mk.injEq] at same
        rw [suite_childKeys, suite_childKeys, same.1, same.2.1, same.2.2]

/-- Two connections whose tunnel came up can rekey it from both sides exactly if their lists fit in both
directions. -/
theorem tunnel_rekeys_iff (left right : Runner) (leftIke rightIke : IkeRuntime)
    (valid : ∀ proposal ∈ left.config.child.proposals, proposal.isValid = true)
    (usable : ∀ proposal ∈ right.config.child.proposals, proposal.isValid = true) (spi : UInt32)
    (leftAsks rightAnswers rightAsks leftAnswers : Env) (leftPending rightPending : PendingRekey)
    (leftRequest rightRequest : List Payload)
    (ready : RekeyReady left right leftAsks rightAnswers leftPending leftRequest)
    (ready' : RekeyReady right left rightAsks leftAnswers rightPending rightRequest) :
    ((∃ selection, selectEspInitial right.config.child.proposals
        (buildEsp left.config.child.proposals spi false) = .ok selection) →
      RekeyAccepted left right leftIke rightIke rightAnswers leftPending leftRequest ∧
        RekeyAccepted right left rightIke leftIke leftAnswers rightPending rightRequest) ↔
    (SharedSuite left.config.child.proposals right.config.child.proposals →
      rekeyFits left.config.child.proposals right.config.child.proposals = true ∧
        rekeyFits right.config.child.proposals left.config.child.proposals = true) := by
  rw [selectEspInitial_iff valid usable, rekeyAccepted_iff valid usable ready,
    rekeyAccepted_iff usable valid ready']

end Rekey

section

attribute [local instance] checksumCrypto closedTls

def listRunner (own remote : UInt32) (proposals : List ChildProposal) : Runner :=
  .spawn { sampleConfig own remote true [1] with child := ⟨proposals, .tunnel, .fromSecs 3600⟩ }

def pfsPending : PendingRekey where
  keyPair := some ⟨.x25519, Crypto.dhPublic .x25519 [1, 13], .ephemeral [1, 13]⟩
  nonceI := List.replicate 32 13
  localSpi := 14
  suite := ⟨.aesGcm16_128, .none, false, .x25519⟩

def listRequest (own remote : UInt32) (proposals : List ChildProposal) (pending : PendingRekey) : List Payload :=
  rekeyPayloads proposals ⟨[host own], [host remote]⟩ pending.localSpi pending.nonceI pending.keyPair

def pfsProposals : List ChildProposal :=
  [⟨.aesGcm16_128, .none, false, .x25519⟩, ⟨.aesGcm16_256, .none, false, .x25519⟩]

theorem pfsReady :
    RekeyReady (listRunner 1 2 pfsProposals) (listRunner 2 1 pfsProposals) (sampleEnv 13) (sampleEnv 14) pfsPending
        (listRequest 1 2 pfsProposals pfsPending) ∧
      RekeyReady (listRunner 2 1 pfsProposals) (listRunner 1 2 pfsProposals) (sampleEnv 13) (sampleEnv 14)
        pfsPending (listRequest 2 1 pfsProposals pfsPending) := by
  refine ⟨⟨rfl, rfl, ⟨_, _, rfl, rfl⟩, ?_, ⟨_, _, _, rfl, rfl, rfl, rfl⟩⟩,
    ⟨rfl, rfl, ⟨_, _, rfl, rfl⟩, ?_, ⟨_, _, _, rfl, rfl, rfl, rfl⟩⟩⟩
  all_goals
    rintro pair own
    cases own
    exact ⟨_, _, _, rfl, rfl, rfl⟩

theorem tunnel_rekeys_pfs :
    RekeyAccepted (listRunner 1 2 pfsProposals) (listRunner 2 1 pfsProposals) (sampleIke .initiator)
        (sampleIke .responder) (sampleEnv 14) pfsPending (listRequest 1 2 pfsProposals pfsPending) ∧
      RekeyAccepted (listRunner 2 1 pfsProposals) (listRunner 1 2 pfsProposals) (sampleIke .responder)
        (sampleIke .initiator) (sampleEnv 14) pfsPending (listRequest 2 1 pfsProposals pfsPending) :=
  (tunnel_rekeys_iff (listRunner 1 2 pfsProposals) (listRunner 2 1 pfsProposals) (sampleIke .initiator)
    (sampleIke .responder) (by decide) (by decide) 7 (sampleEnv 13) (sampleEnv 14) (sampleEnv 13) (sampleEnv 14)
    pfsPending pfsPending _ _ pfsReady.1 pfsReady.2).mpr (by decide) ⟨_, rfl⟩

def plainPending : PendingRekey := ⟨none, List.replicate 32 13, 14, sampleChildProposal⟩

/-- The tunnel comes up between a host with a PFS group and one without. The host without it starts a rekey
and is refused. -/
theorem tunnel_rekey_refused :
    (∃ selection, selectEspInitial (listRunner 2 1 pfsProposals).config.child.proposals
        (buildEsp (listRunner 1 2 [sampleChildProposal]).config.child.proposals 7 false) = .ok selection) ∧
      RekeyReady (listRunner 1 2 [sampleChildProposal]) (listRunner 2 1 pfsProposals) (sampleEnv 13) (sampleEnv 14)
        plainPending (listRequest 1 2 [sampleChildProposal] plainPending) ∧
      ¬RekeyAccepted (listRunner 1 2 [sampleChildProposal]) (listRunner 2 1 pfsProposals) (sampleIke .initiator)
        (sampleIke .responder) (sampleEnv 14) plainPending (listRequest 1 2 [sampleChildProposal] plainPending) := by
  refine ⟨⟨_, rfl⟩, ⟨rfl, rfl, ⟨_, _, rfl, rfl⟩, ?_, ⟨_, _, _, rfl, rfl, rfl, rfl⟩⟩, ?_⟩
  · rintro pair own
    cases own
  · rintro ⟨answer, _, answered, _⟩
    cases answered

end

end Shuli.Ipsec
