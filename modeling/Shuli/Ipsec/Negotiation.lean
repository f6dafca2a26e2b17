import Shuli.Ipsec.Proposal

/-!
IKE proposal negotiation between two configurations: the responder selects from the offers the
initiator builds, and the initiator parses the selection back. An offer matches a configured
proposal exactly when it was built from that proposal, so the selection is the first proposal of
the initiator that the responder also lists.
-/

namespace Shuli.Ipsec

/-- A proposal that names a key exchange and protects its own integrity. -/
def IkeProposal.Real (proposal : IkeProposal) : Prop :=
  proposal.isValid = true ∧ proposal.dh ≠ .none

instance : DecidablePred IkeProposal.Real := fun _ => inferInstanceAs (Decidable (_ ∧ _))

/-- The offer of one proposal, or the selection that answers it, under a proposal number. -/
def ikeOffer (number : UInt8) (proposal : IkeProposal) : Proposal :=
  ⟨number, ProtocolId.IKE, [],
    ikeTransforms proposal.encryption proposal.prf proposal.integrity proposal.dh⟩

def ikeOffers (first : Nat) (proposals : List IkeProposal) : List Proposal :=
  proposals.mapIdx fun index proposal => ikeOffer (proposalNumber (first + index)) proposal

theorem buildIke_eq_ikeOffers (proposals : List IkeProposal) :
    buildIke proposals = ikeOffers 0 proposals := by
  simp only [buildIke, ikeOffers, ikeOffer, Nat.zero_add]

theorem ikeOffers_cons (first : Nat) (proposal : IkeProposal) (rest : List IkeProposal) :
    ikeOffers first (proposal :: rest) =
      ikeOffer (proposalNumber first) proposal :: ikeOffers (first + 1) rest := by
  simp [ikeOffers, Nat.add_assoc, Nat.add_comm 1]

theorem any_optional {α : Type*} (absent : Prop) [Decidable absent] (a : α) (f : α → Bool) :
    (if absent then [] else [a]).any f = (!decide absent && f a) := by
  by_cases held : absent <;> simp [held]

theorem hasEncryption_encryptionTransform (encryption wanted : EncryptionAlgorithm) :
    hasEncryption [encryptionTransform encryption] wanted = decide (encryption = wanted) := by
  cases encryption <;> cases wanted <;> decide

theorem offers_integrity {integrity wanted : IntegrityAlgorithm} (some : wanted ≠ .none) :
    (!decide (integrity = .none) && integrity.transformId == wanted.transformId) = decide (integrity = wanted) := by
  cases integrity <;> cases wanted <;> first | exact absurd rfl some | decide

theorem offers_dh {dh wanted : DhGroup} (some : wanted ≠ .none) :
    (!decide (dh = .none) && dh.transformId == wanted.transformId) = decide (dh = wanted) := by
  cases dh <;> cases wanted <;> first | exact absurd rfl some | decide

section Transforms

attribute [local simp] TransformType.ENCR TransformType.PRF TransformType.INTEG TransformType.DH

variable (encryption : EncryptionAlgorithm) (prf : PrfAlgorithm)
  (integrity : IntegrityAlgorithm) (dh : DhGroup)

theorem hasEncryption_ikeTransforms (wanted : EncryptionAlgorithm) :
    hasEncryption (ikeTransforms encryption prf integrity dh) wanted = decide (encryption = wanted) := by
  rw [← hasEncryption_encryptionTransform]
  simp [hasEncryption, ikeTransforms, any_optional]

theorem hasTransform_prf (wanted : PrfAlgorithm) :
    hasTransform (ikeTransforms encryption prf integrity dh) TransformType.PRF wanted.transformId =
      decide (prf = wanted) := by
  cases prf <;> cases wanted <;>
    simp [hasTransform, ikeTransforms, any_optional, encryptionTransform, PrfAlgorithm.transformId]

theorem hasTransform_integrity (wanted : IntegrityAlgorithm) (some : wanted ≠ .none) :
    hasTransform (ikeTransforms encryption prf integrity dh) TransformType.INTEG
      wanted.transformId = decide (integrity = wanted) := by
  rw [← offers_integrity some]
  simp [hasTransform, ikeTransforms, any_optional, encryptionTransform]

theorem hasTransform_dh (wanted : DhGroup) (some : wanted ≠ .none) :
    hasTransform (ikeTransforms encryption prf integrity dh) TransformType.DH wanted.transformId =
      decide (dh = wanted) := by
  rw [← offers_dh some]
  simp [hasTransform, ikeTransforms, any_optional, encryptionTransform]

end Transforms

/-- An offer matches a configured proposal exactly when it is that proposal's own. -/
theorem ikeOffer_matches {offered candidate : IkeProposal} (number : UInt8)
    (real : offered.Real) (known : candidate.Real) :
    transformOfferMatches (ikeOffer number offered).transforms candidate.encryption
      (some candidate.prf) candidate.integrity candidate.dh = true ↔ offered = candidate := by
  obtain ⟨cipher, prf, integrity, dh⟩ := offered
  obtain ⟨cipher', prf', integrity', dh'⟩ := candidate
  have own := real.1
  have other := known.1
  have grouped := known.2
  simp only [IkeProposal.isValid] at own other grouped
  simp only [transformOfferMatches, ikeOffer, hasEncryption_ikeTransforms, hasTransform_prf,
    hasTransform_dh _ _ _ _ _ grouped]
  by_cases plain : integrity' = .none
  · -- a combined-mode candidate leaves the integrity open; the offer's own validity settles it
    subst plain
    have aead : cipher'.isAead = true := by simpa using other
    constructor
    · intro accepted
      simp_all
    · rintro ⟨rfl, rfl, rfl, rfl⟩
      simp [aead]
  · simp only [hasTransform_integrity _ _ _ _ _ plain]
    constructor
    · intro accepted
      simp_all
    · rintro ⟨rfl, rfl, rfl, rfl⟩
      simp [plain]

section Selection

variable {configured : List IkeProposal} (usable : ∀ proposal ∈ configured, proposal.Real)
include usable

/-- Selection takes the head offer when its proposal is configured and goes on otherwise. -/
theorem selectIke_ikeOffer (number : UInt8) {proposal : IkeProposal} (real : proposal.Real)
    (received : List Proposal) :
    selectIke configured (ikeOffer number proposal :: received) =
      if proposal ∈ configured then .ok (proposal, number) else selectIke configured received := by
  rw [selectIke, if_neg (by simp [ikeOffer])]
  by_cases listed : proposal ∈ configured
  · rw [if_pos listed]
    cases found : configured.find? fun candidate =>
        transformOfferMatches (ikeOffer number proposal).transforms candidate.encryption
          (some candidate.prf) candidate.integrity candidate.dh with
    | none =>
      have refused := List.find?_eq_none.mp found proposal listed
      exact absurd ((ikeOffer_matches number real real).mpr rfl) refused
    | some candidate =>
      have fits := List.find?_some found
      have known := usable candidate (List.mem_of_find?_eq_some found)
      rw [(ikeOffer_matches number real known).mp fits]
      rfl
  · rw [if_neg listed]
    have unmatched : configured.find? (fun candidate =>
        transformOfferMatches (ikeOffer number proposal).transforms candidate.encryption
          (some candidate.prf) candidate.integrity candidate.dh) = none := by
      refine List.find?_eq_none.mpr fun candidate member fits => listed ?_
      rw [(ikeOffer_matches number real (usable candidate member)).mp fits]
      exact member
    rw [unmatched]

/-- What selection returns on the offers of a list, by induction along that list. -/
theorem selectIke_ikeOffers (offered : List IkeProposal) (real : ∀ proposal ∈ offered, proposal.Real) (first : Nat) :
    match selectIke configured (ikeOffers first offered) with
    | .ok (chosen, number) => ∃ index, offered[index]? = some chosen ∧ chosen ∈ configured ∧
        number = proposalNumber (first + index) ∧
        ∀ earlier < index, ∀ proposal, offered[earlier]? = some proposal → proposal ∉ configured
    | .error _ => ∀ proposal ∈ offered, proposal ∉ configured := by
  induction offered generalizing first with
  | nil => simp [ikeOffers, selectIke]
  | cons proposal rest ih =>
    rw [ikeOffers_cons, selectIke_ikeOffer usable _ (real proposal List.mem_cons_self)]
    by_cases listed : proposal ∈ configured
    · rw [if_pos listed]
      exact ⟨0, rfl, listed, rfl, fun _ below => absurd below (Nat.not_lt_zero _)⟩
    · rw [if_neg listed]
      have later := ih (fun other member => real other (List.mem_cons_of_mem _ member)) (first + 1)
      revert later
      cases selectIke configured (ikeOffers (first + 1) rest) with
      | error _ =>
        simpa [listed] using none_listed
      | ok selection =>
        rintro ⟨index, chosen, member, number, before⟩
        refine ⟨index + 1, by simpa using chosen, member, ?_, ?_⟩
        · rw [number, Nat.add_right_comm, Nat.add_assoc]
        · intro earlier below other offered
          cases earlier with
          | zero =>
            obtain rfl : proposal = other := by simpa using offered
            exact listed
          | succ earlier =>
            exact before earlier (Nat.lt_of_succ_lt_succ below) other (by simpa using offered)

end Selection

theorem parseSelectedIke_ikeOffer (number : UInt8) {proposal : IkeProposal}
    (real : proposal.Real) : parseSelectedIke [ikeOffer number proposal] = .ok proposal := by
  obtain ⟨cipher, prf, integrity, dh⟩ := proposal
  have grouped : dh ≠ .none := real.2
  cases cipher <;> cases prf <;> cases integrity <;> cases dh <;>
    first | exact absurd rfl grouped | rfl

theorem toNat_proposalNumber {index : Nat} (small : index < 255) :
    (proposalNumber index).toNat = index + 1 := by
  rw [proposalNumber, UInt8.toNat_ofNat_of_lt']
  exact Nat.succ_lt_succ small

/-- The responder's choice is the first proposal of the initiator that it lists itself, it exists
exactly when the two lists share a proposal, and the initiator parses the same proposal back. -/
theorem ike_negotiation_agrees (initiator responder : List IkeProposal)
    (offers : ∀ proposal ∈ initiator, proposal.Real)
    (usable : ∀ proposal ∈ responder, proposal.Real) (short : initiator.length ≤ 255) :
    ((∃ selection, selectIke responder (buildIke initiator) = .ok selection) ↔
      ∃ proposal, proposal ∈ initiator ∧ proposal ∈ responder) ∧
    ∀ chosen number, selectIke responder (buildIke initiator) = .ok (chosen, number) →
      chosen ∈ responder ∧ 1 ≤ number.toNat ∧ initiator[number.toNat - 1]? = some chosen ∧
      (∀ earlier, 1 ≤ earlier → earlier < number.toNat →
        ∀ proposal, initiator[earlier - 1]? = some proposal → proposal ∉ responder) ∧
      parseSelectedIke [ikeOffer number chosen] = .ok chosen := by
  have outcome := selectIke_ikeOffers usable initiator offers 0
  rw [← buildIke_eq_ikeOffers] at outcome
  cases selected : selectIke responder (buildIke initiator) with
  | error failure =>
    rw [selected] at outcome
    refine ⟨⟨fun ⟨_, success⟩ => (nomatch success), ?_⟩, fun _ _ success => (nomatch success)⟩
    rintro ⟨proposal, offered, listed⟩
    exact absurd listed (outcome proposal offered)
  | ok selection =>
    rw [selected] at outcome
    obtain ⟨index, position, listed, numbered, first⟩ := outcome
    have inside : index < initiator.length := (List.getElem?_eq_some_iff.mp position).1
    have count : selection.2.toNat = index + 1 := by
      rw [numbered, Nat.zero_add, toNat_proposalNumber (by omega)]
    refine ⟨⟨fun _ => ⟨selection.1, List.mem_of_getElem? position, listed⟩,
      fun _ => ⟨selection, rfl⟩⟩, ?_⟩
    intro chosen number same
    obtain rfl : selection = (chosen, number) := Except.ok.inj same
    change number.toNat = index + 1 at count
    refine ⟨listed, by omega, by simpa [count] using position, ?_, ?_⟩
    · intro earlier positive below proposal offered
      exact first (earlier - 1) (by omega) proposal offered
    · exact parseSelectedIke_ikeOffer number (usable chosen listed)

/-- A responder that lists only the initiator's second proposal selects number two. -/
theorem ike_negotiation_agrees_second :
    let fast : IkeProposal := ⟨.aesGcm16_256, .hmacSha2_256, .none, .x25519⟩
    let plain : IkeProposal := ⟨.aesCbc256, .hmacSha2_256, .hmacSha2_256_128, .modp2048⟩
    selectIke [plain] (buildIke [fast, plain]) = .ok (plain, 2) ∧
      parseSelectedIke [ikeOffer 2 plain] = .ok plain := by
  refine ⟨by decide, ?_⟩
  have agreed := ike_negotiation_agrees
    [⟨.aesGcm16_256, .hmacSha2_256, .none, .x25519⟩,
      ⟨.aesCbc256, .hmacSha2_256, .hmacSha2_256_128, .modp2048⟩]
    [⟨.aesCbc256, .hmacSha2_256, .hmacSha2_256_128, .modp2048⟩] (by decide) (by decide) (by decide)
  exact (agreed.2 _ 2 (by decide)).2.2.2.2

end Shuli.Ipsec
