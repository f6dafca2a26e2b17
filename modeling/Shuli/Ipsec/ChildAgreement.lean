import Shuli.Ipsec.ChildNegotiation
import Shuli.Ipsec.LawfulCrypto

/-!
The Child SAs at the two ends of one exchange. The ends share an IKE SA in opposite roles; the payloads that
one of them opens are those that the other sealed. Both selections name the same suite, both ends cut the
same KEYMAT, and what the responder narrowed is narrowed again by the selectors that were asked for.
-/

namespace Shuli.Ipsec

open Shuli.Core

structure Mirrored (ike other : IkeRuntime) : Prop where
  suite : other.suite = ike.suite
  skD : other.keys.skD = ike.keys.skD
  nonceI : other.nonceI = ike.nonceI
  nonceR : other.nonceR = ike.nonceR
  role : ike.role = .initiator ↔ other.role = .responder

/-- Two handles describe the two ends of one tunnel. -/
structure SameTunnel (near far : ChildSaHandle) : Prop where
  spis : near.localSpi = far.remoteSpi ∧ near.remoteSpi = far.localSpi
  suite : near.suite = far.suite
  keys : near.outboundKey = far.inboundKey ∧ near.inboundKey = far.outboundKey
  integrityKeys : near.outboundIntegrityKey = far.inboundIntegrityKey ∧
    near.inboundIntegrityKey = far.outboundIntegrityKey
  localSelectors : ∀ address port protocol,
    AdmittedBy near.localSelectors address port protocol ↔ AdmittedBy far.remoteSelectors address port protocol
  remoteSelectors : ∀ address port protocol,
    AdmittedBy near.remoteSelectors address port protocol ↔ AdmittedBy far.localSelectors address port protocol

variable {ike other : IkeRuntime}

theorem Mirrored.opposite (mirrored : Mirrored ike other) :
    other.role.isInitiator = !ike.role.isInitiator := by
  have role := mirrored.role
  cases one : ike.role <;> cases two : other.role <;> simp_all [Role.isInitiator]

/-! Selections -/

theorem selected_suite (includeDh : Bool) (proposal : ChildProposal) :
    (proposal.selected includeDh).suite = proposal.suite := by
  cases includeDh <;> rfl

/-- What the responder selects is of its own list, and stands under the initiator's SPI. -/
theorem selectEspWithDh_of_offers {offered configured : List ChildProposal} {spi : UInt32} {includeDh : Bool}
    {suite : ChildProposal} {number : UInt8} (valid : ∀ proposal ∈ offered, proposal.isValid = true)
    (usable : ∀ proposal ∈ configured, proposal.isValid = true)
    (selected : selectEspWithDh configured includeDh (buildEsp offered spi includeDh) = .ok (suite, number)) :
    (∃ candidate ∈ configured, suite = candidate.selected includeDh) ∧
      ∀ wanted : Proposal → Bool,
        (∀ number' spi' proposal, wanted (espOffer number' spi' proposal) = (number' == number)) →
        ((buildEsp offered spi includeDh).find? wanted).bind proposalSpi = some spi := by
  have outcome := selectEspWithDh_espOffers usable includeDh spi valid 0
  rw [buildEsp_eq_espOffers] at selected ⊢
  cases fit : firstFit includeDh offered configured with
  | none =>
    simp only [fit] at outcome
    obtain ⟨e, refused⟩ := outcome
    rw [refused] at selected
    cases selected
  | some chosen =>
    simp only [fit] at outcome
    obtain ⟨taken, same, offer, member, numbered⟩ := outcome
    rw [same] at selected
    obtain ⟨rfl, rfl⟩ := Prod.mk.inj (Except.ok.inj selected)
    refine ⟨⟨chosen, firstFit_mem fit, rfl⟩, fun wanted by_number => find?_espOffers_spi ⟨offer, member, ?_⟩⟩
    obtain ⟨index, bound, rfl⟩ := List.mem_mapIdx.mp member
    rw [by_number, ← numbered]
    exact BEq.rfl

theorem selectEspWithDh_of_grant {configured : List ChildProposal} {includeDh : Bool}
    {proposal suite : ChildProposal} {number number' : UInt8} {spi : UInt32}
    (usable : ∀ proposal ∈ configured, proposal.isValid = true) (valid : proposal.isValid = true)
    (selected : selectEspWithDh configured includeDh [espOffer number spi (proposal.selected includeDh)] =
      .ok (suite, number')) : number' = number ∧ suite.suite = proposal.suite := by
  rw [selectEspWithDh, find?_espOffer usable valid] at selected
  cases found : configured.find? (proposal.fits includeDh) with
  | none =>
    rw [found] at selected
    cases selected
  | some own =>
    rw [found] at selected
    obtain ⟨rfl, rfl⟩ := Prod.mk.inj (Except.ok.inj selected)
    exact ⟨rfl, (selected_suite includeDh own).trans (suite_of_fits (List.find?_some found))⟩

section

variable {payloads : List Payload} {peer : PeerConfig}

theorem modp_agree {exponent other : Nat} :
    (beNat (beOctets 256 (2 ^ exponent % modpPrime))) ^ other % modpPrime =
      (beNat (beOctets 256 (2 ^ other % modpPrime))) ^ exponent % modpPrime := by
  have small (value : Nat) : value % modpPrime % 256 ^ 256 = value % modpPrime :=
    Nat.mod_eq_of_lt (lt_trans (Nat.mod_lt _ (by decide)) (by decide))
  rw [beNat_beOctets, beNat_beOctets, small, small, ← Nat.pow_mod, ← Nat.pow_mod, ← Nat.pow_mul, ← Nat.pow_mul,
    Nat.mul_comm]

/-! Payloads -/

theorem tsOfSide_append (side : Bool) (first second : List Payload) :
    tsOfSide side (first ++ second) = tsOfSide side first ++ tsOfSide side second :=
  List.flatMap_append

/-- The payloads carry neither proposals nor traffic selectors. -/
structure Childless (payloads : List Payload) : Prop where
  sa : findSa payloads = none
  ts : ∀ side, tsOfSide side payloads = []

theorem Childless.append {first second : List Payload} (one : Childless first) (two : Childless second) :
    Childless (first ++ second) where
  sa := by rw [findSa, List.findSome?_append, ← findSa, one.sa, Option.none_or]; exact two.sa
  ts side := by rw [tsOfSide_append, one.ts, two.ts, List.append_nil]

theorem Childless.of_forall
    (all : ∀ payload ∈ payloads, findSa [payload] = none ∧ ∀ side, tsOfSide side [payload] = []) :
    Childless payloads := by
  induction payloads with
  | nil => exact ⟨rfl, fun _ => rfl⟩
  | cons payload payloads ih =>
    rw [List.forall_mem_cons] at all
    exact Childless.append ⟨all.1.1, all.1.2⟩ (ih all.2)

theorem Childless.reads {front : List Payload} (front' : Childless front) (sa : List Proposal)
    (initiator responder : List TrafficSelector) :
    findSa (front ++ [.sa sa, tsPayload true initiator, tsPayload false responder]) = some sa ∧
      tsOfSide true (front ++ [.sa sa, tsPayload true initiator, tsPayload false responder]) = initiator ∧
      tsOfSide false (front ++ [.sa sa, tsPayload true initiator, tsPayload false responder]) = responder := by
  refine ⟨?_, ?_, ?_⟩
  · rw [findSa, List.findSome?_append, ← findSa, front'.sa]
    rfl
  · rw [tsOfSide_append, front'.ts]
    simp [tsOfSide, tsPayload, Function.comp_def]
  · rw [tsOfSide_append, front'.ts]
    simp [tsOfSide, tsPayload, Function.comp_def]

theorem Childless.certificates (chain : List Octets) : Childless (certificatePayloads chain) := by
  refine .of_forall fun payload member => ?_
  obtain ⟨_, _, rfl⟩ := List.mem_map.mp member
  exact ⟨rfl, fun _ => rfl⟩

theorem IpsecConfig.child_valid {config : IpsecConfig} (valid : config.validate = .ok ()) :
    ∀ proposal ∈ config.child.proposals, proposal.isValid = true := by
  simp only [IpsecConfig.validate, Except.guard_eq_ok] at valid
  obtain ⟨_, _, _, _, _, _, valid, _⟩ := valid
  simpa using valid

/-! Keys -/

variable [Crypto]

theorem modp_agree_eq_ok {publicKey peerPublic secret : Octets} {exponent : Nat}
    (agreed : DhKeyPair.agree ⟨.modp2048, publicKey, .modp exponent⟩ peerPublic = .ok secret) :
    ¬(beNat peerPublic ≤ 1 ∨ beNat peerPublic ≥ modpPrime - 1) ∧
      beOctets 256 (beNat peerPublic ^ exponent % modpPrime) = secret := by
  simp only [DhKeyPair.agree] at agreed
  split at agreed
  · cases agreed
  · rename_i range
    exact ⟨range, Except.ok.inj agreed⟩

theorem ephemeral_agree_eq_ok {group : DhGroup} {publicKey peerPublic own secret : Octets}
    (agreed : DhKeyPair.agree ⟨group, publicKey, .ephemeral own⟩ peerPublic = .ok secret) :
    Crypto.dhAgree group own peerPublic = some secret := by
  simp only [DhKeyPair.agree] at agreed
  split at agreed
  · rename_i shared computed
    cases agreed
    exact computed
  · cases agreed

/-- Both ends of a key exchange that was generated compute the same secret. -/
theorem agree_comm [LawfulCrypto] {dh : DhGroup} {random random' : Except IpsecError Octets}
    {own other : DhKeyPair} {secret shared : Octets} (generated : DhKeyPair.generate dh random = .ok own)
    (generated' : DhKeyPair.generate dh random' = .ok other) (agreed : own.agree other.publicKey = .ok secret)
    (agreed' : other.agree own.publicKey = .ok shared) : secret = shared := by
  cases dh <;> simp only [DhKeyPair.generate, Except.bind_eq_ok] at generated generated'
  case none => cases generated
  case modp2048 =>
    obtain ⟨_, _, same⟩ := generated
    obtain ⟨_, _, same'⟩ := generated'
    cases same
    cases same'
    obtain ⟨_, rfl⟩ := modp_agree_eq_ok agreed
    obtain ⟨_, rfl⟩ := modp_agree_eq_ok agreed'
    rw [modp_agree]
  all_goals
    obtain ⟨first, _, same⟩ := generated
    obtain ⟨second, _, same'⟩ := generated'
    cases same
    cases same'
    have one := ephemeral_agree_eq_ok agreed
    have two := ephemeral_agree_eq_ok agreed'
    rw [LawfulCrypto.dh_agree_comm, two] at one
    exact (Option.some.inj one).symm

/-- Two ends of an IKE SA cut the same keys for opposite directions. -/
theorem childKeys_mirror (mirrored : Mirrored ike other) (mode mode' : ChildMode)
    (nonceI nonceR : Octets) (shared : Option Octets) {suite suite' : ChildProposal} (same : suite'.suite = suite.suite)
    (localSpi remoteSpi : UInt32)
    {localSelectors remoteSelectors localSelectors' remoteSelectors' : List TrafficSelector}
    (near : ∀ address port protocol,
      AdmittedBy localSelectors address port protocol ↔ AdmittedBy remoteSelectors' address port protocol)
    (far : ∀ address port protocol,
      AdmittedBy remoteSelectors address port protocol ↔ AdmittedBy localSelectors' address port protocol) :
    SameTunnel
      (ike.childKeys mode nonceI nonceR shared suite localSpi remoteSpi localSelectors remoteSelectors)
      (other.childKeys mode' nonceI nonceR shared suite' remoteSpi localSpi localSelectors' remoteSelectors') := by
  simp only [ChildProposal.suite, Prod.mk.injEq] at same
  obtain ⟨encryption, integrity, esn⟩ := same
  have prf : other.suite.prf = ike.suite.prf := by rw [mirrored.suite]
  have opposite := mirrored.opposite
  refine ⟨⟨rfl, rfl⟩, ?_, ?_, ?_, near, far⟩
  · rw [suite_childKeys, suite_childKeys, encryption, integrity, esn]
  · cases role : ike.role.isInitiator <;>
      simp [IkeRuntime.childKeys, deriveChildKeys, role, opposite, prf, mirrored.skD, encryption, integrity]
  · cases role : ike.role.isInitiator <;>
      simp [IkeRuntime.childKeys, deriveChildKeys, role, opposite, prf, mirrored.skD, encryption, integrity]

/-- Both ends of a rekey have the same shared secret, or none. -/
theorem rekeyShared_eq [LawfulCrypto] {asking answering : Env} {dh chosen : DhGroup} {keyPair : Option DhKeyPair}
    {ke : List Payload} {shared secret : Option Octets} (made : rekeyKeyPair asking dh = .ok keyPair)
    (answered : answerKe answering chosen (keyPair.map fun pair => (pair.group.transformId, pair.publicKey)) =
      .ok (ke, shared))
    (completed : rekeyShared keyPair (findKe ke) = .ok secret) : secret = shared := by
  have group := answerKe_group made answered
  subst group
  unfold rekeyKeyPair at made
  split at made
  · rename_i keyed
    cases generated : DhKeyPair.generate chosen (asking.dhSecret chosen) with
    | error e => rw [generated] at made; cases made
    | ok pair =>
      rw [generated] at made
      cases made
      rcases answerKe_eq_ok.mp answered with ⟨keyless, _⟩ | ⟨_, own, _, _, asked, generated', agreed, rfl, rfl⟩
      · exact absurd keyless keyed
      · obtain ⟨_, rfl⟩ := Prod.mk.inj (Option.some.inj asked)
        change some <$> pair.agree own.publicKey = .ok secret at completed
        cases mine : pair.agree own.publicKey with
        | error e => rw [mine] at completed; cases completed
        | ok same =>
          rw [mine] at completed
          cases completed
          rw [agree_comm generated generated' mine agreed]
  · cases made
    rcases answerKe_eq_ok.mp answered with ⟨_, _, rfl, rfl⟩ | ⟨_, _, _, _, asked, _⟩
    · cases completed
      rfl
    · cases asked

variable [Tls]

/-! CREATE_CHILD_SA -/

/-- A rekey that both ends complete: the responder answers the request of `pending`, the initiator accepts
the answer. -/
structure RekeyCompleted (initiator responder : Runner) (ike other : IkeRuntime) (near far : ChildSaHandle) :
    Prop where
  made : ∃ (asking answering : Env) (pending : PendingRekey) (peer : PeerConfig) (response : List Payload),
    rekeyKeyPair asking pending.suite.dh = .ok pending.keyPair ∧ initiator.peer? = some peer ∧
    answerCreateChild responder answering other (rekeyPayloads initiator.config.child.proposals peer.selectors
      pending.localSpi pending.nonceI pending.keyPair) = .ok ⟨response, far⟩ ∧
    acceptCreateChild initiator ike pending response = .ok near

/-- Both ends of a completed rekey hold the same tunnel. -/
theorem RekeyCompleted.sameTunnel [LawfulCrypto] {initiator responder : Runner}
    {near far : ChildSaHandle} (mirrored : Mirrored ike other)
    (valid : ∀ proposal ∈ initiator.config.child.proposals, proposal.isValid = true)
    (usable : ∀ proposal ∈ responder.config.child.proposals, proposal.isValid = true)
    (completed : RekeyCompleted initiator responder ike other near far) : SameTunnel near far := by
  obtain ⟨asking, answering, pending, peer, response, made, ownPeer, answered, accepted⟩ := completed.made
  obtain ⟨_, suite, number, remoteSpi, localSpi, nonceI, nonceR, otherPeer, localSelectors, remoteSelectors, ke,
    shared, offered, selected, theirs, _, nonce, _, _, narrowed, agreed, same⟩ := answerCreateChild_eq_ok.mp answered
  obtain ⟨rfl, rfl⟩ := ChildAnswer.mk.inj same
  have reads := rekeyResponse_reads (answerKe_lone agreed) [espOffer number localSpi suite] nonceR.val
    remoteSelectors localSelectors
  obtain ⟨_, suite', number', _, _, secret, _, nearSide, farSide, granted, reselected, _, spi, nonce',
    agreed', samePeer, narrowedAgain, rfl⟩ := acceptCreateChild_eq_ok.mp accepted
  obtain rfl := Option.some.inj offered
  obtain ⟨⟨candidate, known, chosen⟩, found⟩ := selectEspWithDh_of_offers valid usable selected
  obtain rfl : suite = candidate := chosen
  rw [found _ fun _ _ _ => rfl] at theirs
  rw [findNonce_rekeyPayloads] at nonce
  rw [findKe_rekeyPayloads] at agreed
  rw [reads.nonce] at nonce'
  rw [reads.ke] at agreed'
  rw [ownPeer] at samePeer
  obtain rfl := Option.some.inj theirs
  obtain rfl := Option.some.inj nonce
  obtain rfl := Option.some.inj granted
  obtain rfl := Option.some.inj nonce'
  obtain rfl := Option.some.inj samePeer
  obtain rfl := Option.some.inj ((proposalSpi_espOffer ..).symm.trans spi)
  obtain ⟨_, suites⟩ := @selectEspWithDh_of_grant _ true _ _ _ _ _ valid (usable suite known) reselected
  have asked := tsOfSide_rekeyPayloads initiator.config.child.proposals peer.selectors pending.localSpi
    pending.nonceI pending.keyPair
  obtain ⟨_, _, again, near, far⟩ :=
    narrowResponse_of_request asked.1 asked.2 reads.initiator reads.responder narrowed
  rw [again] at narrowedAgain
  obtain ⟨rfl, rfl⟩ := Prod.mk.inj (Except.ok.inj narrowedAgain)
  rw [rekeyShared_eq made agreed agreed']
  exact childKeys_mirror mirrored _ _ _ _ _ suites.symm _ _ near far

/-! IKE_AUTH -/

omit [Crypto] in
theorem Childless.localIdPayload (self : Runner) (initiator : Bool) : Childless [self.localIdPayload initiator] := by
  unfold Runner.localIdPayload
  split <;> exact ⟨rfl, fun _ => rfl⟩

omit [Crypto] in
theorem Childless.configRequest (self : Runner) : Childless (configRequest self) := by
  simp only [Ipsec.configRequest]
  split <;> exact ⟨rfl, fun _ => rfl⟩

theorem authOpening_childless {self : Runner} {ike : IkeRuntime} {opening : AuthOpening}
    (opened : authOpening self peer ike = .ok opening) : Childless opening.payloads := by
  obtain ⟨_, _, opened⟩ := Except.bind_eq_ok.mp opened
  split at opened
  · cases opened
    exact ⟨rfl, fun _ => rfl⟩
  · obtain ⟨credentials, _, opened⟩ := Except.bind_eq_ok.mp opened
    obtain ⟨auth, _, opened⟩ := Except.bind_eq_ok.mp opened
    cases opened
    refine ((Childless.certificates _).append (.of_forall fun payload member => ?_)).append
      ⟨rfl, fun _ => rfl⟩
    obtain ⟨_, _, rfl⟩ := List.mem_map.mp member
    exact ⟨rfl, fun _ => rfl⟩
  · obtain ⟨_, _, opened⟩ := Except.bind_eq_ok.mp opened
    cases opened
    exact ⟨rfl, fun _ => rfl⟩

/-- What the answer to an IKE_AUTH request was made of. -/
theorem answerAuth_eq_ok {self : Runner} {env : Env} {ike : IkeRuntime} {answer : ChildAnswer}
    {signed auth : Octets} (answered : answerAuth self env peer ike payloads = .ok (answer, signed, auth)) :
    ∃ sa suite number remoteSpi localSpi localSelectors remoteSelectors front,
      findSa payloads = some sa ∧ selectEspInitial self.config.child.proposals sa = .ok (suite, number) ∧
      (sa.find? fun proposal => proposal.number == number && proposal.protocol == ProtocolId.ESP).bind proposalSpi =
        some remoteSpi ∧
      narrowRequestSelectors peer.selectors payloads = .ok (localSelectors, remoteSelectors) ∧ Childless front ∧
      answer = ⟨front ++ [.sa [espOffer number localSpi suite], tsPayload true remoteSelectors,
          tsPayload false localSelectors],
        ike.childKeys self.config.child.mode ike.nonceI ike.nonceR none suite localSpi remoteSpi localSelectors
          remoteSelectors⟩ := by
  simp only [answerAuth, Except.bind_eq_ok, orThrow_eq_ok, Prod.exists] at answered
  obtain ⟨sa, offered, suite, number, selected, remoteSpi, theirs, localSpi, _, localSelectors, remoteSelectors,
    narrowed, _, _, credentials, _, made, same⟩ := answered
  cases same
  have bare : Childless credentials := by
    split at made
    · cases made
      exact ⟨rfl, fun _ => rfl⟩
    · obtain ⟨_, _, made⟩ := Except.bind_eq_ok.mp made
      obtain ⟨_, _, made⟩ := Except.bind_eq_ok.mp made
      cases made
      exact (Childless.certificates _).append ⟨rfl, fun _ => rfl⟩
    · cases made
  exact ⟨sa, suite, number, remoteSpi, localSpi, localSelectors, remoteSelectors, _, offered, selected, theirs,
    narrowed, (Childless.localIdPayload self false).append bare, rfl⟩

theorem acceptAuth_eq_ok {self : Runner} {ike : IkeRuntime}
    {handle : ChildSaHandle} (accepted : acceptAuth self peer ike payloads = .ok handle) :
    ∃ sa suite number remoteSpi localSelectors remoteSelectors,
      findSa payloads = some sa ∧ selectEspInitial self.config.child.proposals sa = .ok (suite, number) ∧
      (sa.find? fun proposal => proposal.number == number && proposal.protocol == ProtocolId.ESP).bind proposalSpi =
        some remoteSpi ∧
      narrowResponseSelectors peer.selectors payloads = .ok (localSelectors, remoteSelectors) ∧
      handle = ike.childKeys self.config.child.mode ike.nonceI ike.nonceR none suite ike.localChildSpi remoteSpi
        localSelectors remoteSelectors := by
  simp only [acceptAuth, Except.bind_eq_ok, orThrow_eq_ok, Prod.exists] at accepted
  obtain ⟨sa, granted, suite, number, selected, remoteSpi, theirs, localSelectors, remoteSelectors, narrowed, same⟩ :=
    accepted
  cases same
  exact ⟨sa, suite, number, remoteSpi, localSelectors, remoteSelectors, granted, selected, theirs, narrowed, rfl⟩

structure AuthCompleted (initiator responder : Runner) (ike other : IkeRuntime) (near far : ChildSaHandle) :
    Prop where
  made : ∃ (answering : Env) (own peer : PeerConfig) (opening : AuthOpening) (response : List Payload)
      (signed auth : Octets),
    authOpening initiator own ike = .ok opening ∧
    answerAuth responder answering peer other (authPayloads initiator own ike opening) =
      .ok (⟨response, far⟩, signed, auth) ∧
    acceptAuth initiator own ike response = .ok near

/-- Both ends of a completed IKE_AUTH exchange hold the same tunnel. -/
theorem AuthCompleted.sameTunnel {initiator responder : Runner} {near far : ChildSaHandle}
    (mirrored : Mirrored ike other) (valid : ∀ proposal ∈ initiator.config.child.proposals, proposal.isValid = true)
    (usable : ∀ proposal ∈ responder.config.child.proposals, proposal.isValid = true)
    (completed : AuthCompleted initiator responder ike other near far) : SameTunnel near far := by
  obtain ⟨answering, own, peer, opening, response, signed, auth, opened, answered, accepted⟩ := completed.made
  have front := ((Childless.localIdPayload initiator true).append (authOpening_childless opened)).append
    (Childless.configRequest initiator)
  have request := front.reads (buildEsp initiator.config.child.proposals ike.localChildSpi false)
    own.selectors.localSide own.selectors.remoteSide
  obtain ⟨_, suite, number, remoteSpi, localSpi, localSelectors, remoteSelectors, front', offered, selected, theirs,
    narrowed, bare, same⟩ := answerAuth_eq_ok answered
  obtain ⟨rfl, rfl⟩ := ChildAnswer.mk.inj same
  have reads := bare.reads [espOffer number localSpi suite] remoteSelectors localSelectors
  obtain ⟨_, suite', number', _, nearSide, farSide, granted, reselected, spi, narrowedAgain, rfl⟩ :=
    acceptAuth_eq_ok accepted
  obtain rfl := Option.some.inj (request.1.symm.trans offered)
  obtain ⟨⟨candidate, known, rfl⟩, found⟩ := selectEspWithDh_of_offers valid usable selected
  rw [found _ fun _ _ _ => by simp [espOffer]] at theirs
  rw [reads.1] at granted
  obtain rfl := Option.some.inj theirs
  obtain rfl := Option.some.inj granted
  obtain ⟨numbers, suites⟩ := selectEspWithDh_of_grant valid (usable candidate known) reselected
  obtain ⟨_, _, again, near, far⟩ := narrowResponse_of_request request.2.1 request.2.2 reads.2.1 reads.2.2 narrowed
  rw [again] at narrowedAgain
  obtain ⟨rfl, rfl⟩ := Prod.mk.inj (Except.ok.inj narrowedAgain)
  have grantedSpi : ([espOffer number localSpi (candidate.selected false)].find? fun proposal =>
      proposal.number == number && proposal.protocol == ProtocolId.ESP).bind proposalSpi = some localSpi := by
    rw [List.find?_cons_of_pos (by simp [espOffer])]
    exact proposalSpi_espOffer ..
  rw [numbers, grantedSpi] at spi
  obtain rfl := Option.some.inj spi
  rw [mirrored.nonceI, mirrored.nonceR]
  exact childKeys_mirror mirrored _ _ _ _ _ ((selected_suite false candidate).trans suites.symm) _ _ near far

/-- Whenever two connections with a common IKE SA complete an IKE_AUTH exchange, or a CREATE_CHILD_SA exchange
that either of them started, they hold the two ends of one tunnel. -/
theorem both_ends_same_tunnel [LawfulCrypto] (initiator responder : Runner) (ike other : IkeRuntime)
    (near far : ChildSaHandle) (valid : initiator.config.validate = .ok ())
    (usable : responder.config.validate = .ok ()) (mirrored : Mirrored ike other)
    (completed : AuthCompleted initiator responder ike other near far ∨
      RekeyCompleted initiator responder ike other near far) : SameTunnel near far := by
  rcases completed with auth | rekey
  · exact auth.sameTunnel mirrored (IpsecConfig.child_valid valid) (IpsecConfig.child_valid usable)
  · exact rekey.sameTunnel mirrored (IpsecConfig.child_valid valid) (IpsecConfig.child_valid usable)

end

section

attribute [local instance] checksumCrypto closedTls

/-- The responder of the IKE SA rekeys with a PFS group. -/
theorem both_ends_same_tunnel_pfs :
    ∃ near far, RekeyCompleted (listRunner 1 2 pfsProposals) (listRunner 2 1 pfsProposals) (sampleIke .responder)
      (sampleIke .initiator) near far ∧ SameTunnel near far := by
  have := checksumCrypto_lawful
  have completed : ∃ near far, RekeyCompleted (listRunner 1 2 pfsProposals) (listRunner 2 1 pfsProposals)
      (sampleIke .responder) (sampleIke .initiator) near far :=
    ⟨_, _, ⟨sampleEnv 13, sampleEnv 14, pfsPending, _, _, rfl, rfl, rfl, rfl⟩⟩
  obtain ⟨near, far, completed⟩ := completed
  exact ⟨near, far, completed, both_ends_same_tunnel (listRunner 1 2 pfsProposals)
    (listRunner 2 1 pfsProposals) (sampleIke .responder) (sampleIke .initiator) near far (by decide +kernel)
    (by decide +kernel) ⟨rfl, rfl, rfl, rfl, by decide⟩ (.inr completed)⟩

end

end Shuli.Ipsec
