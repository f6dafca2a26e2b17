import Shuli.Ipsec.Authentication
import Shuli.Ipsec.Handlers
import Shuli.Ipsec.RoundTrip

/-!
Reaching a responder again. An IKE_SA_INIT request is answered exactly when no IKE SA is on record. The
record is never cleared: not when the retransmissions run out, not when the peer is declared dead, not
when IKE_AUTH fails, and not when the sender of an unauthenticated IKE_SA_INIT disappears.
-/

namespace Shuli.Ipsec

open Fallible Shuli.Core

/-! The size of a response. -/

theorem encryptionTransform_length (last : Bool) (encryption : EncryptionAlgorithm) :
    (encodeTransform last (encryptionTransform encryption)).length ≤ 12 := by
  rw [encodeTransform_length]
  cases encryption <;> decide

theorem encodeTransforms_append_length (first second : List Transform) :
    (encodeTransforms (first ++ second)).length =
      (encodeTransforms first).length + (encodeTransforms second).length := by
  induction first with
  | nil => simp [encodeTransforms]
  | cons transform first ih =>
    simp only [List.cons_append, encodeTransforms, List.length_append, encodeTransform_length, ih]
    omega

theorem optionalTransform_length (c : Prop) [Decidable c] (kind : UInt8) (id : UInt16) :
    (encodeTransforms (if c then [⟨kind, id, []⟩] else [])).length ≤ 8 := by
  split <;> simp [encodeTransforms, encodeTransform_length]

theorem ikeTransforms_length (encryption : EncryptionAlgorithm) (prf : PrfAlgorithm)
    (integrity : IntegrityAlgorithm) (dh : DhGroup) :
    (encodeTransforms (ikeTransforms encryption prf integrity dh)).length ≤ 36 := by
  have cipher := encryptionTransform_length false encryption
  have mac := optionalTransform_length (integrity ≠ .none) TransformType.INTEG integrity.transformId
  have group := optionalTransform_length (dh ≠ .none) TransformType.DH dh.transformId
  rw [ikeTransforms, encodeTransforms_append_length, encodeTransforms_append_length]
  have front : (encodeTransforms [encryptionTransform encryption,
      ⟨TransformType.PRF, prf.transformId, []⟩]).length ≤ 20 := by
    simp only [encodeTransforms, List.length_append, encodeTransform_length, List.length_nil,
      List.flatMap_nil] at cipher ⊢
    omega
  omega

theorem ikeTransforms_plain {encryption : EncryptionAlgorithm} {prf : PrfAlgorithm} {integrity : IntegrityAlgorithm}
    {dh : DhGroup} {transform : Transform} (member : transform ∈ ikeTransforms encryption prf integrity dh) :
    ∀ attr ∈ transform.attributes, attr.type < 0x8000 := by
  simp only [ikeTransforms, List.mem_append, List.mem_cons, List.mem_ite_nil_right, List.not_mem_nil,
    or_false] at member
  rcases member with ((rfl | rfl) | ⟨_, rfl⟩) | ⟨_, rfl⟩
  · cases encryption <;> decide
  · exact fun attr impossible => (nomatch impossible)
  · exact fun attr impossible => (nomatch impossible)
  · exact fun attr impossible => (nomatch impossible)

theorem ikeTransforms_count (encryption : EncryptionAlgorithm) (prf : PrfAlgorithm)
    (integrity : IntegrityAlgorithm) (dh : DhGroup) :
    (ikeTransforms encryption prf integrity dh).length ≤ 4 := by
  unfold ikeTransforms
  split <;> split <;> simp

/-- The SA payload of one IKE proposal can be written. -/
theorem ikeSa_formed (number : UInt8) (encryption : EncryptionAlgorithm) (prf : PrfAlgorithm)
    (integrity : IntegrityAlgorithm) (dh : DhGroup) :
    let payload := Payload.sa
      [⟨number, ProtocolId.IKE, [], ikeTransforms encryption prf integrity dh⟩]
    payload.WellFormed ∧ payload.Fits := by
  have count := ikeTransforms_count encryption prf integrity dh
  have length := ikeTransforms_length encryption prf integrity dh
  refine ⟨fun proposal only => ?_, ?_⟩
  · obtain rfl := List.mem_singleton.mp only
    exact ⟨Nat.zero_le _, count.trans (by decide), fun transform member => ikeTransforms_plain member⟩
  · let proposal : Proposal := ⟨number, ProtocolId.IKE, [], ikeTransforms encryption prf integrity dh⟩
    have written : (Payload.sa [proposal]).encodeBody = .ok (proposalOctets true proposal ++ []) := by
      rfl
    have size : (encodeTransforms proposal.transforms).length ≤ 36 := length
    refine Payload.Fits.of_eq written ?_
    rw [List.append_nil, proposalOctets_length, List.length_append, show proposal.spi.length = 0 from rfl]
    omega

variable {data : Octets}

theorem ke_formed (group : UInt16) (short : data.length ≤ 512) :
    (Payload.ke group data).WellFormed ∧ (Payload.ke group data).Fits := by
  refine ⟨trivial, Payload.Fits.of_eq rfl ?_⟩
  simp only [List.length_append, be16_length, List.length_cons, List.length_nil]
  omega

theorem nonce_formed (short : data.length ≤ 512) : (Payload.nonce data).WellFormed ∧ (Payload.nonce data).Fits :=
  ⟨trivial, Payload.Fits.of_eq rfl (by omega)⟩

theorem notify_formed (notifyType : UInt16) (short : data.length ≤ 512) :
    (Payload.notify ProtocolId.IKE [] notifyType data).WellFormed ∧
      (Payload.notify ProtocolId.IKE [] notifyType data).Fits := by
  refine ⟨Nat.zero_le _, Payload.Fits.of_eq rfl ?_⟩
  simp only [List.length_append, be16_length, List.length_cons, List.length_nil]
  omega

section

variable [Crypto]

structure CryptoSizes : Prop where
  dhPublic : ∀ group secret, (Crypto.dhPublic group secret).length ≤ 512
  sha1 : ∀ data, (Crypto.sha1 data).length = 20

variable {group : DhGroup}

theorem CryptoSizes.publicKey (sizes : CryptoSizes)
    {random : Except IpsecError Octets} {keyPair : DhKeyPair}
    (generated : DhKeyPair.generate group random = .ok keyPair) : keyPair.publicKey.length ≤ 512 := by
  cases random with
  | error e => cases group <;> cases generated
  | ok secret =>
    cases group with
    | none => cases generated
    | modp2048 =>
      cases generated
      exact (beOctets_length _ _).trans_le (by decide)
    | _ =>
      cases generated
      exact sizes.dhPublic _ _

/-- An IKE_SA_INIT response can be written. -/
theorem saInit_encodes (sizes : CryptoSizes) (header : IkeHeader) (number : UInt8) (suite : IkeProposal)
    {random : Except IpsecError Octets} {keyPair : DhKeyPair}
    (generated : DhKeyPair.generate group random = .ok keyPair) {nonce : Octets} (short : nonce.length = nonceLen)
    (spiI spiR : UInt64) (address remote : IpAddr) (port remotePort : UInt16) :
    ∃ octets, Message.encode ⟨header, [
      .sa [⟨number, ProtocolId.IKE, [],
        ikeTransforms suite.encryption suite.prf suite.integrity suite.dh⟩],
      .ke suite.dh.transformId keyPair.publicKey, .nonce nonce,
      natNotify NotifyType.NAT_DETECTION_SOURCE_IP spiI spiR address port,
      natNotify NotifyType.NAT_DETECTION_DESTINATION_IP spiI spiR remote remotePort]⟩ = .ok octets := by
  have hash (spiI spiR : UInt64) (address : IpAddr) (port : UInt16) :
      (natDetectionHash spiI spiR address port).length ≤ 512 :=
    (sizes.sha1 _).trans_le (by decide)
  have nonceShort : nonce.length ≤ 512 := short.trans_le (by decide)
  obtain ⟨chain, written⟩ : ∃ chain, encodeChain [
      .sa [⟨number, ProtocolId.IKE, [],
        ikeTransforms suite.encryption suite.prf suite.integrity suite.dh⟩],
      .ke suite.dh.transformId keyPair.publicKey, .nonce nonce,
      natNotify NotifyType.NAT_DETECTION_SOURCE_IP spiI spiR address port,
      natNotify NotifyType.NAT_DETECTION_DESTINATION_IP spiI spiR remote remotePort] = .ok chain := by
    refine encodeChain_isOk ?_
    simp only [List.forall_mem_cons]
    exact ⟨ikeSa_formed _ _ _ _ _, ke_formed _ (sizes.publicKey generated), nonce_formed nonceShort,
      notify_formed _ (hash _ _ _ _), notify_formed _ (hash _ _ _ _),
      fun payload impossible => (nomatch impossible)⟩
  exact ⟨_, Message.encode_eq written⟩

variable [Tls]

/-- A well-formed IKE_SA_INIT request from a configured peer with an acceptable proposal: `suite` is
selected under `number`, and `peerPublic` is a public key of its group. -/
structure Acceptable (config : IpsecConfig) (data : Octets) (source : SocketAddr) (message : Message)
    (suite : IkeProposal) (number : UInt8) (peerPublic : Octets) : Prop where
  decoded : Message.decode data = .ok message
  request : message.header.isResponse = false
  exchange : message.header.exchange = .ikeSaInit
  peer : ∃ peer, config.peers.find? (fun peer => peer.remote.address.all fun address =>
    address == source.ip) = some peer
  selected : ∃ offers, saOf message "IKE_SA_INIT without SA payload" = .ok offers ∧
    selectIke config.ikeProposals offers = .ok (suite, number)
  key : keOf message "IKE_SA_INIT without KE payload" = .ok (suite.dh.transformId, peerPublic)
  nonce : ∃ nonceI, nonceOf message "IKE_SA_INIT without a nonce" = .ok nonceI

/-- The environment answers what a responder asks for: sockets, addresses, randomness, and a key pair
that agrees with the public key of the peer. -/
structure Env.Serves (env : Env) (source : SocketAddr) (group : DhGroup) (peerPublic : Octets) : Prop where
  socket : ∃ address, env.localAddr = .ok address
  bind : env.bindNatT = .ok ()
  probe : ∃ address, env.probe source = .ok address
  spi : ∃ spi, env.randomU64 = .ok spi
  nonce : ∃ nonce, env.nonce nonceLen = .ok nonce
  pair : ∃ keyPair shared, DhKeyPair.generate group (env.dhSecret group) = .ok keyPair ∧
    keyPair.agree peerPublic = .ok shared
  left : env.send = .ok ()

/-- The IKE SA of the request is taken up and one IKE_SA_INIT response for it is sent. -/
def Answers (before after : Ledger) (request : Message) : Prop :=
  ∃ response spiR payloads ike, after.sent = before.sent ++ [response] ∧
    Message.encode ⟨IkeHeader.new request.header.initiatorSpi spiR .ikeSaInit flagResponse 0, payloads⟩ =
      .ok response ∧
    after.ike = some ike ∧ ike.role = .responder ∧ ike.localSpi = spiR ∧
    ike.remoteSpi = request.header.initiatorSpi

variable {source : SocketAddr}

variable {peerPublic : Octets} {env : Env}

theorem localAddress_isOk (self : Runner)
    (serves : env.Serves source group peerPublic) :
    ∃ address, localAddress self env source = .ok address := by
  obtain ⟨address, socket⟩ := serves.socket
  obtain ⟨probed, probe⟩ := serves.probe
  unfold localAddress
  split
  · exact ⟨_, rfl⟩
  · rw [routeSourceIp, socket]
    change ∃ found, (if !isUnspecified address.ip then .ok address.ip else env.probe source) = .ok found
    split
    · exact ⟨_, rfl⟩
    · exact ⟨probed, probe⟩

variable {message : Message}

theorem answerSaInit_isOk (sizes : CryptoSizes) {self : Runner}
    {suite : IkeProposal} {number : UInt8}
    (acceptable : Acceptable self.config data source message suite number peerPublic)
    (serves : env.Serves source suite.dh peerPublic) :
    ∃ ike response, answerSaInit self env data source message suite number peerPublic =
      .ok (ike, response) := by
  obtain ⟨nonceI, nonce⟩ := acceptable.nonce
  obtain ⟨keyPair, shared, generated, agreed⟩ := serves.pair
  obtain ⟨spi, drawn⟩ := serves.spi
  obtain ⟨nonceR, filled⟩ := serves.nonce
  obtain ⟨found, address⟩ := localAddress_isOk self serves
  obtain ⟨bound, socket⟩ := serves.socket
  obtain ⟨response, encoded⟩ := saInit_encodes sizes
    (IkeHeader.new message.header.initiatorSpi spi .ikeSaInit flagResponse 0) number suite generated
    nonceR.property message.header.initiatorSpi spi found source.ip bound.port source.port
  simp only [answerSaInit, Except.bind_eq_ok]
  exact ⟨_, response, nonceI, nonce, keyPair, generated, shared, agreed, spi, drawn, nonceR, filled, found,
    address, bound, socket, response, encoded, rfl⟩

/-- Without an IKE SA on record the request is answered. -/
theorem handleSaInitRequest_answers (sizes : CryptoSizes) {self : Runner}
    {suite : IkeProposal} {number : UInt8}
    (acceptable : Acceptable self.config data source message suite number peerPublic)
    (serves : env.Serves source suite.dh peerPublic) (fresh : self.ike = none) :
    Ends (handleSaInitRequest env data source message) self
      fun _ after => Answers self.ledger after.ledger message := by
  obtain ⟨peer, configured⟩ := acceptable.peer
  obtain ⟨offers, offered, selected⟩ := acceptable.selected
  obtain ⟨ike, response, answered⟩ := answerSaInit_isOk sizes acceptable serves
  have responded := answerSaInit_responded answered
  obtain ⟨payloads, encoded⟩ := responded.encoded
  have unknown : ¬self.ike.isSome := by simp [fresh]
  refine Ends.get_bind (Ends.ite (fun known => absurd known unknown) fun _ => ?_)
  refine Ends.liftM_ok (orThrow_eq_ok.mpr configured) (Ends.modify_bind ?_)
  refine Ends.liftM_ok offered (Ends.liftM_ok selected (Ends.liftM_ok acceptable.key ?_))
  refine Ends.ite (fun differs => absurd rfl differs) fun _ => Ends.liftM_ok answered ?_
  refine ends_sent_bind (fun e failed => by cases failed.symm.trans serves.left) fun _ => ?_
  have sent := (self.setRemote source).ledger_recordSent response
  change Answers self.ledger (Runner.createdAsResponder _ env peer ike response).ledger message
  rw [Runner.createdAsResponder, Runner.ledger_setState,
    Runner.ledger_record_silent _ _ rfl rfl fun _ => rfl]
  exact ⟨response, ike.localSpi, payloads, ike, congrArg Ledger.sent sent, encoded, rfl, responded.role, rfl,
    responded.remoteSpi⟩

theorem handleSaInitRequest_ignores {self : Runner} (known : self.ike.isSome) :
    Ends (handleSaInitRequest env data source message) self fun _ after => after.ledger = self.ledger :=
  Ends.get_bind (Ends.ite (fun _ => rfl) fun unknown => absurd known unknown)

omit [Crypto] [Tls] in
theorem not_answers_self (ledger : Ledger) (request : Message) : ¬Answers ledger ledger request := by
  rintro ⟨response, _, _, _, sent, _⟩
  have lengths := congrArg List.length sent
  rw [List.length_append, List.length_singleton] at lengths
  omega

/-- In every state of a runner, a well-formed IKE_SA_INIT request of a configured peer with an
acceptable proposal is answered exactly when no IKE SA is on record. -/
theorem sa_init_answered_iff (sizes : CryptoSizes) (self : Runner) (env : Env) (data : Octets)
    (source : SocketAddr) (message : Message) (suite : IkeProposal) (number : UInt8) (peerPublic : Octets)
    (acceptable : Acceptable self.config data source message suite number peerPublic)
    (serves : env.Serves source suite.dh peerPublic) :
    Answers self.ledger (self.step (env, .datagram data source)).ledger message ↔ self.ike = none := by
  obtain ⟨address, found⟩ := serves.socket
  have handled {P : Ledger → Prop} (handles : ∀ followed : Runner, followed.ledger = self.ledger →
      Ends (handleSaInitRequest env data source message) followed fun _ after => P after.ledger) :
      P (self.step (env, .datagram data source)).ledger := by
    rw [Runner.step, Runner.ledger_reported]
    have ends : Ends (handleDatagram env data source) self fun _ after => P after.ledger := by
      apply Ends.bind (followSource_same env source self)
      · rintro e followed ⟨_, _, passes⟩
        cases passes (by rw [found]; rfl) (by rw [serves.bind]; rfl)
      · rintro _ followed ⟨_, same, _⟩
        refine Ends.liftM_ok acceptable.decoded (Ends.ite (fun response => ?_) fun _ => ?_)
        · rw [acceptable.request] at response
          cases response
        · unfold handleRequest
          rw [acceptable.exchange]
          exact handles followed same
    exact ends
  constructor
  · intro answers
    by_contra known
    refine not_answers_self self.ledger message (handled (P := fun after => after = self.ledger) ?_ ▸ answers)
    intro followed same
    have ike : followed.ike = self.ike := congrArg Ledger.ike same
    refine (handleSaInitRequest_ignores ?_).mono fun _ _ kept => kept.trans same
    rw [ike]
    exact Option.isSome_iff_ne_none.mpr known
  · intro fresh
    refine handled (P := fun after => Answers self.ledger after message) fun followed same => ?_
    have config : followed.config = self.config := congrArg Ledger.config same
    have ike : followed.ike = none := (congrArg Ledger.ike same).trans fresh
    rw [← same]
    exact handleSaInitRequest_answers sizes (config ▸ acceptable) serves ike

end

section

attribute [local instance] checksumCrypto closedTls

theorem checksumCrypto_sizes : CryptoSizes where
  dhPublic _ _ := (beOctets_length _ _).trans_le (by decide)
  sha1 _ := beOctets_length _ _

def sampleSaInit : Message :=
  (Message.decode (lastSent initiator)).toOption.getD ⟨IkeHeader.new 0 0 .ikeSaInit 0 0, []⟩

def samplePublic : Octets := ((keOf sampleSaInit "").toOption.map Prod.snd).getD []

theorem sampleSaInit_acceptable :
    Acceptable responder.config (lastSent initiator) (hostAddress 1) sampleSaInit sampleIkeProposal 1
      samplePublic where
  decoded := by decide +kernel
  request := by decide +kernel
  exchange := by decide +kernel
  peer := ⟨_, rfl⟩
  selected := ⟨buildIke [sampleIkeProposal], by decide +kernel, by decide +kernel⟩
  key := by decide +kernel
  nonce := ⟨List.replicate 32 10, by decide +kernel⟩

theorem sampleEnv_serves : (sampleEnv 21).Serves (hostAddress 1) .x25519 samplePublic where
  socket := ⟨_, rfl⟩
  bind := rfl
  probe := ⟨_, rfl⟩
  spi := ⟨_, rfl⟩
  nonce := ⟨_, rfl⟩
  pair := ⟨_, _, rfl, rfl⟩
  left := rfl

theorem sa_init_answered_responder :
    Answers responder.ledger responderKeyed.ledger sampleSaInit :=
  (sa_init_answered_iff checksumCrypto_sizes responder (sampleEnv 21) (lastSent initiator) (hostAddress 1)
    sampleSaInit sampleIkeProposal 1 samplePublic sampleSaInit_acceptable sampleEnv_serves).mpr rfl

def abandoned : Runner :=
  runInputs Runner.step responderKeyed (List.replicate 6 (sampleEnv 30, .retransmitTimer))

def restarted : Runner := .start (sampleEnv 50) (sampleConfig 1 2 true [1, 2, 3])

/-- A new request, which a fresh responder answers, is ignored by one that was visited once. -/
theorem sa_init_ignored :
    abandoned.ledger.child = none ∧ abandoned.ledger.published = some .failed ∧
      abandoned.retransmit = none ∧ abandoned.config = responder.config ∧
      (responder.step (fromHost 1 51 (lastSent restarted))).ledger.sent.length = 1 ∧
      (abandoned.step (fromHost 1 51 (lastSent restarted))).ledger.sent = abandoned.ledger.sent := by
  decide +kernel

end

end Shuli.Ipsec
