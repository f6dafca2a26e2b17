import Shuli.Ipsec.Runner

/-!
The handlers of the IKEv2 engine (`engine.rs`). A handler changes the runner in the order of
the source, so that an error leaves behind what was changed before it. What a handler computes
without changing the runner (verifying AUTH, answering a Child SA request, accepting a
response) is a function of its own.
-/

namespace Shuli.Ipsec

open Fallible Shuli.Core

variable [Crypto] [Tls]

def unwrapFailed : IpsecError := .internal "called `Option::unwrap()` on a `None` value"

namespace IkeRuntime

def sealPayloads (ike : IkeRuntime) (env : Env) (header : IkeHeader) (payloads : List Payload) :
    Except IpsecError Octets :=
  sealMessage header payloads ike.suite.encryption ike.suite.integrity
    (ike.keys.outboundEncryption ike.role) (ike.keys.outboundIntegrity ike.role)
    fun length => (env.iv length).map Subtype.val

def openEncrypted (ike : IkeRuntime) (message : Message) : Except IpsecError (List Payload) :=
  match message.payloads.head? with
  | none => .error (.ike "empty encrypted IKE message")
  | some payload =>
    openMessage message.header payload ike.suite.encryption ike.suite.integrity
      (ike.keys.inboundEncryption ike.role) (ike.keys.inboundIntegrity ike.role)

def initiatorSigned (ike : IkeRuntime) (idBody : Octets) : Octets :=
  signedOctets ike.realMessage1 ike.nonceR ike.suite.prf ike.keys.skPi idBody

def responderSigned (ike : IkeRuntime) (idBody : Octets) : Octets :=
  signedOctets ike.realMessage2 ike.nonceI ike.suite.prf ike.keys.skPr idBody

def childKeys (ike : IkeRuntime) (mode : ChildMode) (nonceI nonceR : Octets)
    (dhShared : Option Octets) (suite : ChildProposal) (localSpi remoteSpi : UInt32)
    (localSelectors remoteSelectors : List TrafficSelector) : ChildSaHandle :=
  deriveChildKeys ike.suite.prf ike.keys.skD nonceI nonceR dhShared ike.role suite.encryption
    suite.integrity localSpi remoteSpi mode localSelectors remoteSelectors suite.esn

end IkeRuntime

def stableId (name : String) : UInt32 :=
  max 1 ((asBytes name).foldl (fun hash octet => (hash ^^^ UInt32.ofNat octet.toNat) * 16777619)
    2166136261)

namespace Runner

def record (self : Runner) (action : Action) : Runner := { self with trace := self.trace ++ [action] }

def recordSent (self : Runner) (message : Octets) : Runner :=
  self.record (.sent message self.transport.encapsulated self.transport.remote)

def setRetransmit (self : Runner) (retransmit : Retransmit) : Runner :=
  { self with retransmit := some retransmit }

def clearRetransmit (self : Runner) : Runner := { self with retransmit := none }

def setIke (self : Runner) (ike : Option IkeRuntime) : Runner := { self with ike }

def setRemote (self : Runner) (remote : SocketAddr) : Runner :=
  { self with transport := { self.transport with remote } }

def encapsulate (self : Runner) : Runner :=
  { self with transport := { self.transport with encapsulated := true } }

def setState (self : Runner) (state : IpsecState) : Runner :=
  (self.record (.published state)).record (.event (.state self.config.name state))

def armRetransmit (self : Runner) (env : Env) (message : Octets) : Runner :=
  { self with
    retransmit := some (.new message (max self.config.dpd.timeout retransmitTimeout) maxRetransmits
      env.now) }

def bumpMessageId (self : Runner) : Runner := { self with nextMessageId := self.nextMessageId + 1 }

def takeSaInit (self : Runner) : Runner := { self with pendingSaInit := none }

def takeRekey (self : Runner) : Runner := { self with pendingRekey := none }

def setEap (self : Runner) (eap : Option EapSession) : Runner := { self with eap }

def setPhase (self : Runner) (phase : Phase) : Runner := { self with phase }

def setDpdDeadline (self : Runner) (deadline : Option Instant) : Runner :=
  { self with dpdDeadline := deadline }

def setRekeyDeadline (self : Runner) (deadline : Option Instant) : Runner :=
  { self with rekeyDeadline := deadline }

def peer? (self : Runner) : Option PeerConfig := self.config.peers[self.peerIndex]?

def headerFor (self : Runner) (exchange : ExchangeType) (messageId : UInt32) (request : Bool) :
    IkeHeader :=
  let (spiI, spiR, initiator) := match self.ike with
    | some ike =>
      if ike.role = Role.initiator then (ike.localSpi, ike.remoteSpi, true)
      else (ike.remoteSpi, ike.localSpi, false)
    | none => (0, 0, self.pendingSaInit.isSome)
  let flags := (if initiator then flagInitiator else 0) ||| (if request then 0 else flagResponse)
  IkeHeader.new spiI spiR exchange flags messageId

def sealPayloads (self : Runner) (env : Env) (header : IkeHeader) (payloads : List Payload) :
    Except IpsecError Octets :=
  match self.ike with
  | none => .error (.internal "no IKE SA")
  | some ike => ike.sealPayloads env header payloads

def openEncrypted (self : Runner) (message : Message) : Except IpsecError (List Payload) :=
  match self.ike with
  | none => .error (.ike "encrypted message before IKE SA was created")
  | some ike => ike.openEncrypted message

def localhost : Octets := [108, 111, 99, 97, 108, 104, 111, 115, 116]

def localIdPayload (self : Runner) (initiator : Bool) : Payload :=
  match self.config.localConfig.identity with
  | .any => .id initiator 2 localhost
  | identity => .id initiator (identity.idType.getD 2) (identity.encode.toOption.getD [])

def localIdBody (self : Runner) : Except IpsecError Octets := do
  let identity := self.config.localConfig.identity
  let data ← if identity.isWildcard then pure localhost else identity.encode
  return [identity.idType.getD 2, 0, 0, 0] ++ data

def lease (self : Runner) (env : Env) (handle : ChildSaHandle) : IpsecLease :=
  let inner := (self.ike.map IkeRuntime.innerAddresses).getD []
  { connection := self.config.name
    peerIndex := self.peerIndex
    xfrmInterface := self.config.xfrm.interface
    ifId := self.config.xfrm.ifId.getD (stableId self.config.name)
    reqid := self.config.xfrm.reqid.getD (stableId self.config.name + 1)
    localSelectors := handle.localSelectors
    remoteSelectors := handle.remoteSelectors
    localInnerAddresses := if inner.isEmpty then handle.localSelectors.filterMap selectorToNet else inner
    remoteInnerAddresses := handle.remoteSelectors.filterMap selectorToNet
    localAddress := self.config.localConfig.address
    remoteAddress := (self.peer?.bind fun peer => peer.remote.address).or (some self.transport.remote.ip)
    natT := self.transport.encapsulated
    dns := (self.ike.map IkeRuntime.dns).getD []
    expiresAt := some (env.systemNow + self.config.child.lifetime) }

def childEvent (self : Runner) (env : Env) (handle : ChildSaHandle) (refreshed : Bool) : IpsecEvent :=
  if refreshed then
    .childSaRefreshed self.config.name self.peerIndex handle (self.lease env handle)
  else .childSaReady self.config.name self.peerIndex handle (self.lease env handle)

def rekeyAfter (self : Runner) : Duration :=
  self.config.child.lifetime * (max 1 (min 99 self.config.childMarginPercent)).toNat / 100

def announceChild (self : Runner) (env : Env) (handle : ChildSaHandle) : Runner :=
  match self.ike with
  | none => self
  | some ike =>
    (self.setIke (some { ike with child := some handle })).record
      (.event (self.childEvent env handle ike.child.isSome))

def installChild (self : Runner) (env : Env) (handle : ChildSaHandle) : Runner :=
  let self := (self.record (.childInstalled handle)).announceChild env handle
  let self := ((self.setPhase .established).clearRetransmit).setState .established
  { self with
    dpdDeadline :=
      if self.config.dpd.enabled then some (env.now + self.config.dpd.interval) else self.dpdDeadline
    rekeyDeadline := some (env.now + self.rekeyAfter) }

def removeChild (self : Runner) (reason : ChildSaRemovalReason) : Runner :=
  let self := self.setIke (self.ike.map fun ike => { ike with child := none })
  (self.record (.childRemoved reason)).record
    (.event (.childSaRemoved self.config.name self.peerIndex reason))

end Runner

def send (env : Env) (message : Octets) : Engine Unit := do
  env.send
  modify fun self => self.recordSent message

def enableNatT (env : Env) : Engine Unit := do
  modify fun self => self.setRemote { self.transport.remote with port := natTPort }
  let self ← get
  if !self.transport.natT ∨ self.transport.encapsulated then return ()
  let _ ← env.localAddr
  env.bindNatT
  modify fun self => self.encapsulate

def isUnspecified : IpAddr → Bool
  | .v4 address => address == 0
  | .v6 address => address == 0

def routeSourceIp (env : Env) (remote : SocketAddr) : Except IpsecError IpAddr := do
  let address ← env.localAddr
  if !isUnspecified address.ip then return address.ip
  env.probe remote

def localAddress (self : Runner) (env : Env) (remote : SocketAddr) : Except IpsecError IpAddr :=
  match self.config.localConfig.address with
  | some address => .ok address
  | none => routeSourceIp env remote

def natNotify (notifyType : UInt16) (spiI spiR : UInt64) (address : IpAddr) (port : UInt16) : Payload :=
  .notify ProtocolId.IKE [] notifyType (natDetectionHash spiI spiR address port)

/-! IKE_SA_INIT -/

def sendSaInit (env : Env) : Engine Unit := do
  let self ← get
  let peer ← orThrow self.peer? (IpsecError.config "peer index out of range")
  let dh := (self.config.ikeProposals.head?.map IkeProposal.dh).getD .ecp256
  let keyPair ← DhKeyPair.generate dh (env.dhSecret dh)
  let nonce ← env.nonce nonceLen
  let localSpi ← env.randomU64
  let sourceAddress ← localAddress self env self.transport.remote
  let localPort := (← env.localAddr).port
  let payloads := [
    .sa (buildIke self.config.ikeProposals), .ke dh.transformId keyPair.publicKey, .nonce nonce.val,
    natNotify NotifyType.NAT_DETECTION_SOURCE_IP localSpi 0 sourceAddress localPort,
    natNotify NotifyType.NAT_DETECTION_DESTINATION_IP localSpi 0 self.transport.remote.ip
      self.transport.remote.port]
  if peer.remote.address.isNone then return ()
  let header := IkeHeader.new localSpi 0 .ikeSaInit flagInitiator 0
  let message ← Message.encode ⟨header, payloads⟩
  send env message
  let pending := {
    keyPair, nonce := nonce.val, proposals := self.config.ikeProposals, realMessage1 := message
    localSpi, localAddress := sourceAddress, localPort }
  modify fun self => { (self.armRetransmit env message) with
    pendingSaInit := some pending
    phase := .saInitSent }

def sendPlainNotify (env : Env) (initiatorSpi responderSpi : UInt64) (messageId : UInt32)
    (notifyType : UInt16) (data : Octets) : Engine Unit := do
  let header := IkeHeader.new initiatorSpi responderSpi .ikeSaInit flagResponse messageId
  let message ← Message.encode ⟨header, [.notify ProtocolId.IKE [] notifyType data]⟩
  send env message

def saOf (message : Message) (missing : String) : Except IpsecError (List Proposal) :=
  match message.payload PayloadType.SA with
  | some (.sa proposals) => .ok proposals
  | some _ => .error (.ike "malformed SA payload")
  | none => .error (.ike missing)

def keOf (message : Message) (missing : String) : Except IpsecError (UInt16 × Octets) :=
  match message.payload PayloadType.KE with
  | some (.ke group data) => .ok (group, data)
  | some _ => .error (.ike "malformed KE payload")
  | none => .error (.ike missing)

def nonceOf (message : Message) (missing : String) : Except IpsecError Octets :=
  match message.payload PayloadType.NONCE with
  | some (.nonce nonce) => if nonce.isEmpty then .error (.ike missing) else .ok nonce
  | _ => .error (.ike missing)

def answerSaInit (self : Runner) (env : Env) (raw : Octets) (source : SocketAddr) (message : Message)
    (suite : IkeProposal) (number : UInt8) (peerPublic : Octets) :
    Except IpsecError (IkeRuntime × Octets) := do
  let nonceI ← nonceOf message "IKE_SA_INIT without a nonce"
  let keyPair ← DhKeyPair.generate suite.dh (env.dhSecret suite.dh)
  let shared ← keyPair.agree peerPublic
  let spiI := message.header.initiatorSpi
  let spiR ← env.randomU64
  let nonceR ← env.nonce nonceLen
  let keys := IkeKeys.derive suite.prf shared nonceI nonceR.val spiI spiR suite.encryption
    suite.integrity
  let address ← localAddress self env source
  let localPort := (← env.localAddr).port
  let responseSa : Proposal :=
    ⟨number, ProtocolId.IKE, [], ikeTransforms suite.encryption suite.prf suite.integrity suite.dh⟩
  let payloads := [
    .sa [responseSa], .ke suite.dh.transformId keyPair.publicKey, .nonce nonceR.val,
    natNotify NotifyType.NAT_DETECTION_SOURCE_IP spiI spiR address localPort,
    natNotify NotifyType.NAT_DETECTION_DESTINATION_IP spiI spiR source.ip source.port]
  let response ← Message.encode ⟨IkeHeader.new spiI spiR .ikeSaInit flagResponse 0, payloads⟩
  return ({
    role := .responder, localSpi := spiR, remoteSpi := spiI, keys, suite, nonceI
    nonceR := nonceR.val, realMessage1 := raw, realMessage2 := response, localChildSpi := 0
    child := none, innerAddresses := [], dns := [] }, response)

def Runner.createdAsResponder (self : Runner) (env : Env) (peer : PeerConfig) (ike : IkeRuntime)
    (response : Octets) : Runner :=
  let self := { (self.armRetransmit env response) with
    ike := some ike
    peerIndex := (self.config.peers.findIdx? fun candidate => candidate == peer).getD self.peerIndex
    phase := .authSent }
  (self.record (.ikeCreated .responder)).setState .connecting

def handleSaInitRequest (env : Env) (raw : Octets) (source : SocketAddr) (message : Message) :
    Engine Unit := do
  let self ← get
  -- A retransmitted IKE_SA_INIT for a live SA is ignored.
  if self.ike.isSome then return ()
  let peer ← orThrow
    (self.config.peers.find? fun peer => peer.remote.address.all fun address => address == source.ip)
    (IpsecError.authentication "no configured peer for IKE_SA_INIT")
  modify fun self => self.setRemote source
  let offers ← saOf message "IKE_SA_INIT without SA payload"
  let (suite, number) ← selectIke self.config.ikeProposals offers
  let (group, peerPublic) ← keOf message "IKE_SA_INIT without KE payload"
  if group ≠ suite.dh.transformId then
    sendPlainNotify env message.header.initiatorSpi 0 0 NotifyType.INVALID_KE_PAYLOAD
      (be16 suite.dh.transformId)
    throw ⟨.proposal, "peer used an unexpected DH group"⟩
  let (ike, response) ← answerSaInit self env raw source message suite number peerPublic
  send env response
  modify fun self => self.createdAsResponder env peer ike response

def natDetected (pending : PendingSaInit) (source : SocketAddr) (message : Message) : Bool :=
  message.payloads.any fun
    | .notify _ _ notifyType data =>
      if notifyType = NotifyType.NAT_DETECTION_SOURCE_IP then
        !natDetectionMatches data pending.localSpi message.header.responderSpi source.ip source.port
      else if notifyType = NotifyType.NAT_DETECTION_DESTINATION_IP then
        !natDetectionMatches data pending.localSpi message.header.responderSpi pending.localAddress
          pending.localPort
      else false
    | _ => false

def acceptSaInit (pending : PendingSaInit) (raw : Octets) (message : Message) :
    Except IpsecError IkeRuntime := do
  let proposals ← saOf message "IKE_SA_INIT response without SA"
  let suite ← parseSelectedIke proposals
  if suite ∉ pending.proposals then
    throw ⟨.proposal, "peer selected an IKE proposal that was not offered"⟩
  let (group, peerPublic) ← keOf message "IKE_SA_INIT response without KE"
  if group ≠ suite.dh.transformId then
    throw ⟨.proposal, "peer selected an unexpected DH group"⟩
  let nonceR ← nonceOf message "IKE_SA_INIT response without a nonce"
  let shared ← pending.keyPair.agree peerPublic
  let spiR := message.header.responderSpi
  let keys := IkeKeys.derive suite.prf shared pending.nonce nonceR pending.localSpi spiR
    suite.encryption suite.integrity
  return {
    role := .initiator, localSpi := pending.localSpi, remoteSpi := spiR, keys, suite
    nonceI := pending.nonce, nonceR, realMessage1 := pending.realMessage1, realMessage2 := raw
    localChildSpi := 0, child := none, innerAddresses := [], dns := [] }

/-! IKE_AUTH -/

def toCore (config : EapTlsConfig) : EapConfig where
  identity := config.identity
  caCert := config.caCert
  clientCert := config.clientCert
  clientKey := config.clientKey
  serverName := config.serverName

def IpsecError.ofWifi (error : WifiError) : IpsecError :=
  let kind := match error.kind with
    | .authFailed | .wrongPassword => IpsecErrorKind.authentication
    | .invalidConfig | .config => IpsecErrorKind.config
    | _ => IpsecErrorKind.eap
  ⟨kind, error.display⟩

def ofWifi {α : Type} (result : Except WifiError α) : Except IpsecError α :=
  result.mapError IpsecError.ofWifi

namespace EapSession

def new (config : EapTlsConfig) : Except IpsecError EapSession := do
  config.validate
  let method ← ofWifi (EapTlsMethod.fromConfig (toCore config))
  return (EapPeer.new config.identity).setMethod method

def handle (session : EapSession) (packet : Octets) :
    Except IpsecError (Option Octets × Bool) × EapSession :=
  match EapPacket.parse packet with
  | none => (.error ⟨.eap, "malformed EAP packet"⟩, session)
  | some packet =>
    let outcome := exec (EapPeer.handlePacket packet) session
    let answer := match ofWifi outcome.1 with
      | .ok (.respond response) => .ok (some response, false)
      | .ok .success => .ok (none, true)
      | .ok .failure => .error (.authentication "EAP authentication rejected by the peer")
      | .ok .wait => .ok (none, false)
      | .error error => .error error
    (answer, outcome.2)

end EapSession

/-- What the opening IKE_AUTH request carries for one peer: its credential payloads, the AUTH
value with the octets that it covers, and the EAP session that it starts. -/
structure AuthOpening where
  payloads : List Payload
  computed : Option (Octets × Octets)
  session : Option EapSession

def Runner.opened (self : Runner) (opening : AuthOpening) : Runner :=
  let self := { self with eap := opening.session.or self.eap, nextMessageId := 2 }
  match opening.computed with
  | some (signed, auth) => self.record (.authComputed signed auth)
  | none => self

def authOpening (self : Runner) (peer : PeerConfig) (ike : IkeRuntime) :
    Except IpsecError AuthOpening := do
  let idBody ← self.localIdBody
  let signed := ike.initiatorSigned idBody
  match peer.auth with
  | .psk secret =>
    let auth := pskCompute secret ike.suite.prf signed
    return ⟨[.auth authPsk auth], some (signed, auth), none⟩
  | .certificate config =>
    let credentials ← Crypto.loadLocal config
    let auth ← credentials.sign signed
    return ⟨certificatePayloads credentials.chain ++ config.certificateRequests.map (Payload.certReq 4) ++
      [.auth credentials.method auth], some (signed, auth), none⟩
  | .eapTls config => return ⟨[], none, some (← EapSession.new config)⟩

def configRequest (self : Runner) : List Payload :=
  let settings := self.config.localConfig
  if settings.requestInnerAddress ∨ settings.requestDns then
    let ipv6 := (self.peer?.bind fun peer => peer.remote.address).any IpAddr.isIpv6
    [.config (
      (if settings.requestInnerAddress then [⟨if ipv6 then 8 else 1, []⟩] else []) ++
      (if settings.requestDns then [⟨3, []⟩, ⟨10, []⟩] else []))]
  else []

def tsPayload (initiator : Bool) (selectors : List TrafficSelector) : Payload :=
  .ts initiator (selectors.map tsWire)

def authPayloads (self : Runner) (peer : PeerConfig) (ike : IkeRuntime) (opening : AuthOpening) : List Payload :=
  [self.localIdPayload true] ++ opening.payloads ++ configRequest self ++
    [.sa (buildEsp self.config.child.proposals ike.localChildSpi false),
      tsPayload true peer.selectors.localSide, tsPayload false peer.selectors.remoteSide]

def sendAuth (env : Env) : Engine Unit := do
  let self ← get
  let peer ← orThrow self.peer? (IpsecError.config "peer index out of range")
  let ike ← orThrow self.ike unwrapFailed
  let opening ← authOpening self peer ike
  modify fun self => self.opened opening
  let encrypted ← self.sealPayloads env (self.headerFor .ikeAuth 1 true) (authPayloads self peer ike opening)
  send env encrypted
  modify fun self => (self.armRetransmit env encrypted).setPhase
    (if opening.session.isSome then .eapAuth else .authSent)

def beginAuth (env : Env) (ike : IkeRuntime) : Engine Unit := do
  let localChildSpi ← env.randomU32
  modify fun self => (self.setIke (some { ike with localChildSpi })).record (.ikeCreated .initiator)
  sendAuth env

def handleSaInitResponse (env : Env) (raw : Octets) (source : SocketAddr) (message : Message) :
    Engine Unit := do
  let self ← get
  let pending ← orThrow self.pendingSaInit (IpsecError.internal "unexpected IKE_SA_INIT response")
  modify fun self => self.takeSaInit
  let ike ← acceptSaInit pending raw message
  modify fun self => self.clearRetransmit
  if natDetected pending source message ∧ self.config.localConfig.natT then
    enableNatT env
  beginAuth env ike

def identityMismatch (msg : String) : IpsecError := ⟨.identity, msg⟩

def verifyAuthRequest (peer : PeerConfig) (ike : IkeRuntime) (payloads : List Payload) :
    Except IpsecError (Octets × Octets) := do
  let id ← orThrow (findId payloads true) (IpsecError.ike "IKE_AUTH without IDi")
  let identity ← Identity.decode id.1 id.2
  if !peer.remote.identity.matchesIdentity identity then
    throw (identityMismatch ("peer identity " ++ identity.display ++
      " does not match configured identity " ++ peer.remote.identity.display))
  let signed := ike.initiatorSigned (idPayloadBody id)
  match peer.auth with
  | .psk secret =>
    let auth ← orThrow (findPskAuth payloads) (IpsecError.authentication "IKE_AUTH without AUTH")
    pskVerify secret ike.suite.prf signed auth
    return (signed, auth)
  | .certificate config =>
    let chain := certificateChain payloads
    let (method, auth) ← orThrow (findAuth payloads) (IpsecError.authentication "IKE_AUTH without AUTH")
    Crypto.verifyPeer config.caCertificates chain identity .initiator
    Crypto.verifySignature chain method signed auth
    return (signed, auth)
  | .eapTls _ => throw ⟨.noSupport, "EAP-TLS responder authentication is not supported"⟩

structure ChildAnswer where
  response : List Payload
  handle : ChildSaHandle

def answerAuth (self : Runner) (env : Env) (peer : PeerConfig) (ike : IkeRuntime)
    (payloads : List Payload) : Except IpsecError (ChildAnswer × Octets × Octets) := do
  let sa ← orThrow (findSa payloads) (IpsecError.ike "IKE_AUTH without SA payload")
  let (suite, number) ← selectEspInitial self.config.child.proposals sa
  let remoteSpi ← orThrow
    ((sa.find? fun proposal => proposal.number == number && proposal.protocol == ProtocolId.ESP).bind
      proposalSpi)
    (IpsecError.ike "IKE_AUTH SA without an SPI")
  let localSpi ← env.randomU32
  let (localSelectors, remoteSelectors) ← narrowRequestSelectors peer.selectors payloads
  let idBody ← self.localIdBody
  let signed := ike.responderSigned idBody
  let (credentials, auth) ← (match peer.auth with
    | .psk secret =>
      let auth := pskCompute secret ike.suite.prf signed
      return ([Payload.auth authPsk auth], auth)
    | .certificate config => do
      let credentials ← Crypto.loadLocal config
      let auth ← credentials.sign signed
      return (certificatePayloads credentials.chain ++ [Payload.auth credentials.method auth], auth)
    | .eapTls _ => throw unwrapFailed : Except IpsecError (List Payload × Octets))
  let responseSa : Proposal := ⟨number, ProtocolId.ESP, be32 localSpi,
    espTransforms suite.encryption suite.integrity suite.esn suite.dh⟩
  let response := [self.localIdPayload false] ++ credentials ++
    [.sa [responseSa], tsPayload true remoteSelectors, tsPayload false localSelectors]
  let handle := ike.childKeys self.config.child.mode ike.nonceI ike.nonceR none suite localSpi remoteSpi
    localSelectors remoteSelectors
  return (⟨response, handle⟩, signed, auth)

def handleAuthRequest (env : Env) (message : Message) (source : SocketAddr) : Engine Unit := do
  modify fun self => self.setRemote source
  modify fun self => self.clearRetransmit
  let self ← get
  let payloads ← self.openEncrypted message
  let peer ← orThrow self.peer? (IpsecError.config "no configured peer")
  let ike ← orThrow self.ike unwrapFailed
  let (signed, auth) ← verifyAuthRequest peer ike payloads
  modify fun self => self.record (.authVerified .request ike.role signed auth)
  let (answer, ownSigned, ownAuth) ← answerAuth self env peer ike payloads
  modify fun self => self.record (.authComputed ownSigned ownAuth)
  let encrypted ← self.sealPayloads env (self.headerFor .ikeAuth message.header.messageId false) answer.response
  send env encrypted
  modify fun self => self.installChild env answer.handle

def verifyAuthResponse (peer : PeerConfig) (ike : IkeRuntime) (eap : Option EapSession)
    (payloads : List Payload) : Except IpsecError (Octets × Octets) := do
  let id ← orThrow (findId payloads false) (IpsecError.ike "IKE_AUTH response without IDr")
  let identity ← Identity.decode id.1 id.2
  if !peer.remote.identity.matchesIdentity identity ∧ !peer.remote.identity.isWildcard then
    throw (identityMismatch ("responder identity " ++ identity.display ++ " does not match " ++
      peer.remote.identity.display))
  let signed := ike.responderSigned (idPayloadBody id)
  match peer.auth with
  | .psk secret =>
    let auth ← orThrow (findPskAuth payloads) (IpsecError.authentication "IKE_AUTH response without AUTH")
    pskVerify secret ike.suite.prf signed auth
    return (signed, auth)
  | .certificate config =>
    let chain := certificateChain payloads
    let (method, auth) ← orThrow (findAuth payloads) (IpsecError.authentication "IKE_AUTH response without AUTH")
    Crypto.verifyPeer config.caCertificates chain identity .responder
    Crypto.verifySignature chain method signed auth
    return (signed, auth)
  | .eapTls _ =>
    let (_, auth) ← orThrow (findAuth payloads) (IpsecError.authentication "EAP IKE_AUTH response without AUTH")
    let msk ← orThrow (eap.bind EapPeer.msk) (IpsecError.authentication "EAP-TLS MSK is not available")
    pskVerify msk ike.suite.prf signed auth
    return (signed, auth)

def acceptAuth (self : Runner) (peer : PeerConfig) (ike : IkeRuntime) (payloads : List Payload) :
    Except IpsecError ChildSaHandle := do
  let sa ← orThrow (findSa payloads) (IpsecError.ike "IKE_AUTH response without SA")
  let (suite, number) ← selectEspInitial self.config.child.proposals sa
  let remoteSpi ← orThrow
    ((sa.find? fun proposal => proposal.number == number && proposal.protocol == ProtocolId.ESP).bind
      proposalSpi)
    (IpsecError.ike "responder SA without an SPI")
  let (localSelectors, remoteSelectors) ← narrowResponseSelectors peer.selectors payloads
  return ike.childKeys self.config.child.mode ike.nonceI ike.nonceR none suite ike.localChildSpi
    remoteSpi localSelectors remoteSelectors

def sendAuthRequest (env : Env) (payloads : List Payload) : Engine Unit := do
  let self ← get
  let header := self.headerFor .ikeAuth self.nextMessageId true
  modify fun self => self.bumpMessageId
  let encrypted ← self.sealPayloads env header payloads
  send env encrypted
  modify fun self => self.armRetransmit env encrypted

def handleEap (env : Env) (eapData : Octets) : Engine Unit := do
  let self ← get
  let session ← orThrow self.eap (IpsecError.ike "unexpected EAP payload")
  let outcome := EapSession.handle session eapData
  modify fun self => self.setEap (some outcome.2)
  let (response, success) ← outcome.1
  match response with
  | some response => sendAuthRequest env [.eap response]
  | none =>
    if success then
      let msk ← orThrow outcome.2.msk (IpsecError.authentication "EAP-TLS did not export an MSK")
      let idBody ← self.localIdBody
      let ike ← orThrow self.ike unwrapFailed
      let signed := ike.initiatorSigned idBody
      let auth := pskCompute msk ike.suite.prf signed
      modify fun self => self.record (.authComputed signed auth)
      sendAuthRequest env [.auth authPsk auth]

def completeAuth (env : Env) (payloads : List Payload) : Engine Unit := do
  let self ← get
  let peer ← orThrow self.peer? (IpsecError.config "no configured peer")
  let ike ← orThrow self.ike unwrapFailed
  let (signed, auth) ← verifyAuthResponse peer ike self.eap payloads
  modify fun self => self.record (.authVerified .response ike.role signed auth)
  let handle ← acceptAuth self peer ike payloads
  let (innerAddresses, dns) := parseConfigPayload payloads
  modify fun self =>
    (self.setIke (self.ike.map fun ike => { ike with innerAddresses, dns })).installChild env handle

def handleAuthResponse (env : Env) (message : Message) : Engine Unit := do
  modify fun self => self.clearRetransmit
  let self ← get
  let payloads ← self.openEncrypted message
  match findEap payloads with
  | some eapData => handleEap env eapData
  | none => completeAuth env payloads

/-! INFORMATIONAL -/

def informationalPayload (state : List Payload × Runner) (payload : Payload) : List Payload × Runner :=
  match payload with
  | .notify _ _ notifyType data =>
    if notifyType = NotifyType.COOKIE then
      (state.1 ++ [.notify ProtocolId.IKE [] NotifyType.COOKIE data], state.2)
    else state
  | .delete protocol _ spis =>
    if protocol = ProtocolId.ESP then
      match state.2.ike.bind IkeRuntime.child with
      | some child =>
        if child.remoteSpi ∈ spis then
          (state.1 ++ [.delete ProtocolId.ESP 4 [child.localSpi]], state.2.removeChild .peerDelete)
        else state
      | none => state
    else state
  | _ => state

def handleInformationalRequest (env : Env) (message : Message) : Engine Unit := do
  let self ← get
  let payloads ← self.openEncrypted message
  let (response, after) := payloads.foldl informationalPayload ([], self)
  modify fun _ => after
  let encrypted ← after.sealPayloads env (after.headerFor .informational message.header.messageId false) response
  send env encrypted

/-! CREATE_CHILD_SA -/

def rekeyKeyPair (env : Env) (dh : DhGroup) : Except IpsecError (Option DhKeyPair) :=
  if dh ≠ .none then some <$> DhKeyPair.generate dh (env.dhSecret dh) else .ok none

def rekeyPayloads (proposals : List ChildProposal) (selectors : TrafficSelectorPair) (localSpi : UInt32)
    (nonceI : Octets) (keyPair : Option DhKeyPair) : List Payload :=
  [.sa (buildEsp proposals localSpi true)] ++
    (keyPair.map fun pair => Payload.ke pair.group.transformId pair.publicKey).toList ++
    [.nonce nonceI, tsPayload true selectors.localSide, tsPayload false selectors.remoteSide]

def Runner.awaitRekey (self : Runner) (env : Env) (message : Octets) (pending : PendingRekey) : Runner :=
  Runner.setState { (self.armRetransmit env message) with pendingRekey := some pending } .rekeying

def initiateRekey (env : Env) : Engine Unit := do
  modify fun self => self.setRekeyDeadline none
  let self ← get
  if self.phase ≠ .established ∨ self.ike.isNone then return ()
  if self.pendingRekey.isSome then
    modify fun self => self.setRekeyDeadline (some (env.now + Duration.fromSecs 5))
    return ()
  let suite ← orThrow self.config.child.proposals.head? (IpsecError.config "no Child SA proposal")
  let localSpi ← env.randomU32
  let nonceI ← env.nonce nonceLen
  let keyPair ← rekeyKeyPair env suite.dh
  let peer ← orThrow self.peer? unwrapFailed
  let payloads := rekeyPayloads self.config.child.proposals peer.selectors localSpi nonceI.val keyPair
  let header := self.headerFor .createChildSa self.nextMessageId true
  modify fun self => self.bumpMessageId
  let encrypted ← self.sealPayloads env header payloads
  send env encrypted
  let pending := { keyPair, nonceI := nonceI.val, localSpi, suite }
  modify fun self => self.awaitRekey env encrypted pending

def rekeyShared (keyPair : Option DhKeyPair) (ke : Option (UInt16 × Octets)) :
    Except IpsecError (Option Octets) :=
  match keyPair, ke with
  | some pair, some (_, peerPublic) => some <$> pair.agree peerPublic
  | none, none => .ok none
  | _, _ => .error (.ike "CREATE_CHILD_SA KE mismatch")

def acceptCreateChild (self : Runner) (ike : IkeRuntime) (pending : PendingRekey)
    (payloads : List Payload) : Except IpsecError ChildSaHandle := do
  let sa ← orThrow (findSa payloads) (IpsecError.ike "CREATE_CHILD_SA response without SA")
  let (suite, _) ← selectEsp self.config.child.proposals sa
  if suite.dh ≠ pending.suite.dh then
    throw ⟨.proposal, "responder selected a different PFS group"⟩
  let remoteSpi ← orThrow (sa.head?.bind proposalSpi) (IpsecError.ike "CREATE_CHILD_SA response SA without SPI")
  let nonceR ← orThrow (findNonce payloads) (IpsecError.ike "CREATE_CHILD_SA response without nonce")
  let shared ← rekeyShared pending.keyPair (findKe payloads)
  let peer ← orThrow self.peer? unwrapFailed
  let (localSelectors, remoteSelectors) ← narrowResponseSelectors peer.selectors payloads
  return ike.childKeys self.config.child.mode pending.nonceI nonceR shared suite pending.localSpi
    remoteSpi localSelectors remoteSelectors

def handleCreateChildResponse (env : Env) (message : Message) : Engine Unit := do
  modify fun self => self.clearRetransmit
  let self ← get
  let payloads ← self.openEncrypted message
  let pending ← orThrow self.pendingRekey (IpsecError.internal "unexpected CREATE_CHILD_SA response")
  modify fun self => self.takeRekey
  let ike ← orThrow self.ike unwrapFailed
  let handle ← acceptCreateChild self ike pending payloads
  modify fun self => self.installChild env handle

def answerKe (env : Env) (dh : DhGroup) (ke : Option (UInt16 × Octets)) :
    Except IpsecError (List Payload × Option Octets) := do
  match ke with
  | some (group, peerPublic) =>
    if dh = .none then
      throw ⟨.proposal, "CREATE_CHILD_SA sent KE but no DH transform was selected"⟩
    if group ≠ dh.transformId then
      throw ⟨.proposal, "CREATE_CHILD_SA KE group does not match the selected DH transform"⟩
    let keyPair ← DhKeyPair.generate dh (env.dhSecret dh)
    let shared ← keyPair.agree peerPublic
    return ([.ke group keyPair.publicKey], some shared)
  | none =>
    if dh ≠ .none then
      throw ⟨.proposal, "CREATE_CHILD_SA selected a DH transform but omitted KE"⟩
    return ([], none)

def answerCreateChild (self : Runner) (env : Env) (ike : IkeRuntime) (payloads : List Payload) :
    Except IpsecError ChildAnswer := do
  let sa ← orThrow (findSa payloads) (IpsecError.ike "CREATE_CHILD_SA without SA")
  let (suite, number) ← selectEsp self.config.child.proposals sa
  let remoteSpi ← orThrow ((sa.find? fun proposal => proposal.number == number).bind proposalSpi)
    (IpsecError.ike "CREATE_CHILD_SA SA without SPI")
  let localSpi ← env.randomU32
  let nonceI ← orThrow (findNonce payloads) (IpsecError.ike "CREATE_CHILD_SA without a nonce")
  let nonceR ← env.nonce nonceLen
  let peer ← orThrow self.peer? unwrapFailed
  let (localSelectors, remoteSelectors) ← narrowRequestSelectors peer.selectors payloads
  let (kePayloads, shared) ← answerKe env suite.dh (findKe payloads)
  let responseSa : Proposal := ⟨number, ProtocolId.ESP, be32 localSpi,
    espTransforms suite.encryption suite.integrity suite.esn suite.dh⟩
  let response := [.sa [responseSa]] ++ kePayloads ++
    [.nonce nonceR.val, tsPayload true remoteSelectors, tsPayload false localSelectors]
  return ⟨response, ike.childKeys self.config.child.mode nonceI nonceR.val shared suite localSpi
    remoteSpi localSelectors remoteSelectors⟩

def handleCreateChildRequest (env : Env) (message : Message) : Engine Unit := do
  let self ← get
  let payloads ← self.openEncrypted message
  let ike ← orThrow self.ike unwrapFailed
  let answer ← answerCreateChild self env ike payloads
  let encrypted ← self.sealPayloads env (self.headerFor .createChildSa message.header.messageId false)
    answer.response
  send env encrypted
  modify fun self => self.installChild env answer.handle

/-! Timers and dispatch -/

def onRetransmit (env : Env) : Engine Unit := do
  let self ← get
  match self.retransmit with
  | none => return ()
  | some retransmit =>
    let (retransmit, again) := retransmit.retry env.now
    modify fun self => self.setRetransmit retransmit
    if again then
      let _ ← IkeHeader.decode retransmit.message
      send env retransmit.message
    else
      modify fun self => self.clearRetransmit
      if self.phase = .established then
        modify fun self => (self.removeChild .peerDead).setPhase .closed
      modify fun self => self.setState .failed
      throw ⟨.timeout, "peer did not respond to IKE retransmissions"⟩

def saturatingSucc (value : UInt8) : UInt8 := if value = 255 then 255 else value + 1

def Runner.awaitDpd (self : Runner) (env : Env) (message : Octets) : Runner :=
  { self with
    retransmit := some (.new message self.config.dpd.timeout (max 1 self.config.dpd.retries) env.now)
    dpdFailures := saturatingSucc self.dpdFailures
    dpdDeadline := some (env.now + self.config.dpd.interval + self.config.dpd.timeout) }

def onDpd (env : Env) : Engine Unit := do
  modify fun self => self.setDpdDeadline none
  let self ← get
  if self.phase ≠ .established then return ()
  if self.dpdFailures ≥ self.config.dpd.retries then
    modify fun self => (self.removeChild .peerDead).setPhase .closed
    modify fun self => self.setState .failed
    throw ⟨.timeout, "dead peer detection declared the peer dead"⟩
  let header := self.headerFor .informational self.nextMessageId true
  modify fun self => self.bumpMessageId
  let encrypted ← self.sealPayloads env header []
  send env encrypted
  modify fun self => self.awaitDpd env encrypted

def followSource (env : Env) (source : SocketAddr) : Engine Unit := do
  let self ← get
  if source.port = natTPort then
    modify fun self => self.setRemote source
    enableNatT env
  else if self.config.localConfig.natT ∧ self.transport.encapsulated then
    modify fun self => self.setRemote source

def Runner.alive (self : Runner) (env : Env) : Runner :=
  { self with
    retransmit := none
    dpdFailures := 0
    dpdDeadline := some (env.now + self.config.dpd.interval) }

def handleResponse (env : Env) (data : Octets) (source : SocketAddr) (message : Message) :
    Engine Unit := do
  let self ← get
  match self.phase with
  | .saInitSent => handleSaInitResponse env data source message
  | .authSent => handleAuthResponse env message
  | .eapAuth => handleAuthResponse env message
  | .established =>
    if message.header.exchange = .createChildSa then handleCreateChildResponse env message
    else if message.header.exchange = .informational then
      modify fun self => self.alive env
  | .init => return ()
  | .closed => return ()

def handleRequest (env : Env) (data : Octets) (source : SocketAddr) (message : Message) :
    Engine Unit :=
  match message.header.exchange with
  | .ikeSaInit => handleSaInitRequest env data source message
  | .ikeAuth => handleAuthRequest env message source
  | .informational => handleInformationalRequest env message
  | .createChildSa => handleCreateChildRequest env message

def handleDatagram (env : Env) (data : Octets) (source : SocketAddr) : Engine Unit := do
  followSource env source
  let message ← Message.decode data
  if message.header.isResponse then handleResponse env data source message
  else handleRequest env data source message

inductive Wake
  | datagram (data : Octets) (source : SocketAddr)
  | retransmitTimer
  | dpdTimer
  | rekeyTimer
  deriving DecidableEq, Repr

def handleWake (env : Env) : Wake → Engine Unit
  | .datagram data source => handleDatagram env data source
  | .retransmitTimer => onRetransmit env
  | .dpdTimer => onDpd env
  | .rekeyTimer => initiateRekey env

def Runner.reported (outcome : Except IpsecError Unit × Runner) : Runner :=
  match outcome.1 with
  | .ok _ => outcome.2
  | .error error => outcome.2.record (.event (.error outcome.2.config.name error))

def Runner.step (self : Runner) (input : Env × Wake) : Runner :=
  .reported (exec (handleWake input.1 input.2) self)

def Runner.deleteRequest (self : Runner) (env : Env) : Option Octets :=
  if self.phase = .established then
    (self.ike.bind IkeRuntime.child).bind fun child =>
      (self.sealPayloads env (self.headerFor .informational self.nextMessageId true)
        [.delete ProtocolId.ESP 4 [child.localSpi]]).toOption
  else none

def Runner.shutdownConnection (self : Runner) (env : Env) : Runner :=
  let self := match self.deleteRequest env, env.send with
    | some encrypted, .ok _ => self.recordSent encrypted
    | _, _ => self
  self.setState .closed

def Runner.start (env : Env) (config : IpsecConfig) : Runner :=
  let self := Runner.spawn config
  if (config.peers.head?.bind fun peer => peer.remote.address).isSome then
    .reported (exec (sendSaInit env) { self with started := true })
  else self

end Shuli.Ipsec
