import Shuli.Ipsec.Identity

/-!
Configuration of an IPsec connection (`config.rs`): the negotiable algorithms with the
lengths the key schedule cuts by, traffic selectors, and the connection record that the
engine reads. Durations are counted in nanoseconds.
-/

namespace Shuli.Ipsec

abbrev Duration := Nat

def Duration.fromSecs (secs : Nat) : Duration := secs * 1000000000

inductive Topology
  | pointToPoint | adHoc | siteToSite
  deriving DecidableEq, Repr

inductive ChildMode
  | transport | tunnel
  deriving DecidableEq, Repr

inductive EncryptionAlgorithm
  | aesCbc128 | aesCbc192 | aesCbc256 | aesGcm16_128 | aesGcm16_256
  deriving DecidableEq, Repr

namespace EncryptionAlgorithm

def transformId : EncryptionAlgorithm → UInt16
  | aesCbc128 | aesCbc192 | aesCbc256 => 12
  | aesGcm16_128 | aesGcm16_256 => 20

def keyLen : EncryptionAlgorithm → Nat
  | aesCbc128 | aesGcm16_128 => 16
  | aesCbc192 => 24
  | aesCbc256 | aesGcm16_256 => 32

def keyLenBits : EncryptionAlgorithm → Option UInt16
  | aesCbc128 | aesGcm16_128 => some 128
  | aesCbc192 => some 192
  | aesCbc256 | aesGcm16_256 => some 256

def isAead : EncryptionAlgorithm → Bool
  | aesGcm16_128 | aesGcm16_256 => true
  | _ => false

def ivLen (algorithm : EncryptionAlgorithm) : Nat := if algorithm.isAead then 8 else 16

def saltLen (algorithm : EncryptionAlgorithm) : Nat := if algorithm.isAead then 4 else 0

def blockLen (_ : EncryptionAlgorithm) : Nat := 16

def materialLen (algorithm : EncryptionAlgorithm) : Nat := algorithm.keyLen + algorithm.saltLen

end EncryptionAlgorithm

inductive PrfAlgorithm
  | hmacSha1 | hmacSha2_256
  deriving DecidableEq, Repr

namespace PrfAlgorithm

def transformId : PrfAlgorithm → UInt16
  | hmacSha1 => 2
  | hmacSha2_256 => 5

def keyLen : PrfAlgorithm → Nat
  | hmacSha1 => 20
  | hmacSha2_256 => 32

end PrfAlgorithm

inductive IntegrityAlgorithm
  | none | hmacSha1_96 | hmacSha2_256_128
  deriving DecidableEq, Repr

namespace IntegrityAlgorithm

def transformId : IntegrityAlgorithm → UInt16
  | none => 0
  | hmacSha1_96 => 2
  | hmacSha2_256_128 => 12

def outputLen : IntegrityAlgorithm → Nat
  | none => 0
  | hmacSha1_96 => 12
  | hmacSha2_256_128 => 16

def keyLen : IntegrityAlgorithm → Nat
  | none => 0
  | hmacSha1_96 => 20
  | hmacSha2_256_128 => 32

end IntegrityAlgorithm

inductive DhGroup
  | none | modp2048 | ecp256 | ecp384 | x25519
  deriving DecidableEq, Repr

namespace DhGroup

def transformId : DhGroup → UInt16
  | none => 0
  | modp2048 => 14
  | ecp256 => 19
  | ecp384 => 20
  | x25519 => 31

def fromTransformId (id : UInt16) : Option DhGroup :=
  match id with
  | 0 => some none
  | 14 => some modp2048
  | 19 => some ecp256
  | 20 => some ecp384
  | 31 => some x25519
  | _ => Option.none

theorem fromTransformId_transformId (group : DhGroup) :
    fromTransformId group.transformId = some group := by
  cases group <;> rfl

theorem transformId_injective : Function.Injective transformId := by
  intro left right same
  have recovered := congrArg fromTransformId same
  simpa only [fromTransformId_transformId, Option.some.injEq] using recovered

end DhGroup

structure IkeProposal where
  encryption : EncryptionAlgorithm
  prf : PrfAlgorithm
  integrity : IntegrityAlgorithm
  dh : DhGroup
  deriving DecidableEq, Repr

def IkeProposal.isValid (proposal : IkeProposal) : Bool :=
  proposal.encryption.isAead == (proposal.integrity == .none)

structure ChildProposal where
  encryption : EncryptionAlgorithm
  integrity : IntegrityAlgorithm
  esn : Bool
  dh : DhGroup
  deriving DecidableEq, Repr

def ChildProposal.isValid (proposal : ChildProposal) : Bool :=
  proposal.encryption.isAead == (proposal.integrity == .none)

theorem ChildProposal.isValid_iff (proposal : ChildProposal) :
    proposal.isValid = true ↔
      (proposal.encryption.isAead = true ↔ proposal.integrity = IntegrityAlgorithm.none) := by
  unfold isValid
  by_cases plain : proposal.integrity = IntegrityAlgorithm.none <;>
    cases proposal.encryption.isAead <;> simp [plain]

structure TrafficSelector where
  start : IpAddr
  stop : IpAddr
  protocol : UInt8
  startPort : UInt16
  endPort : UInt16
  deriving DecidableEq, Repr

def family (address : IpAddr) : UInt8 := if address.isIpv4 then 4 else 6

namespace TrafficSelector

def family (selector : TrafficSelector) : UInt8 := Ipsec.family selector.start

def validate (selector : TrafficSelector) : Except IpsecError Unit :=
  if Ipsec.family selector.start ≠ Ipsec.family selector.stop then
    .error (.config "traffic selector start and end use different address families")
  else if selector.start > selector.stop then
    .error (.config "traffic selector start is greater than its end")
  else if selector.startPort > selector.endPort then
    .error (.config "traffic selector start port is greater than its end port")
  else .ok ()

def contains (selector : TrafficSelector) (address : IpAddr) : Bool :=
  Ipsec.family address == Ipsec.family selector.start && decide (address ≥ selector.start) &&
    decide (address ≤ selector.stop)

/-- The protocol of an intersection; protocol 0 means any protocol. -/
def protocolMeet (left right : UInt8) : Option UInt8 :=
  if left = 0 then some right
  else if right = 0 then some left
  else if left = right then some left
  else none

def intersection (self other : TrafficSelector) : Option TrafficSelector := do
  if self.family ≠ other.family then failure
  let protocol ← protocolMeet self.protocol other.protocol
  let start := max self.start other.start
  let stop := min self.stop other.stop
  if start > stop then failure
  let startPort := max self.startPort other.startPort
  let endPort := min self.endPort other.endPort
  if startPort > endPort then failure
  return { start, stop, protocol, startPort, endPort }

def isSubsetOf (self other : TrafficSelector) : Bool :=
  self.family == other.family && (other.protocol == 0 || self.protocol == other.protocol) &&
    decide (self.start ≥ other.start) && decide (self.stop ≤ other.stop) &&
    decide (self.startPort ≥ other.startPort) && decide (self.endPort ≤ other.endPort)

end TrafficSelector

structure TrafficSelectorPair where
  localSide : List TrafficSelector
  remoteSide : List TrafficSelector
  deriving DecidableEq, Repr

def TrafficSelectorPair.validate (pair : TrafficSelectorPair) : Except IpsecError Unit := do
  match pair.localSide with
  | [] =>
    throw (.config
      "traffic selectors must contain at least one local and one remote prefix")
  | first :: _ =>
    if pair.remoteSide.isEmpty then
      throw (.config
        "traffic selectors must contain at least one local and one remote prefix")
    (pair.localSide ++ pair.remoteSide).forM TrafficSelector.validate
    if pair.localSide.any fun s => s.family != family first.start then
      throw (.config "local traffic selectors mix address families")
    if pair.remoteSide.any fun s => s.family != family first.start then
      throw (.config "local and remote traffic selectors must use the same address family")

structure IpNet where
  address : IpAddr
  prefixLen : UInt8
  deriving DecidableEq, Repr

def IpNet.new (address : IpAddr) (prefixLen : UInt8) : Option IpNet :=
  if prefixLen > (if address.isIpv4 then 32 else 128) then none else some ⟨address, prefixLen⟩

structure CertificateConfig where
  caCertificates : List Octets
  certificates : List Octets
  privateKey : Octets
  certificateRequests : List Octets
  deriving DecidableEq, Repr

structure EapTlsConfig where
  identity : String
  caCert : Option String
  clientCert : Option String
  clientKey : Option String
  serverName : Option String
  deriving DecidableEq, Repr

def EapTlsConfig.validate (config : EapTlsConfig) : Except IpsecError Unit := do
  if config.identity.isEmpty then
    throw (.config "EAP-TLS identity is required")
  for (field, value) in [("ca_cert", config.caCert), ("client_cert", config.clientCert),
      ("client_key", config.clientKey)] do
    if value.isNone then
      throw (.config s!"EAP-TLS {field} is required")
  if (config.serverName.getD "").isEmpty then
    throw (.config "EAP-TLS server_name is required")

inductive AuthConfig
  | psk (secret : Octets)
  | certificate (config : CertificateConfig)
  | eapTls (config : EapTlsConfig)
  deriving DecidableEq, Repr

structure LocalConfig where
  address : Option IpAddr
  identity : Identity
  port : UInt16
  natT : Bool
  requestInnerAddress : Bool
  requestDns : Bool
  deriving DecidableEq, Repr

structure RemoteConfig where
  address : Option IpAddr
  identity : Identity
  port : UInt16
  deriving DecidableEq, Repr

structure PeerConfig where
  remote : RemoteConfig
  selectors : TrafficSelectorPair
  auth : AuthConfig
  deriving DecidableEq, Repr

structure ChildConfig where
  proposals : List ChildProposal
  mode : ChildMode
  lifetime : Duration
  deriving DecidableEq, Repr

structure XfrmConfig where
  interface : Option String
  ifId : Option UInt32
  reqid : Option UInt32
  deriving DecidableEq, Repr

structure DpdConfig where
  interval : Duration
  timeout : Duration
  retries : UInt8
  enabled : Bool
  deriving DecidableEq, Repr

structure IpsecConfig where
  name : String
  topology : Topology
  localConfig : LocalConfig
  peers : List PeerConfig
  ikeProposals : List IkeProposal
  child : ChildConfig
  xfrm : XfrmConfig
  childMarginPercent : UInt8
  dpd : DpdConfig
  deriving DecidableEq, Repr

def isWhitespace (c : Char) : Bool :=
  let code := c.toNat
  (9 ≤ code && code ≤ 13) || code == 0x20 || code == 0x85 || code == 0xA0 || code == 0x1680 ||
    (0x2000 ≤ code && code ≤ 0x200A) || code == 0x2028 || code == 0x2029 || code == 0x202F ||
    code == 0x205F || code == 0x3000

def AuthConfig.validate : AuthConfig → Except IpsecError Unit
  | .psk secret => if secret.isEmpty then .error (.config "PSK must not be empty") else .ok ()
  | .certificate cert =>
    if cert.caCertificates.isEmpty then
      .error (.config "certificate authentication requires a CA certificate")
    else if cert.certificates.isEmpty then
      .error (.config "certificate authentication requires a local certificate")
    else if cert.privateKey.isEmpty then
      .error (.config "certificate authentication requires a private key")
    else .ok ()
  | .eapTls eap => eap.validate

def IpsecConfig.validate (config : IpsecConfig) : Except IpsecError Unit := do
  if config.name.toList.all isWhitespace then
    throw (.config "connection name is required")
  if config.peers.isEmpty then
    throw (.config s!"connection {config.name} has no peers")
  if config.topology = .pointToPoint ∧ config.peers.length ≠ 1 then
    throw (.config "point-to-point connections require exactly one peer")
  if config.ikeProposals.isEmpty then
    throw (.config "at least one IKE proposal is required")
  if config.child.proposals.isEmpty then
    throw (.config "at least one Child SA proposal is required")
  if config.ikeProposals.any fun proposal => !proposal.isValid then
    throw (.config
      "IKE proposals require an integrity transform unless they use an AEAD cipher")
  if config.child.proposals.any fun proposal => !proposal.isValid then
    throw (.config
      "ESP proposals require an integrity transform unless they use an AEAD cipher")
  if config.child.mode = .transport ∧
      config.peers.any fun peer => peer.selectors.localSide.any fun s => s.start ≠ s.stop then
    throw (.config "transport mode requires host traffic selectors")
  config.peers.forM fun peer => do
    peer.selectors.validate
    peer.auth.validate

end Shuli.Ipsec
