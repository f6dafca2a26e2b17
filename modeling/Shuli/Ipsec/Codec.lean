import Shuli.Ipsec.Config

/-!
IKEv2 wire codec (`codec.rs`). Encoders append octets; decoders walk over a buffer by
dropping what they have read, where the source advances an offset into a fixed slice. The
loops of the decoders take a bound on their iterations; each iteration consumes octets, so
the length of the buffer bounds them.
-/

namespace Shuli.Ipsec

def ikeHeaderLen : Nat := 28

def ikeVersion2 : UInt8 := 0x20

def flagInitiator : UInt8 := 0x08

def flagResponse : UInt8 := 0x20

inductive ExchangeType
  | ikeSaInit | ikeAuth | createChildSa | informational
  deriving DecidableEq, Repr

namespace ExchangeType

def toU8 : ExchangeType → UInt8
  | ikeSaInit => 34
  | ikeAuth => 35
  | createChildSa => 36
  | informational => 37

def fromU8 (value : UInt8) : Option ExchangeType :=
  match value with
  | 34 => some ikeSaInit
  | 35 => some ikeAuth
  | 36 => some createChildSa
  | 37 => some informational
  | _ => none

end ExchangeType

/-! Payload type numbers. -/
namespace PayloadType

@[match_pattern] abbrev NONE : UInt8 := 0
@[match_pattern] abbrev SA : UInt8 := 33
@[match_pattern] abbrev KE : UInt8 := 34
@[match_pattern] abbrev IDI : UInt8 := 35
@[match_pattern] abbrev IDR : UInt8 := 36
@[match_pattern] abbrev CERT : UInt8 := 37
@[match_pattern] abbrev CERTREQ : UInt8 := 38
@[match_pattern] abbrev AUTH : UInt8 := 39
@[match_pattern] abbrev NONCE : UInt8 := 40
@[match_pattern] abbrev NOTIFY : UInt8 := 41
@[match_pattern] abbrev DELETE : UInt8 := 42
@[match_pattern] abbrev TSI : UInt8 := 44
@[match_pattern] abbrev TSR : UInt8 := 45
@[match_pattern] abbrev SK : UInt8 := 46
@[match_pattern] abbrev CP : UInt8 := 47
@[match_pattern] abbrev EAP : UInt8 := 48

end PayloadType

/-! Protocol IDs. -/
namespace ProtocolId

abbrev IKE : UInt8 := 1
abbrev ESP : UInt8 := 3

end ProtocolId

/-! Notify message types that the engine sends or reads. -/
namespace NotifyType

abbrev INVALID_KE_PAYLOAD : UInt16 := 17
abbrev COOKIE : UInt16 := 16390
abbrev NAT_DETECTION_SOURCE_IP : UInt16 := 16388
abbrev NAT_DETECTION_DESTINATION_IP : UInt16 := 16389

end NotifyType

/-! Transform types of a proposal. -/
namespace TransformType

abbrev ENCR : UInt8 := 1
abbrev PRF : UInt8 := 2
abbrev INTEG : UInt8 := 3
abbrev DH : UInt8 := 4
abbrev ESN : UInt8 := 5

end TransformType

def octetAt (buffer : Octets) (index : Nat) : UInt8 := buffer.getD index 0

def slice (buffer : Octets) (first last : Nat) : Octets := (buffer.take last).drop first

structure IkeHeader where
  initiatorSpi : UInt64
  responderSpi : UInt64
  nextPayload : UInt8
  version : UInt8
  exchange : ExchangeType
  flags : UInt8
  messageId : UInt32
  length : UInt32
  deriving DecidableEq, Repr

namespace IkeHeader

def new (initiatorSpi responderSpi : UInt64) (exchange : ExchangeType) (flags : UInt8)
    (messageId : UInt32) : IkeHeader where
  initiatorSpi := initiatorSpi
  responderSpi := responderSpi
  nextPayload := PayloadType.NONE
  version := ikeVersion2
  exchange := exchange
  flags := flags
  messageId := messageId
  length := UInt32.ofNat ikeHeaderLen

def isResponse (header : IkeHeader) : Bool := header.flags &&& flagResponse != 0

def encode (header : IkeHeader) : Octets :=
  be64 header.initiatorSpi ++ be64 header.responderSpi ++
    [header.nextPayload, header.version, header.exchange.toU8, header.flags] ++
    be32 header.messageId ++ be32 header.length

theorem encode_length (header : IkeHeader) : header.encode.length = ikeHeaderLen := by
  simp [encode, ikeHeaderLen]

def decode (buffer : Octets) : Except IpsecError IkeHeader := do
  if buffer.length < ikeHeaderLen then
    throw (.ike "IKE message is shorter than its header")
  let initiatorSpi := ofBe64 (slice buffer 0 8)
  let responderSpi := ofBe64 (slice buffer 8 16)
  let nextPayload := octetAt buffer 16
  let version := octetAt buffer 17
  let some exchange := ExchangeType.fromU8 (octetAt buffer 18)
    | throw ⟨.noSupport, "unsupported IKE exchange type"⟩
  let flags := octetAt buffer 19
  let messageId := ofBe32 (slice buffer 20 24)
  let length := ofBe32 (slice buffer 24 28)
  if version &&& 0xf0 ≠ ikeVersion2 then
    throw (.ike "unsupported IKE major version")
  if length.toNat > buffer.length ∨ length.toNat < ikeHeaderLen then
    throw (.ike "invalid IKE message length")
  return { initiatorSpi, responderSpi, nextPayload, version, exchange, flags, messageId, length }

end IkeHeader

structure TransformAttribute where
  type : UInt16
  value : Octets
  deriving DecidableEq, Repr

namespace TransformAttribute

def keyLength (bits : UInt16) : TransformAttribute := ⟨14, be16 bits⟩

def keyLengthBits (attr : TransformAttribute) : Option UInt16 :=
  if attr.type = 14 ∧ attr.value.length = 2 then some (ofBe16 attr.value) else none

end TransformAttribute

structure Transform where
  transformType : UInt8
  id : UInt16
  attributes : List TransformAttribute
  deriving DecidableEq, Repr

structure Proposal where
  number : UInt8
  protocol : UInt8
  spi : Octets
  transforms : List Transform
  deriving DecidableEq, Repr

structure TsSelector where
  tsType : UInt8
  protocol : UInt8
  startPort : UInt16
  endPort : UInt16
  start : IpAddr
  stop : IpAddr
  deriving DecidableEq, Repr

structure ConfigAttribute where
  type : UInt16
  value : Octets
  deriving DecidableEq, Repr

inductive Payload
  | sa (proposals : List Proposal)
  | ke (group : UInt16) (data : Octets)
  | id (initiator : Bool) (idType : UInt8) (data : Octets)
  | cert (encoding : UInt8) (data : Octets)
  | certReq (encoding : UInt8) (data : Octets)
  | auth (method : UInt8) (data : Octets)
  | nonce (data : Octets)
  | notify (protocol : UInt8) (spi : Octets) (notifyType : UInt16) (data : Octets)
  | delete (protocol : UInt8) (spiSize : UInt8) (spis : List UInt32)
  | ts (initiator : Bool) (selectors : List TsSelector)
  | config (attributes : List ConfigAttribute)
  | eap (data : Octets)
  | encrypted (next : UInt8) (data : Octets)
  | other (payloadType : UInt8) (data : Octets)
  deriving DecidableEq, Repr

def Payload.payloadType : Payload → UInt8
  | sa _ => PayloadType.SA
  | ke .. => PayloadType.KE
  | id initiator .. => if initiator then PayloadType.IDI else PayloadType.IDR
  | cert .. => PayloadType.CERT
  | certReq .. => PayloadType.CERTREQ
  | auth .. => PayloadType.AUTH
  | nonce _ => PayloadType.NONCE
  | notify .. => PayloadType.NOTIFY
  | delete .. => PayloadType.DELETE
  | ts initiator _ => if initiator then PayloadType.TSI else PayloadType.TSR
  | config _ => PayloadType.CP
  | eap _ => PayloadType.EAP
  | encrypted .. => PayloadType.SK
  | other payloadType _ => payloadType

/-! Encoding. -/

def encodeAttribute (attr : TransformAttribute) : Octets :=
  if attr.type = 14 ∧ attr.value.length = 2 then
    be16 (0x8000 ||| attr.type) ++ attr.value
  else
    be16 attr.type ++ be16 (UInt16.ofNat attr.value.length) ++ attr.value

def encodeTransform (last : Bool) (transform : Transform) : Octets :=
  let attributes := transform.attributes.flatMap encodeAttribute
  [if last then 0 else 3, 0] ++ be16 (UInt16.ofNat (8 + attributes.length)) ++
    [transform.transformType, 0] ++ be16 transform.id ++ attributes

def encodeTransforms : List Transform → Octets
  | [] => []
  | transform :: rest => encodeTransform rest.isEmpty transform ++ encodeTransforms rest

def encodeProposal (last : Bool) (proposal : Proposal) : Except IpsecError Octets := do
  if proposal.spi.length > 255 then
    throw (.ike "proposal SPI is too long")
  let proposalBody := [proposal.number, proposal.protocol, UInt8.ofNat proposal.spi.length,
    UInt8.ofNat proposal.transforms.length] ++ proposal.spi ++ encodeTransforms proposal.transforms
  let proposalLen := 8 + proposal.spi.length + (proposalBody.length - 4 - proposal.spi.length)
  return [if last then 0 else 2, 0] ++ be16 (UInt16.ofNat proposalLen) ++ proposalBody

def encodeSa : List Proposal → Except IpsecError Octets
  | [] => return []
  | proposal :: rest => return (← encodeProposal rest.isEmpty proposal) ++ (← encodeSa rest)

def encodeTsSelector (selector : TsSelector) : Except IpsecError Octets := do
  let (length, addresses) ← (match selector.tsType, selector.start, selector.stop with
    | 7, .v4 start, .v4 stop => pure (16, IpAddr.octets (.v4 start) ++ IpAddr.octets (.v4 stop))
    | 8, .v6 start, .v6 stop => pure (40, IpAddr.octets (.v6 start) ++ IpAddr.octets (.v6 stop))
    | 7, _, _ => throw (.ike "traffic selector type does not match its addresses")
    | 8, _, _ => throw (.ike "traffic selector type does not match its addresses")
    | other, _, _ => throw ⟨.noSupport, s!"unsupported traffic selector type {other}"⟩ :
      Except IpsecError (UInt16 × Octets))
  return [selector.tsType, selector.protocol] ++ be16 length ++ be16 selector.startPort ++
    be16 selector.endPort ++ addresses

def encodeTsSelectors : List TsSelector → Except IpsecError Octets
  | [] => return []
  | selector :: rest => return (← encodeTsSelector selector) ++ (← encodeTsSelectors rest)

def encodeSpis (spiSize : UInt8) : List UInt32 → Except IpsecError Octets
  | [] => return []
  | spi :: rest => do
    let head ← (match spiSize with
      | 4 => pure (be32 spi)
      | 8 => pure (be64 (UInt64.ofNat spi.toNat))
      | _ => throw (.ike "invalid delete SPI size") : Except IpsecError Octets)
    return head ++ (← encodeSpis spiSize rest)

def encodeConfig : List ConfigAttribute → Except IpsecError Octets
  | [] => return []
  | attr :: rest => do
    if attr.value.length > 65535 then
      throw (.ike "configuration attribute is too long")
    return be16 attr.type ++ be16 (UInt16.ofNat attr.value.length) ++ attr.value ++
      (← encodeConfig rest)

def Payload.encodeBody : Payload → Except IpsecError Octets
  | sa proposals => encodeSa proposals
  | ke group data => return be16 group ++ [0, 0] ++ data
  | id _ idType data => return [idType, 0, 0, 0] ++ data
  | cert encoding data => return encoding :: data
  | certReq encoding data => return encoding :: data
  | auth method data => return [method, 0, 0, 0] ++ data
  | nonce data => return data
  | notify protocol spi notifyType data => do
    if spi.length > 255 then
      throw (.ike "notify SPI is too long")
    return [protocol, UInt8.ofNat spi.length] ++ be16 notifyType ++ spi ++ data
  | delete protocol spiSize spis =>
    return [protocol, spiSize] ++ be16 (UInt16.ofNat spis.length) ++ (← encodeSpis spiSize spis)
  | ts _ selectors =>
    return [UInt8.ofNat selectors.length, 0, 0, 0] ++ (← encodeTsSelectors selectors)
  | config attributes => encodeConfig attributes
  | eap data => return data
  | encrypted _ data => return data
  | other _ data => return data

def encodeBodies : List (UInt8 × Octets) → Except IpsecError Octets
  | [] => return []
  | (_, body) :: rest => do
    let next := (rest.head?.map Prod.fst).getD PayloadType.NONE
    let length := 4 + body.length
    if length > 65535 then
      throw (.ike "payload is too long")
    return [next, 0] ++ be16 (UInt16.ofNat length) ++ body ++ (← encodeBodies rest)

def encodeChain (payloads : List Payload) : Except IpsecError Octets := do
  let bodies ← payloads.mapM fun payload => return (payload.payloadType, ← payload.encodeBody)
  encodeBodies bodies

/-! Decoding. -/

def decodeAttributes : Nat → Octets → Except IpsecError (List TransformAttribute)
  | 0, _ => return []
  | bound + 1, data => do
    if data.length < 4 then return []
    let wire := ofBe16 (slice data 0 2)
    let type := wire &&& 0x7fff
    if wire &&& 0x8000 ≠ 0 then
      return ⟨type, slice data 2 4⟩ :: (← decodeAttributes bound (data.drop 4))
    else
      let len := (ofBe16 (slice data 2 4)).toNat
      if 4 + len > data.length then
        throw (.ike "invalid transform attribute length")
      return ⟨type, slice data 4 (4 + len)⟩ :: (← decodeAttributes bound (data.drop (4 + len)))

def decodeTransforms : Nat → Octets → Except IpsecError (List Transform)
  | 0, _ => return []
  | count + 1, data => do
    if data.length < 8 then
      throw (.ike "truncated transform")
    let transformLen := (ofBe16 (slice data 2 4)).toNat
    if transformLen < 8 ∨ transformLen > data.length then
      throw (.ike "invalid transform length")
    let attributes ← decodeAttributes data.length (slice data 8 transformLen)
    let rest ← decodeTransforms count (data.drop transformLen)
    return ⟨octetAt data 4, ofBe16 (slice data 6 8), attributes⟩ :: rest

def decodeSaLoop : Nat → Octets → Except IpsecError (List Proposal)
  | 0, _ => return []
  | bound + 1, body => do
    if body.length < 8 then return []
    let last := octetAt body 0
    let length := (ofBe16 (slice body 2 4)).toNat
    if length < 8 ∨ length > body.length then
      throw (.ike "invalid proposal length")
    let proposal := body.take length
    let spiLen := (octetAt proposal 6).toNat
    if 8 + spiLen > proposal.length then
      throw (.ike "invalid proposal SPI length")
    let transforms ← decodeTransforms (octetAt proposal 7).toNat (proposal.drop (8 + spiLen))
    let head : Proposal :=
      ⟨octetAt proposal 4, octetAt proposal 5, slice proposal 8 (8 + spiLen), transforms⟩
    if last = 0 then return [head]
    return head :: (← decodeSaLoop bound (body.drop length))

def decodeSa (body : Octets) : Except IpsecError (List Proposal) := decodeSaLoop body.length body

def decodeTsSelectors : Nat → Octets → Except IpsecError (List TsSelector)
  | 0, _ => return []
  | count + 1, data => do
    if data.length < 8 then
      throw (.ike "truncated traffic selector")
    let tsType := octetAt data 0
    let length := (ofBe16 (slice data 2 4)).toNat
    if length < 8 ∨ length > data.length then
      throw (.ike "invalid traffic selector length")
    let (start, stop) ← (match tsType with
      | 7 =>
        if length ≠ 16 then throw (.ike "invalid IPv4 traffic selector length")
        else pure (IpAddr.ofOctets4 (slice data 8 12), IpAddr.ofOctets4 (slice data 12 16))
      | 8 =>
        if length ≠ 40 then throw (.ike "invalid IPv6 traffic selector length")
        else pure (IpAddr.ofOctets16 (slice data 8 24), IpAddr.ofOctets16 (slice data 24 40))
      | other => throw ⟨.noSupport, s!"unsupported traffic selector type {other}"⟩ :
        Except IpsecError (IpAddr × IpAddr))
    let rest ← decodeTsSelectors count (data.drop length)
    return ⟨tsType, octetAt data 1, ofBe16 (slice data 4 6), ofBe16 (slice data 6 8), start, stop⟩ ::
      rest

def decodeTs (body : Octets) : Except IpsecError (List TsSelector) := do
  if body.length < 4 then
    throw (.ike "truncated traffic selector payload")
  decodeTsSelectors (octetAt body 0).toNat (body.drop 4)

def decodeSpis (spiSize : Nat) : Nat → Octets → Except IpsecError (List UInt32)
  | 0, _ => return []
  | count + 1, data => do
    let spi ← (match spiSize with
      | 4 => pure (ofBe32 (slice data 0 4))
      | 8 =>
        if ofBe32 (slice data 0 4) ≠ 0 then
          throw (.ike "64-bit SPI does not fit the IKE SPI representation")
        else pure (ofBe32 (slice data 4 8))
      | _ => pure 0 : Except IpsecError UInt32)
    return spi :: (← decodeSpis spiSize count (data.drop spiSize))

def decodeConfig : Nat → Octets → Except IpsecError (List ConfigAttribute)
  | 0, _ => return []
  | bound + 1, body => do
    if body.length < 4 then return []
    let type := ofBe16 (slice body 0 2) &&& 0x7fff
    let length := (ofBe16 (slice body 2 4)).toNat
    if 4 + length > body.length then
      throw (.ike "invalid configuration attribute length")
    return ⟨type, slice body 4 (4 + length)⟩ :: (← decodeConfig bound (body.drop (4 + length)))

def decodePayload (kind : UInt8) (body : Octets) (next : UInt8) : Except IpsecError Payload :=
  match kind with
  | PayloadType.SA => return .sa (← decodeSa body)
  | PayloadType.KE => do
    if body.length < 4 then
      throw (.ike "truncated key exchange payload")
    return .ke (ofBe16 (slice body 0 2)) (body.drop 4)
  | PayloadType.IDI => do
    if body.length < 4 then
      throw (.ike "truncated identification payload")
    return .id true (octetAt body 0) (body.drop 4)
  | PayloadType.IDR => do
    if body.length < 4 then
      throw (.ike "truncated identification payload")
    return .id false (octetAt body 0) (body.drop 4)
  | PayloadType.CERT => do
    if body.isEmpty then
      throw (.ike "truncated certificate payload")
    return .cert (octetAt body 0) (body.drop 1)
  | PayloadType.CERTREQ => do
    if body.isEmpty then
      throw (.ike "truncated certificate request payload")
    return .certReq (octetAt body 0) (body.drop 1)
  | PayloadType.AUTH => do
    if body.length < 4 then
      throw (.ike "truncated authentication payload")
    return .auth (octetAt body 0) (body.drop 4)
  | PayloadType.NONCE => return .nonce body
  | PayloadType.NOTIFY => do
    if body.length < 4 then
      throw (.ike "truncated notify payload")
    let spiSize := (octetAt body 1).toNat
    if 4 + spiSize > body.length then
      throw (.ike "invalid notify SPI length")
    return .notify (octetAt body 0) (slice body 4 (4 + spiSize)) (ofBe16 (slice body 2 4))
      (body.drop (4 + spiSize))
  | PayloadType.DELETE => do
    if body.length < 4 then
      throw (.ike "truncated delete payload")
    let spiSize := (octetAt body 1).toNat
    let count := (ofBe16 (slice body 2 4)).toNat
    if ¬(spiSize = 0 ∨ spiSize = 4 ∨ spiSize = 8) ∨ 4 + count * spiSize > body.length then
      throw (.ike "invalid delete payload")
    return .delete (octetAt body 0) (octetAt body 1) (← decodeSpis spiSize count (body.drop 4))
  | PayloadType.TSI => return .ts true (← decodeTs body)
  | PayloadType.TSR => return .ts false (← decodeTs body)
  | PayloadType.CP => return .config (← decodeConfig body.length body)
  | PayloadType.EAP => return .eap body
  | PayloadType.SK => return .encrypted next body
  | other => return .other other body

def decodeChainLoop : Nat → UInt8 → Octets → Except IpsecError (List Payload × Octets)
  | 0, _, data => return ([], data)
  | bound + 1, payloadType, data => do
    if payloadType = PayloadType.NONE then return ([], data)
    if data.length < 4 then
      throw (.ike "truncated payload header")
    let next := octetAt data 0
    let length := (ofBe16 (slice data 2 4)).toNat
    if length < 4 ∨ length > data.length then
      throw (.ike "invalid payload length")
    let payload ← decodePayload payloadType (slice data 4 length) next
    let rest := data.drop length
    if payloadType = PayloadType.SK then return ([payload], rest)
    let (payloads, rest) ← decodeChainLoop bound next rest
    return (payload :: payloads, rest)

def decodeChain (firstType : UInt8) (data : Octets) : Except IpsecError (List Payload) := do
  let (payloads, rest) ← decodeChainLoop (data.length + 1) firstType data
  if !rest.isEmpty then
    throw (.ike s!"trailing bytes after last IKE payload ({rest.length} bytes)")
  return payloads

structure Message where
  header : IkeHeader
  payloads : List Payload
  deriving DecidableEq, Repr

namespace Message

def encode (message : Message) : Except IpsecError Octets := do
  let chain ← encodeChain message.payloads
  let nextPayload := (message.payloads.head?.map Payload.payloadType).getD PayloadType.NONE
  let length := UInt32.ofNat (ikeHeaderLen + chain.length)
  return { message.header with nextPayload, length }.encode ++ chain

def decode (buffer : Octets) : Except IpsecError Message := do
  let header ← IkeHeader.decode buffer
  let buffer := buffer.take header.length.toNat
  let payloads ← decodeChain header.nextPayload (buffer.drop ikeHeaderLen)
  return { header, payloads }

def payload (message : Message) (kind : UInt8) : Option Payload :=
  message.payloads.find? fun payload => payload.payloadType == kind

end Message

/-! Algorithms as wire transforms. -/

def encryptionTransform (encryption : EncryptionAlgorithm) : Transform :=
  ⟨TransformType.ENCR, encryption.transformId,
    (encryption.keyLenBits.map fun bits => [TransformAttribute.keyLength bits]).getD []⟩

def ikeTransforms (encryption : EncryptionAlgorithm) (prf : PrfAlgorithm)
    (integrity : IntegrityAlgorithm) (dh : DhGroup) : List Transform :=
  [encryptionTransform encryption, ⟨TransformType.PRF, prf.transformId, []⟩] ++
    (if integrity ≠ .none then [⟨TransformType.INTEG, integrity.transformId, []⟩] else []) ++
    (if dh ≠ .none then [⟨TransformType.DH, dh.transformId, []⟩] else [])

def espTransforms (encryption : EncryptionAlgorithm) (integrity : IntegrityAlgorithm) (esn : Bool)
    (dh : DhGroup) : List Transform :=
  [encryptionTransform encryption] ++
    (if integrity ≠ .none then [⟨TransformType.INTEG, integrity.transformId, []⟩] else []) ++
    [⟨TransformType.ESN, if esn then 1 else 0, []⟩] ++
    (if dh ≠ .none then [⟨TransformType.DH, dh.transformId, []⟩] else [])

end Shuli.Ipsec
