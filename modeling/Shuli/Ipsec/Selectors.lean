import Shuli.Ipsec.Codec

/-!
What the engine reads out of a payload list: traffic selectors and their narrowing to the
configured ones, configuration attributes, identities and certificates (the free functions
at the end of `engine.rs`).
-/

namespace Shuli.Ipsec

def tsWire (selector : TrafficSelector) : TsSelector where
  tsType := if selector.start.isIpv4 then 7 else 8
  protocol := selector.protocol
  startPort := selector.startPort
  endPort := selector.endPort
  start := selector.start
  stop := selector.stop

def tsFromWire (selector : TsSelector) : TrafficSelector where
  start := selector.start
  stop := selector.stop
  protocol := selector.protocol
  startPort := selector.startPort
  endPort := selector.endPort

@[simp] theorem tsFromWire_tsWire (selector : TrafficSelector) :
    tsFromWire (tsWire selector) = selector := rfl

def tsOfSide (initiator : Bool) (payloads : List Payload) : List TrafficSelector :=
  payloads.flatMap fun
    | .ts side selectors => if side = initiator then selectors.map tsFromWire else []
    | _ => []

def tsFromPayloads (payloads : List Payload) :
    Except IpsecError (List TrafficSelector × List TrafficSelector) :=
  let initiator := tsOfSide true payloads
  let responder := tsOfSide false payloads
  if initiator.isEmpty ∨ responder.isEmpty then
    .error (.ike "IKE_AUTH is missing traffic selectors")
  else .ok (initiator, responder)

def pushIntersection (selector : TrafficSelector) (selected : List TrafficSelector)
    (allowed : TrafficSelector) : List TrafficSelector :=
  match selector.intersection allowed with
  | some both => if both ∈ selected then selected else selected ++ [both]
  | none => selected

def narrow (requested configured : List TrafficSelector) :
    Except IpsecError (List TrafficSelector) :=
  let selected := requested.foldl
    (fun selected selector => configured.foldl (pushIntersection selector) selected) []
  if selected.isEmpty then
    .error ⟨.proposal, "traffic selectors do not overlap with the configured selectors"⟩
  else .ok selected

def narrowRequestSelectors (configured : TrafficSelectorPair) (payloads : List Payload) :
    Except IpsecError (List TrafficSelector × List TrafficSelector) := do
  let (peerLocal, peerRemote) ← tsFromPayloads payloads
  let localSide ← narrow peerRemote configured.localSide
  let remoteSide ← narrow peerLocal configured.remoteSide
  return (localSide, remoteSide)

def narrowResponseSelectors (configured : TrafficSelectorPair) (payloads : List Payload) :
    Except IpsecError (List TrafficSelector × List TrafficSelector) := do
  let (selectedLocal, selectedRemote) ← tsFromPayloads payloads
  let localSide ← narrow selectedLocal configured.localSide
  let remoteSide ← narrow selectedRemote configured.remoteSide
  return (localSide, remoteSide)

def leadingZeros (width value : Nat) : Nat := if value = 0 then width else width - 1 - value.log2

def selectorToNet (selector : TrafficSelector) : Option IpNet :=
  match selector.start, selector.stop with
  | .v4 start, .v4 stop =>
    IpNet.new selector.start (UInt8.ofNat (leadingZeros 32 (start ^^^ stop).toNat))
  | .v6 start, .v6 stop =>
    IpNet.new selector.start (UInt8.ofNat (leadingZeros 128 (start ^^^ stop).toNat))
  | _, _ => none

def configAddress (attr : ConfigAttribute) : Option IpNet :=
  if attr.type = 1 ∧ attr.value.length = 4 then IpNet.new (.ofOctets4 attr.value) 32
  else if attr.type = 8 ∧ attr.value.length ≥ 16 then
    IpNet.new (.ofOctets16 (attr.value.take 16)) 128
  else none

def configDns (attr : ConfigAttribute) : Option IpAddr :=
  if attr.type = 3 ∧ attr.value.length = 4 then some (.ofOctets4 attr.value)
  else if attr.type = 10 ∧ attr.value.length ≥ 16 then some (.ofOctets16 (attr.value.take 16))
  else none

def parseConfigPayload (payloads : List Payload) : List IpNet × List IpAddr :=
  let attributes := payloads.flatMap fun
    | .config attributes => attributes
    | _ => []
  (attributes.filterMap configAddress, attributes.filterMap configDns)

def findId (payloads : List Payload) (initiator : Bool) : Option (UInt8 × Octets) :=
  payloads.findSome? fun
    | .id side idType data => if side = initiator then some (idType, data) else none
    | _ => none

def idPayloadBody (id : UInt8 × Octets) : Octets := [id.1, 0, 0, 0] ++ id.2

def certificateChain (payloads : List Payload) : List Octets :=
  payloads.filterMap fun
    | .cert 4 data => some data
    | _ => none

def certificatePayloads (chain : List Octets) : List Payload := chain.map (Payload.cert 4)

def findSa (payloads : List Payload) : Option (List Proposal) :=
  payloads.findSome? fun
    | .sa proposals => some proposals
    | _ => none

def findNonce (payloads : List Payload) : Option Octets :=
  payloads.findSome? fun
    | .nonce data => some data
    | _ => none

def findKe (payloads : List Payload) : Option (UInt16 × Octets) :=
  payloads.findSome? fun
    | .ke group data => some (group, data)
    | _ => none

def findAuth (payloads : List Payload) : Option (UInt8 × Octets) :=
  payloads.findSome? fun
    | .auth method data => some (method, data)
    | _ => none

def findPskAuth (payloads : List Payload) : Option Octets :=
  payloads.findSome? fun
    | .auth 2 data => some data
    | _ => none

def findEap (payloads : List Payload) : Option Octets :=
  payloads.findSome? fun
    | .eap data => some data
    | _ => none

def proposalSpi (proposal : Proposal) : Option UInt32 :=
  if proposal.spi.length < 4 then none else some (ofBe32 (proposal.spi.take 4))

end Shuli.Ipsec
