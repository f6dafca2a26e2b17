import Shuli.Core.Eap
import Shuli.Ipsec.Proposal
import Shuli.Ipsec.Sa
import Shuli.Ipsec.Selectors

/-!
The state of one IKEv2 connection (`engine.rs`, `transport.rs`, `client.rs`): the runner with
its phase, IKE SA, timers and pending exchanges, and the environment that answers its calls
to the clock, the random generator and the socket during one step. Everything that leaves the
runner goes to its trace, together with marks for the authentication steps.
-/

namespace Shuli.Ipsec

open Shuli.Core (Tls)

abbrev Instant := Nat

inductive IpsecState
  | idle | connecting | established | rekeying | failed | closed
  deriving DecidableEq, Repr

inductive ChildSaRemovalReason
  | peerDelete | localDelete | expired | peerDead | reconfigured
  deriving DecidableEq, Repr

structure IpsecLease where
  connection : String
  peerIndex : Nat
  xfrmInterface : Option String
  ifId : UInt32
  reqid : UInt32
  localSelectors : List TrafficSelector
  remoteSelectors : List TrafficSelector
  localInnerAddresses : List IpNet
  remoteInnerAddresses : List IpNet
  localAddress : Option IpAddr
  remoteAddress : Option IpAddr
  natT : Bool
  dns : List IpAddr
  expiresAt : Option Instant
  deriving DecidableEq, Repr

inductive IpsecEvent
  | state (connection : String) (state : IpsecState)
  | childSaReady (connection : String) (peerIndex : Nat) (child : ChildSaHandle) (lease : IpsecLease)
  | childSaRefreshed (connection : String) (peerIndex : Nat) (child : ChildSaHandle)
      (lease : IpsecLease)
  | childSaRemoved (connection : String) (peerIndex : Nat) (reason : ChildSaRemovalReason)
  | error (connection : String) (error : IpsecError)
  deriving DecidableEq, Repr

inductive AuthFlow
  | request | response
  deriving DecidableEq, Repr

/-- One entry of the trace. `sent`, `published` and `event` are what the outside sees; the other
entries mark the point of the code that they name. -/
inductive Action
  | sent (message : Octets) (encapsulated : Bool) (remote : SocketAddr)
  | published (state : IpsecState)
  | event (event : IpsecEvent)
  | ikeCreated (role : Role)
  | authComputed (signed auth : Octets)
  | authVerified (flow : AuthFlow) (role : Role) (signed auth : Octets)
  | childInstalled (child : ChildSaHandle)
  | childRemoved (reason : ChildSaRemovalReason)
  deriving DecidableEq, Repr

def Action.message? : Action → Option Octets
  | .sent message _ _ => some message
  | _ => none

/-- The answers of the environment during one step. No step asks for one of them twice. -/
structure Env where
  now : Instant
  systemNow : Instant
  randomU64 : Except IpsecError UInt64
  randomU32 : Except IpsecError UInt32
  /-- `random_bytes` for a nonce or an IV fills the whole buffer or fails. -/
  nonce : (length : Nat) → Except IpsecError { bytes : Octets // bytes.length = length }
  iv : (length : Nat) → Except IpsecError { bytes : Octets // bytes.length = length }
  dhSecret : DhGroup → Except IpsecError Octets
  send : Except IpsecError Unit
  bindNatT : Except IpsecError Unit
  localAddr : Except IpsecError SocketAddr
  /-- Source address of a probe socket connected to a remote end. -/
  probe : SocketAddr → Except IpsecError IpAddr

def nonceLen : Nat := 32

def retransmitTimeout : Duration := .fromSecs 2

def maxRetransmits : UInt8 := 6

def natTPort : UInt16 := 4500

inductive Phase
  | init | saInitSent | authSent | eapAuth | established | closed
  deriving DecidableEq, Repr

structure PendingSaInit where
  keyPair : DhKeyPair
  nonce : Octets
  proposals : List IkeProposal
  realMessage1 : Octets
  localSpi : UInt64
  localAddress : IpAddr
  localPort : UInt16
  deriving DecidableEq, Repr

structure PendingRekey where
  keyPair : Option DhKeyPair
  nonceI : Octets
  localSpi : UInt32
  suite : ChildProposal
  deriving DecidableEq, Repr

structure IkeRuntime where
  role : Role
  localSpi : UInt64
  remoteSpi : UInt64
  keys : IkeKeys
  suite : IkeProposal
  nonceI : Octets
  nonceR : Octets
  realMessage1 : Octets
  realMessage2 : Octets
  localChildSpi : UInt32
  child : Option ChildSaHandle
  innerAddresses : List IpNet
  dns : List IpAddr
  deriving DecidableEq, Repr

structure IkeTransport where
  remote : SocketAddr
  natT : Bool
  encapsulated : Bool
  deriving DecidableEq, Repr

structure Retransmit where
  message : Octets
  deadline : Instant
  timeout : Duration
  attempts : UInt8
  maxAttempts : UInt8
  deriving DecidableEq, Repr

namespace Retransmit

def new (message : Octets) (timeout : Duration) (maxAttempts : UInt8) (now : Instant) :
    Retransmit where
  message := message
  deadline := now + timeout
  timeout := timeout
  attempts := 0
  maxAttempts := maxAttempts

def retry (self : Retransmit) (now : Instant) : Retransmit × Bool :=
  let attempts := self.attempts + 1
  let timeout := min (self.timeout * 2) (.fromSecs 60)
  ({ self with attempts, timeout, deadline := now + timeout }, attempts < self.maxAttempts)

end Retransmit

variable [Tls]

abbrev EapSession := Core.EapPeer

structure Runner where
  config : IpsecConfig
  transport : IkeTransport
  phase : Phase
  ike : Option IkeRuntime
  peerIndex : Nat
  retransmit : Option Retransmit
  nextMessageId : UInt32
  pendingSaInit : Option PendingSaInit
  eap : Option EapSession
  dpdDeadline : Option Instant
  dpdFailures : UInt8
  rekeyDeadline : Option Instant
  pendingRekey : Option PendingRekey
  started : Bool
  trace : List Action

def Runner.spawn (config : IpsecConfig) : Runner where
  config := config
  transport :=
    { remote := match config.peers.head? with
        | some ⟨⟨some address, _, port⟩, _, _⟩ => ⟨address, port⟩
        | _ => ⟨.v4 0, 0⟩
      natT := config.localConfig.natT
      encapsulated := false }
  phase := .init
  ike := none
  peerIndex := 0
  retransmit := none
  nextMessageId := 1
  pendingSaInit := none
  eap := none
  dpdDeadline := none
  dpdFailures := 0
  rekeyDeadline := none
  pendingRekey := none
  started := false
  trace := []

abbrev Engine := Fallible Runner IpsecError

end Shuli.Ipsec
