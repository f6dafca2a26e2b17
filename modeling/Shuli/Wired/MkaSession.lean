import Mathlib.Data.List.Sort
import Shuli.Wired.Macsec

/-!
One MKA participant of a wired port (`MkaSession` of `mka.rs`): peer liveness, key server election,
SAK generation, distribution and installation. `run` is modelled in two halves, before and after it
waits for a frame. The clock, the random numbers, the socket and the kernel are inputs of each half.
-/

namespace Shuli.Wired

open Fallible
open Shuli.Core (WifiError handshakeError)

abbrev Instant := Nat

def secs (n : Nat) : Nat := n * 10 ^ 9

def mkaHelloSecs : Nat := 2

def mkaLifeSecs : Nat := 6

def defaultMacsecIface : String := "macsec0"

def recvBufferLen : Nat := 4096

def ethernetHeaderLen : Nat := 14

structure EapolFrame where
  src : MacAddr
  dst : MacAddr
  payload : Octets
  deriving DecidableEq, Repr

def EapolFrame.received (frame : EapolFrame) : EapolFrame :=
  { frame with payload := frame.payload.take (recvBufferLen - ethernetHeaderLen) }

structure MacsecConfig where
  cak : Octets
  ckn : Octets
  keyServerPriority : UInt8
  canBeKeyServer : Bool
  macsecIface : Option String
  replayWindow : UInt32
  encrypt : Bool
  deriving DecidableEq, Repr

namespace MacsecConfig

def macsecIfaceName (self : MacsecConfig) : String := self.macsecIface.getD defaultMacsecIface

def validate (self : MacsecConfig) : Except WifiError Unit :=
  if self.cak.length ≠ 16 ∧ self.cak.length ≠ 32 then
    .error (handshakeError s!"MKA CAK must be 16 or 32 octets, got {self.cak.length}")
  else if self.ckn = [] ∨ 32 < self.ckn.length then
    .error (handshakeError s!"MKA CKN must be 1..=32 octets, got {self.ckn.length}")
  else .ok ()

end MacsecConfig

structure Peer where
  mi : Mi
  mn : UInt32
  sci : Sci
  priority : UInt8
  keyServer : Bool
  macsecDesired : Bool
  macsecCapability : UInt8
  live : Bool
  lastSeen : Instant
  rxReady : Bool
  /-- A receive SA for the current SAK is installed for the SCI of the peer. -/
  rxInstalled : Bool
  deriving DecidableEq, Repr

def livePeerScis (peers : List Peer) : List Sci :=
  (peers.filter fun peer => peer.live && peer.sci != zeros 8).map (·.sci)

def pendingRxScis (peers : List Peer) : List Sci :=
  (peers.filter fun peer => peer.live && peer.sci != zeros 8 && !peer.rxInstalled).map (·.sci)

/-- Live Peer List entries, the greatest SCI first. Octet arrays of one length compare as the numbers
that they write. -/
def orderedLivePeers (peers : List Peer) : List PeerId :=
  let key (peer : Peer) : Nat := beNat (peer.sci.val ++ peer.mi.val)
  ((peers.filter (·.live)).insertionSort fun first second => key second ≤ key first).map fun peer =>
    ⟨peer.mi, peer.mn⟩

def orderedPotentialPeers (peers : List Peer) : List PeerId :=
  ((peers.filter (!·.live)).map fun peer => (⟨peer.mi, peer.mn⟩ : PeerId)).insertionSort
    fun first second => beNat second.mi.val ≤ beNat first.mi.val

def sakUseMatches (own : Option KeyId) (peer : KeyId) : Bool := own == some peer

def csIdGcmAes128 : Block 8 := ⟨[0x00, 0x80, 0x02, 0x00, 0x01, 0x00, 0x00, 0x01], rfl⟩

def distSakSupported (encrypt : Bool) (dist : DistSak) : Bool :=
  if 1 < dist.confidentialityOffset then false
  else if encrypt != (dist.confidentialityOffset == 1) then false
  else match dist.cipherSuite with
    | none => true
    | some suite => suite == csIdGcmAes128

def confidentialityOffset (encrypt : Bool) : UInt8 := if encrypt then 1 else 0

def mnIsRecent (ownNextMn peerMn : UInt32) : Bool :=
  peerMn == ownNextMn - 1 || peerMn == ownNextMn - 2

def nextCounter (counter : UInt32) : UInt32 := max (counter + 1) 1

/-- An MKPDU that was sent, and the frame that carries it. -/
structure Transmission where
  pdu : MkaPdu
  frame : EapolFrame
  deriving DecidableEq, Repr

/-- One MKA participant. `outbox` holds what it has sent, the first one first. -/
structure MkaSession where
  ifaceName : String
  mac : MacAddr
  ckn : Octets
  kek : Octets
  ick : Octets
  priority : UInt8
  canBeKeyServer : Bool
  macsecIface : String
  replayWindow : UInt32
  encrypt : Bool
  macsec : Option MacsecDevice
  mi : Mi
  mn : UInt32
  peers : List Peer
  isKeyServer : Bool
  keyServerSci : Sci
  lki : Option KeyId
  lan : UInt8
  ltx : Bool
  lrx : Bool
  oki : Option KeyId
  oan : UInt8
  otx : Bool
  orx : Bool
  sak : Option Octets
  distSak : Option DistSak
  nextKn : UInt32
  lastHello : Instant
  lastSakTime : Option Instant
  needSend : Bool
  needNewSak : Bool
  outbox : List Transmission
  deriving DecidableEq, Repr

/-- What one half of `run` finds outside: the random numbers, the socket and the kernel. -/
structure MkaEnv where
  randomMi : Except String Mi
  randomSak : Except String (Block 16)
  sendFrame : Except WifiError Unit
  kernel : Kernel

abbrev Session := Fallible MkaSession WifiError

abbrev Candidate := UInt8 × Sci

def Candidate.precedes (first second : Candidate) : Prop :=
  first.1 < second.1 ∨ first.1 = second.1 ∧ beNat first.2.val < beNat second.2.val

instance (first second : Candidate) : Decidable (first.precedes second) :=
  inferInstanceAs (Decidable (_ ∨ _))

def Peer.candidate (peer : Peer) : Candidate := (peer.priority, peer.sci)

namespace MkaSession

def actorSci (self : MkaSession) : Sci :=
  ⟨self.mac.val ++ be16 1, by rw [List.length_append, self.mac.property, be16_length]⟩

def candidate (self : MkaSession) : Candidate := (self.priority, self.actorSci)

def betterCandidate (best : Option (Candidate × Bool)) (peer : Peer) : Option (Candidate × Bool) :=
  match best with
  | none => some (peer.candidate, false)
  | some (current, own) =>
    if peer.candidate.precedes current then some (peer.candidate, false) else some (current, own)

def bestCandidate (self : MkaSession) : Option (Candidate × Bool) :=
  (self.peers.filter fun peer => peer.live && peer.keyServer).foldl betterCandidate
    (if self.canBeKeyServer then some (self.candidate, true) else none)

/-- A change of the role has to be announced. A new key server must distribute its own SAK; one that
lost the role distributes none. -/
def electKeyServer (self : MkaSession) : MkaSession :=
  let elected := match self.bestCandidate with
    | some ((_, sci), own) => (own, sci)
    | none => (false, zeros 8)
  let changed := elected.1 != self.isKeyServer
  { self with
    isKeyServer := elected.1
    keyServerSci := elected.2
    needSend := self.needSend || changed
    needNewSak := if changed then elected.1 else self.needNewSak
    distSak := if changed && !elected.1 then none else self.distSak }

def initial (ifaceName : String) (config : MacsecConfig) (mac : MacAddr) (kek ick : Octets) (mi : Mi)
    (now : Instant) : MkaSession where
  ifaceName := ifaceName
  mac := mac
  ckn := config.ckn
  kek := kek
  ick := ick
  priority := config.keyServerPriority
  canBeKeyServer := config.canBeKeyServer
  macsecIface := config.macsecIfaceName
  replayWindow := config.replayWindow
  encrypt := config.encrypt
  macsec := none
  mi := mi
  mn := 1
  peers := []
  isKeyServer := config.canBeKeyServer
  keyServerSci := zeros 8
  lki := none
  lan := 0
  ltx := false
  lrx := false
  oki := none
  oan := 0
  otx := false
  orx := false
  sak := none
  distSak := none
  nextKn := 1
  lastHello := if now < secs mkaHelloSecs then now else now - secs mkaHelloSecs
  lastSakTime := none
  needSend := true
  needNewSak := false
  outbox := []

section

variable [MkaCrypto]

def new (ifaceName : String) (config : MacsecConfig) (socket : Except WifiError MacAddr)
    (randomMi : Except String Mi) (now : Instant) : Except WifiError MkaSession := do
  config.validate
  let mac ← socket
  let kek ← deriveKek config.cak config.ckn
  let ick ← deriveIck config.cak config.ckn
  let mi ← randomMi.mapError fun text => handshakeError ("random MI: " ++ text)
  .ok (initial ifaceName config mac kek ick mi now).electKeyServer

theorem new_eq_ok {ifaceName : String} {config : MacsecConfig} {socket : Except WifiError MacAddr}
    {randomMi : Except String Mi} {now : Instant} {session : MkaSession}
    (created : new ifaceName config socket randomMi now = .ok session) :
    ∃ mac kek ick mi, config.validate = .ok () ∧ deriveKek config.cak config.ckn = .ok kek ∧
      deriveIck config.cak config.ckn = .ok ick ∧
      session = (initial ifaceName config mac kek ick mi now).electKeyServer := by
  obtain ⟨⟨⟩, valid, created⟩ := Except.bind_eq_ok.mp created
  obtain ⟨mac, -, created⟩ := Except.bind_eq_ok.mp created
  obtain ⟨kek, wrapping, created⟩ := Except.bind_eq_ok.mp created
  obtain ⟨ick, checking, created⟩ := Except.bind_eq_ok.mp created
  obtain ⟨mi, -, created⟩ := Except.bind_eq_ok.mp created
  exact ⟨mac, kek, ick, mi, valid, wrapping, checking, (Except.ok.inj created).symm⟩

end

def hasLivePeer (self : MkaSession) : Bool := self.peers.any (·.live)

def isElectedKeyServer (self : MkaSession) (sci : Sci) : Bool :=
  self.keyServerSci != zeros 8 && sci == self.keyServerSci

def peersSupportMacsec (self : MkaSession) : Bool :=
  (self.peers.filter (·.live)).all fun peer => peer.macsecCapability != macsecCapNotImplemented

def allReady (self : MkaSession) : Bool := (self.peers.filter (·.live)).all (·.rxReady)

def secured (self : MkaSession) : Bool :=
  self.lki.isSome && self.lrx && self.ltx && self.hasLivePeer

def findPeer (self : MkaSession) (mi : Mi) : Option Peer := self.peers.find? (·.mi == mi)

theorem findPeer_mi {self : MkaSession} {mi : Mi} {peer : Peer} (found : self.findPeer mi = some peer) :
    peer.mi = mi := by
  have passed := List.find?_some (p := fun peer : Peer => peer.mi == mi) found
  exact eq_of_beq passed

theorem findPeer_mem {self : MkaSession} {mi : Mi} {peer : Peer} (found : self.findPeer mi = some peer) :
    peer ∈ self.peers := List.mem_of_find?_eq_some found

def resetMi (random : Except String Mi) (self : MkaSession) : MkaSession :=
  let mi : Mi := match random with
    | .ok mi => mi
    | .error _ => ⟨List.replicate 12 0x5a, List.length_replicate⟩
  { self with
    mi := mi
    mn := 1
    peers := []
    isKeyServer := self.canBeKeyServer
    keyServerSci := zeros 8
    lki := none
    oki := none
    sak := none
    distSak := none
    lastSakTime := none
    ltx := false
    lrx := false
    needNewSak := false }

def isFresh (now : Instant) (peer : Peer) : Bool := now - peer.lastSeen < secs mkaLifeSecs

def expirePeers (now : Instant) (self : MkaSession) : MkaSession :=
  let kept := self.peers.filter (isFresh now)
  if kept.length = self.peers.length then self
  else electKeyServer
    { self with
      peers := kept
      needSend := true
      needNewSak := self.needNewSak || self.isKeyServer && self.lki.isSome && kept.any (·.live) }

def expiredScis (now : Instant) (self : MkaSession) : List Sci :=
  (self.peers.filter fun peer => !isFresh now peer && peer.sci != zeros 8).map (·.sci)

def forgetSak (self : MkaSession) : MkaSession :=
  { self with
    lki := none
    oki := none
    lan := 0
    oan := 0
    ltx := false
    lrx := false
    otx := false
    orx := false
    sak := none
    distSak := none
    lastSakTime := none
    needNewSak := false
    peers := self.peers.map fun peer => { peer with rxReady := false }
    needSend := true }

def markInstalled (scis : List Sci) (self : MkaSession) : MkaSession :=
  { self with peers := self.peers.map fun peer =>
      if peer.live && scis.contains peer.sci then { peer with rxInstalled := true } else peer }

def markPending (scis : List Sci) (self : MkaSession) : MkaSession :=
  { self with peers := self.peers.map fun peer =>
      if scis.contains peer.sci then { peer with rxInstalled := true } else peer }

end MkaSession

open MkaSession

def withMacsec (operation : Device Unit) : Session Unit := do
  let self ← get
  match self.macsec with
  | none => pure ()
  | some device =>
    let outcome := exec operation device
    modify fun self => { self with macsec := some outcome.2 }
    liftM outcome.1

def ensureMacsec (env : MkaEnv) : Session Unit := do
  let self ← get
  if self.macsec.isSome then pure ()
  else
    let device ← liftM (MacsecDevice.create env.kernel
      ⟨self.ifaceName, self.macsecIface, self.actorSci, self.replayWindow, self.encrypt⟩)
    modify fun self => { self with macsec := some device }

def dropUnsecureSak (env : MkaEnv) : Session Unit := do
  let self ← get
  if self.lki.isNone ∨ self.hasLivePeer then pure ()
  else
    withMacsec (MacsecDevice.clearSas env.kernel)
    modify forgetSak

def activateTxSa (env : MkaEnv) : Session Unit := do
  let self ← get
  withMacsec (MacsecDevice.setTxSaActive env.kernel self.lan)

def installRxSas (env : MkaEnv) (scis : List Sci) (an : UInt8) (ki : KeyId) (sak : Octets) :
    Device Unit :=
  scis.forM fun sci => MacsecDevice.installRxSa env.kernel sci an ki sak

namespace MkaSession

/-- Whether the key server has to generate a SAK: it has none of its own yet, or a fresh one has been
asked for and MKA Life Time has elapsed since the previous one. -/
def sakIsDue (now : Instant) (self : MkaSession) : Bool :=
  let currentIsOurs := self.lki.any fun ki => ki.mi == self.mi
  self.isKeyServer && self.hasLivePeer && self.peersSupportMacsec &&
    (!currentIsOurs || self.needNewSak &&
      self.lastSakTime.all fun time => secs mkaLifeSecs ≤ now - time)

def adoptOwnSak (now : Instant) (kn : UInt32) (sak wrapped : Octets) (self : MkaSession) :
    MkaSession :=
  let an := (self.lan + 1) &&& 0x03
  { self with
    oki := self.lki
    oan := self.lan
    otx := self.ltx
    orx := self.lrx
    lki := some ⟨self.mi, kn⟩
    lan := an
    ltx := false
    lrx := true
    sak := some sak
    lastSakTime := some now
    needNewSak := false
    peers := self.peers.map fun peer => { peer with rxReady := false, rxInstalled := false }
    distSak := some ⟨an, confidentialityOffset self.encrypt, kn, none, wrapped⟩ }

def adoptDistributedSak (ki : KeyId) (an : UInt8) (sak : Octets) (self : MkaSession) : MkaSession :=
  { self with
    oki := self.lki
    oan := self.lan
    otx := self.ltx
    orx := self.lrx
    lki := some ki
    lan := an
    lrx := true
    ltx := false
    sak := some sak }

end MkaSession

section

variable [MkaCrypto]

def generateSak (env : MkaEnv) (now : Instant) : Session Unit := do
  let sak ← liftM (env.randomSak.mapError fun text => handshakeError ("random SAK: " ++ text))
  let self ← get
  let kn := self.nextKn
  modify fun self => { self with nextKn := nextCounter kn }
  let wrapped ← liftM (wrapKey self.kek sak.val)
  modify (adoptOwnSak now kn sak.val wrapped)
  let self ← get
  let ki : KeyId := ⟨self.mi, kn⟩
  let scis := livePeerScis self.peers
  withMacsec do
    MacsecDevice.installTxSa env.kernel self.lan ki sak.val false
    installRxSas env scis self.lan ki sak.val
  modify fun self => if self.macsec.isSome then self.markInstalled scis else self
  modify fun self => { self with needSend := true }

def ensureSak (env : MkaEnv) (now : Instant) : Session Unit := do
  let self ← get
  when (self.sakIsDue now) (generateSak env now)

end

def installRxSasForLivePeers (env : MkaEnv) : Session Unit := do
  let self ← get
  match self.lki, self.sak with
  | some ki, some sak =>
    let pending := pendingRxScis self.peers
    if pending = [] ∨ self.macsec.isNone then pure ()
    else
      withMacsec (installRxSas env pending self.lan ki sak)
      modify (markPending pending)
  | _, _ => pure ()

namespace MkaSession

def receivedPdu [MkaCrypto] (self : MkaSession) (frame : EapolFrame) : Option MkaPdu :=
  if frame.payload.length < 4 ∨ frame.payload.getD 1 0 ≠ eapolTypeMka then none
  else if frame.dst ≠ paeGroupAddr ∨ frame.src.val.getD 0 0 &&& 1 ≠ 0 then none
  -- Packet sockets may echo our own transmitted frame back.
  else if frame.src = self.mac then none
  else match MkaPdu.parse frame.payload frame.dst frame.src self.ick with
    | .ok (some pdu) => if pdu.basic.ckn = self.ckn then some pdu else none
    | .ok none => none
    | .error _ => none

def isStale (self : MkaSession) (pdu : MkaPdu) : Bool :=
  (self.findPeer pdu.basic.mi).any fun peer => pdu.basic.mn ≤ peer.mn

def heeds (self : MkaSession) (pdu : MkaPdu) : Bool :=
  pdu.basic.version ≤ mkaVersion && pdu.basic.algoAgility == algoAgility && !self.isStale pdu

def newPeer (now : Instant) (basic : MkaBasic) : Peer where
  mi := basic.mi
  mn := basic.mn
  sci := basic.sci
  priority := basic.priority
  keyServer := basic.keyServer
  macsecDesired := basic.macsecDesired
  macsecCapability := basic.macsecCapability
  live := false
  lastSeen := now
  rxReady := false
  rxInstalled := false

def refreshPeer (now : Instant) (basic : MkaBasic) (peer : Peer) : Peer :=
  { peer with
    mn := basic.mn
    sci := basic.sci
    priority := basic.priority
    keyServer := basic.keyServer
    macsecDesired := basic.macsecDesired
    macsecCapability := basic.macsecCapability
    lastSeen := now }

/-- Enter the sender of a message into the peer list. The message number of a message that is taken
in differs from the known one, so an answer is always due. -/
def notePeer (now : Instant) (pdu : MkaPdu) (self : MkaSession) : MkaSession :=
  let mi := pdu.basic.mi
  { self with
    peers :=
      if (self.findPeer mi).isSome then
        updateFirst (·.mi == mi) (refreshPeer now pdu.basic) self.peers
      else self.peers ++ [newPeer now pdu.basic]
    needSend := true }

def collides (self : MkaSession) (pdu : MkaPdu) : Bool :=
  (pdu.livePeers ++ pdu.potentialPeers).any fun id => id.mi == self.mi && self.mn ≤ id.mn

def knowsUs (self : MkaSession) (pdu : MkaPdu) : Bool :=
  (pdu.livePeers ++ pdu.potentialPeers).any fun id => id.mi == self.mi && mnIsRecent self.mn id.mn

def isLive (self : MkaSession) (mi : Mi) : Bool := (self.findPeer mi).any (·.live)

/-- A sender that lists a recent message of ours is live; a member joined the CA, so the key server
distributes a fresh SAK. -/
def markLive (now : Instant) (pdu : MkaPdu) (self : MkaSession) : MkaSession :=
  let mi := pdu.basic.mi
  let joins := self.knowsUs pdu && !self.isLive mi
  { self with
    peers :=
      if joins then
        updateFirst (·.mi == mi) (fun peer => { peer with live := true, lastSeen := now }) self.peers
      else self.peers
    needSend := self.needSend || joins
    needNewSak := self.needNewSak || joins && self.isKeyServer && self.lki.isSome }

def listedPeer (now : Instant) (id : PeerId) : Peer where
  mi := id.mi
  mn := id.mn
  sci := zeros 8
  priority := 0xff
  keyServer := false
  macsecDesired := false
  macsecCapability := macsecCapNotImplemented
  live := false
  lastSeen := now
  rxReady := false
  rxInstalled := false

def learnPeer (now : Instant) (own : Mi) (peers : List Peer) (id : PeerId) : List Peer :=
  if id.mi = own ∨ peers.any (·.mi == id.mi) then peers else peers ++ [listedPeer now id]

def learnPeers (now : Instant) (pdu : MkaPdu) (self : MkaSession) : MkaSession :=
  let peers := if self.isLive pdu.basic.mi then
      pdu.livePeers.foldl (learnPeer now self.mi) self.peers
    else self.peers
  { self with
    peers := peers
    needSend := self.needSend || peers.length != self.peers.length }

def meetPeer (now : Instant) (pdu : MkaPdu) (self : MkaSession) : MkaSession :=
  (((self.notePeer now pdu).markLive now pdu).learnPeers now pdu).electKeyServer

def noteReport (use : SakUse) (mi : Mi) (self : MkaSession) : MkaSession :=
  { self with
    peers := updateFirst (·.mi == mi) (fun peer => { peer with rxReady := use.latestRx }) self.peers
    needNewSak := self.needNewSak || pnExhaustion ≤ use.latestLlpn }

def stopDistributing (self : MkaSession) : MkaSession :=
  { self with distSak := if self.allReady then none else self.distSak }

end MkaSession

def startTransmission (env : MkaEnv) : Session Unit := do
  modify fun self => { self with ltx := true }
  activateTxSa env
  modify fun self => { self with needSend := true }

def handleSakUse (env : MkaEnv) (pdu : MkaPdu) (sender : Peer) : Session Unit := do
  let self ← get
  match pdu.sakUse with
  | none => pure ()
  | some use =>
    if ¬sakUseMatches self.lki use.latestKi then pure ()
    else if self.isKeyServer ∧ sender.live then
      modify (noteReport use sender.mi)
      let self ← get
      when (self.allReady ∧ ¬self.ltx) (startTransmission env)
      modify stopDistributing
    else
      when (¬self.isKeyServer ∧ sender.keyServer ∧ self.isElectedKeyServer sender.sci ∧
        use.latestTx ∧ ¬self.ltx) (startTransmission env)

def installDistributedSak (env : MkaEnv) (sender : Peer) (dist : DistSak) (sak : Octets) :
    Session Unit := do
  let ki : KeyId := ⟨sender.mi, dist.kn⟩
  modify (adoptDistributedSak ki dist.an sak)
  let self ← get
  let live := livePeerScis self.peers
  -- Every participant transmits with its own SCI, so every live member gets a receive SA.
  let scis := if live.contains sender.sci then live else live ++ [sender.sci]
  withMacsec do
    installRxSas env scis dist.an ki sak
    MacsecDevice.installTxSa env.kernel dist.an ki sak false
  modify fun self => if self.macsec.isSome then self.markInstalled scis else self
  modify fun self => { self with needSend := true }

section

variable [MkaCrypto]

def handleDistSak (env : MkaEnv) (pdu : MkaPdu) (sender : Peer) : Session Bool := do
  let self ← get
  match pdu.distSak with
  | none => pure true
  | some dist =>
    if sender.live ∧ sender.keyServer ∧ self.isElectedKeyServer sender.sci ∧ ¬self.isKeyServer ∧
        dist.wrappedSak ≠ [] then
      if ¬distSakSupported self.encrypt dist then pure false
      else if self.lki = some ⟨sender.mi, dist.kn⟩ then pure true
      else match unwrapKey self.kek dist.wrappedSak with
        | .error _ => pure false
        | .ok sak =>
          if sak.length ≠ 16 then pure false
          else do
            installDistributedSak env sender dist sak
            pure true
    else pure true

def handleSaks (env : MkaEnv) (now : Instant) (pdu : MkaPdu) (sender : Peer) : Session Unit := do
  handleSakUse env pdu sender
  if ← handleDistSak env pdu sender then
    let self ← get
    when self.isKeyServer (ensureSak env now)
    -- A peer can become live, or reveal its SCI, after the SAK was installed.
    installRxSasForLivePeers env
  else pure ()

def handlePdu (env : MkaEnv) (now : Instant) (pdu : MkaPdu) : Session Unit := do
  let self ← get
  if self.collides pdu then
    modify fun self => { self.resetMi env.randomMi with needSend := true }
  else
    modify (meetPeer now pdu)
    let self ← get
    match self.findPeer pdu.basic.mi with
    | none => pure ()
    | some sender => handleSaks env now pdu sender

def handleFrame (env : MkaEnv) (now : Instant) (frame : EapolFrame) : Session Unit := do
  let self ← get
  match self.receivedPdu frame with
  | none => pure ()
  | some pdu =>
    if pdu.basic.mi = self.mi then
      modify fun self => { self.resetMi env.randomMi with needSend := true }
    else when (self.heeds pdu) (handlePdu env now pdu)

def MkaSession.mkpdu (self : MkaSession) : MkaPdu where
  basic :=
    { version := mkaVersion
      priority := self.priority
      keyServer := self.isKeyServer
      macsecDesired := true
      macsecCapability := macsecCapIntegrityConfidentiality
      sci := self.actorSci
      mi := self.mi
      mn := self.mn
      algoAgility := algoAgility
      ckn := self.ckn }
  livePeers := orderedLivePeers self.peers
  potentialPeers := orderedPotentialPeers self.peers
  sakUse := self.lki.map fun ki =>
    { latestAn := self.lan
      latestTx := self.ltx
      latestRx := self.lrx
      oldAn := self.oan
      oldTx := self.otx
      oldRx := self.orx
      plainTx := false
      plainRx := false
      delayProtect := false
      latestKi := ki
      latestLlpn := 0
      oldKi := self.oki.getD KeyId.default
      oldLlpn := 0 }
  distSak := if self.isKeyServer then self.distSak else none

def MkaSession.noteSent (now : Instant) (payload : Octets) (self : MkaSession) : MkaSession :=
  { self with
    mn := nextCounter self.mn
    lastHello := now
    needSend := false
    outbox := self.outbox ++ [⟨self.mkpdu, ⟨self.mac, paeGroupAddr, payload⟩⟩] }

def sendMkpdu (env : MkaEnv) (now : Instant) : Session Unit := do
  let self ← get
  let payload ← liftM (self.mkpdu.buildEapol paeGroupAddr self.mac self.ick)
  liftM env.sendFrame
  modify (noteSent now payload)

def beginRun (env : MkaEnv) (now : Instant) : Session Unit := do
  ensureMacsec env
  let self ← get
  let expired := self.expiredScis now
  modify (expirePeers now)
  withMacsec (expired.forM fun sci => MacsecDevice.removeRxSc env.kernel sci)
  dropUnsecureSak env
  let self ← get
  when (self.needSend ∨ self.lastHello + secs mkaHelloSecs ≤ now) (sendMkpdu env now)

def finishRun (env : MkaEnv) (now : Instant) (frame : Option EapolFrame) : Session Bool := do
  frame.forM (handleFrame env now)
  modify (expirePeers now)
  dropUnsecureSak env
  let self ← get
  when self.isKeyServer (ensureSak env now)
  let self ← get
  when self.needSend (sendMkpdu env now)
  let self ← get
  pure self.secured

end

end Shuli.Wired
