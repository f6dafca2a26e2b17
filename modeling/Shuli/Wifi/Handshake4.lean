import Shuli.Wifi.Crypto

/-!
The supplicant side of the 4-way handshake and of the group key handshake
(`crypto/handshake4.rs`, `crypto/ocv.rs`). EAPOL-Key frames, key data elements and operating
channel information are encoded and parsed by the netlink crate, which is the parameter
`EapolCodec`; the random generator answers with the octets `fresh` where a nonce is drawn.
-/

namespace Shuli.Wifi

open Fallible
open Shuli.Core (WifiError handshakeError)

def kckLen : Nat := 16

def kekLen : Nat := 16

def tkLen : Nat := 16

abbrev Ptk := Block 48

structure EapolKeyFrame where
  replayCounter : UInt64
  keyNonce : Block 32
  keyRsc : Block 8
  keyMic : Block 16
  keyData : Octets
  isEncryptedData : Bool
  descVersion : UInt16
  raw : Octets
  deriving DecidableEq, Repr

structure ManagementKey where
  keyIndex : UInt16
  ipn : Block 6
  key : Octets
  deriving DecidableEq, Repr

structure KeyDataKdes where
  gtk : Option (UInt8 × Octets) := none
  igtk : Option ManagementKey := none
  bigtk : Option ManagementKey := none
  rsne : Option Octets := none
  rsnxe : Option Octets := none
  keyId : Option UInt8 := none
  transitionDisable : Option UInt8 := none
  deriving DecidableEq, Repr

structure Oci where
  operatingClass : UInt8
  channel : UInt8
  segment : UInt8
  deriving DecidableEq, Repr

def Oci.toBytes (oci : Oci) : Octets := [oci.operatingClass, oci.channel, oci.segment]

class EapolCodec where
  buildMessage2 : (snonce : Block 32) → (replayCounter : UInt64) → (keyData : Octets) →
    (descVersion : UInt16) → Octets
  buildMessage4 : (snonce : Block 32) → (replayCounter : UInt64) → (descVersion : UInt16) → Octets
  buildGroupMessage2 : (replayCounter : UInt64) → (keyRsc : Block 8) → (descVersion : UInt16) → Octets
  pduWithZeroedMic : Octets → Octets
  setMic : Octets → Block 16 → Octets
  parseKeyDataKdes : Octets → KeyDataKdes
  parseOciKde : Octets → Option Oci
  buildOciKde : Oci → Octets
  matchesFreq : Oci → (freqMhz : UInt32) → Bool
  /-- Whether two RSN elements are equal up to their PMKID lists. -/
  rsneMatchIgnorePmkid : Octets → Octets → Bool

inductive MicAlg
  | aesCmac | hmacSha256 | hmacSha1
  deriving DecidableEq, Repr

structure FourWayState where
  pmk : Block 32
  macSta : MacAddr
  macAp : MacAddr
  anonce : Option (Block 32)
  snonce : Block 32
  ptk : Option Ptk
  /-- The PTK staged by Message 1, live once Message 3 has verified. -/
  tptk : Option Ptk
  replayCounter : UInt64
  replayCounterSet : Bool
  /-- Replay counter of the Message 1 being negotiated. -/
  pendingReplayCounter : Option UInt64
  rsne : Octets
  /-- The RSNE of the beacon; empty when none was recorded. -/
  apRsne : Octets
  /-- The RSNXE of the beacon; empty when the AP advertises none. -/
  apRsnxe : Octets
  gtk : Option Octets
  gtkIndex : UInt8
  micAlg : MicAlg
  descVersion : UInt16
  /-- With an FT AKM the PTK comes from PMK-R1. -/
  ftPmkR1 : Option PmkR1
  ocv : Bool
  oci : Option Oci
  freqMhz : UInt32
  extKeyId : Bool
  keyId : Option UInt8
  deriving DecidableEq, Repr

def debugHex (octets : Octets) : String :=
  let digits (octet : UInt8) : String :=
    String.ofList [Nat.digitChar (octet.toNat / 16), Nat.digitChar (octet.toNat % 16)]
  "[" ++ ", ".intercalate (octets.map digits) ++ "]"

def debugHexOption : Option Octets → String
  | none => "None"
  | some octets => "Some(" ++ debugHex octets ++ ")"

namespace FourWayState

def newWithApIes (fresh : Block 32) (pmk : Block 32) (micAlg : MicAlg) (macSta macAp : MacAddr)
    (rsne apRsne apRsnxe : Octets) : FourWayState where
  pmk := pmk
  macSta := macSta
  macAp := macAp
  anonce := none
  snonce := fresh
  ptk := none
  tptk := none
  replayCounter := 0
  replayCounterSet := false
  pendingReplayCounter := none
  rsne := rsne
  apRsne := apRsne
  apRsnxe := apRsnxe
  gtk := none
  gtkIndex := 0
  micAlg := micAlg
  descVersion := 0
  ftPmkR1 := none
  ocv := false
  oci := none
  freqMhz := 0
  extKeyId := false
  keyId := none

def newFt (fresh : Block 32) (ftPmkR1 : PmkR1) (micAlg : MicAlg) (macSta macAp : MacAddr)
    (rsne apRsne apRsnxe : Octets) : FourWayState :=
  { newWithApIes fresh ⟨List.replicate 32 0, List.length_replicate⟩ micAlg macSta macAp rsne apRsne
      apRsnxe with
    ftPmkR1 := some ftPmkR1 }

def setOcv (self : FourWayState) (enabled : Bool) (oci : Oci) (freqMhz : UInt32) : FourWayState :=
  { self with ocv := enabled, oci := some oci, freqMhz := freqMhz }

def setExtKeyId (self : FourWayState) (enabled : Bool) : FourWayState :=
  { self with extKeyId := enabled }

def handshakePtk (self : FourWayState) : Option Ptk := self.tptk.or self.ptk

def kckOf (ptk : Ptk) : Block kckLen := ptk.slice 0 kckLen (by decide)

def kekOf (ptk : Ptk) : Block kekLen := ptk.slice kckLen kekLen (by decide)

def tkOf (ptk : Ptk) : Block tkLen := ptk.slice (kckLen + kekLen) tkLen (by decide)

def kck (self : FourWayState) : Option (Block kckLen) := self.handshakePtk.map kckOf

def kek (self : FourWayState) : Option (Block kekLen) := self.handshakePtk.map kekOf

def committedKck (self : FourWayState) : Option (Block kckLen) := self.ptk.map kckOf

def committedKek (self : FourWayState) : Option (Block kekLen) := self.ptk.map kekOf

def tk (self : FourWayState) : Option (Block tkLen) := self.ptk.map tkOf

def updateReplayCounter (self : FourWayState) (replayCtr : Block 8) : FourWayState :=
  { self with replayCounter := ofBe64 replayCtr.val, replayCounterSet := true }

def setPtk (self : FourWayState) (ptk : Ptk) : FourWayState :=
  { self with ptk := some ptk, tptk := none }

variable [Primitives]

def derivePtk (self : FourWayState) (anonce : Block 32) : Ptk :=
  match self.ftPmkR1 with
  | some pmkR1 => deriveFtPtk pmkR1 self.snonce anonce self.macAp self.macSta
  | none =>
    let (mac1, mac2) :=
      if beNat self.macAp.val < beNat self.macSta.val then (self.macAp, self.macSta)
      else (self.macSta, self.macAp)
    let (nonce1, nonce2) :=
      if anonce.val < self.snonce.val then (anonce, self.snonce) else (self.snonce, anonce)
    let context := mac1.val ++ mac2.val ++ nonce1.val ++ nonce2.val
    match self.micAlg with
    | .hmacSha1 => prfSha1 self.pmk.val "Pairwise key expansion" context 48
    | _ => kdf self.pmk.val "Pairwise key expansion" context 48

def computeMic (self : FourWayState) (kck : Block kckLen) (data : Octets) :
    Except WifiError (Block 16) :=
  match self.micAlg with
  | .aesCmac => aesCmac kck data
  | .hmacSha256 => .ok (hmacSha256Mic kck.val data)
  | .hmacSha1 => .ok (hmacSha1Mic kck.val data)

variable [EapolCodec]

def withMic (self : FourWayState) (kck : Block kckLen) (pdu : Octets) : Except WifiError Octets := do
  let mic ← self.computeMic kck (EapolCodec.pduWithZeroedMic pdu)
  return EapolCodec.setMic pdu mic

def verifyMic (self : FourWayState) (kck : Block kckLen) (frame : EapolKeyFrame) (mismatch : String) :
    Except WifiError Unit := do
  let expected ← self.computeMic kck (EapolCodec.pduWithZeroedMic frame.raw)
  if expected = frame.keyMic then return () else throw (handshakeError mismatch)

def duplicates (self : FourWayState) (anonce : Block 32) (replayCounter : UInt64) : Prop :=
  self.pendingReplayCounter = some replayCounter ∧ self.anonce = some anonce

instance (self : FourWayState) (anonce : Block 32) (replayCounter : UInt64) :
    Decidable (self.duplicates anonce replayCounter) := inferInstanceAs (Decidable (_ ∧ _))

def stage (self : FourWayState) (fresh anonce : Block 32) (replayCounter : UInt64)
    (descVersion : UInt16) : FourWayState :=
  let recorded := { self with
    snonce := if self.duplicates anonce replayCounter then self.snonce else fresh
    anonce := some anonce
    pendingReplayCounter := some replayCounter
    descVersion := descVersion }
  { recorded with tptk := some (recorded.derivePtk anonce) }

def acceptCounter (self : FourWayState) (replayCounter : UInt64) : FourWayState :=
  { self with replayCounter := replayCounter, replayCounterSet := true }

def endPending (self : FourWayState) : FourWayState := { self with pendingReplayCounter := none }

def setKeyId (self : FourWayState) (keyId : Option UInt8) : FourWayState := { self with keyId := keyId }

def setGtk (self : FourWayState) (index : UInt8) (gtk : Octets) : FourWayState :=
  { self with gtkIndex := index, gtk := some gtk }

def takeGtk (self : FourWayState) : Option (UInt8 × Octets) → FourWayState
  | some (index, gtk) => self.setGtk index gtk
  | none => self

def promote (self : FourWayState) : FourWayState :=
  { self with ptk := self.tptk.or self.ptk, tptk := none }

end FourWayState

abbrev FourWay := Fallible FourWayState WifiError

section

variable [Primitives] [EapolCodec]

def verifyOci (keyData : Octets) (freqMhz : UInt32) : Except WifiError Unit :=
  match EapolCodec.parseOciKde keyData with
  | none => .error (handshakeError "OCV: AP Message 3 carries no OCI KDE")
  | some oci =>
    if EapolCodec.matchesFreq oci freqMhz then .ok ()
    else
      let bytes := debugHex oci.toBytes
      .error (handshakeError s!"OCV: AP OCI {bytes} does not match freq {freqMhz}")

def processMessage1 (fresh anonce : Block 32) (replayCounter : UInt64) (descVersion : UInt16) :
    FourWay Octets := do
  let self ← get
  if self.replayCounterSet ∧ replayCounter ≤ self.replayCounter then
    let last := self.replayCounter
    throw (handshakeError s!"Message 1 replay counter {replayCounter} <= last                      accepted {last}")
  if self.pendingReplayCounter = some replayCounter ∧ ¬self.duplicates anonce replayCounter then
    throw (handshakeError "Message 1 reused a replay counter with a new ANonce")
  modify (·.stage fresh anonce replayCounter descVersion)
  let self ← get
  -- staging has set the PTK from which `kck` reads
  let kck := FourWayState.kckOf (self.derivePtk anonce)
  let ociKde := match self.ocv, self.oci with
    | true, some oci => EapolCodec.buildOciKde oci
    | _, _ => []
  self.withMic kck
    (EapolCodec.buildMessage2 self.snonce replayCounter (self.rsne ++ ociKde) self.descVersion)

def FourWayState.validateApIes (self : FourWayState) (kdes : KeyDataKdes) : Except WifiError Unit := do
  if self.apRsne.isEmpty then return ()
  let rsne ← orThrow kdes.rsne (handshakeError "Message 3 key data carries no RSNE")
  let rsneOk :=
    if self.ftPmkR1.isSome then EapolCodec.rsneMatchIgnorePmkid rsne self.apRsne
    else rsne == self.apRsne
  if !rsneOk then
    let received := debugHex rsne
    let beacon := debugHex self.apRsne
    throw (handshakeError
      s!"RSNE downgrade detected: Message 3 RSNE {received} differs from beacon RSNE {beacon}")
  if !self.apRsnxe.isEmpty && kdes.rsnxe != some self.apRsnxe then
    let received := debugHexOption kdes.rsnxe
    let beacon := debugHex self.apRsnxe
    throw (handshakeError
      s!"RSNXE downgrade detected: Message 3 RSNXE {received} differs from beacon RSNXE {beacon}")

def FourWayState.selectKeyId (self : FourWayState) (kdes : KeyDataKdes) :
    Except WifiError (Option UInt8) := do
  if !self.extKeyId then return none
  let keyId ← orThrow kdes.keyId (handshakeError "Extended Key ID handshake without a Key ID KDE")
  if keyId > 1 then throw (handshakeError s!"invalid Extended Key ID {keyId}")
  return some keyId

def openKeyData (self : FourWayState) (kek : Option (Block kekLen)) (frame : EapolKeyFrame)
    (plainText : String) : Except WifiError Octets := do
  let kek ← orThrow kek (handshakeError "KEK not derived")
  if !frame.isEncryptedData then throw (handshakeError plainText)
  let plain ← aesKeyUnwrap kek frame.keyData
  if self.ocv then verifyOci plain self.freqMhz
  return plain

def takeKeyData (frame : EapolKeyFrame) : FourWay KeyDataKdes := do
  let self ← get
  let plain ← openKeyData self self.kek frame "Message 3 key data is not encrypted"
  let kdes := EapolCodec.parseKeyDataKdes plain
  let keyId ← self.selectKeyId kdes
  modify (·.setKeyId keyId)
  self.validateApIes kdes
  modify (·.takeGtk kdes.gtk)
  return kdes

def processMessage3 (frame : EapolKeyFrame) : FourWay (Octets × KeyDataKdes) := do
  let self ← get
  let pending ← orThrow self.pendingReplayCounter
    (handshakeError "Message 3 without a preceding Message 1")
  if frame.replayCounter < pending ∨ self.replayCounterSet ∧ frame.replayCounter ≤ self.replayCounter then
    let counter := frame.replayCounter
    throw (handshakeError s!"Message 3 replay counter {counter} is not newer than the                      handshake counter {pending}")
  if self.anonce ≠ some frame.keyNonce then
    throw (handshakeError "Message 3 Key Nonce does not match the ANonce from                  Message 1")
  let kck ← orThrow self.kck (handshakeError "PTK not derived")
  self.verifyMic kck frame "MIC mismatch"
  modify fun self => (self.acceptCounter frame.replayCounter).endPending
  let kdes ← if frame.keyData.isEmpty then pure {} else takeKeyData frame
  modify (·.promote)
  let self ← get
  let message4 ← self.withMic kck
    (EapolCodec.buildMessage4 self.snonce self.replayCounter self.descVersion)
  return (message4, kdes)

def processGroupRekey (frame : EapolKeyFrame) : FourWay (Octets × KeyDataKdes) := do
  let self ← get
  if frame.replayCounter ≤ self.replayCounter then
    let counter := frame.replayCounter
    let last := self.replayCounter
    throw (handshakeError s!"group rekey replay counter {counter} <= last accepted {last}")
  let kck ← orThrow self.committedKck (handshakeError "PTK not derived")
  self.verifyMic kck frame "group rekey MIC mismatch"
  modify (·.acceptCounter frame.replayCounter)
  if frame.keyData.isEmpty then
    throw (handshakeError "group rekey carries no key data")
  let plain ← openKeyData self self.committedKek frame "group rekey key data is not encrypted"
  let kdes := EapolCodec.parseKeyDataKdes plain
  let (index, gtk) ← orThrow kdes.gtk (handshakeError "no GTK KDE in group rekey")
  modify (·.setGtk index gtk)
  let self ← get
  let message2 ← self.withMic kck
    (EapolCodec.buildGroupMessage2 self.replayCounter frame.keyRsc frame.descVersion)
  return (message2, kdes)

end

end Shuli.Wifi
