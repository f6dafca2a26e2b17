import Shuli.Core.EapTls

/-!
MACsec Key Agreement PDUs (`mka.rs`): the key hierarchy below the CAK, the parameter sets and their
encoding. AES-CMAC and AES key wrap come from other crates and are the parameter `MkaCrypto`.
-/

namespace Shuli.Wired

open Shuli.Core (WifiError handshakeError)

/-- The primitives of the cryptographic crates. Key wrap reports the text of its error. -/
class MkaCrypto where
  cmacAes128 : (key : Block 16) → (msg : Octets) → Block 16
  cmacAes256 : (key : Block 32) → (msg : Octets) → Block 16
  kwWrap128 : (kek : Block 16) → (plain : Octets) → Except String (Block (plain.length + 8))
  kwWrap256 : (kek : Block 32) → (plain : Octets) → Except String (Block (plain.length + 8))
  kwUnwrap128 : (kek : Block 16) → (wrapped : Octets) → Except String (Block (wrapped.length - 8))
  kwUnwrap256 : (kek : Block 32) → (wrapped : Octets) → Except String (Block (wrapped.length - 8))

@[reducible] def sampleMkaCrypto : MkaCrypto where
  cmacAes128 key msg := checksumBlock 16 (key.val ++ msg)
  cmacAes256 key msg := checksumBlock 16 (key.val ++ msg)
  kwWrap128 kek plain := .ok ⟨plain ++ beOctets 8 (checksum (kek.val ++ plain)), by simp⟩
  kwWrap256 kek plain := .ok ⟨plain ++ beOctets 8 (checksum (kek.val ++ plain)), by simp⟩
  kwUnwrap128 _ wrapped := .ok ⟨wrapped.take (wrapped.length - 8), by simp⟩
  kwUnwrap256 _ wrapped := .ok ⟨wrapped.take (wrapped.length - 8), by simp⟩

abbrev MacAddr := Block 6

abbrev Sci := Block 8

abbrev Mi := Block 12

def zeros (length : Nat) : Block length := .fill 0 length

def readBlock (width : Nat) (octets : Octets) : Block width :=
  ⟨(octets ++ List.replicate width 0).take width, by simp⟩

def readU32 (octets : Octets) (start : Nat) : UInt32 := ofBe32 ((octets.drop start).take 4)

def mkaVersion : UInt8 := 3

def eapolTypeMka : UInt8 := 5

def eapolVersion : UInt8 := 3

def icvLen : Nat := 16

def algoAgility : Block 4 := ⟨[0x00, 0x80, 0xc2, 0x01], rfl⟩

def paeGroupAddr : MacAddr := ⟨[0x01, 0x80, 0xc2, 0x00, 0x00, 0x03], rfl⟩

def macsecCapNotImplemented : UInt8 := 0

def macsecCapIntegrityConfidentiality : UInt8 := 2

def pnExhaustion : UInt32 := 0xC0000000

structure KeyId where
  mi : Mi
  kn : UInt32
  deriving DecidableEq, Repr

def KeyId.default : KeyId := ⟨zeros 12, 0⟩

structure PeerId where
  mi : Mi
  mn : UInt32
  deriving DecidableEq, Repr

structure MkaBasic where
  version : UInt8
  priority : UInt8
  keyServer : Bool
  macsecDesired : Bool
  macsecCapability : UInt8
  sci : Sci
  mi : Mi
  mn : UInt32
  algoAgility : Block 4
  ckn : Octets
  deriving DecidableEq, Repr

structure SakUse where
  latestAn : UInt8
  latestTx : Bool
  latestRx : Bool
  oldAn : UInt8
  oldTx : Bool
  oldRx : Bool
  plainTx : Bool
  plainRx : Bool
  delayProtect : Bool
  latestKi : KeyId
  latestLlpn : UInt32
  oldKi : KeyId
  oldLlpn : UInt32
  deriving DecidableEq, Repr

structure DistSak where
  an : UInt8
  confidentialityOffset : UInt8
  kn : UInt32
  cipherSuite : Option (Block 8)
  wrappedSak : Octets
  deriving DecidableEq, Repr

structure MkaPdu where
  basic : MkaBasic
  livePeers : List PeerId
  potentialPeers : List PeerId
  sakUse : Option SakUse
  distSak : Option DistSak
  deriving DecidableEq, Repr

section

variable [MkaCrypto]

def cmacAes (key msg : Octets) : Except WifiError (Block 16) :=
  if short : key.length = 16 then .ok (MkaCrypto.cmacAes128 ⟨key, short⟩ msg)
  else if long : key.length = 32 then .ok (MkaCrypto.cmacAes256 ⟨key, long⟩ msg)
  else .error (handshakeError s!"invalid CMAC key length {key.length}")

def within {α : Type} (step : String) (x : Except WifiError α) : Except WifiError α :=
  x.mapError fun e => handshakeError (step ++ ": " ++ e.display)

/-- The counter loop of `aesKdf`. Each iteration adds an octet or more, so the output length bounds
the iterations. -/
def kdfLoop (key label context : Octets) (length : Nat) :
    (bound : Nat) → (counter : UInt8) → Octets → Except WifiError Octets
  | 0, _, out => .ok out
  | bound + 1, counter, out =>
    if out.length < length then do
      let msg := [counter] ++ label ++ [0] ++ context ++ be16 (UInt16.ofNat (length * 8))
      let tag ← within "KDF AES-CMAC" (cmacAes key msg)
      if counter = 255 then .error (handshakeError "KDF counter overflow")
      else
        let out := out ++ tag.val.take (length - out.length)
        kdfLoop key label context length bound (counter + 1) out
    else .ok out

def aesKdf (key label context : Octets) (length : Nat) : Except WifiError Octets :=
  if length * 8 < 2 ^ 16 then kdfLoop key label context length length 1 []
  else .error (handshakeError "KDF output too long")

def keyidFromCkn (ckn : Octets) : Block 16 := readBlock 16 ckn

def deriveKek (cak ckn : Octets) : Except WifiError Octets :=
  aesKdf cak (asBytes "IEEE8021 KEK") (keyidFromCkn ckn).val cak.length

def deriveIck (cak ckn : Octets) : Except WifiError Octets :=
  aesKdf cak (asBytes "IEEE8021 ICK") (keyidFromCkn ckn).val cak.length

def wrapKey (kek plaintext : Octets) : Except WifiError Octets :=
  let wrapped : Except WifiError (Except String (Block (plaintext.length + 8))) :=
    if short : kek.length = 16 then .ok (MkaCrypto.kwWrap128 ⟨kek, short⟩ plaintext)
    else if long : kek.length = 32 then .ok (MkaCrypto.kwWrap256 ⟨kek, long⟩ plaintext)
    else .error (handshakeError s!"invalid KEK length {kek.length}")
  wrapped.bind fun
    | .ok out => .ok out.val
    | .error text => .error (handshakeError ("AES key wrap: " ++ text))

def unwrapKey (kek wrapped : Octets) : Except WifiError Octets :=
  if wrapped.length < 16 ∨ wrapped.length % 8 ≠ 0 then
    .error (handshakeError "invalid wrapped key length")
  else
    let unwrapped : Except WifiError (Except String (Block (wrapped.length - 8))) :=
      if short : kek.length = 16 then .ok (MkaCrypto.kwUnwrap128 ⟨kek, short⟩ wrapped)
      else if long : kek.length = 32 then .ok (MkaCrypto.kwUnwrap256 ⟨kek, long⟩ wrapped)
      else .error (handshakeError s!"invalid KEK length {kek.length}")
    unwrapped.bind fun
      | .ok out => .ok out.val
      | .error text => .error (handshakeError ("AES key unwrap: " ++ text))

def computeIcv (ick : Octets) (da sa : MacAddr) (eapol : Octets) : Except WifiError (Block 16) :=
  within "ICV AES-CMAC" (cmacAes ick (da.val ++ sa.val ++ be16 0x888e ++ eapol))

def verifyIcv (ick : Octets) (da sa : MacAddr) (eapol icv : Octets) : Bool :=
  match computeIcv ick da sa eapol with
  | .error _ => false
  | .ok expected => (expected.val.zip icv).all fun (a, b) => a ^^^ b == 0

end

def readPeers (data : Octets) : (count : Nat) → List PeerId
  | 0 => []
  | count + 1 =>
    if data.length < 16 then []
    else ⟨readBlock 12 data, readU32 data 12⟩ :: readPeers (data.drop 16) count

def align4 (n : Nat) : Nat := (n + 3) / 4 * 4

/-- What the loop of `parseBody` has read. -/
structure ParameterSets where
  livePeers : List PeerId
  potentialPeers : List PeerId
  sakUse : Option SakUse
  distSak : Option DistSak
  deriving DecidableEq, Repr

namespace ParameterSets

def empty : ParameterSets := ⟨[], [], none, none⟩

def length (octet3 octet4 : UInt8) : Nat := (octet3 &&& 0x0f).toNat * 256 + octet4.toNat

def readSakUse (octet2 octet3 : UInt8) (data : Octets) : SakUse where
  latestAn := (octet2 >>> 6) &&& 0x03
  latestTx := octet2 &&& 0x20 != 0
  latestRx := octet2 &&& 0x10 != 0
  oldAn := (octet2 >>> 2) &&& 0x03
  oldTx := octet2 &&& 0x02 != 0
  oldRx := octet2 &&& 0x01 != 0
  plainTx := octet3 &&& 0x80 != 0
  plainRx := octet3 &&& 0x40 != 0
  delayProtect := octet3 &&& 0x10 != 0
  latestKi := ⟨readBlock 12 data, readU32 data 12⟩
  latestLlpn := readU32 data 16
  oldKi := ⟨readBlock 12 (data.drop 20), readU32 data 32⟩
  oldLlpn := readU32 data 36

def readDistSak (octet2 : UInt8) (data : Octets) : DistSak :=
  let cipherSuite := if 36 ≤ data.length then some (readBlock 8 (data.drop 4)) else none
  { an := (octet2 >>> 6) &&& 0x03
    confidentialityOffset := (octet2 >>> 4) &&& 0x03
    kn := if 4 ≤ data.length then readU32 data 0 else 0
    cipherSuite := cipherSuite
    wrappedSak := data.drop (if cipherSuite.isSome then 12 else 4) }

def read (sets : ParameterSets) (type octet2 octet3 : UInt8) (data : Octets) :
    Except WifiError ParameterSets :=
  if type = 1 then
    if data.length % 16 = 0 then
      .ok { sets with livePeers := readPeers data (data.length / 16) }
    else .error (handshakeError "invalid Live Peer List length")
  else if type = 2 then
    if data.length % 16 = 0 then
      .ok { sets with potentialPeers := readPeers data (data.length / 16) }
    else .error (handshakeError "invalid Potential Peer List length")
  else if type = 3 then
    if 40 ≤ data.length then .ok { sets with sakUse := some (readSakUse octet2 octet3 data) }
    else .ok sets
  else if type = 4 then .ok { sets with distSak := some (readDistSak octet2 data) }
  else .ok sets

/-- The loop over the sets. Each has four octets or more, so the length of the body bounds the
iterations. -/
def parse : (bound : Nat) → ParameterSets → Octets → Except WifiError ParameterSets
  | bound + 1, sets, type :: octet2 :: octet3 :: octet4 :: rest =>
    let len := length octet3 octet4
    if rest.length < len then .error (handshakeError "truncated MKPDU parameter set")
    else do
      let sets ← sets.read type octet2 octet3 (rest.take len)
      parse bound sets (rest.drop (align4 len))
  | _, sets, _ => .ok sets

end ParameterSets

namespace MkaPdu

def parseBody (body : Octets) : Except WifiError MkaPdu :=
  if body.length < 32 then .error (handshakeError "MKPDU too short")
  else
    let flags := body.getD 2 0
    let basicLen := ParameterSets.length flags (body.getD 3 0)
    if basicLen < 28 ∨ body.length < 4 + basicLen then
      .error (handshakeError "invalid Basic Parameter Set length")
    else do
      let basic : MkaBasic :=
        { version := body.getD 0 0
          priority := body.getD 1 0
          keyServer := flags &&& 0x80 != 0
          macsecDesired := flags &&& 0x40 != 0
          macsecCapability := (flags >>> 4) &&& 0x03
          sci := readBlock 8 (body.drop 4)
          mi := readBlock 12 (body.drop 12)
          mn := readU32 body 24
          algoAgility := readBlock 4 (body.drop 28)
          ckn := (body.take (4 + basicLen)).drop 32 }
      let sets ← ParameterSets.parse body.length .empty (body.drop (4 + align4 basicLen))
      .ok ⟨basic, sets.livePeers, sets.potentialPeers, sets.sakUse, sets.distSak⟩

/-- Parse an EAPOL-MKA payload, EAPOL header included, after checking its ICV. A payload of another
EAPOL type is no MKPDU. -/
def parse [MkaCrypto] (eapol : Octets) (da sa : MacAddr) (ick : Octets) :
    Except WifiError (Option MkaPdu) :=
  if eapol.length < 4 ∨ eapol.getD 1 0 ≠ eapolTypeMka then .ok none
  else
    let bodyLen := (ofBe16 ((eapol.drop 2).take 2)).toNat
    if bodyLen < icvLen + 4 ∨ eapol.length < 4 + bodyLen then
      .error (handshakeError "truncated EAPOL-MKA frame")
    else if bodyLen % 4 ≠ 0 then
      .error (handshakeError "EAPOL-MKA body length is not a multiple of 4")
    else
      let icvStart := 4 + bodyLen - icvLen
      if verifyIcv ick da sa (eapol.take icvStart) (eapol.drop icvStart) then
        (parseBody ((eapol.take icvStart).drop 4)).map some
      else .error (handshakeError "invalid MKPDU ICV")

def padded (octets : Octets) : Octets :=
  octets ++ List.replicate (align4 octets.length - octets.length) 0

def bitAt (flag : Bool) (bit : UInt8) : UInt8 := flag.toUInt8 <<< bit

def lengthHigh (length : Nat) : UInt8 := UInt8.ofNat (length / 256) &&& 0x0f

def basicFlags (basic : MkaBasic) : UInt8 :=
  bitAt basic.keyServer 7 ||| bitAt basic.macsecDesired 6 |||
    ((basic.macsecCapability &&& 0x03) <<< 4) ||| lengthHigh (28 + basic.ckn.length)

def buildBasic (basic : MkaBasic) : Octets :=
  let basicLen := 28 + basic.ckn.length
  padded ([basic.version, basic.priority, basicFlags basic, UInt8.ofNat basicLen] ++ basic.sci.val ++
    basic.mi.val ++ be32 basic.mn ++ basic.algoAgility.val ++ basic.ckn)

def buildPeers (type : UInt8) (peers : List PeerId) : Octets :=
  if peers.isEmpty then []
  else
    let length := peers.length * 16
    [type, 0, lengthHigh length, UInt8.ofNat length] ++
      peers.flatMap fun peer => peer.mi.val ++ be32 peer.mn

def sakUseFlags (use : SakUse) : UInt8 :=
  ((use.latestAn &&& 0x03) <<< 6) ||| bitAt use.latestTx 5 ||| bitAt use.latestRx 4 |||
    ((use.oldAn &&& 0x03) <<< 2) ||| bitAt use.oldTx 1 ||| bitAt use.oldRx 0

def sakUsePlain (use : SakUse) : UInt8 :=
  bitAt use.plainTx 7 ||| bitAt use.plainRx 6 ||| bitAt use.delayProtect 4

def sakUseData (use : SakUse) : Octets :=
  use.latestKi.mi.val ++ be32 use.latestKi.kn ++ be32 use.latestLlpn ++
    use.oldKi.mi.val ++ be32 use.oldKi.kn ++ be32 use.oldLlpn

def buildSakUse (use : SakUse) : Octets := [3, sakUseFlags use, sakUsePlain use, 40] ++ sakUseData use

def distSakFlags (dist : DistSak) : UInt8 :=
  ((dist.an &&& 0x03) <<< 6) ||| ((dist.confidentialityOffset &&& 0x03) <<< 4)

def buildDistSak (dist : DistSak) : Octets :=
  let length := 4 + dist.wrappedSak.length
  padded ([4, distSakFlags dist, lengthHigh length, UInt8.ofNat length] ++
    (be32 dist.kn ++ dist.wrappedSak))

def buildBody (self : MkaPdu) : Octets :=
  buildBasic self.basic ++ buildPeers 1 self.livePeers ++ buildPeers 2 self.potentialPeers ++
    (self.sakUse.map buildSakUse).getD [] ++ (self.distSak.map buildDistSak).getD []

def eapolHeader (bodyLen : Nat) : Octets := [eapolVersion, eapolTypeMka] ++ be16 (UInt16.ofNat bodyLen)

def buildEapol [MkaCrypto] (self : MkaPdu) (da sa : MacAddr) (ick : Octets) :
    Except WifiError Octets :=
  let body := self.buildBody
  if body.length + icvLen < 2 ^ 16 then do
    let eapol := eapolHeader (body.length + icvLen) ++ body
    let icv ← computeIcv ick da sa eapol
    .ok (eapol ++ icv.val)
  else .error (handshakeError "MKPDU too long")

end MkaPdu

end Shuli.Wired
