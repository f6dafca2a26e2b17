import Mathlib.Data.ZMod.Basic
import Shuli.Wifi.SaeExchange

/-!
SAE for group 19 (`crypto/sae.rs`): the password element, the commit and confirm of one exchange,
and the elements of a commit. The points of the curve P-256 come from another crate and are the
parameter `P256`; so is the source of random scalars.
-/

namespace Shuli.Wifi

open Shuli.Core (WifiError)

def p256Order : Nat := 0xffffffff00000000ffffffffffffffffbce6faada7179e84f3b9cac2fc632551

def p256Prime : Nat := 0xffffffff00000001000000000000000000000000ffffffffffffffffffffffff

abbrev Scalar := ZMod p256Order

abbrev FieldElement := ZMod p256Prime

def p256B : FieldElement := 0x5ac635d8aa3a93e7b3ebbd55769886bc651d06b0cc53b0f63bce3c3e27d2604b

/-- The random scalars that are drawn until the source fails. -/
structure Rng where
  draws : List Scalar
  failure : String

/-- The group of the curve, with its encoding and the maps into it. -/
class P256 where
  Point : Type
  [group : AddCommGroup Point]
  [scaling : Module Scalar Point]
  [decidableEq : DecidableEq Point]
  /-- The coordinates x || y, which the identity has not. -/
  coordinates : Point → Option (Block 64)
  fromCoordinates : Block 64 → Option Point
  sqrt : FieldElement → Option FieldElement
  hkdfExpand : (prk : Block 32) → (info : String) → Block 48
  /-- SSWU of the number of the octets, modulo the field prime. -/
  mapToCurve : Block 48 → Point
  rng : Octets → Rng

attribute [reducible, instance] P256.group P256.scaling P256.decidableEq

open P256 (Point)

def saeError (msg : String) : WifiError := ⟨.saeFailed, msg⟩

def zeroBlock (length : Nat) : Block length := .fill 0 length

def saeGroup19Id : UInt16 := 19

def extAntiCloggingToken : UInt8 := 93

def extPasswordIdentifier : UInt8 := 33

def extAkmSuiteSelector : UInt8 := 114

def hnpMaxIter : Nat := 200

/-! ### Elements of a commit -/

def extendedElement (extension : UInt8) (content : Octets) : Octets :=
  [255, 1 + UInt8.ofNat content.length, extension] ++ content

def buildCommitAuthData (h2e : Bool) (group : UInt16) (scalar element : Octets) (token passwordId : Option Octets)
    (akmSelector : Option (Block 4)) : Octets :=
  le16 1 ++ le16 (if h2e then saeStatusH2e else 0) ++ le16 group ++
    (if h2e then [] else token.getD []) ++ scalar ++ element ++
    (passwordId.map (extendedElement extPasswordIdentifier)).getD [] ++
    (if h2e then (token.map (extendedElement extAntiCloggingToken)).getD [] else []) ++
    (akmSelector.map fun selector => extendedElement extAkmSuiteSelector selector.val).getD []

/-- The loop over the elements. An element takes three octets or more, so the number of octets bounds it. -/
def parseElementsLoop : (bound : Nat) → Octets → Except WifiError (List (UInt8 × Octets))
  | bound + 1, id :: length :: rest =>
    if length = 0 ∨ rest.length < length.toNat then .error (saeError "invalid SAE commit element length")
    else do
      let parsed ← parseElementsLoop bound (rest.drop length.toNat)
      return (if id = 255 then [(rest.headD 0, (rest.take length.toNat).drop 1)] else []) ++ parsed
  | _, [_] => .error (saeError "truncated SAE commit element")
  | _, _ => .ok []

def parseCommitElements (elements : Octets) : Except WifiError (List (UInt8 × Octets)) :=
  parseElementsLoop elements.length elements

def parseAntiCloggingToken (h2e : Bool) (payload : Octets) : Except WifiError Octets :=
  if payload.length < 2 then .error (saeError "anti-clogging response too short")
  else
    let rest := payload.drop 2
    if !h2e then .ok rest
    else if rest.length < 3 ∨ rest.getD 0 0 ≠ 255 ∨ rest.getD 2 0 ≠ extAntiCloggingToken then
      .error (saeError "malformed anti-clogging token container")
    else
      let length := (rest.getD 1 0).toNat
      if length = 0 ∨ rest.length - 2 < length then
        .error (saeError "bad anti-clogging token container length")
      else .ok ((rest.drop 3).take (length - 1))

/-! ### Encodings -/

def beBlock (value : Nat) : Block 32 := ⟨beOctets 32 value, beOctets_length 32 value⟩

def fromRepr {modulus : Nat} (bytes : Octets) : Option (ZMod modulus) :=
  if beNat bytes < modulus then some (beNat bytes) else none

def scalarToArray (scalar : Scalar) : Block 32 := beBlock scalar.val

def scalarFromBytes (bytes : Octets) : Except WifiError Scalar :=
  if bytes.length < 32 then
    let length := bytes.length
    .error (saeError s!"peer scalar too short: {length} bytes")
  else
    match fromRepr (bytes.take 32) with
    | none => .error (saeError "peer scalar out of range")
    | some scalar => if scalar = 0 then .error (saeError "peer scalar is zero") else .ok scalar

section

variable [P256]

def projectiveFromElem (bytes : Octets) : Point :=
  if short : bytes.length < 64 then 0
  else (P256.fromCoordinates ⟨bytes.take 64, by rw [List.length_take]; omega⟩).getD 0

def pointToXY (point : Point) : Block 64 := (P256.coordinates point).getD (zeroBlock 64)

/-! ### The password element -/

def orderedMacs (macSta macAp : MacAddr) : Octets :=
  if beNat macSta.val > beNat macAp.val then macSta.val ++ macAp.val else macAp.val ++ macSta.val

def sswuFromLabel (pwdSeed : Block 32) (label : String) : Point := P256.mapToCurve (P256.hkdfExpand pwdSeed label)

def derivePtEcc [Primitives] (ssid password : String) (passwordId : Option String) : Except WifiError Point :=
  let pwdSeed := Primitives.hmacSha256 (asBytes ssid) (asBytes password ++ (passwordId.map asBytes).getD [])
  let pt := sswuFromLabel pwdSeed "SAE Hash to Element u1 P1" + sswuFromLabel pwdSeed "SAE Hash to Element u2 P2"
  if pt = 0 then .error (saeError "PT is identity") else .ok pt

def derivePweFromPt [Primitives] (pt : Point) (macSta macAp : MacAddr) : Except WifiError Point :=
  let valHash := Primitives.hmacSha256 (zeroBlock 32).val (orderedMacs macSta macAp)
  let val := beNat valHash.val % (p256Order - 1) + 1
  match fromRepr (beOctets 32 val) with
  | none => .error (saeError "val out of range")
  | some (scalar : Scalar) =>
    let pwe := scalar • pt
    if pwe = 0 then .error (saeError "PWE is identity") else .ok pwe

def computePweH2e [Primitives] (password ssid : String) (macSta macAp : MacAddr) (passwordId : Option String) :
    Except WifiError Point := do
  derivePweFromPt (← derivePtEcc ssid password passwordId) macSta macAp

instance atLeastTwoThree : Nat.AtLeastTwo 3 := ⟨by decide⟩

def huntAndPeck [Primitives] (addrs : Octets) (password : String) : (left counter : Nat) → Except WifiError Point
  | 0, _ => .error (saeError s!"could not derive PWE within {hnpMaxIter} iterations")
  | left + 1, counter =>
    let pwdSeed := Primitives.hmacSha256 addrs (asBytes password ++ [UInt8.ofNat counter])
    let pwdValue := kdf pwdSeed.val "SAE Hunting and Pecking" (beBlock p256Prime).val 32
    let candidate := do
      let x ← fromRepr pwdValue.val
      return (x, ← P256.sqrt (x ^ 3 - x * 3 + p256B))
    match candidate with
    | none => huntAndPeck addrs password left (counter + 1)
    | some (x, y0) =>
      let y := if (beBlock y0.val).val.getD 31 0 &&& 1 = pwdSeed.val.getD 31 0 &&& 1 then y0 else -y0
      let pwe := projectiveFromElem ((beBlock x.val).val ++ (beBlock y.val).val)
      if pwe = 0 then .error (saeError "PWE derivation produced the identity") else .ok pwe

def computePweHnp [Primitives] (password : String) (macSta macAp : MacAddr) : Except WifiError Point :=
  huntAndPeck (orderedMacs macSta macAp) password hnpMaxIter 1

/-! ### The exchange -/

structure SaeAuth where
  pwe : Point
  rand : Scalar := 0
  scalar : Scalar := 0
  elem : Point := 0
  peerScalar : Option Scalar := none
  peerElem : Option Point := none
  kck : Option (Block 32) := none
  pmk : Option (Block 32) := none
  pmkid : Option (Block 16) := none
  confirmed : Bool := false
  sendConfirm : UInt16 := 0
  peerSendConfirm : Option UInt16 := none
  h2e : Bool
  hnpFallback : Bool
  ownScalarBytes : Block 32 := zeroBlock 32
  ownElemBytes : Block 64 := zeroBlock 64
  passwordId : Option String
  akmSelector : Option (Block 4) := none

def saeConfirm [Primitives] (kck : Block 32) (sendConfirm : UInt16) (scalar1 element1 scalar2 element2 : Octets) :
    Octets :=
  (Primitives.hmacSha256 kck.val (le16 sendConfirm ++ scalar1 ++ element1 ++ scalar2 ++ element2)).val

def drawNonzero (failure : String) : List Scalar → Except WifiError (Scalar × List Scalar)
  | [] => .error (saeError ("rng failure: " ++ failure))
  | scalar :: rest => if scalar = 0 then drawNonzero failure rest else .ok (scalar, rest)

namespace SaeAuth

def newWithPasswordId [Primitives] (password ssid : String) (macSta macAp : MacAddr) (h2e hnpFallback : Bool)
    (passwordId : Option String) : Except WifiError SaeAuth := do
  let pwe ← if h2e then computePweH2e password ssid macSta macAp passwordId else computePweHnp password macSta macAp
  return { pwe, h2e, hnpFallback, passwordId }

def generateCommit (self : SaeAuth) (rng : Rng) : Except WifiError SaeAuth := do
  let (rand, rest) ← drawNonzero rng.failure rng.draws
  let (mask, _) ← drawNonzero rng.failure rest
  let scalar := rand + mask
  let elem := -(mask • self.pwe)
  return { self with
    rand, scalar, elem, ownScalarBytes := scalarToArray scalar, ownElemBytes := pointToXY elem }

def commitAuthData (self : SaeAuth) (token : Option Octets) : Octets :=
  buildCommitAuthData self.h2e saeGroup19Id self.ownScalarBytes.val self.ownElemBytes.val token
    (self.passwordId.map asBytes) self.akmSelector

/-- The first commit; the source panics where the random source fails. -/
def buildInitAuthMsg (self : SaeAuth) (rng : Rng) : Except WifiError (Octets × SaeAuth) := do
  let self ← self.generateCommit rng
  return (self.commitAuthData none, self)

def buildCommitWithToken (self : SaeAuth) (token : Octets) (rng : Rng) :
    Except WifiError (Octets × SaeAuth) :=
  if self.peerScalar.isSome ∨ self.confirmed then
    .error (saeError "cannot retry commit with token after processing the peer")
  else do
    let committed := if self.ownScalarBytes = zeroBlock 32 then self.generateCommit rng else .ok self
    let self ← committed
    return (self.commitAuthData (some token), self)

def checkElements (self : SaeAuth) (elements : Octets) : Except WifiError Unit := do
  let parsed ← parseCommitElements elements
  let find (extension : UInt8) := (parsed.find? fun element => element.1 = extension).map (·.2)
  match self.akmSelector with
  | none => pure ()
  | some expected =>
    let peer ← orThrow (find extAkmSuiteSelector) (saeError "peer SAE commit has no AKM Suite Selector")
    if peer ≠ expected.val then throw (saeError "SAE AKM Suite Selector mismatch")
  match self.passwordId with
  | none => pure ()
  | some ownId =>
    let peer ← orThrow (find extPasswordIdentifier) (saeError "peer SAE commit has no password identifier")
    if peer ≠ asBytes ownId then throw (saeError "SAE password identifier mismatch")

def settle {α : Type} (self : SaeAuth) : Except WifiError (α × SaeAuth) → Except WifiError α × SaeAuth
  | .ok (result, next) => (.ok result, next)
  | .error error => (.error error, self)

variable [Primitives]

def processCommitWithElements (self : SaeAuth) (peerScalarBytes peerElemBytes elements : Octets) :
    Except WifiError (Octets × SaeAuth) := do
  let peerScalar ← scalarFromBytes peerScalarBytes
  let peerElem := projectiveFromElem peerElemBytes
  if peerElem = 0 then throw (saeError "failed to reconstruct peer element")
  if peerScalarBytes.take 32 = self.ownScalarBytes.val ∧ peerElemBytes.take 64 = self.ownElemBytes.val then
    throw (saeError "peer commit reflects our own commit")
  self.checkElements elements
  let kPoint := self.rand • (peerScalar • self.pwe + peerElem)
  if kPoint = 0 then throw (saeError "shared secret is identity")
  let keyseed := Primitives.hmacSha256 (zeroBlock 32).val ((pointToXY kPoint).slice 0 32 (by decide)).val
  let val := scalarToArray (self.scalar + peerScalar)
  let keys := kdf keyseed.val "SAE KCK and PMK" val.val 64
  let kck := keys.slice 0 32 (by decide)
  let confirm := saeConfirm kck 1 self.ownScalarBytes.val self.ownElemBytes.val peerScalarBytes peerElemBytes
  return (confirm, { self with
    peerScalar := some peerScalar, peerElem := some peerElem, kck := some kck
    pmk := some (keys.slice 32 32 (by decide)), pmkid := some (val.slice 0 16 mic_fits), sendConfirm := 1 })

def retransmitConfirm (self : SaeAuth) : Except WifiError ((UInt16 × Octets) × SaeAuth) := do
  let kck ← orThrow self.kck (saeError "no KCK derived")
  let peerScalar ← orThrow self.peerScalar (saeError "no peer commit processed")
  let peerElem ← orThrow self.peerElem (saeError "no peer commit processed")
  if 0xfffe ≤ self.sendConfirm then throw (saeError "SAE Send-Confirm exhausted")
  let next := self.sendConfirm + 1
  let confirm := saeConfirm kck next self.ownScalarBytes.val self.ownElemBytes.val
    (scalarToArray peerScalar).val (pointToXY peerElem).val
  return ((next, confirm), { self with sendConfirm := next })

def processConfirm (self : SaeAuth) (body : Octets) : Except WifiError (Block 32 × SaeAuth) := do
  let kck ← orThrow self.kck (saeError "no KCK derived - process commit first")
  let peerScalar ← orThrow self.peerScalar (saeError "no peer commit processed")
  let peerElem ← orThrow self.peerElem (saeError "no peer commit processed")
  if body.length < 2 + 32 then throw (saeError "confirm too short")
  let peerSendConfirm := UInt16.ofNat ((body.getD 0 0).toNat + 256 * (body.getD 1 0).toNat)
  if self.peerSendConfirm.any (peerSendConfirm ≤ ·) then
    -- a retransmitted confirm after completion is answered as before
    match self.confirmed, self.pmk with
    | true, some pmk => return (pmk, self)
    | _, _ => throw (saeError s!"SAE Send-Confirm {peerSendConfirm} did not increase")
  else
    let expected := saeConfirm kck peerSendConfirm (scalarToArray peerScalar).val (pointToXY peerElem).val
      self.ownScalarBytes.val self.ownElemBytes.val
    if expected ≠ (body.drop 2).take 32 then throw ⟨.wrongPassword, "wrong password (SAE confirm mismatch)"⟩
    let pmk ← orThrow self.pmk (saeError "no PMK derived")
    return (pmk, { self with peerSendConfirm := some peerSendConfirm, confirmed := true })

end SaeAuth

/-- The exchange of group 19, as the authentication method calls it. -/
instance saeAuth [Primitives] : Sae where
  State := SaeAuth
  newWithPasswordId password ssid staMac bssid h2e hnpFallback passwordId _ :=
    SaeAuth.newWithPasswordId password ssid staMac bssid h2e hnpFallback passwordId
  setAkmSelector self selector := { self with akmSelector := selector }
  buildInitAuthMsg self random := (self.buildInitAuthMsg (P256.rng random)).toOption.getD ([], self)
  buildCommitWithToken self token random := self.settle (self.buildCommitWithToken token (P256.rng random))
  processCommitWithElements self scalar element elements :=
    self.settle (self.processCommitWithElements scalar element elements)
  processConfirm self payload := self.settle ((self.processConfirm payload).map fun (_, next) => ((), next))
  retransmitConfirm self := self.settle self.retransmitConfirm
  parseAntiCloggingToken := parseAntiCloggingToken
  confirmed := SaeAuth.confirmed
  isH2e := SaeAuth.h2e
  hnpFallbackAllowed := SaeAuth.hnpFallback
  groupId _ := saeGroup19Id
  pmk := SaeAuth.pmk
  pmkid := SaeAuth.pmkid

end

end Shuli.Wifi
