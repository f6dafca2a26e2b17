import Shuli.Ipsec.Codec

/-! Proposal construction and selection (`proposal.rs`). -/

namespace Shuli.Ipsec

def proposalNumber (index : Nat) : UInt8 := UInt8.ofNat (index + 1)

def buildIke (proposals : List IkeProposal) : List Proposal :=
  proposals.mapIdx fun index proposal =>
    { number := proposalNumber index
      protocol := ProtocolId.IKE
      spi := []
      transforms := ikeTransforms proposal.encryption proposal.prf proposal.integrity proposal.dh }

def buildEsp (proposals : List ChildProposal) (spi : UInt32) (includeDh : Bool) : List Proposal :=
  proposals.mapIdx fun index proposal =>
    { number := proposalNumber index
      protocol := ProtocolId.ESP
      spi := be32 spi
      transforms := espTransforms proposal.encryption proposal.integrity proposal.esn
        (if includeDh then proposal.dh else .none) }

def hasTransform (transforms : List Transform) (kind : UInt8) (id : UInt16) : Bool :=
  transforms.any fun transform => transform.transformType == kind && transform.id == id

def hasEncryption (transforms : List Transform) (encryption : EncryptionAlgorithm) : Bool :=
  transforms.any fun transform =>
    transform.transformType == TransformType.ENCR && transform.id == encryption.transformId &&
      (if encryption.transformId = 12 ∨ encryption.transformId = 20 then
        transform.attributes.findSome? TransformAttribute.keyLengthBits == encryption.keyLenBits
      else true)

def transformOfferMatches (transforms : List Transform) (encryption : EncryptionAlgorithm)
    (prf : Option PrfAlgorithm) (integrity : IntegrityAlgorithm) (dh : DhGroup) : Bool :=
  if !hasEncryption transforms encryption then false
  else if prf.any fun prf => !hasTransform transforms TransformType.PRF prf.transformId then false
  else if integrity ≠ .none ∧ !hasTransform transforms TransformType.INTEG integrity.transformId then
    false
  else if integrity = .none ∧ !encryption.isAead then false
  else if dh ≠ .none ∧ !hasTransform transforms TransformType.DH dh.transformId then false
  else dh == .none || hasTransform transforms TransformType.DH dh.transformId

def esnOfferMatches (transforms : List Transform) (esn : Bool) : Bool :=
  transforms.any fun transform =>
    transform.transformType == TransformType.ESN && (transform.id == 1) == esn

def selectIke (configured : List IkeProposal) :
    List Proposal → Except IpsecError (IkeProposal × UInt8)
  | [] => .error ⟨.proposal, "no mutually supported IKE proposal"⟩
  | offer :: received =>
    if offer.protocol ≠ ProtocolId.IKE then selectIke configured received
    else
      match configured.find? fun candidate =>
        transformOfferMatches offer.transforms candidate.encryption (some candidate.prf)
          candidate.integrity candidate.dh with
      | some candidate => .ok (candidate, offer.number)
      | none => selectIke configured received

def espOfferMatches (includeDh : Bool) (offer : Proposal) (candidate : ChildProposal) : Bool :=
  transformOfferMatches offer.transforms candidate.encryption none candidate.integrity
      (if includeDh then candidate.dh else .none) &&
    esnOfferMatches offer.transforms candidate.esn

def selectEspWithDh (configured : List ChildProposal) (includeDh : Bool) :
    List Proposal → Except IpsecError (ChildProposal × UInt8)
  | [] => .error ⟨.proposal, "no mutually supported ESP proposal"⟩
  | offer :: received =>
    if offer.protocol ≠ ProtocolId.ESP then selectEspWithDh configured includeDh received
    else
      match configured.find? (espOfferMatches includeDh offer) with
      | some candidate =>
        .ok (if includeDh then candidate else { candidate with dh := .none }, offer.number)
      | none => selectEspWithDh configured includeDh received

def selectEsp (configured : List ChildProposal) (received : List Proposal) :
    Except IpsecError (ChildProposal × UInt8) :=
  selectEspWithDh configured true received

def selectEspInitial (configured : List ChildProposal) (received : List Proposal) :
    Except IpsecError (ChildProposal × UInt8) :=
  selectEspWithDh configured false received

def selectTransform (transforms : List Transform) (kind : UInt8) : Option Transform :=
  transforms.find? fun transform => transform.transformType == kind

def parseEncryption (transform : Transform) : Option EncryptionAlgorithm :=
  match transform.id with
  | 12 => do
    match ← transform.attributes.findSome? TransformAttribute.keyLengthBits with
    | 128 => some .aesCbc128
    | 192 => some .aesCbc192
    | 256 => some .aesCbc256
    | _ => none
  | 20 =>
    match transform.attributes.findSome? TransformAttribute.keyLengthBits with
    | some 256 => some .aesGcm16_256
    | some 128 => some .aesGcm16_128
    | none => some .aesGcm16_128
    | _ => none
  | _ => none

def parsePrf (transform : Transform) : Option PrfAlgorithm :=
  match transform.id with
  | 2 => some .hmacSha1
  | 5 => some .hmacSha2_256
  | _ => none

def parseIntegrity (transform : Transform) : Option IntegrityAlgorithm :=
  match transform.id with
  | 0 => some .none
  | 2 => some .hmacSha1_96
  | 12 => some .hmacSha2_256_128
  | _ => none

def parseDh (transform : Transform) : Option DhGroup := DhGroup.fromTransformId transform.id

def orProposal {α : Type} (value : Option α) (msg : String) : Except IpsecError α :=
  match value with
  | some value => .ok value
  | none => .error ⟨.proposal, msg⟩

def parseSelectedIke (proposals : List Proposal) : Except IpsecError IkeProposal := do
  let offer ← orProposal (proposals.find? fun proposal => proposal.protocol == ProtocolId.IKE)
    "no IKE proposal in response"
  let encryption ← orProposal
    ((selectTransform offer.transforms TransformType.ENCR).bind parseEncryption)
    "unsupported IKE encryption"
  let prf ← orProposal ((selectTransform offer.transforms TransformType.PRF).bind parsePrf)
    "unsupported IKE PRF"
  let integrity :=
    ((selectTransform offer.transforms TransformType.INTEG).bind parseIntegrity).getD .none
  let dh ← orProposal ((selectTransform offer.transforms TransformType.DH).bind parseDh)
    "unsupported IKE DH group"
  return { encryption, prf, integrity, dh }

end Shuli.Ipsec
