import Mathlib.Data.Nat.Bitwise
import Mathlib.Data.List.Basic
import Shuli.Fallible
import Shuli.Ipsec.Codec

/-!
IKE messages survive encoding. For each nested structure of the codec one lemma says that the
decoder reads what the encoder wrote in front of any octets that follow; a list of structures is
then read by induction, and a message by its payload chain.
-/

namespace Shuli.Ipsec

/-! Fields of a buffer. -/

theorem ofBe16_front (value : UInt16) (rest : Octets) :
    ofBe16 (slice (be16 value ++ rest) 0 2) = value := ofBe16_be16 value

theorem slice_append {front middle rest : Octets} {first last : Nat} (place : front.length = first)
    (size : first + middle.length = last) : slice (front ++ (middle ++ rest)) first last = middle := by
  have whole : (front ++ middle).length = last := by rw [List.length_append, place, size]
  rw [slice, ← List.append_assoc, List.take_left' whole, List.drop_left' place]

variable {width : Nat}

/-- What stands behind a header of this width. -/
theorem framed {front : Octets} (place : front.length = width) (content rest : Octets) :
    (front ++ (content ++ rest)).length = width + content.length + rest.length ∧
      slice (front ++ (content ++ rest)) width (width + content.length) = content ∧
      (front ++ (content ++ rest)).drop (width + content.length) = rest := by
  refine ⟨?_, slice_append place rfl, ?_⟩
  · rw [List.length_append, List.length_append, place, Nat.add_assoc]
  · rw [← List.append_assoc]
    exact List.drop_left' (by rw [List.length_append, place])

theorem octetAt_right {front rest : Octets} (place : front.length = width)
    (index : Nat) : octetAt (front ++ rest) (width + index) = octetAt rest index := by
  rw [octetAt, List.getD_append_right _ _ _ _ (by omega), place, Nat.add_sub_cancel_left]
  rfl

theorem toNat_ofNat16 {n : Nat} (small : n < 65536) : (UInt16.ofNat n).toNat = n :=
  UInt16.toNat_ofNat_of_lt' small

theorem toNat_ofNat8 {n : Nat} (small : n < 256) : (UInt8.ofNat n).toNat = n :=
  UInt8.toNat_ofNat_of_lt' small

theorem and_type {type : UInt16} (plain : type < 0x8000) :
    type &&& 0x7fff = type ∧ type &&& 0x8000 = 0 := by
  have small : type.toNat < 2 ^ 15 := UInt16.lt_iff_toNat_lt.mp plain
  constructor
  · apply UInt16.toNat_inj.mp
    exact (Nat.and_two_pow_sub_one_eq_mod _ 15).trans (Nat.mod_eq_of_lt small)
  · apply UInt16.toNat_inj.mp
    rw [UInt16.toNat_and]
    exact (Nat.and_two_pow _ 15).trans (by rw [Nat.testBit_lt_two_pow small]; rfl)

/-! Transform attributes, transforms and proposals. -/

theorem encodeAttribute_length (attr : TransformAttribute) :
    4 ≤ (encodeAttribute attr).length ∧ attr.value.length ≤ (encodeAttribute attr).length := by
  unfold encodeAttribute
  split
  · rename_i short
    simp [short.2]
  · simp only [List.length_append, be16_length]
    omega

variable {attributes : List TransformAttribute} {bound : Nat} {rest : Octets}

/-- One attribute is read in front of those that follow. -/
theorem decodeAttributes_cons {attr : TransformAttribute} (plain : attr.type < 0x8000)
    (small : attr.value.length < 65536) (tail : decodeAttributes bound rest = .ok attributes) :
    decodeAttributes (bound + 1) (encodeAttribute attr ++ rest) = .ok (attr :: attributes) := by
  obtain ⟨type, value⟩ := attr
  have enough : ¬(encodeAttribute ⟨type, value⟩ ++ rest).length < 4 := by
    have width := (encodeAttribute_length ⟨type, value⟩).1
    rw [List.length_append]
    omega
  obtain ⟨typeMask, formatMask⟩ := and_type plain
  rw [decodeAttributes, if_neg enough]
  by_cases short : type = 14 ∧ value.length = 2
  · -- the type/value form: the format bit is set and the value stands in the length field
    obtain ⟨rfl, two⟩ := short
    obtain ⟨high, low, rfl⟩ := List.length_eq_two.mp two
    simp only [encodeAttribute, two, and_self, if_true, List.append_assoc, ofBe16_front]
    have next : (be16 (0x8000 ||| 14) ++ ([high, low] ++ rest)).drop 4 = rest := rfl
    rw [next, tail]
    rfl
  · simp only [encodeAttribute, if_neg short, List.append_assoc, ofBe16_front, typeMask, formatMask]
    rw [if_neg (by simp)]
    have len : ofBe16 (slice (be16 type ++ (be16 (UInt16.ofNat value.length) ++ (value ++ rest))) 2 4) =
        UInt16.ofNat value.length := ofBe16_be16 _
    have front : (be16 type ++ be16 (UInt16.ofNat value.length)).length = 4 := by simp
    obtain ⟨_, read, next⟩ := framed front value rest
    rw [List.append_assoc] at read next
    rw [len, toNat_ofNat16 small, if_neg (by simp; omega), read, next, tail]
    rfl

theorem decodeAttributes_flatMap (plain : ∀ attr ∈ attributes, attr.type < 0x8000)
    (enough : (attributes.flatMap encodeAttribute).length ≤ bound)
    (small : (attributes.flatMap encodeAttribute).length < 65536) :
    decodeAttributes bound (attributes.flatMap encodeAttribute) = .ok attributes := by
  induction attributes generalizing bound with
  | nil => cases bound <;> rfl
  | cons attr rest ih =>
    have width := encodeAttribute_length attr
    rw [List.flatMap_cons, List.length_append] at enough small
    obtain ⟨bound, rfl⟩ : ∃ left, bound = left + 1 := ⟨bound - 1, by omega⟩
    exact decodeAttributes_cons (plain attr List.mem_cons_self) (by omega)
      (ih (fun other member => plain other (List.mem_cons_of_mem attr member)) (by omega) (by omega))

variable {transforms : List Transform}

theorem decodeTransforms_read {data : Octets} {count : Nat} (length : Nat)
    (size : (ofBe16 (slice data 2 4)).toNat = length) (long : 8 ≤ length) (fits : length ≤ data.length)
    (inner : decodeAttributes data.length (slice data 8 length) = .ok attributes)
    (tail : decodeTransforms count (data.drop length) = .ok transforms) :
    decodeTransforms (count + 1) data =
      .ok (⟨octetAt data 4, ofBe16 (slice data 6 8), attributes⟩ :: transforms) := by
  have enough : ¬data.length < 8 := by omega
  have valid : ¬(length < 8 ∨ length > data.length) := by omega
  simp only [decodeTransforms, if_neg enough, size, if_neg valid, inner, tail]
  rfl

theorem encodeTransform_length (last : Bool) (transform : Transform) :
    (encodeTransform last transform).length =
      8 + (transform.attributes.flatMap encodeAttribute).length := by
  simp only [encodeTransform, List.length_append, be16_length, List.length_cons, List.length_nil]

/-- One transform is read in front of those that follow. -/
theorem decodeTransforms_cons {transform : Transform} {count : Nat} (last : Bool)
    (plain : ∀ attr ∈ transform.attributes, attr.type < 0x8000)
    (small : (encodeTransform last transform).length < 65536) (tail : decodeTransforms count rest = .ok transforms) :
    decodeTransforms (count + 1) (encodeTransform last transform ++ rest) =
      .ok (transform :: transforms) := by
  have width := encodeTransform_length last transform
  obtain ⟨type, id, attributes⟩ := transform
  let octets := attributes.flatMap encodeAttribute
  let front : Octets := [if last then 0 else 3, 0] ++ be16 (UInt16.ofNat (8 + octets.length)) ++
    [type, 0] ++ be16 id
  have shape : encodeTransform last ⟨type, id, attributes⟩ ++ rest = front ++ (octets ++ rest) :=
    List.append_assoc _ _ _
  have eight : front.length = 8 := rfl
  have size : ofBe16 (slice (front ++ (octets ++ rest)) 2 4) = UInt16.ofNat (8 + octets.length) :=
    ofBe16_be16 _
  have named : ofBe16 (slice (front ++ (octets ++ rest)) 6 8) = id := ofBe16_be16 id
  obtain ⟨total, inside, behind⟩ := framed eight octets rest
  have bounded : 8 + octets.length < 65536 := width ▸ small
  have read : decodeTransforms (count + 1) (front ++ (octets ++ rest)) =
      .ok (⟨type, ofBe16 (slice (front ++ (octets ++ rest)) 6 8), attributes⟩ :: transforms) := by
    apply decodeTransforms_read (8 + octets.length)
    · rw [size, toNat_ofNat16 bounded]
    · exact Nat.le_add_right 8 _
    · omega
    · rw [inside]
      have enough : octets.length ≤ (front ++ (octets ++ rest)).length := by omega
      exact decodeAttributes_flatMap plain enough (show octets.length < 65536 by omega)
    · rw [behind, tail]
  rw [shape, read, named]

theorem decodeTransforms_encodeTransforms
    (plain : ∀ transform ∈ transforms, ∀ attr ∈ transform.attributes, attr.type < 0x8000)
    (small : (encodeTransforms transforms).length < 65536) :
    decodeTransforms transforms.length (encodeTransforms transforms) = .ok transforms := by
  induction transforms with
  | nil => rfl
  | cons transform rest ih =>
    rw [encodeTransforms, List.length_append] at small
    exact decodeTransforms_cons _ (plain transform List.mem_cons_self) (by omega)
      (ih (fun other member => plain other (List.mem_cons_of_mem transform member)) (by omega))

/-- A proposal whose counts fit one octet each, with attribute types below the format bit. -/
structure Proposal.WellFormed (proposal : Proposal) : Prop where
  spi : proposal.spi.length ≤ 255
  transforms : proposal.transforms.length ≤ 255
  plain : ∀ transform ∈ proposal.transforms, ∀ attr ∈ transform.attributes, attr.type < 0x8000

/-- What the proposal loop reads in a buffer that starts with a whole proposal. -/
theorem decodeSaLoop_read {body : Octets} (length : Nat)
    (size : (ofBe16 (slice body 2 4)).toNat = length) (long : 8 ≤ length)
    (fits : length ≤ body.length)
    (spi : 8 + (octetAt (body.take length) 6).toNat ≤ length)
    (inner : decodeTransforms (octetAt (body.take length) 7).toNat
      ((body.take length).drop (8 + (octetAt (body.take length) 6).toNat)) = .ok transforms) :
    decodeSaLoop (bound + 1) body =
      if octetAt body 0 = 0 then
        .ok [⟨octetAt (body.take length) 4, octetAt (body.take length) 5,
          slice (body.take length) 8 (8 + (octetAt (body.take length) 6).toNat), transforms⟩]
      else do
        let rest ← decodeSaLoop bound (body.drop length)
        return ⟨octetAt (body.take length) 4, octetAt (body.take length) 5,
          slice (body.take length) 8 (8 + (octetAt (body.take length) 6).toNat), transforms⟩ :: rest := by
  have enough : ¬body.length < 8 := by omega
  have valid : ¬(length < 8 ∨ length > body.length) := by omega
  have taken : (body.take length).length = length := by
    rw [List.length_take]
    omega
  have spiValid : ¬8 + (octetAt (body.take length) 6).toNat > (body.take length).length := by omega
  simp only [decodeSaLoop, if_neg enough, size, if_neg valid, if_neg spiValid, inner]
  rfl

def proposalOctets (last : Bool) (proposal : Proposal) : Octets :=
  [if last then 0 else 2, 0] ++
    be16 (UInt16.ofNat (8 + (proposal.spi ++ encodeTransforms proposal.transforms).length)) ++
    [proposal.number, proposal.protocol, UInt8.ofNat proposal.spi.length,
      UInt8.ofNat proposal.transforms.length] ++
    (proposal.spi ++ encodeTransforms proposal.transforms)

theorem proposalOctets_length (last : Bool) (proposal : Proposal) :
    (proposalOctets last proposal).length =
      8 + (proposal.spi ++ encodeTransforms proposal.transforms).length := by
  rw [proposalOctets, List.length_append]
  rfl

theorem encodeProposal_eq (last : Bool) {proposal : Proposal} (fits : proposal.spi.length ≤ 255) :
    encodeProposal last proposal = .ok (proposalOctets last proposal) := by
  have short : ¬proposal.spi.length > 255 := by omega
  have size : 8 + proposal.spi.length + (4 + (proposal.spi.length +
      (encodeTransforms proposal.transforms).length) - 4 - proposal.spi.length) =
      8 + (proposal.spi.length + (encodeTransforms proposal.transforms).length) := by
    omega
  simp only [encodeProposal, if_neg short, List.length_append, List.length_cons, List.length_nil, size, proposalOctets, List.append_assoc]
  rfl

/-- One proposal is read in front of those that follow; the last one ends the loop. -/
theorem decodeSaLoop_cons {proposal : Proposal} (last : Bool)
    (formed : proposal.WellFormed) (small : (proposalOctets last proposal).length < 65536) :
    decodeSaLoop (bound + 1) (proposalOctets last proposal ++ rest) =
      if last then .ok [proposal]
      else do
        let proposals ← decodeSaLoop bound rest
        return proposal :: proposals := by
  obtain ⟨number, protocol, spi, transforms⟩ := proposal
  have spiFits : spi.length < 256 := Nat.lt_succ_of_le formed.spi
  have countFits : transforms.length < 256 := Nat.lt_succ_of_le formed.transforms
  let content := spi ++ encodeTransforms transforms
  let front : Octets := [if last then 0 else 2, 0] ++ be16 (UInt16.ofNat (8 + content.length)) ++
    [number, protocol, UInt8.ofNat spi.length, UInt8.ofNat transforms.length]
  have eight : front.length = 8 := rfl
  have bounded : 8 + content.length < 65536 := by
    rw [proposalOctets_length] at small
    exact small
  have shape : proposalOctets last ⟨number, protocol, spi, transforms⟩ ++ rest =
      front ++ (content ++ rest) := List.append_assoc _ _ _
  have taken : (front ++ (content ++ rest)).take (8 + content.length) = front ++ content := by
    rw [← List.append_assoc]
    exact List.take_left' (by rw [List.length_append, eight])
  have spiLen : octetAt (front ++ content) 6 = UInt8.ofNat spi.length := rfl
  have count : octetAt (front ++ content) 7 = UInt8.ofNat transforms.length := rfl
  obtain ⟨total, _, behind⟩ := framed eight content rest
  obtain ⟨_, spiRead, listed⟩ := framed eight spi (encodeTransforms transforms)
  have inner : decodeTransforms transforms.length ((front ++ content).drop (8 + spi.length)) =
      .ok transforms := by
    rw [listed]
    refine decodeTransforms_encodeTransforms formed.plain ?_
    simp only [content, List.length_append] at bounded
    omega
  have size : ofBe16 (slice (front ++ (content ++ rest)) 2 4) = UInt16.ofNat (8 + content.length) :=
    ofBe16_be16 _
  rw [shape, decodeSaLoop_read (8 + content.length), taken, spiLen, toNat_ofNat8 spiFits, spiRead, behind]
  · cases last <;> rfl
  · rw [size, toNat_ofNat16 bounded]
  · exact Nat.le_add_right 8 _
  · omega
  · rw [taken, spiLen, toNat_ofNat8 spiFits]
    simp only [content, List.length_append]
    omega
  · rw [taken, spiLen, count, toNat_ofNat8 spiFits, toNat_ofNat8 countFits, inner]

/-- A proposal list is written, and read as it was written. -/
theorem decodeSaLoop_encodeSa {proposals : List Proposal} (formed : ∀ proposal ∈ proposals, proposal.WellFormed) :
    ∃ body, encodeSa proposals = .ok body ∧ ∀ bound, body.length ≤ bound → body.length < 65536 →
      decodeSaLoop bound body = .ok proposals := by
  induction proposals with
  | nil =>
    refine ⟨[], rfl, fun bound _ _ => ?_⟩
    cases bound <;> rfl
  | cons proposal rest ih =>
    obtain ⟨body, written, read⟩ :=
      ih fun other member => formed other (List.mem_cons_of_mem proposal member)
    have head := formed proposal List.mem_cons_self
    refine ⟨proposalOctets rest.isEmpty proposal ++ body, ?_, ?_⟩
    · rw [encodeSa, encodeProposal_eq _ head.spi, written]
      rfl
    · intro bound enough small
      have width := proposalOctets_length rest.isEmpty proposal
      rw [List.length_append] at enough small
      obtain ⟨bound, rfl⟩ : ∃ left, bound = left + 1 := ⟨bound - 1, by omega⟩
      rw [decodeSaLoop_cons _ head (by omega)]
      cases rest with
      | nil => rfl
      | cons next others =>
        rw [read bound (by omega) (by omega)]
        rfl

/-! Traffic selectors. -/

/-- The addresses are of the family the selector type names. -/
def TsSelector.Matched (selector : TsSelector) : Prop :=
  selector.tsType = 7 ∧ selector.start.isIpv4 = true ∧ selector.stop.isIpv4 = true ∨
    selector.tsType = 8 ∧ selector.start.isIpv4 = false ∧ selector.stop.isIpv4 = false

instance : DecidablePred TsSelector.Matched := fun _ => inferInstanceAs (Decidable (_ ∨ _))

theorem IpAddr.ofOctets16_octets (address : BitVec 128) :
    ofOctets16 (octets (.v6 address)) = .v6 address := by
  rw [octets, ofOctets16, beNat_beOctets, Nat.mod_eq_of_lt (by omega), BitVec.ofNat_toNat,
    BitVec.setWidth_eq]

variable {selectors : List TsSelector}

/-- What the selector loop reads in a buffer that starts with a whole selector. -/
theorem decodeTsSelectors_read {data : Octets} {count : Nat} (length : Nat) {start stop : IpAddr}
    (size : (ofBe16 (slice data 2 4)).toNat = length)
    (fits : length ≤ data.length)
    (addresses : octetAt data 0 = 7 ∧ length = 16 ∧ IpAddr.ofOctets4 (slice data 8 12) = start ∧
        IpAddr.ofOctets4 (slice data 12 16) = stop ∨
      octetAt data 0 = 8 ∧ length = 40 ∧ IpAddr.ofOctets16 (slice data 8 24) = start ∧
        IpAddr.ofOctets16 (slice data 24 40) = stop)
    (tail : decodeTsSelectors count (data.drop length) = .ok selectors) :
    decodeTsSelectors (count + 1) data =
      .ok (⟨octetAt data 0, octetAt data 1, ofBe16 (slice data 4 6), ofBe16 (slice data 6 8), start,
        stop⟩ :: selectors) := by
  have enough : ¬data.length < 8 := by omega
  have valid : ¬(length < 8 ∨ length > data.length) := by omega
  simp only [decodeTsSelectors, if_neg enough, size, if_neg valid, tail]
  rcases addresses with ⟨type, rfl, rfl, rfl⟩ | ⟨type, rfl, rfl, rfl⟩
  · simp only [type]
    rfl
  · simp only [type]
    rfl

theorem slice_addresses {front start stop rest : Octets} (eight : front.length = 8)
    (first : start.length = width) (second : stop.length = width) :
    slice (front ++ (start ++ stop ++ rest)) 8 (8 + width) = start ∧
      slice (front ++ (start ++ stop ++ rest)) (8 + width) (8 + width + width) = stop := by
  constructor
  · rw [List.append_assoc start]
    exact slice_append eight (by rw [first])
  · rw [List.append_assoc start, ← List.append_assoc front]
    exact slice_append (by rw [List.length_append, eight, first]) (by rw [second])

/-- A selector is read in front of those that follow, given the octets of its addresses. -/
theorem decodeTsSelectors_addresses {type protocol : UInt8} {length startPort endPort : UInt16}
    {start stop rest : Octets} {width count : Nat} {first last : IpAddr}
    (startWidth : start.length = width) (stopWidth : stop.length = width)
    (size : length.toNat = 8 + width + width)
    (family : type = 7 ∧ width = 4 ∧ IpAddr.ofOctets4 start = first ∧ IpAddr.ofOctets4 stop = last ∨
      type = 8 ∧ width = 16 ∧ IpAddr.ofOctets16 start = first ∧ IpAddr.ofOctets16 stop = last)
    (tail : decodeTsSelectors count rest = .ok selectors) :
    decodeTsSelectors (count + 1) ([type, protocol] ++ be16 length ++ be16 startPort ++
      be16 endPort ++ (start ++ stop) ++ rest) =
      .ok (⟨type, protocol, startPort, endPort, first, last⟩ :: selectors) := by
  let front : Octets := [type, protocol] ++ be16 length ++ be16 startPort ++ be16 endPort
  have eight : front.length = 8 := rfl
  have content : (start ++ stop).length = width + width := by
    rw [List.length_append, startWidth, stopWidth]
  obtain ⟨total, _, behind⟩ := framed eight (start ++ stop) rest
  have sizeRead : ofBe16 (slice (front ++ (start ++ stop ++ rest)) 2 4) = length := ofBe16_be16 length
  have startPortRead : ofBe16 (slice (front ++ (start ++ stop ++ rest)) 4 6) = startPort :=
    ofBe16_be16 startPort
  have endPortRead : ofBe16 (slice (front ++ (start ++ stop ++ rest)) 6 8) = endPort :=
    ofBe16_be16 endPort
  obtain ⟨startRead, stopRead⟩ :
      slice (front ++ (start ++ stop ++ rest)) 8 (8 + width) = start ∧
        slice (front ++ (start ++ stop ++ rest)) (8 + width) (8 + width + width) = stop :=
    slice_addresses eight startWidth stopWidth
  rw [content, ← Nat.add_assoc] at behind
  have read : decodeTsSelectors (count + 1) (front ++ (start ++ stop ++ rest)) =
      .ok (⟨type, protocol, ofBe16 (slice (front ++ (start ++ stop ++ rest)) 4 6),
        ofBe16 (slice (front ++ (start ++ stop ++ rest)) 6 8), first, last⟩ :: selectors) := by
    apply decodeTsSelectors_read (8 + width + width)
    · rw [sizeRead, size]
    · omega
    · rcases family with ⟨rfl, rfl, firstRead, lastRead⟩ | ⟨rfl, rfl, firstRead, lastRead⟩
      · exact .inl ⟨rfl, rfl, by rw [startRead, firstRead], by rw [stopRead, lastRead]⟩
      · exact .inr ⟨rfl, rfl, by rw [startRead, firstRead], by rw [stopRead, lastRead]⟩
    · rw [behind, tail]
  rw [startPortRead, endPortRead] at read
  exact read

/-- One selector is written, and read in front of those that follow. -/
theorem decodeTsSelectors_cons {selector : TsSelector} (matched : selector.Matched) :
    ∃ head, encodeTsSelector selector = .ok head ∧ ∀ count rest selectors,
      decodeTsSelectors count rest = .ok selectors →
        decodeTsSelectors (count + 1) (head ++ rest) = .ok (selector :: selectors) := by
  obtain ⟨type, protocol, startPort, endPort, start, stop⟩ := selector
  rcases matched with ⟨rfl, startFamily, stopFamily⟩ | ⟨rfl, startFamily, stopFamily⟩
  · match start, stop, startFamily, stopFamily with
    | .v4 start, .v4 stop, _, _ =>
      refine ⟨_, rfl, fun count rest selectors tail => ?_⟩
      exact decodeTsSelectors_addresses (be32_length start) (be32_length stop) rfl
        (.inl ⟨rfl, rfl, congrArg IpAddr.v4 (ofBe32_be32 start),
          congrArg IpAddr.v4 (ofBe32_be32 stop)⟩) tail
  · match start, stop, startFamily, stopFamily with
    | .v6 start, .v6 stop, _, _ =>
      refine ⟨_, rfl, fun count rest selectors tail => ?_⟩
      exact decodeTsSelectors_addresses (beOctets_length 16 _) (beOctets_length 16 _) rfl
        (.inr ⟨rfl, rfl, IpAddr.ofOctets16_octets start, IpAddr.ofOctets16_octets stop⟩) tail

theorem decodeTsSelectors_encodeTsSelectors (matched : ∀ selector ∈ selectors, selector.Matched) :
    ∃ octets, encodeTsSelectors selectors = .ok octets ∧
      decodeTsSelectors selectors.length octets = .ok selectors := by
  induction selectors with
  | nil => exact ⟨[], rfl, rfl⟩
  | cons selector rest ih =>
    obtain ⟨octets, written, read⟩ :=
      ih fun other member => matched other (List.mem_cons_of_mem selector member)
    obtain ⟨head, headWritten, headRead⟩ :=
      decodeTsSelectors_cons (matched selector List.mem_cons_self)
    refine ⟨head ++ octets, ?_, headRead _ _ _ read⟩
    rw [encodeTsSelectors, headWritten, written]
    rfl

/-! SPIs of a Delete payload. -/

theorem be64_ofNat (spi : UInt32) :
    be64 (UInt64.ofNat spi.toNat) = be32 0 ++ be32 spi := by
  have bound := spi.toNat_lt
  rw [be64, UInt64.toNat_ofNat_of_lt' (by simp [UInt64.size]; omega)]
  have split : ∀ n, beOctets 8 n = beOctets 4 (n / 4294967296) ++ beOctets 4 n := by
    simp [beOctets, Nat.div_div_eq_div_mul]
  rw [split, Nat.div_eq_of_lt bound]
  rfl

/-- SPIs are written, and read as they were written. -/
theorem decodeSpis_encodeSpis {spiSize : UInt8} (sized : spiSize = 4 ∨ spiSize = 8) (spis : List UInt32) :
    ∃ octets, encodeSpis spiSize spis = .ok octets ∧ octets.length = spis.length * spiSize.toNat ∧
      decodeSpis spiSize.toNat spis.length octets = .ok spis := by
  induction spis with
  | nil => exact ⟨[], rfl, (Nat.zero_mul _).symm, rfl⟩
  | cons spi rest ih =>
    obtain ⟨octets, written, width, read⟩ := ih
    rcases sized with rfl | rfl
    · refine ⟨be32 spi ++ octets, by rw [encodeSpis, written]; rfl, ?_, ?_⟩
      · rw [List.length_append, width, List.length_cons, Nat.succ_mul, Nat.add_comm]
        rfl
      · have spiRead : ofBe32 (slice (be32 spi ++ octets) 0 4) = spi := ofBe32_be32 spi
        have behind : (be32 spi ++ octets).drop 4 = octets := rfl
        change decodeSpis 4 (rest.length + 1) (be32 spi ++ octets) = _
        change decodeSpis 4 rest.length octets = _ at read
        simp only [decodeSpis, spiRead, behind, read]
        rfl
    · refine ⟨be64 (UInt64.ofNat spi.toNat) ++ octets, by rw [encodeSpis, written]; rfl, ?_, ?_⟩
      · rw [List.length_append, width, List.length_cons, Nat.succ_mul, Nat.add_comm]
        rfl
      · have highRead : ofBe32 (slice (be32 0 ++ be32 spi ++ octets) 0 4) = 0 := ofBe32_be32 0
        have lowRead : ofBe32 (slice (be32 0 ++ be32 spi ++ octets) 4 8) = spi := ofBe32_be32 spi
        have behind : (be32 0 ++ be32 spi ++ octets).drop 8 = octets := rfl
        change decodeSpis 8 (rest.length + 1) (be64 (UInt64.ofNat spi.toNat) ++ octets) = _
        change decodeSpis 8 rest.length octets = _ at read
        simp only [decodeSpis, be64_ofNat, lowRead, behind, read]
        rfl

/-! Configuration attributes. -/

/-- One configuration attribute is read in front of those that follow. -/
theorem decodeConfig_cons {attr : ConfigAttribute} {attributes : List ConfigAttribute} (plain : attr.type < 0x8000)
    (small : attr.value.length < 65536) (tail : decodeConfig bound rest = .ok attributes) :
    decodeConfig (bound + 1) (be16 attr.type ++ be16 (UInt16.ofNat attr.value.length) ++ attr.value ++
      rest) = .ok (attr :: attributes) := by
  obtain ⟨type, value⟩ := attr
  let front : Octets := be16 type ++ be16 (UInt16.ofNat value.length)
  have four : front.length = 4 := rfl
  have typeRead : ofBe16 (slice (front ++ (value ++ rest)) 0 2) = type := ofBe16_be16 type
  have sizeRead : ofBe16 (slice (front ++ (value ++ rest)) 2 4) = UInt16.ofNat value.length :=
    ofBe16_be16 _
  obtain ⟨total, valueRead, behind⟩ := framed four value rest
  have valid : ¬4 + value.length > (front ++ (value ++ rest)).length := by omega
  change decodeConfig (bound + 1) (front ++ (value ++ rest)) = _
  simp only [decodeConfig, typeRead, sizeRead, toNat_ofNat16 small, if_neg valid,
    (and_type plain).1, valueRead, behind, tail]
  rfl

/-- Configuration attributes are written, and read as they were written. -/
theorem decodeConfig_encodeConfig {attributes : List ConfigAttribute}
    (plain : ∀ attr ∈ attributes, attr.type < 0x8000 ∧ attr.value.length < 65536) :
    ∃ body, encodeConfig attributes = .ok body ∧
      ∀ bound, body.length ≤ bound → decodeConfig bound body = .ok attributes := by
  induction attributes with
  | nil =>
    refine ⟨[], rfl, fun bound _ => ?_⟩
    cases bound <;> rfl
  | cons attr rest ih =>
    obtain ⟨body, written, read⟩ :=
      ih fun other member => plain other (List.mem_cons_of_mem attr member)
    obtain ⟨typed, small⟩ := plain attr List.mem_cons_self
    have short : ¬attr.value.length > 65535 := by omega
    refine ⟨be16 attr.type ++ be16 (UInt16.ofNat attr.value.length) ++ attr.value ++ body, ?_, ?_⟩
    · rw [encodeConfig, if_neg short, written]
      rfl
    · intro bound enough
      simp only [List.length_append, be16_length] at enough
      obtain ⟨bound, rfl⟩ : ∃ left, bound = left + 1 := ⟨bound - 1, by omega⟩
      exact decodeConfig_cons typed small (read bound (by omega))

/-! Payloads and their chains. -/

def assignedTypes : List UInt8 :=
  [PayloadType.SA, PayloadType.KE, PayloadType.IDI, PayloadType.IDR, PayloadType.CERT,
    PayloadType.CERTREQ, PayloadType.AUTH, PayloadType.NONCE, PayloadType.NOTIFY, PayloadType.DELETE,
    PayloadType.TSI, PayloadType.TSR, PayloadType.SK, PayloadType.CP, PayloadType.EAP]

/-- Payloads that have one encoding: counts and lengths fit their fields, types leave the format
bit free, and nothing is encrypted. -/
def Payload.WellFormed : Payload → Prop
  | .sa proposals => ∀ proposal ∈ proposals, proposal.WellFormed
  | .notify _ spi _ _ => spi.length ≤ 255
  | .delete _ spiSize spis => spiSize = 4 ∨ spiSize = 8 ∨ spiSize = 0 ∧ spis = []
  | .ts _ selectors => selectors.length ≤ 255 ∧ ∀ selector ∈ selectors, selector.Matched
  | .config attributes => ∀ attr ∈ attributes, attr.type < 0x8000 ∧ attr.value.length < 65536
  | .encrypted .. => False
  | .other kind _ => kind ≠ PayloadType.NONE ∧ kind ∉ assignedTypes
  | _ => True

theorem decodePayload_other {kind : UInt8} (unassigned : kind ∉ assignedTypes) (body : Octets)
    (next : UInt8) : decodePayload kind body next = .ok (.other kind body) := by
  unfold decodePayload
  split <;> first | rfl | exact absurd (by decide) unassigned

theorem decodeTs_encode (few : selectors.length ≤ 255) (matched : ∀ selector ∈ selectors, selector.Matched) :
    ∃ octets, encodeTsSelectors selectors = .ok octets ∧
      decodeTs ([UInt8.ofNat selectors.length, 0, 0, 0] ++ octets) = .ok selectors := by
  obtain ⟨octets, written, read⟩ := decodeTsSelectors_encodeTsSelectors matched
  refine ⟨octets, written, ?_⟩
  have count : octetAt ([UInt8.ofNat selectors.length, 0, 0, 0] ++ octets) 0 =
      UInt8.ofNat selectors.length := rfl
  rw [decodeTs, count, toNat_ofNat8 (by omega)]
  exact read

theorem decodeDelete_encode (protocol : UInt8) {spiSize : UInt8} {spis : List UInt32}
    (sized : spiSize = 4 ∨ spiSize = 8 ∨ spiSize = 0 ∧ spis = []) :
    ∃ octets, encodeSpis spiSize spis = .ok octets ∧
      (4 + octets.length < 65536 → ∀ next, decodePayload PayloadType.DELETE
        ([protocol, spiSize] ++ be16 (UInt16.ofNat spis.length) ++ octets) next =
          .ok (.delete protocol spiSize spis)) := by
  obtain ⟨octets, written, width, read⟩ : ∃ octets, encodeSpis spiSize spis = .ok octets ∧
      octets.length = spis.length * spiSize.toNat ∧
      decodeSpis spiSize.toNat spis.length octets = .ok spis := by
    rcases sized with four | eight | ⟨rfl, rfl⟩
    · exact decodeSpis_encodeSpis (.inl four) spis
    · exact decodeSpis_encodeSpis (.inr eight) spis
    · exact ⟨[], rfl, rfl, rfl⟩
  refine ⟨octets, written, fun small next => ?_⟩
  have known : spiSize.toNat = 0 ∨ spiSize.toNat = 4 ∨ spiSize.toNat = 8 := by
    rcases sized with rfl | rfl | ⟨rfl, -⟩ <;> decide
  have counted : spis.length < 65536 := by
    rcases sized with rfl | rfl | ⟨-, rfl⟩
    · change octets.length = spis.length * 4 at width
      omega
    · change octets.length = spis.length * 8 at width
      omega
    · exact Nat.zero_lt_succ _
  let body : Octets := [protocol, spiSize] ++ be16 (UInt16.ofNat spis.length) ++ octets
  have total : body.length = 4 + octets.length := List.length_append
  have count : ofBe16 (slice body 2 4) = UInt16.ofNat spis.length := ofBe16_be16 _
  have size : octetAt body 1 = spiSize := rfl
  have behind : body.drop 4 = octets := rfl
  have valid : ¬(¬(spiSize.toNat = 0 ∨ spiSize.toNat = 4 ∨ spiSize.toNat = 8) ∨
      4 + spis.length * spiSize.toNat > body.length) := by
    omega
  change decodePayload PayloadType.DELETE body next = _
  simp only [decodePayload, size, count, toNat_ofNat16 counted, if_neg valid, behind,
    read]
  rfl

variable {payload : Payload}

/-- A well-formed payload is written, and its body is read as it was written. -/
theorem decodePayload_encodeBody (formed : payload.WellFormed) :
    ∃ body, payload.encodeBody = .ok body ∧ (body.length < 65536 → ∀ next,
      decodePayload payload.payloadType body next = .ok payload) := by
  cases payload with
  | sa proposals =>
    obtain ⟨body, written, read⟩ := decodeSaLoop_encodeSa formed
    refine ⟨body, written, fun small next => ?_⟩
    change (do return Payload.sa (← decodeSaLoop body.length body) : Except IpsecError Payload) = _
    rw [read _ le_rfl small]
    rfl
  | ke group data =>
    refine ⟨_, rfl, fun _ next => ?_⟩
    have read : ofBe16 (slice (be16 group ++ [0, 0] ++ data) 0 2) = group := ofBe16_be16 group
    simp only [decodePayload, read]
    rfl
  | id initiator idType data =>
    refine ⟨_, rfl, fun _ next => ?_⟩
    cases initiator <;> simp only [decodePayload] <;> rfl
  | cert encoding data => exact ⟨_, rfl, fun _ _ => rfl⟩
  | certReq encoding data => exact ⟨_, rfl, fun _ _ => rfl⟩
  | auth method data =>
    refine ⟨_, rfl, fun _ next => ?_⟩
    rfl
  | nonce data => exact ⟨data, rfl, fun _ _ => rfl⟩
  | notify protocol spi notifyType data =>
    have few : spi.length ≤ 255 := formed
    let front : Octets := [protocol, UInt8.ofNat spi.length] ++ be16 notifyType
    have four : front.length = 4 := rfl
    refine ⟨front ++ (spi ++ data), ?_, fun _ next => ?_⟩
    · rw [Payload.encodeBody, if_neg (by omega)]
      rfl
    · obtain ⟨total, spiRead, behind⟩ := framed four spi data
      have valid : ¬4 + spi.length > (front ++ (spi ++ data)).length := by omega
      have size : octetAt (front ++ (spi ++ data)) 1 = UInt8.ofNat spi.length := rfl
      have type : ofBe16 (slice (front ++ (spi ++ data)) 2 4) = notifyType := ofBe16_be16 notifyType
      simp only [decodePayload, size,
        toNat_ofNat8 (Nat.lt_succ_of_le few), if_neg valid, type, spiRead, behind]
      rfl
  | delete protocol spiSize spis =>
    obtain ⟨octets, written, read⟩ := decodeDelete_encode protocol formed
    refine ⟨[protocol, spiSize] ++ be16 (UInt16.ofNat spis.length) ++ octets, ?_, ?_⟩
    · rw [Payload.encodeBody, written]
      rfl
    · intro small next
      exact read (by rw [List.length_append] at small; exact small) next
  | ts initiator selectors =>
    obtain ⟨octets, written, read⟩ := decodeTs_encode formed.1 formed.2
    refine ⟨[UInt8.ofNat selectors.length, 0, 0, 0] ++ octets, ?_, fun _ next => ?_⟩
    · rw [Payload.encodeBody, written]
      rfl
    · cases initiator <;> simp only [decodePayload, read] <;> rfl
  | config attributes =>
    obtain ⟨body, written, read⟩ := decodeConfig_encodeConfig formed
    refine ⟨body, written, fun _ next => ?_⟩
    simp only [decodePayload, read body.length le_rfl]
    rfl
  | eap data => exact ⟨data, rfl, fun _ _ => rfl⟩
  | encrypted next data => exact formed.elim
  | other kind data => exact ⟨data, rfl, fun _ next => decodePayload_other formed.2 data next⟩

def firstType (payloads : List Payload) : UInt8 :=
  (payloads.head?.map Payload.payloadType).getD PayloadType.NONE

variable {payloads : List Payload} {chain : Octets}

/-- A chain is the first payload behind its generic header, then the chain of the others. -/
theorem encodeChain_cons :
    encodeChain (payload :: payloads) = .ok chain ↔
      ∃ body tail, payload.encodeBody = .ok body ∧ encodeChain payloads = .ok tail ∧
        4 + body.length ≤ 65535 ∧
        chain = [firstType payloads, 0] ++ be16 (UInt16.ofNat (4 + body.length)) ++ body ++ tail := by
  have types : ∀ bodies, payloads.mapM (fun payload => return (payload.payloadType,
      ← payload.encodeBody)) = (.ok bodies : Except IpsecError (List (UInt8 × Octets))) →
      (bodies.head?.map Prod.fst).getD PayloadType.NONE = firstType payloads := by
    intro bodies written
    cases payloads with
    | nil =>
      cases written
      rfl
    | cons next others =>
      rw [List.mapM_cons] at written
      obtain ⟨head, headWritten, written⟩ := Except.bind_eq_ok.mp written
      obtain ⟨tail, _, written⟩ := Except.bind_eq_ok.mp written
      obtain ⟨body, _, pair⟩ := Except.bind_eq_ok.mp headWritten
      cases written
      cases pair
      rfl
  unfold encodeChain
  rw [List.mapM_cons]
  constructor
  · intro written
    obtain ⟨bodies, mapped, written⟩ := Except.bind_eq_ok.mp written
    obtain ⟨head, headWritten, mapped⟩ := Except.bind_eq_ok.mp mapped
    obtain ⟨body, bodyWritten, paired⟩ := Except.bind_eq_ok.mp headWritten
    obtain ⟨others, othersMapped, collected⟩ := Except.bind_eq_ok.mp mapped
    cases paired
    cases collected
    rw [encodeBodies] at written
    by_cases long : 4 + body.length > 65535
    · rw [if_pos long] at written
      cases written
    · rw [if_neg long] at written
      obtain ⟨tail, tailWritten, joined⟩ := Except.bind_eq_ok.mp written
      cases joined
      refine ⟨body, tail, bodyWritten, ?_, Nat.le_of_not_lt long, ?_⟩
      · rw [othersMapped]
        exact tailWritten
      · rw [types others othersMapped]
  · rintro ⟨body, tail, bodyWritten, tailWritten, short, rfl⟩
    obtain ⟨others, othersMapped, tailWritten⟩ := Except.bind_eq_ok.mp tailWritten
    have fits : ¬4 + body.length > 65535 := Nat.not_lt_of_le short
    rw [bodyWritten, othersMapped]
    change encodeBodies ((payload.payloadType, body) :: others) = _
    rw [encodeBodies, if_neg fits, tailWritten, types others othersMapped]
    rfl

theorem decodeChainLoop_read {data : Octets} {kind : UInt8} (length : Nat) (some : kind ≠ PayloadType.NONE)
    (plain : kind ≠ PayloadType.SK) (size : (ofBe16 (slice data 2 4)).toNat = length) (long : 4 ≤ length)
    (fits : length ≤ data.length) (inner : decodePayload kind (slice data 4 length) (octetAt data 0) = .ok payload)
    (tail : decodeChainLoop bound (octetAt data 0) (data.drop length) = .ok (payloads, rest)) :
    decodeChainLoop (bound + 1) kind data = .ok (payload :: payloads, rest) := by
  have enough : ¬data.length < 4 := by omega
  have valid : ¬(length < 4 ∨ length > data.length) := by omega
  simp only [decodeChainLoop, if_neg some, if_neg enough, size, if_neg valid, inner]
  change (if kind = PayloadType.SK then _ else _) = _
  rw [if_neg plain, tail]
  rfl

theorem Payload.WellFormed.payloadType_ne (formed : payload.WellFormed) :
    payload.payloadType ≠ PayloadType.NONE ∧ payload.payloadType ≠ PayloadType.SK := by
  cases payload with
  | encrypted => exact formed.elim
  | other kind data =>
    refine ⟨formed.1, fun same => formed.2 ?_⟩
    change kind = PayloadType.SK at same
    rw [same]
    decide
  | id initiator => cases initiator <;> (simp only [payloadType]; decide)
  | ts initiator => cases initiator <;> (simp only [payloadType]; decide)
  | _ =>
    simp only [payloadType]
    decide

/-- The chain loop reads the first payload of a chain under the type it is given, and goes on with the
chain of the others. -/
theorem decodeChainLoop_cons {body tail : Octets} {rest : List Payload} {kind : UInt8}
    (some : kind ≠ PayloadType.NONE) (plain : kind ≠ PayloadType.SK) (short : 4 + body.length ≤ 65535)
    (read : decodePayload kind body (firstType rest) = .ok payload)
    (others : decodeChainLoop bound (firstType rest) tail = .ok (rest, [])) :
    decodeChainLoop (bound + 1) kind ([firstType rest, 0] ++ be16 (UInt16.ofNat (4 + body.length)) ++
      body ++ tail) = .ok (payload :: rest, []) := by
  let front : Octets := [firstType rest, 0] ++ be16 (UInt16.ofNat (4 + body.length))
  have four : front.length = 4 := rfl
  obtain ⟨total, inside, behind⟩ := framed four body tail
  have size : ofBe16 (slice (front ++ (body ++ tail)) 2 4) = UInt16.ofNat (4 + body.length) :=
    ofBe16_be16 _
  change decodeChainLoop (bound + 1) kind (front ++ (body ++ tail)) = _
  apply decodeChainLoop_read (4 + body.length) some plain
  · rw [size, toNat_ofNat16 (Nat.lt_succ_of_le short)]
  · exact Nat.le_add_right 4 _
  · omega
  · rw [inside]
    exact read
  · rw [behind]
    exact others

/-- The chain loop reads back the payloads of a chain, up to its end. -/
theorem decodeChainLoop_encodeChain (formed : ∀ payload ∈ payloads, payload.WellFormed)
    (written : encodeChain payloads = .ok chain) (enough : chain.length < bound) :
    decodeChainLoop bound (firstType payloads) chain = .ok (payloads, []) := by
  induction payloads generalizing chain bound with
  | nil =>
    obtain ⟨bound, rfl⟩ : ∃ left, bound = left + 1 := ⟨bound - 1, by omega⟩
    cases written
    rfl
  | cons payload rest ih =>
    obtain ⟨body, tail, bodyWritten, tailWritten, short, rfl⟩ := encodeChain_cons.mp written
    have head := formed payload List.mem_cons_self
    obtain ⟨_, own, read⟩ := decodePayload_encodeBody head
    obtain rfl : body = _ := Except.ok.inj (bodyWritten.symm.trans own)
    simp only [List.length_append, be16_length] at enough
    obtain ⟨bound, rfl⟩ : ∃ left, bound = left + 1 := ⟨bound - 1, by omega⟩
    refine decodeChainLoop_cons head.payloadType_ne.1 head.payloadType_ne.2 short
      (read (by omega) _) ?_
    exact ih (fun other member => formed other (List.mem_cons_of_mem payload member)) tailWritten
      (by omega)

theorem decodeChain_encodeChain (formed : ∀ payload ∈ payloads, payload.WellFormed)
    (written : encodeChain payloads = .ok chain) :
    decodeChain (firstType payloads) chain = .ok payloads := by
  rw [decodeChain, decodeChainLoop_encodeChain formed written (Nat.lt_succ_self _)]
  rfl

def Payload.Fits (payload : Payload) : Prop :=
  ∀ body, payload.encodeBody = .ok body → 4 + body.length ≤ 65535

theorem encodeChain_isOk (formed : ∀ payload ∈ payloads, payload.WellFormed ∧ payload.Fits) :
    ∃ chain, encodeChain payloads = .ok chain := by
  induction payloads with
  | nil => exact ⟨[], rfl⟩
  | cons payload rest ih =>
    obtain ⟨tail, tailWritten⟩ :=
      ih fun other member => formed other (List.mem_cons_of_mem payload member)
    obtain ⟨head, fits⟩ := formed payload List.mem_cons_self
    obtain ⟨body, bodyWritten, -⟩ := decodePayload_encodeBody head
    exact ⟨_, encodeChain_cons.mpr
      ⟨body, tail, bodyWritten, tailWritten, fits body bodyWritten, rfl⟩⟩

/-! Messages. -/

structure HeaderReads (buffer : Octets) (header : IkeHeader) : Prop where
  initiatorSpi : ofBe64 (slice buffer 0 8) = header.initiatorSpi
  responderSpi : ofBe64 (slice buffer 8 16) = header.responderSpi
  nextPayload : octetAt buffer 16 = header.nextPayload
  version : octetAt buffer 17 = header.version
  exchange : ExchangeType.fromU8 (octetAt buffer 18) = some header.exchange
  flags : octetAt buffer 19 = header.flags
  messageId : ofBe32 (slice buffer 20 24) = header.messageId
  length : ofBe32 (slice buffer 24 28) = header.length

theorem IkeHeader.encode_reads (header : IkeHeader) (rest : Octets) :
    HeaderReads (header.encode ++ rest) header := by
  let spis : Octets := be64 header.initiatorSpi ++ be64 header.responderSpi
  let octets : Octets := [header.nextPayload, header.version, header.exchange.toU8, header.flags]
  let tail : Octets := be32 header.messageId ++ (be32 header.length ++ rest)
  have shape : header.encode ++ rest = spis ++ (octets ++ tail) := by
    simp only [spis, octets, tail, IkeHeader.encode, List.append_assoc]
  have octetRead (index : Nat) : octetAt (header.encode ++ rest) (16 + index) =
      octetAt (octets ++ tail) index := by
    rw [shape]
    exact octetAt_right rfl index
  have exchangeRead : ExchangeType.fromU8 (octetAt (header.encode ++ rest) 18) = some header.exchange := by
    rw [show octetAt (header.encode ++ rest) 18 = header.exchange.toU8 from octetRead 2]
    cases header.exchange <;> rfl
  have idRead : ofBe32 (slice (header.encode ++ rest) 20 24) = header.messageId := by
    have place : (spis ++ octets).length = 20 := List.length_append
    have field : slice (spis ++ octets ++ tail) 20 24 = be32 header.messageId := slice_append place rfl
    rw [shape, ← List.append_assoc, field, ofBe32_be32]
  have lengthRead : ofBe32 (slice (header.encode ++ rest) 24 28) = header.length := by
    have place : (spis ++ octets ++ be32 header.messageId).length = 24 := by
      rfl
    have field : slice (spis ++ octets ++ be32 header.messageId ++ (be32 header.length ++ rest)) 24 28 =
        be32 header.length := slice_append place rfl
    rw [shape, ← List.append_assoc, ← List.append_assoc, field, ofBe32_be32]
  exact ⟨ofBe64_be64 _, ofBe64_be64 _, octetRead 0, octetRead 1, exchangeRead, octetRead 3, idRead,
    lengthRead⟩

theorem IkeHeader.decode_encode {header : IkeHeader} (version : header.version &&& 0xf0 = ikeVersion2)
    (length : ikeHeaderLen ≤ header.length.toNat ∧ header.length.toNat ≤ ikeHeaderLen + rest.length) :
    IkeHeader.decode (header.encode ++ rest) = .ok header := by
  have reads := header.encode_reads rest
  have total : (header.encode ++ rest).length = ikeHeaderLen + rest.length := List.length_append
  generalize header.encode ++ rest = buffer at reads total
  have enough : ¬buffer.length < ikeHeaderLen := by omega
  have major : ¬header.version &&& 0xf0 ≠ ikeVersion2 := not_not_intro version
  have valid : ¬(header.length.toNat > buffer.length ∨ header.length.toNat < ikeHeaderLen) := by omega
  simp only [IkeHeader.decode, if_neg enough, reads.initiatorSpi, reads.responderSpi, reads.nextPayload,
    reads.version, reads.exchange, reads.flags, reads.messageId, reads.length, if_neg major, if_neg valid]
  rfl

/-- A version 2 message of well-formed payloads whose encoding fits the length fields. -/
structure Message.WellFormed (message : Message) : Prop where
  version : message.header.version &&& 0xf0 = ikeVersion2
  payloads : ∀ payload ∈ message.payloads, payload.WellFormed ∧ payload.Fits
  length : ∀ chain, encodeChain message.payloads = .ok chain → ikeHeaderLen + chain.length < 2 ^ 32

/-- Decoding the header and the chain behind it, when both are read. -/
theorem Message.decode_append {header : IkeHeader} (version : header.version &&& 0xf0 = ikeVersion2)
    (length : header.length.toNat = ikeHeaderLen + chain.length)
    (read : decodeChain header.nextPayload chain = .ok payloads) :
    Message.decode (header.encode ++ chain) = .ok ⟨header, payloads⟩ := by
  have whole : (header.encode ++ chain).take header.length.toNat = header.encode ++ chain := by
    rw [List.take_of_length_le]
    rw [List.length_append, header.encode_length, length]
  rw [Message.decode, IkeHeader.decode_encode version (by omega)]
  change (do
    let payloads ← decodeChain header.nextPayload
      (((header.encode ++ chain).take header.length.toNat).drop ikeHeaderLen)
    return (⟨header, payloads⟩ : Message)) = _
  rw [whole, List.drop_left' header.encode_length, read]
  rfl

def Message.completed (message : Message) (chain : Octets) : IkeHeader :=
  { message.header with
    nextPayload := firstType message.payloads
    length := UInt32.ofNat (ikeHeaderLen + chain.length) }

theorem Message.encode_eq {message : Message} (written : encodeChain message.payloads = .ok chain) :
    message.encode = .ok ((message.completed chain).encode ++ chain) := by
  unfold Message.encode
  rw [written]
  rfl

/-- A well-formed message is encoded, and decoding gives it back with the fields the encoder
fills in. -/
theorem message_round_trip (message : Message) (formed : message.WellFormed) :
    ∃ buffer, message.encode = .ok buffer ∧
      Message.decode buffer = .ok
        ⟨{ message.header with
            nextPayload := firstType message.payloads
            length := UInt32.ofNat buffer.length }, message.payloads⟩ := by
  obtain ⟨chain, written⟩ := encodeChain_isOk formed.payloads
  have fits : ikeHeaderLen + chain.length < 2 ^ 32 := formed.length chain written
  have plain : ∀ payload ∈ message.payloads, payload.WellFormed :=
    fun payload member => (formed.payloads payload member).1
  have length : (message.completed chain).length.toNat = ikeHeaderLen + chain.length :=
    UInt32.toNat_ofNat_of_lt' fits
  refine ⟨_, Message.encode_eq written, ?_⟩
  rw [List.length_append, IkeHeader.encode_length]
  exact Message.decode_append formed.version length (decodeChain_encodeChain plain written)

theorem Payload.Fits.of_eq {body : Octets} (written : payload.encodeBody = .ok body)
    (short : 4 + body.length ≤ 65535) : payload.Fits := by
  intro other same
  obtain rfl := Except.ok.inj (written.symm.trans same)
  exact short

def sampleMessage : Message where
  header := IkeHeader.new 1 2 .ikeAuth flagInitiator 1
  payloads :=
    [.sa [⟨1, ProtocolId.ESP, [1, 2, 3, 4], espTransforms .aesGcm16_128 .none false .none⟩],
      .ts true [⟨7, 0, 0, 65535, .v4 0x0a000001, .v4 0x0a0000ff⟩], .delete ProtocolId.ESP 4 [9],
      .config [⟨1, [10, 0, 0, 1]⟩]]

theorem sampleMessage_wellFormed : sampleMessage.WellFormed := by
  refine ⟨by decide, ?_, ?_⟩
  · intro payload member
    simp only [sampleMessage, List.mem_cons, List.not_mem_nil, or_false] at member
    rcases member with rfl | rfl | rfl | rfl
    · refine ⟨?_, Payload.Fits.of_eq rfl (by decide)⟩
      intro proposal only
      obtain rfl := List.mem_singleton.mp only
      exact ⟨by decide, by decide, by decide⟩
    · exact ⟨⟨by decide, by decide⟩, Payload.Fits.of_eq rfl (by decide)⟩
    · exact ⟨.inl rfl, Payload.Fits.of_eq rfl (by decide)⟩
    · refine ⟨?_, Payload.Fits.of_eq rfl (by decide)⟩
      intro attr only
      obtain rfl := List.mem_singleton.mp only
      exact ⟨by decide, by decide⟩
  · intro chain written
    obtain rfl := Except.ok.inj written
    decide

/-- The sample message comes back. -/
theorem message_round_trip_sample :
    ∃ buffer, sampleMessage.encode = .ok buffer ∧
      Message.decode buffer = .ok
        ⟨{ sampleMessage.header with
            nextPayload := PayloadType.SA
            length := UInt32.ofNat buffer.length }, sampleMessage.payloads⟩ :=
  message_round_trip sampleMessage sampleMessage_wellFormed

/-- The decoder masks the reserved bit of a configuration attribute type, and refuses an empty
Delete with an SPI size other than 0, 4 and 8, both of which the encoder writes. -/
theorem message_not_recovered :
    ((⟨sampleMessage.header, [.config [⟨0x8001, [7]⟩]]⟩ : Message).encode >>= Message.decode).map
        Message.payloads = .ok [.config [⟨1, [7]⟩]] ∧
      ((⟨sampleMessage.header, [.delete ProtocolId.IKE 5 []]⟩ : Message).encode >>=
        Message.decode).map Message.payloads = .error (.ike "invalid delete payload") := by
  decide

end Shuli.Ipsec
