import Shuli.Slices
import Shuli.Ipsec.Codec

/-!
Safety of the IKE decoder. The decoders of `codec.rs` are translated once more, here with their offsets:
every index and slice expression is a checked read, every loop has a bound, and each structure is
returned with the region that its declared length spans. No read is out of bounds and no loop runs past
its bound, the results are those of the decoders in `Codec`, and the regions are nested as the
structures are.
-/

namespace Shuli.Ipsec

/-! The decoders with offsets. -/

def attributesAt (proposal : Slice) (stop : Nat) :
    Nat → Nat → Checked IpsecError (List (TransformAttribute × Region))
  | 0, _ => .error .unfinished
  | bound + 1, cursor =>
    if cursor + 4 ≤ stop then do
      let wire ← proposal.u16 cursor
      let type := wire &&& 0x7fff
      if wire &&& 0x8000 ≠ 0 then
        if cursor + 4 > stop then fail (.ike "truncated transform attribute")
        else
          let value ← proposal.sub (cursor + 2) (cursor + 4)
          let rest ← attributesAt proposal stop bound (cursor + 4)
          return (⟨type, value.octets⟩, proposal.region cursor (cursor + 4) []) :: rest
      else
        let len ← proposal.u16 (cursor + 2)
        let next := cursor + 4 + len.toNat
        if next > stop then fail (.ike "invalid transform attribute length")
        else
          let value ← proposal.sub (cursor + 4) next
          let rest ← attributesAt proposal stop bound next
          return (⟨type, value.octets⟩, proposal.region cursor next []) :: rest
    else return []

def transformsAt (proposal : Slice) :
    Nat → Nat → Checked IpsecError (List (Transform × Region))
  | 0, _ => return []
  | count + 1, cursor =>
    if cursor + 8 > proposal.octets.length then fail (.ike "truncated transform")
    else do
      let length ← proposal.u16 (cursor + 2)
      let stop := cursor + length.toNat
      if length.toNat < 8 ∨ stop > proposal.octets.length then
        fail (.ike "invalid transform length")
      else
        let type ← proposal.index (cursor + 4)
        let id ← proposal.u16 (cursor + 6)
        let attributes ← attributesAt proposal stop (proposal.octets.length + 1) (cursor + 8)
        let rest ← transformsAt proposal count stop
        return (⟨type, id, attributes.map Prod.fst⟩,
          proposal.region cursor stop (attributes.map Prod.snd)) :: rest

def proposalsAt (body : Slice) : Nat → Nat → Checked IpsecError (List (Proposal × Region))
  | 0, _ => .error .unfinished
  | bound + 1, offset =>
    if offset + 8 ≤ body.octets.length then do
      let last ← body.index offset
      let length ← body.u16 (offset + 2)
      let stop := offset + length.toNat
      if length.toNat < 8 ∨ stop > body.octets.length then fail (.ike "invalid proposal length")
      else
        let proposal ← body.sub offset stop
        let number ← proposal.index 4
        let protocol ← proposal.index 5
        let spiLen ← proposal.index 6
        let count ← proposal.index 7
        let cursor := 8 + spiLen.toNat
        if cursor > proposal.octets.length then fail (.ike "invalid proposal SPI length")
        else
          let spi ← proposal.sub 8 cursor
          let transforms ← transformsAt proposal count.toNat cursor
          let head := (⟨number, protocol, spi.octets, transforms.map Prod.fst⟩,
            body.region offset stop (proposal.region 8 cursor [] :: transforms.map Prod.snd))
          if last = 0 then return [head]
          else
            let rest ← proposalsAt body bound stop
            return head :: rest
    else return []

def addressesAt (body : Slice) (offset length : Nat) :
    UInt8 → Checked IpsecError (IpAddr × IpAddr)
  | 7 =>
    if length ≠ 16 then fail (.ike "invalid IPv4 traffic selector length")
    else do
      let start ← body.sub (offset + 8) (offset + 12)
      let stop ← body.sub (offset + 12) (offset + 16)
      return (IpAddr.ofOctets4 start.octets, IpAddr.ofOctets4 stop.octets)
  | 8 =>
    if length ≠ 40 then fail (.ike "invalid IPv6 traffic selector length")
    else do
      let start ← body.sub (offset + 8) (offset + 24)
      let stop ← body.sub (offset + 24) (offset + 40)
      return (IpAddr.ofOctets16 start.octets, IpAddr.ofOctets16 stop.octets)
  | other => fail ⟨.noSupport, s!"unsupported traffic selector type {other}"⟩

def selectorsAt (body : Slice) : Nat → Nat → Checked IpsecError (List (TsSelector × Region))
  | 0, _ => return []
  | count + 1, offset =>
    if offset + 8 > body.octets.length then fail (.ike "truncated traffic selector")
    else do
      let tsType ← body.index offset
      let protocol ← body.index (offset + 1)
      let length ← body.u16 (offset + 2)
      if length.toNat < 8 ∨ offset + length.toNat > body.octets.length then
        fail (.ike "invalid traffic selector length")
      else
        let startPort ← body.u16 (offset + 4)
        let endPort ← body.u16 (offset + 6)
        let (start, stop) ← addressesAt body offset length.toNat tsType
        let rest ← selectorsAt body count (offset + length.toNat)
        return (⟨tsType, protocol, startPort, endPort, start, stop⟩,
          body.region offset (offset + length.toNat) []) :: rest

def spiAt (body : Slice) (spiSize start : Nat) : Checked IpsecError UInt32 :=
  match spiSize with
  | 4 => do
    let spi ← body.sub start (start + 4)
    return ofBe32 spi.octets
  | 8 => do
    let high ← body.sub start (start + 4)
    let low ← body.sub (start + 4) (start + 8)
    if ofBe32 high.octets ≠ 0 then
      fail (.ike "64-bit SPI does not fit the IKE SPI representation")
    else return ofBe32 low.octets
  | _ => return 0

def spisAt (body : Slice) (spiSize : Nat) : Nat → Nat → Checked IpsecError (List UInt32)
  | 0, _ => return []
  | count + 1, index => do
    let spi ← spiAt body spiSize (4 + index * spiSize)
    let rest ← spisAt body spiSize count (index + 1)
    return spi :: rest

def configAt (body : Slice) : Nat → Nat → Checked IpsecError (List (ConfigAttribute × Region))
  | 0, _ => .error .unfinished
  | bound + 1, offset =>
    if offset + 4 ≤ body.octets.length then do
      let type ← body.u16 offset
      let length ← body.u16 (offset + 2)
      let stop := offset + 4 + length.toNat
      if stop > body.octets.length then fail (.ike "invalid configuration attribute length")
      else
        let value ← body.sub (offset + 4) stop
        let rest ← configAt body bound stop
        return (⟨type &&& 0x7fff, value.octets⟩, body.region offset stop []) :: rest
    else return []

def bodyRegion (body : Slice) (parts : List Region) : Region := body.region 0 body.octets.length parts

def fieldsAt (body : Slice) (error : String) (make : UInt8 → Octets → Payload) :
    Checked IpsecError (Payload × Region) :=
  if body.octets.length < 4 then fail (.ike error)
  else do
    let first ← body.index 0
    let data ← body.tail 4
    return (make first data.octets, bodyRegion body [])

def selectorPayloadAt (body : Slice) (initiator : Bool) : Checked IpsecError (Payload × Region) :=
  if body.octets.length < 4 then fail (.ike "truncated traffic selector payload")
  else do
    let count ← body.index 0
    let selectors ← selectorsAt body count.toNat 4
    return (.ts initiator (selectors.map Prod.fst), bodyRegion body (selectors.map Prod.snd))

def payloadAt (kind : UInt8) (body : Slice) (next : UInt8) :
    Checked IpsecError (Payload × Region) :=
  match kind with
  | PayloadType.SA => do
    let proposals ← proposalsAt body (body.octets.length + 1) 0
    return (.sa (proposals.map Prod.fst), bodyRegion body (proposals.map Prod.snd))
  | PayloadType.KE =>
    if body.octets.length < 4 then fail (.ike "truncated key exchange payload")
    else do
      let group ← body.u16 0
      let data ← body.tail 4
      return (.ke group data.octets, bodyRegion body [])
  | PayloadType.IDI => fieldsAt body "truncated identification payload" (.id true)
  | PayloadType.IDR => fieldsAt body "truncated identification payload" (.id false)
  | PayloadType.CERT =>
    if body.octets.isEmpty then fail (.ike "truncated certificate payload")
    else do
      let encoding ← body.index 0
      let data ← body.tail 1
      return (.cert encoding data.octets, bodyRegion body [])
  | PayloadType.CERTREQ =>
    if body.octets.isEmpty then fail (.ike "truncated certificate request payload")
    else do
      let encoding ← body.index 0
      let data ← body.tail 1
      return (.certReq encoding data.octets, bodyRegion body [])
  | PayloadType.AUTH => fieldsAt body "truncated authentication payload" .auth
  | PayloadType.NONCE => return (.nonce body.octets, bodyRegion body [])
  | PayloadType.NOTIFY =>
    if body.octets.length < 4 then fail (.ike "truncated notify payload")
    else do
      let protocol ← body.index 0
      let spiSize ← body.index 1
      let notifyType ← body.u16 2
      let stop := 4 + spiSize.toNat
      if stop > body.octets.length then fail (.ike "invalid notify SPI length")
      else
        let spi ← body.sub 4 stop
        let data ← body.tail stop
        return (.notify protocol spi.octets notifyType data.octets,
          bodyRegion body [body.region 4 stop []])
  | PayloadType.DELETE =>
    if body.octets.length < 4 then fail (.ike "truncated delete payload")
    else do
      let protocol ← body.index 0
      let spiSize ← body.index 1
      let count ← body.u16 2
      let stop := 4 + count.toNat * spiSize.toNat
      if ¬(spiSize.toNat = 0 ∨ spiSize.toNat = 4 ∨ spiSize.toNat = 8) ∨ stop > body.octets.length then
        fail (.ike "invalid delete payload")
      else
        let spis ← spisAt body spiSize.toNat count.toNat 0
        return (.delete protocol spiSize spis, bodyRegion body [body.region 4 stop []])
  | PayloadType.TSI => selectorPayloadAt body true
  | PayloadType.TSR => selectorPayloadAt body false
  | PayloadType.CP => do
    let attributes ← configAt body (body.octets.length + 1) 0
    return (.config (attributes.map Prod.fst), bodyRegion body (attributes.map Prod.snd))
  | PayloadType.EAP => return (.eap body.octets, bodyRegion body [])
  | PayloadType.SK => return (.encrypted next body.octets, bodyRegion body [])
  | other => return (.other other body.octets, bodyRegion body [])

def chainAt : Nat → UInt8 → Slice → Checked IpsecError (List (Payload × Region) × Slice)
  | 0, _, _ => .error .unfinished
  | bound + 1, payloadType, data =>
    if payloadType = PayloadType.NONE then return ([], data)
    else if data.octets.length < 4 then fail (.ike "truncated payload header")
    else do
      let next ← data.index 0
      let length ← data.u16 2
      if length.toNat < 4 ∨ length.toNat > data.octets.length then
        fail (.ike "invalid payload length")
      else
        let body ← data.sub 4 length.toNat
        let payload ← payloadAt payloadType body next
        let data ← data.tail length.toNat
        if payloadType = PayloadType.SK then return ([payload], data)
        else
          let (payloads, rest) ← chainAt bound next data
          return (payload :: payloads, rest)

def decodeChainAt (firstType : UInt8) (data : Slice) :
    Checked IpsecError (List (Payload × Region)) := do
  let (payloads, rest) ← chainAt (data.octets.length + 1) firstType data
  if !rest.octets.isEmpty then
    fail (.ike s!"trailing bytes after last IKE payload ({rest.octets.length} bytes)")
  else return payloads

def headerAt (buffer : Slice) : Checked IpsecError IkeHeader :=
  if buffer.octets.length < ikeHeaderLen then fail (.ike "IKE message is shorter than its header")
  else do
    let initiatorSpi ← buffer.sub 0 8
    let responderSpi ← buffer.sub 8 16
    let nextPayload ← buffer.index 16
    let version ← buffer.index 17
    match ExchangeType.fromU8 (← buffer.index 18) with
    | none => fail ⟨.noSupport, "unsupported IKE exchange type"⟩
    | some exchange =>
      let flags ← buffer.index 19
      let messageId ← buffer.sub 20 24
      let length ← buffer.sub 24 28
      let length := ofBe32 length.octets
      if version &&& 0xf0 ≠ ikeVersion2 then fail (.ike "unsupported IKE major version")
      else if length.toNat > buffer.octets.length ∨ length.toNat < ikeHeaderLen then
        fail (.ike "invalid IKE message length")
      else return ⟨ofBe64 initiatorSpi.octets, ofBe64 responderSpi.octets, nextPayload, version,
        exchange, flags, ofBe32 messageId.octets, length⟩

def decodeMessageAt (buffer : Octets) : Checked IpsecError (IkeHeader × List (Payload × Region)) := do
  let datagram : Slice := ⟨0, buffer⟩
  let header ← headerAt datagram
  let message ← datagram.sub 0 header.length.toNat
  let chain ← message.tail ikeHeaderLen
  let payloads ← decodeChainAt header.nextPayload chain
  return (header, payloads)

/-! Slices of slices. -/

theorem slice_length {octets : Octets} {first last : Nat} (inside : last ≤ octets.length) :
    (slice octets first last).length = last - first := by
  rw [slice, List.length_drop, List.length_take, Nat.min_eq_left inside]

theorem slice_drop (octets : Octets) (offset first last : Nat) :
    slice (octets.drop offset) first last = slice octets (offset + first) (offset + last) := by
  rw [slice, slice, List.take_drop, List.drop_drop]

theorem octetAt_drop (octets : Octets) (offset index : Nat) :
    octetAt (octets.drop offset) index = octetAt octets (offset + index) := by
  simp [octetAt]

theorem slice_slice (octets : Octets) {start stop first last : Nat} (inside : start + last ≤ stop) :
    slice (slice octets start stop) first last = slice octets (start + first) (start + last) := by
  rw [slice.eq_1 octets start stop, slice_drop, slice, slice, List.take_take, Nat.min_eq_left inside]

theorem drop_slice (octets : Octets) (first last offset : Nat) :
    (slice octets first last).drop offset = slice octets (first + offset) last := by
  rw [slice, slice, List.drop_drop]

/-! Checked reads as the octets that `Codec` takes. -/

section Reads

variable {buffer : Slice} {first : Nat}

theorem index_read (inside : first < buffer.octets.length) :
    (buffer.index first : Checked IpsecError UInt8) = .ok (octetAt buffer.octets first) :=
  Slice.index_eq inside

theorem sub_read {last : Nat} (order : first ≤ last) (inside : last ≤ buffer.octets.length) :
    (buffer.sub first last : Checked IpsecError Slice) =
      .ok ⟨buffer.base + first, slice buffer.octets first last⟩ := Slice.sub_eq order inside

theorem tail_read (inside : first ≤ buffer.octets.length) :
    (buffer.tail first : Checked IpsecError Slice) =
      .ok ⟨buffer.base + first, buffer.octets.drop first⟩ := Slice.tail_eq inside

theorem u16_read (last : Nat) (width : first + 2 = last) (inside : last ≤ buffer.octets.length) :
    (buffer.u16 first : Checked IpsecError UInt16) = .ok (ofBe16 (slice buffer.octets first last)) := by
  subst width
  exact Slice.u16_eq inside

end Reads

/-! The decoders agree with those without offsets. -/

/-- The attributes of a transform stand between its fixed part and its end. -/
theorem attributesAt_agrees {proposal : Slice} {stop : Nat} (inside : stop ≤ proposal.octets.length)
    {bound cursor limit : Nat} (order : cursor ≤ stop) (enough : stop - cursor < bound)
    (cover : stop - cursor ≤ limit) :
    Agrees (attributesAt proposal stop bound cursor)
      (decodeAttributes limit (slice proposal.octets cursor stop)) (List.map Prod.fst)
      fun located => Tiled (proposal.base + cursor) (proposal.base + stop) (located.map Prod.snd) := by
  induction bound generalizing cursor limit with
  | zero => omega
  | succ bound ih =>
    have size : (slice proposal.octets cursor stop).length = stop - cursor := slice_length inside
    rw [attributesAt]
    by_cases more : cursor + 4 ≤ stop
    · obtain ⟨limit, rfl⟩ : ∃ left, limit = left + 1 := ⟨limit - 1, by omega⟩
      have full : ¬(slice proposal.octets cursor stop).length < 4 := by omega
      rw [if_pos more, decodeAttributes, if_neg full]
      simp only [slice_slice proposal.octets (show cursor + 2 ≤ stop by omega),
        slice_slice proposal.octets more, drop_slice]
      refine Agrees.read (u16_read _ rfl (by omega)) (Agrees.branch Iff.rfl ?_ ?_)
      · intro _
        have whole : ¬cursor + 4 > stop := by omega
        rw [if_neg whole]
        refine Agrees.read (sub_read (by omega) (by omega)) ?_
        refine Agrees.bind (ih more (by omega) (by omega)) fun located tiled => ?_
        exact Agrees.ok rfl (.cons (Nat.le_refl _) (.nil (by omega)) tiled)
      · intro _
        refine Agrees.read (u16_read (cursor + 4) (by omega) (by omega)) ?_
        generalize ofBe16 (slice proposal.octets (cursor + 2) (cursor + 4)) = length
        refine Agrees.guard (by rw [size]; omega) fun short => ?_
        rw [slice_slice proposal.octets (by omega), ← Nat.add_assoc]
        refine Agrees.read (sub_read (by omega) (by omega)) ?_
        refine Agrees.bind (ih (by omega) (by omega) (by omega)) fun located tiled => ?_
        exact Agrees.ok rfl (.cons (Nat.le_refl _) (.nil (by omega)) tiled)
    · have done : (slice proposal.octets cursor stop).length < 4 := by omega
      rw [if_neg more]
      refine Agrees.ok ?_ (.nil (by omega))
      cases limit with
      | zero => rfl
      | succ limit =>
        rw [decodeAttributes, if_pos done]
        rfl

/-- The transforms of a proposal stand behind its SPI. -/
theorem transformsAt_agrees {proposal : Slice} (count : Nat) {cursor : Nat}
    (order : cursor ≤ proposal.octets.length) :
    Agrees (transformsAt proposal count cursor)
      (decodeTransforms count (proposal.octets.drop cursor)) (List.map Prod.fst)
      fun located => Tiled (proposal.base + cursor) (proposal.base + proposal.octets.length)
        (located.map Prod.snd) := by
  induction count generalizing cursor with
  | zero => exact Agrees.ok rfl (.nil (by omega))
  | succ count ih =>
    have size : (proposal.octets.drop cursor).length = proposal.octets.length - cursor :=
      List.length_drop
    refine Agrees.guard (by rw [size]; omega) fun enough => ?_
    simp only [slice_drop, octetAt_drop, List.drop_drop]
    refine Agrees.read (u16_read (cursor + 4) (by omega) (by omega)) ?_
    generalize ofBe16 (slice proposal.octets (cursor + 2) (cursor + 4)) = length
    refine Agrees.guard (by rw [size]; omega) fun valid => ?_
    refine Agrees.read (index_read (by omega)) (Agrees.read (u16_read (cursor + 8) (by omega) (by omega)) ?_)
    refine Agrees.bind (attributesAt_agrees (by omega) (by omega) (by omega) (by rw [size]; omega))
      fun attributes inside => ?_
    refine Agrees.bind (ih (by omega)) fun located tiled => ?_
    have behind : Tiled (proposal.base + cursor) (proposal.base + (cursor + length.toNat))
        (attributes.map Prod.snd) := inside.widen (by omega)
    exact Agrees.ok rfl (.cons (Nat.le_refl _) behind tiled)

variable {body : Slice}

/-- The proposals of an SA payload stand in its body. -/
theorem proposalsAt_agrees {bound offset limit : Nat} (order : offset ≤ body.octets.length)
    (enough : body.octets.length - offset < bound) (cover : body.octets.length - offset ≤ limit) :
    Agrees (proposalsAt body bound offset) (decodeSaLoop limit (body.octets.drop offset))
      (List.map Prod.fst) fun located =>
        Tiled (body.base + offset) (body.base + body.octets.length) (located.map Prod.snd) := by
  induction bound generalizing offset limit with
  | zero => omega
  | succ bound ih =>
    have size : (body.octets.drop offset).length = body.octets.length - offset := List.length_drop
    rw [proposalsAt]
    by_cases more : offset + 8 ≤ body.octets.length
    · obtain ⟨limit, rfl⟩ : ∃ left, limit = left + 1 := ⟨limit - 1, by omega⟩
      have full : ¬(body.octets.drop offset).length < 8 := by omega
      have fold (count : Nat) : (body.octets.drop offset).take count =
          slice body.octets offset (offset + count) := List.take_drop
      rw [if_pos more, decodeSaLoop, if_neg full]
      simp only [fold, slice_drop, octetAt_drop, List.drop_drop]
      refine Agrees.read (index_read (by omega)) ?_
      refine Agrees.read (u16_read (offset + 4) (by omega) (by omega)) ?_
      generalize ofBe16 (slice body.octets (offset + 2) (offset + 4)) = length
      refine Agrees.guard (by rw [size]; omega) fun valid => ?_
      have whole : (slice body.octets offset (offset + length.toNat)).length = length.toNat := by
        rw [slice_length (by omega)]
        omega
      refine Agrees.read (sub_read (by omega) (by omega)) ?_
      obtain ⟨proposal, place⟩ : ∃ proposal : Slice,
        proposal = ⟨body.base + offset, slice body.octets offset (offset + length.toNat)⟩ := ⟨_, rfl⟩
      have base : proposal.base = body.base + offset := by rw [place]
      have octets : slice body.octets offset (offset + length.toNat) = proposal.octets := by rw [place]
      rw [octets] at whole
      rw [← place, octets]
      refine Agrees.read (index_read (by omega)) (Agrees.read (index_read (by omega)) ?_)
      refine Agrees.read (index_read (by omega)) (Agrees.read (index_read (by omega)) ?_)
      refine Agrees.guard Iff.rfl fun spiFits => ?_
      refine Agrees.read (sub_read (by omega) (by omega)) ?_
      refine Agrees.bind (transformsAt_agrees _ (by omega)) fun transforms inside => ?_
      have parts : Tiled (body.base + offset) (body.base + (offset + length.toNat))
          (proposal.region 8 (8 + (octetAt proposal.octets 6).toNat) [] ::
            transforms.map Prod.snd) := by
        refine .cons (by omega) (.nil (by omega)) ?_
        rw [whole] at inside
        rwa [← Nat.add_assoc body.base offset, ← base]
      refine Agrees.branch Iff.rfl (fun _ => ?_) (fun _ => ?_)
      · exact Agrees.ok rfl (.cons (Nat.le_refl _) parts (.nil (by omega)))
      · refine Agrees.bind (ih (by omega) (by omega) (by omega)) fun located tiled => ?_
        exact Agrees.ok rfl (.cons (Nat.le_refl _) parts tiled)
    · have done : (body.octets.drop offset).length < 8 := by omega
      rw [if_neg more]
      refine Agrees.ok ?_ (.nil (by omega))
      cases limit with
      | zero => rfl
      | succ limit =>
        rw [decodeSaLoop, if_pos done]
        rfl

theorem addressesAt_agrees {offset length : Nat} (type : UInt8) (fits : offset + length ≤ body.octets.length) :
    Agrees (addressesAt body offset length type)
      (match type with
        | 7 =>
          if length ≠ 16 then throw (.ike "invalid IPv4 traffic selector length")
          else pure (IpAddr.ofOctets4 (slice (body.octets.drop offset) 8 12),
            IpAddr.ofOctets4 (slice (body.octets.drop offset) 12 16))
        | 8 =>
          if length ≠ 40 then throw (.ike "invalid IPv6 traffic selector length")
          else pure (IpAddr.ofOctets16 (slice (body.octets.drop offset) 8 24),
            IpAddr.ofOctets16 (slice (body.octets.drop offset) 24 40))
        | other => throw ⟨.noSupport, s!"unsupported traffic selector type {other}"⟩) id
      fun _ => True := by
  simp only [slice_drop]
  unfold addressesAt
  split
  · by_cases wrong : length ≠ 16
    · rw [if_pos wrong, if_pos wrong]
      exact Agrees.failed _
    · rw [if_neg wrong, if_neg wrong]
      refine Agrees.read (sub_read (by omega) (by omega)) ?_
      exact Agrees.read (sub_read (by omega) (by omega)) (Agrees.ok rfl trivial)
  · by_cases wrong : length ≠ 40
    · rw [if_pos wrong, if_pos wrong]
      exact Agrees.failed _
    · rw [if_neg wrong, if_neg wrong]
      refine Agrees.read (sub_read (by omega) (by omega)) ?_
      exact Agrees.read (sub_read (by omega) (by omega)) (Agrees.ok rfl trivial)
  · exact Agrees.failed _

/-- The selectors of a traffic selector payload stand behind its count. -/
theorem selectorsAt_agrees (count : Nat) {offset : Nat} (order : offset ≤ body.octets.length) :
    Agrees (selectorsAt body count offset) (decodeTsSelectors count (body.octets.drop offset))
      (List.map Prod.fst) fun located =>
        Tiled (body.base + offset) (body.base + body.octets.length) (located.map Prod.snd) := by
  induction count generalizing offset with
  | zero => exact Agrees.ok rfl (.nil (by omega))
  | succ count ih =>
    have size : (body.octets.drop offset).length = body.octets.length - offset := List.length_drop
    refine Agrees.guard (by rw [size]; omega) fun enough => ?_
    refine Agrees.read (index_read (by omega)) (Agrees.read (index_read (by omega)) ?_)
    refine Agrees.read (u16_read (offset + 4) (by omega) (by omega)) ?_
    have octets : slice (body.octets.drop offset) 2 4 = slice body.octets (offset + 2) (offset + 4) :=
      slice_drop ..
    rw [octets]
    generalize ofBe16 (slice body.octets (offset + 2) (offset + 4)) = length
    refine Agrees.guard (by rw [size]; omega) fun valid => ?_
    refine Agrees.read (u16_read (offset + 6) (by omega) (by omega)) ?_
    refine Agrees.read (u16_read (offset + 8) (by omega) (by omega)) ?_
    rw [octetAt_drop]
    refine Agrees.bind (addressesAt_agrees _ (by omega)) fun addresses _ => ?_
    rw [List.drop_drop]
    refine Agrees.bind (ih (by omega)) fun located tiled => ?_
    refine Agrees.ok ?_ (.cons (Nat.le_refl _) (.nil (by omega)) tiled)
    rw [octetAt_drop, slice_drop, slice_drop]
    rfl

theorem spiAt_agrees {spiSize start : Nat} (fits : start + spiSize ≤ body.octets.length) :
    Agrees (spiAt body spiSize start)
      (match spiSize with
        | 4 => pure (ofBe32 (slice (body.octets.drop start) 0 4))
        | 8 =>
          if ofBe32 (slice (body.octets.drop start) 0 4) ≠ 0 then
            throw (.ike "64-bit SPI does not fit the IKE SPI representation")
          else pure (ofBe32 (slice (body.octets.drop start) 4 8))
        | _ => pure 0) id fun _ => True := by
  simp only [slice_drop]
  unfold spiAt
  split
  · exact Agrees.read (sub_read (by omega) (by omega)) (Agrees.ok rfl trivial)
  · refine Agrees.read (sub_read (by omega) (by omega)) ?_
    refine Agrees.read (sub_read (by omega) (by omega)) ?_
    exact Agrees.branch Iff.rfl (fun _ => Agrees.failed _) (fun _ => Agrees.ok rfl trivial)
  · exact Agrees.ok rfl trivial

/-- The SPIs of a Delete payload are read within the count that was checked. -/
theorem spisAt_agrees {spiSize count : Nat} (index : Nat)
    (fits : 4 + (index + count) * spiSize ≤ body.octets.length) :
    Agrees (spisAt body spiSize count index)
      (decodeSpis spiSize count (body.octets.drop (4 + index * spiSize))) id fun _ => True := by
  induction count generalizing index with
  | zero => exact Agrees.ok rfl trivial
  | succ count ih =>
    have split : (index + (count + 1)) * spiSize = index * spiSize + spiSize + count * spiSize := by ring
    have next : (index + 1) * spiSize = index * spiSize + spiSize := by ring
    have later : 4 + (index + 1 + count) * spiSize ≤ body.octets.length := by
      rwa [Nat.add_assoc index, Nat.add_comm 1]
    have rest := ih (index + 1) later
    rw [next, ← Nat.add_assoc, ← List.drop_drop] at rest
    have inside : 4 + index * spiSize + spiSize ≤ body.octets.length := by omega
    refine Agrees.bind (spiAt_agrees inside) fun spi _ => ?_
    exact Agrees.bind rest fun spis _ => Agrees.ok rfl trivial

/-- The attributes of a configuration payload stand in its body. -/
theorem configAt_agrees {bound offset limit : Nat} (order : offset ≤ body.octets.length)
    (enough : body.octets.length - offset < bound) (cover : body.octets.length - offset ≤ limit) :
    Agrees (configAt body bound offset) (decodeConfig limit (body.octets.drop offset))
      (List.map Prod.fst) fun located =>
        Tiled (body.base + offset) (body.base + body.octets.length) (located.map Prod.snd) := by
  induction bound generalizing offset limit with
  | zero => omega
  | succ bound ih =>
    have size : (body.octets.drop offset).length = body.octets.length - offset := List.length_drop
    rw [configAt]
    by_cases more : offset + 4 ≤ body.octets.length
    · obtain ⟨limit, rfl⟩ : ∃ left, limit = left + 1 := ⟨limit - 1, by omega⟩
      have full : ¬(body.octets.drop offset).length < 4 := by omega
      rw [if_pos more, decodeConfig, if_neg full]
      simp only [slice_drop, List.drop_drop, ← Nat.add_assoc]
      refine Agrees.read (u16_read _ rfl (by omega)) ?_
      refine Agrees.read (u16_read (offset + 4) (by omega) (by omega)) ?_
      generalize ofBe16 (slice body.octets (offset + 2) (offset + 4)) = length
      refine Agrees.guard (by rw [size]; omega) fun fits => ?_
      refine Agrees.read (sub_read (by omega) (by omega)) ?_
      refine Agrees.bind (ih (by omega) (by omega) (by omega)) fun located tiled => ?_
      exact Agrees.ok rfl (.cons (Nat.le_refl _) (.nil (by omega)) tiled)
    · have done : (body.octets.drop offset).length < 4 := by omega
      rw [if_neg more]
      refine Agrees.ok ?_ (.nil (by omega))
      cases limit with
      | zero => rfl
      | succ limit =>
        rw [decodeConfig, if_pos done]
        rfl

/-- What a decoder returns with a payload is the region of its body with parts inside of it. -/
def Located (body : Slice) (located : Payload × Region) : Prop :=
  ∃ parts, located.2 = bodyRegion body parts ∧
    Tiled body.base (body.base + body.octets.length) parts

theorem Located.plain (body : Slice) (payload : Payload) : Located body (payload, bodyRegion body []) :=
  ⟨[], rfl, .nil (Nat.le_add_right _ _)⟩

theorem fieldsAt_agrees (body : Slice) (error : String) (make : UInt8 → Octets → Payload) :
    Agrees (fieldsAt body error make)
      (do
        if body.octets.length < 4 then
          throw (.ike error)
        return make (octetAt body.octets 0) (body.octets.drop 4)) Prod.fst (Located body) := by
  refine Agrees.guard Iff.rfl fun enough => ?_
  refine Agrees.read (index_read (by omega)) (Agrees.read (tail_read (by omega)) ?_)
  exact Agrees.ok rfl (Located.plain body _)

theorem selectorPayloadAt_agrees (body : Slice) (initiator : Bool) :
    Agrees (selectorPayloadAt body initiator) (return .ts initiator (← decodeTs body.octets))
      Prod.fst (Located body) := by
  rw [selectorPayloadAt, decodeTs]
  by_cases short : body.octets.length < 4
  · rw [if_pos short, if_pos short]
    exact Agrees.failed _
  · rw [if_neg short, if_neg short]
    refine Agrees.read (index_read (by omega)) ?_
    refine Agrees.bind (selectorsAt_agrees _ (by omega)) fun selectors tiled => ?_
    exact Agrees.ok rfl ⟨_, rfl, tiled.widen (Nat.le_add_right _ _)⟩

theorem notifyAt_agrees (body : Slice) (next : UInt8) :
    Agrees (payloadAt PayloadType.NOTIFY body next)
      (decodePayload PayloadType.NOTIFY body.octets next) Prod.fst (Located body) := by
  refine Agrees.guard Iff.rfl fun enough => ?_
  refine Agrees.read (index_read (by omega)) (Agrees.read (index_read (by omega)) ?_)
  refine Agrees.read (u16_read 4 rfl (by omega)) ?_
  refine Agrees.guard Iff.rfl fun fits => ?_
  refine Agrees.read (sub_read (by omega) (by omega)) (Agrees.read (tail_read (by omega)) ?_)
  exact Agrees.ok rfl ⟨_, rfl, .cons (by omega) (.nil (by omega)) (.nil (by omega))⟩

theorem deleteAt_agrees (body : Slice) (next : UInt8) :
    Agrees (payloadAt PayloadType.DELETE body next)
      (decodePayload PayloadType.DELETE body.octets next) Prod.fst (Located body) := by
  refine Agrees.guard Iff.rfl fun enough => ?_
  refine Agrees.read (index_read (by omega)) (Agrees.read (index_read (by omega)) ?_)
  refine Agrees.read (u16_read 4 rfl (by omega)) ?_
  refine Agrees.guard Iff.rfl fun fits => ?_
  have inside := Nat.le_of_not_lt (not_or.mp fits).2
  have spis := spisAt_agrees 0 ((Nat.zero_add (ofBe16 (slice body.octets 2 4)).toNat).symm ▸ inside)
  rw [Nat.zero_mul] at spis
  refine Agrees.bind spis fun spis _ => ?_
  exact Agrees.ok rfl ⟨_, rfl, .cons (by omega) (.nil (by omega)) (.nil (by omega))⟩

/-- Every payload decoder reads inside of the body that it is given. -/
theorem payloadAt_agrees (kind : UInt8) (body : Slice) (next : UInt8) :
    Agrees (payloadAt kind body next) (decodePayload kind body.octets next) Prod.fst
      (Located body) := by
  have plain (payload : Payload) :
      Agrees (return (payload, bodyRegion body []) : Checked IpsecError _) (return payload) Prod.fst
        (Located body) :=
    Agrees.ok rfl (Located.plain body payload)
  have filled (some : ¬body.octets.isEmpty) : 0 < body.octets.length :=
    List.length_pos_iff.mpr fun none => some (List.isEmpty_iff.mpr none)
  unfold payloadAt
  split
  case h_1 =>
    refine Agrees.bind (proposalsAt_agrees (Nat.zero_le _) (Nat.lt_succ_self _) (Nat.le_refl _))
      fun proposals tiled => ?_
    exact Agrees.ok rfl ⟨_, rfl, tiled⟩
  case h_2 =>
    refine Agrees.guard Iff.rfl fun enough => ?_
    refine Agrees.read (u16_read 2 rfl (by omega)) (Agrees.read (tail_read (by omega)) ?_)
    exact plain _
  case h_3 => exact fieldsAt_agrees body _ _
  case h_4 => exact fieldsAt_agrees body _ _
  case h_5 =>
    refine Agrees.guard Iff.rfl fun some => ?_
    refine Agrees.read (index_read (filled some)) (Agrees.read (tail_read (filled some)) ?_)
    exact plain _
  case h_6 =>
    refine Agrees.guard Iff.rfl fun some => ?_
    refine Agrees.read (index_read (filled some)) (Agrees.read (tail_read (filled some)) ?_)
    exact plain _
  case h_7 => exact fieldsAt_agrees body _ _
  case h_8 => exact plain _
  case h_9 => exact notifyAt_agrees body next
  case h_10 => exact deleteAt_agrees body next
  case h_11 => exact selectorPayloadAt_agrees body true
  case h_12 => exact selectorPayloadAt_agrees body false
  case h_13 =>
    refine Agrees.bind (configAt_agrees (Nat.zero_le _) (Nat.lt_succ_self _) (Nat.le_refl _))
      fun attributes tiled => ?_
    exact Agrees.ok rfl ⟨_, rfl, tiled⟩
  case h_14 => exact plain _
  case h_15 => exact plain _
  case h_16 =>
    have other : decodePayload kind body.octets next = .ok (.other kind body.octets) := by
      unfold decodePayload
      split <;> first | rfl | contradiction
    rw [other]
    exact plain _

/-- The payloads of a chain stand one behind the other in its data, and what is left stands behind
them. -/
theorem chainAt_agrees {bound limit : Nat} {kind : UInt8} {data : Slice}
    (enough : data.octets.length < bound) (cover : data.octets.length < limit) :
    Agrees (chainAt bound kind data) (decodeChainLoop limit kind data.octets)
      (fun decoded => (decoded.1.map Prod.fst, decoded.2.octets)) fun decoded =>
        Tiled data.base decoded.2.base (decoded.1.map Prod.snd) ∧
          decoded.2.base + decoded.2.octets.length = data.base + data.octets.length := by
  induction bound generalizing limit kind data with
  | zero => omega
  | succ bound ih =>
    obtain ⟨limit, rfl⟩ : ∃ left, limit = left + 1 := ⟨limit - 1, by omega⟩
    refine Agrees.branch Iff.rfl (fun _ => Agrees.ok rfl ⟨.nil (Nat.le_refl _), rfl⟩) fun _ => ?_
    refine Agrees.guard Iff.rfl fun header => ?_
    refine Agrees.read (index_read (by omega)) (Agrees.read (u16_read 4 rfl (by omega)) ?_)
    generalize ofBe16 (slice data.octets 2 4) = length
    refine Agrees.guard Iff.rfl fun valid => ?_
    refine Agrees.read (sub_read (by omega) (by omega)) ?_
    refine Agrees.bind (payloadAt_agrees kind ⟨data.base + 4, slice data.octets 4 length.toNat⟩ _)
      fun located inside => ?_
    have size : (slice data.octets 4 length.toNat).length = length.toNat - 4 :=
      slice_length (by omega)
    have left : (data.octets.drop length.toNat).length = data.octets.length - length.toNat :=
      List.length_drop
    have front {last : Nat} {rest : List Region} (tail : Tiled (data.base + length.toNat) last rest) :
        Tiled data.base last (located.2 :: rest) := by
      obtain ⟨parts, region, nested⟩ := inside
      rw [region]
      exact .cons (by dsimp only; omega) nested (tail.widen (by dsimp only; omega))
    refine Agrees.read (tail_read (by omega)) ?_
    refine Agrees.branch Iff.rfl (fun _ => Agrees.ok rfl ⟨front (.nil (Nat.le_refl _)), ?_⟩) fun _ => ?_
    · dsimp only
      omega
    · refine Agrees.bind (ih (by dsimp only; omega) (by dsimp only; omega)) fun decoded ⟨tail, stop⟩ => ?_
      refine Agrees.ok rfl ⟨front tail, ?_⟩
      dsimp only at stop ⊢
      omega

theorem decodeChainAt_agrees (kind : UInt8) (data : Slice) :
    Agrees (decodeChainAt kind data) (decodeChain kind data.octets) (List.map Prod.fst) fun payloads =>
      Tiled data.base (data.base + data.octets.length) (payloads.map Prod.snd) := by
  have more := Nat.lt_succ_self data.octets.length
  refine Agrees.bind (chainAt_agrees more more) fun decoded ⟨tiled, stop⟩ => ?_
  refine Agrees.guard Iff.rfl fun beyond => ?_
  have none : decoded.2.octets = [] := by
    simpa using beyond
  rw [none] at stop
  exact Agrees.ok rfl (stop ▸ tiled)

theorem headerAt_agrees (buffer : Slice) :
    Agrees (headerAt buffer) (IkeHeader.decode buffer.octets) id fun header =>
      ikeHeaderLen ≤ header.length.toNat ∧ header.length.toNat ≤ buffer.octets.length := by
  refine Agrees.guard Iff.rfl fun enough => ?_
  have whole : 28 ≤ buffer.octets.length := Nat.le_of_not_lt enough
  refine Agrees.read (sub_read (by omega) (by omega)) ?_
  refine Agrees.read (sub_read (by omega) (by omega)) ?_
  refine Agrees.read (index_read (by omega)) (Agrees.read (index_read (by omega)) ?_)
  refine Agrees.read (index_read (by omega)) ?_
  cases ExchangeType.fromU8 (octetAt buffer.octets 18) with
  | none => exact Agrees.failed _
  | some exchange =>
    refine Agrees.read (index_read (by omega)) ?_
    refine Agrees.read (sub_read (by omega) (by omega)) ?_
    refine Agrees.read (sub_read (by omega) (by omega)) ?_
    refine Agrees.guard Iff.rfl fun version => ?_
    refine Agrees.guard Iff.rfl fun valid => ?_
    have range := not_or.mp valid
    exact Agrees.ok rfl ⟨Nat.le_of_not_lt range.2, Nat.le_of_not_lt range.1⟩

theorem payloads_of_tiled {first last : Nat} {payloads : List (Payload × Region)}
    (tiled : Tiled first last (payloads.map Prod.snd)) :
    (∀ located ∈ payloads,
      first ≤ located.2.start ∧ located.2.stop ≤ last ∧ located.2.Nested) ∧
    payloads.Pairwise fun left right => left.2.stop ≤ right.2.start :=
  ⟨fun _ member => tiled.within _ (List.mem_map_of_mem member), List.pairwise_map.mp tiled.pairwise⟩

/-- No datagram makes the decoder read out of bounds or loop forever: it ends as `Message::decode` does
in `Codec`, and the bodies of the payloads it returns stand one behind the other between the header
and the declared length of the message, which the datagram holds, each with its structures inside of
it. A chain that was taken out of an Encrypted payload is read in the same way. -/
theorem decoder_reads_inside :
    (∀ buffer, Agrees (decodeMessageAt buffer) (Message.decode buffer)
      (fun decoded => ⟨decoded.1, decoded.2.map Prod.fst⟩) fun decoded =>
        decoded.1.length.toNat ≤ buffer.length ∧
        (∀ located ∈ decoded.2, ikeHeaderLen ≤ located.2.start ∧
          located.2.stop ≤ decoded.1.length.toNat ∧ located.2.Nested) ∧
        decoded.2.Pairwise fun left right => left.2.stop ≤ right.2.start) ∧
    ∀ kind data, Agrees (decodeChainAt kind ⟨0, data⟩) (decodeChain kind data) (List.map Prod.fst)
      fun payloads =>
        (∀ located ∈ payloads, located.2.stop ≤ data.length ∧ located.2.Nested) ∧
        payloads.Pairwise fun left right => left.2.stop ≤ right.2.start := by
  constructor
  · intro buffer
    refine Agrees.bind (headerAt_agrees ⟨0, buffer⟩) fun header ⟨least, most⟩ => ?_
    have size : (slice buffer 0 header.length.toNat).length = header.length.toNat := slice_length most
    refine Agrees.read (sub_read (Nat.zero_le _) most) ?_
    refine Agrees.read (tail_read (by rw [size]; exact least)) ?_
    refine Agrees.bind (decodeChainAt_agrees header.nextPayload _) fun payloads tiled => ?_
    have stop : 0 + 0 + ikeHeaderLen +
        ((slice buffer 0 header.length.toNat).drop ikeHeaderLen).length = header.length.toNat := by
      rw [List.length_drop, size]
      omega
    have start : 0 + 0 + ikeHeaderLen = ikeHeaderLen := Nat.zero_add _
    dsimp only at tiled
    rw [stop, start] at tiled
    exact Agrees.ok rfl ⟨most, payloads_of_tiled tiled⟩
  · intro kind data
    have agrees := decodeChainAt_agrees kind ⟨0, data⟩
    refine agrees.mono fun payloads tiled => ?_
    dsimp only at tiled
    rw [Nat.zero_add] at tiled
    obtain ⟨inside, disjoint⟩ := payloads_of_tiled tiled
    exact ⟨fun located member => (inside located member).2, disjoint⟩

end Shuli.Ipsec
