import Shuli.Wired.MkaPdu

/-!
MKPDUs survive encoding: what `parse` reads in the octets of `buildEapol`, padding behind them or not,
is the PDU that was built, provided that each part fits its length field.
-/

namespace Shuli.Wired

theorem exists_fin_octet {n : Nat} {octet : UInt8} (small : octet.toNat < n) :
    ∃ k : Fin n, octet = UInt8.ofNat k.val :=
  ⟨⟨octet.toNat, small⟩, (UInt8.ofNat_toNat).symm⟩

theorem drop_next {octets front rest : Octets} {start width : Nat}
    (here : octets.drop start = front ++ rest) (size : front.length = width) :
    octets.drop (start + width) = rest := by
  rw [← List.drop_drop, here, List.drop_left' size]

theorem readBlock_append {width : Nat} (block : Block width) (rest : Octets) :
    readBlock width (block.val ++ rest) = block := by
  apply Subtype.ext
  simp only [readBlock, List.append_assoc]
  exact List.take_left' block.property

theorem readU32_of_drop {octets rest : Octets} {start : Nat} {value : UInt32}
    (here : octets.drop start = be32 value ++ rest) : readU32 octets start = value := by
  rw [readU32, here, List.take_left' (be32_length value), ofBe32_be32]

theorem align4_mod (n : Nat) : align4 n % 4 = 0 := by
  unfold align4
  omega

theorem le_align4 (n : Nat) : n ≤ align4 n ∧ align4 n < n + 4 := by
  unfold align4
  omega

theorem align4_of_mod {n : Nat} (aligned : n % 4 = 0) : align4 n = n := by
  unfold align4
  omega

namespace MkaPdu

theorem padded_length (octets : Octets) : (padded octets).length = align4 octets.length := by
  have bounds := le_align4 octets.length
  rw [padded, List.length_append, List.length_replicate]
  omega

theorem lengthHigh_eq (n : Nat) : lengthHigh n = UInt8.ofNat (n / 256 % 16) := by
  have reduce : UInt8.ofNat (n / 256) = UInt8.ofNat (n / 256 % 256) := by
    apply UInt8.toNat_inj.mp
    simp
  have mask : ∀ k : Fin 256, UInt8.ofNat k.val &&& 0x0f = UInt8.ofNat (k.val % 16) := by decide +kernel
  have small : n / 256 % 256 < 256 := Nat.mod_lt _ (by decide)
  have nested : n / 256 % 256 % 16 = n / 256 % 16 := by omega
  rw [lengthHigh, reduce, mask ⟨_, small⟩, nested]

/-- The flags of a Basic Parameter Set are read as they were written. -/
theorem basicFlags_read {basic : MkaBasic} (fits : basic.macsecCapability.toNat < 4) :
    (basicFlags basic &&& 0x80 != 0) = basic.keyServer ∧
      (basicFlags basic &&& 0x40 != 0) = basic.macsecDesired ∧
      (basicFlags basic >>> 4) &&& 0x03 = basic.macsecCapability ∧
      (basicFlags basic &&& 0x0f).toNat = (28 + basic.ckn.length) / 256 % 16 := by
  have read : ∀ (keyServer desired : Bool) (capability : Fin 4) (high : Fin 16),
      let flags := bitAt keyServer 7 ||| bitAt desired 6 |||
        ((UInt8.ofNat capability.val &&& 0x03) <<< 4) ||| UInt8.ofNat high.val
      (flags &&& 0x80 != 0) = keyServer ∧ (flags &&& 0x40 != 0) = desired ∧
        (flags >>> 4) &&& 0x03 = UInt8.ofNat capability.val ∧ (flags &&& 0x0f).toNat = high.val := by
    decide +kernel
  obtain ⟨capability, small⟩ := exists_fin_octet fits
  have high : (28 + basic.ckn.length) / 256 % 16 < 16 := Nat.mod_lt _ (by decide)
  rw [basicFlags, lengthHigh_eq, small]
  exact read basic.keyServer basic.macsecDesired capability ⟨_, high⟩

theorem length_lengthHigh {n : Nat} (fits : n < 4096) :
    ParameterSets.length (lengthHigh n) (UInt8.ofNat n) = n := by
  have mask : ∀ k : Fin 16, (UInt8.ofNat k.val &&& 0x0f).toNat = k.val := by decide +kernel
  have high : n / 256 % 16 < 16 := Nat.mod_lt _ (by decide)
  rw [ParameterSets.length, lengthHigh_eq, mask ⟨_, high⟩, UInt8.toNat_ofNat']
  simp only
  omega

end MkaPdu

namespace ParameterSets

open MkaPdu

variable {sets : ParameterSets}

theorem parse_set {bound : Nat} {type octet2 octet3 octet4 : UInt8}
    {data padding rest : Octets} (size : length octet3 octet4 = data.length)
    (aligned : (data ++ padding).length = align4 data.length) :
    parse (bound + 1) sets ([type, octet2, octet3, octet4] ++ (data ++ padding ++ rest)) =
      (sets.read type octet2 octet3 data).bind fun sets => parse bound sets rest := by
  have fits : ¬(data ++ padding ++ rest).length < data.length := by
    simp only [List.length_append]
    omega
  simp only [List.cons_append, List.nil_append, parse, size, if_neg fits]
  rw [List.drop_left' aligned, List.append_assoc, List.take_left' rfl]
  rfl

theorem parse_nil (bound : Nat) (sets : ParameterSets) : parse bound sets [] = .ok sets := by
  cases bound <;> rfl

theorem flatMap_peers_length (peers : List PeerId) :
    (peers.flatMap fun peer => peer.mi.val ++ be32 peer.mn).length = peers.length * 16 := by
  induction peers with
  | nil => rfl
  | cons peer peers ih =>
    rw [List.flatMap_cons, List.length_append, ih, List.length_append, peer.mi.property, be32_length,
      List.length_cons]
    omega

theorem readPeers_flatMap (peers : List PeerId) :
    readPeers (peers.flatMap fun peer => peer.mi.val ++ be32 peer.mn) peers.length = peers := by
  induction peers with
  | nil => rfl
  | cons peer peers ih =>
    have width : (peer.mi.val ++ be32 peer.mn).length = 16 := by
      rw [List.length_append, peer.mi.property, be32_length]
    have enough : ¬((peer.mi.val ++ be32 peer.mn) ++
        peers.flatMap fun peer => peer.mi.val ++ be32 peer.mn).length < 16 := by
      rw [List.length_append]
      omega
    rw [List.flatMap_cons, List.length_cons, readPeers, if_neg enough, List.drop_left' width, ih,
      List.append_assoc, readBlock_append, readU32_of_drop (List.drop_left' peer.mi.property)]

/-- A peer list is read as it was written; an empty one is not written and not read. -/
theorem parse_buildPeers (bound : Nat) (sets : ParameterSets) (type : UInt8) {peers : List PeerId}
    (rest : Octets) (fits : peers.length < 256)
    (take : ParameterSets → List PeerId → ParameterSets) (none : take sets [] = sets)
    (read : ∀ octet2 octet3 data, data.length % 16 = 0 → sets.read type octet2 octet3 data =
      .ok (take sets (readPeers data (data.length / 16)))) :
    ∃ left, bound ≤ left ∧ parse (bound + 1) sets (buildPeers type peers ++ rest) =
      parse left (take sets peers) rest := by
  cases peers with
  | nil => exact ⟨bound + 1, Nat.le_succ bound, by rw [none]; rfl⟩
  | cons peer peers =>
    have size := flatMap_peers_length (peer :: peers)
    have small : (peer :: peers).length * 16 < 4096 := by omega
    have whole : ((peer :: peers).flatMap fun peer => peer.mi.val ++ be32 peer.mn).length % 16 = 0 := by
      omega
    refine ⟨bound, le_rfl, ?_⟩
    have written : buildPeers type (peer :: peers) ++ rest =
        [type, 0, lengthHigh ((peer :: peers).length * 16), UInt8.ofNat ((peer :: peers).length * 16)] ++
          (((peer :: peers).flatMap fun peer => peer.mi.val ++ be32 peer.mn) ++ [] ++ rest) := by
      simp [buildPeers]
    rw [written, parse_set, read _ _ _ whole, size, Nat.mul_div_cancel _ (by decide), readPeers_flatMap]
    · rfl
    · rw [length_lengthHigh small, size]
    · rw [List.append_nil, align4_of_mod (by omega)]

theorem sakUseFlags_read {use : SakUse} (latest : use.latestAn.toNat < 4) (old : use.oldAn.toNat < 4) :
    (sakUseFlags use >>> 6) &&& 0x03 = use.latestAn ∧ (sakUseFlags use &&& 0x20 != 0) = use.latestTx ∧
      (sakUseFlags use &&& 0x10 != 0) = use.latestRx ∧ (sakUseFlags use >>> 2) &&& 0x03 = use.oldAn ∧
      (sakUseFlags use &&& 0x02 != 0) = use.oldTx ∧ (sakUseFlags use &&& 0x01 != 0) = use.oldRx := by
  have read : ∀ (first second : Fin 4) (latestTx latestRx oldTx oldRx : Bool),
      let flags := ((UInt8.ofNat first.val &&& 0x03) <<< 6) ||| bitAt latestTx 5 |||
        bitAt latestRx 4 ||| ((UInt8.ofNat second.val &&& 0x03) <<< 2) ||| bitAt oldTx 1 ||| bitAt oldRx 0
      (flags >>> 6) &&& 0x03 = UInt8.ofNat first.val ∧ (flags &&& 0x20 != 0) = latestTx ∧
        (flags &&& 0x10 != 0) = latestRx ∧ (flags >>> 2) &&& 0x03 = UInt8.ofNat second.val ∧
        (flags &&& 0x02 != 0) = oldTx ∧ (flags &&& 0x01 != 0) = oldRx := by decide +kernel
  obtain ⟨first, latestAn⟩ := exists_fin_octet latest
  obtain ⟨second, oldAn⟩ := exists_fin_octet old
  rw [sakUseFlags, latestAn, oldAn]
  exact read first second use.latestTx use.latestRx use.oldTx use.oldRx

theorem sakUsePlain_read (use : SakUse) :
    (sakUsePlain use &&& 0x80 != 0) = use.plainTx ∧ (sakUsePlain use &&& 0x40 != 0) = use.plainRx ∧
      (sakUsePlain use &&& 0x10 != 0) = use.delayProtect ∧ length (sakUsePlain use) 40 = 40 := by
  have read : ∀ plainTx plainRx delayProtect : Bool,
      let octet := bitAt plainTx 7 ||| bitAt plainRx 6 ||| bitAt delayProtect 4
      (octet &&& 0x80 != 0) = plainTx ∧ (octet &&& 0x40 != 0) = plainRx ∧
        (octet &&& 0x10 != 0) = delayProtect ∧ length octet 40 = 40 := by decide +kernel
  exact read use.plainTx use.plainRx use.delayProtect

theorem sakUseData_length (use : SakUse) : (sakUseData use).length = 40 := by
  simp only [sakUseData, List.length_append, use.latestKi.mi.property, use.oldKi.mi.property,
    be32_length]

/-- The fields of a SAK Use set, each behind the ones before it. -/
theorem readSakUse_sakUseData {use : SakUse} (latest : use.latestAn.toNat < 4) (old : use.oldAn.toNat < 4) :
    readSakUse (sakUseFlags use) (sakUsePlain use) (sakUseData use) = use := by
  obtain ⟨latestAn, latestTx, latestRx, oldAn, oldTx, oldRx⟩ := sakUseFlags_read latest old
  obtain ⟨plainTx, plainRx, delayProtect, -⟩ := sakUsePlain_read use
  have fields : (sakUseData use).drop 0 = use.latestKi.mi.val ++ (be32 use.latestKi.kn ++ (be32 use.latestLlpn ++
      (use.oldKi.mi.val ++ (be32 use.oldKi.kn ++ (be32 use.oldLlpn ++ []))))) := by simp [sakUseData]
  have drop12 : (sakUseData use).drop 12 = _ := drop_next fields use.latestKi.mi.property
  have drop16 : (sakUseData use).drop 16 = _ := drop_next drop12 (be32_length _)
  have drop20 : (sakUseData use).drop 20 = _ := drop_next drop16 (be32_length _)
  have drop32 : (sakUseData use).drop 32 = _ := drop_next drop20 use.oldKi.mi.property
  have drop36 : (sakUseData use).drop 36 = _ := drop_next drop32 (be32_length _)
  have mi : readBlock 12 (sakUseData use) = use.latestKi.mi := by
    rw [show sakUseData use = _ from fields, readBlock_append]
  simp only [readSakUse, latestAn, latestTx, latestRx, oldAn, oldTx, oldRx, plainTx, plainRx, delayProtect, mi,
    readU32_of_drop drop12, readU32_of_drop drop16, drop20, readBlock_append, readU32_of_drop drop32,
    readU32_of_drop drop36]

/-- A SAK Use set is read as it was written. -/
theorem parse_buildSakUse {bound : Nat} {use : SakUse} {rest : Octets}
    (latest : use.latestAn.toNat < 4) (old : use.oldAn.toNat < 4) :
    parse (bound + 1) sets (buildSakUse use ++ rest) =
      parse bound { sets with sakUse := some use } rest := by
  have width := sakUseData_length use
  have written : buildSakUse use ++ rest =
      [3, sakUseFlags use, sakUsePlain use, 40] ++ (sakUseData use ++ [] ++ rest) := by
    rw [buildSakUse, List.append_nil, List.append_assoc]
  have taken : sets.read 3 (sakUseFlags use) (sakUsePlain use) (sakUseData use) =
      .ok { sets with sakUse := some use } := by
    simp [read, width, readSakUse_sakUseData latest old]
  rw [written, parse_set, taken]
  · rfl
  · rw [width]
    exact (sakUsePlain_read use).2.2.2
  · rw [List.append_nil, width]
    rfl

theorem distSakFlags_read {dist : DistSak} (an : dist.an.toNat < 4) (offset : dist.confidentialityOffset.toNat < 4) :
    (distSakFlags dist >>> 6) &&& 0x03 = dist.an ∧
      (distSakFlags dist >>> 4) &&& 0x03 = dist.confidentialityOffset := by
  have read : ∀ an offset : Fin 4,
      let flags := ((UInt8.ofNat an.val &&& 0x03) <<< 6) ||| ((UInt8.ofNat offset.val &&& 0x03) <<< 4)
      (flags >>> 6) &&& 0x03 = UInt8.ofNat an.val ∧ (flags >>> 4) &&& 0x03 = UInt8.ofNat offset.val := by
    decide +kernel
  obtain ⟨first, anSmall⟩ := exists_fin_octet an
  obtain ⟨second, offsetSmall⟩ := exists_fin_octet offset
  rw [distSakFlags, anSmall, offsetSmall]
  exact read first second

def reread (dist : DistSak) : DistSak :=
  readDistSak (distSakFlags dist) (be32 dist.kn ++ dist.wrappedSak)

/-- A Distributed SAK set is read as it was written just when it has no cipher suite and is too short to
be taken for one with a cipher suite. -/
theorem reread_eq_iff {dist : DistSak} (an : dist.an.toNat < 4) (offset : dist.confidentialityOffset.toNat < 4) :
    reread dist = dist ↔ dist.cipherSuite = none ∧ dist.wrappedSak.length < 32 := by
  obtain ⟨anRead, offsetRead⟩ := distSakFlags_read an offset
  have width : (be32 dist.kn ++ dist.wrappedSak).length = 4 + dist.wrappedSak.length := by
    rw [List.length_append, be32_length]
  constructor
  · intro same
    by_cases long : 36 ≤ 4 + dist.wrappedSak.length
    · -- eight octets of the wrapped key were taken for a cipher suite
      have lost : (reread dist).wrappedSak.length = 4 + dist.wrappedSak.length - 12 := by
        simp only [reread, readDistSak, width, if_pos long, Option.isSome_some, if_true, List.length_drop]
      rw [same] at lost
      omega
    · refine ⟨?_, by omega⟩
      have suite : (reread dist).cipherSuite = none := by
        simp only [reread, readDistSak, width, if_neg long]
      rwa [same] at suite
  · rintro ⟨plain, short⟩
    have none : ¬36 ≤ 4 + dist.wrappedSak.length := by omega
    have kn : readU32 (be32 dist.kn ++ dist.wrappedSak) 0 = dist.kn := readU32_of_drop rfl
    simp only [reread, readDistSak, width, if_neg none, anRead, offsetRead, kn, Option.isSome_none,
      Bool.false_eq_true, if_false, Nat.le_add_right, if_true, List.drop_left' (be32_length dist.kn)]
    rw [← plain]

theorem parse_buildDistSak {bound : Nat} {dist : DistSak} {rest : Octets}
    (fits : 4 + dist.wrappedSak.length < 4096) :
    parse (bound + 1) sets (buildDistSak dist ++ rest) =
      parse bound { sets with distSak := some (reread dist) } rest := by
  have width : (be32 dist.kn ++ dist.wrappedSak).length = 4 + dist.wrappedSak.length := by
    rw [List.length_append, be32_length]
  have bounds := le_align4 (4 + (4 + dist.wrappedSak.length))
  have shift : align4 (4 + (4 + dist.wrappedSak.length)) = 4 + align4 (4 + dist.wrappedSak.length) := by
    unfold align4
    omega
  let padding := List.replicate (align4 (4 + (4 + dist.wrappedSak.length)) -
    (4 + (4 + dist.wrappedSak.length))) (0 : UInt8)
  have written : buildDistSak dist ++ rest = [4, distSakFlags dist,
      lengthHigh (4 + dist.wrappedSak.length), UInt8.ofNat (4 + dist.wrappedSak.length)] ++
        ((be32 dist.kn ++ dist.wrappedSak) ++ padding ++ rest) := by
    have size : ([4, distSakFlags dist, lengthHigh (4 + dist.wrappedSak.length),
        UInt8.ofNat (4 + dist.wrappedSak.length)] ++ (be32 dist.kn ++ dist.wrappedSak)).length =
        4 + (4 + dist.wrappedSak.length) := by
      rw [List.length_append, width]
      rfl
    simp only [buildDistSak, padded, size, padding, List.append_assoc]
  rw [written, parse_set]
  · rfl
  · rw [length_lengthHigh fits, width]
  · simp only [padding, List.length_append, List.length_replicate, be32_length]
    omega

end ParameterSets

namespace MkaPdu

/-- The fields are within their bit widths, the variable parts fit their length fields, and a
Distributed SAK has the default cipher suite and a short key. -/
structure Encodable (pdu : MkaPdu) : Prop where
  capability : pdu.basic.macsecCapability.toNat < 4
  ckn : 28 + pdu.basic.ckn.length < 4096
  livePeers : pdu.livePeers.length < 256
  potentialPeers : pdu.potentialPeers.length < 256
  sakUse : ∀ use ∈ pdu.sakUse, use.latestAn.toNat < 4 ∧ use.oldAn.toNat < 4
  distSak : ∀ dist ∈ pdu.distSak, dist.an.toNat < 4 ∧ dist.confidentialityOffset.toNat < 4 ∧
    dist.cipherSuite = none ∧ dist.wrappedSak.length < 32

/-- The fields are within their bit widths and the variable parts fit their length fields. -/
structure Fits (pdu : MkaPdu) : Prop where
  capability : pdu.basic.macsecCapability.toNat < 4
  ckn : 28 + pdu.basic.ckn.length < 4096
  livePeers : pdu.livePeers.length < 256
  potentialPeers : pdu.potentialPeers.length < 256
  sakUse : ∀ use ∈ pdu.sakUse, use.latestAn.toNat < 4 ∧ use.oldAn.toNat < 4
  distSak : ∀ dist ∈ pdu.distSak, dist.an.toNat < 4 ∧ dist.confidentialityOffset.toNat < 4 ∧
    4 + dist.wrappedSak.length < 4096

def DefaultSuite (pdu : MkaPdu) : Prop :=
  ∀ dist ∈ pdu.distSak, dist.cipherSuite = none ∧ dist.wrappedSak.length < 32

instance (pdu : MkaPdu) : Decidable pdu.DefaultSuite := inferInstanceAs (Decidable (∀ dist ∈ _, _))

def reread (pdu : MkaPdu) : MkaPdu := { pdu with distSak := pdu.distSak.map ParameterSets.reread }

variable {pdu : MkaPdu}

theorem Encodable.fits (encodable : Encodable pdu) : Fits pdu where
  capability := encodable.capability
  ckn := encodable.ckn
  livePeers := encodable.livePeers
  potentialPeers := encodable.potentialPeers
  sakUse := encodable.sakUse
  distSak dist distributed := by
    obtain ⟨an, offset, -, short⟩ := encodable.distSak dist distributed
    exact ⟨an, offset, by omega⟩

theorem Encodable.defaultSuite (encodable : Encodable pdu) : pdu.DefaultSuite :=
  fun dist distributed => (encodable.distSak dist distributed).2.2

theorem reread_eq_self_iff (fits : Fits pdu) : pdu.reread = pdu ↔ pdu.DefaultSuite := by
  have field : pdu.reread = pdu ↔ pdu.distSak.map ParameterSets.reread = pdu.distSak :=
    ⟨congrArg MkaPdu.distSak, fun same => by rw [reread, same]⟩
  rw [field, DefaultSuite]
  rcases distributed : pdu.distSak with _ | dist
  · simp
  · obtain ⟨an, offset, -⟩ := fits.distSak dist distributed
    simp [ParameterSets.reread_eq_iff an offset]

def buildSets (pdu : MkaPdu) : Octets :=
  buildPeers 1 pdu.livePeers ++ (buildPeers 2 pdu.potentialPeers ++
    ((pdu.sakUse.map buildSakUse).getD [] ++ (pdu.distSak.map buildDistSak).getD []))

theorem parse_buildSets (fits : Fits pdu) (bound : Nat) :
    ParameterSets.parse (bound + 4) .empty pdu.buildSets =
      .ok ⟨pdu.livePeers, pdu.potentialPeers, pdu.sakUse, pdu.reread.distSak⟩ := by
  obtain ⟨first, enough, live⟩ := ParameterSets.parse_buildPeers (bound + 3) .empty 1
    (buildPeers 2 pdu.potentialPeers ++
      ((pdu.sakUse.map buildSakUse).getD [] ++ (pdu.distSak.map buildDistSak).getD []))
    fits.livePeers (fun sets peers => { sets with livePeers := peers }) rfl (by
      intro octet2 octet3 data whole
      simp [ParameterSets.read, whole])
  obtain ⟨second, left, potential⟩ := ParameterSets.parse_buildPeers (first - 1)
    { ParameterSets.empty with livePeers := pdu.livePeers } 2
    ((pdu.sakUse.map buildSakUse).getD [] ++ (pdu.distSak.map buildDistSak).getD [])
    fits.potentialPeers (fun sets peers => { sets with potentialPeers := peers }) rfl (by
      intro octet2 octet3 data whole
      simp [ParameterSets.read, whole])
  rw [Nat.sub_add_cancel (by omega)] at potential
  rw [buildSets, live, potential]
  obtain ⟨third, rfl⟩ : ∃ third, second = third + 2 := ⟨second - 2, by omega⟩
  simp only [reread]
  rcases used : pdu.sakUse with _ | use <;> rcases distributed : pdu.distSak with _ | dist
  · exact ParameterSets.parse_nil _ _
  · obtain ⟨-, -, short⟩ := fits.distSak dist distributed
    change ParameterSets.parse _ _ (buildDistSak dist) = _
    rw [← List.append_nil (buildDistSak dist), ParameterSets.parse_buildDistSak short]
    exact ParameterSets.parse_nil _ _
  · obtain ⟨latest, old⟩ := fits.sakUse use used
    change ParameterSets.parse _ _ (buildSakUse use ++ []) = _
    rw [ParameterSets.parse_buildSakUse latest old]
    exact ParameterSets.parse_nil _ _
  · obtain ⟨latest, old⟩ := fits.sakUse use used
    obtain ⟨-, -, short⟩ := fits.distSak dist distributed
    change ParameterSets.parse _ _ (buildSakUse use ++ buildDistSak dist) = _
    rw [ParameterSets.parse_buildSakUse latest old, ← List.append_nil (buildDistSak dist),
      ParameterSets.parse_buildDistSak short]
    exact ParameterSets.parse_nil _ _

theorem buildBasic_length (basic : MkaBasic) :
    (buildBasic basic).length = 4 + align4 (28 + basic.ckn.length) := by
  rw [buildBasic, padded_length]
  simp only [List.length_append, List.length_cons, List.length_nil, basic.sci.property,
    basic.mi.property, be32_length, basic.algoAgility.property, align4]
  omega

/-- The fields of the basic set, each behind the ones before it. -/
theorem parseBody_buildBody (fits : Fits pdu) : parseBody pdu.buildBody = .ok pdu.reread := by
  obtain ⟨keyServer, desired, capability, high⟩ := basicFlags_read fits.capability
  have sci := pdu.basic.sci.property
  have mi := pdu.basic.mi.property
  have algo := pdu.basic.algoAgility.property
  have ckn := fits.ckn
  let padding := List.replicate (align4 (32 + pdu.basic.ckn.length) - (32 + pdu.basic.ckn.length))
    (0 : UInt8)
  let behind := pdu.basic.ckn ++ (padding ++ pdu.buildSets)
  have body : pdu.buildBody = pdu.basic.version :: pdu.basic.priority :: basicFlags pdu.basic ::
      UInt8.ofNat (28 + pdu.basic.ckn.length) :: (pdu.basic.sci.val ++ (pdu.basic.mi.val ++
        (be32 pdu.basic.mn ++ (pdu.basic.algoAgility.val ++ behind)))) := by
    have size : ([pdu.basic.version, pdu.basic.priority, basicFlags pdu.basic,
        UInt8.ofNat (28 + pdu.basic.ckn.length)] ++ pdu.basic.sci.val ++ pdu.basic.mi.val ++
        be32 pdu.basic.mn ++ pdu.basic.algoAgility.val ++ pdu.basic.ckn).length =
        32 + pdu.basic.ckn.length := by
      simp only [List.length_append, List.length_cons, List.length_nil, sci, mi, algo, be32_length]
    simp only [buildBody, buildBasic, padded]
    rw [size]
    simp only [behind, padding, buildSets, List.append_assoc, List.cons_append, List.nil_append]
  have whole : pdu.buildBody = buildBasic pdu.basic ++ pdu.buildSets := by
    simp only [buildBody, buildSets, List.append_assoc]
  have length : pdu.buildBody.length = 4 + align4 (28 + pdu.basic.ckn.length) + pdu.buildSets.length := by
    rw [whole, List.length_append, buildBasic_length]
  have bounds := le_align4 (28 + pdu.basic.ckn.length)
  have sets : pdu.buildBody.drop (4 + align4 (28 + pdu.basic.ckn.length)) = pdu.buildSets := by
    rw [whole, List.drop_left' (buildBasic_length _)]
  have basicLen : ParameterSets.length (basicFlags pdu.basic)
      (UInt8.ofNat (28 + pdu.basic.ckn.length)) = 28 + pdu.basic.ckn.length := by
    rw [ParameterSets.length, UInt8.toNat_ofNat']
    omega
  have drop4 : pdu.buildBody.drop 4 = pdu.basic.sci.val ++ (pdu.basic.mi.val ++
      (be32 pdu.basic.mn ++ (pdu.basic.algoAgility.val ++ behind))) := by rw [body]; rfl
  have drop12 : pdu.buildBody.drop 12 = pdu.basic.mi.val ++
      (be32 pdu.basic.mn ++ (pdu.basic.algoAgility.val ++ behind)) :=
    drop_next drop4 sci
  have drop24 : pdu.buildBody.drop 24 = be32 pdu.basic.mn ++
      (pdu.basic.algoAgility.val ++ behind) := drop_next drop12 mi
  have drop28 : pdu.buildBody.drop 28 = pdu.basic.algoAgility.val ++ behind :=
    drop_next drop24 (be32_length _)
  have drop32 : pdu.buildBody.drop 32 = behind := drop_next drop28 algo
  have name : (pdu.buildBody.take (4 + (28 + pdu.basic.ckn.length))).drop 32 = pdu.basic.ckn := by
    rw [List.drop_take, drop32, show 4 + (28 + pdu.basic.ckn.length) - 32 = pdu.basic.ckn.length by omega,
      List.take_left' rfl]
  have octets : pdu.buildBody.getD 0 0 = pdu.basic.version ∧ pdu.buildBody.getD 1 0 = pdu.basic.priority ∧
      pdu.buildBody.getD 2 0 = basicFlags pdu.basic ∧
      pdu.buildBody.getD 3 0 = UInt8.ofNat (28 + pdu.basic.ckn.length) := by
    exact ⟨rfl, rfl, rfl, rfl⟩
  have long : ¬pdu.buildBody.length < 32 := by omega
  have valid : ¬(28 + pdu.basic.ckn.length < 28 ∨
      pdu.buildBody.length < 4 + (28 + pdu.basic.ckn.length)) := by omega
  obtain ⟨bound, enough⟩ : ∃ bound, pdu.buildBody.length = bound + 4 := ⟨pdu.buildBody.length - 4, by omega⟩
  simp only [parseBody, if_neg long, octets.2.2.1, octets.2.2.2, basicLen,
    if_neg valid, keyServer, desired, capability, drop4, drop12, drop28, readBlock_append, readU32_of_drop drop24,
    name, sets]
  rw [enough, parse_buildSets fits]
  rfl

theorem buildPeers_aligned (type : UInt8) (peers : List PeerId) :
    (buildPeers type peers).length % 4 = 0 := by
  cases peers with
  | nil => rfl
  | cons peer peers =>
    have size := ParameterSets.flatMap_peers_length (peer :: peers)
    simp only [buildPeers, List.isEmpty_cons, Bool.false_eq_true, if_false, List.length_append,
      List.length_cons, List.length_nil]
    omega

/-- The body is a multiple of four octets long. -/
theorem buildBody_aligned (pdu : MkaPdu) : pdu.buildBody.length % 4 = 0 := by
  have basic := align4_mod (28 + pdu.basic.ckn.length)
  have live := buildPeers_aligned 1 pdu.livePeers
  have potential := buildPeers_aligned 2 pdu.potentialPeers
  have used : ((pdu.sakUse.map buildSakUse).getD []).length % 4 = 0 := by
    cases pdu.sakUse with
    | none => rfl
    | some use => simp [buildSakUse, ParameterSets.sakUseData_length]
  have distributed : ((pdu.distSak.map buildDistSak).getD []).length % 4 = 0 := by
    cases pdu.distSak with
    | none => rfl
    | some dist =>
      simp only [Option.map_some, Option.getD_some, buildDistSak, padded_length]
      exact align4_mod _
  simp only [buildBody, List.length_append, buildBasic_length]
  omega

theorem eapolHeader_length (bodyLen : Nat) : (eapolHeader bodyLen).length = 4 := by
  rfl

theorem eapolHeader_type (bodyLen : Nat) (rest : Octets) :
    (eapolHeader bodyLen ++ rest).getD 1 0 = eapolTypeMka := rfl

theorem eapolHeader_bodyLen {bodyLen : Nat} (fits : bodyLen < 2 ^ 16) (rest : Octets) :
    (ofBe16 (((eapolHeader bodyLen ++ rest).drop 2).take 2)).toNat = bodyLen := by
  change (ofBe16 ((be16 (UInt16.ofNat bodyLen) ++ rest).take 2)).toNat = bodyLen
  rw [List.take_left' (be16_length _), ofBe16_be16]
  exact Nat.mod_eq_of_lt fits

section Frame

variable [MkaCrypto] {da sa : MacAddr} {ick eapol : Octets}

theorem buildEapol_eq_ok (built : pdu.buildEapol da sa ick = .ok eapol) :
    ∃ icv, pdu.buildBody.length + 16 < 2 ^ 16 ∧
      computeIcv ick da sa (eapolHeader (pdu.buildBody.length + 16) ++ pdu.buildBody) = .ok icv ∧
      eapol = eapolHeader (pdu.buildBody.length + 16) ++ (pdu.buildBody ++ icv.val) := by
  unfold buildEapol at built
  by_cases fits : pdu.buildBody.length + icvLen < 2 ^ 16
  · rw [if_pos fits] at built
    obtain ⟨icv, computed, same⟩ := Except.bind_eq_ok.mp built
    refine ⟨icv, fits, computed, ?_⟩
    rw [← Except.ok.inj same]
    rfl
  · rw [if_neg fits] at built
    cases built

theorem verifyIcv_append {octets padding : Octets} {icv : Block 16}
    (computed : computeIcv ick da sa octets = .ok icv) :
    verifyIcv ick da sa octets (icv.val ++ padding) = true := by
  have same (tag : Octets) : (tag.zip (tag ++ padding)).all (fun pair => pair.1 ^^^ pair.2 == 0) = true := by
    induction tag with
    | nil => rfl
    | cons octet tag ih => simp [ih]
  rw [verifyIcv, computed]
  exact same icv.val

/-- What is read when a PDU was encoded, also with padding behind the frame. -/
theorem parse_encoded {padding : Octets} (fits : Fits pdu) (built : pdu.buildEapol da sa ick = .ok eapol) :
    parse (eapol ++ padding) da sa ick = .ok (some pdu.reread) := by
  obtain ⟨icv, room, computed, rfl⟩ := buildEapol_eq_ok built
  have aligned := buildBody_aligned pdu
  have head := eapolHeader_length (pdu.buildBody.length + 16)
  have front : (eapolHeader (pdu.buildBody.length + 16) ++ pdu.buildBody).length =
      4 + pdu.buildBody.length := by rw [List.length_append, head]
  have regroup : eapolHeader (pdu.buildBody.length + 16) ++ (pdu.buildBody ++ icv.val) ++ padding =
      eapolHeader (pdu.buildBody.length + 16) ++ pdu.buildBody ++ (icv.val ++ padding) := by
    simp only [List.append_assoc]
  have total : (eapolHeader (pdu.buildBody.length + 16) ++ (pdu.buildBody ++ icv.val) ++
      padding).length = 20 + pdu.buildBody.length + padding.length := by
    rw [regroup, List.length_append, front, List.length_append]
    omega
  have bodyLen := eapolHeader_bodyLen room (pdu.buildBody ++ icv.val ++ padding)
  have kind := eapolHeader_type (pdu.buildBody.length + 16) (pdu.buildBody ++ icv.val ++ padding)
  rw [← List.append_assoc] at bodyLen kind
  have size : 4 ≤ pdu.buildBody.length := by
    have basic := buildBasic_length pdu.basic
    simp only [buildBody, List.length_append]
    omega
  have complete : ¬(pdu.buildBody.length + 16 < icvLen + 4 ∨ (eapolHeader (pdu.buildBody.length + 16) ++
      (pdu.buildBody ++ icv.val) ++ padding).length < 4 + (pdu.buildBody.length + 16)) := by
    rw [icvLen]
    omega
  have whole : ¬(pdu.buildBody.length + 16) % 4 ≠ 0 := by omega
  have start : 4 + (pdu.buildBody.length + 16) - icvLen = 4 + pdu.buildBody.length := by
    rw [icvLen]
    omega
  unfold parse
  rw [bodyLen, if_neg complete, if_neg whole, start, regroup]
  dsimp only
  rw [List.take_left' front, List.drop_left' front, verifyIcv_append computed,
    List.drop_left' head, parseBody_buildBody fits]
  rfl

theorem parse_buildEapol {padding : Octets} (encodable : Encodable pdu)
    (built : pdu.buildEapol da sa ick = .ok eapol) :
    parse (eapol ++ padding) da sa ick = .ok (some pdu) := by
  rw [parse_encoded encodable.fits built, (reread_eq_self_iff encodable.fits).mpr encodable.defaultSuite]

/-- A PDU whose parts fit their fields is read as it was encoded, with any padding behind the frame, just
when its Distributed SAK has the default cipher suite and a short key. -/
theorem read_as_encoded_iff (pdu : MkaPdu) (fits : pdu.Fits) (da sa : MacAddr) (ick eapol padding : Octets)
    (built : pdu.buildEapol da sa ick = .ok eapol) :
    parse (eapol ++ padding) da sa ick = .ok (some pdu) ↔ pdu.DefaultSuite := by
  rw [parse_encoded fits built, ← reread_eq_self_iff fits]
  exact ⟨fun same => Option.some.inj (Except.ok.inj same), fun same => by rw [same]⟩

/-- A frame that was cut off is refused. -/
theorem parse_take {n : Nat} (built : pdu.buildEapol da sa ick = .ok eapol) (header : 4 ≤ n)
    (short : n < eapol.length) : ∃ e, parse (eapol.take n) da sa ick = .error e := by
  obtain ⟨icv, fits, -, rfl⟩ := buildEapol_eq_ok built
  have head := eapolHeader_length (pdu.buildBody.length + 16)
  have cut : (eapolHeader (pdu.buildBody.length + 16) ++ (pdu.buildBody ++ icv.val)).take n =
      eapolHeader (pdu.buildBody.length + 16) ++ (pdu.buildBody ++ icv.val).take (n - 4) := by
    rw [List.take_append, head, List.take_of_length_le (by omega)]
  have length : ((eapolHeader (pdu.buildBody.length + 16) ++ (pdu.buildBody ++ icv.val)).take n).length =
      n := by
    rw [List.length_take]
    omega
  have total : (eapolHeader (pdu.buildBody.length + 16) ++ (pdu.buildBody ++ icv.val)).length =
      20 + pdu.buildBody.length := by
    simp only [List.length_append]
    omega
  have mka : ¬(n < 4 ∨ eapolTypeMka ≠ eapolTypeMka) := by
    rintro (none | other)
    · omega
    · exact other rfl
  have truncated : pdu.buildBody.length + 16 < icvLen + 4 ∨ n < 4 + (pdu.buildBody.length + 16) := by
    omega
  refine ⟨Core.handshakeError "truncated EAPOL-MKA frame", ?_⟩
  unfold parse
  rw [length, cut, eapolHeader_type, eapolHeader_bodyLen fits, if_neg mka, if_pos truncated]

end Frame

section Sample

attribute [local instance] sampleMkaCrypto

def sampleDistributed (suite : Option (Block 8)) (width : Nat) : MkaPdu where
  basic := ⟨3, 1, true, true, 2, ⟨List.replicate 8 1, rfl⟩, ⟨List.replicate 12 1, rfl⟩, 7, algoAgility,
    List.replicate 13 0x22⟩
  livePeers := [⟨⟨List.replicate 12 2, rfl⟩, 5⟩]
  potentialPeers := []
  sakUse := some ⟨1, true, true, 0, false, false, false, false, false, ⟨⟨List.replicate 12 1, rfl⟩, 2⟩, 1,
    .default, 0⟩
  distSak := some ⟨2, 1, 3, suite, List.replicate width 0x5a⟩

def gcmAes256 : Block 8 := ⟨[0x00, 0x80, 0xc2, 0x00, 0x01, 0x00, 0x00, 0x02], rfl⟩

def sampleIck : Octets := List.replicate 16 0x44

def sampleFrame (pdu : MkaPdu) : Octets :=
  (pdu.buildEapol paeGroupAddr ⟨[2, 0, 0, 0, 0, 1], rfl⟩ sampleIck).toOption.getD []

theorem sampleDistributed_fits (suite : Option (Block 8)) {width : Nat} (short : width < 4092) :
    (sampleDistributed suite width).Fits where
  capability := by simp [sampleDistributed]
  ckn := by simp [sampleDistributed]
  livePeers := by simp [sampleDistributed]
  potentialPeers := by simp [sampleDistributed]
  sakUse use present := by
    obtain rfl := Option.some.inj present
    exact ⟨by decide +kernel, by decide +kernel⟩
  distSak dist present := by
    obtain rfl := Option.some.inj present
    refine ⟨(by decide +kernel : (2 : UInt8).toNat < 4), (by decide +kernel : (1 : UInt8).toNat < 4), ?_⟩
    rw [List.length_replicate]
    omega

theorem read_as_encoded_short :
    parse (sampleFrame (sampleDistributed none 24) ++ [0, 0]) ⟨[1, 0x80, 0xc2, 0, 0, 3], rfl⟩
      ⟨[2, 0, 0, 0, 0, 1], rfl⟩ sampleIck = .ok (some (sampleDistributed none 24)) :=
  (read_as_encoded_iff (sampleDistributed none 24) (sampleDistributed_fits none (by decide))
    ⟨[1, 0x80, 0xc2, 0, 0, 3], rfl⟩ ⟨[2, 0, 0, 0, 0, 1], rfl⟩ sampleIck
    (sampleFrame (sampleDistributed none 24)) [0, 0] (by decide +kernel)).mpr (by decide +kernel)

/-- A SAK for GCM-AES-256 is wrapped to 40 octets. Its cipher suite is not written, and eight octets of
the wrapped key are read as one. -/
theorem read_other_than_encoded :
    (sampleDistributed (some gcmAes256) 40).Fits ∧
      (sampleDistributed (some gcmAes256) 40).buildEapol ⟨[1, 0x80, 0xc2, 0, 0, 3], rfl⟩
        ⟨[2, 0, 0, 0, 0, 1], rfl⟩ sampleIck = .ok (sampleFrame (sampleDistributed (some gcmAes256) 40)) ∧
      parse (sampleFrame (sampleDistributed (some gcmAes256) 40)) ⟨[1, 0x80, 0xc2, 0, 0, 3], rfl⟩
        ⟨[2, 0, 0, 0, 0, 1], rfl⟩ sampleIck ≠ .ok (some (sampleDistributed (some gcmAes256) 40)) :=
  ⟨sampleDistributed_fits _ (by decide), by decide +kernel, by decide +kernel⟩

end Sample

end MkaPdu

end Shuli.Wired
