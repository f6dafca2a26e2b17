import Mathlib.Algebra.BigOperators.Group.Finset.Basic
import Shuli.Ipsec.ChildAgreement
import Shuli.Ipsec.RoundTrip

/-!
The selectors of a response on the wire. Narrowing lists every overlap of a requested and a configured
selector, so the list grows with the product of the two; a TS payload counts its selectors in one octet, and
the encoder writes the count modulo 256.
-/

namespace Shuli.Ipsec

def overlaps (requested configured : List TrafficSelector) : Finset TrafficSelector :=
  (requested.flatMap fun selector => configured.filterMap selector.intersection).toFinset

def TrafficSelector.wireLen (selector : TrafficSelector) : Nat := if selector.start.isIpv4 then 16 else 40

/-- A TS payload can carry the selectors: none mixes the address families, and all fit the length field. -/
def Sendable (selectors : Finset TrafficSelector) : Prop :=
  (∀ selector ∈ selectors, selector.start.isIpv4 = selector.stop.isIpv4) ∧
    8 + ∑ selector ∈ selectors, selector.wireLen ≤ 65535

def Payload.Encodes (payload : Payload) : Prop :=
  ∃ body, payload.encodeBody = .ok body ∧ 4 + body.length ≤ 65535

/-- What a peer reads from the TS payload of one side is the list that was to be sent. -/
def ReadBack (initiator : Bool) (selectors : List TrafficSelector) : Prop :=
  ∃ body payload, (tsPayload initiator selectors).encodeBody = .ok body ∧
    decodePayload (tsPayload initiator selectors).payloadType body PayloadType.NONE = .ok payload ∧
    tsOfSide initiator [payload] = selectors

/-- A response with `front` before its selectors, if it is encoded at all, carries the narrowed lists. -/
def SelectorsSurvive (front : List Payload) (localSide remoteSide : List TrafficSelector) : Prop :=
  ∀ chain, encodeChain (front ++ [tsPayload true remoteSide, tsPayload false localSide]) = .ok chain →
    ReadBack true remoteSide ∧ ReadBack false localSide

/-! Encoding -/

variable {payloads : List Payload}

theorem encodeChain_iff :
    (∃ chain, encodeChain payloads = .ok chain) ↔ ∀ payload ∈ payloads, payload.Encodes := by
  induction payloads with
  | nil => exact ⟨fun _ => by simp, fun _ => ⟨[], rfl⟩⟩
  | cons payload rest ih =>
    rw [List.forall_mem_cons, ← ih]
    constructor
    · rintro ⟨chain, written⟩
      obtain ⟨body, tail, bodyWritten, tailWritten, fits, _⟩ := encodeChain_cons.mp written
      exact ⟨⟨body, bodyWritten, fits⟩, tail, tailWritten⟩
    · rintro ⟨⟨body, bodyWritten, fits⟩, tail, tailWritten⟩
      exact ⟨_, encodeChain_cons.mpr ⟨body, tail, bodyWritten, tailWritten, fits, rfl⟩⟩

variable {selector : TrafficSelector}

theorem encodeTsSelector_tsWire (one : selector.start.isIpv4 = selector.stop.isIpv4) :
    ∃ octets, encodeTsSelector (tsWire selector) = .ok octets ∧ octets.length = selector.wireLen := by
  obtain ⟨start, stop, _, _, _⟩ := selector
  cases start with
  | v4 start =>
    cases stop with
    | v4 stop => exact ⟨_, rfl, by simp [IpAddr.octets, TrafficSelector.wireLen, IpAddr.isIpv4]⟩
    | v6 stop => cases one
  | v6 start =>
    cases stop with
    | v4 stop => cases one
    | v6 stop => exact ⟨_, rfl, by simp [IpAddr.octets, TrafficSelector.wireLen, IpAddr.isIpv4]⟩

theorem encodeTsSelector_mixed (mixed : selector.start.isIpv4 ≠ selector.stop.isIpv4) (octets : Octets) :
    encodeTsSelector (tsWire selector) ≠ .ok octets := by
  obtain ⟨start, stop, _, _, _⟩ := selector
  cases start <;> cases stop <;> first | exact absurd rfl mixed | exact nofun

theorem encodeTsSelectors_cons {selector : TsSelector} {rest : List TsSelector} {octets : Octets} :
    encodeTsSelectors (selector :: rest) = .ok octets ↔ ∃ head tail, encodeTsSelector selector = .ok head ∧
      encodeTsSelectors rest = .ok tail ∧ octets = head ++ tail := by
  simp only [encodeTsSelectors, Except.bind_eq_ok]
  constructor
  · rintro ⟨head, headWritten, tail, tailWritten, joined⟩
    cases joined
    exact ⟨head, tail, headWritten, tailWritten, rfl⟩
  · rintro ⟨head, tail, headWritten, tailWritten, rfl⟩
    exact ⟨head, headWritten, tail, tailWritten, rfl⟩

variable {selectors : List TrafficSelector}

/-- The octets of a selector list, and their number. -/
theorem encodeTsSelectors_tsWire {length : Nat} :
    (∃ octets, encodeTsSelectors (selectors.map tsWire) = .ok octets ∧ octets.length = length) ↔
      (∀ selector ∈ selectors, selector.start.isIpv4 = selector.stop.isIpv4) ∧
        (selectors.map TrafficSelector.wireLen).sum = length := by
  induction selectors generalizing length with
  | nil =>
    constructor
    · rintro ⟨octets, written, rfl⟩
      cases written
      simp
    · rintro ⟨_, rfl⟩
      exact ⟨[], rfl, rfl⟩
  | cons selector rest ih =>
    simp only [List.map_cons, encodeTsSelectors_cons, List.forall_mem_cons, List.sum_cons]
    constructor
    · rintro ⟨_, ⟨head, tail, headWritten, tailWritten, rfl⟩, rfl⟩
      obtain ⟨others, sum⟩ := ih.mp ⟨tail, tailWritten, rfl⟩
      have one : selector.start.isIpv4 = selector.stop.isIpv4 := by
        by_contra mixed
        exact encodeTsSelector_mixed mixed head headWritten
      obtain ⟨octets, written, size⟩ := encodeTsSelector_tsWire one
      rw [headWritten] at written
      cases written
      exact ⟨⟨one, others⟩, by rw [List.length_append, size, sum]⟩
    · rintro ⟨⟨one, others⟩, rfl⟩
      obtain ⟨head, headWritten, size⟩ := encodeTsSelector_tsWire one
      obtain ⟨tail, tailWritten, sum⟩ := ih.mpr ⟨others, rfl⟩
      exact ⟨head ++ tail, ⟨head, tail, headWritten, tailWritten, rfl⟩, by rw [List.length_append, size, sum]⟩

variable {initiator : Bool}

theorem tsPayload_encodeBody {body : Octets} :
    (tsPayload initiator selectors).encodeBody = .ok body ↔ ∃ octets,
      encodeTsSelectors (selectors.map tsWire) = .ok octets ∧
        body = [UInt8.ofNat selectors.length, 0, 0, 0] ++ octets := by
  simp only [tsPayload, Payload.encodeBody, Except.bind_eq_ok, List.length_map]
  constructor
  · rintro ⟨octets, written, joined⟩
    cases joined
    exact ⟨octets, written, rfl⟩
  · rintro ⟨octets, written, rfl⟩
    exact ⟨octets, written, rfl⟩

/-- A TS payload is encoded when it can carry its selectors. -/
theorem tsPayload_encodes (distinct : selectors.Nodup) :
    (tsPayload initiator selectors).Encodes ↔ Sendable selectors.toFinset := by
  have total : ∑ selector ∈ selectors.toFinset, selector.wireLen =
      (selectors.map TrafficSelector.wireLen).sum := List.sum_toFinset _ distinct
  simp only [Payload.Encodes, tsPayload_encodeBody, Sendable, List.mem_toFinset]
  constructor
  · rintro ⟨_, ⟨octets, written, rfl⟩, fits⟩
    obtain ⟨one, sum⟩ := encodeTsSelectors_tsWire.mp ⟨octets, written, rfl⟩
    simp only [List.length_append, List.length_cons] at fits
    exact ⟨one, by omega⟩
  · rintro ⟨one, fits⟩
    obtain ⟨octets, written, size⟩ := encodeTsSelectors_tsWire.mpr ⟨one, rfl⟩
    refine ⟨_, ⟨octets, written, rfl⟩, ?_⟩
    simp only [List.length_append, List.length_cons, List.length_nil]
    omega

/-! Decoding -/

theorem decodeTsSelectors_length {count : Nat} {data : Octets} {selectors : List TsSelector}
    (read : decodeTsSelectors count data = .ok selectors) : selectors.length = count := by
  induction count generalizing data selectors with
  | zero =>
    cases read
    rfl
  | succ count ih =>
    simp only [decodeTsSelectors, Except.guard_eq_ok, Except.bind_eq_ok] at read
    obtain ⟨_, _, _, _, rest, restRead, joined⟩ := read
    cases joined
    rw [List.length_cons, ih restRead]

theorem decodePayload_ts (initiator : Bool) (body : Octets) {payload : Payload} :
    decodePayload (tsPayload initiator selectors).payloadType body PayloadType.NONE = .ok payload ↔
      ∃ read, decodeTs body = .ok read ∧ payload = .ts initiator read := by
  cases initiator
  all_goals
    change (decodeTs body >>= fun read => pure _) = _ ↔ _
    rw [Except.bind_eq_ok]
    constructor
    · rintro ⟨read, done, same⟩
      cases same
      exact ⟨read, done, rfl⟩
    · rintro ⟨read, done, rfl⟩
      exact ⟨read, done, rfl⟩

theorem matched_tsWire (one : selector.start.isIpv4 = selector.stop.isIpv4) :
    (tsWire selector).Matched := by
  cases first : selector.start.isIpv4 with
  | true => exact .inl ⟨if_pos first, first, one ▸ first⟩
  | false => exact .inr ⟨if_neg (by simp [first]), first, one ▸ first⟩

theorem tsOfSide_ts (initiator : Bool) (read : List TsSelector) :
    tsOfSide initiator [.ts initiator read] = read.map tsFromWire := by
  simp [tsOfSide]

/-- The selectors that can be sent are read back when one octet counts them. -/
theorem readBack_iff (one : ∀ selector ∈ selectors, selector.start.isIpv4 = selector.stop.isIpv4) :
    ReadBack initiator selectors ↔ selectors.length ≤ 255 := by
  constructor
  · rintro ⟨body, payload, written, decoded, same⟩
    obtain ⟨octets, _, rfl⟩ := tsPayload_encodeBody.mp written
    obtain ⟨read, readTs, rfl⟩ := (decodePayload_ts ..).mp decoded
    have counted : read.length = (UInt8.ofNat selectors.length).toNat := by
      exact decodeTsSelectors_length readTs
    rw [← same, tsOfSide_ts, List.length_map, counted]
    exact Nat.le_of_lt_succ (UInt8.toNat_lt _)
  · intro few
    have matched : ∀ selector ∈ selectors.map tsWire, selector.Matched := by
      intro wire mem
      obtain ⟨selector, listed, rfl⟩ := List.mem_map.mp mem
      exact matched_tsWire (one selector listed)
    obtain ⟨octets, written, read⟩ := decodeTs_encode (by rwa [List.length_map]) matched
    rw [List.length_map] at read
    refine ⟨_, _, tsPayload_encodeBody.mpr ⟨octets, written, rfl⟩, (decodePayload_ts ..).mpr ⟨_, read, rfl⟩, ?_⟩
    rw [tsOfSide_ts, List.map_map]
    exact List.map_id _

/-! The narrowed lists -/

theorem mem_overlaps {requested configured : List TrafficSelector} {both : TrafficSelector} :
    both ∈ overlaps requested configured ↔ ∃ selector ∈ requested, ∃ allowed ∈ configured,
      selector.intersection allowed = some both := by
  simp [overlaps]

theorem narrow_overlaps {requested configured selected : List TrafficSelector}
    (narrowed : narrow requested configured = .ok selected) :
    selected.Nodup ∧ selected.toFinset = overlaps requested configured := by
  refine ⟨(narrow_eq_ok.mp narrowed).1 ▸ nodup_foldl_narrow List.nodup_nil, Finset.ext fun both => ?_⟩
  rw [List.mem_toFinset, mem_overlaps, mem_narrow narrowed]

section Answers

variable [Crypto] [Core.Tls]

def CarriesInstalled (peer : PeerConfig) (payloads : List Payload) (answer : ChildAnswer) : Prop :=
  narrowRequestSelectors peer.selectors payloads =
      .ok (answer.handle.localSelectors, answer.handle.remoteSelectors) ∧
    ∃ front, answer.response =
      front ++ [tsPayload true answer.handle.remoteSelectors, tsPayload false answer.handle.localSelectors]

theorem answerAuth_carries {self : Runner} {env : Env} {peer : PeerConfig} {ike : IkeRuntime}
    {answer : ChildAnswer} {signed auth : Octets}
    (answered : answerAuth self env peer ike payloads = .ok (answer, signed, auth)) :
    CarriesInstalled peer payloads answer := by
  obtain ⟨_, _, _, _, _, _, _, front, _, _, _, narrowed, _, rfl⟩ := answerAuth_eq_ok answered
  exact ⟨narrowed, front ++ [_], by rw [List.append_assoc]; rfl⟩

theorem answerCreateChild_carries {self : Runner} {env : Env} {ike : IkeRuntime}
    {answer : ChildAnswer} (answered : answerCreateChild self env ike payloads = .ok answer) :
    ∃ peer, self.peer? = some peer ∧ CarriesInstalled peer payloads answer := by
  obtain ⟨_, suite, number, _, localSpi, _, nonceR, peer, _, _, ke, _, _, _, _, _, _, _, configured, narrowed, _,
      rfl⟩ :=
    answerCreateChild_eq_ok.mp answered
  refine ⟨peer, configured, narrowed, [.sa [espOffer number localSpi suite]] ++ ke ++ [.nonce nonceR.val], ?_⟩
  simp [rekeyResponse, IkeRuntime.childKeys, deriveChildKeys]

end Answers

/-- What is narrowed reaches the peer whole just when, for a response that can be encoded at all, each side
has at most 255 distinct overlaps. -/
theorem selectors_survive_iff {configured : TrafficSelectorPair} {payloads : List Payload}
    {localSide remoteSide : List TrafficSelector} (front : List Payload)
    (narrowed : narrowRequestSelectors configured payloads = .ok (localSide, remoteSide)) :
    SelectorsSurvive front localSide remoteSide ↔
      ((∀ payload ∈ front, payload.Encodes) →
        Sendable (overlaps (tsOfSide false payloads) configured.localSide) →
        Sendable (overlaps (tsOfSide true payloads) configured.remoteSide) →
        (overlaps (tsOfSide false payloads) configured.localSide).card ≤ 255 ∧
          (overlaps (tsOfSide true payloads) configured.remoteSide).card ≤ 255) := by
  obtain ⟨peerLocal, peerRemote, read, first, second⟩ := narrowRequestSelectors_eq_ok.mp narrowed
  obtain ⟨rfl, rfl, _⟩ := tsFromPayloads_eq_ok.mp read
  obtain ⟨distinct, same⟩ := narrow_overlaps first
  obtain ⟨distinct', same'⟩ := narrow_overlaps second
  have encoded : (∃ chain, encodeChain (front ++ [tsPayload true remoteSide, tsPayload false localSide]) =
      .ok chain) ↔ (∀ payload ∈ front, payload.Encodes) ∧ Sendable localSide.toFinset ∧
        Sendable remoteSide.toFinset := by
    rw [encodeChain_iff, List.forall_mem_append, List.forall_mem_cons, List.forall_mem_singleton,
      tsPayload_encodes distinct, tsPayload_encodes distinct']
    tauto
  have survive : SelectorsSurvive front localSide remoteSide ↔
      ((∃ chain, encodeChain (front ++ [tsPayload true remoteSide, tsPayload false localSide]) = .ok chain) →
        ReadBack true remoteSide ∧ ReadBack false localSide) :=
    ⟨fun kept ⟨chain, written⟩ => kept chain written, fun kept chain written => kept ⟨chain, written⟩⟩
  rw [survive, encoded, ← same, ← same', List.toFinset_card_of_nodup distinct,
    List.toFinset_card_of_nodup distinct']
  refine ⟨fun kept fronts near far => ?_, fun few ⟨fronts, near, far⟩ => ?_⟩
  all_goals
    have back : ReadBack false localSide ↔ localSide.length ≤ 255 :=
      readBack_iff fun selector listed => near.1 selector (List.mem_toFinset.mpr listed)
    have back' : ReadBack true remoteSide ↔ remoteSide.length ≤ 255 :=
      readBack_iff fun selector listed => far.1 selector (List.mem_toFinset.mpr listed)
  · obtain ⟨whole', whole⟩ := kept ⟨fronts, near, far⟩
    exact ⟨back.mp whole, back'.mp whole'⟩
  · obtain ⟨whole, whole'⟩ := few fronts near far
    exact ⟨back'.mpr whole', back.mpr whole⟩

def anySelector : TrafficSelector := ⟨.v4 0, .v4 0xffffffff, 0, 0, 65535⟩

def hostSelectors (count : Nat) : List TrafficSelector :=
  (List.range count).map fun host => ⟨.v4 (UInt32.ofNat host), .v4 (UInt32.ofNat host), 0, 0, 65535⟩

def portSelectors (count : Nat) : List TrafficSelector :=
  (List.range count).map fun port => ⟨.v4 0, .v4 0xffffffff, 0, UInt16.ofNat port, UInt16.ofNat port⟩

def hostPair (count : Nat) : TrafficSelectorPair := ⟨hostSelectors count, [anySelector]⟩

def portRequest (count : Nat) : List Payload := [tsPayload true [anySelector], tsPayload false (portSelectors count)]

def portsOnHosts : List TrafficSelector :=
  (portSelectors 16).flatMap fun selector => (hostSelectors 16).filterMap selector.intersection

theorem portsOnHosts_nodup : portsOnHosts.Nodup := by
  -- they are listed in the order of port and host
  let place (selector : TrafficSelector) : Nat := selector.startPort.toNat * 2 ^ 32 + selector.start.rank
  have ordered : (portsOnHosts.map place).IsChain (· < ·) := by decide +kernel
  have distinct : (portsOnHosts.map place).Nodup :=
    (List.isChain_iff_pairwise.mp ordered).imp fun less => Nat.ne_of_lt less
  exact List.Nodup.of_map place distinct

theorem sendable_portsOnHosts : Sendable portsOnHosts.toFinset := by
  refine ⟨fun selector listed => ?_, ?_⟩
  · have all : ∀ selector ∈ portsOnHosts, selector.start.isIpv4 = selector.stop.isIpv4 := by decide +kernel
    exact all selector (List.mem_toFinset.mp listed)
  · rw [List.sum_toFinset _ portsOnHosts_nodup]
    decide +kernel

/-- Sixteen ports asked for on sixteen hosts are 256 selectors, which the response counts as none. -/
theorem selectors_lost :
    ∃ localSide remoteSide chain,
      narrowRequestSelectors (hostPair 16) (portRequest 16) = .ok (localSide, remoteSide) ∧
      localSide.length = 256 ∧ encodeChain [tsPayload true remoteSide, tsPayload false localSide] = .ok chain ∧
      (∃ body, (tsPayload false localSide).encodeBody = .ok body ∧ decodeTs body = .ok []) ∧
      ¬SelectorsSurvive [] localSide remoteSide := by
  obtain ⟨localSide, narrowed⟩ : ∃ localSide, narrow (portSelectors 16) (hostSelectors 16) = .ok localSide :=
    narrow_eq_ok_of_overlap (List.mem_map.mpr ⟨0, by decide, rfl⟩) (List.mem_map.mpr ⟨0, by decide, rfl⟩) rfl
  obtain ⟨distinct, same⟩ := narrow_overlaps narrowed
  have sendable : Sendable localSide.toFinset := same ▸ sendable_portsOnHosts
  have one : ∀ selector ∈ localSide, selector.start.isIpv4 = selector.stop.isIpv4 :=
    fun selector listed => sendable.1 selector (List.mem_toFinset.mpr listed)
  have count : localSide.length = 256 := by
    have all : portsOnHosts.length = 256 := by decide +kernel
    rw [← List.toFinset_card_of_nodup distinct, same, ← all]
    exact List.toFinset_card_of_nodup portsOnHosts_nodup
  have encodes : (tsPayload true [anySelector]).Encodes := ⟨_, rfl, by decide⟩
  obtain ⟨chain, encoded⟩ : ∃ chain, encodeChain [tsPayload true [anySelector], tsPayload false localSide] =
      .ok chain := by
    rw [encodeChain_iff, List.forall_mem_cons, List.forall_mem_singleton, tsPayload_encodes distinct]
    exact ⟨encodes, sendable⟩
  obtain ⟨octets, written, _⟩ := encodeTsSelectors_tsWire.mpr ⟨one, rfl⟩
  refine ⟨localSide, [anySelector], chain, narrowRequestSelectors_eq_ok.mpr ⟨[anySelector], portSelectors 16, ?_,
    narrowed, rfl⟩, count, encoded, ⟨_, tsPayload_encodeBody.mpr ⟨octets, written, rfl⟩, ?_⟩, fun kept => ?_⟩
  · decide +kernel
  · rw [count]
    rfl
  · have few := (readBack_iff one).mp (kept chain encoded).2
    omega

/-- Three ports on two hosts are six selectors. -/
theorem selectors_survive_few :
    ∃ localSide remoteSide, narrowRequestSelectors (hostPair 2) (portRequest 3) = .ok (localSide, remoteSide) ∧
      SelectorsSurvive [] localSide remoteSide := by
  obtain ⟨sides, narrowed⟩ : ∃ sides, narrowRequestSelectors (hostPair 2) (portRequest 3) = .ok sides := ⟨_, rfl⟩
  refine ⟨sides.1, sides.2, narrowed, (selectors_survive_iff [] narrowed).mpr fun _ _ _ => ?_⟩
  decide +kernel

end Shuli.Ipsec
