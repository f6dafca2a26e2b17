import Mathlib.Data.Nat.Bitwise
import Shuli.Boxes
import Shuli.Ipsec.Narrowing
import Shuli.Ipsec.XfrmCalls

/-!
What the installed policies match. The kernel compares prefixes, masked ports and one protocol; a traffic
selector is a range of each. Every negotiated packet is matched by a policy, but the prefix around a range,
the mask of a port range and the protocol, which is taken from the source's selector only, may be wider.
The policies of a direction match what was negotiated exactly if the corners of their boxes do.
-/

namespace Shuli.Ipsec

/-! Addresses as numbers -/

namespace IpAddr

def value : IpAddr → Nat
  | v4 address => address.toNat
  | v6 address => address.toNat

def width (ipv4 : Bool) : Nat := if ipv4 then 32 else 128

def ofValue (ipv4 : Bool) (value : Nat) : IpAddr :=
  if ipv4 then v4 (UInt32.ofNat value) else v6 (BitVec.ofNat 128 value)

theorem value_lt (address : IpAddr) : address.value < 2 ^ width address.isIpv4 := by
  cases address with
  | v4 address => exact address.toNat_lt
  | v6 address => exact address.isLt

theorem isIpv4_ofValue (ipv4 : Bool) (value : Nat) : (ofValue ipv4 value).isIpv4 = ipv4 := by
  cases ipv4 <;> rfl

theorem value_ofValue {ipv4 : Bool} {number : Nat} (bound : number < 2 ^ width ipv4) :
    (ofValue ipv4 number).value = number := by
  cases ipv4 with
  | true => exact UInt32.toNat_ofNat_of_lt' bound
  | false => exact Nat.mod_eq_of_lt bound

theorem le_iff_value {left right : IpAddr} (same : left.isIpv4 = right.isIpv4) :
    left ≤ right ↔ left.value ≤ right.value := by
  cases left <;> cases right
  · rfl
  · cases same
  · cases same
  · exact Nat.add_le_add_iff_left

end IpAddr

/-! What was negotiated -/

structure Packet where
  source : IpAddr
  destination : IpAddr
  sport : UInt16
  dport : UInt16
  protocol : UInt8
  deriving DecidableEq, Repr

def Negotiated (sources destinations : List TrafficSelector) (packet : Packet) : Prop :=
  ∃ source ∈ sources, ∃ destination ∈ destinations,
    source.Admits packet.source packet.sport packet.protocol ∧
      destination.Admits packet.destination packet.dport packet.protocol

instance (sources destinations : List TrafficSelector) (packet : Packet) :
    Decidable (Negotiated sources destinations packet) :=
  inferInstanceAs (Decidable (∃ source ∈ sources, ∃ destination ∈ destinations, _))

namespace Xfrm

/-! What the kernel matches -/

def addressMatch (address base : IpAddr) (prefixLen : UInt8) : Bool :=
  address.isIpv4 == base.isIpv4 &&
    address.value >>> (IpAddr.width base.isIpv4 - prefixLen.toNat) ==
      base.value >>> (IpAddr.width base.isIpv4 - prefixLen.toNat)

/-- The kernel's comparison of a selector with a packet. -/
def Selector.covers (selector : Selector) (packet : Packet) : Bool :=
  addressMatch packet.source selector.source selector.prefixLenS &&
    addressMatch packet.destination selector.destination selector.prefixLenD &&
    (packet.sport ^^^ selector.sport) &&& selector.sportMask == 0 &&
    (packet.dport ^^^ selector.dport) &&& selector.dportMask == 0 &&
    (selector.proto == 0 || packet.protocol == selector.proto)

/-! Both as boxes -/

def hostBits (start stop : IpAddr) : Nat :=
  if start.value = stop.value then 0 else (start.value ^^^ stop.value).log2 + 1

def block (bits value : Nat) : Nat × Nat := (value / 2 ^ bits * 2 ^ bits, value / 2 ^ bits * 2 ^ bits + (2 ^ bits - 1))

def maskedPorts (startPort endPort : UInt16) : Nat × Nat :=
  if startPort = endPort then (startPort.toNat, startPort.toNat) else (0, 0xffff)

def protocolRange (protocol : UInt8) : Nat × Nat :=
  if protocol = 0 then (0, 0xff) else (protocol.toNat, protocol.toNat)

def policyBox (source destination : TrafficSelector) : List (Nat × Nat) :=
  [block (hostBits source.start source.stop) source.start.value,
    block (hostBits destination.start destination.stop) destination.start.value,
    maskedPorts source.startPort source.endPort,
    maskedPorts destination.startPort destination.endPort,
    protocolRange source.protocol]

def negotiatedBox (source destination : TrafficSelector) : List (Nat × Nat) :=
  [(source.start.value, source.stop.value), (destination.start.value, destination.stop.value),
    (source.startPort.toNat, source.endPort.toNat), (destination.startPort.toNat, destination.endPort.toNat),
    (max (protocolRange source.protocol).1 (protocolRange destination.protocol).1,
      min (protocolRange source.protocol).2 (protocolRange destination.protocol).2)]

def negotiatedBoxes (sources destinations : List TrafficSelector) : List (List (Nat × Nat)) :=
  sources.flatMap fun source => destinations.map fun destination => negotiatedBox source destination

/-- The corners of every policy, where it could reach beyond the negotiated selectors, are negotiated. -/
def Sharp (sources destinations : List TrafficSelector) : Prop :=
  ∀ source ∈ sources, ∀ destination ∈ destinations,
    ∀ corner ∈ corners (policyBox source destination) (negotiatedBoxes sources destinations),
      Covered (negotiatedBoxes sources destinations) corner

instance (sources destinations : List TrafficSelector) : Decidable (Sharp sources destinations) :=
  inferInstanceAs (Decidable (∀ source ∈ sources, ∀ destination ∈ destinations, _))

def point (packet : Packet) : List Nat :=
  [packet.source.value, packet.destination.value, packet.sport.toNat, packet.dport.toNat,
    packet.protocol.toNat]

theorem inBox_five {first second third fourth fifth : Nat × Nat} {a b c d e : Nat} :
    InBox [first, second, third, fourth, fifth] [a, b, c, d, e] ↔
      InRange first a ∧ InRange second b ∧ InRange third c ∧ InRange fourth d ∧ InRange fifth e := by
  simp [InBox]

theorem inRange_block {bits value number : Nat} :
    InRange (block bits value) number ↔ number / 2 ^ bits = value / 2 ^ bits := by
  have positive : 0 < 2 ^ bits := Nat.two_pow_pos bits
  change _ ≤ _ ∧ _ ≤ _ ↔ _
  rw [Nat.div_eq_iff positive, block]
  omega

theorem div_eq_of_xor_lt {left right bits : Nat} (differ : left ^^^ right < 2 ^ bits) :
    left / 2 ^ bits = right / 2 ^ bits := by
  rw [← Nat.shiftRight_eq_div_pow, ← Nat.shiftRight_eq_div_pow]
  have none : (left ^^^ right) >>> bits = 0 := by
    rw [Nat.shiftRight_eq_div_pow]
    exact Nat.div_eq_of_lt differ
  rw [Nat.shiftRight_xor_distrib] at none
  exact Nat.eq_of_xor_eq_zero none

theorem xor_lt_hostBits (start stop : IpAddr) :
    start.value ^^^ stop.value < 2 ^ hostBits start stop := by
  unfold hostBits
  split
  · rename_i same
    simp [same]
  · exact Nat.lt_log2_self

variable {start stop : IpAddr}

theorem hostBits_le (same : stop.isIpv4 = start.isIpv4) :
    hostBits start stop ≤ IpAddr.width start.isIpv4 := by
  have bound : start.value ^^^ stop.value < 2 ^ IpAddr.width start.isIpv4 :=
    Nat.xor_lt_two_pow start.value_lt (same ▸ stop.value_lt)
  unfold hostBits
  split
  · exact Nat.zero_le _
  · rename_i differ
    exact (Nat.log2_lt (fun none => differ (Nat.eq_of_xor_eq_zero none))).mpr bound

theorem leadingZeros_hostBits (start stop : IpAddr) {width : Nat} (small : width < 256) :
    (UInt8.ofNat (leadingZeros width (start.value ^^^ stop.value))).toNat = width - hostBits start stop := by
  have bits : leadingZeros width (start.value ^^^ stop.value) = width - hostBits start stop := by
    unfold leadingZeros hostBits
    by_cases same : start.value = stop.value
    · simp [same]
    · rw [if_neg (fun none => same (Nat.eq_of_xor_eq_zero none)), if_neg same]
      omega
  rw [bits, UInt8.toNat_ofNat_of_lt' (show width - _ < 256 by omega)]

theorem commonPrefixLen_toNat (same : stop.isIpv4 = start.isIpv4) :
    (commonPrefixLen start stop).toNat = IpAddr.width start.isIpv4 - hostBits start stop := by
  match start, stop, same with
  | .v4 start, .v4 stop, _ =>
    rw [commonPrefixLen]
    split
    · simp_all [hostBits, IpAddr.width, IpAddr.isIpv4]
    · exact leadingZeros_hostBits (.v4 start) (.v4 stop) (show 32 < 256 by decide)
  | .v6 start, .v6 stop, _ =>
    rw [commonPrefixLen]
    split
    · simp_all [hostBits, IpAddr.width, IpAddr.isIpv4]
    · exact leadingZeros_hostBits (.v6 start) (.v6 stop) (show 128 < 256 by decide)

theorem addressMatch_iff {address start stop : IpAddr} (same : stop.isIpv4 = start.isIpv4) :
    addressMatch address start (commonPrefixLen start stop) = true ↔
      address.isIpv4 = start.isIpv4 ∧ InRange (block (hostBits start stop) start.value) address.value := by
  have bits : IpAddr.width start.isIpv4 - (IpAddr.width start.isIpv4 - hostBits start stop) =
      hostBits start stop := Nat.sub_sub_self (hostBits_le same)
  rw [addressMatch, commonPrefixLen_toNat same, bits, inRange_block, Bool.and_eq_true, beq_iff_eq,
    beq_iff_eq, Nat.shiftRight_eq_div_pow, Nat.shiftRight_eq_div_pow]

theorem portMask_iff {port startPort endPort : UInt16} :
    ((port ^^^ startPort) &&& portMask startPort endPort == 0) = true ↔
      InRange (maskedPorts startPort endPort) port.toNat := by
  unfold portMask maskedPorts
  split
  · rw [show (port ^^^ startPort) &&& 0xffff = port ^^^ startPort from UInt16.and_neg_one,
      beq_iff_eq, UInt16.xor_eq_zero_iff, ← UInt16.toNat_inj]
    simp only [InRange]
    omega
  · have bound := port.toNat_lt
    simp [InRange]
    omega

theorem proto_iff {protocol proto : UInt8} :
    (proto == 0 || protocol == proto) = true ↔ InRange (protocolRange proto) protocol.toNat := by
  unfold protocolRange
  have bound := protocol.toNat_lt
  split
  · rename_i any
    simp [InRange, any]
    omega
  · rename_i one
    simp only [InRange, Bool.or_eq_true, beq_iff_eq, one, false_or, ← UInt8.toNat_inj]
    omega

/-! Policies and negotiation over one family -/

def OfFamily (ipv4 : Bool) (selector : TrafficSelector) : Prop :=
  selector.start.isIpv4 = ipv4 ∧ selector.stop.isIpv4 = ipv4

instance (ipv4 : Bool) (selector : TrafficSelector) : Decidable (OfFamily ipv4 selector) :=
  inferInstanceAs (Decidable (_ ∧ _))

variable {ipv4 : Bool} {source destination : TrafficSelector}

theorem selectorOf_covers (left : OfFamily ipv4 source) (right : OfFamily ipv4 destination) (packet : Packet) :
    (selectorOf source destination).covers packet = true ↔
      (packet.source.isIpv4 = ipv4 ∧ packet.destination.isIpv4 = ipv4) ∧
        InBox (policyBox source destination) (point packet) := by
  rw [policyBox, point, inBox_five, Selector.covers]
  simp only [Bool.and_eq_true]
  rw [selectorOf, addressMatch_iff (left.2.trans left.1.symm), addressMatch_iff (right.2.trans right.1.symm),
    portMask_iff, portMask_iff, proto_iff, left.1, right.1]
  tauto

theorem contains_iff {selector : TrafficSelector} (ofFamily : OfFamily ipv4 selector) (address : IpAddr) :
    selector.contains address = true ↔
      address.isIpv4 = ipv4 ∧ InRange (selector.start.value, selector.stop.value) address.value := by
  have families : Ipsec.family address = Ipsec.family selector.start ↔ address.isIpv4 = ipv4 := by
    unfold Ipsec.family
    rw [ofFamily.1]
    cases address.isIpv4 <;> cases ipv4 <;> decide
  simp only [TrafficSelector.contains, Bool.and_eq_true, beq_iff_eq, decide_eq_true_eq, ge_iff_le, families, and_assoc]
  refine and_congr_right fun same => ?_
  rw [IpAddr.le_iff_value (ofFamily.1.trans same.symm), IpAddr.le_iff_value (same.trans ofFamily.2.symm)]
  rfl

theorem admits_iff {selector : TrafficSelector} (ofFamily : OfFamily ipv4 selector)
    (address : IpAddr) (port : UInt16) (protocol : UInt8) :
    selector.Admits address port protocol ↔ address.isIpv4 = ipv4 ∧
      InRange (selector.start.value, selector.stop.value) address.value ∧
      InRange (selector.startPort.toNat, selector.endPort.toNat) port.toNat ∧
      InRange (protocolRange selector.protocol) protocol.toNat := by
  have protocols : selector.protocol = 0 ∨ selector.protocol = protocol ↔
      InRange (protocolRange selector.protocol) protocol.toNat := by
    rw [← proto_iff, Bool.or_eq_true, beq_iff_eq, beq_iff_eq, eq_comm (a := protocol)]
  rw [TrafficSelector.admits_iff_contains, contains_iff ofFamily, protocols, and_assoc]
  rfl

variable {number : Nat}

theorem inRange_meet {first second : Nat × Nat} :
    InRange (max first.1 second.1, min first.2 second.2) number ↔
      InRange first number ∧ InRange second number := by
  simp only [InRange]
  omega

variable {sources destinations : List TrafficSelector}

theorem mem_negotiatedBoxes {box : List (Nat × Nat)} :
    box ∈ negotiatedBoxes sources destinations ↔
      ∃ source ∈ sources, ∃ destination ∈ destinations, box = negotiatedBox source destination := by
  simp only [negotiatedBoxes, List.mem_flatMap, List.mem_map, eq_comm]

theorem negotiated_iff (left : ∀ source ∈ sources, OfFamily ipv4 source)
    (right : ∀ destination ∈ destinations, OfFamily ipv4 destination) (packet : Packet) :
    Negotiated sources destinations packet ↔
      (packet.source.isIpv4 = ipv4 ∧ packet.destination.isIpv4 = ipv4) ∧
        Covered (negotiatedBoxes sources destinations) (point packet) := by
  have pair {source destination : TrafficSelector} (first : source ∈ sources)
      (second : destination ∈ destinations) :
      source.Admits packet.source packet.sport packet.protocol ∧
        destination.Admits packet.destination packet.dport packet.protocol ↔
      (packet.source.isIpv4 = ipv4 ∧ packet.destination.isIpv4 = ipv4) ∧
        InBox (negotiatedBox source destination) (point packet) := by
    rw [admits_iff (left source first), admits_iff (right destination second), negotiatedBox, point, inBox_five,
      inRange_meet]
    tauto
  constructor
  · rintro ⟨source, first, destination, second, admitted⟩
    obtain ⟨families, inside⟩ := (pair first second).mp admitted
    exact ⟨families, _, mem_negotiatedBoxes.mpr ⟨source, first, destination, second, rfl⟩, inside⟩
  · rintro ⟨families, _, mem, inside⟩
    obtain ⟨source, first, destination, second, rfl⟩ := mem_negotiatedBoxes.mp mem
    exact ⟨source, first, destination, second, (pair first second).mpr ⟨families, inside⟩⟩

theorem inRange_block_of_range (inside : InRange (start.value, stop.value) number) :
    InRange (block (hostBits start stop) start.value) number := by
  have ends := div_eq_of_xor_lt (xor_lt_hostBits start stop)
  have lower : start.value / 2 ^ hostBits start stop ≤ number / 2 ^ hostBits start stop :=
    Nat.div_le_div_right inside.1
  have upper : number / 2 ^ hostBits start stop ≤ stop.value / 2 ^ hostBits start stop :=
    Nat.div_le_div_right inside.2
  exact inRange_block.mpr (by omega)

theorem inRange_maskedPorts_of_range {startPort endPort port : UInt16}
    (inside : InRange (startPort.toNat, endPort.toNat) port.toNat) :
    InRange (maskedPorts startPort endPort) port.toNat := by
  unfold maskedPorts
  split
  · rename_i same
    rw [← same] at inside
    exact inside
  · have bound := port.toNat_lt
    exact ⟨Nat.zero_le _, by omega⟩

theorem policyBox_of_negotiatedBox {packet : Packet}
    (inside : InBox (negotiatedBox source destination) (point packet)) :
    InBox (policyBox source destination) (point packet) := by
  rw [negotiatedBox, point, inBox_five, inRange_meet] at inside
  obtain ⟨origin, target, sport, dport, proto, _⟩ := inside
  rw [policyBox, point, inBox_five]
  exact ⟨inRange_block_of_range origin, inRange_block_of_range target, inRange_maskedPorts_of_range sport,
    inRange_maskedPorts_of_range dport, proto⟩

theorem block_lt {selector : TrafficSelector} (ofFamily : OfFamily ipv4 selector)
    (inside : InRange (block (hostBits selector.start selector.stop) selector.start.value) number) :
    number < 2 ^ IpAddr.width ipv4 := by
  have bits := hostBits_le (ofFamily.2.trans ofFamily.1.symm)
  have bound := selector.start.value_lt
  rw [ofFamily.1] at bits bound
  have split : 2 ^ IpAddr.width ipv4 = 2 ^ (IpAddr.width ipv4 - hostBits selector.start selector.stop) *
      2 ^ hostBits selector.start selector.stop := by
    rw [← Nat.pow_add, Nat.sub_add_cancel bits]
  rw [split] at bound ⊢
  rw [← Nat.div_lt_iff_lt_mul (Nat.two_pow_pos _)] at bound ⊢
  rwa [inRange_block.mp inside]

theorem maskedPorts_lt {startPort endPort : UInt16}
    (inside : InRange (maskedPorts startPort endPort) number) : number < 2 ^ 16 := by
  have bound := startPort.toNat_lt
  unfold maskedPorts at inside
  split at inside <;> simp only [InRange] at inside <;> omega

theorem protocolRange_lt {protocol : UInt8} (inside : InRange (protocolRange protocol) number) :
    number < 2 ^ 8 := by
  have bound := protocol.toNat_lt
  unfold protocolRange at inside
  split at inside <;> simp only [InRange] at inside <;> omega

theorem exists_packet (left : OfFamily ipv4 source) (right : OfFamily ipv4 destination) {corner : List Nat}
    (inside : InBox (policyBox source destination) corner) :
    ∃ packet : Packet, (packet.source.isIpv4 = ipv4 ∧ packet.destination.isIpv4 = ipv4) ∧
      point packet = corner := by
  rcases inside with _ | ⟨origin, _ | ⟨target, _ | ⟨sport, _ | ⟨dport, _ | ⟨proto, _ | _⟩⟩⟩⟩⟩
  rename_i a b c d e
  refine ⟨⟨.ofValue ipv4 a, .ofValue ipv4 b, UInt16.ofNat c, UInt16.ofNat d, UInt8.ofNat e⟩,
    ⟨IpAddr.isIpv4_ofValue .., IpAddr.isIpv4_ofValue ..⟩, ?_⟩
  rw [point, IpAddr.value_ofValue (block_lt left origin), IpAddr.value_ofValue (block_lt right target),
    UInt16.toNat_ofNat_of_lt' (maskedPorts_lt sport), UInt16.toNat_ofNat_of_lt' (maskedPorts_lt dport),
    UInt8.toNat_ofNat_of_lt' (protocolRange_lt proto)]

def Exact (policies : List PolicyRecord) (sources destinations : List TrafficSelector) : Prop :=
  ∀ packet, (∃ policy ∈ policies, policy.selector.covers packet = true) ↔
    Negotiated sources destinations packet

theorem exact_iff_sharp {policies : List PolicyRecord} (left : ∀ source ∈ sources, OfFamily ipv4 source)
    (right : ∀ destination ∈ destinations, OfFamily ipv4 destination)
    (built : ∀ selector, selector ∈ policies.map PolicyRecord.selector ↔
      ∃ source ∈ sources, ∃ destination ∈ destinations, selector = selectorOf source destination) :
    Exact policies sources destinations ↔ Sharp sources destinations := by
  have matched (packet : Packet) : (∃ policy ∈ policies, policy.selector.covers packet = true) ↔
      ∃ source ∈ sources, ∃ destination ∈ destinations,
        (packet.source.isIpv4 = ipv4 ∧ packet.destination.isIpv4 = ipv4) ∧
          InBox (policyBox source destination) (point packet) := by
    constructor
    · rintro ⟨policy, mem, covers⟩
      obtain ⟨source, first, destination, second, same⟩ := (built _).mp (List.mem_map_of_mem mem)
      rw [same, selectorOf_covers (left source first) (right destination second)] at covers
      exact ⟨source, first, destination, second, covers⟩
    · rintro ⟨source, first, destination, second, covers⟩
      obtain ⟨policy, mem, same⟩ := List.mem_map.mp ((built _).mpr ⟨source, first, destination, second, rfl⟩)
      rw [← selectorOf_covers (left source first) (right destination second), ← same] at covers
      exact ⟨policy, mem, covers⟩
  have sharp : Sharp sources destinations ↔ ∀ source ∈ sources, ∀ destination ∈ destinations,
      ∀ place, InBox (policyBox source destination) place →
        Covered (negotiatedBoxes sources destinations) place := by
    simp only [covered_iff_corners]
    rfl
  rw [sharp]
  constructor
  · intro exact' source first destination second place inside
    obtain ⟨packet, families, rfl⟩ := exists_packet (left source first) (right destination second) inside
    have negotiated := (exact' packet).mp ((matched packet).mpr
      ⟨source, first, destination, second, families, inside⟩)
    exact ((negotiated_iff left right packet).mp negotiated).2
  · intro covers packet
    rw [matched, negotiated_iff left right]
    constructor
    · rintro ⟨source, first, destination, second, families, inside⟩
      exact ⟨families, covers source first destination second _ inside⟩
    · rintro ⟨families, box, mem, inside⟩
      obtain ⟨source, first, destination, second, rfl⟩ := mem_negotiatedBoxes.mp mem
      exact ⟨source, first, destination, second, families, policyBox_of_negotiatedBox inside⟩

theorem mem_selectorPairs {child : ChildSaHandle} {pair : TrafficSelector × TrafficSelector} :
    pair ∈ selectorPairs child ↔ pair.1 ∈ child.localSelectors ∧ pair.2 ∈ child.remoteSelectors := by
  obtain ⟨localSide, remoteSide⟩ := pair
  simp [selectorPairs]

open Fallible in
/-- The policies that `install` added for selectors of one family match exactly the negotiated packets, in
both directions, if and only if the corners of the policies are negotiated. -/
theorem policies_exact_iff (kernel : XfrmKernel) (child : ChildSaHandle) (spec : InstallSpec) (ipv4 : Bool)
    (self after : XfrmManager) (installed : InstalledChildSa)
    (localFamily : ∀ selector ∈ child.localSelectors, OfFamily ipv4 selector)
    (remoteFamily : ∀ selector ∈ child.remoteSelectors, OfFamily ipv4 selector)
    (done : exec (install kernel child spec) self = (.ok installed, after)) :
    (Exact installed.localPolicies child.localSelectors child.remoteSelectors ∧
        Exact installed.remotePolicies child.remoteSelectors child.localSelectors) ↔
      Sharp child.localSelectors child.remoteSelectors ∧ Sharp child.remoteSelectors child.localSelectors := by
  obtain ⟨_, _, _, _, _, extended, _⟩ := install_eq_ok done
  refine and_congr (exact_iff_sharp localFamily remoteFamily fun selector => ?_)
    (exact_iff_sharp remoteFamily localFamily fun selector => ?_)
  · rw [extended.localPolicies]
    simp only [InstalledChildSa.bare, List.map_nil, List.not_mem_nil, false_or, mem_selectorPairs, Prod.exists]
    tauto
  · rw [extended.remotePolicies]
    simp only [InstalledChildSa.bare, List.map_nil, List.not_mem_nil, false_or, mem_selectorPairs, Prod.exists]
    tauto

def blockChild : ChildSaHandle := sampleChild 1 2 0x0A010000 0x0A0100FF

/-- Between two aligned blocks of addresses the policies are exact. -/
theorem policies_exact_blocks :
    ∃ installed after,
      Fallible.exec (install obligingKernel blockChild sampleSpec) .start = (.ok installed, after) ∧
        Exact installed.localPolicies blockChild.localSelectors blockChild.remoteSelectors ∧
          Exact installed.remotePolicies blockChild.remoteSelectors blockChild.localSelectors := by
  have succeeds : (Fallible.exec (install obligingKernel blockChild sampleSpec) .start).1.isOk = true := by
    decide +kernel
  rcases done : Fallible.exec (install obligingKernel blockChild sampleSpec) .start with
    ⟨error | installed, after⟩
  · rw [done] at succeeds
    cases succeeds
  · exact ⟨installed, after, rfl, (policies_exact_iff obligingKernel blockChild sampleSpec true .start after
      installed (by decide) (by decide) done).mpr (by decide +kernel)⟩

def rangeChild : ChildSaHandle := sampleChild 1 2 0x0A000001 0x0A000002

/-- Only 10.0.0.1 and 10.0.0.2 were negotiated; the policy is that of their /30 and matches a packet of
10.0.0.3. -/
theorem policies_wider_than_range :
    ∃ installed after,
      Fallible.exec (install obligingKernel rangeChild sampleSpec) .start = (.ok installed, after) ∧
        ¬Exact installed.localPolicies rangeChild.localSelectors rangeChild.remoteSelectors := by
  let packet : Packet := ⟨.v4 0x0A000003, .v4 0x0A020001, 1024, 80, 6⟩
  have captured : (Fallible.exec (install obligingKernel rangeChild sampleSpec) .start).1.toOption.any
      (fun installed => installed.localPolicies.any fun policy => policy.selector.covers packet) = true := by
    decide +kernel
  have foreign : ¬Negotiated rangeChild.localSelectors rangeChild.remoteSelectors packet := by decide +kernel
  rcases done : Fallible.exec (install obligingKernel rangeChild sampleSpec) .start with
    ⟨error | installed, after⟩
  · rw [done] at captured
    cases captured
  · rw [done] at captured
    exact ⟨installed, after, rfl, fun exact' => foreign ((exact' packet).mp (List.any_eq_true.mp captured))⟩

end Xfrm

end Shuli.Ipsec
