import Mathlib.Order.Bounds.Basic
import Shuli.Ipsec.PolicyMatch

/-!
Networks as ranges (`config.rs`): the first and the last address of a prefix, the selector of a network and
the network around a selector.
-/

namespace Shuli.Ipsec

namespace IpNet

/-- `value << (width - prefix_len)`; none where the subtraction or the shift overflows. -/
def shifted {width : Nat} (value : BitVec width) (prefixLen : UInt8) : Option (BitVec width) :=
  if prefixLen.toNat ≤ width ∧ width - prefixLen.toNat < width then some (value <<< (width - prefixLen.toNat))
  else none

def firstBits {width : Nat} (address : BitVec width) (prefixLen : UInt8) : Option (BitVec width) :=
  if prefixLen = 0 then some 0 else do
    let mask ← shifted (~~~0) prefixLen
    return address &&& mask

def lastBits {width : Nat} (address : BitVec width) (prefixLen : UInt8) : Option (BitVec width) :=
  if prefixLen = 0 then some (address ||| BitVec.allOnes width) else do
    let size ← shifted 1 prefixLen
    return address ||| (size - 1)

def first (self : IpNet) : Option IpAddr :=
  match self.address with
  | .v4 address => (firstBits address.toBitVec self.prefixLen).map fun value => .v4 ⟨value⟩
  | .v6 address => (firstBits address self.prefixLen).map .v6

def last (self : IpNet) : Option IpAddr :=
  match self.address with
  | .v4 address => (lastBits address.toBitVec self.prefixLen).map fun value => .v4 ⟨value⟩
  | .v6 address => (lastBits address self.prefixLen).map .v6

def commonPrefixLen : IpAddr → IpAddr → UInt8
  | .v4 start, .v4 stop => UInt8.ofNat (leadingZeros 32 (start ^^^ stop).toNat)
  | .v6 start, .v6 stop => UInt8.ofNat (leadingZeros 128 (start ^^^ stop).toNat)
  | _, _ => 0

def ofSelector (value : TrafficSelector) : IpNet := ⟨value.start, commonPrefixLen value.start value.stop⟩

/-- The addresses that share the prefix. -/
def addresses (self : IpNet) : Set IpAddr := { address | Xfrm.addressMatch address self.address self.prefixLen }

def width (self : IpNet) : Nat := IpAddr.width self.address.isIpv4

end IpNet

def TrafficSelector.net (network : IpNet) : Option TrafficSelector := do
  return ⟨← network.first, ← network.last, 0, 0, 0xffff⟩

namespace IpNet

open Xfrm (block hostBits)

theorem toNat_and_mask {width : Nat} (address : BitVec width) (bits : Nat) :
    (address &&& (~~~0 : BitVec width) <<< bits).toNat = (block bits address.toNat).1 := by
  have cleared : address &&& (~~~0 : BitVec width) <<< bits = (address >>> bits) <<< bits := by
    ext i inside
    by_cases low : i < bits
    · simp [low]
    · simp [low, inside, show bits + (i - bits) = i by omega]
  rw [cleared, BitVec.toNat_shiftLeft, BitVec.toNat_ushiftRight, Nat.shiftRight_eq_div_pow, Nat.shiftLeft_eq,
    Nat.mod_eq_of_lt ((Nat.div_mul_le_self _ _).trans_lt address.isLt)]
  rfl

theorem or_host (value bits : Nat) : value ||| (2 ^ bits - 1) = (block bits value).2 := by
  have below : 2 ^ bits - 1 < 2 ^ bits := Nat.sub_lt (Nat.two_pow_pos bits) one_pos
  rw [block, Nat.mul_comm, Nat.two_pow_add_eq_or_of_lt below]
  apply Nat.eq_of_testBit_eq
  intro i
  rw [Nat.testBit_or, Nat.testBit_or, Nat.testBit_two_pow_mul, Nat.testBit_div_two_pow]
  by_cases low : i < bits
  · simp [low]
  · simp [low, Nat.le_of_not_lt low]

/-- No shift overflows, and both ends are those of the block. -/
theorem ends_eq {width : Nat} (address : BitVec width) {prefixLen : UInt8} (fits : prefixLen.toNat ≤ width) :
    ∃ first last, firstBits address prefixLen = some first ∧ lastBits address prefixLen = some last ∧
      (first.toNat, last.toNat) = block (width - prefixLen.toNat) address.toNat := by
  by_cases whole : prefixLen = 0
  · refine ⟨0, _, if_pos whole, if_pos whole, ?_⟩
    subst whole
    simp [block, Nat.div_eq_of_lt address.isLt]
  · have some : prefixLen.toNat ≠ 0 := fun zero => whole (UInt8.toNat_inj.mp zero)
    have inside : prefixLen.toNat ≤ width ∧ width - prefixLen.toNat < width := by omega
    refine ⟨_, _, by rw [firstBits, if_neg whole, shifted, if_pos inside]; rfl,
      by rw [lastBits, if_neg whole, shifted, if_pos inside]; rfl, ?_⟩
    rw [toNat_and_mask, BitVec.toNat_or]
    have one : (1 : BitVec width).toNat = 1 := Nat.mod_eq_of_lt (Nat.one_lt_two_pow (by omega))
    have power : ((1 : BitVec width) <<< (width - prefixLen.toNat)).toNat = 2 ^ (width - prefixLen.toNat) := by
      rw [BitVec.toNat_shiftLeft, Nat.shiftLeft_eq, one, Nat.one_mul,
        Nat.mod_eq_of_lt (Nat.pow_lt_pow_right one_lt_two inside.2)]
    have size : ((1 : BitVec width) <<< (width - prefixLen.toNat) - 1).toNat = 2 ^ (width - prefixLen.toNat) - 1 := by
      rw [BitVec.toNat_sub_of_le (by rw [BitVec.le_def, power, one]; exact Nat.one_le_two_pow), power, one]
    rw [size, or_host]

variable {self : IpNet}

theorem first_last (fits : self.prefixLen.toNat ≤ self.width) :
    ∃ first last, self.first = some first ∧ self.last = some last ∧ first.isIpv4 = self.address.isIpv4 ∧
      last.isIpv4 = self.address.isIpv4 ∧
      (first.value, last.value) = block (self.width - self.prefixLen.toNat) self.address.value := by
  obtain ⟨address, prefixLen⟩ := self
  cases address with
  | v4 address =>
    obtain ⟨first, last, low, high, ends⟩ := ends_eq address.toBitVec fits
    exact ⟨.v4 ⟨first⟩, .v4 ⟨last⟩, by simp [IpNet.first, low], by simp [IpNet.last, high], rfl, rfl, ends⟩
  | v6 address =>
    obtain ⟨first, last, low, high, ends⟩ := ends_eq address fits
    exact ⟨.v6 first, .v6 last, by simp [IpNet.first, low], by simp [IpNet.last, high], rfl, rfl, ends⟩

theorem mem_addresses {address : IpAddr} : address ∈ self.addresses ↔ address.isIpv4 = self.address.isIpv4 ∧
    address.value / 2 ^ (self.width - self.prefixLen.toNat) =
      self.address.value / 2 ^ (self.width - self.prefixLen.toNat) := by
  rw [addresses, Set.mem_ofPred_eq, Xfrm.addressMatch, Bool.and_eq_true, beq_iff_eq, beq_iff_eq,
    Nat.shiftRight_eq_div_pow, Nat.shiftRight_eq_div_pow]
  rfl

theorem hostBits_le_iff {start stop : IpAddr} {bits : Nat} :
    hostBits start stop ≤ bits ↔ start.value / 2 ^ bits = stop.value / 2 ^ bits := by
  constructor
  · intro few
    exact Xfrm.div_eq_of_xor_lt ((Xfrm.xor_lt_hostBits start stop).trans_le (Nat.pow_le_pow_right two_pos few))
  · intro same
    rw [← Nat.shiftRight_eq_div_pow, ← Nat.shiftRight_eq_div_pow] at same
    have below : start.value ^^^ stop.value < 2 ^ bits := by
      rw [← Nat.div_eq_zero_iff_lt (Nat.two_pow_pos bits), ← Nat.shiftRight_eq_div_pow, Nat.shiftRight_xor_distrib,
        same, Nat.xor_self]
    unfold hostBits
    split
    · exact Nat.zero_le _
    · rename_i differ
      exact (Nat.log2_lt fun none => differ (Nat.eq_of_xor_eq_zero none)).mpr below

theorem commonPrefixLen_toNat {start stop : IpAddr} (same : stop.isIpv4 = start.isIpv4) :
    (commonPrefixLen start stop).toNat = IpAddr.width start.isIpv4 - hostBits start stop := by
  match start, stop, same with
  | .v4 start, .v4 stop, _ => exact Xfrm.leadingZeros_hostBits (.v4 start) (.v4 stop) (show 32 < 256 by decide)
  | .v6 start, .v6 stop, _ => exact Xfrm.leadingZeros_hostBits (.v6 start) (.v6 stop) (show 128 < 256 by decide)

theorem ofSelector_bits {selector : TrafficSelector} (same : selector.stop.isIpv4 = selector.start.isIpv4) :
    (ofSelector selector).width - (ofSelector selector).prefixLen.toNat = hostBits selector.start selector.stop := by
  rw [ofSelector, commonPrefixLen_toNat same]
  exact Nat.sub_sub_self (Xfrm.hostBits_le same)

theorem hostBits_block {first last : IpAddr} {bits value : Nat}
    (ends : (first.value, last.value) = block bits value) : hostBits first last = bits := by
  obtain ⟨low, high⟩ := Prod.mk.inj ends
  have inside (number : Nat) := @Xfrm.inRange_block bits value number
  refine le_antisymm (hostBits_le_iff.mpr ?_) ?_
  · rw [(inside _).mp ⟨low.ge, by rw [low]; exact Nat.le_add_right ..⟩,
      (inside _).mp ⟨by rw [high]; exact Nat.le_add_right .., high.le⟩]
  · by_contra fewer
    have reach := (Xfrm.inRange_block.mpr (hostBits_le_iff.mp (le_refl (hostBits first last))).symm).2
    have below := Nat.pow_lt_pow_right one_lt_two (Nat.lt_of_not_le fewer)
    have cleared := Nat.div_mul_le_self first.value (2 ^ hostBits first last)
    have positive := Nat.two_pow_pos (hostBits first last)
    simp only [block] at reach
    omega

end IpNet

/-- The ends of a network are its least and greatest address, its selector contains its addresses and gives it
back without host bits; the network of a range is the smallest around it. -/
theorem prefix_arithmetic_exact :
    (∀ net : IpNet, net.prefixLen.toNat ≤ net.width →
      ∃ first last selector, net.first = some first ∧ net.last = some last ∧
        IsLeast net.addresses first ∧ IsGreatest net.addresses last ∧ TrafficSelector.net net = some selector ∧
        (∀ address, selector.contains address ↔ address ∈ net.addresses) ∧
        IpNet.ofSelector selector = ⟨first, net.prefixLen⟩) ∧
    ∀ selector : TrafficSelector, family selector.start = family selector.stop → selector.start ≤ selector.stop →
      (∀ address, selector.contains address → address ∈ (IpNet.ofSelector selector).addresses) ∧
      ∀ net : IpNet, net.prefixLen.toNat ≤ net.width → (∀ address, selector.contains address → address ∈ net.addresses) →
        (IpNet.ofSelector selector).addresses ⊆ net.addresses := by
  refine ⟨fun net fits => ?_, fun selector same order => ?_⟩
  · obtain ⟨first, last, low, high, ofFirst, ofLast, ends⟩ := IpNet.first_last fits
    have members (address : IpAddr) : address ∈ net.addresses ↔
        address.isIpv4 = net.address.isIpv4 ∧ InRange (first.value, last.value) address.value := by
      rw [IpNet.mem_addresses, ends, Xfrm.inRange_block]
    have order : first.value ≤ last.value := by
      rw [(Prod.mk.inj ends).1, (Prod.mk.inj ends).2]
      exact Nat.le_add_right ..
    refine ⟨first, last, ⟨first, last, 0, 0, 0xffff⟩, low, high, ⟨(members _).mpr ⟨ofFirst, le_rfl, order⟩, ?_⟩,
      ⟨(members _).mpr ⟨ofLast, order, le_rfl⟩, ?_⟩, by rw [TrafficSelector.net, low, high]; rfl, fun address => ?_, ?_⟩
    · intro address inside
      obtain ⟨ofFamily, range⟩ := (members address).mp inside
      exact (IpAddr.le_iff_value (ofFirst.trans ofFamily.symm)).mpr range.1
    · intro address inside
      obtain ⟨ofFamily, range⟩ := (members address).mp inside
      exact (IpAddr.le_iff_value (ofFamily.trans ofLast.symm)).mpr range.2
    · rw [members]
      exact Xfrm.contains_iff ⟨ofFirst, ofLast⟩ address
    · have length := IpNet.commonPrefixLen_toNat (ofLast.trans ofFirst.symm)
      rw [IpNet.hostBits_block ends, ofFirst] at length
      rw [IpNet.ofSelector, UInt8.toNat_inj.mp (length.trans (Nat.sub_sub_self fits))]
  · have families : selector.stop.isIpv4 = selector.start.isIpv4 := by
      unfold family at same
      cases first : selector.start.isIpv4 <;> cases second : selector.stop.isIpv4 <;> simp_all
    have inside (address : IpAddr) := Xfrm.contains_iff ⟨rfl, families⟩ address
    have range : selector.start.value ≤ selector.stop.value := (IpAddr.le_iff_value families.symm).mp order
    have bits := IpNet.ofSelector_bits families
    refine ⟨fun address among => ?_, fun net fits covers address among => ?_⟩
    · obtain ⟨ofFamily, between⟩ := (inside address).mp among
      rw [IpNet.mem_addresses, bits]
      exact ⟨ofFamily, Xfrm.inRange_block.mp (Xfrm.inRange_block_of_range between)⟩
    · rw [IpNet.mem_addresses, bits] at among
      obtain ⟨ofFirst, start⟩ := IpNet.mem_addresses.mp (covers _ ((inside _).mpr ⟨rfl, le_rfl, range⟩))
      obtain ⟨_, stop⟩ := IpNet.mem_addresses.mp (covers _ ((inside _).mpr ⟨families, range, le_rfl⟩))
      obtain ⟨more, total⟩ := Nat.exists_eq_add_of_le (IpNet.hostBits_le_iff.mpr (start.trans stop.symm))
      refine IpNet.mem_addresses.mpr ⟨among.1.trans ofFirst, ?_⟩
      rw [← start, total, Nat.pow_add, ← Nat.div_div_eq_div_mul, among.2, Nat.div_div_eq_div_mul]
      rfl

end Shuli.Ipsec
