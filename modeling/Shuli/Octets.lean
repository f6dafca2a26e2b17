import Mathlib.Data.List.Induction
import Mathlib.Tactic.Ring

/-!
Octet strings and the big-endian numbers written in them. Every fixed-width field of the
wire formats is one instance of `beOctets` and `beNat`. The checksum serves the sample instances of
the cryptographic parameters.
-/

namespace Shuli

abbrev Octets := List UInt8

def asBytes (value : String) : Octets := value.toUTF8.toList

abbrev Block (length : Nat) := { octets : Octets // octets.length = length }

def Block.fill (octet : UInt8) (length : Nat) : Block length :=
  ⟨List.replicate length octet, List.length_replicate⟩

def Block.slice {length : Nat} (block : Block length) (start width : Nat)
    (fits : start + width ≤ length) : Block width :=
  ⟨(block.val.drop start).take width, by
    rw [List.length_take, List.length_drop, block.property]
    omega⟩

/-- The `width` low octets of `value`, most significant first. -/
def beOctets : Nat → Nat → Octets
  | 0, _ => []
  | width + 1, value => beOctets width (value / 256) ++ [UInt8.ofNat value]

/-- The number written by `octets`, most significant first. -/
def beNat (octets : Octets) : Nat :=
  octets.foldl (fun value octet => value * 256 + octet.toNat) 0

@[simp] theorem beOctets_length (width value : Nat) : (beOctets width value).length = width := by
  induction width generalizing value with
  | zero => rfl
  | succ width ih => simp [beOctets, ih]

@[simp] theorem beNat_nil : beNat [] = 0 := rfl

theorem beNat_append_singleton (octets : Octets) (octet : UInt8) :
    beNat (octets ++ [octet]) = beNat octets * 256 + octet.toNat := by
  simp [beNat]

theorem beNat_lt (octets : Octets) : beNat octets < 256 ^ octets.length := by
  induction octets using List.reverseRecOn with
  | nil => simp
  | append_singleton octets octet ih =>
    have bound := octet.toNat_lt
    rw [beNat_append_singleton, List.length_append, List.length_singleton, pow_succ]
    omega

theorem beNat_beOctets (width value : Nat) : beNat (beOctets width value) = value % 256 ^ width := by
  induction width generalizing value with
  | zero => simp [beOctets, Nat.mod_one]
  | succ width ih =>
    have digit : (UInt8.ofNat value).toNat = value % 256 := by simp
    rw [beOctets, beNat_append_singleton, ih, digit, pow_succ, Nat.mul_comm (256 ^ width) 256,
      Nat.mod_mul]
    ring

theorem beOctets_beNat (octets : Octets) : beOctets octets.length (beNat octets) = octets := by
  induction octets using List.reverseRecOn with
  | nil => rfl
  | append_singleton octets octet ih =>
    have bound := octet.toNat_lt
    have high : (beNat octets * 256 + octet.toNat) / 256 = beNat octets := by omega
    have low : UInt8.ofNat (beNat octets * 256 + octet.toNat) = octet := by
      apply UInt8.toNat_inj.mp
      simp only [UInt8.toNat_ofNat']
      omega
    rw [List.length_append, List.length_singleton, beNat_append_singleton, beOctets, high, low, ih]

def be16 (value : UInt16) : Octets := beOctets 2 value.toNat

def le16 (value : UInt16) : Octets := [UInt8.ofNat value.toNat, UInt8.ofNat (value.toNat / 256)]

def be32 (value : UInt32) : Octets := beOctets 4 value.toNat

def be64 (value : UInt64) : Octets := beOctets 8 value.toNat

def ofBe16 (octets : Octets) : UInt16 := UInt16.ofNat (beNat octets)

def ofBe32 (octets : Octets) : UInt32 := UInt32.ofNat (beNat octets)

def ofBe64 (octets : Octets) : UInt64 := UInt64.ofNat (beNat octets)

@[simp] theorem be16_length (value : UInt16) : (be16 value).length = 2 := beOctets_length 2 _

@[simp] theorem be32_length (value : UInt32) : (be32 value).length = 4 := beOctets_length 4 _

@[simp] theorem be64_length (value : UInt64) : (be64 value).length = 8 := beOctets_length 8 _

@[simp] theorem ofBe16_be16 (value : UInt16) : ofBe16 (be16 value) = value := by
  have bound := value.toNat_lt
  apply UInt16.toNat_inj.mp
  rw [ofBe16, be16, beNat_beOctets, UInt16.toNat_ofNat']
  omega

@[simp] theorem ofBe32_be32 (value : UInt32) : ofBe32 (be32 value) = value := by
  have bound := value.toNat_lt
  apply UInt32.toNat_inj.mp
  rw [ofBe32, be32, beNat_beOctets, UInt32.toNat_ofNat']
  omega

@[simp] theorem ofBe64_be64 (value : UInt64) : ofBe64 (be64 value) = value := by
  have bound := value.toNat_lt
  apply UInt64.toNat_inj.mp
  rw [ofBe64, be64, beNat_beOctets, UInt64.toNat_ofNat']
  omega

def checksumModulus : Nat := 2 ^ 152 - 3

def checksum (octets : Octets) : Nat :=
  octets.foldl (fun sum octet => (sum * 1000003 + octet.toNat + 1) % checksumModulus) 7

def checksumBlock (length : Nat) (octets : Octets) : Block length :=
  ⟨beOctets length (checksum octets), beOctets_length _ _⟩

end Shuli
