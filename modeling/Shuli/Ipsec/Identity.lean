import Mathlib.Order.Lattice
import Mathlib.Order.Defs.LinearOrder
import Mathlib.Order.Basic
import Shuli.Octets

/-!
The error type of the IKE engine, network addresses, and IKE identities
(`error.rs`, `identity.rs`).
-/

namespace Shuli.Ipsec

inductive IpsecErrorKind
  | config | io | netlink | netlinkDecode | xfrm | ike | authentication | proposal | identity
  | certificate | eap | timeout | peerNotFound | noSupport | internal
  deriving DecidableEq, Repr

/-- The error of every IKE operation. No handler sets the source's `connection` and `peer`. -/
structure IpsecError where
  kind : IpsecErrorKind
  msg : String
  deriving DecidableEq, Repr

namespace IpsecError

def config (msg : String) : IpsecError := ⟨.config, msg⟩

def ike (msg : String) : IpsecError := ⟨.ike, msg⟩

def authentication (msg : String) : IpsecError := ⟨.authentication, msg⟩

def internal (msg : String) : IpsecError := ⟨.internal, msg⟩

end IpsecError

inductive IpAddr
  | v4 (address : UInt32)
  | v6 (address : BitVec 128)
  deriving DecidableEq, Repr

namespace IpAddr

/-- Position in the derived order of the source: every IPv4 address comes before every IPv6
address, and within a family the order is numeric. -/
def rank : IpAddr → Nat
  | v4 address => address.toNat
  | v6 address => 2 ^ 32 + address.toNat

theorem rank_injective : Function.Injective rank := by
  intro left right same
  cases left with
  | v4 left =>
    cases right with
    | v4 right => exact congrArg v4 (UInt32.toNat_inj.mp same)
    | v6 right =>
      have bound := left.toNat_lt
      simp only [rank] at same
      omega
  | v6 left =>
    cases right with
    | v4 right =>
      have bound := right.toNat_lt
      simp only [rank] at same
      omega
    | v6 right =>
      simp only [rank, Nat.add_left_cancel_iff] at same
      exact congrArg v6 (BitVec.eq_of_toNat_eq same)

instance : LinearOrder IpAddr := LinearOrder.lift' rank rank_injective

def isIpv4 : IpAddr → Bool
  | v4 _ => true
  | v6 _ => false

def isIpv6 (address : IpAddr) : Bool := !address.isIpv4

def octets : IpAddr → Octets
  | v4 address => be32 address
  | v6 address => beOctets 16 address.toNat

def displayV4 (address : UInt32) : String :=
  ".".intercalate ((be32 address).map fun octet => toString octet.toNat)

def displaySegments (segments : List Nat) : String :=
  ":".intercalate (segments.map fun segment => String.ofList (Nat.toDigits 16 segment))

def longestZeros (segments : List Nat) : Nat × Nat :=
  (segments.foldl (fun (index, current, longest) segment =>
    let current : Nat × Nat :=
      if segment = 0 then (if current.2 = 0 then index else current.1, current.2 + 1) else (0, 0)
    (index + 1, current, if current.2 > longest.2 then current else longest))
    (0, ((0, 0) : Nat × Nat), ((0, 0) : Nat × Nat))).2.2

def display : IpAddr → String
  | v4 address => displayV4 address
  | v6 address =>
    let segments := (List.range 8).map fun i => address.toNat / 65536 ^ (7 - i) % 65536
    if address.toNat / 2 ^ 32 = 0xffff then "::ffff:" ++ displayV4 (UInt32.ofNat address.toNat)
    else
      let (start, length) := longestZeros segments
      if length > 1 then
        displaySegments (segments.take start) ++ "::" ++ displaySegments (segments.drop (start + length))
      else displaySegments segments

def ofOctets4 (octets : Octets) : IpAddr := v4 (ofBe32 octets)

def ofOctets16 (octets : Octets) : IpAddr := v6 (BitVec.ofNat 128 (beNat octets))

end IpAddr

structure SocketAddr where
  ip : IpAddr
  port : UInt16
  deriving DecidableEq, Repr

/-- An IKEv2 identification payload value. `any` is valid only as a configured remote identity. -/
inductive Identity
  | ip (address : IpAddr)
  | fqdn (value : String)
  | email (value : String)
  | derAsn1Dn (value : Octets)
  | keyId (value : Octets)
  | any
  deriving DecidableEq, Repr

def asciiLower (octet : UInt8) : UInt8 := if 65 ≤ octet ∧ octet ≤ 90 then octet + 32 else octet

def eqIgnoreAsciiCase (left right : String) : Bool :=
  (asBytes left).map asciiLower == (asBytes right).map asciiLower

namespace Identity

def idType : Identity → Option UInt8
  | ip (.v4 _) => some 1
  | fqdn _ => some 2
  | email _ => some 3
  | ip (.v6 _) => some 5
  | keyId _ => some 11
  | derAsn1Dn _ => some 9
  | any => none

def encode : Identity → Except IpsecError Octets
  | ip address => .ok address.octets
  | fqdn value => .ok (asBytes value)
  | email value => .ok (asBytes value)
  | derAsn1Dn value => .ok value
  | keyId value => .ok value
  | any => .error (.config "the wildcard identity cannot be sent on the wire")

def ofUtf8 (wrap : String → Identity) (msg : String) (data : Octets) : Except IpsecError Identity :=
  match String.fromUTF8? data.toByteArray with
  | some value => .ok (wrap value)
  | none => .error (.ike msg)

def decode (idType : UInt8) (data : Octets) : Except IpsecError Identity :=
  match idType with
  | 1 =>
    if data.length = 4 then .ok (.ip (.ofOctets4 data))
    else .error (.ike "IPv4 identity payload has the wrong length")
  | 2 => ofUtf8 .fqdn "FQDN identity is not valid UTF-8" data
  | 3 => ofUtf8 .email "RFC 822 identity is not valid UTF-8" data
  | 11 => .ok (.keyId data)
  | 5 =>
    if data.length = 16 then .ok (.ip (.ofOctets16 data))
    else .error (.ike "IPv6 identity payload has the wrong length")
  | 9 => .ok (.derAsn1Dn data)
  | other => .error ⟨.noSupport, s!"unsupported IKE identity type {other}"⟩

def hex (value : Octets) : String :=
  String.ofList (value.flatMap fun octet => [Nat.digitChar (octet.toNat / 16), Nat.digitChar (octet.toNat % 16)])

def display : Identity → String
  | ip address => address.display
  | fqdn value => value
  | email value => value
  | derAsn1Dn value => "dn:" ++ hex value
  | keyId value => "keyid:" ++ hex value
  | any => "*"

def isWildcard (identity : Identity) : Bool := identity == any

def matchesIdentity : Identity → Identity → Bool
  | any, _ => true
  | _, any => true
  | ip left, ip right => left == right
  | fqdn left, fqdn right => eqIgnoreAsciiCase left right
  | email left, email right => eqIgnoreAsciiCase left right
  | derAsn1Dn left, derAsn1Dn right => left == right
  | keyId left, keyId right => left == right
  | _, _ => false

end Identity

end Shuli.Ipsec
