import Shuli.Ipsec.RoundTrip
import Shuli.Ipsec.Selectors

/-!
Configuration payloads beside RFC 7296, section 3.15: the encoder writes the attributes without the CFG type
and the reserved octets, the decoder takes these for an attribute, and the interpreter gives every address a
full prefix.
-/

namespace Shuli.Ipsec

def attributeOctets (attr : ConfigAttribute) : Octets :=
  be16 attr.type ++ be16 (UInt16.ofNat attr.value.length) ++ attr.value

/-- The CFG type, three reserved octets and the attributes. -/
def configBody (cfgType : UInt8) (attributes : List ConfigAttribute) : Octets :=
  [cfgType, 0, 0, 0] ++ attributes.flatMap attributeOctets

def cfgReply : UInt8 := 2

/-- The length of the netmask, if one is listed. -/
def netmaskLen (attributes : List ConfigAttribute) : UInt8 :=
  match attributes.find? fun attr => attr.type = 2 ∧ attr.value.length = 4 with
  | some mask => UInt8.ofNat (leadingZeros 32 (~~~ofBe32 mask.value).toNat)
  | none => 32

def listedAddresses (attributes : List ConfigAttribute) : List IpNet :=
  attributes.filterMap fun attr =>
    if attr.type = 1 ∧ attr.value.length = 4 then some ⟨.ofOctets4 attr.value, netmaskLen attributes⟩
    else if attr.type = 8 ∧ attr.value.length = 17 then
      some ⟨.ofOctets16 (attr.value.take 16), attr.value.getD 16 0⟩
    else none

def listedDns (attributes : List ConfigAttribute) : List IpAddr :=
  attributes.filterMap fun attr =>
    if attr.type = 3 ∧ attr.value.length = 4 then some (.ofOctets4 attr.value)
    else if attr.type = 10 ∧ attr.value.length = 16 then some (.ofOctets16 attr.value)
    else none

/-- The lengths of a reply's IPv6 attributes. -/
def ReplyLengths (attributes : List ConfigAttribute) : Prop :=
  ∀ attr ∈ attributes, (attr.type = 8 → attr.value.length = 0 ∨ attr.value.length = 17) ∧
    (attr.type = 10 → attr.value.length = 0 ∨ attr.value.length = 16)

def IpNet.host (self : IpNet) : IpNet := ⟨self.address, if self.address.isIpv4 then 32 else 128⟩

variable {attributes : List ConfigAttribute}

theorem encodeConfig_eq_ok {body : Octets} (written : encodeConfig attributes = .ok body) :
    body = attributes.flatMap attributeOctets := by
  induction attributes generalizing body with
  | nil =>
    cases written
    rfl
  | cons attr rest ih =>
    rw [encodeConfig] at written
    split at written
    · cases written
    · obtain ⟨tail, more, whole⟩ := Except.bind_eq_ok.mp written
      cases whole
      rw [ih more]
      rfl

/-- The decoder takes the CFG type and the reserved octets for an attribute. -/
theorem decodePayload_configBody (cfgType next : UInt8) (formed : (Payload.config attributes).WellFormed) :
    decodePayload PayloadType.CP (configBody cfgType attributes) next =
      .ok (.config (⟨ofBe16 [cfgType, 0] &&& 0x7fff, []⟩ :: attributes)) := by
  obtain ⟨body, written, read⟩ := decodeConfig_encodeConfig formed
  obtain rfl := encodeConfig_eq_ok written
  rw [configBody]
  generalize attributes.flatMap attributeOctets = octets at read ⊢
  have first : decodeConfig (octets.length + 3 + 1) ([cfgType, 0, 0, 0] ++ octets) =
      .ok (⟨ofBe16 [cfgType, 0] &&& 0x7fff, []⟩ :: attributes) := by
    change (decodeConfig (octets.length + 3) octets >>= _) = _
    rw [read _ (Nat.le_add_right ..)]
    rfl
  exact congrArg (· >>= fun found => pure (Payload.config found)) first

theorem parse_addresses (lengths : ReplyLengths attributes) :
    attributes.filterMap configAddress = (listedAddresses attributes).map IpNet.host := by
  rw [listedAddresses, List.map_filterMap]
  refine List.filterMap_congr fun attr among => ?_
  obtain ⟨six, _⟩ := lengths attr among
  unfold configAddress
  split_ifs <;> simp_all [IpNet.new, IpNet.host, IpAddr.ofOctets4, IpAddr.ofOctets16, IpAddr.isIpv4]

theorem parse_dns (lengths : ReplyLengths attributes) : attributes.filterMap configDns = listedDns attributes := by
  refine List.filterMap_congr fun attr among => ?_
  obtain ⟨_, ten⟩ := lengths attr among
  unfold configDns
  split_ifs <;> simp_all [List.take_of_length_le]

/-- No payload is written as the RFC has it, none written so is read back, and the addresses of a reply are
those it lists exactly if each of them is a host. -/
theorem config_payload_departs (cfgType next : UInt8) (attributes : List ConfigAttribute) :
    (Payload.config attributes).encodeBody ≠ .ok (configBody cfgType attributes) ∧
    ((Payload.config attributes).WellFormed →
      decodePayload PayloadType.CP (configBody cfgType attributes) next =
        .ok (.config (⟨ofBe16 [cfgType, 0] &&& 0x7fff, []⟩ :: attributes))) ∧
    (ReplyLengths attributes →
      (parseConfigPayload [.config (⟨ofBe16 [cfgReply, 0] &&& 0x7fff, []⟩ :: attributes)] =
          (listedAddresses attributes, listedDns attributes) ↔
        ∀ net ∈ listedAddresses attributes, net.prefixLen = if net.address.isIpv4 then 32 else 128)) := by
  refine ⟨fun written => ?_, decodePayload_configBody cfgType next, fun lengths => ?_⟩
  · have same := congrArg List.length (encodeConfig_eq_ok written)
    simp [configBody] at same
    omega
  · have plain : parseConfigPayload [.config (⟨ofBe16 [cfgReply, 0] &&& 0x7fff, []⟩ :: attributes)] =
        ((listedAddresses attributes).map IpNet.host, listedDns attributes) := by
      rw [← parse_addresses lengths, ← parse_dns lengths]
      simp [parseConfigPayload, configAddress, configDns]
    rw [plain, Prod.mk.injEq, and_iff_left rfl]
    nth_rewrite 2 [← List.map_id (listedAddresses attributes)]
    rw [List.map_inj_left]
    refine forall₂_congr fun net _ => ?_
    rw [IpNet.host, id_eq, IpNet.mk.injEq, and_iff_right rfl, eq_comm]

def officeReply : List ConfigAttribute := [⟨1, [10, 0, 0, 1]⟩, ⟨2, [255, 255, 255, 0]⟩]

/-- The header is missing, and the netmask does not count. -/
theorem config_reply_misread :
    (Payload.config officeReply).encodeBody = .ok [0, 1, 0, 4, 10, 0, 0, 1, 0, 2, 0, 4, 255, 255, 255, 0] ∧
      configBody cfgReply officeReply = [2, 0, 0, 0, 0, 1, 0, 4, 10, 0, 0, 1, 0, 2, 0, 4, 255, 255, 255, 0] ∧
      parseConfigPayload [.config officeReply] = ([⟨.v4 0x0a000001, 32⟩], []) ∧
      listedAddresses officeReply = [⟨.v4 0x0a000001, 24⟩] := by
  decide

end Shuli.Ipsec
