import Shuli.Tlv
import Shuli.Wifi.OpenAssociation

/-!
The security of a BSS as the scan detects it from the information elements (`detect_security_with_privacy`
of `scan.rs`). A BSS that is encrypted in a way that cannot be joined must not pass as open.
-/

namespace Shuli.Wifi

def ieIdVendor : UInt8 := 0xdd

def wpaIeOui : Octets := [0x00, 0x50, 0xf2]

def wpaIeType : UInt8 := 1

structure ElementRsn where
  groupCipher : Option CipherSuite
  akmSuits : List (Option AkmSuite)
  deriving DecidableEq, Repr

/-- The parsers of the netlink crate for the body of an RSNE, and for its group management cipher. -/
class RsnCodec where
  parse : Octets → Option ElementRsn
  parseGroupMgmtCipher : Octets → Option CipherSuite

def tkip : CipherSuite := .other 0x000fac02

structure BssScanSecurity where
  security : SecurityType
  apRsne : Octets
  apRsnxe : Octets
  groupMgmtCipher : CipherSuite
  mdie : Option MdieInfo
  unsupportedReason : Option String
  deriving DecidableEq, Repr

def securityName : SecurityType → String
  | .open => "Open"
  | .wpa2Psk | .wpa2PskSha256 => "WPA2"
  | .wpa2Ent | .wpa2EntSha256 => "WPA2-Enterprise"
  | .owe => "OWE"
  | .sae | .saeExtKey => "WPA3"
  | .ftPsk => "WPA2"
  | .ftSae | .ftSaeExtKey => "WPA3"
  | .unsupported => "WPA"

def akmRank : SecurityType → UInt8
  | .ftSae => 5
  | .ftSaeExtKey => 5
  | .ftPsk => 4
  | .sae => 4
  | .saeExtKey => 4
  | .wpa2PskSha256 => 3
  | .owe | .wpa2Psk => 2
  | .wpa2EntSha256 | .wpa2Ent => 1
  | .open | .unsupported => 0

def akmSecurity : AkmSuite → SecurityType
  | .ftSae => .ftSae
  | .ftSaeGroupDependentHash => .ftSaeExtKey
  | .ftPsk => .ftPsk
  | .sae => .sae
  | .saeGroupDependentHash => .saeExtKey
  | .owe => .owe
  | .psk => .wpa2Psk
  | .pskSha256 => .wpa2PskSha256
  | .ieee8021x => .wpa2Ent
  | .ieee8021xSha256 => .wpa2EntSha256

def betterSecurity (best : SecurityType) : Option AkmSuite → SecurityType
  | none => best
  | some akm => if akmRank best < akmRank (akmSecurity akm) then akmSecurity akm else best

section Detection

variable [RsnCodec]

def securityFromRsne (body : Octets) : SecurityType × Option String :=
  match RsnCodec.parse body with
  | none => (.unsupported, some "unparsable security information")
  | some rsn =>
    let best := rsn.akmSuits.foldl betterSecurity .open
    if rsn.groupCipher = some tkip then
      let reason := if best = .open then "TKIP is deprecated and not supported by shuli"
        else "TKIP " ++ securityName best ++ " is deprecated and not supported by shuli"
      (.unsupported, some reason)
    else if best = .open then (.unsupported, some "unsupported security mode")
    else (best, none)

def negotiateGroupMgmtCipher (apRsne : Octets) : CipherSuite :=
  match RsnCodec.parseGroupMgmtCipher apRsne with
  | none => .bipCmac128
  | some ap => ([.bipGmac256, .bipCmac256, .bipGmac128, .bipCmac128].find? (ap == ·)).getD .bipCmac128

structure Gathered where
  rsne : Octets
  rsnxe : Octets
  mdie : Option MdieInfo
  wpaIe : Bool
  deriving DecidableEq, Repr

def isWpaIe (body : Octets) : Bool :=
  4 ≤ body.length && body.take 3 == wpaIeOui && body.getD 3 0 == wpaIeType

def Gathered.note [Elements] (self : Gathered) (element : Element) : Gathered :=
  if element.tag = elementIdRsn ∧ self.rsne = [] then { self with rsne := element.octets }
  else if element.tag = elementIdRsnExt ∧ self.rsnxe = [] then { self with rsnxe := element.octets }
  else if element.tag = elementIdMdie ∧ self.mdie = none then
    { self with mdie := (Elements.parseMdie element.value).map fun (mdid, ftCapab) => ⟨mdid, ftCapab⟩ }
  else if element.tag = ieIdVendor ∧ self.wpaIe = false then { self with wpaIe := isWpaIe element.value }
  else self

def detectSecurityWithPrivacy [Elements] (ies : Octets) (privacy : Bool) : BssScanSecurity :=
  let found := foldElements Gathered.note ies.length ies ⟨[], [], none, false⟩
  let (security, unsupportedReason) :=
    if 2 < found.rsne.length then securityFromRsne (found.rsne.drop 2)
    else if found.wpaIe then (.unsupported, some "WPA1 is not supported")
    else if privacy then (.unsupported, some "WEP/privacy-only networks are not supported")
    else (.open, none)
  let groupMgmtCipher := if 2 < found.rsne.length then negotiateGroupMgmtCipher found.rsne else .bipCmac128
  ⟨security, found.rsne, found.rsnxe, groupMgmtCipher, found.mdie, unsupportedReason⟩

end Detection

/-- The body of an RSNE never yields an open BSS. -/
theorem securityFromRsne_ne_open [RsnCodec] (body : Octets) : (securityFromRsne body).1 ≠ .open := by
  unfold securityFromRsne
  split
  · exact nofun
  · rename_i rsn _
    by_cases deprecated : rsn.groupCipher = some tkip
    · rw [if_pos deprecated]
      exact nofun
    · rw [if_neg deprecated]
      by_cases unusable : rsn.akmSuits.foldl betterSecurity .open = .open
      · rw [if_pos unusable]
        exact nofun
      · rw [if_neg unusable]
        exact unusable

/-! What the loop collects. -/

def firstRsn (ies : Octets) : Option Element := (elements ies).find? (·.tag == elementIdRsn)

def hasWpaIe (ies : Octets) : Bool := (elements ies).any fun element =>
  element.tag == ieIdVendor && isWpaIe element.value

section Loop

variable [Elements] {self : Gathered} {element : Element}

theorem note_rsne : (self.note element).rsne =
    if element.tag = elementIdRsn ∧ self.rsne = [] then element.octets else self.rsne := by
  unfold Gathered.note
  split_ifs <;> rfl

theorem note_wpaIe : (self.note element).wpaIe =
    (self.wpaIe || element.tag == ieIdVendor && isWpaIe element.value) := by
  unfold Gathered.note
  by_cases vendor : element.tag = ieIdVendor
  · -- the tags of the other arms are others
    have rsn : element.tag ≠ elementIdRsn := vendor ▸ by decide
    have rsnExt : element.tag ≠ elementIdRsnExt := vendor ▸ by decide
    have mdie : element.tag ≠ elementIdMdie := vendor ▸ by decide
    rw [if_neg fun arm => rsn arm.1, if_neg fun arm => rsnExt arm.1, if_neg fun arm => mdie arm.1]
    cases marked : self.wpaIe <;> simp [vendor, marked]
  · have other : (element.tag == ieIdVendor) = false := beq_eq_false_iff_ne.mpr vendor
    rw [other, Bool.false_and, Bool.or_false]
    split_ifs with _ _ _ arm
    · rfl
    · rfl
    · rfl
    · exact absurd arm.1 vendor
    · rfl

theorem foldl_note_rsne (list : List Element) : (list.foldl Gathered.note self).rsne =
    if self.rsne = [] then ((list.find? (·.tag == elementIdRsn)).map Element.octets).getD [] else self.rsne := by
  induction list generalizing self with
  | nil =>
    split
    · assumption
    · rfl
  | cons element list ih =>
    have noted : (self.note element).rsne = _ := note_rsne
    rw [List.foldl_cons, ih]
    by_cases empty : self.rsne = []
    · by_cases rsn : element.tag = elementIdRsn
      · rw [if_pos ⟨rsn, empty⟩] at noted
        rw [noted, if_pos empty, List.find?_cons, beq_iff_eq.mpr rsn]
        rfl
      · rw [if_neg fun arm => rsn arm.1] at noted
        rw [noted, if_pos empty, if_pos empty, List.find?_cons, beq_eq_false_iff_ne.mpr rsn]
    · rw [if_neg fun arm => empty arm.2] at noted
      rw [noted, if_neg empty, if_neg empty]

theorem foldl_note_wpaIe (list : List Element) : (list.foldl Gathered.note self).wpaIe =
    (self.wpaIe || list.any fun element => element.tag == ieIdVendor && isWpaIe element.value) := by
  induction list generalizing self with
  | nil => exact (Bool.or_false _).symm
  | cons element list ih => rw [List.foldl_cons, ih, note_wpaIe, List.any_cons, Bool.or_assoc]

end Loop

section Open

variable [RsnCodec] [Elements]

theorem detectSecurity_apRsne (ies : Octets) (privacy : Bool) :
    (detectSecurityWithPrivacy ies privacy).apRsne = ((firstRsn ies).map Element.octets).getD [] := by
  change (foldElements Gathered.note ies.length ies ⟨[], [], none, false⟩).rsne = _
  rw [foldElements_eq, foldl_note_rsne]
  rfl

omit [RsnCodec] [Elements] in
theorem rsne_length_iff (ies : Octets) : 2 < (((firstRsn ies).map Element.octets).getD []).length ↔
    ∃ rsn ∈ firstRsn ies, rsn.value ≠ [] := by
  rcases firstRsn ies with _ | rsn
  · simp
  · simp [Element.octets, List.length_pos_iff]

/-- An element with an empty value is not read as an RSN element. -/
theorem detectSecurity_open_iff (ies : Octets) (privacy : Bool) :
    (detectSecurityWithPrivacy ies privacy).security = .open ↔
      (∀ rsn ∈ firstRsn ies, rsn.value = []) ∧ hasWpaIe ies = false ∧ privacy = false := by
  have apRsne := detectSecurity_apRsne ies privacy
  have wpaIe : (foldElements Gathered.note ies.length ies ⟨[], [], none, false⟩).wpaIe = hasWpaIe ies := by
    rw [foldElements_eq, foldl_note_wpaIe]
    rfl
  have long := rsne_length_iff ies
  rw [← apRsne] at long
  by_cases body : ∃ rsn ∈ firstRsn ies, rsn.value ≠ []
  · have security : (detectSecurityWithPrivacy ies privacy).security =
        (securityFromRsne ((detectSecurityWithPrivacy ies privacy).apRsne.drop 2)).1 :=
      congrArg Prod.fst (if_pos (long.mpr body))
    rw [security]
    refine iff_of_false (securityFromRsne_ne_open _) fun ⟨empty, _⟩ => ?_
    obtain ⟨rsn, found, value⟩ := body
    exact value (empty rsn found)
  · have empty : ∀ rsn ∈ firstRsn ies, rsn.value = [] := by
      simpa only [not_exists, not_and, not_not] using body
    have security : (detectSecurityWithPrivacy ies privacy).security =
        if hasWpaIe ies then .unsupported else if privacy then .unsupported else .open := by
      rw [← wpaIe]
      refine (congrArg Prod.fst (if_neg fun longer => body (long.mp longer))).trans ?_
      split_ifs <;> rfl
    rw [security, and_iff_right empty]
    cases hasWpaIe ies <;> cases privacy <;> decide

/-- Security classification fails closed: a BSS is classified as open just if it has no RSN element of any
length, no WPA1 vendor element and no privacy bit, unless its first RSN element is empty and nothing else
gives the encryption away. -/
theorem open_classification_iff (ies : Octets) (privacy : Bool) :
    ((detectSecurityWithPrivacy ies privacy).security = .open ↔
      (∀ element ∈ elements ies, element.tag ≠ elementIdRsn) ∧ hasWpaIe ies = false ∧ privacy = false) ↔
    ¬((∃ rsn ∈ firstRsn ies, rsn.value = []) ∧ hasWpaIe ies = false ∧ privacy = false) := by
  rw [detectSecurity_open_iff]
  rcases first : firstRsn ies with _ | rsn
  · have absent : ∀ element ∈ elements ies, element.tag ≠ elementIdRsn := by
      simpa [firstRsn] using first
    rw [iff_true_intro absent]
    simp
  · have present : ¬∀ element ∈ elements ies, element.tag ≠ elementIdRsn := by
      intro absent
      have own := List.find?_some (p := fun element : Element => element.tag == elementIdRsn) first
      exact absent rsn (List.mem_of_find?_eq_some first) (beq_iff_eq.mp own)
    rw [iff_false_intro present]
    simp

end Open

section Sample

def pskRsne : Octets := [48, 18, 1, 0, 0x00, 0x0f, 0xac, 4, 1, 0, 0x00, 0x0f, 0xac, 4, 1, 0, 0x00, 0x0f, 0xac, 2]

@[reducible] def pskRsnCodec : RsnCodec where
  parse body := if body = pskRsne.drop 2 then some ⟨some (.other 0x000fac04), [some .psk]⟩ else none
  parseGroupMgmtCipher _ := none

attribute [local instance] pskRsnCodec plainElements

example : (detectSecurityWithPrivacy pskRsne false).security = .wpa2Psk := by decide

/-- An empty RSN element in front of an RSNE makes a BSS of WPA2-PSK pass as open. -/
theorem empty_rsne_passes_as_open :
    (detectSecurityWithPrivacy ([48, 0] ++ pskRsne) false).security = .open ∧
      ¬((∀ element ∈ elements ([48, 0] ++ pskRsne), element.tag ≠ elementIdRsn) ∧
        hasWpaIe ([48, 0] ++ pskRsne) = false ∧ false = false) := by
  decide

end Sample

end Shuli.Wifi
