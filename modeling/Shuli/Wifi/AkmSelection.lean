import Shuli.Wifi.ScanSecurity

/-!
The choice of one AKM for a BSS that advertises several. The scan ranks them before the credentials of a
network are known, so a network may be refused at a BSS that advertises an AKM it could have used.
-/

namespace Shuli.Wifi

def AkmSuite.isStrong : AkmSuite → Bool
  | .ftSae | .ftSaeGroupDependentHash | .ftPsk | .sae | .saeGroupDependentHash | .pskSha256 => true
  | _ => false

def AkmSuite.isWeak : AkmSuite → Bool
  | .owe | .psk => true
  | _ => false

def AkmSuite.isEnterprise : AkmSuite → Bool
  | .ieee8021x | .ieee8021xSha256 => true
  | _ => false

def ElementRsn.advertised (rsn : ElementRsn) : List AkmSuite := rsn.akmSuits.filterMap id

/-- The scan settles on an AKM that a network with these credentials can use, if one is advertised. -/
structure Selectable (network : NetworkConfig) (akms : List AkmSuite) : Prop where
  /-- A passphrase is refused only where OWE comes before plain PSK and nothing ranks above them. -/
  password : network.password.isSome → network.eap.isNone → .psk ∈ akms → akms.find? AkmSuite.isWeak = some .owe →
    akms.any AkmSuite.isStrong
  /-- EAP is refused beside any AKM that is not 802.1X. -/
  enterprise : network.eap.isSome → network.password.isNone → akms.any AkmSuite.isEnterprise →
    akms.all AkmSuite.isEnterprise
  /-- OWE is refused beside SAE, FT and PSK-SHA256, and behind plain PSK. -/
  owe : network.password.isNone → network.eap.isNone → .owe ∈ akms →
    akms.find? AkmSuite.isWeak = some .owe ∧ ¬akms.any AkmSuite.isStrong

/-! The loop over the suites -/

/-- What the choice depends on. -/
inductive AkmTier
  | unknown | enterprise | owe | psk | strong
  deriving DecidableEq

def SecurityType.tier : SecurityType → AkmTier
  | .open | .unsupported => .unknown
  | .wpa2Ent | .wpa2EntSha256 => .enterprise
  | .owe => .owe
  | .wpa2Psk => .psk
  | .wpa2PskSha256 | .sae | .saeExtKey | .ftPsk | .ftSae | .ftSaeExtKey => .strong

def AkmTier.better (best : AkmTier) (akm : AkmSuite) : AkmTier :=
  match best with
  | .strong => .strong
  | .owe | .psk => if akm.isStrong then .strong else best
  | .enterprise => if akm.isEnterprise then .enterprise else (akmSecurity akm).tier
  | .unknown => (akmSecurity akm).tier

theorem betterSecurity_tier (best : SecurityType) (akm : AkmSuite) :
    (betterSecurity best (some akm)).tier = best.tier.better akm := by
  cases best <;> cases akm <;> rfl

theorem foldl_betterSecurity_tier (akms : List (Option AkmSuite)) (best : SecurityType) :
    (akms.foldl betterSecurity best).tier = (akms.filterMap id).foldl AkmTier.better best.tier := by
  induction akms generalizing best with
  | nil => rfl
  | cons akm akms ih =>
    cases akm with
    | none => exact ih best
    | some akm =>
      rw [List.foldl_cons, ih, betterSecurity_tier]
      rfl

theorem foldl_better_strong (akms : List AkmSuite) : akms.foldl AkmTier.better .strong = .strong := by
  induction akms with
  | nil => rfl
  | cons akm akms ih => exact ih

theorem foldl_better_weak {best : AkmTier} (weak : best = .owe ∨ best = .psk) (akms : List AkmSuite) :
    akms.foldl AkmTier.better best = if akms.any AkmSuite.isStrong then .strong else best := by
  induction akms with
  | nil => rfl
  | cons akm akms ih =>
    have next : best.better akm = if akm.isStrong then .strong else best := by rcases weak with rfl | rfl <;> rfl
    rw [List.foldl_cons, next, List.any_cons]
    cases akm.isStrong
    · exact ih
    · exact foldl_better_strong akms

def tierOf (akms : List AkmSuite) (rest : AkmTier) : AkmTier :=
  if akms.any AkmSuite.isStrong then .strong
  else ((akms.find? AkmSuite.isWeak).map fun akm => (akmSecurity akm).tier).getD rest

theorem foldl_better_enterprise (akms : List AkmSuite) :
    akms.foldl AkmTier.better .enterprise = tierOf akms .enterprise := by
  induction akms with
  | nil => rfl
  | cons akm akms ih =>
    cases akm
    case owe => exact foldl_better_weak (.inl rfl) akms
    case psk => exact foldl_better_weak (.inr rfl) akms
    case ieee8021x | ieee8021xSha256 => exact ih
    all_goals exact foldl_better_strong akms

theorem foldl_better (akms : List AkmSuite) :
    akms.foldl AkmTier.better .unknown =
      tierOf akms (if akms.any AkmSuite.isEnterprise then .enterprise else .unknown) := by
  cases akms with
  | nil => rfl
  | cons akm akms =>
    cases akm
    case owe => exact foldl_better_weak (.inl rfl) akms
    case psk => exact foldl_better_weak (.inr rfl) akms
    case ieee8021x | ieee8021xSha256 => exact foldl_better_enterprise akms
    all_goals exact foldl_better_strong akms

/-! Acceptance -/

def NetworkConfig.acceptsTier (network : NetworkConfig) : AkmTier → Bool
  | .unknown => false
  | .enterprise => network.eap.isSome && network.password.isNone
  | .owe => network.password.isNone && network.eap.isNone
  | .psk | .strong => network.password.isSome && network.eap.isNone

theorem acceptsSecurity_tier (network : NetworkConfig) {security : SecurityType} (known : security ≠ .open) :
    network.acceptsSecurity security = network.acceptsTier security.tier := by
  cases security <;> first | rfl | exact absurd rfl known

theorem akmSecurity_ne_open (akm : AkmSuite) : akmSecurity akm ≠ .open := by
  cases akm <;> exact nofun

theorem acceptsSecurity_securityFromRsne [RsnCodec] (network : NetworkConfig) {body : Octets} {rsn : ElementRsn}
    (parsed : RsnCodec.parse body = some rsn) (cipher : rsn.groupCipher ≠ some tkip) :
    network.acceptsSecurity (securityFromRsne body).1 = network.acceptsTier (tierOf rsn.advertised
      (if rsn.advertised.any AkmSuite.isEnterprise then .enterprise else .unknown)) := by
  have tier : (rsn.akmSuits.foldl betterSecurity .open).tier = _ :=
    (foldl_betterSecurity_tier rsn.akmSuits .open).trans (foldl_better rsn.advertised)
  rw [← tier]
  simp only [securityFromRsne, parsed, if_neg cipher]
  by_cases none : rsn.akmSuits.foldl betterSecurity .open = .open
  · rw [none]
    rfl
  · rw [if_neg none]
    exact acceptsSecurity_tier network none

section Credentials

variable {akms : List AkmSuite}

variable {akm : AkmSuite}

theorem find_weak_of_mem (mem : akm ∈ akms) (weak : akm.isWeak = true) :
    akms.find? AkmSuite.isWeak = some .owe ∨ akms.find? AkmSuite.isWeak = some .psk := by
  cases found : akms.find? AkmSuite.isWeak with
  | none => exact absurd weak (by simpa using List.find?_eq_none.mp found akm mem)
  | some first =>
    have passed := List.find?_some found
    cases first <;> first | decide | cases passed

theorem all_enterprise_iff :
    akms.all AkmSuite.isEnterprise = true ↔
      akms.any AkmSuite.isStrong = false ∧ akms.find? AkmSuite.isWeak = none := by
  simp only [List.all_eq_true, List.any_eq_false, List.find?_eq_none]
  constructor
  · intro all
    constructor <;> intro akm mem
    all_goals
      have enterprise := all akm mem
      cases akm <;> first | decide | cases enterprise
  · rintro ⟨strong, weak⟩ akm mem
    have strong := strong akm mem
    have weak := weak akm mem
    cases akm <;> first | rfl | exact absurd rfl strong | exact absurd rfl weak

variable {rest : AkmTier}

theorem tierOf_strong (strong : akms.any AkmSuite.isStrong = true) : tierOf akms rest = .strong := if_pos strong

theorem tierOf_weak (strong : akms.any AkmSuite.isStrong = false)
    (weak : akms.find? AkmSuite.isWeak = some akm) : tierOf akms rest = (akmSecurity akm).tier := by
  simp [tierOf, strong, weak]

theorem tierOf_enterprise (all : akms.all AkmSuite.isEnterprise = true) : tierOf akms rest = rest := by
  obtain ⟨strong, weak⟩ := all_enterprise_iff.mp all
  simp [tierOf, strong, weak]

theorem isStrong_of_tier (tier : (akmSecurity akm).tier = .strong) : akm.isStrong = true := by
  cases akm <;> first | rfl | cases tier

theorem eq_psk_of_tier (tier : (akmSecurity akm).tier = .psk) : akm = .psk := by
  cases akm <;> first | rfl | cases tier

theorem eq_owe_of_tier (tier : (akmSecurity akm).tier = .owe) : akm = .owe := by
  cases akm <;> first | rfl | cases tier

theorem isEnterprise_iff_tier : akm.isEnterprise = true ↔ (akmSecurity akm).tier = .enterprise := by
  cases akm <;> decide

/-- With a passphrase: plain PSK behind OWE is passed over. -/
theorem passphrase_selected_iff :
    ((∃ akm ∈ akms, (akmSecurity akm).tier = .psk ∨ (akmSecurity akm).tier = .strong) →
      tierOf akms rest = .psk ∨ tierOf akms rest = .strong) ↔
    (.psk ∈ akms → akms.find? AkmSuite.isWeak = some .owe → akms.any AkmSuite.isStrong = true) := by
  constructor
  · intro selected psk owe
    by_contra weak
    rw [tierOf_weak (Bool.eq_false_iff.mpr weak) owe] at selected
    rcases selected ⟨.psk, psk, .inl rfl⟩ with wrong | wrong <;> cases wrong
  · rintro ranked ⟨akm, mem, tier⟩
    by_cases strong : akms.any AkmSuite.isStrong = true
    · exact .inr (tierOf_strong strong)
    have psk : .psk ∈ akms := by
      rcases tier with tier | tier
      · exact eq_psk_of_tier tier ▸ mem
      · exact absurd (List.any_eq_true.mpr ⟨akm, mem, isStrong_of_tier tier⟩) strong
    rcases find_weak_of_mem psk rfl with owe | found
    · exact absurd (ranked psk owe) strong
    · exact .inl (tierOf_weak (Bool.eq_false_iff.mpr strong) found)

/-- With EAP: 802.1X beside anything else is passed over. -/
theorem enterprise_selected_iff (known : akms.any AkmSuite.isEnterprise = true → rest = .enterprise) :
    ((∃ akm ∈ akms, (akmSecurity akm).tier = .enterprise) → tierOf akms rest = .enterprise) ↔
      (akms.any AkmSuite.isEnterprise = true → akms.all AkmSuite.isEnterprise = true) := by
  have some : (∃ akm ∈ akms, (akmSecurity akm).tier = .enterprise) ↔ akms.any AkmSuite.isEnterprise = true := by
    simp only [List.any_eq_true, isEnterprise_iff_tier]
  rw [some]
  refine forall_congr' fun any => ⟨fun selected => ?_, fun all => (tierOf_enterprise all).trans (known any)⟩
  refine all_enterprise_iff.mpr ⟨?_, ?_⟩
  · refine Bool.eq_false_iff.mpr fun strong => ?_
    rw [tierOf_strong strong] at selected
    cases selected
  · cases found : akms.find? AkmSuite.isWeak with
    | none => rfl
    | some akm =>
      have weak := List.find?_some found
      unfold tierOf at selected
      split at selected
      · cases selected
      · rw [found] at selected
        cases akm <;> first | exact absurd weak (by decide) | cases selected

/-- Without credentials: OWE is passed over behind plain PSK and beside a stronger suite. -/
theorem owe_selected_iff :
    ((∃ akm ∈ akms, (akmSecurity akm).tier = .owe) → tierOf akms rest = .owe) ↔
      (.owe ∈ akms → akms.find? AkmSuite.isWeak = some .owe ∧ ¬akms.any AkmSuite.isStrong = true) := by
  have some : (∃ akm ∈ akms, (akmSecurity akm).tier = .owe) ↔ .owe ∈ akms :=
    ⟨fun ⟨akm, mem, tier⟩ => eq_owe_of_tier tier ▸ mem, fun mem => ⟨.owe, mem, rfl⟩⟩
  rw [some]
  refine forall_congr' fun mem => ⟨fun selected => ?_, fun ⟨weak, strong⟩ => ?_⟩
  · have strong : ¬akms.any AkmSuite.isStrong = true := by
      intro strong
      rw [tierOf_strong strong] at selected
      cases selected
    refine ⟨?_, strong⟩
    rcases find_weak_of_mem mem rfl with owe | psk
    · exact owe
    · rw [tierOf_weak (Bool.eq_false_iff.mpr strong) psk] at selected
      cases selected
  · exact tierOf_weak (Bool.eq_false_iff.mpr strong) weak

end Credentials

theorem acceptsTier_eq_true {network : NetworkConfig} {tier : AkmTier} :
    network.acceptsTier tier = true ↔
      (network.password.isSome ∧ network.eap.isNone ∧ (tier = .psk ∨ tier = .strong)) ∨
      (network.eap.isSome ∧ network.password.isNone ∧ tier = .enterprise) ∨
      (network.password.isNone ∧ network.eap.isNone ∧ tier = .owe) := by
  cases tier <;> simp [NetworkConfig.acceptsTier]

theorem selected_iff (network : NetworkConfig) (akms : List AkmSuite) :
    ((∃ akm ∈ akms, network.acceptsTier (akmSecurity akm).tier = true) →
      network.acceptsTier (tierOf akms
        (if akms.any AkmSuite.isEnterprise then .enterprise else .unknown)) = true) ↔ Selectable network akms := by
  generalize rest : (if akms.any AkmSuite.isEnterprise then AkmTier.enterprise else .unknown) = other
  have known : akms.any AkmSuite.isEnterprise = true → other = .enterprise := fun any => by
    rw [← rest, if_pos any]
  have password := @passphrase_selected_iff akms other
  have enterprise := enterprise_selected_iff known
  have owe := @owe_selected_iff akms other
  have fields : Selectable network akms ↔ _ ∧ _ ∧ _ :=
    ⟨fun selectable => ⟨selectable.password, selectable.enterprise, selectable.owe⟩, fun ⟨a, b, c⟩ => ⟨a, b, c⟩⟩
  rw [fields, ← password, ← enterprise, ← owe]
  simp only [acceptsTier_eq_true]
  cases network.password <;> cases network.eap <;> simp

section Choice

variable [RsnCodec] [Elements]

theorem detectSecurity_of_rsne {ies : Octets} {element : Element} (privacy : Bool)
    (first : firstRsn ies = some element) (body : element.value ≠ []) :
    (detectSecurityWithPrivacy ies privacy).security = (securityFromRsne element.value).1 := by
  have apRsne := detectSecurity_apRsne ies privacy
  have long := (rsne_length_iff ies).mpr ⟨element, first, body⟩
  rw [← apRsne] at long
  refine (congrArg Prod.fst (if_pos long)).trans ?_
  change (securityFromRsne ((detectSecurityWithPrivacy ies privacy).apRsne.drop 2)).1 = _
  rw [apRsne, first]
  rfl

/-- The AKM that is chosen for a BSS is one that the network accepts, if it accepts one of those advertised, just
when the kinds of AKM stand in the list in a way that suits the credentials. -/
theorem akm_selection_complete_iff (network : NetworkConfig) {ies : Octets} {element : Element} {rsn : ElementRsn}
    (privacy : Bool) (first : firstRsn ies = some element) (body : element.value ≠ [])
    (parsed : RsnCodec.parse element.value = some rsn) (cipher : rsn.groupCipher ≠ some tkip) :
    ((∃ akm ∈ rsn.advertised, network.acceptsSecurity (akmSecurity akm) = true) →
      network.acceptsSecurity (detectSecurityWithPrivacy ies privacy).security = true) ↔
      Selectable network rsn.advertised := by
  rw [detectSecurity_of_rsne privacy first body, acceptsSecurity_securityFromRsne network parsed cipher]
  simp only [acceptsSecurity_tier network (akmSecurity_ne_open _)]
  exact selected_iff network rsn.advertised

end Choice

section Mixed

def mixedRsne (first second : UInt8) : Octets :=
  [48, 22, 1, 0, 0x00, 0x0f, 0xac, 4, 1, 0, 0x00, 0x0f, 0xac, 4, 2, 0, 0x00, 0x0f, 0xac, first,
    0x00, 0x0f, 0xac, second]

def mixedSuite : UInt8 → Option AkmSuite
  | 1 => some .ieee8021x
  | 2 => some .psk
  | 8 => some .sae
  | _ => none

@[reducible] def mixedRsnCodec : RsnCodec where
  parse body := if body.length = 22 then
    some ⟨some (.other 0x000fac04), [mixedSuite (body.getD 17 0), mixedSuite (body.getD 21 0)]⟩ else none
  parseGroupMgmtCipher _ := none

attribute [local instance] mixedRsnCodec plainElements

def campusNetwork : NetworkConfig :=
  { homeNetwork with password := none, eap := some ⟨"user", none, none, none, none⟩ }

/-- A BSS with 802.1X and SAE is classified as SAE, which the EAP credentials cannot join. -/
theorem akm_selection_misses :
    (detectSecurityWithPrivacy (mixedRsne 1 8) false).security = .sae ∧
      campusNetwork.acceptsSecurity (akmSecurity .ieee8021x) = true ∧
      campusNetwork.acceptsSecurity (detectSecurityWithPrivacy (mixedRsne 1 8) false).security = false := by
  decide

/-- At a BSS with 802.1X and SAE the passphrase of a network can be used. -/
theorem akm_selection_complete_home :
    homeNetwork.acceptsSecurity (detectSecurityWithPrivacy (mixedRsne 1 8) false).security = true := by
  have first : firstRsn (mixedRsne 1 8) = some ⟨48, (mixedRsne 1 8).drop 2⟩ := by decide
  have parsed : RsnCodec.parse ((mixedRsne 1 8).drop 2) =
      some ⟨some (.other 0x000fac04), [some .ieee8021x, some .sae]⟩ := by decide
  have complete := akm_selection_complete_iff homeNetwork false first (by decide) parsed (by decide)
  exact complete.mpr ⟨by decide, by decide, by decide⟩ ⟨.sae, by decide, by decide⟩

end Mixed

end Shuli.Wifi
