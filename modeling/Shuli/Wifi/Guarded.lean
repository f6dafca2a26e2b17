import Shuli.Wifi.Events
import Shuli.Wifi.Passive

/-!
An attempt for a protected BSS and the association requests that it sends. Each handler keeps one
invariant: the selected BSS is not open, a PMKSA is in use only for an AKM that has an element for
it, an FT roam heads for an FT BSS, and everything sent so far was protected. The one step that can
break it is a successful authentication result for an AKM that the open-system branches do not name.
-/

namespace Shuli.Wifi

open Fallible
open Shuli.Core (WifiError Tls)

/-- Elements that begin with a whole RSN element. -/
def LeadsWithRsne (ies : Octets) : Prop :=
  ∃ len rest, ies = elementIdRsn :: len :: rest ∧ len.toNat ≤ rest.length

variable {ies : Octets}

theorem LeadsWithRsne.append (leads : LeadsWithRsne ies) (more : Octets) :
    LeadsWithRsne (ies ++ more) := by
  obtain ⟨len, rest, rfl, fits⟩ := leads
  refine ⟨len, rest ++ more, rfl, ?_⟩
  rw [List.length_append]
  omega

theorem LeadsWithRsne.extract (leads : LeadsWithRsne ies) :
    (extractRsnFromIes ies).isSome := by
  obtain ⟨len, rest, rfl, fits⟩ := leads
  have room : ¬rest.length < len.toNat := Nat.not_lt.mpr fits
  simp [extractRsnFromIes, extractRsnLoop, elementIdRsn, room]

/-- What the netlink crate documents of its element builders: each yields an RSN element, and the
capability setters change only bits of it. -/
class LawfulElements [Elements] : Prop where
  rsnIe_leads : ∀ builder pmkid cipher, LeadsWithRsne (Elements.rsnIe builder pmkid cipher)
  setOcvc_leads : ∀ ies, LeadsWithRsne ies → LeadsWithRsne (Elements.rsneSetOcvc ies)
  setExtKeyId_leads : ∀ ies, LeadsWithRsne ies → LeadsWithRsne (Elements.rsneSetExtKeyId ies)

/-- An entry of the trace that does not treat the BSS as open: an association or connect request
carries an RSN element, and no connection was declared as an open one. -/
def Action.Protected : Action → Prop
  | .request (.associate _ _ _ _ ies _ _) => (extractRsnFromIes ies).isSome
  | .request (.connect _ _ _ ies _ _ _ _) => (extractRsnFromIes ies).isSome
  | .connected .openNetwork => False
  | _ => True

instance : DecidablePred Action.Protected := fun action => by
  unfold Action.Protected
  split <;> infer_instance

theorem Request.Bare.safe {req : Request} (bare : req.Bare) : (Action.request req).Protected := by
  cases req <;> trivial

/-- The invariant, over the fields that it reads. -/
structure Guard (security : SecurityType) (pmksaInUse : Option PmksaEntry) (ftRoam : Option FtRoam)
    (trace : List Action) : Prop where
  secured : security ≠ .open
  cached : pmksaInUse.isSome → security.isCached
  target : ∀ roam, ftRoam = some roam → roam.target.security.isFt
  sent : ∀ action ∈ trace, action.Protected

theorem SecurityType.isFt_ne_open {security : SecurityType} (ft : security.isFt) : security ≠ .open := by
  rintro rfl
  cases ft

theorem SecurityType.isFt_isCached {security : SecurityType} (ft : security.isFt) :
    security.isCached := by
  revert ft
  cases security <;> decide

def SecurityType.hasOpenSystemIes : SecurityType → Bool
  | .owe | .wpa2Psk | .wpa2PskSha256 | .wpa2Ent | .wpa2EntSha256 | .ftPsk => true
  | _ => false

section

variable [Tls] [Sae] [Owe]

namespace WifiIface

def Guarded (self : WifiIface) : Prop :=
  Guard self.link.bssInfo.security self.link.pmksaInUse self.roam.ftRoam self.trace

theorem Guarded.record {self : WifiIface} (guarded : self.Guarded) {action : Action}
    (safe : action.Protected) : (self.record action).Guarded := by
  refine ⟨guarded.secured, guarded.cached, guarded.target, fun other sent => ?_⟩
  rcases List.mem_append.mp sent with before | now
  · exact guarded.sent other before
  · rw [List.mem_singleton.mp now]
    exact safe

end WifiIface

open WifiIface (Guarded)

instance : Steady Guarded where
  quiet guarded same := by
    simp only [WifiIface.face, Face.mk.injEq] at same
    obtain ⟨bss, pmksa, roam, -, trace⟩ := same
    rwa [Guarded, bss, pmksa, roam, trace] at guarded
  request bare guarded := guarded.record bare.safe
  connected cause closed guarded := by
    cases cause with
    | openNetwork => exact absurd rfl closed
    | _ => exact guarded.record trivial
  pinned cached guarded := ⟨guarded.secured, fun _ => cached, guarded.target, guarded.sent⟩
  unpinned guarded := ⟨guarded.secured, fun used => (by cases used), guarded.target, guarded.sent⟩

variable {env : Env}

theorem request_guarded {req : Request} (safe : (Action.request req).Protected) : Keeps Guarded (request env req) :=
  request_grows fun guarded => guarded.record safe

/-! ### Parts of the attempt that send no elements -/

variable {authData : Octets}

theorem authenticateSae_guarded : Keeps Guarded (authenticateSae env authData) :=
  Keeps.get_bind fun _ _ => request_kept trivial

theorem sendSaeCommit_guarded : Keeps Guarded (sendSaeCommit env authData) :=
  orFail_kept (Keeps.bind (authenticateSae_guarded) fun _ => quiet rfl)

theorem sendSaeConfirm_guarded : Keeps Guarded (sendSaeConfirm env authData) :=
  orFail_kept (Keeps.bind (authenticateSae_guarded) fun _ => quiet rfl)

theorem resetSync_guarded : Keeps Guarded (resetSync : Iface Unit) := quiet rfl

theorem restartSaeWithHnp_guarded : Keeps Guarded (restartSaeWithHnp env) := by
  refine Keeps.get_bind fun self guarded => ?_
  split
  · exact quiet rfl
  · split
    · exact quiet rfl
    · refine Keeps.bind (quiet rfl) fun _ => ?_
      exact Keeps.bind resetSync_guarded fun _ => sendSaeCommit_guarded

theorem sendCommitWithToken_guarded {token : Octets} :
    Keeps Guarded (sendCommitWithToken env token) := by
  refine Keeps.get_bind fun self guarded => ?_
  split
  · exact Keeps.pure _
  · refine Keeps.bind (quiet rfl) fun _ => ?_
    split
    · exact quiet rfl
    · exact Keeps.bind resetSync_guarded fun _ => sendSaeCommit_guarded

theorem retransmitSae_guarded : Keeps Guarded (retransmitSae env) := by
  refine Keeps.bind (quiet rfl) fun _ => Keeps.get_bind fun self guarded => ?_
  refine Keeps.ite (fun _ => sendSaeCommit_guarded) fun _ => ?_
  split
  · exact quiet rfl
  · refine Keeps.bind (quiet rfl) fun _ => ?_
    split
    · exact quiet rfl
    · exact sendSaeConfirm_guarded

end

section

variable [Elements] [LawfulElements]

theorem Link.announceCapabilities_leads (link : Link) (leads : LeadsWithRsne ies) :
    LeadsWithRsne (link.announceCapabilities ies) := by
  have withOcv : LeadsWithRsne (if link.network.ocv then Elements.rsneSetOcvc ies else ies) := by
    split
    · exact LawfulElements.setOcvc_leads ies leads
    · exact leads
  unfold Link.announceCapabilities
  dsimp only
  split
  · exact LawfulElements.setExtKeyId_leads _ withOcv
  · exact withOcv

theorem Link.ie_leads (link : Link) (builder : RsnIe) (pmkid : Option (Block 16)) :
    LeadsWithRsne (link.ie builder pmkid) := LawfulElements.rsnIe_leads builder pmkid _

theorem Link.rsneWithPmkid_leads (link : Link) (pmkid : Option (Block 16))
    (secured : link.bssInfo.security ≠ .open) (supported : link.bssInfo.security ≠ .unsupported) :
    LeadsWithRsne (link.rsneWithPmkid pmkid) := by
  unfold Link.rsneWithPmkid
  cases security : link.bssInfo.security with
  | «open» => exact absurd security secured
  | unsupported => exact absurd security supported
  | _ => exact link.ie_leads _ _

omit [LawfulElements] in
theorem Link.appendFtMdie_leads {link : Link} {ies out : Octets} (leads : LeadsWithRsne ies)
    (appended : link.appendFtMdie ies = .ok out) : LeadsWithRsne out := by
  unfold Link.appendFtMdie at appended
  split at appended
  · cases appended
  · cases appended
    exact leads.append _

theorem Link.saeAssociationIes_leads {link : Link}
    (built : link.saeAssociationIes = .ok ies) : LeadsWithRsne ies := by
  unfold Link.saeAssociationIes at built
  split at built
  · exact Link.appendFtMdie_leads (link.ie_leads _ _) built
  · cases built
    exact link.ie_leads _ _

theorem Link.openSystemAssociation_leads {link : Link} {dhElement ies : Octets} {mfp : Bool}
    (named : link.bssInfo.security.hasOpenSystemIes)
    (built : link.openSystemAssociation dhElement = .ok (ies, mfp)) : LeadsWithRsne ies := by
  unfold Link.openSystemAssociation at built
  cases security : link.bssInfo.security <;> rw [security] at built named <;> try cases named
  case owe =>
    cases built
    exact (link.ie_leads _ _).append _
  case ftPsk =>
    simp only [Except.bind_eq_ok] at built
    obtain ⟨appended, found, rest⟩ := built
    cases rest
    exact Link.appendFtMdie_leads (link.ie_leads _ _) found
  all_goals
    cases built
    exact link.ie_leads _ _

end

section

variable [Tls] [Sae] [Owe] [Elements] [LawfulElements]

open WifiIface (Guarded)

/-! ### The attempt -/

instance : Attempting Guarded where
  reset guarded :=
    ⟨guarded.secured, fun used => (by cases used), fun _ started => (by cases started), guarded.sent⟩
  connects built supported guarded := by
    refine guarded.record ?_
    rw [if_neg built.secured]
    refine (Link.rsneWithPmkid_leads _ _ built.secured fun refused => ?_).extract
    rw [refused] at supported
    cases supported

variable {env : Env}

theorem associate_guarded (mfpRequired : Bool) (leads : LeadsWithRsne ies) :
    Keeps Guarded (associate env ies mfpRequired) := by
  refine Keeps.get_bind fun self guarded => Keeps.bind (quiet rfl) fun _ => ?_
  exact request_guarded (self.link.announceCapabilities_leads leads).extract

theorem sendOutAuthRequest_establishes [Primitives] {self : WifiIface}
    (secured : self.link.bssInfo.security ≠ .open) (sent : ∀ action ∈ self.trace, action.Protected) :
    (after (sendOutAuthRequest env) self).Guarded := by
  refine authenticateSelected_kept _ ⟨secured, ?_, ?_, sent⟩
  · intro used
    cases used
  · intro roam started
    cases started

theorem associateWithPmksa_guarded [Primitives] : Keeps Guarded (associateWithPmksa env) := by
  refine Keeps.get_bind fun self guarded => ?_
  cases used : self.link.pmksaInUse with
  | none => exact Keeps.pure _
  | some entry =>
    have cached : self.link.bssInfo.security.isCached := guarded.cached (by rw [used]; rfl)
    have supported : self.link.bssInfo.security ≠ .unsupported := by
      intro refused
      rw [refused] at cached
      cases cached
    exact Keeps.tryCatch
      (associate_guarded _ (self.link.rsneWithPmkid_leads _ guarded.secured supported))
      fun _ => pmksaFallback_kept

/-! ### SAE -/

theorem associateAfterSae_guarded : Keeps Guarded (associateAfterSae env) := by
  refine Keeps.bind (quiet rfl) fun _ => Keeps.get_bind fun self guarded => ?_
  refine orFail_kept ?_
  refine Keeps.liftM_bind fun ies built => ?_
  exact associate_guarded true (Link.saeAssociationIes_leads built)

theorem runAuthAction_guarded {action : AuthAction} :
    Keeps Guarded (runAuthAction env action) := by
  cases action with
  | wait => exact Keeps.pure _
  | sendConfirm confirm => exact Keeps.bind resetSync_guarded fun _ => sendSaeConfirm_guarded
  | sendCommitWithToken token => exact sendCommitWithToken_guarded
  | retryWithHnp => exact restartSaeWithHnp_guarded
  | retryTemporarily =>
    exact Keeps.get_bind fun _ _ => Keeps.skip fun _ => quiet rfl
  | complete => exact associateAfterSae_guarded

theorem handleAuthFrame_guarded {frame : AuthFrame} :
    Keeps Guarded (handleAuthFrame env frame) := by
  refine Keeps.get_bind fun self guarded => ?_
  split
  · refine Keeps.guard fun _ => ?_
    refine Keeps.bind (quiet rfl) fun _ => ?_
    split
    · exact quiet rfl
    · exact runAuthAction_guarded
  · exact Keeps.pure _

theorem authTimeout_guarded [Primitives] : Keeps Guarded (authTimeout env) := by
  refine Keeps.get_bind fun self guarded => ?_
  refine Keeps.ite (fun _ => retransmitSae_guarded) fun _ => ?_
  refine Keeps.ite (fun _ => restartSaeWithHnp_guarded) fun _ => ?_
  refine Keeps.ite (fun _ => quiet rfl) fun _ => ?_
  exact Keeps.ite (fun _ => pmksaFallback_kept) fun _ => quiet rfl

end

end Shuli.Wifi
