import Shuli.Wifi.Downgrade
import Shuli.Wifi.Guarded

/-!
Whole attempts for a protected BSS: the handlers of the control port, of roaming and of the kernel's
results keep the invariant, with the one exception of the open-system branch.
-/

namespace Shuli.Wifi

open Fallible
open Shuli.Core (WifiError Tls)
open WifiIface (Guarded)

section

variable [Tls] [Sae] [Owe] {env : Env}

theorem disarmWowlan_guarded : Keeps Guarded (disarmWowlan env) := by
  refine Keeps.get_bind fun self guarded => Keeps.guard fun _ => ?_
  exact Keeps.bind (bestEffort_kept trivial) fun _ => quiet rfl

theorem tryOffloadRekey_guarded : Keeps Guarded (tryOffloadRekey env) :=
  tryOffloadRekey_grows fun guarded => guarded.record trivial

theorem installManagementKeys_guarded {cipher : CipherSuite} {kdes : KeyDataKdes} :
    Keeps Guarded (installManagementKeys env cipher kdes) :=
  installManagementKeys_grows (fun guarded => guarded.record trivial) fun guarded => guarded.record trivial

theorem setFourway_guarded {fw : FourWayState} : Keeps Guarded (setFourway fw : Iface Unit) :=
  Keeps.modify fun _ guarded => guarded

theorem installHandshakeKeys_guarded {fw : FourWayState} {frame : EapolKeyFrame}
    {msg4 : Octets} {kdes : KeyDataKdes} :
    Keeps Guarded (installHandshakeKeys env fw frame msg4 kdes) := by
  refine Keeps.get_bind fun self guarded => ?_
  refine Keeps.bind (Keeps.when fun _ => Keeps.forM fun tk _ => request_guarded trivial) fun _ => ?_
  refine Keeps.bind sendControlPortFrame_kept fun _ => ?_
  refine Keeps.bind (Keeps.forM fun tk _ => request_guarded trivial) fun _ => ?_
  refine Keeps.bind (Keeps.forM fun gtk _ => request_guarded trivial) fun _ => ?_
  exact installManagementKeys_guarded

variable {parsed : ParsedKey}

theorem handleGroupRekey_guarded [Primitives] [EapolCodec] :
    Keeps Guarded (handleGroupRekey env parsed) := by
  refine Keeps.get_bind fun self guarded => ?_
  split
  · exact Keeps.pure _
  · refine Keeps.bind setFourway_guarded fun _ => ?_
    split
    · exact Keeps.pure _
    · refine Keeps.tryCatch ?_ fun _ => Keeps.pure _
      refine Keeps.bind sendControlPortFrame_kept fun _ => ?_
      refine Keeps.bind (Keeps.forM fun gtk _ => ?_) fun _ => ?_
      · exact Keeps.bind (bestEffort_grows fun guarded => guarded.record trivial) fun _ => Keeps.pure _
      · refine Keeps.bind installManagementKeys_guarded fun _ => ?_
        exact Keeps.bind tryOffloadRekey_guarded fun _ => Keeps.pure _

theorem startRoamScan_guarded {full : Bool} : Keeps Guarded (startRoamScan env full) := by
  refine Keeps.bind (quiet rfl) fun _ => ?_
  refine Keeps.bind (bestEffort_kept trivial) fun taken => Keeps.ite (fun _ => ?_) fun _ => ?_
  · exact Keeps.bind (quiet rfl) fun _ => Keeps.pure _
  · exact Keeps.bind (quiet rfl) fun _ => Keeps.pure _

theorem runRoamScan_guarded {full : Bool} : Keeps Guarded (runRoamScan env full) := by
  refine Keeps.bind startRoamScan_guarded fun taken =>
    Keeps.guard fun _ => ?_
  refine Keeps.bind (quiet rfl) fun _ => ?_
  exact Keeps.bind startRoamScan_guarded fun _ => Keeps.pure _

theorem triggerRoamScan_guarded {full : Bool} : Keeps Guarded (triggerRoamScan env full) := by
  refine Keeps.bind (quiet rfl) fun _ => Keeps.get_bind fun self guarded => ?_
  refine Keeps.ite (fun _ => ?_) fun _ => runRoamScan_guarded
  refine Keeps.bind (bestEffort_kept trivial) fun sent => ?_
  exact Keeps.ite (fun _ => quiet rfl) fun _ => runRoamScan_guarded

theorem resumeRoamScan_guarded : Keeps Guarded (resumeRoamScan env) :=
  Keeps.bind (quiet rfl) fun _ => runRoamScan_guarded

theorem neighborReportTimeout_guarded : Keeps Guarded (neighborReportTimeout env) :=
  Keeps.get_bind fun _ _ => Keeps.guard fun _ => resumeRoamScan_guarded

theorem handleCqmRssi_guarded {event : CqmRssiThresholdEvent} :
    Keeps Guarded (handleCqmRssi env event) := by
  refine Keeps.get_bind fun self guarded => Keeps.guard fun _ => ?_
  cases event with
  | low =>
    refine Keeps.guard fun _ => ?_
    exact Keeps.bind (quiet rfl) fun _ => triggerRoamScan_guarded
  | high =>
    refine Keeps.bind (quiet rfl) fun _ => ?_
    exact Keeps.guard fun _ => quiet rfl
  | other => exact Keeps.pure _

theorem markLinkLost_guarded {fast : FastReconnect} :
    Keeps Guarded (markLinkLost env fast) := by
  refine Keeps.bind (quiet rfl) fun _ => ?_
  exact Keeps.bind (bestEffort_kept trivial) fun _ => quiet rfl

theorem handlePortAuthorized_guarded : Keeps Guarded (handlePortAuthorized env) := by
  refine Keeps.get_bind fun self guarded => Keeps.guard fun _ => ?_
  exact Keeps.bind (established_kept (by decide)) fun _ => armWowlanIfEnabled_kept

theorem handleWowlanWakeup_guarded {reasons : List WowlanWakeup} :
    Keeps Guarded (handleWowlanWakeup env reasons) := by
  refine Keeps.bind disarmWowlan_guarded fun _ => Keeps.get_bind fun self guarded => ?_
  refine Keeps.guard fun _ => ?_
  exact Keeps.ite (fun _ => markLinkLost_guarded) fun _ => armWowlanIfEnabled_kept

theorem handleRekeyOffloadEvent_guarded {bssid : MacAddr} {replayCtr : Block 8} :
    Keeps Guarded (handleRekeyOffloadEvent bssid replayCtr : Iface Unit) := by
  refine Keeps.get_bind fun self guarded => ?_
  split
  · exact Keeps.guard fun _ => setFourway_guarded
  · exact Keeps.pure _

theorem endFtRoam_guarded : Keeps Guarded
    (modify (fun self => { self with roam.ftRoam := none, state := .failed }) : Iface Unit) :=
  Keeps.modify fun _ guarded =>
    ⟨guarded.secured, guarded.cached, fun _ started => (by cases started), guarded.sent⟩

theorem processOweAssocResponse_guarded {ies : Option Octets} :
    Keeps Guarded (processOweAssocResponse ies : Iface Bool) := by
  refine Keeps.get_bind fun self guarded => ?_
  split
  · split
    · exact Keeps.bind (quiet rfl) fun _ => Keeps.pure _
    · exact Keeps.pure _
  · exact Keeps.pure _

end

section

variable [Tls] [Sae] [Owe] [Elements] {env : Env}

variable {target : BssInfo}

theorem startFtRoam_guarded (ft : target.security.isFt) :
    Keeps Guarded (startFtRoam env target) := by
  refine Keeps.get_bind fun self guarded => ?_
  refine Keeps.liftM_bind fun context _ => Keeps.liftM_bind fun mdie _ => ?_
  refine Keeps.bind (Keeps.tryCatch (request_kept trivial) fun error => ?_) fun _ => ?_
  · exact Keeps.bind (quiet rfl) fun _ => Keeps.throw _
  · refine Keeps.modify fun self guarded => ⟨guarded.secured, guarded.cached, ?_, guarded.sent⟩
    rintro roam ⟨rfl⟩
    exact ft

theorem startRoam_guarded [Primitives] {network : NetworkConfig} :
    Keeps Guarded (startRoam env target network) := by
  refine Keeps.bind (quiet rfl) fun _ => Keeps.get_bind fun self guarded => ?_
  refine Keeps.skip fun _ => Keeps.ite (fun within => ?_) fun _ => ?_
  · have ft : target.security.isFt := by
      simp only [WifiIface.canFtRoam, Bool.and_eq_true] at within
      exact within.1.2
    exact Keeps.tryCatch (startFtRoam_guarded ft) fun _ => Keeps.pure _
  · refine Keeps.bind (Keeps.when fun _ => quiet rfl) fun _ => ?_
    refine Keeps.bind (Keeps.when fun _ => Keeps.modify fun self guarded => ?_) fun _ => ?_
    · unfold WifiIface.synthesizeOkcEntry
      split <;> exact guarded
    · refine Keeps.bind (quiet rfl) fun _ => ?_
      exact Keeps.bind (bestEffort_kept trivial) fun _ => quiet rfl

theorem handleWnmFrame_guarded [Primitives] {btm : BtmRequest} :
    Keeps Guarded (handleWnmFrame env btm) := by
  refine Keeps.get_bind fun self guarded => Keeps.guard fun _ => ?_
  refine Keeps.bind (quiet rfl) fun _ => ?_
  split
  · exact Keeps.bind (bestEffort_kept trivial) fun _ => startRoam_guarded
  · exact Keeps.bind (bestEffort_kept trivial) fun _ => Keeps.pure _

variable {ies : Octets}

theorem completeFtRoam_guarded [Primitives] [EapolCodec] :
    Keeps Guarded (completeFtRoam env ies) := by
  refine Keeps.get_bind fun self guarded => Keeps.liftM_bind fun roam started => ?_
  have target := guarded.target roam (orThrow_eq_ok.mp started)
  refine Keeps.liftM_bind fun ft _ => Keeps.liftM_bind fun ptk _ => ?_
  refine Keeps.liftM_bind fun r1khId _ => Keeps.liftM_bind fun pmkR1 _ => ?_
  refine Keeps.liftM_bind fun ftie _ => ?_
  refine Keeps.bind (installFtKeys_grows fun guarded => guarded.record trivial) fun _ => ?_
  refine Keeps.bind (Keeps.modify fun self guarded => ?_) fun _ => ?_
  -- The target is an FT BSS, so the move leaves the selected BSS protected.
  · exact ⟨SecurityType.isFt_ne_open target, fun _ => SecurityType.isFt_isCached target,
      fun _ started => (by cases started), guarded.sent⟩
  · refine Keeps.bind tryOffloadRekey_guarded fun offloaded => ?_
    refine Keeps.bind (Keeps.modify fun self guarded => ?_) fun _ => armWowlanIfEnabled_kept
    exact guarded.record trivial

theorem handleFtAssocResponse_guarded [Primitives] [EapolCodec] : Keeps Guarded (handleFtAssocResponse env ies) :=
  Keeps.tryCatch completeFtRoam_guarded fun _ => endFtRoam_guarded

theorem handleMessage1_guarded [Primitives] [EapolCodec] {raw : Octets} :
    Keeps Guarded (handleMessage1 env raw parsed) := by
  refine Keeps.get_bind fun self guarded =>
    Keeps.ite (fun _ => quiet rfl) fun _ => ?_
  refine Keeps.bind (quiet rfl) fun _ => ?_
  split
  · exact quiet rfl
  · refine Keeps.bind setFourway_guarded fun _ => ?_
    split
    · exact quiet rfl
    · exact orFail_kept sendControlPortFrame_kept

theorem setupFtContext_guarded [Primitives] : Keeps Guarded (setupFtContext ies : Iface Unit) :=
  Keeps.get_bind fun _ _ => Keeps.liftM_bind fun _ _ => quiet rfl

theorem handleRrmFrame_guarded {report : NeighborReport} :
    Keeps Guarded (handleRrmFrame env report) := by
  refine Keeps.get_bind fun self guarded => Keeps.guard fun _ => ?_
  refine Keeps.bind (quiet rfl) fun _ => ?_
  exact Keeps.guard fun _ => resumeRoamScan_guarded

end

section

variable [Tls] [Sae] [Owe] [Elements] [LawfulElements] [Primitives] {env : Env}

/-! ### Roaming -/

theorem sendFtReassoc_guarded {ptk : Ptk} {pmkR1 : PmkR1}
    {r1khId : MacAddr} {snonce anonce : Block 32} :
    Keeps Guarded (sendFtReassoc env target ptk pmkR1 r1khId snonce anonce) := by
  refine Keeps.get_bind fun self guarded => ?_
  refine Keeps.liftM_bind fun ft _ => Keeps.liftM_bind fun info _ => ?_
  refine Keeps.liftM_bind fun ftie _ => request_guarded ?_
  exact (((self.link.ie_leads _ _).append _).append _ |>.append _).extract

theorem continueFtRoam_guarded {frame : Octets} :
    Keeps Guarded (continueFtRoam env frame) := by
  refine Keeps.get_bind fun self guarded => Keeps.liftM_bind fun roam started => ?_
  have target := guarded.target roam (orThrow_eq_ok.mp started)
  refine Keeps.liftM_bind fun ft _ => Keeps.liftM_bind fun checked _ => ?_
  refine Keeps.bind (Keeps.modify fun self guarded => ?_) fun _ => sendFtReassoc_guarded
  refine ⟨guarded.secured, guarded.cached, ?_, guarded.sent⟩
  rintro other ⟨rfl⟩
  exact target

theorem handleFtAuthResponse_guarded {frame : Octets} :
    Keeps Guarded (handleFtAuthResponse env frame) :=
  Keeps.tryCatch continueFtRoam_guarded fun _ => endFtRoam_guarded

/-! ### The control port -/

variable [EapolCodec]

theorem handleMessage3_guarded :
    Keeps Guarded (handleMessage3 env parsed) := by
  refine Keeps.get_bind fun self guarded => ?_
  split
  · exact quiet rfl
  · refine Keeps.bind setFourway_guarded fun _ => ?_
    split
    · exact message3Failed_kept
    · refine orFail_kept (Keeps.bind installHandshakeKeys_guarded fun _ => ?_)
      exact completeHandshake_kept tryOffloadRekey_guarded

theorem handleControlPortFrame_guarded {frame : Octets} :
    Keeps Guarded (handleControlPortFrame env frame) := by
  unfold handleControlPortFrame
  split
  · exact handleEapFrame_kept
  · split
    · exact Keeps.pure _
    · refine Keeps.skip fun _ => ?_
      refine Keeps.ite (fun _ => handleMessage1_guarded) fun _ => ?_
      refine Keeps.ite (fun _ => handleMessage3_guarded) fun _ => ?_
      exact Keeps.guard fun _ => handleGroupRekey_guarded

/-! ### Results and disconnects -/

theorem handleFtAssociation_guarded :
    Keeps Guarded (handleFtAssociation env ies) := by
  refine Keeps.bind (Keeps.tryCatch ?_ fun _ => Keeps.pure _) fun derived => ?_
  · exact Keeps.bind setupFtContext_guarded fun _ => Keeps.pure _
  · refine Keeps.ite (fun _ => Keeps.get_bind fun self guarded => ?_) fun _ => quiet rfl
    split
    · refine Keeps.bind (quiet rfl) fun _ => ?_
      exact handleControlPortFrame_guarded
    · exact Keeps.pure _

theorem handleAssociationSuccess_guarded {ies : Option Octets} :
    Keeps Guarded (handleAssociationSuccess env ies) := by
  refine Keeps.get_bind fun self guarded => ?_
  refine Keeps.ite (fun isOpen => absurd isOpen guarded.secured) fun _ => Keeps.ite (fun _ => ?_) fun _ => ?_
  · refine Keeps.bind processOweAssocResponse_guarded fun derived => ?_
    exact Keeps.guard fun _ => quiet rfl
  · exact Keeps.guard fun _ => handleFtAssociation_guarded

theorem handleAssociated_guarded {status : UInt16} {ies : Option Octets} :
    Keeps Guarded (handleAssociated env status ies) := by
  refine Keeps.get_bind fun self guarded => Keeps.guard fun _ => ?_
  refine Keeps.ite (fun _ => Keeps.ite (fun _ => handleFtAssocResponse_guarded)
    fun _ => endFtRoam_guarded) fun _ => ?_
  refine Keeps.ite (fun _ => handleAssociationSuccess_guarded) fun _ => ?_
  refine Keeps.ite (fun _ => ?_) fun _ => quiet rfl
  exact Keeps.bind pmksaFallback_kept fun _ => quiet rfl

theorem handleConnectResult_guarded {status : UInt16} {reqIe respIe : Option Octets} :
    Keeps Guarded (handleConnectResult env status reqIe respIe) := by
  refine Keeps.get_bind fun self guarded => Keeps.bind (quiet rfl) fun _ => ?_
  have adopt : Keeps Guarded (adoptReportedRsne reqIe : Iface Unit) := by
    unfold adoptReportedRsne
    split
    · exact quiet rfl
    · exact Keeps.pure _
  refine Keeps.ite (fun _ => Keeps.ite (fun _ => ?_) fun _ => ?_) fun _ => ?_
  · refine Keeps.guard fun _ => ?_
    exact Keeps.bind adopt fun _ => handleAssociationSuccess_guarded
  · refine Keeps.skip fun _ => ?_
    exact Keeps.ite (fun _ => pmksaFallback_kept) fun _ => quiet rfl
  · exact Keeps.skip fun _ => quiet rfl

omit [EapolCodec] in
theorem handleApDisconnect_guarded {reason : Option UInt16} {fromAp : Option Bool} :
    Keeps Guarded (handleApDisconnect env reason fromAp) := by
  refine Keeps.get_bind fun self guarded => Keeps.skip fun _ => ?_
  refine Keeps.ite (fun _ => Keeps.ite (fun _ => ?_) fun _ => markLinkLost_guarded) fun _ => ?_
  · exact Keeps.bind (bestEffort_kept trivial) fun _ => quiet rfl
  refine Keeps.ite (fun _ => ?_) fun _ => Keeps.ite (fun _ => ?_) fun _ => ?_
  · exact Keeps.bind (quiet rfl) fun _ => markLinkLost_guarded
  · exact Keeps.bind (bestEffort_kept trivial) fun _ => quiet rfl
  · exact Keeps.guard fun _ => pmksaFallback_kept

/-! ### The open-system branch -/

variable {self : WifiIface}

omit [Primitives] [EapolCodec] in
theorem associateOpenSystem_guarded (guarded : self.Guarded)
    (named : self.link.bssInfo.security.hasOpenSystemIes) :
    (after (associateOpenSystem env) self).Guarded := by
  suffices ends : Ends (associateOpenSystem env) self fun _ => Guarded from ends
  refine Ends.get_bind (Keeps.ends (Keeps.bind (Keeps.when fun _ => quiet rfl) fun _ => orFail_kept ?_) guarded)
  exact Keeps.liftM_bind fun (ies, mfp) built =>
    associate_guarded mfp (Link.openSystemAssociation_leads named built)

/-- Whether handling the event associates a protected BSS without elements: a successful
authentication result, with neither an FT roam nor a PMKSA to use, for an AKM that is neither left
to the SAE frames nor named by the open-system association. -/
def WifiIface.takesOpenBranch (self : WifiIface) : WifiEvent → Bool
  | .kernel (.authenticated status _) _ =>
    self.mlme == .softMac && status == statusSuccess && self.roam.ftRoam.isNone &&
      self.link.pmksaInUse.isNone &&
      [SecurityType.saeExtKey, .ftSaeExtKey, .unsupported].contains self.link.bssInfo.security
  | _ => false

omit [EapolCodec] in
theorem handleAuthenticated_guarded (status : UInt16) (frame : Option AuthFrame) (info : DisconnectInfo)
    (guarded : self.Guarded) (avoids : self.takesOpenBranch (.kernel (.authenticated status frame) info) = false) :
    (after (handleAuthenticated env status frame) self).Guarded := by
  unfold after handleAuthenticated
  rw [exec_get_bind]
  by_cases fullMac : self.mlme = .fullMac
  · rw [if_pos fullMac]
    exact guarded
  rw [if_neg fullMac]
  by_cases roaming : self.roam.ftRoam.isSome
  · rw [if_pos roaming]
    exact handleFtAuthResponse_guarded self guarded
  rw [if_neg roaming]
  by_cases used : self.link.pmksaInUse.isSome
  · rw [if_pos used]
    exact Keeps.ite (fun _ => associateWithPmksa_guarded) (fun _ => pmksaFallback_kept) self guarded
  rw [if_neg used]
  by_cases openSystem : self.link.bssInfo.security ≠ .sae ∧ self.link.bssInfo.security ≠ .ftSae
  · rw [if_pos openSystem]
    by_cases success : status = statusSuccess
    · rw [if_pos success]
      refine associateOpenSystem_guarded guarded ?_
      have softMac : self.mlme = .softMac := by
        cases mode : self.mlme with
        | softMac => rfl
        | fullMac => exact absurd mode fullMac
      have secured := guarded.secured
      simp only [WifiIface.takesOpenBranch] at avoids
      cases security : self.link.bssInfo.security <;> simp_all [SecurityType.hasOpenSystemIes]
    · rw [if_neg success]
      exact guarded
  rw [if_neg openSystem]
  cases frame with
  | some frame => exact handleAuthFrame_guarded self guarded
  | none =>
    refine Keeps.skip (fun _ => ?_) self guarded
    exact Keeps.ite (fun _ => quiet rfl) fun _ => quiet rfl

omit [EapolCodec] in
theorem handleUnknown_guarded {command : Nl80211Command} {info : DisconnectInfo} :
    Keeps Guarded (handleUnknown env command info) := by
  refine Keeps.get_bind fun self guarded => ?_
  cases command with
  | schedScanStopped => exact quiet rfl
  | roam => exact Keeps.guard fun _ => markLinkLost_guarded
  | deauthenticate | disassociate => exact handleApDisconnect_guarded
  | unprotDeauthenticate | unprotDisassociate => exact handleApDisconnect_guarded
  | delStation | other => exact Keeps.pure _

/-- One kernel event keeps the invariant unless it takes the open-system branch. -/
theorem handleEvent_guarded (event : Nl80211Event) (info : DisconnectInfo)
    (guarded : self.Guarded) (avoids : self.takesOpenBranch (.kernel event info) = false) :
    (after (handleEvent env event info) self).Guarded := by
  cases event with
  | authFrame frame => exact handleAuthFrame_guarded self guarded
  | btmRequest request => exact handleWnmFrame_guarded self guarded
  | neighborReportResponse report => exact handleRrmFrame_guarded self guarded
  | authenticated status frame => exact handleAuthenticated_guarded status frame info guarded avoids
  | associated status ies => exact handleAssociated_guarded self guarded
  | connectResult status reqIe respIe =>
    exact handleConnectResult_guarded self guarded
  | eapFrame payload => exact handleEapFrame_kept self guarded
  | keyFrame raw => exact handleControlPortFrame_guarded self guarded
  | portAuthorized => exact handlePortAuthorized_guarded self guarded
  | wowlanWakeup reasons => exact handleWowlanWakeup_guarded self guarded
  | cqmRssi events => exact handleCqmRssi_guarded self guarded
  | disconnect reason =>
    refine Keeps.get_bind (fun _ _ => ?_) self guarded
    refine Keeps.skip fun _ => Keeps.guard fun _ => ?_
    exact handleApDisconnect_guarded
  | deauthenticated reason | disassociated reason =>
    exact handleApDisconnect_guarded self guarded
  | rekeyOffload bssid replayCtr => exact handleRekeyOffloadEvent_guarded self guarded
  | unknown command => exact handleUnknown_guarded self guarded
  | otherFrame | unhandled => exact guarded

theorem step_guarded (guarded : self.Guarded) (input : Env × WifiEvent)
    (avoids : self.takesOpenBranch input.2 = false) : (self.step input).Guarded := by
  obtain ⟨env, event⟩ := input
  cases event with
  | kernel event info => exact handleEvent_guarded event info guarded avoids
  | eapol src payload =>
    refine Keeps.get_bind (fun _ _ => Keeps.guard fun _ => ?_) self guarded
    exact handleControlPortFrame_guarded
  | authTimeout =>
    refine Keeps.get_bind (fun _ _ => Keeps.guard fun _ => ?_) self guarded
    exact authTimeout_guarded
  | neighborReportTimeout => exact neighborReportTimeout_guarded self guarded

omit [EapolCodec] in
theorem startAttempt_guarded (network : NetworkConfig) {bss : BssInfo}
    (secured : bss.security ≠ .open) (self : WifiIface) :
    (after (startAttempt env network bss) self).Guarded := by
  change Ends (startAttempt env network bss) self fun _ => Guarded
  refine Ends.modify_bind ?_
  refine Ends.bind (R := fun _ => Guarded) ?_ (fun _ _ guarded => guarded) fun _ _ guarded => guarded
  exact sendOutAuthRequest_establishes secured fun _ sent => (by cases sent)

/-- No attempt for a protected BSS associates, connects or counts as connected as an open one, as long
as no event of the run takes the open-system branch. -/
theorem attempt_protected (self : WifiIface) (env : Env) (network : NetworkConfig) (bss : BssInfo)
    (secured : bss.security ≠ .open) (inputs : List (Env × WifiEvent))
    (avoids : Admitted WifiIface.step (fun self input => self.takesOpenBranch input.2 = false)
      (after (startAttempt env network bss) self) inputs) :
    ∀ action ∈ (runInputs WifiIface.step (after (startAttempt env network bss) self) inputs).trace,
      action.Protected := by
  have reached := run_invariant (I := Guarded) (fun _ input guarded avoids => step_guarded guarded input avoids)
    (startAttempt_guarded network secured self) avoids
  exact reached.sent

end

/-! ### Two attempts -/

section

@[reducible] def idleSae : Sae where
  State := Unit
  newWithPasswordId _ _ _ _ _ _ _ _ := .ok ()
  setAkmSelector state _ := state
  buildInitAuthMsg state random := (random, state)
  buildCommitWithToken state token _ := (.ok token, state)
  processCommitWithElements state _ _ _ := (.ok [], state)
  processConfirm state _ := (.ok (), state)
  retransmitConfirm state := (.ok (2, []), state)
  parseAntiCloggingToken _ payload := .ok payload
  confirmed _ := false
  isH2e _ := true
  hnpFallbackAllowed _ := false
  groupId _ := 19
  pmk _ := none
  pmkid _ := none

@[reducible] def idleOwe : Owe where
  State := Unit
  new _ := ()
  buildDhElement _ := [255, 1, 32]
  findOweDhElement _ := none
  processApDhElement _ _ := .ok ()
  pmk _ := none

@[reducible] def plainElements : Elements where
  rsnIe _ _ _ := [48, 2, 1, 0]
  saeRsnxe := [244, 1, 32]
  rsneSetOcvc ies := ies
  rsneSetExtKeyId ies := ies
  mdie mdid ftCapab := [54, 3] ++ mdid.val ++ [ftCapab]
  ftieAuthRequest _ _ := []
  findIe _ _ := none
  parseMdie _ := none
  parseFtie _ := none
  rsneFirstPmkid _ := none
  parseFtAuth _ := .error "truncated"
  parseEapolKey _ := none
  rsneMfpCapable _ := true
  apRsneSupportsOcv _ := false
  apRsneSupportsExtKeyId _ := false
  apRsnxeSupportsSaeH2e _ := true
  ociFromFreq _ := none
  channelToFreq _ _ := none
  statusDisplay _ := "refused"

attribute [local instance] Core.closedTls idleSae idleOwe plainElements samplePrimitives sampleCodec

theorem plainElements_lawful : LawfulElements where
  rsnIe_leads _ _ _ := ⟨2, [1, 0], rfl, by decide⟩
  setOcvc_leads _ leads := leads
  setExtKeyId_leads _ leads := leads

def homeNetwork : NetworkConfig where
  ssid := "home"
  password := some "correct horse"
  bssid := none
  eap := none
  saePwe := .auto
  saePasswordId := none
  ocv := false
  extKeyId := false
  wowlan := false
  roaming := false
  roamingThreshold := -70

def homeBss (security : SecurityType) : BssInfo where
  bssid := filled 6 2
  freqMhz := 2412
  signalDbm := -50
  security := security
  apRsne := [48, 2, 1, 0]
  apRsnxe := []
  groupMgmtCipher := .bipCmac128
  mdie := none
  btmSupport := false
  rmNeighborReport := false

def idleIface [Tls] [Sae] [Owe] : WifiIface where
  mac := filled 6 1
  mlme := .softMac
  controlPort := .nl80211
  rawPortOpen := false
  wowlanSupported := false
  link := ⟨homeNetwork, homeBss .open, [], none, none, none, none, false, false⟩
  auth := ⟨none, none, none, none, none, false, 0, [], false, [], false⟩
  roam := ⟨none, false, none, none, [], [], false, none, false, none, false, false, none, false, false⟩
  wowlanArmed := false
  schedScanStopPending := false
  scanRetryInterval := retryBackoffInitSec
  state := .init
  fastReconnect := none
  bssidIgnore := []
  pmksaCache := []
  lastError := none
  trace := []

def willingEnv : Env where
  answer _ := .ok ()
  now := 0
  random := [7]
  nonce _ := filled 32 9

def authenticatedOk : Env × WifiEvent :=
  (willingEnv, .kernel (.authenticated statusSuccess none) ⟨none, none⟩)

/-- A WPA2-PSK attempt reaches its association, with the element. -/
theorem attempt_protected_wpa2Psk :
    (runInputs WifiIface.step (after (startAttempt willingEnv homeNetwork (homeBss .wpa2Psk)) idleIface)
      [authenticatedOk]).trace.length = 2 ∧
    ∀ action ∈ (runInputs WifiIface.step
      (after (startAttempt willingEnv homeNetwork (homeBss .wpa2Psk)) idleIface) [authenticatedOk]).trace,
      action.Protected :=
  have := plainElements_lawful
  ⟨by decide +kernel, attempt_protected idleIface willingEnv homeNetwork (homeBss .wpa2Psk) (by decide)
    [authenticatedOk] (by decide +kernel)⟩

/-- The network takes a SAE-EXT-KEY BSS, and the attempt associates without an RSN element when the
kernel reports its authentication as successful. -/
theorem attempt_unprotected_saeExtKey :
    homeNetwork.acceptsSecurity .saeExtKey ∧ ¬∀ action ∈ (runInputs WifiIface.step
      (after (startAttempt willingEnv homeNetwork (homeBss .saeExtKey)) idleIface) [authenticatedOk]).trace,
      action.Protected := by
  decide +kernel

end

end Shuli.Wifi
