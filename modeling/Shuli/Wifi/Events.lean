import Shuli.Wifi.FastTransition

/-!
The event handler of an interface (`client/events.rs`): the results of authentication and
association, disconnects, the control port and the remaining nl80211 events. A step takes one event
of the interface queue or one timeout of the wait for it.
-/

namespace Shuli.Wifi

open Fallible
open Shuli.Core (WifiError Tls)

def statusSuccess : UInt16 := 0

def statusChallengeFail : UInt16 := 15

def reasonPrevAuthNotValid : UInt16 := 2

def reasonDisassocDueToInactivity : UInt16 := 4

def reasonClass2FrameFromNonAuthSta : UInt16 := 6

def reasonClass3FrameFromNonAssocSta : UInt16 := 7

def reasonStaReqAssocWithoutAuth : UInt16 := 9

def reasonIeee8021xFailed : UInt16 := 23

/-- What the raw event of a lost connection says beyond the parsed one. -/
structure DisconnectInfo where
  reason : Option UInt16
  fromAp : Option Bool
  deriving DecidableEq, Repr

inductive WowlanWakeup
  | gtkRekeyFailure | disconnect | other
  deriving DecidableEq, Repr

inductive Nl80211Command
  | schedScanStopped | roam | deauthenticate | disassociate | unprotDeauthenticate
  | unprotDisassociate | delStation | other
  deriving DecidableEq, Repr

inductive Nl80211Event
  | authFrame (frame : AuthFrame)
  | btmRequest (request : BtmRequest)
  | neighborReportResponse (report : NeighborReport)
  | otherFrame
  | authenticated (status : UInt16) (frame : Option AuthFrame)
  | associated (status : UInt16) (ies : Option Octets)
  | connectResult (status : UInt16) (reqIe respIe : Option Octets)
  | eapFrame (payload : Octets)
  | keyFrame (raw : Octets)
  | portAuthorized
  | wowlanWakeup (reasons : List WowlanWakeup)
  | cqmRssi (events : List CqmRssiThresholdEvent)
  | disconnect (reason : UInt16)
  | deauthenticated (reason : UInt16)
  | disassociated (reason : UInt16)
  | rekeyOffload (bssid : MacAddr) (replayCtr : Block 8)
  | unknown (command : Nl80211Command)
  | unhandled
  deriving DecidableEq, Repr

inductive WifiEvent
  | kernel (event : Nl80211Event) (info : DisconnectInfo)
  | eapol (src : MacAddr) (payload : Octets)
  | authTimeout
  | neighborReportTimeout
  deriving DecidableEq, Repr

def isRecoverableDisconnectReason (reason : Option UInt16) : Bool :=
  reason.any [reasonDisassocDueToInactivity, reasonClass2FrameFromNonAuthSta,
    reasonClass3FrameFromNonAssocSta].contains

def classifyFastReconnect (reason : Option UInt16) (fromAp : Option Bool) (hasLastBss : Bool) :
    FastReconnect :=
  if fromAp = some true ∧ hasLastBss ∧ isRecoverableDisconnectReason reason then .sameBss else .scanNow

def pmksaRejectedByDeauth (state : WifiState) (security : SecurityType) (pmksaInUse fourwayStarted : Bool)
    (reason : Option UInt16) (fromAp : Option Bool) : Bool :=
  state == .authenticating && security.isSae && pmksaInUse && !fourwayStarted &&
    reason == some reasonStaReqAssocWithoutAuth && fromAp == some true

def couldBePskMismatch (state : WifiState) (security : SecurityType) (pmksaInUse fourwayStarted : Bool)
    (fromAp : Option Bool) : Bool :=
  state == .authenticating && fromAp == some true && !pmksaInUse && fourwayStarted && security.isPsk

def portAuthorizedApplies (state : WifiState) : Bool := state == .authenticating || state.isConnected

def associationResultApplies (state : WifiState) : Bool := state == .authenticating

def isFatalDisconnectReason (reason : Option UInt16) : Bool :=
  reason == some reasonPrevAuthNotValid || reason == some reasonIeee8021xFailed

def fatalDisconnectError (reason : Option UInt16) : WifiError :=
  if reason = some reasonPrevAuthNotValid then
    ⟨.wrongPassword, "AP rejected authentication (prev_auth_not_valid): the configured password is " ++
      "wrong or the PMKSA is stale"⟩
  else if reason = some reasonIeee8021xFailed then
    ⟨.authFailed, "AP rejected 802.1X authentication (ieee8021x_failed): check the configured EAP " ++
      "credentials"⟩
  else ⟨.authFailed, "AP rejected authentication; check the configured credentials"⟩

def wowlanWakeupRequiresReconnect (reasons : List WowlanWakeup) : Bool :=
  reasons.any fun reason => reason == .gtkRekeyFailure || reason == .disconnect

section

variable [Tls] [Sae] [Owe] [Elements]

/-- The elements of the association after open-system authentication, and whether it requires
management frame protection. Whatever has no branch of its own is associated as an open network. -/
def Link.openSystemAssociation (self : Link) (dhElement : Octets) : Except WifiError (Octets × Bool) :=
  let mfp := self.bssInfo.apMfpCapable
  match self.bssInfo.security with
  | .owe => .ok (self.ie .owe none ++ dhElement, true)
  | .wpa2Psk => .ok (self.ie .wpa2Psk none, mfp)
  | .wpa2PskSha256 => .ok (self.ie .wpa2PskSha256 none, mfp)
  | .wpa2Ent => .ok (self.ie .wpa2Ent none, mfp)
  | .wpa2EntSha256 => .ok (self.ie .wpa2EntSha256 none, true)
  | .ftPsk => do
    let ies ← self.appendFtMdie (self.ie .ftPsk none)
    return (ies, mfp)
  | _ => .ok ([], false)

def associateOpenSystem (env : Env) : Iface Unit := do
  let self ← get
  let owe := Owe.new env.random
  when (self.link.bssInfo.security = .owe) (modify fun self => { self with auth.owe := some owe })
  orFail do
    let (ies, mfp) ← self.link.openSystemAssociation (Owe.buildDhElement owe)
    associate env ies mfp

variable [Primitives] [EapolCodec]

def handleAuthenticated (env : Env) (status : UInt16) (frame : Option AuthFrame) : Iface Unit := do
  let self ← get
  let security := self.link.bssInfo.security
  if self.mlme = .fullMac then pure ()
  else if self.roam.ftRoam.isSome then handleFtAuthResponse env ((frame.map AuthFrame.bytes).getD [])
  else if self.link.pmksaInUse.isSome then
    if status = statusSuccess then associateWithPmksa env else pmksaFallback env
  else if security ≠ .sae ∧ security ≠ .ftSae then
    if status = statusSuccess then associateOpenSystem env else modify (·.setState .failed)
  else
    match frame with
    | some frame => handleAuthFrame env frame
    | none =>
      if status = statusSuccess then pure ()
      else if status = statusChallengeFail then
        failAuth ⟨.wrongPassword, "wrong password (SAE confirm rejected by AP)"⟩
      else failAuth ⟨.authFailed, "SAE authentication failed: status=" ++ Elements.statusDisplay status⟩

def processOweAssocResponse (ies : Option Octets) : Iface Bool := do
  let self ← get
  match ies.bind Owe.findOweDhElement, self.auth.owe with
  | some dhData, some owe =>
    match Owe.processApDhElement owe dhData with
    | .ok owe =>
      modify fun self => { self with auth.owe := some owe }
      return true
    | .error _ => return false
  | _, _ => return false

def handleFtAssociation (env : Env) (ies : Octets) : Iface Unit := do
  if ← tryCatch (do setupFtContext ies; return true) fun _ => return false then
    let self ← get
    match self.link.pendingFtMsg1 with
    | some frame =>
      modify fun self => { self with link.pendingFtMsg1 := none }
      handleControlPortFrame env frame
    | none => pure ()
  else modify (·.setState .failed)

def handleAssociationSuccess (env : Env) (ies : Option Octets) : Iface Unit := do
  let self ← get
  if self.link.bssInfo.security = .open then
    modify (·.established .openNetwork .connectedWithoutOffloadRekey)
    armWowlanIfEnabled env
  else if self.link.bssInfo.security = .owe then
    if !(← processOweAssocResponse ies) then modify (·.setState .failed)
  else if self.link.bssInfo.security.isFt then handleFtAssociation env (ies.getD [])

def handleAssociated (env : Env) (status : UInt16) (ies : Option Octets) : Iface Unit := do
  let self ← get
  if self.mlme = .softMac ∧ associationResultApplies self.state then
    if self.roam.ftRoam.isSome then
      if status = statusSuccess then handleFtAssocResponse env (ies.getD [])
      else modify fun self => { self with roam.ftRoam := none, state := .failed }
    else if status = statusSuccess then handleAssociationSuccess env ies
    else if self.link.pmksaInUse.isSome then
      pmksaFallback env
      modify fun self => { self with link.staleConnectFailure := true }
    else modify (·.setState .failed)

def adoptReportedRsne (reqIe : Option Octets) : Iface Unit :=
  match reqIe.bind extractRsnFromIes with
  | some rsne => modify fun self => { self with link.assocWpaIe := rsne }
  | none => pure ()

def handleConnectResult (env : Env) (status : UInt16) (reqIe respIe : Option Octets) : Iface Unit := do
  let self ← get
  modify fun self => { self with link.staleConnectFailure := false }
  let stale := self.link.staleConnectFailure
  if self.mlme = .fullMac then
    if status = statusSuccess then
      if associationResultApplies self.state then
        adoptReportedRsne reqIe
        handleAssociationSuccess env respIe
    else if stale then pure ()
    else if self.link.pmksaInUse.isSome then pmksaFallback env
    else modify (·.setState .failed)
  else if status = statusSuccess ∨ stale then pure ()
  else modify (·.setState .failed)

def markLinkLost (env : Env) (fast : FastReconnect) : Iface Unit := do
  modify fun self => { self with roam.postConnectScanAt := none, roam.postConnectScan := false }
  let _ ← bestEffort env .disconnect
  modify fun self => { self with fastReconnect := some fast, state := .failed }

def WifiIface.hasLastBss (self : WifiIface) (now : Instant) : Bool :=
  self.link.bssInfo.bssid.val != List.replicate 6 0 && self.link.bssInfo.freqMhz != 0 &&
    !self.isIgnored self.link.bssInfo.bssid now

def handleApDisconnect (env : Env) (reason : Option UInt16) (fromAp : Option Bool) : Iface Unit := do
  let self ← get
  let security := self.link.bssInfo.security
  let pmksaInUse := self.link.pmksaInUse.isSome
  let fourwayStarted := self.link.fourway.isSome
  if self.roam.ftRoam.isSome then pure ()
  else if self.state.isConnected then
    if isFatalDisconnectReason reason then
      let _ ← bestEffort env .disconnect
      failAuth (fatalDisconnectError reason)
    else markLinkLost env (classifyFastReconnect reason fromAp (self.hasLastBss env.now))
  else if self.state = .scanning ∧ self.roam.preRoamState.isSome then
    modify fun self => { self with
      roam.roamScan := false, roam.preRoamState := none, roam.roamTarget := none }
    markLinkLost env .scanNow
  else if couldBePskMismatch self.state security pmksaInUse fourwayStarted fromAp then
    let _ ← bestEffort env .disconnect
    failAuth (wrongPassword self.link.network.ssid)
  else if pmksaRejectedByDeauth self.state security pmksaInUse fourwayStarted reason fromAp then
    pmksaFallback env
  else pure ()

def handleDisconnect (env : Env) (reason : UInt16) (info : DisconnectInfo) : Iface Unit := do
  let self ← get
  if self.roam.ftRoam.isSome then pure ()
  else if self.state.isConnected ∨ self.state = .authenticating ∧ self.isPsk4wayInProgress ∨
      self.state = .scanning ∧ self.roam.preRoamState.isSome then
    handleApDisconnect env (some reason) info.fromAp

def handlePortAuthorized (env : Env) : Iface Unit := do
  let self ← get
  if self.mlme = .softMac ∧ portAuthorizedApplies self.state then
    modify (·.established .portAuthorized .connectedWithoutOffloadRekey)
    armWowlanIfEnabled env

def handleWowlanWakeup (env : Env) (reasons : List WowlanWakeup) : Iface Unit := do
  disarmWowlan env
  let self ← get
  if self.state.isConnected then
    if wowlanWakeupRequiresReconnect reasons then markLinkLost env .scanNow
    else armWowlanIfEnabled env

def handleUnknown (env : Env) (command : Nl80211Command) (info : DisconnectInfo) : Iface Unit := do
  let self ← get
  match command with
  | .schedScanStopped => modify fun self => { self with schedScanStopPending := false }
  | .roam => if self.mlme = .fullMac then markLinkLost env .scanNow
  | .deauthenticate | .disassociate => handleApDisconnect env none info.fromAp
  | .unprotDeauthenticate | .unprotDisassociate => handleApDisconnect env info.reason info.fromAp
  | .delStation | .other => pure ()

def handleRekeyOffloadEvent (bssid : MacAddr) (replayCtr : Block 8) : Iface Unit := do
  let self ← get
  match self.link.fourway with
  | some fw => if bssid = self.link.bssInfo.bssid then setFourway (fw.updateReplayCounter replayCtr)
  | none => pure ()

def handleEvent (env : Env) (event : Nl80211Event) (info : DisconnectInfo) : Iface Unit :=
  match event with
  | .authFrame frame => handleAuthFrame env frame
  | .btmRequest request => handleWnmFrame env request
  | .neighborReportResponse report => handleRrmFrame env report
  | .authenticated status frame => handleAuthenticated env status frame
  | .associated status ies => handleAssociated env status ies
  | .connectResult status reqIe respIe => handleConnectResult env status reqIe respIe
  | .eapFrame payload => handleEapFrame env payload
  | .keyFrame raw => handleControlPortFrame env raw
  | .portAuthorized => handlePortAuthorized env
  | .wowlanWakeup reasons => handleWowlanWakeup env reasons
  | .cqmRssi events => handleCqmRssi env (events.getLast?.getD .other)
  | .disconnect reason => handleDisconnect env reason info
  | .deauthenticated reason | .disassociated reason => handleApDisconnect env (some reason) info.fromAp
  | .rekeyOffload bssid replayCtr => handleRekeyOffloadEvent bssid replayCtr
  | .unknown command => handleUnknown env command info
  | .otherFrame | .unhandled => pure ()

def handleRawEapol (env : Env) (src : MacAddr) (payload : Octets) : Iface Unit := do
  let self ← get
  if src = self.link.bssInfo.bssid ∧ (self.state = .authenticating ∨ self.state.isConnected) then
    handleControlPortFrame env payload

def handleWifiEvent (env : Env) : WifiEvent → Iface Unit
  | .kernel event info => handleEvent env event info
  | .eapol src payload => handleRawEapol env src payload
  | .authTimeout => do
    let self ← get
    if self.state = .authenticating then authTimeout env
  | .neighborReportTimeout => neighborReportTimeout env

def startAttempt (env : Env) (network : NetworkConfig) (bss : BssInfo) : Iface Unit := do
  modify fun self => { self with link.network := network, link.bssInfo := bss, trace := [] }
  sendOutAuthRequest env
  modify (·.setState .authenticating)

def WifiIface.step (self : WifiIface) (input : Env × WifiEvent) : WifiIface :=
  after (handleWifiEvent input.1 input.2) self

end

end Shuli.Wifi
