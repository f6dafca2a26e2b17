import Shuli.Wifi.Iface

/-!
A connection attempt (`auth.rs`, `client/associate.rs`, `client/connect.rs`): the first request of
an attempt for the selected BSS, the association and connect requests with their elements, and the
PMKSA cache around them.
-/

namespace Shuli.Wifi

open Fallible
open Shuli.Core (WifiError ErrorKind EapPeer EapTlsMethod Tls)

variable [Tls] [Sae] [Owe] [Elements]

namespace BssInfo

omit [Tls] [Sae] [Owe] in
def apMfpCapable (self : BssInfo) : Bool := Elements.rsneMfpCapable self.apRsne

omit [Tls] [Sae] [Owe] in
def apSupportsSaeH2e (self : BssInfo) : Bool := Elements.apRsnxeSupportsSaeH2e self.apRsnxe

omit [Tls] [Sae] [Owe] in
def apOcvCapable (self : BssInfo) : Bool := Elements.apRsneSupportsOcv self.apRsne

omit [Tls] [Sae] [Owe] in
def apExtKeyIdCapable (self : BssInfo) : Bool := Elements.apRsneSupportsExtKeyId self.apRsne

end BssInfo

namespace Link

def ie (self : Link) (builder : RsnIe) (pmkid : Option (Block 16)) : Octets :=
  Elements.rsnIe builder pmkid self.bssInfo.groupMgmtCipher

def rsneWithPmkid (self : Link) (pmkid : Option (Block 16)) : Octets :=
  match self.bssInfo.security with
  | .sae => self.ie .saeWithPmkid pmkid
  | .saeExtKey => self.ie .saeExtKeyWithPmkid pmkid
  | .ftSae => self.ie .ftSae pmkid
  | .ftSaeExtKey => self.ie .ftSaeExtKey pmkid
  | .wpa2Psk => self.ie .wpa2PskWithPmkid pmkid
  | .wpa2PskSha256 => self.ie .wpa2PskSha256WithPmkid pmkid
  | .wpa2Ent => self.ie .wpa2Ent none
  | .wpa2EntSha256 => self.ie .wpa2EntSha256 none
  | .ftPsk => self.ie .ftPsk pmkid
  | .owe => self.ie .owe none
  | .open | .unsupported => []

def announceCapabilities (self : Link) (ies : Octets) : Octets :=
  let ies := if self.network.ocv then Elements.rsneSetOcvc ies else ies
  if self.network.extKeyId then Elements.rsneSetExtKeyId ies else ies

def echoedIe (self : Link) (ies : Octets) : Octets :=
  if self.bssInfo.security = .owe then (extractRsnFromIes ies).getD []
  else if self.bssInfo.security.isFt then []
  else ies

def enableOcv (self : Link) (fw : FourWayState) : Option FourWayState :=
  if !self.network.ocv then some fw
  else if !self.bssInfo.apOcvCapable then some fw
  else (Elements.ociFromFreq self.bssInfo.freqMhz).map fun oci => fw.setOcv true oci self.bssInfo.freqMhz

def extKeyIdEnabled (self : Link) : Bool := self.network.extKeyId && self.bssInfo.apExtKeyIdCapable

def appendFtMdie (self : Link) (ies : Octets) : Except WifiError Octets :=
  match self.bssInfo.mdie with
  | none => .error ⟨.roaming, "FT BSS without MDIE in scan results"⟩
  | some info => .ok (ies ++ Elements.mdie info.mdid info.ftCapab)

end Link

def associate (env : Env) (ies : Octets) (mfpRequired : Bool) : Iface Unit := do
  let self ← get
  let ies := self.link.announceCapabilities ies
  modify fun self => { self with link.assocWpaIe := self.link.echoedIe ies }
  let bss := self.link.bssInfo
  let controlPort := bss.security != .open && self.controlPort == .nl80211
  request env (.associate self.link.network.ssid bss.bssid none bss.freqMhz ies mfpRequired controlPort)

def driverDelPmksa (env : Env) (entry : PmksaEntry) : Iface Unit := do
  let _ ← bestEffort env (.delPmksa entry.pmkid.val entry.bssid)

def driverSetPmksa (env : Env) (entry : PmksaEntry) : Iface Unit := do
  let _ ← bestEffort env (.setPmksa entry.pmkid.val entry.pmk.val entry.bssid
    (entry.remainingLifetimeSecs env.now) (entry.remainingReauthPercent env.now))

def connectUnsupported : SecurityType → Option String
  | .open | .wpa2Psk | .wpa2PskSha256 | .wpa2Ent | .wpa2EntSha256 => none
  | .sae | .saeExtKey | .ftSae | .ftSaeExtKey =>
    some "WPA3-SAE requires a SoftMAC driver (NL80211_CMD_AUTHENTICATE)"
  | .ftPsk => some "802.11r FT-PSK requires a SoftMAC driver"
  | .owe => some "OWE is not supported on FullMAC drivers yet"
  | .unsupported => some "unsupported security mode"

def connectAkm : SecurityType → Option AkmSuite
  | .wpa2Psk => some .psk
  | .wpa2PskSha256 => some .pskSha256
  | .wpa2Ent => some .ieee8021x
  | .wpa2EntSha256 => some .ieee8021xSha256
  | _ => none

def sendOutConnectRequest (env : Env) : Iface Unit := do
  let self ← get
  let bss := self.link.bssInfo
  match connectUnsupported bss.security with
  | some reason => throw ⟨.noSupport, reason⟩
  | none =>
    if self.mlme ≠ .fullMac then
      throw ⟨.config, "send_out_connect_request called in SoftMAC mode"⟩
    else
      let pmkid := self.link.pmksaInUse.map PmksaEntry.pmkid
      let ies := if bss.security = .open then [] else self.link.rsneWithPmkid pmkid
      modify fun self => { self with link.assocWpaIe := (extractRsnFromIes ies).getD [] }
      let mfp := bss.security = .wpa2EntSha256 || bss.security != .open && bss.apMfpCapable
      let controlPort := bss.security != .open && self.controlPort == .nl80211
      when (bss.security ≠ .open) (ensureControlPort env)
      request env (.connect self.link.network.ssid bss.bssid bss.freqMhz ies (bss.security != .open)
        (connectAkm bss.security) mfp controlPort)

def WifiIface.resetAttempt (self : WifiIface) : WifiIface :=
  { self with
    link.fourway := none
    link.ptkRekey := false
    link.ft := none
    link.pmksaInUse := none
    link.pendingFtMsg1 := none
    link.staleConnectFailure := false
    link.assocWpaIe := []
    roam.ftRoam := none
    auth.method := none
    auth.pskPmk := none
    auth.saeCommitSent := false
    auth.saeSync := 0
    auth.saeCommitAuthData := []
    auth.saeConfirmSent := false
    auth.saeConfirmAuthData := []
    auth.saeHnpAttempted := false
    auth.eapPeer := none
    auth.eapPmk := none }

def prepareEap : Iface Unit := do
  let self ← get
  let security := self.link.bssInfo.security
  if security.isEnterprise then
    let name := security.debug
    let eap ← orThrow self.link.network.eap
      (⟨.invalidConfig, s!"{name} network requires EAP credentials"⟩ : WifiError)
    let method ← EapTlsMethod.fromConfig eap
    modify fun self => { self with auth.eapPeer := some ((EapPeer.new eap.identity).setMethod method) }

def SecurityType.isCached (self : SecurityType) : Bool := self.isSae || self.isPsk

def usePmksa (env : Env) : Iface Unit := do
  let self ← get
  let ssid := self.link.network.ssid
  let bss := self.link.bssInfo
  let cached := if bss.security.isCached then self.pmksaCache.lookup ssid bss.bssid bss.security env.now
    else none
  modify fun self => { self with pmksaCache := self.pmksaCache.removeExpired env.now }
  match cached with
  | some entry => modify fun self => { self with link.pmksaInUse := some entry }
  | none =>
    match self.pmksaCache.lookupPastReauth ssid bss.bssid bss.security env.now with
    | some entry => driverDelPmksa env entry
    | none => pure ()

def derivePsk [Primitives] : Iface Unit := do
  let self ← get
  if self.link.pmksaInUse.isNone ∧ self.link.bssInfo.security.isPsk then
    let password ← orThrow self.link.network.password
      (⟨.invalidConfig, "password required for WPA2-PSK"⟩ : WifiError)
    modify fun self => { self with auth.pskPmk := some (pbkdf2Pmk password self.link.network.ssid) }

def sendFirstCommit (env : Env) : Iface Unit := do
  let self ← get
  let bss := self.link.bssInfo
  let network := self.link.network
  let password ← orThrow network.password
    (⟨.invalidConfig, "password required for encrypted network"⟩ : WifiError)
  let extKey := bss.security = .saeExtKey || bss.security = .ftSaeExtKey
  let method ← Sae.newWithPasswordId password network.ssid self.mac bss.bssid
    (extKey || network.saePwe.startsH2e bss.apSupportsSaeH2e || network.saePasswordId.isSome)
    (!extKey && network.saePwe.allowsHnpFallback && network.saePasswordId.isNone)
    network.saePasswordId env.random
  let selector : Block 4 := ⟨[0x00, 0x0f, 0xac, if bss.security = .saeExtKey then 0x18 else 0x19], rfl⟩
  let method := if extKey then Sae.setAkmSelector method (some selector) else method
  let (authData, method) := Sae.buildInitAuthMsg method env.random
  modify fun self => { self with auth.method := some method }
  request env (.authenticate network.ssid bss.bssid bss.freqMhz .sae authData [])
  modify fun self => { self with
    auth.saeCommitSent := true, auth.saeSync := 0, auth.saeCommitAuthData := authData }

def authenticateSelected [Primitives] (env : Env) : Iface Unit := do
  prepareEap
  usePmksa env
  derivePsk
  let self ← get
  let bss := self.link.bssInfo
  when (bss.security ≠ .open ∧ self.controlPort = .rawEapol) (ensureControlPort env)
  if self.mlme = .fullMac then sendOutConnectRequest env
  else if self.link.pmksaInUse.isSome ∨ !bss.security.isSae then
    request env (.authenticate self.link.network.ssid bss.bssid bss.freqMhz .openSystem [] [])
  else sendFirstCommit env

def sendOutAuthRequest [Primitives] (env : Env) : Iface Unit := do
  modify (·.resetAttempt)
  authenticateSelected env

def pmksaFallback [Primitives] (env : Env) : Iface Unit := do
  let self ← get
  match self.link.pmksaInUse with
  | some entry =>
    modify fun self => { self with
      link.pmksaInUse := none
      pmksaCache := self.pmksaCache.invalidate entry.ssid entry.bssid entry.security }
    driverDelPmksa env entry
  | none => pure ()
  orFail do
    sendOutAuthRequest env
    modify (·.setState .authenticating)

def associateWithPmksa [Primitives] (env : Env) : Iface Unit := do
  let self ← get
  match self.link.pmksaInUse with
  | none => pure ()
  | some entry =>
    let ies := self.link.rsneWithPmkid (some entry.pmkid)
    let mfp := match self.link.bssInfo.security with
      | .sae | .saeExtKey | .ftSaeExtKey => true
      | _ => self.link.bssInfo.apMfpCapable
    tryCatch (associate env ies mfp) fun _ => pmksaFallback env

def establishedPmksa [Primitives] (self : WifiIface) (now : Instant) : Option PmksaEntry :=
  let bss := self.link.bssInfo
  let entry (pmk : Block 32) (pmkid : Block 16) (micAlg : MicAlg) : PmksaEntry :=
    .new self.link.network.ssid bss.bssid bss.security pmkid pmk micAlg now
  match bss.security with
  | .sae | .saeExtKey => do
    let method ← self.auth.method
    return entry (← Sae.pmk method) (← Sae.pmkid method)
      (if bss.security = .sae then .aesCmac else .hmacSha256)
  | .wpa2Psk => self.auth.pskPmk.map fun pmk => entry pmk (pmkidSha1 pmk bss.bssid self.mac) .hmacSha1
  | .wpa2PskSha256 =>
    self.auth.pskPmk.map fun pmk => entry pmk (pmkidSha256 pmk bss.bssid self.mac) .aesCmac
  | _ => none

def cachePmksa [Primitives] (env : Env) : Iface Unit := do
  let self ← get
  modify fun self => { self with link.pmksaInUse := none }
  match self.link.pmksaInUse.or (establishedPmksa self env.now) with
  | none => pure ()
  | some entry =>
    driverSetPmksa env entry
    modify fun self => { self with pmksaCache := self.pmksaCache.insert entry env.now }

end Shuli.Wifi
