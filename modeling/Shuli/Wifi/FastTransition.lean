import Shuli.Wifi.Roam

/-!
The start of a roam and the 802.11r fast transition (`roam.rs`): authentication over the air,
reassociation with the keys of the target, and the connection that skips the 4-way handshake.
-/

namespace Shuli.Wifi

open Fallible
open Shuli.Core (WifiError Tls)

def noFtRoam : WifiError := roamingError "no FT roam in progress"

def noFtContext : WifiError := roamingError "no FT context"

section

variable [Elements]

def checkFtAuthResponse (ft : FtContext) (roam : FtRoam) (frame : Octets) :
    Except WifiError (Ftie × MacAddr) := do
  match Elements.parseFtAuth frame with
  | .error reason => throw (roamingError s!"malformed FT authentication frame: {reason}")
  | .ok auth =>
    let transaction := auth.transaction
    let status := auth.statusCode
    if transaction ≠ 2 then throw (roamingError s!"unexpected FT auth frame seq={transaction}")
    if status ≠ 0 then throw (roamingError s!"FT authentication rejected: status={status}")
    let (mdid, _) ← orThrow ((Elements.findIe auth.body elementIdMdie).bind Elements.parseMdie)
      (roamingError "no MDIE in FT auth response")
    if mdid ≠ ft.mdid then throw (roamingError "MDID mismatch in FT auth response")
    let ftieBody ← orThrow (Elements.findIe auth.body elementIdFtie)
      (roamingError "no FTIE in FT auth response")
    let ftie ← orThrow (Elements.parseFtie ftieBody) (roamingError "malformed FTIE in FT auth response")
    if ftie.snonce ≠ roam.snonce then throw (roamingError "SNonce mismatch in FT auth response")
    if ftie.r0khId ≠ some ft.r0khId then throw (roamingError "R0KH-ID mismatch in FT auth response")
    let r1khId ← orThrow ftie.r1khId (roamingError "no R1KH-ID in FT auth response FTIE")
    let pmkid := (Elements.findIe auth.body elementIdRsn).bind Elements.rsneFirstPmkid
    if pmkid.any (· != ft.pmkR0.name) then
      throw (roamingError "PMKR0Name mismatch in FT auth response RSNE")
    return (ftie, r1khId)

def ftieZeroedMic (body : Octets) : Octets :=
  [elementIdFtie, UInt8.ofNat body.length] ++ body.take 2 ++ List.replicate 16 0 ++ body.drop 18

variable [Primitives] [EapolCodec]

def checkFtAssocResponse (mac : MacAddr) (target : BssInfo) (ptk : Ptk) (r1khId : MacAddr)
    (pmkR1 : PmkR1) (ies : Octets) : Except WifiError Ftie := do
  let ftieBody ← orThrow (Elements.findIe ies elementIdFtie) (roamingError "no FTIE in reassoc response")
  let ftie ← orThrow (Elements.parseFtie ftieBody) (roamingError "malformed reassoc response FTIE")
  if ftie.r1khId ≠ some r1khId then throw (roamingError "R1KH-ID mismatch in reassoc response")
  let rsne ← orThrow (findElement ies elementIdRsn) (roamingError "no RSNE in reassoc response")
  if (Elements.rsneFirstPmkid (rsne.drop 2)).any (· != pmkR1.name) then
    throw (roamingError "PMKR1Name mismatch in reassoc response RSNE")
  if !target.apRsne.isEmpty ∧ !EapolCodec.rsneMatchIgnorePmkid rsne target.apRsne then
    throw (roamingError "RSNE downgrade detected in reassoc response")
  let signed := rsne ++ (findElement ies elementIdMdie).getD [] ++ ftieZeroedMic ftieBody ++
    (findElement ies elementIdRsnExt).getD []
  let expected ← ftMic (FourWayState.kckOf ptk) mac target.bssid 6 signed
  if expected ≠ ftie.mic then throw (roamingError "FTIE MIC mismatch in reassoc response")
  return ftie

end

section

variable [Tls] [Sae] [Owe] [Elements]

def WifiIface.synthesizeOkcEntry [Primitives] (self : WifiIface) (target : BssInfo) (now : Instant) :
    WifiIface :=
  let cached (pmk : Block 32) (pmkid : Block 16) (micAlg : MicAlg) : WifiIface :=
    let entry := PmksaEntry.new self.link.network.ssid target.bssid target.security pmkid pmk micAlg now
    { self with pmksaCache := self.pmksaCache.insert entry now }
  match self.auth.pskPmk, target.security with
  | some pmk, .wpa2Psk => cached pmk (pmkidSha1 pmk target.bssid self.mac) .hmacSha1
  | some pmk, .wpa2PskSha256 => cached pmk (pmkidSha256 pmk target.bssid self.mac) .aesCmac
  | _, _ => self

def startFtRoam (env : Env) (target : BssInfo) : Iface Unit := do
  let self ← get
  let ft ← orThrow self.link.ft noFtContext
  let mdie ← orThrow target.mdie (roamingError "roam target has no MDIE")
  let snonce := env.nonce 0
  let ies := self.link.ie self.link.bssInfo.security.ftRsne (some ft.pmkR0.name) ++
    Elements.mdie mdie.mdid mdie.ftCapab ++ Elements.ftieAuthRequest snonce ft.r0khId
  tryCatch (request env (.authenticate self.link.network.ssid target.bssid target.freqMhz .ft [] ies))
    fun error => do
      modify (·.setState .failed)
      let text := error.display
      throw (roamingError s!"FT AUTHENTICATE failed: {text}")
  modify fun self => { self with
    state := .authenticating, roam.ftRoam := some ⟨target, snonce, none, none, none⟩ }

def WifiIface.canFtRoam (self : WifiIface) (target : BssInfo) (network : NetworkConfig) : Bool :=
  network.ssid == self.link.network.ssid && self.link.ft.isSome && target.security.isFt &&
    target.mdie.map MdieInfo.mdid == self.link.ft.map FtContext.mdid

def startRoam [Primitives] (env : Env) (target : BssInfo) (network : NetworkConfig) : Iface Unit := do
  modify fun self => { self with
    roam.postConnectScanAt := none, roam.postConnectScanDone := true, roam.cqmArmed := false }
  let self ← get
  let switching := network.ssid != self.link.network.ssid
  if switching ∧ !network.canRoamToSecurity target.security then pure ()
  else if self.canFtRoam target network then tryCatch (startFtRoam env target) fun _ => pure ()
  else
    when switching (modify fun self => { self with link.network := network })
    when (!switching ∧ !self.pmksaCache.contains network.ssid target.bssid target.security env.now)
      (modify (·.synthesizeOkcEntry target env.now))
    modify fun self => { self with
      roam.roamTarget := some target.bssid, roam.lastRoam := some env.now, roam.roamScanFull := false }
    let _ ← bestEffort env .disconnect
    modify (·.setState .failed)

def WifiIface.pickBtmTarget (self : WifiIface) (candidates : List Neighbor) : Option BssInfo :=
  candidates.findSome? fun candidate =>
    if candidate.bssid = self.link.bssInfo.bssid then none
    else
      match self.roam.lastScanCandidates.find? fun (bss, network) =>
          bss.bssid == candidate.bssid && network.matchesBssid bss.bssid with
      | some (bss, _) => if bss.security.base = self.link.bssInfo.security.base then some bss else none
      | none => none

def btmStatusAccept : UInt8 := 0

def btmStatusRejectUnspecified : UInt8 := 1

def handleWnmFrame [Primitives] (env : Env) (btm : BtmRequest) : Iface Unit := do
  let self ← get
  if self.mlme = .softMac ∧ self.state.isConnected then
    modify fun self => { self with
      roam.roamFreqs := addNeighborFreqs self.roam.roamFreqs btm.candidates }
    match self.pickBtmTarget btm.candidates with
    | some target =>
      let _ ← bestEffort env (.btmResponse btm.dialogToken btmStatusAccept target.bssid)
      startRoam env target self.link.network
    | none =>
      let _ ← bestEffort env (.btmResponse btm.dialogToken btmStatusRejectUnspecified
        ⟨List.replicate 6 0, rfl⟩)

def sendFtReassoc [Primitives] (env : Env) (target : BssInfo) (ptk : Ptk) (pmkR1 : PmkR1)
    (r1khId : MacAddr) (snonce anonce : Block 32) : Iface Unit := do
  let self ← get
  let ft ← orThrow self.link.ft noFtContext
  let info ← orThrow target.mdie (roamingError "roam target has no MDIE")
  let rsne := self.link.ie target.security.ftRsne (some pmkR1.name)
  let mdie := Elements.mdie info.mdid info.ftCapab
  let network := self.link.network
  let rsnxe := if ftReassocUsesRsnxe target.security network.saePwe target.apSupportsSaeH2e
      network.saePasswordId then some Elements.saeRsnxe else none
  let ftie ← ftieReassocRequest (FourWayState.kckOf ptk) self.mac target.bssid anonce snonce ft.r0khId
    r1khId rsne mdie rsnxe
  let mfp := target.security = .ftSae || target.security = .ftSaeExtKey || target.apMfpCapable
  request env (.associate network.ssid target.bssid (some self.link.bssInfo.bssid) target.freqMhz
    (rsne ++ mdie ++ ftie ++ rsnxe.getD []) mfp true)

def continueFtRoam [Primitives] (env : Env) (frame : Octets) : Iface Unit := do
  let self ← get
  let roam ← orThrow self.roam.ftRoam noFtRoam
  let ft ← orThrow self.link.ft noFtContext
  let (ftie, r1khId) ← checkFtAuthResponse ft roam frame
  let pmkR1 := derivePmkR1 ft.pmkR0 r1khId self.mac
  let ptk := deriveFtPtk pmkR1 roam.snonce ftie.anonce roam.target.bssid self.mac
  modify fun self => { self with
    roam.ftRoam := some { roam with pmkR1 := some pmkR1, r1khId := some r1khId, ptk := some ptk } }
  sendFtReassoc env roam.target ptk pmkR1 r1khId roam.snonce ftie.anonce

def handleFtAuthResponse [Primitives] (env : Env) (frame : Octets) : Iface Unit :=
  tryCatch (continueFtRoam env frame) fun _ =>
    modify fun self => { self with roam.ftRoam := none, state := .failed }

def installFtKey (env : Env) (name : String) (key : KeyRequest) : Iface Unit :=
  tryCatch (request env (.newKey key)) fun error => do
    let text := error.display
    throw (roamingError s!"FT {name} install failed: {text}")

def installFtKeys [Primitives] (env : Env) (target : BssInfo) (ptk : Ptk) (ftie : Ftie) :
    Iface Unit := do
  installFtKey env "PTK" (.ptk target.bssid (FourWayState.tkOf ptk).val (some 0) false)
  let kek := FourWayState.kekOf ptk
  ftie.gtk.forM fun gtk => do
    let key ← unwrapFtKey kek gtk.wrappedKey
    installFtKey env "GTK" (.gtk key gtk.keyIndex gtk.rsc)
  ftie.igtk.forM fun igtk => do
    let key ← unwrapFtKey kek igtk.wrappedKey
    let _ ← bestEffort env (.newKey (.igtk key igtk.keyIndex.toUInt16 igtk.rsc target.groupMgmtCipher))
  ftie.bigtk.forM fun bigtk => do
    let key ← unwrapFtKey kek bigtk.wrappedKey
    let _ ← bestEffort env (.newKey (.bigtk key bigtk.keyIndex.toUInt16 bigtk.rsc
      target.groupMgmtCipher))

def WifiIface.moveTo (self : WifiIface) (target : BssInfo) (ft : FtContext) (pmkR1 : PmkR1) (ptk : Ptk)
    (ies : Octets) (fresh : Block 32) (now : Instant) : WifiIface :=
  let link := { self.link with bssInfo := target }
  let rsne := link.ie target.security.ftIe (some pmkR1.name) ++ ftElements ies
  let fw := FourWayState.newFt fresh pmkR1 target.security.ftMicAlg self.mac target.bssid
    (link.announceCapabilities rsne) target.apRsne target.apRsnxe
  let fw := (((link.enableOcv fw).getD fw).setExtKeyId link.extKeyIdEnabled).setPtk ptk
  { self with
    link := { link with
      fourway := some fw, ft := some { ft with pmkR1 := pmkR1, assocRespFtIes := ftElements ies } }
    roam.ftRoam := none
    roam.lastRoam := some now
    roam.roamScanFull := false
    auth.method := none
    scanRetryInterval := retryBackoffInitSec }

def completeFtRoam [Primitives] [EapolCodec] (env : Env) (ies : Octets) : Iface Unit := do
  let self ← get
  let roam ← orThrow self.roam.ftRoam noFtRoam
  let ft ← orThrow self.link.ft noFtContext
  let ptk ← orThrow roam.ptk (roamingError "FT roam PTK missing")
  let r1khId ← orThrow roam.r1khId (roamingError "FT roam R1KH-ID missing")
  let pmkR1 ← orThrow roam.pmkR1 (roamingError "FT roam PMK-R1 missing")
  let ftie ← checkFtAssocResponse self.mac roam.target ptk r1khId pmkR1 ies
  installFtKeys env roam.target ptk ftie
  modify (·.moveTo roam.target ft pmkR1 ptk ies (env.nonce 0) env.now)
  let offloaded ← tryOffloadRekey env
  modify fun self => { self.record (.connected .ftRoam) with
    state := if offloaded then .connectedWithOffloadRekey else .connectedWithoutOffloadRekey }
  armWowlanIfEnabled env

def handleFtAssocResponse [Primitives] [EapolCodec] (env : Env) (ies : Octets) : Iface Unit :=
  tryCatch (completeFtRoam env ies) fun _ =>
    modify fun self => { self with roam.ftRoam := none, state := .failed }

end

end Shuli.Wifi
