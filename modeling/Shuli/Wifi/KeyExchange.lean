import Shuli.Wifi.SaeExchange

/-!
The frames of the control port (`client/events.rs`): the EAP packets of an enterprise network, the
4-way handshake with its key installation, and the group key handshake.
-/

namespace Shuli.Wifi

open Fallible
open Shuli.Core (WifiError EapPacket EapPeer Tls)

def retryBackoffInitSec : Nat := 10

def eapolVersion : UInt8 := 2

def eapolTypeEap : UInt8 := 0

def buildEapolEapFrame (eap : Octets) : Octets :=
  [eapolVersion, eapolTypeEap] ++ beOctets 2 eap.length ++ eap

def parseEapolEapFrame (pdu : Octets) : Option Octets :=
  let length := beNat ((pdu.drop 2).take 2)
  if pdu.length < 4 ∨ pdu.getD 1 0 ≠ eapolTypeEap ∨ pdu.length < 4 + length then none
  else some ((pdu.drop 4).take length)

def rekeyAkm : SecurityType → AkmSuite
  | .wpa2Psk => .psk
  | .wpa2PskSha256 => .pskSha256
  | .wpa2Ent => .ieee8021x
  | .wpa2EntSha256 => .ieee8021xSha256
  | .owe => .owe
  | .sae => .sae
  | .saeExtKey => .saeGroupDependentHash
  | .ftPsk => .ftPsk
  | .ftSae => .ftSae
  | .ftSaeExtKey => .ftSaeGroupDependentHash
  | .open | .unsupported => .sae

def SecurityType.ftIe : SecurityType → RsnIe
  | .ftSae => .ftSae
  | .ftSaeExtKey => .ftSaeExtKey
  | _ => .ftPsk

def SecurityType.ftRsne : SecurityType → RsnIe
  | .ftSae => .ftSaeRsne
  | .ftSaeExtKey => .ftSaeExtKeyRsne
  | _ => .ftPskRsne

def SecurityType.ftMicAlg : SecurityType → MicAlg
  | .ftSaeExtKey => .hmacSha256
  | _ => .aesCmac

variable [Tls] [Sae] [Owe] [Elements]

def armWowlan (env : Env) : Iface Unit := do
  let self ← get
  if !self.wowlanArmed ∧ self.wowlanSupported then
    if ← bestEffort env (.setWowlan true) then modify fun self => { self with wowlanArmed := true }

def armWowlanIfEnabled (env : Env) : Iface Unit := do
  let self ← get
  if self.link.network.wowlan then armWowlan env

def disarmWowlan (env : Env) : Iface Unit := do
  let self ← get
  if self.wowlanArmed then
    let _ ← bestEffort env (.setWowlan false)
    modify fun self => { self with wowlanArmed := false }

def WifiIface.established (self : WifiIface) (cause : ConnectedBy) (state : WifiState) : WifiIface :=
  { self.record (.connected cause) with
    fastReconnect := none, scanRetryInterval := retryBackoffInitSec, state := state }

def tryOffloadRekey (env : Env) : Iface Bool := do
  let self ← get
  match self.link.fourway with
  | none => return false
  | some fw =>
    match fw.kck, fw.kek with
    | some kck, some kek =>
      bestEffort env (.setRekeyOffload kek.val kck.val (be64 fw.replayCounter)
        (rekeyAkm self.link.bssInfo.security))
    | _, _ => return false

def WifiIface.handshakeKey (self : WifiIface) : Option (Block 32 × Octets × MicAlg) :=
  let link := self.link
  let orBuilt (built : Octets) : Octets := if link.assocWpaIe.isEmpty then built else link.assocWpaIe
  let key (pmk : Option (Block 32)) (builder : RsnIe) (micAlg : MicAlg) :=
    pmk.map fun pmk => (pmk, orBuilt (link.ie builder none), micAlg)
  match link.pmksaInUse with
  | some entry => some (entry.pmk, orBuilt (link.rsneWithPmkid (some entry.pmkid)), entry.micAlg)
  | none =>
    match link.bssInfo.security with
    | .owe => key (self.auth.owe.bind Owe.pmk) .owe .hmacSha256
    | .wpa2Psk => key self.auth.pskPmk .wpa2Psk .hmacSha1
    | .wpa2PskSha256 => key self.auth.pskPmk .wpa2PskSha256 .aesCmac
    | .wpa2Ent => key self.auth.eapPmk .wpa2Ent .hmacSha1
    | .wpa2EntSha256 => key self.auth.eapPmk .wpa2EntSha256 .aesCmac
    | .saeExtKey => key (self.auth.method.bind Sae.pmk) .saeExtKey .hmacSha256
    | _ => key (self.auth.method.bind Sae.pmk) .sae .aesCmac

def WifiIface.newFourway (self : WifiIface) (fresh : Block 32) : Option FourWayState := do
  let link := self.link
  let bss := link.bssInfo
  let fw ←
    if bss.security.isFt then
      link.ft.map fun ft =>
        let rsne := link.ie bss.security.ftIe (some ft.pmkR1.name) ++ ft.assocRespFtIes
        FourWayState.newFt fresh ft.pmkR1 bss.security.ftMicAlg self.mac bss.bssid
          (link.announceCapabilities rsne) bss.apRsne bss.apRsnxe
    else
      self.handshakeKey.map fun (pmk, rsne, micAlg) =>
        FourWayState.newWithApIes fresh pmk micAlg self.mac bss.bssid
          (link.announceCapabilities rsne) bss.apRsne bss.apRsnxe
  let fw ← link.enableOcv fw
  return fw.setExtKeyId link.extKeyIdEnabled

def setFourway (fw : FourWayState) : Iface Unit :=
  modify fun self => { self with link.fourway := some fw }

variable [Primitives] [EapolCodec]

/-- Message 1: derive the keys and answer with Message 2. With an FT AKM the frame waits for the
association response that brings the FT context. -/
def handleMessage1 (env : Env) (raw : Octets) (parsed : ParsedKey) : Iface Unit := do
  let self ← get
  if self.link.bssInfo.security.isFt ∧ self.link.ft.isNone then
    modify fun self => { self with link.pendingFtMsg1 := some raw }
  else
    modify fun self => { self with link.ptkRekey := self.link.fourway.isSome }
    match self.link.fourway.or (self.newFourway (env.nonce 0)) with
    | none => modify (·.setState .failed)
    | some fw =>
      let frame := parsed.frame
      let outcome := exec (processMessage1 (env.nonce 1) frame.keyNonce frame.replayCounter
        frame.descVersion) fw
      setFourway outcome.2
      match outcome.1 with
      | .error _ => modify (·.setState .failed)
      | .ok msg2 => orFail (sendControlPortFrame env self.link.bssInfo.bssid msg2)

/-- A Message 3 that does not verify: a stale PMKSA, a wrong passphrase, or a transient failure. -/
def message3Failed (env : Env) (error : WifiError) : Iface Unit := do
  let self ← get
  if self.link.pmksaInUse.isSome then pmksaFallback env
  else if self.link.bssInfo.security.isPsk ∧ error.msg = "MIC mismatch" then
    failAuth (wrongPassword self.link.network.ssid)
  else modify (·.setState .failed)

def installManagementKeys (env : Env) (cipher : CipherSuite) (kdes : KeyDataKdes) : Iface Unit := do
  kdes.igtk.forM fun igtk => do
    let _ ← bestEffort env (.newKey (.igtk igtk.key igtk.keyIndex igtk.ipn.val cipher))
  kdes.bigtk.forM fun bigtk => do
    let _ ← bestEffort env (.newKey (.bigtk bigtk.key bigtk.keyIndex bigtk.ipn.val cipher))

def installHandshakeKeys (env : Env) (fw : FourWayState) (frame : EapolKeyFrame) (msg4 : Octets)
    (kdes : KeyDataKdes) : Iface Unit := do
  let self ← get
  let bss := self.link.bssInfo
  -- With Extended Key ID the key is installed for reception before Message 4.
  when fw.keyId.isSome (fw.tk.forM fun tk => request env (.newKey (.ptk bss.bssid tk.val fw.keyId false)))
  sendControlPortFrame env bss.bssid msg4
  fw.tk.forM fun tk => request env (.newKey (.ptk bss.bssid tk.val fw.keyId fw.keyId.isSome))
  kdes.gtk.forM fun (index, gtk) => request env (.newKey (.gtk gtk index (frame.keyRsc.val.take 6)))
  installManagementKeys env bss.groupMgmtCipher kdes

def completeHandshake (env : Env) : Iface Unit := do
  let self ← get
  when (!self.link.ptkRekey) (cachePmksa env)
  when (self.mlme = .fullMac) do
    let _ ← bestEffort env (.setStationAuthorized self.link.bssInfo.bssid)
  let offloaded ← tryOffloadRekey env
  modify (·.established .handshake
    (if offloaded then .connectedWithOffloadRekey else .connectedWithoutOffloadRekey))
  armWowlanIfEnabled env

def handleMessage3 (env : Env) (parsed : ParsedKey) : Iface Unit := do
  let self ← get
  match self.link.fourway with
  | none => modify (·.setState .failed)
  | some fw =>
    let outcome := exec (processMessage3 parsed.frame) fw
    setFourway outcome.2
    match outcome.1 with
    | .error error => message3Failed env error
    | .ok (msg4, kdes) => orFail do
      installHandshakeKeys env outcome.2 parsed.frame msg4 kdes
      completeHandshake env

def handleGroupRekey (env : Env) (parsed : ParsedKey) : Iface Unit := do
  let self ← get
  match self.link.fourway with
  | none => pure ()
  | some fw =>
    let outcome := exec (processGroupRekey parsed.frame) fw
    setFourway outcome.2
    match outcome.1 with
    | .error _ => pure ()
    | .ok (msg2, kdes) => tryCatch (do
        sendControlPortFrame env self.link.bssInfo.bssid msg2
        kdes.gtk.forM fun (index, gtk) => do
          let _ ← bestEffort env (.newKey (.gtk gtk index (parsed.frame.keyRsc.val.take 6)))
        installManagementKeys env self.link.bssInfo.groupMgmtCipher kdes
        let _ ← tryOffloadRekey env) fun _ => pure ()

def pmkOfMsk (msk : Octets) : Option (Block 32) :=
  if fits : (msk.take 32).length = 32 then some ⟨msk.take 32, fits⟩ else none

def handleEapFrame (env : Env) (eapPdu : Octets) : Iface Unit := do
  let self ← get
  match EapPacket.parse eapPdu, self.auth.eapPeer with
  | some packet, some peer =>
    let outcome := exec (EapPeer.handlePacket packet) peer
    modify fun self => { self with auth.eapPeer := some outcome.2 }
    match outcome.1 with
    | .ok (.respond response) =>
      orFail (sendControlPortFrame env self.link.bssInfo.bssid (buildEapolEapFrame response))
    | .ok .success =>
      match outcome.2.msk with
      | none => failAuth ⟨.authFailed, "EAP-Success without an MSK"⟩
      | some msk => modify fun self => { self with auth.eapPmk := pmkOfMsk msk }
    | .ok .failure =>
      failAuth ⟨.authFailed, "EAP authentication failed: check the configured EAP credentials"⟩
    | .ok .wait => pure ()
    | .error error => failAuth ⟨.authFailed, "EAP authentication failed: " ++ error.display⟩
  | _, _ => pure ()

def handleControlPortFrame (env : Env) (frame : Octets) : Iface Unit :=
  match parseEapolEapFrame frame with
  | some eap => handleEapFrame env eap
  | none =>
    match Elements.parseEapolKey frame with
    | none => pure ()
    | some parsed =>
      if parsed.isRequest then pure ()
      else if !parsed.hasMic ∧ parsed.hasAck then handleMessage1 env frame parsed
      else if parsed.hasMic ∧ parsed.isSecure ∧ parsed.isPairwise then handleMessage3 env parsed
      else if parsed.hasMic ∧ parsed.isSecure ∧ parsed.hasAck then handleGroupRekey env parsed
      else pure ()

end Shuli.Wifi
