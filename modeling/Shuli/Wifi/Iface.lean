import Shuli.Core.Eap
import Shuli.Wifi.Network

/-!
The state of one interface (`client/state.rs`) with the requests that it sends to the kernel, and
what it takes from elsewhere: the SAE and OWE exchanges (`crypto/sae.rs`, `crypto/owe.rs`) through
the functions that the connection flow calls, and the elements and frames of the netlink crate.
Every request goes to the trace; so does each entry into a connected state, with its cause.
-/

namespace Shuli.Wifi

open Fallible
open Shuli.Core (WifiError ErrorKind EapPeer Tls)

/-- The SAE exchange, as the authentication method calls it. -/
class Sae where
  State : Type
  newWithPasswordId : (password ssid : String) → (staMac bssid : MacAddr) → (h2e hnpFallback : Bool) →
    (passwordId : Option String) → (random : Octets) → Except WifiError State
  setAkmSelector : State → Option (Block 4) → State
  buildInitAuthMsg : State → (random : Octets) → Octets × State
  buildCommitWithToken : State → (token random : Octets) → Except WifiError Octets × State
  processCommitWithElements : State → (scalar element elements : Octets) → Except WifiError Octets × State
  processConfirm : State → (payload : Octets) → Except WifiError Unit × State
  /-- The next Send-Confirm counter with its confirm. -/
  retransmitConfirm : State → Except WifiError (UInt16 × Octets) × State
  parseAntiCloggingToken : (h2e : Bool) → (payload : Octets) → Except WifiError Octets
  confirmed : State → Bool
  isH2e : State → Bool
  hnpFallbackAllowed : State → Bool
  groupId : State → UInt16
  pmk : State → Option (Block 32)
  pmkid : State → Option (Block 16)

class Owe where
  State : Type
  new : (random : Octets) → State
  buildDhElement : State → Octets
  findOweDhElement : (ies : Octets) → Option Octets
  processApDhElement : State → (dhData : Octets) → Except WifiError State
  pmk : State → Option (Block 32)

inductive RsnIe
  | owe | wpa2Psk | wpa2PskWithPmkid | wpa2PskSha256 | wpa2PskSha256WithPmkid | wpa2Ent | wpa2EntSha256
  | sae | saeWithPmkid | saeExtKey | saeExtKeyWithPmkid | ftPsk | ftSae | ftSaeExtKey
  | ftPskRsne | ftSaeRsne | ftSaeExtKeyRsne
  deriving DecidableEq, Repr

structure FtKeySubelem where
  keyIndex : UInt8
  rsc : Octets
  wrappedKey : Octets
  deriving DecidableEq, Repr

structure Ftie where
  mic : Block 16
  anonce : Block 32
  snonce : Block 32
  r0khId : Option Octets
  r1khId : Option MacAddr
  gtk : Option FtKeySubelem
  igtk : Option FtKeySubelem
  bigtk : Option FtKeySubelem
  deriving DecidableEq, Repr

structure FtAuthFrame where
  transaction : UInt16
  statusCode : UInt16
  body : Octets
  deriving DecidableEq, Repr

structure ParsedKey where
  frame : EapolKeyFrame
  isRequest : Bool
  hasMic : Bool
  hasAck : Bool
  isSecure : Bool
  isPairwise : Bool
  deriving DecidableEq, Repr

class Elements where
  rsnIe : RsnIe → (pmkid : Option (Block 16)) → CipherSuite → Octets
  saeRsnxe : Octets
  rsneSetOcvc : Octets → Octets
  rsneSetExtKeyId : Octets → Octets
  mdie : (mdid : Block 2) → (ftCapab : UInt8) → Octets
  ftieAuthRequest : (snonce : Block 32) → (r0khId : Octets) → Octets
  /-- The body of the first element of an id. -/
  findIe : (ies : Octets) → (id : UInt8) → Option Octets
  parseMdie : Octets → Option (Block 2 × UInt8)
  parseFtie : Octets → Option Ftie
  rsneFirstPmkid : Octets → Option (Block 16)
  parseFtAuth : Octets → Except String FtAuthFrame
  parseEapolKey : Octets → Option ParsedKey
  rsneMfpCapable : Octets → Bool
  apRsneSupportsOcv : Octets → Bool
  apRsneSupportsExtKeyId : Octets → Bool
  apRsnxeSupportsSaeH2e : Octets → Bool
  ociFromFreq : UInt32 → Option Oci
  /-- The frequency of a channel of an operating class. -/
  channelToFreq : (operatingClass channel : UInt8) → Option UInt32
  /-- `Display` of a status code. -/
  statusDisplay : UInt16 → String

def extractRsnLoop : Nat → Octets → Option Octets
  | bound + 1, id :: len :: rest =>
    if rest.length < len.toNat then none
    else if id = 48 then some (id :: len :: rest.take len.toNat)
    else extractRsnLoop bound (rest.drop len.toNat)
  | _, _ => none

def extractRsnFromIes (ies : Octets) : Option Octets := extractRsnLoop ies.length ies

inductive WifiState
  | init | scanning | schedScanWait | authenticating | connectedWithoutOffloadRekey
  | connectedWithOffloadRekey | failed | failedAuthentication
  deriving DecidableEq, Repr

def WifiState.isConnected : WifiState → Bool
  | connectedWithoutOffloadRekey | connectedWithOffloadRekey => true
  | _ => false

inductive FastReconnect
  | scanNow | sameBss
  deriving DecidableEq, Repr

inductive MlmeMode
  | softMac | fullMac
  deriving DecidableEq, Repr

inductive ControlPortMode
  | nl80211 | rawEapol
  deriving DecidableEq, Repr

inductive AkmSuite
  | psk | pskSha256 | ieee8021x | ieee8021xSha256 | owe | sae | saeGroupDependentHash | ftPsk | ftSae
  | ftSaeGroupDependentHash
  deriving DecidableEq, Repr

inductive AuthType
  | openSystem | sae | ft
  deriving DecidableEq, Repr

inductive KeyRequest
  | ptk (bssid : MacAddr) (tk : Octets) (keyIndex : Option UInt8) (defaultUnicast : Bool)
  | gtk (key : Octets) (keyIndex : UInt8) (seq : Octets)
  | igtk (key : Octets) (keyIndex : UInt16) (ipn : Octets) (cipher : CipherSuite)
  | bigtk (key : Octets) (keyIndex : UInt16) (ipn : Octets) (cipher : CipherSuite)
  deriving DecidableEq, Repr

inductive Request
  | authenticate (ssid : String) (bssid : MacAddr) (freqMhz : UInt32) (type : AuthType)
      (authData ies : Octets)
  | associate (ssid : String) (bssid : MacAddr) (prevBssid : Option MacAddr) (freqMhz : UInt32)
      (ies : Octets) (mfpRequired controlPortOverNl80211 : Bool)
  | connect (ssid : String) (bssid : MacAddr) (freqMhz : UInt32) (ies : Octets) (privacy : Bool)
      (akm : Option AkmSuite) (mfpRequired controlPortOverNl80211 : Bool)
  | disconnect
  | openControlPort
  | controlPortFrame (bssid : MacAddr) (frame : Octets)
  | newKey (key : KeyRequest)
  | setRekeyOffload (kek kck replayCtr : Octets) (akm : AkmSuite)
  | setStationAuthorized (bssid : MacAddr)
  | setPmksa (pmkid pmk : Octets) (bssid : MacAddr) (lifetime reauthThreshold : Nat)
  | delPmksa (pmkid : Octets) (bssid : MacAddr)
  | setWowlan (armed : Bool)
  | setCqm (threshold : Int)
  | triggerScan
  | startSchedScan
  | stopSchedScan
  | btmResponse (dialogToken status : UInt8) (target : MacAddr)
  | neighborReportRequest (dialogToken : UInt8)
  deriving DecidableEq, Repr

inductive ConnectedBy
  | openNetwork | handshake | portAuthorized | ftRoam
  deriving DecidableEq, Repr

inductive Action
  | request (request : Request)
  | connected (cause : ConnectedBy)
  deriving DecidableEq, Repr

structure FtContext where
  mdid : Block 2
  ftCapab : UInt8
  r0khId : Octets
  pmkR0 : PmkR0
  pmkR1 : PmkR1
  assocRespFtIes : Octets
  deriving DecidableEq, Repr

structure FtRoam where
  target : BssInfo
  snonce : Block 32
  pmkR1 : Option PmkR1
  r1khId : Option MacAddr
  ptk : Option Ptk
  deriving DecidableEq, Repr

structure Link where
  network : NetworkConfig
  bssInfo : BssInfo
  assocWpaIe : Octets
  fourway : Option FourWayState
  pmksaInUse : Option PmksaEntry
  ft : Option FtContext
  pendingFtMsg1 : Option Octets
  staleConnectFailure : Bool
  ptkRekey : Bool

structure AuthSession [Tls] [Sae] [Owe] where
  method : Option Sae.State
  owe : Option Owe.State
  pskPmk : Option (Block 32)
  eapPeer : Option EapPeer
  eapPmk : Option (Block 32)
  saeCommitSent : Bool
  saeSync : UInt8
  saeCommitAuthData : Octets
  saeConfirmSent : Bool
  saeConfirmAuthData : Octets
  saeHnpAttempted : Bool

/-- Roaming state. `awaitingReport` is the suspended roam scan that waits for a neighbour report. -/
structure RoamEngine where
  ftRoam : Option FtRoam
  roamScan : Bool
  preRoamState : Option WifiState
  roamTarget : Option MacAddr
  lastScanCandidates : List (BssInfo × NetworkConfig)
  roamFreqs : List UInt32
  roamScanFull : Bool
  pendingNrDialog : Option UInt8
  awaitingReport : Bool
  lastRoam : Option Instant
  cqmArmed : Bool
  backgroundScan : Bool
  postConnectScanAt : Option Instant
  postConnectScan : Bool
  postConnectScanDone : Bool

structure ScanEngine where
  /-- The next attempt may use the hints of the networks. -/
  hintScan : Bool := true
  /-- The scan looks for another network after the BSSes of one were tried. -/
  retryScan : Bool := false
  startupFastRetry : Bool := true
  unsupportedSecurity : Option (String × String) := none
  schedScanActive : Bool := false
  schedScanMore : Bool := false
  schedScanRotate : Bool := false
  deriving DecidableEq, Repr

structure BssidIgnoreEntry where
  bssid : MacAddr
  count : Nat
  deadline : Instant
  deriving DecidableEq, Repr

structure WifiIface [Tls] [Sae] [Owe] where
  mac : MacAddr
  mlme : MlmeMode
  controlPort : ControlPortMode
  /-- The raw EAPOL socket has been opened. -/
  rawPortOpen : Bool
  wowlanSupported : Bool
  link : Link
  auth : AuthSession
  roam : RoamEngine
  wowlanArmed : Bool
  schedScanStopPending : Bool
  scanRetryInterval : Nat
  state : WifiState
  fastReconnect : Option FastReconnect
  bssidIgnore : List BssidIgnoreEntry
  pmksaCache : PmksaCache
  lastError : Option WifiError
  trace : List Action
  networks : List NetworkConfig := []
  schedScanSupported : Bool := false
  scan : ScanEngine := {}

structure ScanEntry where
  ies : Option Octets
  bssid : Option MacAddr
  freqMhz : Option UInt32
  signalDbm : Option Int
  privacy : Bool
  deriving DecidableEq, Repr

/-- The answers of the environment during one step: what the kernel says to the request that finds
`count` entries in the trace and to each query, the clock and the random generator. -/
structure Env where
  answer : (count : Nat) → Except WifiError Unit
  now : Instant
  random : Octets
  nonce : Nat → Block 32
  /-- The dump of the scan results. -/
  scanResults : Except WifiError (List ScanEntry) := .ok []
  /-- The signal of the station entry of the current BSSID. -/
  currentSignalDbm : Except WifiError (Option Int) := .ok none
  isAssociated : Except WifiError Bool := .ok true
  /-- Whether the SSIDs of a scheduled scan leave some for another; none when they do not fit the driver. -/
  moreSchedScanSsids : Option Bool := some false

section

variable [Tls] [Sae] [Owe]

abbrev Iface := Fallible WifiIface WifiError

namespace WifiIface

def record (self : WifiIface) (action : Action) : WifiIface := { self with trace := self.trace ++ [action] }

def setState (self : WifiIface) (state : WifiState) : WifiIface := { self with state := state }

def failedAuth (self : WifiIface) (error : WifiError) : WifiIface :=
  { self with lastError := some error, fastReconnect := none, state := .failedAuthentication }

def isIgnored (self : WifiIface) (bssid : MacAddr) (now : Instant) : Bool :=
  self.bssidIgnore.any fun entry => entry.bssid == bssid && entry.deadline > now

end WifiIface

def request (env : Env) (request : Request) : Iface Unit := do
  let self ← get
  modify (·.record (.request request))
  env.answer self.trace.length

def bestEffort (env : Env) (req : Request) : Iface Bool :=
  tryCatch (do request env req; return true) fun _ => return false

def orFail (call : Iface Unit) : Iface Unit := tryCatch call fun _ => modify (·.setState .failed)

def failAuth (error : WifiError) : Iface Unit := modify (·.failedAuth error)

def ensureControlPort (env : Env) : Iface Unit := do
  let self ← get
  if self.controlPort = .rawEapol ∧ !self.rawPortOpen then
    request env .openControlPort
    modify fun self => { self with rawPortOpen := true }

def sendControlPortFrame (env : Env) (bssid : MacAddr) (frame : Octets) : Iface Unit := do
  let self ← get
  if self.controlPort = .rawEapol ∧ !self.rawPortOpen then
    throw ⟨.noSupport, "raw EAPOL control port is not initialized"⟩
  else request env (.controlPortFrame bssid frame)

end

end Shuli.Wifi
