import Shuli.Wifi.Handshake4

/-!
Networks and BSSes (`config.rs`, `scan.rs`) and the PMKSA cache (`pmksa.rs`).
-/

namespace Shuli.Wifi

open Shuli.Core (EapConfig)

abbrev Instant := Nat

inductive SecurityType
  | open | wpa2Psk | wpa2PskSha256 | wpa2Ent | wpa2EntSha256 | owe | sae | ftPsk | ftSae | saeExtKey
  | ftSaeExtKey | unsupported
  deriving DecidableEq, Repr

namespace SecurityType

def isFt : SecurityType → Bool
  | ftPsk | ftSae | ftSaeExtKey => true
  | _ => false

def base : SecurityType → SecurityType
  | ftPsk => wpa2Psk
  | ftSae => sae
  | ftSaeExtKey => saeExtKey
  | other => other

def isSae : SecurityType → Bool
  | sae | saeExtKey | ftSae | ftSaeExtKey => true
  | _ => false

def isPsk : SecurityType → Bool
  | wpa2Psk | wpa2PskSha256 | ftPsk => true
  | _ => false

def isEnterprise : SecurityType → Bool
  | wpa2Ent | wpa2EntSha256 => true
  | _ => false

def debug : SecurityType → String
  | .open => "Open"
  | wpa2Psk => "Wpa2Psk"
  | wpa2PskSha256 => "Wpa2PskSha256"
  | wpa2Ent => "Wpa2Ent"
  | wpa2EntSha256 => "Wpa2EntSha256"
  | owe => "Owe"
  | sae => "Sae"
  | ftPsk => "FtPsk"
  | ftSae => "FtSae"
  | saeExtKey => "SaeExtKey"
  | ftSaeExtKey => "FtSaeExtKey"
  | unsupported => "Unsupported"

end SecurityType

inductive CipherSuite
  | bipCmac128 | bipGmac128 | bipGmac256 | bipCmac256
  | other (value : UInt32)
  deriving DecidableEq, Repr

structure MdieInfo where
  mdid : Block 2
  ftCapab : UInt8
  deriving DecidableEq, Repr

structure BssInfo where
  bssid : MacAddr
  freqMhz : UInt32
  signalDbm : Int
  security : SecurityType
  apRsne : Octets
  apRsnxe : Octets
  groupMgmtCipher : CipherSuite
  mdie : Option MdieInfo
  btmSupport : Bool
  rmNeighborReport : Bool
  deriving DecidableEq, Repr

namespace BssInfo

/-- `Ord` of BSSes: the signal, then the frequency, then the BSSID. -/
def le (self other : BssInfo) : Bool :=
  self.signalDbm < other.signalDbm || self.signalDbm == other.signalDbm &&
    (self.freqMhz < other.freqMhz || self.freqMhz == other.freqMhz && self.bssid.val ≤ other.bssid.val)

end BssInfo

def BssInfo.apSupportsSignalRoam (self : BssInfo) : Bool := self.btmSupport || self.rmNeighborReport

inductive SaePwe
  | h2e | hnp | auto
  deriving DecidableEq, Repr

namespace SaePwe

def startsH2e (self : SaePwe) (apSupportsH2e : Bool) : Bool :=
  match self with
  | h2e => true
  | hnp => false
  | auto => apSupportsH2e

def allowsHnpFallback (self : SaePwe) : Bool := self = auto

end SaePwe

structure KnownBss where
  bssid : MacAddr
  frequencyMhz : UInt32
  deriving DecidableEq, Repr

structure NetworkConfigHints where
  frequenciesMhz : List UInt32 := []
  knownBss : List KnownBss := []
  bssid : Option MacAddr := none
  frequencyMhz : Option UInt32 := none
  security : Option SecurityType := none
  apRsne : Option Octets := none
  apRsnxe : Option Octets := none
  groupMgmtCipher : Option CipherSuite := none
  mdid : Option (Block 2) := none
  ftCapab : Option UInt8 := none
  btmSupport : Option Bool := none
  rmNeighborReport : Option Bool := none
  deriving DecidableEq, Repr

namespace NetworkConfigHints

end NetworkConfigHints

def defaultSwitchSsidLowerThanDbm : Int := -80

structure NetworkConfig where
  ssid : String
  password : Option String
  /-- The BSSID that the network is pinned to. -/
  bssid : Option MacAddr
  eap : Option EapConfig
  saePwe : SaePwe
  saePasswordId : Option String
  ocv : Bool
  extKeyId : Bool
  wowlan : Bool
  roaming : Bool
  roamingThreshold : Int
  hints : NetworkConfigHints := {}
  prefered : Bool := false
  /-- Below this signal the link is critical. -/
  switchSsidLowerThanDbm : Int := defaultSwitchSsidLowerThanDbm
  deriving DecidableEq, Repr

namespace NetworkConfig

def matchesBssid (self : NetworkConfig) (bssid : MacAddr) : Bool := self.bssid.all (· == bssid)

def acceptsSecurity (self : NetworkConfig) : SecurityType → Bool
  | .unsupported => false
  | .open | .owe => self.password.isNone && self.eap.isNone
  | .wpa2Psk | .wpa2PskSha256 | .sae | .saeExtKey | .ftPsk | .ftSae | .ftSaeExtKey =>
    self.password.isSome && self.eap.isNone
  | .wpa2Ent | .wpa2EntSha256 => self.eap.isSome && self.password.isNone

def canRoamToSecurity (self : NetworkConfig) (security : SecurityType) : Bool :=
  self.acceptsSecurity security

end NetworkConfig

def pmkLifetimeSecs : Nat := 43200

def pmkReauthThresholdPercent : Nat := 70

def maxPmksaEntries : Nat := 32

structure PmksaEntry where
  ssid : String
  bssid : MacAddr
  security : SecurityType
  pmkid : Block 16
  pmk : Block 32
  micAlg : MicAlg
  expires : Instant
  reauthAt : Instant
  deriving DecidableEq, Repr

namespace PmksaEntry

def new (ssid : String) (bssid : MacAddr) (security : SecurityType) (pmkid : Block 16)
    (pmk : Block 32) (micAlg : MicAlg) (now : Instant) : PmksaEntry where
  ssid := ssid
  bssid := bssid
  security := security
  pmkid := pmkid
  pmk := pmk
  micAlg := micAlg
  expires := now + pmkLifetimeSecs
  reauthAt := now + pmkLifetimeSecs * pmkReauthThresholdPercent / 100

def isFor (self : PmksaEntry) (ssid : String) (bssid : MacAddr) (security : SecurityType) : Bool :=
  self.ssid == ssid && self.bssid == bssid && self.security == security

def pastReauthThreshold (self : PmksaEntry) (now : Instant) : Bool := now ≥ self.reauthAt

def remainingLifetimeSecs (self : PmksaEntry) (now : Instant) : Nat :=
  min (max (self.expires - now) 1) (2 ^ 32 - 1)

def remainingReauthPercent (self : PmksaEntry) (now : Instant) : Nat :=
  let lifetime := self.expires - now
  if lifetime = 0 then 1
  else min (max ((self.reauthAt - now) * 100 / lifetime) 1) 100

end PmksaEntry

abbrev PmksaCache := List PmksaEntry

namespace PmksaCache

def removeExpired (self : PmksaCache) (now : Instant) : PmksaCache :=
  self.filter fun entry => entry.expires > now

/-- `Vec::swap_remove`: the last entry takes the place of the removed one. -/
def swapRemove (self : PmksaCache) (index : Nat) : PmksaCache :=
  match self.getLast? with
  | none => []
  | some last => (self.set index last).dropLast

def oldest (self : PmksaCache) : Nat :=
  self.findIdx fun entry => self.all fun other => entry.expires ≤ other.expires

def insert (self : PmksaCache) (entry : PmksaEntry) (now : Instant) : PmksaCache :=
  let live := self.removeExpired now
  match live.findIdx? fun other => other.isFor entry.ssid entry.bssid entry.security with
  | some index => live.set index entry
  | none =>
    let kept := if live.length = maxPmksaEntries then live.swapRemove live.oldest else live
    kept ++ [entry]

def lookup (self : PmksaCache) (ssid : String) (bssid : MacAddr) (security : SecurityType)
    (now : Instant) : Option PmksaEntry :=
  (self.removeExpired now).find? fun entry =>
    entry.isFor ssid bssid security && !entry.pastReauthThreshold now

def lookupPastReauth (self : PmksaCache) (ssid : String) (bssid : MacAddr) (security : SecurityType)
    (now : Instant) : Option PmksaEntry :=
  (self.removeExpired now).find? fun entry =>
    entry.isFor ssid bssid security && entry.pastReauthThreshold now

def contains (self : PmksaCache) (ssid : String) (bssid : MacAddr) (security : SecurityType)
    (now : Instant) : Bool :=
  (self.removeExpired now).any fun entry => entry.isFor ssid bssid security

def invalidate (self : PmksaCache) (ssid : String) (bssid : MacAddr) (security : SecurityType) :
    PmksaCache :=
  match self.findIdx? fun entry => entry.isFor ssid bssid security with
  | some index => self.swapRemove index
  | none => self

def removeSsid (self : PmksaCache) (ssid : String) : PmksaCache × List PmksaEntry :=
  (self.filter fun entry => entry.ssid != ssid, self.filter fun entry => entry.ssid == ssid)

end PmksaCache

end Shuli.Wifi
