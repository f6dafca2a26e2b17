import Shuli.Wifi.KeyExchange

/-!
Roaming (`roam.rs`): the roam scan with its neighbour report, BSS transition requests, and the fast
transition to another AP of the mobility domain. The wait for a neighbour report is a suspended
roam scan that the report or its timeout resumes; events that arrive meanwhile are handled as usual.
-/

namespace Shuli.Wifi

open Fallible
open Shuli.Core (WifiError ErrorKind Tls)

def elementIdRsn : UInt8 := 48

def elementIdMdie : UInt8 := 54

def elementIdRsnExt : UInt8 := 244

def roamCooldownSecs : Nat := 30

def roamQuickScanMaxFreqs : Nat := 16

def neighborReportDialog : UInt8 := 1

def ftReassocUsesRsnxe (security : SecurityType) (saePwe : SaePwe) (apSupportsH2e : Bool)
    (saePasswordId : Option String) : Bool :=
  (security == .ftSae || security == .ftSaeExtKey) &&
    (saePasswordId.isSome || saePwe.startsH2e apSupportsH2e)

def roamingError (msg : String) : WifiError := ⟨.roaming, msg⟩

structure Neighbor where
  bssid : MacAddr
  operatingClass : UInt8
  channel : UInt8
  deriving DecidableEq, Repr

structure BtmRequest where
  dialogToken : UInt8
  candidates : List Neighbor
  deriving DecidableEq, Repr

structure NeighborReport where
  dialogToken : UInt8
  entries : List Neighbor
  deriving DecidableEq, Repr

section

variable [Elements]

def findElement (ies : Octets) (id : UInt8) : Option Octets :=
  (Elements.findIe ies id).map fun body => id :: UInt8.ofNat body.length :: body

def ftElements (ies : Octets) : Octets :=
  (findElement ies elementIdMdie).getD [] ++ (findElement ies elementIdFtie).getD []

def addNeighborFreqs (freqs : List UInt32) (neighbors : List Neighbor) : List UInt32 :=
  neighbors.foldl (fun freqs neighbor =>
    if freqs.length ≥ roamQuickScanMaxFreqs then freqs
    else
      match Elements.channelToFreq neighbor.operatingClass neighbor.channel with
      | none => freqs
      | some freq => if freqs.contains freq then freqs else freqs ++ [freq]) freqs

end

section

variable [Tls] [Sae] [Owe] [Elements]

def WifiIface.roamThreshold (self : WifiIface) : Option Int :=
  if self.link.network.roaming then some self.link.network.roamingThreshold else none

def WifiIface.xxkey (self : WifiIface) : Except WifiError (Block 32) :=
  match self.link.bssInfo.security with
  | .ftSae | .ftSaeExtKey => orThrow (self.auth.method.bind Sae.pmk) (roamingError "no SAE PMK for FT")
  | .ftPsk => orThrow self.auth.pskPmk (roamingError "no PSK PMK for FT")
  | other => .error (roamingError ("FT context for non-FT security " ++ other.debug))

def WifiIface.ftContext [Primitives] (self : WifiIface) (ies : Octets) : Except WifiError FtContext := do
  let (mdid, ftCapab) ← orThrow ((Elements.findIe ies elementIdMdie).bind Elements.parseMdie)
    (roamingError "no MDIE in FT association response")
  let ftieBody ← orThrow (Elements.findIe ies elementIdFtie)
    (roamingError "no FTIE in FT association response")
  let ftie ← orThrow (Elements.parseFtie ftieBody)
    (roamingError "malformed FTIE in FT association response")
  let r0khId ← orThrow ftie.r0khId (roamingError "no R0KH-ID in FT association response FTIE")
  let r1khId ← orThrow ftie.r1khId (roamingError "no R1KH-ID in FT association response FTIE")
  let xxkey ← self.xxkey
  let pmkR0 := derivePmkR0 xxkey self.link.network.ssid mdid r0khId self.mac
  let pmkR1 := derivePmkR1 pmkR0 r1khId self.mac
  return ⟨mdid, ftCapab, r0khId, pmkR0, pmkR1, ftElements ies⟩

def setupFtContext [Primitives] (ies : Octets) : Iface Unit := do
  let ft ← (← get).ftContext ies
  modify fun self => { self with link.ft := some ft }

def startRoamScan (env : Env) (full : Bool) : Iface Bool := do
  modify fun self => { self with
    roam.roamScan := true, roam.roamScanFull := full
    roam.preRoamState := self.roam.preRoamState.or (some self.state) }
  if ← bestEffort env .triggerScan then
    modify (·.setState .scanning)
    return true
  else
    modify fun self => { self with
      roam.preRoamState := none, roam.roamScan := false, roam.postConnectScan := false
      state := self.roam.preRoamState.getD self.state }
    return false

def runRoamScan (env : Env) (full : Bool) : Iface Unit := do
  if !(← startRoamScan env full) ∧ !full then
    modify fun self => { self with roam.postConnectScanAt := none }
    let _ ← startRoamScan env true

def triggerRoamScan (env : Env) (full : Bool) : Iface Unit := do
  modify fun self => { self with roam.postConnectScanAt := none }
  let self ← get
  if !full ∧ self.link.bssInfo.rmNeighborReport ∧ self.roam.pendingNrDialog.isNone then
    if ← bestEffort env (.neighborReportRequest neighborReportDialog) then
      modify fun self => { self with
        roam.pendingNrDialog := some neighborReportDialog, roam.awaitingReport := true }
    else runRoamScan env full
  else runRoamScan env full

def resumeRoamScan (env : Env) : Iface Unit := do
  modify fun self => { self with roam.pendingNrDialog := none, roam.awaitingReport := false }
  runRoamScan env false

def neighborReportTimeout (env : Env) : Iface Unit := do
  if (← get).roam.awaitingReport then resumeRoamScan env

def handleRrmFrame (env : Env) (report : NeighborReport) : Iface Unit := do
  let self ← get
  if self.roam.pendingNrDialog = some report.dialogToken then
    modify fun self => { self with
      roam.pendingNrDialog := none
      roam.roamFreqs := addNeighborFreqs self.roam.roamFreqs report.entries }
    if self.roam.awaitingReport then resumeRoamScan env

inductive CqmRssiThresholdEvent
  | low | high | other
  deriving DecidableEq, Repr

def handleCqmRssi (env : Env) (event : CqmRssiThresholdEvent) : Iface Unit := do
  let self ← get
  if self.state.isConnected ∨ self.roam.roamScan then
    match event with
    | .low =>
      let cooling := self.roam.lastRoam.any fun last => env.now - last < roamCooldownSecs
      if self.roamThreshold.isSome ∧ self.link.bssInfo.apSupportsSignalRoam ∧
          !(self.roam.ftRoam.isSome || self.roam.roamScan) ∧ !cooling then
        modify fun self => { self with roam.backgroundScan := false }
        triggerRoamScan env false
    | .high =>
      modify fun self => { self with roam.roamScanFull := false }
      if self.roam.roamScan then
        modify fun self => { self with
          roam.roamScan := false, roam.backgroundScan := false, roam.postConnectScan := false
          roam.preRoamState := none, state := self.roam.preRoamState.getD self.state }
    | .other => pure ()

end

end Shuli.Wifi
