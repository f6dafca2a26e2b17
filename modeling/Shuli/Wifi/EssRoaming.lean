import Shuli.Wifi.Passive
import Shuli.Wifi.ScanResults

/-!
The targets of a roam. The candidates of every configured network share one list, and a BSS transition request
names BSSIDs only: a target of the request is joined with the configuration of the connected network, whichever
network the list holds it for.
-/

namespace Shuli.Wifi

open Fallible
open Shuli.Core (WifiError Tls)

section

variable [Tls] [Sae] [Owe]

namespace WifiIface

def InEss (self : WifiIface) (bss : BssInfo) : Prop :=
  ∃ network, (bss, network) ∈ self.roam.lastScanCandidates ∧ network.ssid = self.link.network.ssid

/-- The roam that a BSS transition request starts: the target and the configuration that it is joined with. -/
def btmRoam (self : WifiIface) (candidates : List Neighbor) : Option Candidate :=
  (self.pickBtmTarget candidates).map fun target => (target, self.link.network)

def scanRoam (self : WifiIface) (postConnect : Bool) (live : Except WifiError (Option Int)) : Option Candidate :=
  match self.roamDecision postConnect live with
  | .roam target network => some (target, network)
  | _ => none

def Critical (self : WifiIface) (postConnect : Bool) (live : Except WifiError (Option Int)) : Prop :=
  ∃ signal, self.roamBaseline postConnect live = some signal ∧ self.sameNetworkTarget signal = none ∧
    signal < self.link.network.switchSsidLowerThanDbm

def WithinEss (self : WifiIface) (roam : Candidate) : Prop := self.InEss roam.1 ∧ roam.2 = self.link.network

/-- Every roam stays in the ESS, except for one that gives up a critical link. -/
structure RoamsWithinEss (iface : WifiIface) : Prop where
  btm : ∀ candidates roam, iface.btmRoam candidates = some roam → iface.WithinEss roam
  scan : ∀ postConnect live roam, iface.scanRoam postConnect live = some roam →
    iface.WithinEss roam ∨ iface.Critical postConnect live

/-- The entry of the list that a BSSID of a request stands for: the first that the pin of its network allows. -/
def named (self : WifiIface) (bssid : MacAddr) : Option Candidate :=
  self.roam.lastScanCandidates.find? fun (bss, network) => bss.bssid == bssid && network.matchesBssid bss.bssid

/-- Whatever a request can name and the security of the connection allows is of the connected SSID. -/
def NamesWithinEss (self : WifiIface) : Prop :=
  ∀ bssid bss network, self.named bssid = some (bss, network) → bssid ≠ self.link.bssInfo.bssid →
    bss.security.base = self.link.bssInfo.security.base → self.InEss bss

variable {self : WifiIface} {target : BssInfo}

theorem pickBtmTarget_eq_some {candidates : List Neighbor} (picked : self.pickBtmTarget candidates = some target) :
    ∃ bssid network, self.named bssid = some (target, network) ∧ bssid ≠ self.link.bssInfo.bssid ∧
      target.security.base = self.link.bssInfo.security.base := by
  obtain ⟨candidate, -, chosen⟩ := List.exists_of_findSome?_eq_some picked
  by_cases current : candidate.bssid = self.link.bssInfo.bssid
  · rw [if_pos current] at chosen
    cases chosen
  · rw [if_neg current] at chosen
    split at chosen
    · rename_i bss network found
      by_cases base : bss.security.base = self.link.bssInfo.security.base
      · rw [if_pos base] at chosen
        cases chosen
        exact ⟨candidate.bssid, network, found, current, base⟩
      · rw [if_neg base] at chosen
        cases chosen
    · cases chosen

theorem pickBtmTarget_single {neighbor : Neighbor} {network : NetworkConfig}
    (found : self.named neighbor.bssid = some (target, network)) (other : neighbor.bssid ≠ self.link.bssInfo.bssid)
    (base : target.security.base = self.link.bssInfo.security.base) :
    self.pickBtmTarget [neighbor] = some target := by
  unfold named at found
  unfold pickBtmTarget
  rw [List.findSome?_cons, if_neg other, found]
  dsimp only
  rw [if_pos base]

variable {postConnect : Bool} {live : Except WifiError (Option Int)} {roam : Candidate}

theorem scanRoam_eq_some (started : self.scanRoam postConnect live = some roam) :
    ∃ signal, self.roamBaseline postConnect live = some signal ∧
      ((∃ best, self.sameNetworkTarget signal = some best ∧ roam = (best.1, self.link.network)) ∨
        self.sameNetworkTarget signal = none ∧ signal < self.link.network.switchSsidLowerThanDbm ∧
          self.otherNetworkTarget = some roam) := by
  unfold scanRoam roamDecision at started
  cases baseline : self.roamBaseline postConnect live with
  | none =>
    rw [baseline] at started
    cases started
  | some signal =>
    refine ⟨signal, rfl, ?_⟩
    rw [baseline] at started
    dsimp only at started
    cases same : self.sameNetworkTarget signal with
    | some best =>
      rw [same] at started
      cases started
      exact .inl ⟨best, rfl, rfl⟩
    | none =>
      rw [same] at started
      by_cases critical : signal < self.link.network.switchSsidLowerThanDbm
      · rw [if_pos critical] at started
        cases other : self.otherNetworkTarget with
        | none =>
          rw [other] at started
          split_ifs at started
        | some best =>
          rw [other] at started
          cases started
          exact .inr ⟨rfl, critical, rfl⟩
      · -- without another network there is no target
        split_ifs at started

/-- The scan goes to another network only with a critical link. -/
theorem scanRoam_withinEss (started : self.scanRoam postConnect live = some roam) :
    self.WithinEss roam ∨ self.Critical postConnect live := by
  obtain ⟨signal, baseline, ⟨best, same, rfl⟩ | ⟨missing, critical, -⟩⟩ := scanRoam_eq_some started
  · obtain ⟨listed, passed⟩ := strongest_mem same
    simp only [Bool.and_eq_true, beq_iff_eq] at passed
    exact .inl ⟨⟨best.2, listed, passed.1.1.1.2⟩, rfl⟩
  · exact .inr ⟨signal, baseline, missing, critical⟩

end WifiIface

open WifiIface

variable {self : WifiIface}

theorem handleWnmFrame_roams [Elements] [Primitives] {env : Env} {btm : BtmRequest} {target : BssInfo}
    {network : NetworkConfig} (applies : self.mlme = .softMac ∧ self.state.isConnected)
    (started : self.btmRoam btm.candidates = some (target, network)) :
    after (handleWnmFrame env btm) self = after (startRoam env target network)
      (after (bestEffort env (.btmResponse btm.dialogToken btmStatusAccept target.bssid))
        { self with roam.roamFreqs := addNeighborFreqs self.roam.roamFreqs btm.candidates }) := by
  obtain ⟨picked, chosen, same⟩ := Option.map_eq_some_iff.mp started
  cases same
  rw [← (bestEffort_total _).after_bind, after, after, handleWnmFrame, exec_get_bind, if_pos applies,
    exec_modify_bind, chosen]

/-- Every roam stays in the ESS exactly when whatever a request can name is in it. -/
theorem roams_within_ess_iff (self : WifiIface) : self.RoamsWithinEss ↔ self.NamesWithinEss := by
  constructor
  · intro within bssid bss network found other base
    have single : self.pickBtmTarget [⟨bssid, 0, 0⟩] = some bss := pickBtmTarget_single found other base
    exact (within.btm [⟨bssid, 0, 0⟩] (bss, self.link.network) (by rw [btmRoam, single]; rfl)).1
  · intro names
    refine ⟨fun candidates roam started => ?_, fun _ _ _ => scanRoam_withinEss⟩
    obtain ⟨target, picked, same⟩ := Option.map_eq_some_iff.mp started
    cases same
    obtain ⟨bssid, network, found, other, base⟩ := pickBtmTarget_eq_some picked
    exact ⟨names bssid target network found other base, rfl⟩

/-! The signal of a target. -/

namespace WifiIface

def withCandidates (self : WifiIface) (found : List Candidate) : WifiIface :=
  { self with roam.lastScanCandidates := found }

/-- Whatever the scan finds, a target is not weaker than the baseline; a background scan asks for a stronger
one. -/
def NeverTradesDown (self : WifiIface) (postConnect : Bool) (live : Except WifiError (Option Int)) : Prop :=
  ∀ found signal roam, (self.withCandidates found).roamBaseline postConnect live = some signal →
    (self.withCandidates found).scanRoam postConnect live = some roam →
    signal ≤ roam.1.signalDbm ∧ (self.roam.backgroundScan → signal < roam.1.signalDbm)

/-- No baseline is critical and above the roam threshold at once: the two leave no room for one, or the live
signal ends the scan or is not critical. -/
def ThresholdsApart (self : WifiIface) (postConnect : Bool) (live : Except WifiError (Option Int)) : Prop :=
  ∀ threshold, self.roamThreshold = some threshold →
    self.link.network.switchSsidLowerThanDbm ≤ (if self.roam.backgroundScan then threshold else threshold + 1) ∨
    ∃ signal, live = .ok (some signal) ∧
      (postConnect = false ∧ threshold ≤ signal ∨ self.link.network.switchSsidLowerThanDbm ≤ signal)

variable {postConnect : Bool} {live : Except WifiError (Option Int)} {roam : Candidate}

theorem scanRoam_signal {signal : Int} (baseline : self.roamBaseline postConnect live = some signal)
    (started : self.scanRoam postConnect live = some roam) :
    signal ≤ roam.1.signalDbm ∧ (self.roam.backgroundScan → signal < roam.1.signalDbm) ∨
      signal < self.link.network.switchSsidLowerThanDbm ∧
        self.roamThreshold.getD self.link.network.switchSsidLowerThanDbm ≤ roam.1.signalDbm := by
  obtain ⟨measured, known, decided⟩ := scanRoam_eq_some started
  obtain rfl := Option.some.inj (baseline.symm.trans known)
  rcases decided with ⟨best, same, rfl⟩ | ⟨-, critical, other⟩
  · have passed := (strongest_mem same).2
    simp only [Bool.and_eq_true] at passed
    have strong := passed.2
    split at strong
    · exact .inl ⟨(of_decide_eq_true strong).le, fun _ => of_decide_eq_true strong⟩
    · exact .inl ⟨of_decide_eq_true strong, fun background => absurd background ‹_›⟩
  · have passed := (List.mem_filter.mp (maxBy_mem other)).2
    simp only [Bool.and_eq_true, decide_eq_true_eq] at passed
    exact .inr ⟨critical, passed.1.2⟩

theorem roamBaseline_live {measured signal : Int}
    (baseline : self.roamBaseline postConnect (.ok (some measured)) = some signal) :
    measured ≤ signal ∧ ∀ threshold, self.roamThreshold = some threshold → postConnect = false →
      measured < threshold := by
  unfold roamBaseline at baseline
  dsimp only at baseline
  split_ifs at baseline with ends
  cases baseline
  refine ⟨le_max_left _ _, fun threshold current fresh => ?_⟩
  simpa [current, fresh] using ends

end WifiIface

/-- A current BSS just below the switch threshold, and a BSS of another network at the roam threshold. -/
theorem tradesDown_of_room (postConnect : Bool) (live : Except WifiError (Option Int)) {threshold : Int}
    (current : self.roamThreshold = some threshold)
    (unsettled : ∀ signal, live = .ok (some signal) → (postConnect = false → signal < threshold) ∧
      signal < self.link.network.switchSsidLowerThanDbm) :
    ∃ found roam, (self.withCandidates found).roamBaseline postConnect live =
        some (self.link.network.switchSsidLowerThanDbm - 1) ∧
      (self.withCandidates found).scanRoam postConnect live = some roam ∧ roam.1.signalDbm = threshold := by
  obtain ⟨bssid, apart⟩ : ∃ bssid : MacAddr, bssid ≠ self.link.bssInfo.bssid := by
    by_cases zero : self.link.bssInfo.bssid = filled 6 0
    · exact ⟨filled 6 1, by rw [zero]; decide⟩
    · exact ⟨filled 6 0, Ne.symm zero⟩
  let own : Candidate :=
    ({ self.link.bssInfo with signalDbm := self.link.network.switchSsidLowerThanDbm - 1 }, self.link.network)
  let other : Candidate := ({ self.link.bssInfo with bssid, signalDbm := threshold, security := .open },
    { self.link.network with ssid := self.link.network.ssid ++ "2", bssid := none, password := none, eap := none })
  have threshold' : (self.withCandidates [own, other]).roamThreshold = some threshold := current
  have baseline : (self.withCandidates [own, other]).roamBaseline postConnect live =
      some (self.link.network.switchSsidLowerThanDbm - 1) := by
    unfold WifiIface.roamBaseline
    rw [threshold']
    split
    · obtain ⟨early, critical⟩ := unsettled _ rfl
      rw [if_neg (by simpa using early)]
      simp [WifiIface.withCandidates, own]
      omega
    · simp [WifiIface.withCandidates, own]
  have same : (self.withCandidates [own, other]).sameNetworkTarget
      (self.link.network.switchSsidLowerThanDbm - 1) = none := by
    simp [WifiIface.sameNetworkTarget, strongest, maxBy, WifiIface.withCandidates, own, other]
  have switched : (self.withCandidates [own, other]).otherNetworkTarget = some other := by
    unfold WifiIface.otherNetworkTarget
    rw [threshold']
    simp [maxBy, WifiIface.withCandidates, own, other, apart, NetworkConfig.matchesBssid,
      NetworkConfig.canRoamToSecurity, NetworkConfig.acceptsSecurity]
  refine ⟨[own, other], other, baseline, ?_, rfl⟩
  unfold WifiIface.scanRoam WifiIface.roamDecision
  rw [baseline]
  dsimp only
  rw [same, if_pos (by simp [WifiIface.withCandidates]), switched]

/-- A roam scan trades down for some results exactly if a baseline can be critical and above the roam
threshold at once. -/
theorem never_trades_down_iff (self : WifiIface) (postConnect : Bool) (live : Except WifiError (Option Int)) :
    self.NeverTradesDown postConnect live ↔ self.ThresholdsApart postConnect live := by
  constructor
  · intro never threshold current
    by_contra room
    rw [not_or, not_le] at room
    obtain ⟨found, roam, baseline, started, weak⟩ := tradesDown_of_room postConnect live current
      fun signal known => by
        have unknown := not_exists.mp room.2 signal
        rw [not_and, not_or, not_and, not_le, not_le] at unknown
        exact unknown known
    obtain ⟨atLeast, above⟩ := never found _ roam baseline started
    have critical := room.1
    split at critical
    · have stronger := above ‹_›
      omega
    · omega
  · intro apart found signal roam baseline started
    rcases scanRoam_signal baseline started with done | ⟨critical, good⟩
    · exact done
    · change signal < self.link.network.switchSsidLowerThanDbm at critical
      change self.roamThreshold.getD self.link.network.switchSsidLowerThanDbm ≤ _ at good
      cases current : self.roamThreshold with
      | none =>
        rw [current] at good
        exact ⟨(critical.trans_le good).le, fun _ => critical.trans_le good⟩
      | some threshold =>
        rw [current, Option.getD_some] at good
        rcases apart threshold current with close | ⟨measured, rfl, known⟩
        · split at close
          · exact ⟨by omega, fun _ => by omega⟩
          · exact ⟨by omega, fun background => absurd background ‹_›⟩
        · obtain ⟨atLeast, early⟩ := WifiIface.roamBaseline_live baseline
          rcases known with ⟨fresh, healthy⟩ | usable
          · exact absurd healthy (early threshold current fresh).not_ge
          · omega

end

section Sample

attribute [local instance] Core.closedTls idleSae idleOwe plainElements samplePrimitives

def guestNetwork : NetworkConfig := { homeNetwork with ssid := "guest", password := some "battery staple" }

def guestBss : BssInfo := { homeBss .wpa2Psk with bssid := filled 6 5 }

def neighboredIface : WifiIface :=
  { idleIface with
    state := .connectedWithoutOffloadRekey
    link.bssInfo := homeBss .wpa2Psk
    roam.lastScanCandidates := [(homeBss .wpa2Psk, homeNetwork), (guestBss, guestNetwork)] }

/-- A request that names the BSS of the other network makes the interface leave for it, with the
configuration of its own network. -/
theorem roams_to_another_ess :
    neighboredIface.btmRoam [⟨guestBss.bssid, 0, 0⟩] = some (guestBss, homeNetwork) ∧
    (after (handleWnmFrame willingEnv ⟨1, [⟨guestBss.bssid, 0, 0⟩]⟩) neighboredIface).roam.roamTarget =
      some guestBss.bssid ∧
    ¬neighboredIface.InEss guestBss ∧ ¬neighboredIface.RoamsWithinEss := by
  have started : neighboredIface.btmRoam [⟨guestBss.bssid, 0, 0⟩] = some (guestBss, homeNetwork) := by
    decide +kernel
  have outside : ¬neighboredIface.InEss guestBss := by
    rintro ⟨network, listed, same⟩
    have others : ∀ entry ∈ neighboredIface.roam.lastScanCandidates, entry.1 = guestBss →
        entry.2.ssid ≠ neighboredIface.link.network.ssid := by decide +kernel
    exact others (guestBss, network) listed rfl same
  exact ⟨started, by decide +kernel, outside, fun within => outside (within.btm _ _ started).1⟩

/-- The link is at -82 dBm and critical below -80 dBm; a BSS at -85 dBm passes for a good one, since roaming
starts below -85 dBm. -/
theorem roam_trades_down :
    let network := { homeNetwork with roaming := true, roamingThreshold := -85 }
    let iface : WifiIface := { neighboredIface with
      link.network := network
      roam.lastScanCandidates :=
        [({ homeBss .wpa2Psk with signalDbm := -82 }, network), ({ guestBss with signalDbm := -85 }, guestNetwork)] }
    iface.roamBaseline false (.ok none) = some (-82) ∧
      iface.roamDecision false (.ok none) = .roam { guestBss with signalDbm := -85 } guestNetwork := by
  decide +kernel

end Sample

end Shuli.Wifi
