import Shuli.Wifi.ScanSecurity

/-!
The candidates of a scan (`scan.rs`) and the decision of a roam scan.
-/

namespace Shuli.Wifi

open Fallible
open Shuli.Core (WifiError Tls)

abbrev Candidate := BssInfo × NetworkConfig

/-- `Iterator::max_by`: of several maxima the last. -/
def maxBy {α : Type} (le : α → α → Bool) : List α → Option α
  | [] => none
  | first :: rest => some (rest.foldl (fun best next => if le best next then next else best) first)

def strongest (candidates : List Candidate) (passes : Candidate → Bool) : Option Candidate :=
  maxBy (fun a b => a.1.le b.1) (candidates.filter passes)

inductive RoamDecision
  | stay
  | escalate
  | roam (target : BssInfo) (network : NetworkConfig)
  deriving DecidableEq, Repr

section

variable [Tls] [Sae] [Owe]

namespace WifiIface

/-- The signal against which roam candidates are held; none when the link has recovered. What the scan
measured of the current BSS can be weaker than the live signal. -/
def roamBaseline (self : WifiIface) (postConnect : Bool) (live : Except WifiError (Option Int)) : Option Int :=
  let current := self.roam.lastScanCandidates.find? fun (bss, _) => bss.bssid == self.link.bssInfo.bssid
  let scanned := (current.map fun (bss, _) => bss.signalDbm).getD self.link.bssInfo.signalDbm
  match live with
  | .ok (some live) =>
    if !postConnect ∧ self.roamThreshold.any (· ≤ live) then none else some (max live scanned)
  | _ => some scanned

/-- A BSS of the connected SSID that is not weaker; a background scan asks for a stronger one. -/
def sameNetworkTarget (self : WifiIface) (signal : Int) : Option Candidate :=
  strongest self.roam.lastScanCandidates fun (bss, network) =>
    bss.bssid != self.link.bssInfo.bssid && network.ssid == self.link.network.ssid &&
      network.matchesBssid bss.bssid && bss.security.base == self.link.bssInfo.security.base &&
      if self.roam.backgroundScan then bss.signalDbm > signal else bss.signalDbm ≥ signal

/-- A BSS of another configured SSID with a good signal. -/
def otherNetworkTarget (self : WifiIface) : Option Candidate :=
  let good := self.roamThreshold.getD self.link.network.switchSsidLowerThanDbm
  maxBy (fun a b => a.1.signalDbm ≤ b.1.signalDbm) (self.roam.lastScanCandidates.filter fun (bss, network) =>
    bss.bssid != self.link.bssInfo.bssid && network.ssid != self.link.network.ssid &&
      network.matchesBssid bss.bssid && bss.signalDbm ≥ good && network.canRoamToSecurity bss.security)

def roamDecision (self : WifiIface) (postConnect : Bool) (live : Except WifiError (Option Int)) :
    RoamDecision :=
  match self.roamBaseline postConnect live with
  | none => .stay
  | some signal =>
    match self.sameNetworkTarget signal with
    | some (target, _) => .roam target self.link.network
    | none =>
      -- A critical link is given up for another network.
      let other := if signal < self.link.network.switchSsidLowerThanDbm then self.otherNetworkTarget else none
      match other with
      | some (target, network) => .roam target network
      | none => if !self.roam.roamScanFull ∧ self.roamThreshold.any (signal < ·) then .escalate else .stay

end WifiIface

end

/-! What is selected is a candidate that passed the filter. -/

theorem foldl_best_mem {α : Type} (le : α → α → Bool) (rest : List α) (first : α) :
    rest.foldl (fun best next => if le best next then next else best) first ∈ first :: rest := by
  induction rest generalizing first with
  | nil => exact List.mem_singleton.mpr rfl
  | cons next rest ih =>
    rw [List.foldl_cons]
    split
    · exact List.mem_cons_of_mem _ (ih next)
    · rcases List.mem_cons.mp (ih first) with same | later
      · rw [same]
        exact List.mem_cons_self
      · exact List.mem_cons_of_mem _ (List.mem_cons_of_mem _ later)

theorem maxBy_mem {α : Type} {le : α → α → Bool} {list : List α} {best : α} (found : maxBy le list = some best) :
    best ∈ list := by
  cases list with
  | nil => cases found
  | cons first rest =>
    cases found
    exact foldl_best_mem le rest first

theorem strongest_mem {candidates : List Candidate} {passes : Candidate → Bool} {best : Candidate}
    (found : strongest candidates passes = some best) : best ∈ candidates ∧ passes best :=
  List.mem_filter.mp (maxBy_mem found)

end Shuli.Wifi
