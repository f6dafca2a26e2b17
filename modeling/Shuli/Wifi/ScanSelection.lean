import Mathlib.Data.List.Nodup
import Mathlib.Data.List.Perm.Basic
import Shuli.Wifi.EssRoaming

/-!
The selections among the candidates of a scan (`scan.rs`). All but one take the greatest candidate of a class in
a total order of the BSSes, whatever the order of the list; the switch to another network compares the signals
alone.
-/

namespace Shuli.Wifi

open Shuli.Core (Tls)

def NetworkConfigHints.knowsBssid (self : NetworkConfigHints) (bssid : MacAddr) : Bool :=
  self.knownBss.any (·.bssid == bssid)

def joins (allows : BssInfo → Bool) (c : Candidate) : Bool :=
  allows c.1 && c.2.matchesBssid c.1.bssid && c.2.acceptsSecurity c.1.security

/-- The BSS to connect to: a preferred network wins unless its signal is critical. -/
def bestScanCandidateFiltered (candidates : List Candidate) (allows : BssInfo → Bool) : Option Candidate :=
  (strongest candidates fun c =>
    joins allows c && c.2.prefered && c.1.signalDbm ≥ defaultSwitchSsidLowerThanDbm).or
      (strongest candidates (joins allows))

def bestHintedCandidateFiltered (candidates : List Candidate) (allows : BssInfo → Bool) : Option Candidate :=
  bestScanCandidateFiltered (candidates.filter fun c => c.2.hints.knowsBssid c.1.bssid) allows

def bestPreferedCandidateFiltered (candidates : List Candidate) (allows : BssInfo → Bool) : Option Candidate :=
  let prefered := candidates.filter fun c => c.2.prefered
  (bestHintedCandidateFiltered prefered allows).or (bestScanCandidateFiltered prefered allows)

def bestRetryCandidate (candidates : List Candidate) (failedBssid : MacAddr) (ssid : String)
    (security : SecurityType) (isIgnored : MacAddr → Bool) : Option Candidate :=
  strongest candidates fun (bss, network) =>
    bss.bssid != failedBssid && network.ssid == ssid && network.matchesBssid bss.bssid &&
      bss.security.base == security.base && !isIgnored bss.bssid

inductive Selection
  | scan (allows : BssInfo → Bool)
  | hinted (allows : BssInfo → Bool)
  | prefered (allows : BssInfo → Bool)
  | retry (failedBssid : MacAddr) (ssid : String) (security : SecurityType) (isIgnored : MacAddr → Bool)
  | sameNetwork (signal : Int)
  | otherNetwork

/-! ### The greatest element -/

section

variable {α : Type} {le : α → α → Bool} {list : List α} {best : α}

structure Ranks (le : α → α → Bool) : Prop where
  total : ∀ a b, le a b ∨ le b a
  trans : ∀ a b c, le a b → le b c → le a c

theorem Ranks.foldl_best (ranks : Ranks le) (rest : List α) (first : α) :
    ∀ a ∈ first :: rest, le a (rest.foldl (fun best next => if le best next then next else best) first) := by
  induction rest generalizing first with
  | nil => simpa using ranks.total first first
  | cons next rest ih =>
    rw [List.foldl_cons]
    split
    · rename_i below
      have later := ih next
      refine List.forall_mem_cons.mpr ⟨?_, later⟩
      exact ranks.trans _ _ _ below (later next List.mem_cons_self)
    · rename_i above
      have later := ih first
      have start := later first List.mem_cons_self
      refine List.forall_mem_cons.mpr ⟨start, List.forall_mem_cons.mpr
        ⟨ranks.trans _ _ _ ((ranks.total first next).resolve_left above) start, ?_⟩⟩
      exact fun a among => later a (List.mem_cons_of_mem _ among)

theorem Ranks.le_maxBy (ranks : Ranks le) (found : maxBy le list = some best) : ∀ a ∈ list, le a best := by
  cases list with
  | nil => cases found
  | cons first rest =>
    cases found
    exact ranks.foldl_best rest first

theorem maxBy_eq_none : maxBy le list = none ↔ list = [] := by
  cases list <;> simp [maxBy]

/-- A greatest element that is the only one is found wherever it stands. -/
theorem Ranks.maxBy_perm (ranks : Ranks le) {other : List α} (same : list.Perm other)
    (unique : ∀ a ∈ list, ∀ b ∈ list, (∀ c ∈ list, le c a) → (∀ c ∈ list, le c b) → a = b) :
    maxBy le other = maxBy le list := by
  cases here : maxBy le list with
  | none =>
    rw [maxBy_eq_none] at here ⊢
    rw [here] at same
    exact same.symm.eq_nil
  | some a =>
    cases there : maxBy le other with
    | none =>
      rw [maxBy_eq_none] at there
      rw [there] at same
      rw [same.eq_nil] at here
      cases here
    | some b =>
      have top : ∀ c ∈ list, le c b := fun c among => ranks.le_maxBy there c (same.mem_iff.mp among)
      rw [unique a (maxBy_mem here) b (same.mem_iff.mpr (maxBy_mem there)) (ranks.le_maxBy here) top]

theorem maxBy_append_last (top : ∀ a ∈ list, le a best) : maxBy le (list ++ [best]) = some best := by
  cases list with
  | nil => rfl
  | cons first rest =>
    rw [List.cons_append, maxBy, List.foldl_append, List.foldl_cons, List.foldl_nil,
      if_pos (top _ (foldl_best_mem le rest first))]

end

theorem BssInfo.le_iff (a b : BssInfo) : a.le b ↔ a.signalDbm < b.signalDbm ∨ a.signalDbm = b.signalDbm ∧
    (a.freqMhz.toNat < b.freqMhz.toNat ∨ a.freqMhz.toNat = b.freqMhz.toNat ∧ a.bssid.val ≤ b.bssid.val) := by
  simp [BssInfo.le, UInt32.lt_iff_toNat_lt, ← UInt32.toNat_inj]

theorem BssInfo.le_ranks : Ranks fun a b : Candidate => a.1.le b.1 where
  total a b := by
    simp only [BssInfo.le_iff]
    grind
  trans a b c first second := by
    simp only [BssInfo.le_iff] at *
    grind

variable {candidates : List Candidate}

theorem BssInfo.le_antisymm_of_nodup (distinct : (candidates.map (·.1.bssid)).Nodup) {a b : Candidate}
    (first : a ∈ candidates) (second : b ∈ candidates) (up : a.1.le b.1) (down : b.1.le a.1) : a = b := by
  simp only [BssInfo.le_iff] at up down
  exact List.inj_on_of_nodup_map distinct first second (by grind)

theorem strongest_le {passes : Candidate → Bool} {best : Candidate} (found : strongest candidates passes = some best) :
    ∀ c ∈ candidates, passes c → c.1.le best.1 := fun c among passed =>
  BssInfo.le_ranks.le_maxBy found c (List.mem_filter.mpr ⟨among, passed⟩)

theorem strongest_perm (distinct : (candidates.map (·.1.bssid)).Nodup) {other : List Candidate}
    (same : candidates.Perm other) (passes : Candidate → Bool) :
    strongest other passes = strongest candidates passes :=
  BssInfo.le_ranks.maxBy_perm (same.filter passes) fun _ first _ second up down =>
    BssInfo.le_antisymm_of_nodup distinct (List.mem_filter.mp first).1 (List.mem_filter.mp second).1
      (down _ first) (up _ second)

theorem strongest_filter (passes kept : Candidate → Bool) :
    strongest (candidates.filter kept) passes = strongest candidates fun c => passes c && kept c := by
  rw [strongest, strongest, List.filter_filter]

theorem signal_ranks : Ranks fun a b : Candidate => decide (a.1.signalDbm ≤ b.1.signalDbm) where
  total a b := by simpa using Int.le_total a.1.signalDbm b.1.signalDbm
  trans a b c := by simpa using Int.le_trans

/-- The classes of a selection of the BSS to connect to, in the order in which they are tried. -/
def scanClasses (allows : BssInfo → Bool) : List (Candidate → Bool) :=
  [fun c => joins allows c && c.2.prefered && c.1.signalDbm ≥ defaultSwitchSsidLowerThanDbm, joins allows]

theorem bestScanCandidateFiltered_eq (allows : BssInfo → Bool) :
    bestScanCandidateFiltered candidates allows = (scanClasses allows).findSome? (strongest candidates) := by
  simp only [bestScanCandidateFiltered, scanClasses, List.findSome?]
  cases strongest candidates _ <;> cases strongest candidates (joins allows) <;> rfl

theorem findSome?_strongest_filter (classes : List (Candidate → Bool)) (kept : Candidate → Bool) :
    classes.findSome? (strongest (candidates.filter kept)) =
      (classes.map fun eligible c => eligible c && kept c).findSome? (strongest candidates) := by
  rw [List.findSome?_map]
  congr 1
  funext eligible
  exact strongest_filter eligible kept

section

variable [Tls] [Sae] [Owe]

namespace WifiIface

def select (self : WifiIface) (found : List Candidate) : Selection → Option Candidate
  | .scan allows => bestScanCandidateFiltered found allows
  | .hinted allows => bestHintedCandidateFiltered found allows
  | .prefered allows => bestPreferedCandidateFiltered found allows
  | .retry failedBssid ssid security isIgnored => bestRetryCandidate found failedBssid ssid security isIgnored
  | .sameNetwork signal => (self.withCandidates found).sameNetworkTarget signal
  | .otherNetwork => (self.withCandidates found).otherNetworkTarget

def switchable (self : WifiIface) (c : Candidate) : Bool :=
  c.1.bssid != self.link.bssInfo.bssid && c.2.ssid != self.link.network.ssid && c.2.matchesBssid c.1.bssid &&
    c.1.signalDbm ≥ self.roamThreshold.getD self.link.network.switchSsidLowerThanDbm &&
    c.2.canRoamToSecurity c.1.security

def classes (self : WifiIface) : Selection → List (Candidate → Bool)
  | .scan allows => scanClasses allows
  | .hinted allows => (scanClasses allows).map fun eligible c => eligible c && c.2.hints.knowsBssid c.1.bssid
  | .prefered allows =>
    ((scanClasses allows).map (fun eligible c => eligible c && c.2.hints.knowsBssid c.1.bssid) ++
      scanClasses allows).map fun eligible c => eligible c && c.2.prefered
  | .retry failedBssid ssid security isIgnored => [fun c =>
    c.1.bssid != failedBssid && c.2.ssid == ssid && c.2.matchesBssid c.1.bssid &&
      c.1.security.base == security.base && !isIgnored c.1.bssid]
  | .sameNetwork signal => [fun c =>
    c.1.bssid != self.link.bssInfo.bssid && c.2.ssid == self.link.network.ssid && c.2.matchesBssid c.1.bssid &&
      c.1.security.base == self.link.bssInfo.security.base &&
      if self.roam.backgroundScan then c.1.signalDbm > signal else c.1.signalDbm ≥ signal]
  | .otherNetwork => [self.switchable]

/-- The selection does not depend on the order of the candidates, and takes the greatest of its class. -/
structure Settles (iface : WifiIface) (found : List Candidate) (selection : Selection) : Prop where
  stable : ∀ other, found.Perm other → iface.select other selection = iface.select found selection
  greatest : ∀ best, iface.select found selection = some best → ∃ eligible ∈ iface.classes selection,
    (best ∈ found ∧ eligible best) ∧ ∀ c ∈ found, eligible c → c.1.le best.1

variable {self : WifiIface} {found : List Candidate}

theorem select_eq {selection : Selection} (ordered : selection ≠ .otherNetwork) (found : List Candidate) :
    self.select found selection = (self.classes selection).findSome? (strongest found) := by
  have single (passes : Candidate → Bool) : [passes].findSome? (strongest found) = strongest found passes := by
    rw [List.findSome?_cons]
    cases strongest found passes <;> rfl
  cases selection with
  | scan allows => exact bestScanCandidateFiltered_eq allows
  | hinted allows => exact (bestScanCandidateFiltered_eq allows).trans (findSome?_strongest_filter _ _)
  | prefered allows =>
    rw [select, bestPreferedCandidateFiltered, bestHintedCandidateFiltered, bestScanCandidateFiltered_eq,
      bestScanCandidateFiltered_eq, findSome?_strongest_filter, ← List.findSome?_append,
      findSome?_strongest_filter]
    rfl
  | retry failedBssid ssid security isIgnored => exact (single _).symm
  | sameNetwork signal => exact (single _).symm
  | otherNetwork => exact absurd rfl ordered

theorem settles_ordered (distinct : (found.map (·.1.bssid)).Nodup) {selection : Selection}
    (ordered : selection ≠ .otherNetwork) : self.Settles found selection := by
  refine ⟨fun other same => ?_, fun best selected => ?_⟩
  · rw [select_eq ordered, select_eq ordered]
    congr 1
    funext eligible
    exact strongest_perm distinct same eligible
  · rw [select_eq ordered] at selected
    obtain ⟨eligible, among, chosen⟩ := List.exists_of_findSome?_eq_some selected
    exact ⟨eligible, among, strongest_mem chosen, strongest_le chosen⟩

theorem select_otherNetwork (found : List Candidate) : self.select found .otherNetwork =
    maxBy (fun a b => decide (a.1.signalDbm ≤ b.1.signalDbm)) (found.filter self.switchable) := rfl

/-- A candidate of the greatest signal is selected when it comes last. -/
theorem Settles.eq_some (settles : self.Settles found .otherNetwork) {c : Candidate} (among : c ∈ found)
    (passed : self.switchable c) (top : ∀ d ∈ found, self.switchable d → d.1.signalDbm ≤ c.1.signalDbm) :
    self.select found .otherNetwork = some c := by
  obtain ⟨before, behind, rfl⟩ := List.append_of_mem among
  have moved : (before ++ c :: behind).Perm (before ++ behind ++ [c]) :=
    List.perm_middle.trans (List.perm_append_singleton c _).symm
  rw [← settles.stable _ moved, select_otherNetwork, List.filter_append, List.filter_singleton, passed]
  refine maxBy_append_last fun d listed => decide_eq_true ?_
  obtain ⟨among, passed⟩ := List.mem_filter.mp listed
  exact top d (moved.mem_iff.mpr (List.mem_append_left _ among)) passed

end WifiIface

end

section Sample

attribute [local instance] Core.closedTls idleSae idleOwe

def lastNetwork : NetworkConfig := { homeNetwork with ssid := "last" }

def guestCandidates : List Candidate :=
  [({ guestBss with freqMhz := 5180 }, guestNetwork), ({ guestBss with bssid := filled 6 6 }, lastNetwork)]

end Sample

end Shuli.Wifi
