import Shuli.Wifi.FastTransition

/-!
Invariants over what an interface shows: the BSS, the PMKSA in use, the FT roam, the 4-way state and the trace.
Most calls change none of these and send only requests that carry no key and no element; one lemma for each call
says that it keeps every invariant that such requests do not disturb.
-/

namespace Shuli.Wifi

open Fallible
open Shuli.Core (WifiError Tls)

def installedKeys (trace : List Action) : List KeyRequest := trace.filterMap fun
  | .request (.newKey key) => some key
  | _ => none

def Request.Plain : Request → Prop
  | .newKey _ | .setRekeyOffload _ _ _ _ => False
  | _ => True

/-- A request with neither keys nor elements for an association. -/
def Request.Bare : Request → Prop
  | .newKey .. | .setRekeyOffload .. | .associate .. | .connect .. => False
  | _ => True

variable {req : Request}

theorem Request.Bare.plain (bare : req.Bare) : req.Plain := by
  cases req <;> trivial

structure Face where
  bssInfo : BssInfo
  pmksaInUse : Option PmksaEntry
  ftRoam : Option FtRoam
  fourway : Option FourWayState
  trace : List Action

section

variable [Tls] [Sae] [Owe]

def WifiIface.face (self : WifiIface) : Face :=
  ⟨self.link.bssInfo, self.link.pmksaInUse, self.roam.ftRoam, self.link.fourway, self.trace⟩

/-- An invariant over the face that bare requests and the use of a PMKSA do not disturb. -/
class Steady (P : WifiIface → Prop) : Prop where
  quiet : ∀ {self other}, P self → self.face = other.face → P other
  request : ∀ {self req}, Request.Bare req → P self → P (self.record (.request req))
  connected : ∀ {self} cause, cause ≠ .openNetwork → P self → P (self.record (.connected cause))
  pinned : ∀ {self entry}, self.link.bssInfo.security.isCached → P self →
    P { self with link.pmksaInUse := some entry }
  unpinned : ∀ {self}, P self → P { self with link.pmksaInUse := none }

/-- Such an invariant, if a new attempt and the elements of its connect request do not disturb it either. -/
class Attempting [Elements] (P : WifiIface → Prop) : Prop extends Steady P where
  reset : ∀ {self : WifiIface}, P self → P self.resetAttempt
  connects : ∀ {self built ssid bssid freqMhz privacy akm mfp port}, P built →
    connectUnsupported built.link.bssInfo.security = none → P self →
    P (self.record (.request (.connect ssid bssid freqMhz
      (if built.link.bssInfo.security = .open then []
        else built.link.rsneWithPmkid (built.link.pmksaInUse.map PmksaEntry.pmkid)) privacy akm mfp port)))

variable {P : WifiIface → Prop} {env : Env}

theorem request_records {self : WifiIface} (recorded : P (self.record (.request req))) :
    Ends (request env req) self fun _ => P :=
  Ends.get_bind (Ends.modify_bind recorded)

theorem bestEffort_records {self : WifiIface} (recorded : P (self.record (.request req))) :
    Ends (bestEffort env req) self fun _ => P := by
  refine Ends.tryCatch (R := fun _ => P) ?_ (fun _ _ done => done) fun _ _ done => done
  exact (request_records recorded).bind (fun _ _ done => done) fun _ _ done => done

theorem request_grows (grow : ∀ {self}, P self → P (self.record (.request req))) :
    Keeps P (request env req) := Keeps.of_ends fun _ kept => request_records (grow kept)

theorem bestEffort_grows (grow : ∀ {self}, P self → P (self.record (.request req))) :
    Keeps P (bestEffort env req) := Keeps.of_ends fun _ kept => bestEffort_records (grow kept)

theorem tryOffloadRekey_grows (grow : ∀ {self kek kck counter akm}, P self →
      P (self.record (.request (.setRekeyOffload kek kck counter akm)))) :
    Keeps P (tryOffloadRekey env) := by
  refine Keeps.get_bind fun _ _ => ?_
  split
  · exact Keeps.pure _
  · split
    · exact bestEffort_grows grow
    · exact Keeps.pure _

theorem installManagementKeys_grows {cipher : CipherSuite} {kdes : KeyDataKdes}
    (igtk : ∀ {self key index ipn}, P self → P (self.record (.request (.newKey (.igtk key index ipn cipher)))))
    (bigtk : ∀ {self key index ipn}, P self → P (self.record (.request (.newKey (.bigtk key index ipn cipher))))) :
    Keeps P (installManagementKeys env cipher kdes) := by
  refine Keeps.bind (Keeps.forM fun _ _ => ?_) fun _ => Keeps.forM fun _ _ => ?_
  · exact Keeps.bind (bestEffort_grows igtk) fun _ => Keeps.pure _
  · exact Keeps.bind (bestEffort_grows bigtk) fun _ => Keeps.pure _

theorem installFtKeys_grows [Primitives] {target : BssInfo} {ptk : Ptk} {ftie : Ftie}
    (grow : ∀ {self key}, P self → P (self.record (.request (.newKey key)))) :
    Keeps P (installFtKeys env target ptk ftie) := by
  have installKey (name : String) (key : KeyRequest) : Keeps P (installFtKey env name key) :=
    Keeps.tryCatch (request_grows grow) fun _ => Keeps.throw _
  refine Keeps.bind (installKey _ _) fun _ => Keeps.bind (Keeps.forM fun _ _ => ?_) fun _ =>
    Keeps.bind (Keeps.forM fun _ _ => ?_) fun _ => Keeps.forM fun _ _ => ?_
  · exact Keeps.liftM_bind fun _ _ => installKey _ _
  · exact Keeps.liftM_bind fun _ _ => Keeps.bind (bestEffort_grows grow) fun _ => Keeps.pure _
  · exact Keeps.liftM_bind fun _ _ => Keeps.bind (bestEffort_grows grow) fun _ => Keeps.pure _

/-! Calls that cannot fail. -/

theorem bestEffort_total (req : Request) : Total (bestEffort env req : Iface Bool) :=
  Total.tryCatch fun _ => Total.pure _

theorem tryOffloadRekey_total : Total (tryOffloadRekey env : Iface Bool) := by
  refine Total.get_bind fun _ => ?_
  split
  · exact Total.pure _
  · split
    · exact bestEffort_total _
    · exact Total.pure _

theorem armWowlanIfEnabled_total : Total (armWowlanIfEnabled env : Iface Unit) := by
  refine Total.get_bind fun _ => Total.ite (Total.get_bind fun _ => Total.ite ?_ (Total.pure _)) (Total.pure _)
  exact Total.bind (bestEffort_total _) fun _ => Total.ite (Total.modify _) (Total.pure _)

/-! Calls that keep every steady invariant. -/

section Kept

variable [Steady P]

theorem quiet {f : WifiIface → WifiIface} (same : WifiIface.face = fun self => (f self).face) :
    Keeps P (modify f : Iface Unit) := Keeps.modify fun self kept => Steady.quiet kept (congrFun same self)

theorem request_kept (bare : req.Bare) : Keeps P (request env req) :=
  request_grows (Steady.request bare)

theorem bestEffort_kept (bare : req.Bare) : Keeps P (bestEffort env req) :=
  bestEffort_grows (Steady.request bare)

theorem orFail_kept {call : Iface Unit} (body : Keeps P call) : Keeps P (orFail call) :=
  Keeps.tryCatch body fun _ => quiet rfl

theorem ensureControlPort_kept : Keeps P (ensureControlPort env) :=
  Keeps.get_bind fun _ _ => Keeps.guard fun _ => Keeps.bind (request_kept trivial) fun _ => quiet rfl

theorem sendControlPortFrame_kept {bssid : MacAddr} {frame : Octets} :
    Keeps P (sendControlPortFrame env bssid frame) :=
  Keeps.get_bind fun _ _ => Keeps.ite (fun _ => Keeps.throw _) fun _ => request_kept trivial

theorem armWowlan_kept : Keeps P (armWowlan env) :=
  Keeps.get_bind fun _ _ => Keeps.guard fun _ => Keeps.bind (bestEffort_kept trivial) fun _ =>
    Keeps.guard fun _ => quiet rfl

theorem armWowlanIfEnabled_kept : Keeps P (armWowlanIfEnabled env) :=
  Keeps.get_bind fun _ _ => Keeps.guard fun _ => armWowlan_kept

theorem established_kept {cause : ConnectedBy} {state : WifiState} (closed : cause ≠ .openNetwork) :
    Keeps P (modify (·.established cause state) : Iface Unit) :=
  Keeps.modify fun _ kept => Steady.quiet (Steady.connected cause closed kept) rfl

theorem prepareEap_kept : Keeps P (prepareEap : Iface Unit) :=
  Keeps.get_bind fun _ _ => Keeps.guard fun _ => Keeps.liftM_bind fun _ _ => Keeps.liftM_bind fun _ _ => quiet rfl

theorem derivePsk_kept [Primitives] : Keeps P (derivePsk : Iface Unit) :=
  Keeps.get_bind fun _ _ => Keeps.guard fun _ => Keeps.liftM_bind fun _ _ => quiet rfl

theorem driverDelPmksa_kept {entry : PmksaEntry} : Keeps P (driverDelPmksa env entry) :=
  Keeps.bind (bestEffort_kept trivial) fun _ => Keeps.pure _

/-- A PMKSA is taken only for an AKM that is cached. -/
theorem usePmksa_kept : Keeps P (usePmksa env) := by
  refine Keeps.of_ends fun self kept => Ends.get_bind (Ends.modify_bind ?_)
  have current : P { self with pmksaCache := self.pmksaCache.removeExpired env.now } := Steady.quiet kept rfl
  split
  · rename_i found
    refine Steady.pinned ?_ current
    by_contra uncached
    rw [if_neg uncached] at found
    cases found
  · split
    · exact driverDelPmksa_kept.ends current
    · exact current

theorem cachePmksa_kept [Primitives] : Keeps P (cachePmksa env) := by
  refine Keeps.get_bind fun _ _ => Keeps.bind (Keeps.modify fun _ kept => Steady.unpinned kept) fun _ => ?_
  split
  · exact Keeps.pure _
  · exact Keeps.bind (Keeps.bind (bestEffort_kept trivial) fun _ => Keeps.pure _) fun _ => quiet rfl

theorem completeHandshake_kept [Primitives] (offload : Keeps P (tryOffloadRekey env)) :
    Keeps P (completeHandshake env) := by
  refine Keeps.get_bind fun _ _ => Keeps.bind (Keeps.when fun _ => cachePmksa_kept) fun _ => ?_
  refine Keeps.bind (Keeps.when fun _ => ?_) fun _ => Keeps.bind offload fun _ => ?_
  · exact Keeps.bind (bestEffort_kept trivial) fun _ => Keeps.pure _
  · exact Keeps.bind (established_kept (by decide)) fun _ => armWowlanIfEnabled_kept

theorem handleEapFrame_kept {eap : Octets} : Keeps P (handleEapFrame env eap) := by
  refine Keeps.get_bind fun _ _ => ?_
  split
  · refine Keeps.bind (quiet rfl) fun _ => ?_
    split
    · exact orFail_kept sendControlPortFrame_kept
    · split
      · exact quiet rfl
      · exact quiet rfl
    · exact quiet rfl
    · exact Keeps.pure _
    · exact quiet rfl
  · exact Keeps.pure _

end Kept

section Attempts

variable [Elements] [Attempting P]

theorem sendOutConnectRequest_kept : Keeps P (sendOutConnectRequest env) := by
  refine Keeps.get_bind fun _ built => ?_
  dsimp only
  split
  · exact Keeps.throw _
  · refine Keeps.ite (fun _ => Keeps.throw _) fun _ => Keeps.bind (quiet rfl) fun _ => ?_
    exact Keeps.bind (Keeps.when fun _ => ensureControlPort_kept) fun _ =>
      request_grows (Attempting.connects built ‹_›)

theorem sendFirstCommit_kept : Keeps P (sendFirstCommit env) :=
  Keeps.get_bind fun _ _ => Keeps.liftM_bind fun _ _ => Keeps.liftM_bind fun _ _ => Keeps.bind (quiet rfl) fun _ =>
    Keeps.bind (request_kept trivial) fun _ => quiet rfl

variable [Primitives]

theorem authenticateSelected_kept : Keeps P (authenticateSelected env) := by
  refine Keeps.bind prepareEap_kept fun _ => Keeps.bind usePmksa_kept fun _ =>
    Keeps.bind derivePsk_kept fun _ => Keeps.get_bind fun _ _ => ?_
  refine Keeps.bind (Keeps.when fun _ => ensureControlPort_kept) fun _ => ?_
  refine Keeps.ite (fun _ => sendOutConnectRequest_kept) fun _ => ?_
  exact Keeps.ite (fun _ => request_kept trivial) fun _ => sendFirstCommit_kept

theorem pmksaFallback_kept : Keeps P (pmksaFallback env) := by
  have retry : Keeps P (orFail do
      sendOutAuthRequest env
      modify (·.setState .authenticating)) := by
    refine orFail_kept (Keeps.bind ?_ fun _ => quiet rfl)
    exact Keeps.bind (Keeps.modify fun _ kept => Attempting.reset kept) fun _ => authenticateSelected_kept
  refine Keeps.get_bind fun _ _ => ?_
  split
  · refine Keeps.bind (Keeps.modify fun _ kept => ?_) fun _ => Keeps.bind driverDelPmksa_kept fun _ => retry
    exact Steady.quiet (Steady.unpinned kept) rfl
  · exact retry

theorem message3Failed_kept {error : WifiError} : Keeps P (message3Failed env error) :=
  Keeps.get_bind fun _ _ => Keeps.ite (fun _ => pmksaFallback_kept) fun _ =>
    Keeps.ite (fun _ => quiet rfl) fun _ => quiet rfl

end Attempts

/-! Invariants over the 4-way state and the trace alone. -/

/-- Entries about no key do not disturb the invariant. -/
class Tolerant (J : Option FourWayState → List Action → Prop) : Prop where
  request : ∀ {fw trace req}, Request.Plain req → J fw trace → J fw (trace ++ [.request req])
  connected : ∀ {fw trace} cause, J fw trace → J fw (trace ++ [.connected cause])

def WifiIface.Over (J : Option FourWayState → List Action → Prop) (self : WifiIface) : Prop :=
  J self.link.fourway self.trace

variable {J : Option FourWayState → List Action → Prop} [Tolerant J]

instance : Steady (WifiIface.Over J) where
  quiet kept same := by
    change J (WifiIface.face _).fourway (WifiIface.face _).trace
    rw [← same]
    exact kept
  request bare kept := Tolerant.request bare.plain kept
  connected cause _ kept := Tolerant.connected cause kept
  pinned _ kept := kept
  unpinned kept := kept

theorem Tolerant.attempting [Elements] (drop : ∀ {fw trace}, J fw trace → J none trace) :
    Attempting (WifiIface.Over J) where
  reset kept := drop kept
  connects _ _ kept := Tolerant.request trivial kept

end

end Shuli.Wifi
