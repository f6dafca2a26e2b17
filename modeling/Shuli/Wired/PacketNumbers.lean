import Shuli.Runs
import Shuli.Wired.MacsecChannels

/-!
The initial packet numbers that the device hands to the kernel. A packet number stands in the desired
configuration from the push of its SA to the end of a successful `apply`. When the `apply` of an installation
fails, every later one carries the number again; and a key that was removed and is installed once more gets
its number once more. Otherwise each SA of a key is numbered in one `apply`.
-/

namespace Shuli.Wired

open Fallible
open Shuli.Core (WifiError)

def sasAt (txSa : List SaConfig) (rxSc : List RxScConfig) : Option UInt64 → List SaConfig
  | none => txSa
  | some sci => (rxSc.filter (·.sci = sci)).flatMap (·.saList)

/-- The call hands over an initial packet number for this SA. -/
def KernelCall.Numbers (place : Option UInt64) (an : UInt8) (keyId : Octets) : KernelCall → Prop
  | .apply txSa rxSc => ∃ sa ∈ sasAt txSa rxSc place, sa.an = an ∧ sa.keyId = keyId ∧ sa.pn ≠ none
  | .setEncodingSa _ => False

instance (place : Option UInt64) (an : UInt8) (keyId : Octets) :
    (call : KernelCall) → Decidable (call.Numbers place an keyId)
  | .apply _ _ => inferInstanceAs (Decidable (∃ _ ∈ _, _))
  | .setEncodingSa _ => isFalse id

/-- No SA of a key is numbered by two calls. -/
def NumberedOnce (calls : List KernelCall) : Prop :=
  calls.Pairwise fun earlier later => ∀ place an keyId,
    earlier.Numbers place an keyId → ¬later.Numbers place an keyId

/-- No packet number is left, and the ANs are distinct. -/
structure Unnumbered (saList : List SaConfig) : Prop where
  numbered : ∀ sa ∈ saList, sa.pn = none
  distinct : (saList.map (·.an)).Nodup

section Lists

variable {saList : List SaConfig} {an : UInt8}

theorem Unnumbered.nil : Unnumbered [] := ⟨List.forall_mem_nil _, List.nodup_nil⟩

theorem Unnumbered.erase (settled : Unnumbered saList) : Unnumbered (saList.eraseP (·.an == an)) where
  numbered sa mem := settled.numbered sa (List.eraseP_subset mem)
  distinct := settled.distinct.sublist (List.eraseP_sublist.map _)

theorem Unnumbered.activate (settled : Unnumbered saList) :
    Unnumbered (updateFirst (·.an == an) (fun sa => { sa with active := some true }) saList) where
  numbered sa mem := by
    rcases mem_updateFirst mem with old | ⟨old, found, rfl⟩
    · exact settled.numbered sa old
    · exact settled.numbered old (List.mem_of_find?_eq_some found)
  distinct := by
    have same : ∀ sa : SaConfig, { sa with active := some true }.an = sa.an := fun _ => rfl
    rw [map_updateFirst same]
    exact settled.distinct

/-- The number of an SA that was added is forgotten. -/
theorem Unnumbered.forget (settled : Unnumbered saList) (sa : SaConfig) (absent : ∀ other ∈ saList, other.an ≠ sa.an) :
    Unnumbered (updateFirst (·.an == sa.an) (fun sa => { sa with pn := none }) (saList ++ [sa])) := by
  have list : updateFirst (·.an == sa.an) (fun sa => { sa with pn := none }) (saList ++ [sa]) =
      saList ++ [{ sa with pn := none }] :=
    updateFirst_append (fun other mem => beq_eq_false_iff_ne.mpr (absent other mem)) (beq_self_eq_true sa.an)
  rw [list]
  refine ⟨fun other mem => ?_, ?_⟩
  · rcases List.mem_append.mp mem with old | new
    · exact settled.numbered other old
    · rw [List.mem_singleton.mp new]
  · rw [List.map_append, List.nodup_append]
    refine ⟨settled.distinct, List.nodup_singleton _, ?_⟩
    rintro number inside _ new rfl
    obtain ⟨other, mem, same⟩ := List.mem_map.mp inside
    exact absent other mem (same.trans (List.mem_singleton.mp new))

end Lists

namespace MacsecDevice

/-- What holds between the operations. -/
structure Tidy (device : MacsecDevice) : Prop where
  tx : Unnumbered device.txSa
  rx : ∀ sc ∈ device.rxSc, Unnumbered sc.saList
  once : NumberedOnce device.calls

variable {kernel : Kernel} {device : MacsecDevice} {an : UInt8} {ki : KeyId} {sak : Octets}

theorem Tidy.call {call : KernelCall} (tidy : device.Tidy)
    (fresh : ∀ place an keyId, call.Numbers place an keyId →
      ∀ earlier ∈ device.calls, ¬earlier.Numbers place an keyId) :
    NumberedOnce (device.calls ++ [call]) := by
  refine List.pairwise_append.mpr ⟨tidy.once, List.pairwise_singleton _ _, ?_⟩
  intro earlier old later new place an keyId first second
  rw [List.mem_singleton.mp new] at second
  exact fresh place an keyId second earlier old first

/-- The configuration of a tidy device numbers nothing. -/
theorem Tidy.not_numbers (tidy : device.Tidy) (place : Option UInt64) (an : UInt8) (keyId : Octets) :
    ¬(KernelCall.apply device.txSa device.rxSc).Numbers place an keyId := by
  rintro ⟨sa, mem, -, -, numbered⟩
  cases place with
  | none => exact numbered (tidy.tx.numbered sa mem)
  | some sci =>
    obtain ⟨sc, passed, inside⟩ := List.mem_flatMap.mp mem
    exact numbered ((tidy.rx sc (List.mem_filter.mp passed).1).numbered sa inside)

theorem request_tidy {call : KernelCall} {context : String}
    (silent : ∀ place an keyId, ¬call.Numbers place an keyId) : Keeps Tidy (request kernel call context) := by
  apply Keeps.get_bind
  intro device _
  apply Keeps.bind
  · exact Keeps.modify fun device tidy =>
      ⟨tidy.tx, tidy.rx, tidy.call fun place an keyId numbers => absurd numbers (silent place an keyId)⟩
  · intro _
    split
    · exact Keeps.pure _
    · exact Keeps.throw _

theorem apply_tidy : Keeps Tidy (apply kernel) :=
  Keeps.get_bind fun _ tidy => request_tidy tidy.not_numbers

theorem setEncodingSa_tidy : Keeps Tidy (setEncodingSa kernel an) :=
  request_tidy fun _ _ _ none => none

theorem activateTxSa_tidy : Keeps Tidy (modify (activateTxSa an) : Device PUnit) :=
  Keeps.modify fun _ tidy => ⟨tidy.tx.activate, tidy.rx, tidy.once⟩

theorem setTxSaActive_tidy : Keeps Tidy (setTxSaActive kernel an) :=
  Keeps.bind activateTxSa_tidy fun _ => Keeps.bind apply_tidy fun _ => setEncodingSa_tidy

theorem removeRxSc_tidy {peerSci : Sci} : Keeps Tidy (removeRxSc kernel peerSci) :=
  Keeps.bind (Keeps.modify fun _ tidy => ⟨tidy.tx, fun sc mem => tidy.rx sc (List.mem_filter.mp mem).1, tidy.once⟩)
    fun _ => apply_tidy

theorem clearSas_tidy : Keeps Tidy (clearSas kernel) :=
  Keeps.bind (Keeps.modify fun _ tidy => ⟨.nil, List.forall_mem_nil _, tidy.once⟩) fun _ => apply_tidy

theorem apply_calls : Ends (apply kernel) device fun result after =>
    after = { device with calls := device.calls ++ [.apply device.txSa device.rxSc] } ∧
      (kernel.answer device.calls.length = none → result = .ok ()) := by
  apply Ends.get_bind
  apply Ends.get_bind
  cases kernel.answer device.calls.length with
  | none => exact ⟨rfl, fun _ => rfl⟩
  | some text => exact ⟨rfl, nofun⟩

theorem apply_granted {x : Device Unit} {Q : Except WifiError Unit → MacsecDevice → Prop}
    (granted : kernel.answer device.calls.length = none)
    (rest : Ends x { device with calls := device.calls ++ [.apply device.txSa device.rxSc] } Q) :
    Ends (do apply kernel; x) device Q := by
  refine Ends.bind apply_calls (fun e _ failed => ?_) fun _ _ applied => applied.1 ▸ rest
  cases failed.2 granted

/-- No earlier call has numbered this SA. -/
def Fresh (device : MacsecDevice) (place : Option UInt64) (an : UInt8) (ki : KeyId) : Prop :=
  ∀ call ∈ device.calls, ¬call.Numbers place an (keyidBytes ki)

instance (place : Option UInt64) : Decidable (device.Fresh place an ki) := inferInstanceAs (Decidable (∀ _ ∈ _, _))

theorem Tidy.fresh {place : Option UInt64} (tidy : device.Tidy) (fresh : device.Fresh place an ki) :
    { device with calls := device.calls ++ [KernelCall.apply device.txSa device.rxSc] }.Fresh place an ki := by
  intro call mem
  rcases List.mem_append.mp mem with old | new
  · exact fresh call old
  · rw [List.mem_singleton.mp new]
    exact tidy.not_numbers place an _

/-- The `apply` that takes out another key of the AN, and the addition of the SA. -/
theorem apply_add {place : Option UInt64} {add : Device Unit} (tidy : device.Tidy)
    (fresh : device.Fresh place an ki)
    (added : ∀ next : MacsecDevice, next.txSa = device.txSa → next.rxSc = device.rxSc →
      next.calls.length = device.calls.length + 1 → next.Tidy → next.Fresh place an ki →
      Ends add next fun _ => Tidy) :
    Ends (do apply kernel; add) device fun _ => Tidy := by
  have tidied : { device with calls := device.calls ++ [KernelCall.apply device.txSa device.rxSc] }.Tidy :=
    ⟨tidy.tx, tidy.rx, tidy.call fun place an keyId numbers => absurd numbers (tidy.not_numbers place an keyId)⟩
  refine Ends.bind apply_calls (fun _ _ failed => failed.1 ▸ tidied) ?_
  rintro _ _ ⟨rfl, -⟩
  exact added _ rfl rfl List.length_append tidied (tidy.fresh fresh)

theorem addTxSa_tidy {active : Bool} (tidy : device.Tidy) (absent : ∀ sa ∈ device.txSa, sa.an ≠ an)
    (fresh : device.Fresh none an ki) (granted : kernel.answer device.calls.length = none) :
    Ends (addTxSa kernel an ki sak active) device fun _ => Tidy := by
  let sa : SaConfig := ⟨an, some 1, some active, keyidBytes ki, some sak⟩
  apply Ends.modify_bind
  refine apply_granted (by exact granted) ?_
  refine (Keeps.when fun _ => setEncodingSa_tidy).ends ⟨tidy.tx.forget sa absent, tidy.rx, tidy.call ?_⟩
  rintro place number keyId ⟨sa, mem, rfl, rfl, numbered⟩
  cases place with
  | none =>
    rcases List.mem_append.mp mem with old | new
    · exact absurd (tidy.tx.numbered sa old) numbered
    · rw [List.mem_singleton.mp new]
      exact fresh
  | some sci => exact absurd ⟨sa, mem, rfl, rfl, numbered⟩ (tidy.not_numbers (some sci) sa.an sa.keyId)

variable {sci : UInt64}

theorem mem_updateSas {f : List SaConfig → List SaConfig} {list : List RxScConfig}
    {first sc : RxScConfig} (found : rxScOf sci list = some first) (mem : sc ∈ updateSas sci f list) :
    sc ∈ list ∨ sc = { first with saList := f first.saList } := by
  rcases mem_updateFirst mem with old | ⟨other, again, rfl⟩
  · exact .inl old
  · cases found.symm.trans again
    exact .inr rfl

theorem updateSas_updateSas {f g : List SaConfig → List SaConfig} {list : List RxScConfig} :
    updateSas sci g (updateSas sci f list) = updateSas sci (fun sas => g (f sas)) list :=
  updateFirst_updateFirst (f := fun sc : RxScConfig => { sc with saList := f sc.saList }) fun _ passed => passed

theorem addRxSa_tidy {sc : RxScConfig} (tidy : device.Tidy)
    (found : rxScOf sci device.rxSc = some sc) (absent : ∀ sa ∈ sc.saList, sa.an ≠ an)
    (fresh : device.Fresh (some sci) an ki) (granted : kernel.answer device.calls.length = none) :
    Ends (addRxSa kernel sci an ki sak) device fun _ => Tidy := by
  let sa : SaConfig := ⟨an, some 1, some true, keyidBytes ki, some sak⟩
  have settled := tidy.rx sc (List.mem_of_find?_eq_some found)
  apply Ends.modify_bind
  refine apply_granted (by exact granted) ?_
  refine ⟨tidy.tx, fun other mem => ?_, tidy.call ?_⟩
  · have forgotten : other ∈ updateSas sci (updateFirst (·.an == an) fun sa => { sa with pn := none })
        (updateSas sci (· ++ [sa]) device.rxSc) := mem
    rw [updateSas_updateSas] at forgotten
    rcases mem_updateSas found forgotten with old | rfl
    · exact tidy.rx other old
    · exact settled.forget sa absent
  · rintro place number keyId ⟨other, mem, rfl, rfl, numbered⟩
    cases place with
    | none => exact absurd (tidy.tx.numbered other mem) numbered
    | some channel =>
      obtain ⟨owner, passed, inside⟩ := List.mem_flatMap.mp mem
      obtain ⟨known, named⟩ := List.mem_filter.mp passed
      have changed : owner ∈ updateSas sci (· ++ [sa]) device.rxSc := known
      rcases mem_updateSas found changed with old | rfl
      · exact absurd ((tidy.rx owner old).numbered other inside) numbered
      · rcases List.mem_append.mp inside with old | new
        · exact absurd (settled.numbered other old) numbered
        · have own := List.find?_some (p := fun sc : RxScConfig => sc.sci == sci) found
          rw [List.mem_singleton.mp new, ← of_decide_eq_true named, eq_of_beq own]
          exact fresh

def saList (device : MacsecDevice) : Option UInt64 → List SaConfig
  | none => device.txSa
  | some sci => ((device.rxSc.find? (·.sci == sci)).map (·.saList)).getD []

/-- An SA that is to be added is numbered for the first time, and the `apply` that hands it over, after the one
that takes out another key of the AN, succeeds. -/
def NumbersAnew (kernel : Kernel) (device : MacsecDevice) (place : Option UInt64) (an : UInt8) (ki : KeyId) :
    Prop :=
  match (device.saList place).find? (·.an == an) with
  | none => device.Fresh place an ki ∧ kernel.answer device.calls.length = none
  | some sa => sa.keyId = keyidBytes ki ∨
    device.Fresh place an ki ∧ kernel.answer (device.calls.length + 1) = none

theorem installTxSa_tidy {active : Bool} (tidy : device.Tidy) (anew : device.NumbersAnew kernel none an ki) :
    Ends (installTxSa kernel an ki sak active) device fun _ => Tidy := by
  unfold NumbersAnew at anew
  apply Ends.get_bind
  rcases held : device.txSa.find? (·.an == an) with _ | sa
  · rw [held]
    rw [saList, held] at anew
    have absent (sa : SaConfig) (mem : sa ∈ device.txSa) : sa.an ≠ an :=
      fun same => List.find?_eq_none.mp held sa mem (beq_iff_eq.mpr same)
    exact addTxSa_tidy tidy absent anew.1 anew.2
  · rw [held]
    rw [saList, held] at anew
    refine Ends.ite (fun _ => ?_) fun other => ?_
    · exact (Keeps.bind (Keeps.when fun _ => activateTxSa_tidy) fun _ => Keeps.bind apply_tidy fun _ =>
        Keeps.when fun _ => setEncodingSa_tidy).ends tidy
    · have fresh := anew.resolve_left other
      have erased : { device with txSa := device.txSa.eraseP (·.an == an) }.Tidy :=
        ⟨tidy.tx.erase, tidy.rx, tidy.once⟩
      refine apply_add erased fresh.1 fun next list _ length tidied anew => ?_
      refine addTxSa_tidy tidied (fun sa mem => ?_) anew (length ▸ fresh.2)
      rw [list] at mem
      exact ne_of_mem_eraseP tidy.tx.distinct mem

theorem saList_openRxSc (sci : UInt64) : (device.openRxSc sci).saList (some sci) = device.saList (some sci) := by
  rw [saList, openRxSc, find?_updateFirst fun _ passed => by exact passed, saList]
  rcases found : device.rxSc.find? (·.sci == sci) with _ | sc
  · have missing : device.rxSc.any (·.sci == sci) = false := by
      rw [List.any_eq_false]
      exact List.find?_eq_none.mp found
    rw [missing, if_neg Bool.false_ne_true, List.find?_append, found]
    simp
  · have known : device.rxSc.any (·.sci == sci) = true :=
      List.any_eq_true.mpr ⟨sc, List.mem_of_find?_eq_some found,
        List.find?_some (p := fun sc : RxScConfig => sc.sci == sci) found⟩
    rw [known, if_pos rfl, found]
    rfl

theorem openRxSc_tidy (tidy : device.Tidy) : (device.openRxSc sci).Tidy := by
  have added : ∀ sc ∈ (if device.rxSc.any (·.sci == sci) then device.rxSc
      else device.rxSc ++ [⟨sci, none, []⟩]), Unnumbered sc.saList := by
    split
    · exact tidy.rx
    · intro sc mem
      rcases List.mem_append.mp mem with old | new
      · exact tidy.rx sc old
      · rw [List.mem_singleton.mp new]
        exact .nil
  refine ⟨tidy.tx, fun sc mem => ?_, tidy.once⟩
  rcases mem_updateFirst mem with old | ⟨old, found, rfl⟩
  · exact added sc old
  · exact added old (List.mem_of_find?_eq_some found)

theorem installRxSa_tidy {peerSci : Sci} (tidy : device.Tidy)
    (anew : device.NumbersAnew kernel (some (sciBe peerSci)) an ki) :
    Ends (installRxSa kernel peerSci an ki sak) device fun _ => Tidy := by
  obtain ⟨sc, found⟩ := rxScOf_openRxSc (sciBe peerSci) device
  have opened : (device.openRxSc (sciBe peerSci)).Tidy := openRxSc_tidy tidy
  have settled := opened.rx sc (List.mem_of_find?_eq_some found)
  have list : (((device.openRxSc (sciBe peerSci)).rxSc.find? (·.sci == sciBe peerSci)).map
      (·.saList)).getD [] = sc.saList := by
    rw [show List.find? _ _ = some sc from found]
    rfl
  rw [NumbersAnew, ← saList_openRxSc, saList, list] at anew
  apply Ends.modify_bind
  apply Ends.get_bind
  dsimp only
  rw [list]
  rcases held : sc.saList.find? (·.an == an) with _ | sa
  · rw [held] at anew ⊢
    have absent (sa : SaConfig) (mem : sa ∈ sc.saList) : sa.an ≠ an :=
      fun same => List.find?_eq_none.mp held sa mem (beq_iff_eq.mpr same)
    exact addRxSa_tidy opened found absent anew.1 anew.2
  · rw [held] at anew ⊢
    refine Ends.ite (fun _ => apply_tidy.ends opened) fun other => ?_
    have fresh := anew.resolve_left other
    have erased : ((device.openRxSc (sciBe peerSci)).updateRxSas (sciBe peerSci) (·.eraseP (·.an == an))).Tidy := by
      refine ⟨opened.tx, fun channel mem => ?_, opened.once⟩
      rcases mem_updateSas found mem with old | rfl
      · exact opened.rx channel old
      · exact settled.erase
    refine apply_add erased fresh.1 fun next _ list length tidied anew => ?_
    have changed : rxScOf (sciBe peerSci) next.rxSc = some { sc with saList := sc.saList.eraseP (·.an == an) } := by
      rw [list]
      exact rxScOf_updateSas found
    refine addRxSa_tidy tidied changed (fun sa mem => ?_) anew (length ▸ fresh.2)
    exact ne_of_mem_eraseP settled.distinct mem

end MacsecDevice

inductive DeviceOp
  | installTxSa (an : UInt8) (ki : KeyId) (sak : Octets) (active : Bool)
  | installRxSa (peerSci : Sci) (an : UInt8) (ki : KeyId) (sak : Octets)
  | setTxSaActive (an : UInt8)
  | removeRxSc (peerSci : Sci)
  | clearSas
  deriving DecidableEq, Repr

namespace DeviceOp

def run (kernel : Kernel) : DeviceOp → Device Unit
  | installTxSa an ki sak active => MacsecDevice.installTxSa kernel an ki sak active
  | installRxSa peerSci an ki sak => MacsecDevice.installRxSa kernel peerSci an ki sak
  | setTxSaActive an => MacsecDevice.setTxSaActive kernel an
  | removeRxSc peerSci => MacsecDevice.removeRxSc kernel peerSci
  | clearSas => MacsecDevice.clearSas kernel

def Admits (kernel : Kernel) (device : MacsecDevice) : DeviceOp → Prop
  | installTxSa an ki _ _ => device.NumbersAnew kernel none an ki
  | installRxSa peerSci an ki _ => device.NumbersAnew kernel (some (sciBe peerSci)) an ki
  | setTxSaActive _ | removeRxSc _ | clearSas => True

end DeviceOp

def MacsecDevice.step (kernel : Kernel) (device : MacsecDevice) (op : DeviceOp) : MacsecDevice :=
  after (op.run kernel) device

theorem MacsecDevice.Tidy.step {kernel : Kernel} {device : MacsecDevice} {op : DeviceOp} (tidy : device.Tidy)
    (admits : op.Admits kernel device) : (device.step kernel op).Tidy := by
  cases op with
  | installTxSa an ki sak active => exact installTxSa_tidy tidy admits
  | installRxSa peerSci an ki sak => exact installRxSa_tidy tidy admits
  | setTxSaActive an => exact setTxSaActive_tidy.ends tidy
  | removeRxSc peerSci => exact removeRxSc_tidy.ends tidy
  | clearSas => exact clearSas_tidy.ends tidy

/-- Packet numbers are initialised once: along every run of a new device in which each SA that is added is
numbered for the first time, by an `apply` that succeeds, no SA of a key is numbered by two calls. -/
theorem packet_numbers_once (kernel : Kernel) (link : LinkConfig) (device : MacsecDevice)
    (created : MacsecDevice.create kernel link = .ok device) (ops : List DeviceOp)
    (admitted : Admitted (MacsecDevice.step kernel) (fun device op => op.Admits kernel device) device ops) :
    NumberedOnce (runInputs (MacsecDevice.step kernel) device ops).calls := by
  have start : device.Tidy := by
    have applied : Ends (MacsecDevice.apply kernel) ⟨link, [], [], []⟩ fun _ => MacsecDevice.Tidy :=
      MacsecDevice.apply_tidy.ends ⟨.nil, List.forall_mem_nil _, .nil⟩
    rw [Ends, MacsecDevice.create_eq_ok created] at applied
    exact applied
  exact (run_invariant (fun _ _ tidy admits => tidy.step admits) start admitted).once

section Sample

def refusingAt (refused : Nat) : Kernel where
  createLink _ := .ok ()
  answer place := if place = refused then some "Device or resource busy" else none

def numberedLink : LinkConfig := ⟨"eth0", "macsec0", ⟨List.replicate 8 0, rfl⟩, 0, true⟩

def numberedDevice : MacsecDevice := ⟨numberedLink, [], [], [.apply [] []]⟩

def numberedKey (number : UInt32) : KeyId := ⟨⟨List.replicate 12 7, rfl⟩, number⟩

/-- The SA of a second key replaces that of the first on the same AN. -/
theorem packet_numbers_once_replaced :
    NumberedOnce (runInputs (MacsecDevice.step (refusingAt 9)) numberedDevice
      [.installTxSa 0 (numberedKey 1) [1] false, .setTxSaActive 0, .installTxSa 0 (numberedKey 2) [2] false]).calls :=
  packet_numbers_once (refusingAt 9) numberedLink numberedDevice rfl _
    ⟨⟨by decide, rfl⟩, trivial, .inr ⟨by decide, rfl⟩, trivial⟩

/-- The `apply` of the installation fails; the one of an activation hands over the packet number again. -/
theorem packet_number_twice :
    ¬NumberedOnce (runInputs (MacsecDevice.step (refusingAt 1)) numberedDevice
      [.installTxSa 0 (numberedKey 1) [1] false, .setTxSaActive 0]).calls := by
  intro once
  have pair := List.pairwise_iff_getElem.mp once 1 2 (by decide) (by decide) (by decide)
  exact pair none 0 (keyidBytes (numberedKey 1)) (by decide) (by decide)

end Sample

end Shuli.Wired
