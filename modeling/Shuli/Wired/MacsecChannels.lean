import Shuli.Wired.MacsecCalls

/-!
The receive side of the desired configuration: which channels the device operations open and close, and
which receive SAs they leave. The kernel grants every call.
-/

namespace Shuli.Wired

open Fallible

theorem sciBe_injective {first second : Sci} (same : sciBe first = sciBe second) : first = second := by
  have bound (sci : Sci) : beNat sci.val < 2 ^ 64 := by
    have octets := beNat_lt sci.val
    rwa [sci.property] at octets
  have numbers : beNat first.val = beNat second.val := by
    have equal := congrArg UInt64.toNat same
    rwa [sciBe, sciBe, ofBe64, ofBe64, UInt64.toNat_ofNat', UInt64.toNat_ofNat',
      Nat.mod_eq_of_lt (bound first), Nat.mod_eq_of_lt (bound second)] at equal
  apply Subtype.ext
  rw [← beOctets_beNat first.val, ← beOctets_beNat second.val, numbers, first.property, second.property]

/-- There is an SA of this association number and key. -/
def KeyedSa (an : UInt8) (ki : KeyId) (saList : List SaConfig) : Prop :=
  ∃ sa ∈ saList, sa.an = an ∧ sa.keyId = keyidBytes ki

/-- There is a receive SA of this association number and key in a channel of the SCI. -/
def HasRxSa (sci : UInt64) (an : UInt8) (ki : KeyId) (rxSc : List RxScConfig) : Prop :=
  ∃ sc ∈ rxSc, sc.sci = sci ∧ KeyedSa an ki sc.saList

def rxScOf (sci : UInt64) (rxSc : List RxScConfig) : Option RxScConfig := rxSc.find? (·.sci == sci)

section Channels

variable {sci : UInt64} {an : UInt8} {ki : KeyId} {old new rest : List RxScConfig} {saList : List SaConfig}

instance : Decidable (KeyedSa an ki saList) := inferInstanceAs (Decidable (∃ _ ∈ _, _))

instance : Decidable (HasRxSa sci an ki old) := inferInstanceAs (Decidable (∃ _ ∈ _, _))

/-- An operation on the channel of one SCI leaves the other channels, and opens no other. -/
structure Tends (sci : UInt64) (old new : List RxScConfig) : Prop where
  others : ∀ sc ∈ old, sc.sci ≠ sci → sc ∈ new
  channels : ∀ sc ∈ new, sc.sci = sci ∨ ∃ before ∈ old, before.sci = sc.sci

theorem Tends.trans (first : Tends sci old new) (second : Tends sci new rest) : Tends sci old rest where
  others sc mem other := second.others sc (first.others sc mem other) other
  channels sc mem := by
    rcases second.channels sc mem with own | ⟨middle, known, same⟩
    · exact .inl own
    · rw [← same]
      exact first.channels middle known

theorem tends_updateFirst {f : RxScConfig → RxScConfig} (keeps : ∀ sc, (f sc).sci = sc.sci) :
    Tends sci old (updateFirst (·.sci == sci) f old) where
  others sc mem other := by
    rcases updateFirst_mem mem with kept | ⟨found, -⟩
    · exact kept
    · have own := List.find?_some (p := fun sc : RxScConfig => sc.sci == sci) found
      exact absurd (eq_of_beq own) other
  channels sc mem := by
    rcases mem_updateFirst mem with known | ⟨before, found, rfl⟩
    · exact .inr ⟨sc, known, rfl⟩
    · exact .inr ⟨before, List.mem_of_find?_eq_some found, (keeps before).symm⟩

def updateSas (sci : UInt64) (f : List SaConfig → List SaConfig) : List RxScConfig → List RxScConfig :=
  updateFirst (·.sci == sci) fun sc => { sc with saList := f sc.saList }

theorem updateSas_tends (f : List SaConfig → List SaConfig) : Tends sci old (updateSas sci f old) :=
  tends_updateFirst fun _ => rfl

variable {sc : RxScConfig}

theorem rxScOf_updateSas {f : List SaConfig → List SaConfig} (found : rxScOf sci old = some sc) :
    rxScOf sci (updateSas sci f old) = some { sc with saList := f sc.saList } := by
  rw [rxScOf, updateSas, find?_updateFirst fun _ passed => by exact passed]
  exact congrArg (Option.map _) found

theorem hasRxSa_of_rxScOf (found : rxScOf sci old = some sc)
    (keyed : KeyedSa an ki sc.saList) : HasRxSa sci an ki old := by
  have own := List.find?_some (p := fun sc : RxScConfig => sc.sci == sci) found
  exact ⟨sc, List.mem_of_find?_eq_some found, eq_of_beq own, keyed⟩

theorem KeyedSa.forget {other : UInt8} (keyed : KeyedSa an ki saList) :
    KeyedSa an ki (updateFirst (·.an == other) (fun sa => { sa with pn := none }) saList) := by
  obtain ⟨sa, mem, number, key⟩ := keyed
  rcases updateFirst_mem mem with kept | ⟨-, changed⟩
  · exact ⟨sa, kept, number, key⟩
  · exact ⟨_, changed, number, key⟩

structure Installed (sci : UInt64) (an : UInt8) (ki : KeyId) (old new : List RxScConfig) : Prop
    extends Tends sci old new where
  receives : HasRxSa sci an ki new

theorem Installed.of_tends (tends : Tends sci old new) (installed : Installed sci an ki new rest) :
    Installed sci an ki old rest := ⟨tends.trans installed.toTends, installed.receives⟩

/-- What the installation of receive SAs of one key for a list of SCIs leaves. -/
structure InstalledAll (scis : List Sci) (an : UInt8) (ki : KeyId) (old new : List RxScConfig) : Prop where
  receives : ∀ sci ∈ scis, HasRxSa (sciBe sci) an ki new
  keeps : ∀ sci, HasRxSa sci an ki old → HasRxSa sci an ki new
  channels : ∀ sc ∈ new, (∃ sci ∈ scis, sc.sci = sciBe sci) ∨ ∃ before ∈ old, before.sci = sc.sci

theorem Installed.keeps {other : UInt64} (installed : Installed sci an ki old new)
    (received : HasRxSa other an ki old) : HasRxSa other an ki new := by
  by_cases same : other = sci
  · exact same ▸ installed.receives
  · obtain ⟨sc, mem, own, keyed⟩ := received
    exact ⟨sc, installed.others sc mem (own ▸ same), own, keyed⟩

theorem InstalledAll.cons {peerSci : Sci} {scis : List Sci} (first : Installed (sciBe peerSci) an ki old new)
    (others : InstalledAll scis an ki new rest) : InstalledAll (peerSci :: scis) an ki old rest where
  receives := by
    rw [List.forall_mem_cons]
    exact ⟨others.keeps _ first.receives, others.receives⟩
  keeps sci received := others.keeps sci (first.keeps received)
  channels sc mem := by
    rcases others.channels sc mem with ⟨sci, listed, own⟩ | ⟨middle, known, same⟩
    · exact .inl ⟨sci, List.mem_cons_of_mem _ listed, own⟩
    · rw [← same]
      rcases first.channels middle known with own | before
      · exact .inl ⟨peerSci, List.mem_cons_self, own⟩
      · exact .inr before

end Channels

namespace MacsecDevice

variable {kernel : Kernel} {device : MacsecDevice} {sci : UInt64} {an : UInt8} {ki : KeyId} {sak : Octets}

theorem openRxSc_tends : Tends sci device.rxSc (device.openRxSc sci).rxSc := by
  have added : Tends sci device.rxSc
      (if device.rxSc.any (·.sci == sci) then device.rxSc else device.rxSc ++ [⟨sci, none, []⟩]) := by
    split
    · exact ⟨fun _ mem _ => mem, fun sc mem => .inr ⟨sc, mem, rfl⟩⟩
    · refine ⟨fun sc mem _ => List.mem_append_left _ mem, fun sc mem => ?_⟩
      rcases List.mem_append.mp mem with known | new
      · exact .inr ⟨sc, known, rfl⟩
      · rw [List.mem_singleton.mp new]
        exact .inl rfl
  exact added.trans
    (tends_updateFirst (f := fun sc : RxScConfig => { sc with active := some true }) fun _ => rfl)

theorem rxScOf_openRxSc (sci : UInt64) (device : MacsecDevice) :
    ∃ sc, rxScOf sci (device.openRxSc sci).rxSc = some sc := by
  have present : ∃ sc ∈ (if device.rxSc.any (·.sci == sci) then device.rxSc
      else device.rxSc ++ [⟨sci, none, []⟩]), (sc.sci == sci) = true := by
    split
    · rename_i known
      exact List.any_eq_true.mp known
    · exact ⟨_, List.mem_append_right _ List.mem_cons_self, beq_self_eq_true sci⟩
  obtain ⟨sc, found⟩ := Option.isSome_iff_exists.mp (List.find?_isSome.mpr present)
  refine ⟨{ sc with active := some true }, ?_⟩
  rw [rxScOf, openRxSc, find?_updateFirst fun _ passed => by exact passed]
  exact congrArg (Option.map _) found

section Obliging

variable (obliging : kernel.Obliging)

include obliging

theorem addRxSa_installed (found : rxScOf sci device.rxSc = some sc) :
    Ends (addRxSa kernel sci an ki sak) device fun _ next =>
      Installed sci an ki device.rxSc next.rxSc := by
  have list : (after (addRxSa kernel sci an ki sak) device).rxSc =
      updateSas sci (updateFirst (·.an == an) fun sa => { sa with pn := none })
        (updateSas sci (· ++ [⟨an, some 1, some true, keyidBytes ki, some sak⟩]) device.rxSc) := by
    rw [after, addRxSa, exec_modify_bind, exec_bind_ok (apply_exec obliging)]
    rfl
  change Installed sci an ki device.rxSc (after (addRxSa kernel sci an ki sak) device).rxSc
  rw [list]
  refine ⟨(updateSas_tends _).trans (updateSas_tends _), ?_⟩
  refine hasRxSa_of_rxScOf (rxScOf_updateSas (rxScOf_updateSas found)) (KeyedSa.forget ?_)
  exact ⟨_, List.mem_append_right _ List.mem_cons_self, rfl, rfl⟩

theorem installRxSa_installed {peerSci : Sci} :
    Ends (installRxSa kernel peerSci an ki sak) device fun _ next =>
      Installed (sciBe peerSci) an ki device.rxSc next.rxSc := by
  apply Ends.modify_bind
  apply Ends.get_bind
  dsimp only
  have tends : Tends (sciBe peerSci) device.rxSc _ := openRxSc_tends
  obtain ⟨sc, found⟩ := rxScOf_openRxSc (sciBe peerSci) device
  have list : (((device.openRxSc (sciBe peerSci)).rxSc.find? (·.sci == sciBe peerSci)).map
      (·.saList)).getD [] = sc.saList := by
    rw [show List.find? _ _ = some sc from found]
    rfl
  rw [list]
  rcases held : sc.saList.find? (·.an == an) with _ | sa
  · rw [held]
    exact .of_tends tends (addRxSa_installed obliging found)
  · rw [held]
    refine Ends.ite (fun same => ?_) fun _ => ?_
    · rw [Ends, apply_exec obliging]
      refine ⟨tends, hasRxSa_of_rxScOf found ⟨sa, List.mem_of_find?_eq_some held, ?_, same⟩⟩
      exact eq_of_beq (List.find?_some (p := fun sa : SaConfig => sa.an == an) held)
    · apply Ends.modify_bind
      apply Ends.bind_ok (apply_exec obliging)
      apply (addRxSa_installed obliging (rxScOf_updateSas found)).mono
      exact fun _ _ added => .of_tends (tends.trans (updateSas_tends _)) added

end Obliging

theorem installRxSas_installed {env : MkaEnv} (obliging : env.kernel.Obliging) {scis : List Sci} :
    Ends (installRxSas env scis an ki sak) device fun _ next =>
      InstalledAll scis an ki device.rxSc next.rxSc := by
  induction scis generalizing device with
  | nil => exact ⟨fun _ none => (by cases none), fun _ kept => kept, fun sc mem => .inr ⟨sc, mem, rfl⟩⟩
  | cons sci scis ih =>
    apply Ends.bind_passed (R := fun next => Installed (sciBe sci) an ki device.rxSc next.rxSc)
    · exact ⟨installRxSa_succeeds obliging device, installRxSa_installed obliging⟩
    · intro next first
      exact ih.mono fun _ _ others => InstalledAll.cons first others

section Transmit

/-! The operations on the transmit side leave the channels alone. -/

variable {rxSc : List RxScConfig}

theorem request_keeps_rxSc {call : KernelCall} {context : String} :
    Keeps (fun device => device.rxSc = rxSc) (request kernel call context) := by
  refine Keeps.get_bind fun _ _ => Keeps.bind (Keeps.modify fun _ same => same) fun _ => ?_
  split
  · exact Keeps.pure _
  · exact Keeps.throw _

theorem apply_keeps_rxSc : Keeps (fun device => device.rxSc = rxSc) (apply kernel) :=
  Keeps.get_bind fun _ _ => request_keeps_rxSc

theorem setTxSaActive_keeps_rxSc : Keeps (fun device => device.rxSc = rxSc) (setTxSaActive kernel an) :=
  Keeps.bind (Keeps.modify fun _ same => same) fun _ => Keeps.bind apply_keeps_rxSc fun _ => request_keeps_rxSc

theorem addTxSa_keeps_rxSc {active : Bool} :
    Keeps (fun device => device.rxSc = rxSc) (addTxSa kernel an ki sak active) :=
  Keeps.bind (Keeps.modify fun _ same => same) fun _ => Keeps.bind apply_keeps_rxSc fun _ =>
    Keeps.bind (Keeps.modify fun _ same => same) fun _ => Keeps.when fun _ => request_keeps_rxSc

theorem installTxSa_keeps_rxSc {active : Bool} :
    Keeps (fun device => device.rxSc = rxSc) (installTxSa kernel an ki sak active) := by
  refine Keeps.get_bind fun _ _ => ?_
  split
  · exact addTxSa_keeps_rxSc
  · refine Keeps.ite (fun _ => ?_) fun _ => ?_
    · exact Keeps.bind (Keeps.when fun _ => Keeps.modify fun _ same => same) fun _ =>
        Keeps.bind apply_keeps_rxSc fun _ => Keeps.when fun _ => request_keeps_rxSc
    · exact Keeps.bind (Keeps.modify fun _ same => same) fun _ =>
        Keeps.bind apply_keeps_rxSc fun _ => addTxSa_keeps_rxSc

end Transmit

theorem create_empty {link : LinkConfig} (created : create kernel link = .ok device) :
    device.txSa = [] ∧ device.rxSc = [] := by
  have orderly : SameTx [] (fun _ => True) device := create_orderly created
  refine ⟨orderly.1, ?_⟩
  have kept : Ends (apply kernel) ⟨link, [], [], []⟩ fun _ device => device.rxSc = [] := apply_keeps_rxSc _ rfl
  rw [Ends, create_eq_ok created] at kept
  exact kept

section Removal

variable (obliging : kernel.Obliging)

include obliging

theorem clearSas_exec : (exec (clearSas kernel) device).1 = .ok () ∧
    (after (clearSas kernel) device).txSa = [] ∧ (after (clearSas kernel) device).rxSc = [] := by
  rw [after, clearSas, exec_modify_bind, apply_exec obliging]
  exact ⟨rfl, rfl, rfl⟩

/-- The channels of the listed SCIs go, and the others stay. -/
theorem removeRxScs_ends {scis : List Sci} :
    Ends (scis.forM fun sci => removeRxSc kernel sci) device fun result next =>
      result = .ok () ∧ next.txSa = device.txSa ∧
        ∀ sc, sc ∈ next.rxSc ↔ sc ∈ device.rxSc ∧ ∀ sci ∈ scis, sc.sci ≠ sciBe sci := by
  induction scis generalizing device with
  | nil => exact ⟨rfl, rfl, fun sc => by simp⟩
  | cons sci scis ih =>
    have removed : exec (removeRxSc kernel sci) device = (.ok (), after (removeRxSc kernel sci) device) := by
      rw [after, removeRxSc, exec_modify_bind, apply_exec obliging]
    apply Ends.bind_ok removed
    apply ih.mono
    rintro _ next ⟨done, tx, rx⟩
    rw [after, removeRxSc, exec_modify_bind, apply_exec obliging] at tx rx
    refine ⟨done, tx, fun sc => (rx sc).trans ?_⟩
    rw [List.mem_filter, decide_eq_true_eq, List.forall_mem_cons, and_assoc]

end Removal

section Success

variable {env : MkaEnv} {scis : List Sci} (obliging : env.kernel.Obliging)

include obliging

theorem addTxSa_succeeds : Succeeds (addTxSa env.kernel an ki sak false) :=
  .bind (.modify _) fun _ => .bind (apply_succeeds obliging) fun _ => .bind (.modify _) fun _ _ => rfl

theorem installTxSa_succeeds : Succeeds (installTxSa env.kernel an ki sak false) := by
  intro device
  rw [installTxSa, exec_get_bind]
  split
  · exact addTxSa_succeeds obliging device
  · split
    · refine Succeeds.bind (fun _ => rfl) (fun _ => .bind (apply_succeeds obliging) fun _ _ => rfl) device
    · refine Succeeds.bind (.modify _) (fun _ => .bind (apply_succeeds obliging) fun _ => ?_) device
      exact addTxSa_succeeds obliging

theorem installOwnSak_installed : Ends (installOwnSak env scis an ki sak) device fun result next =>
    result = .ok () ∧ InstalledAll scis an ki device.rxSc next.rxSc := by
  apply Ends.bind_passed (R := fun next => next.rxSc = device.rxSc)
  · exact ⟨installTxSa_succeeds obliging device, installTxSa_keeps_rxSc device rfl⟩
  · intro next same
    rw [← same]
    exact ⟨installRxSas_succeeds obliging next, installRxSas_installed obliging⟩

theorem installClientSak_installed : Ends (installClientSak env scis an ki sak) device fun result next =>
    result = .ok () ∧ InstalledAll scis an ki device.rxSc next.rxSc := by
  apply Ends.bind_passed (R := fun next => InstalledAll scis an ki device.rxSc next.rxSc)
  · exact ⟨installRxSas_succeeds obliging device, installRxSas_installed obliging⟩
  · intro next installed
    have same : (after (installTxSa env.kernel an ki sak false) next).rxSc = next.rxSc :=
      installTxSa_keeps_rxSc next rfl
    exact ⟨installTxSa_succeeds obliging next, same ▸ installed⟩

end Success

end MacsecDevice

end Shuli.Wired
