import Shuli.Wired.MkaActs

/-!
The transmit SAs that the device hands to the kernel. A key that has been activated must not be
installed with packet number 1 again; the operations keep to that as long as no installation is asked
for such a key.
-/

namespace Shuli.Wired

open Fallible

/-- The call installs a transmit SA of this key with packet number 1. -/
def KernelCall.Installs (ki : KeyId) : KernelCall → Prop
  | .apply txSa _ => ∃ sa ∈ txSa, sa.keyId = keyidBytes ki ∧ sa.pn = some 1
  | .setEncodingSa _ => False

/-- The call has the kernel transmit with this key. -/
def KernelCall.Activates (ki : KeyId) : KernelCall → Prop
  | .apply txSa _ => ∃ sa ∈ txSa, sa.keyId = keyidBytes ki ∧ sa.active = some true
  | .setEncodingSa _ => False

instance (ki : KeyId) : (call : KernelCall) → Decidable (call.Installs ki)
  | .apply _ _ => inferInstanceAs (Decidable (∃ _ ∈ _, _))
  | .setEncodingSa _ => isFalse id

instance (ki : KeyId) : (call : KernelCall) → Decidable (call.Activates ki)
  | .apply _ _ => inferInstanceAs (Decidable (∃ _ ∈ _, _))
  | .setEncodingSa _ => isFalse id

/-- No key is installed with packet number 1 after it was activated. -/
def NonceSafe (calls : List KernelCall) : Prop :=
  calls.Pairwise fun earlier later => ∀ ki, earlier.Activates ki → ¬later.Installs ki

theorem NonceSafe.not_installs {calls : List KernelCall} {ki : KeyId} {m n : Nat} {earlier later : KernelCall}
    (safe : NonceSafe calls) (order : m < n) (first : calls[m]? = some earlier)
    (second : calls[n]? = some later) (activates : earlier.Activates ki) : ¬later.Installs ki := by
  obtain ⟨early, rfl⟩ := List.getElem?_eq_some_iff.mp first
  obtain ⟨late, rfl⟩ := List.getElem?_eq_some_iff.mp second
  exact List.pairwise_iff_getElem.mp safe m n early late order ki activates

theorem keyidBytes_injective {first second : KeyId} (same : keyidBytes first = keyidBytes second) :
    first = second := by
  obtain ⟨mi, kn⟩ := List.append_inj same (first.mi.property.trans second.mi.property.symm)
  have number : ofBe32 (be32 first.kn) = ofBe32 (be32 second.kn) := congrArg ofBe32 kn
  rw [ofBe32_be32, ofBe32_be32] at number
  rw [KeyId.mk.injEq]
  exact ⟨Subtype.ext mi, number⟩

/-- The state of the device: no packet number is left in the desired configuration, the ANs are distinct,
and every key that is or was active is one of the sealed keys. -/
structure MacsecDevice.Orderly (barred : KeyId → Prop) (device : MacsecDevice) : Prop where
  numbered : ∀ sa ∈ device.txSa, sa.pn = none
  distinct : (device.txSa.map (·.an)).Nodup
  active : ∀ sa ∈ device.txSa, sa.active = some true → ∀ ki, sa.keyId = keyidBytes ki → barred ki
  called : ∀ call ∈ device.calls, ∀ ki, call.Activates ki → barred ki
  safe : NonceSafe device.calls

namespace MacsecDevice

variable {barred : KeyId → Prop} {kernel : Kernel} {device : MacsecDevice} {an : UInt8} {ki : KeyId}
  {sak : Octets}

theorem Orderly.mono {more : KeyId → Prop} (orderly : device.Orderly barred)
    (wider : ∀ ki, barred ki → more ki) : device.Orderly more :=
  ⟨orderly.numbered, orderly.distinct, fun sa mem active ki same =>
    wider ki (orderly.active sa mem active ki same), fun call mem ki activates =>
    wider ki (orderly.called call mem ki activates), orderly.safe⟩

theorem Orderly.call {call : KernelCall} (orderly : device.Orderly barred)
    (activates : ∀ ki, call.Activates ki → barred ki) (installs : ∀ ki, call.Installs ki → ¬barred ki) :
    { device with calls := device.calls ++ [call] }.Orderly barred := by
  refine ⟨orderly.numbered, orderly.distinct, orderly.active, ?_, ?_⟩
  · intro other mem
    rcases List.mem_append.mp mem with old | new
    · exact orderly.called other old
    · rw [List.mem_singleton.mp new]
      exact activates
  · refine List.pairwise_append.mpr ⟨orderly.safe, List.pairwise_singleton _ _, ?_⟩
    intro earlier old later new ki activated
    rw [List.mem_singleton.mp new]
    exact fun installed => installs ki installed (orderly.called earlier old ki activated)

/-- What an operation on the receive side may do: calls with the same transmit SAs. -/
def SameTx (txSa : List SaConfig) (barred : KeyId → Prop) (device : MacsecDevice) : Prop :=
  device.txSa = txSa ∧ device.Orderly barred

variable {txSa : List SaConfig}

theorem request_orderly {call : KernelCall} {context : String}
    (activates : ∀ ki, call.Activates ki → barred ki) (installs : ∀ ki, call.Installs ki → ¬barred ki) :
    Keeps (SameTx txSa barred) (request kernel call context) := by
  apply Keeps.get_bind
  intro device kept
  apply Keeps.bind
  · exact Keeps.modify fun device kept => ⟨kept.1, kept.2.call activates installs⟩
  · intro _
    split
    · exact Keeps.pure _
    · exact Keeps.throw _

theorem apply_orderly : Keeps (SameTx txSa barred) (apply kernel) := by
  apply Keeps.get_bind
  intro device kept
  apply request_orderly
  · rintro ki ⟨sa, mem, same, active⟩
    exact kept.2.active sa mem active ki same
  · rintro ki ⟨sa, mem, -, number⟩
    rw [kept.2.numbered sa mem] at number
    cases number

theorem setEncodingSa_orderly :
    Keeps (SameTx txSa barred) (setEncodingSa kernel an) :=
  request_orderly (fun _ none => none.elim) fun _ none => none.elim

theorem SameTx.modifyRx {f : MacsecDevice → MacsecDevice}
    (tx : ∀ device, (f device).txSa = device.txSa) (calls : ∀ device, (f device).calls = device.calls) :
    Keeps (SameTx txSa barred) (modify f : Device PUnit) := by
  apply Keeps.modify
  rintro device ⟨same, orderly⟩
  refine ⟨(tx device).trans same, ?_, ?_, ?_, ?_, ?_⟩
  · rw [tx]; exact orderly.numbered
  · rw [tx]; exact orderly.distinct
  · rw [tx]; exact orderly.active
  · rw [calls]; exact orderly.called
  · rw [calls]; exact orderly.safe

theorem removeRxSc_orderly {sci : Sci} :
    Keeps (SameTx txSa barred) (removeRxSc kernel sci) :=
  Keeps.bind (SameTx.modifyRx (fun _ => rfl) fun _ => rfl) fun _ => apply_orderly

theorem addRxSa_orderly {sci : UInt64} :
    Keeps (SameTx txSa barred) (addRxSa kernel sci an ki sak) :=
  Keeps.bind (SameTx.modifyRx (fun _ => rfl) fun _ => rfl) fun _ =>
    Keeps.bind apply_orderly fun _ => SameTx.modifyRx (fun _ => rfl) fun _ => rfl

theorem installRxSa_orderly {sci : Sci} :
    Keeps (SameTx txSa barred) (installRxSa kernel sci an ki sak) := by
  refine Keeps.bind (SameTx.modifyRx (fun _ => rfl) fun _ => rfl) fun _ => ?_
  apply Keeps.get_bind
  intro device kept
  dsimp only
  split
  · exact addRxSa_orderly
  · apply Keeps.ite
    · exact fun _ => apply_orderly
    · exact fun _ => Keeps.bind (SameTx.modifyRx (fun _ => rfl) fun _ => rfl) fun _ =>
        Keeps.bind apply_orderly fun _ => addRxSa_orderly

theorem forM_orderly {α : Type} {list : List α} {f : α → Device PUnit}
    (each : ∀ a, Keeps (SameTx txSa barred) (f a)) : Keeps (SameTx txSa barred) (list.forM f) := by
  induction list with
  | nil => exact Keeps.pure _
  | cons a list ih => exact Keeps.bind (each a) fun _ => ih

theorem create_eq_ok {link : LinkConfig} (created : create kernel link = .ok device) :
    exec (apply kernel) ⟨link, [], [], []⟩ = (.ok (), device) := by
  obtain ⟨_, -, created⟩ := Except.bind_eq_ok.mp created
  rcases outcome : exec (apply kernel) ⟨link, [], [], []⟩ with ⟨e | ⟨⟩, next⟩
  · rw [outcome] at created
    cases created
  · rw [outcome] at created
    cases created
    rfl

theorem create_orderly {link : LinkConfig} (created : create kernel link = .ok device) :
    SameTx [] barred device := by
  have empty : SameTx [] barred ⟨link, [], [], []⟩ :=
    ⟨rfl, List.forall_mem_nil _, List.nodup_nil, List.forall_mem_nil _, List.forall_mem_nil _, .nil⟩
  have applied : Ends (apply kernel) ⟨link, [], [], []⟩ fun _ => SameTx [] barred :=
    apply_orderly.ends empty
  rw [Ends, create_eq_ok created] at applied
  exact applied

theorem clearSas_orderly (orderly : device.Orderly barred) :
    (after (clearSas kernel) device).txSa = [] ∧ (after (clearSas kernel) device).Orderly barred := by
  have cleared : SameTx [] barred { device with txSa := [], rxSc := [] } :=
    ⟨rfl, List.forall_mem_nil _, List.nodup_nil, List.forall_mem_nil _, orderly.called, orderly.safe⟩
  have ends : Ends (clearSas kernel) device fun _ => SameTx [] barred := by
    exact apply_orderly.ends cleared
  exact ends

theorem mem_activateTxSa {sa : SaConfig} (mem : sa ∈ (activateTxSa an device).txSa) :
    ∃ old ∈ device.txSa, sa.an = old.an ∧ sa.pn = old.pn ∧ sa.keyId = old.keyId ∧
      (sa.active = old.active ∨ old.an = an) := by
  rcases mem_updateFirst mem with old | ⟨old, found, rfl⟩
  · exact ⟨sa, old, rfl, rfl, rfl, .inl rfl⟩
  · have passed := List.find?_some (p := fun sa : SaConfig => sa.an == an) found
    exact ⟨old, List.mem_of_find?_eq_some found, rfl, rfl, rfl, .inr (eq_of_beq passed)⟩

/-- An active SA gets its key barred. -/
theorem setTxSaActive_orderly (orderly : device.Orderly barred)
    (chosen : ∀ sa ∈ device.txSa, sa.an = an → ∀ ki, sa.keyId = keyidBytes ki → barred ki) :
    (after (setTxSaActive kernel an) device).Orderly barred ∧
      (after (setTxSaActive kernel an) device).txSa = (activateTxSa an device).txSa := by
  have activated : SameTx (activateTxSa an device).txSa barred (activateTxSa an device) := by
    refine ⟨rfl, ?_, ?_, ?_, orderly.called, orderly.safe⟩
    · intro sa mem
      obtain ⟨old, inside, -, number, -⟩ := mem_activateTxSa mem
      exact number.trans (orderly.numbered old inside)
    · rw [activateTxSa, map_updateFirst]
      · exact orderly.distinct
      · exact fun _ => rfl
    · intro sa mem active ki same
      obtain ⟨old, inside, -, -, key, kept | named⟩ := mem_activateTxSa mem
      · exact orderly.active old inside (kept ▸ active) ki (key ▸ same)
      · exact chosen old inside named ki (key ▸ same)
  have ends : Ends (setTxSaActive kernel an) device fun _ =>
      SameTx (activateTxSa an device).txSa barred := by
    exact (Keeps.bind apply_orderly fun _ => setEncodingSa_orderly).ends activated
  exact ⟨ends.2, ends.1⟩

/-- The device is in order, and the SA of the AN has this key. -/
def Keyed (barred : KeyId → Prop) (an : UInt8) (ki : KeyId) (device : MacsecDevice) : Prop :=
  device.Orderly barred ∧ ∀ sa ∈ device.txSa, sa.an = an → sa.keyId = keyidBytes ki

section Install

variable (obliging : kernel.Obliging) (fresh : ¬barred ki)

include obliging

theorem apply_exec : exec (apply kernel) device =
    (.ok (), { device with calls := device.calls ++ [.apply device.txSa device.rxSc] }) := by
  rw [apply, exec_get_bind, request_exec obliging]

include fresh

theorem addTxSa_orderly (orderly : device.Orderly barred) (absent : ∀ sa ∈ device.txSa, sa.an ≠ an) :
    Ends (addTxSa kernel an ki sak false) device fun _ => Keyed barred an ki := by
  let sa : SaConfig := ⟨an, some 1, some false, keyidBytes ki, some sak⟩
  let call : KernelCall := .apply (device.txSa ++ [sa]) device.rxSc
  have result : after (addTxSa kernel an ki sak false) device =
      { device with
        txSa := device.txSa ++ [{ sa with pn := none }]
        calls := device.calls ++ [call] } := by
    have forgotten : updateFirst (·.an == an) (fun sa => { sa with pn := none }) (device.txSa ++ [sa]) =
        device.txSa ++ [{ sa with pn := none }] := by
      apply updateFirst_append
      · exact fun sa mem => beq_eq_false_iff_ne.mpr (absent sa mem)
      · exact beq_self_eq_true an
    rw [after, addTxSa, exec_modify_bind, exec_bind_ok (apply_exec obliging)]
    rw [← forgotten]
    rfl
  change Keyed barred an ki (after (addTxSa kernel an ki sak false) device)
  rw [result]
  have called : { device with calls := device.calls ++ [call] }.Orderly barred := by
    apply orderly.call
    · rintro other ⟨entry, mem, same, active⟩
      rcases List.mem_append.mp mem with old | new
      · exact orderly.active entry old active other same
      · rw [List.mem_singleton.mp new] at active
        cases active
    · rintro other ⟨entry, mem, same, number⟩ activated
      rcases List.mem_append.mp mem with old | new
      · rw [orderly.numbered entry old] at number
        cases number
      · rw [List.mem_singleton.mp new] at same
        rw [← keyidBytes_injective same] at activated
        exact fresh activated
  refine ⟨⟨?_, ?_, ?_, called.called, called.safe⟩, ?_⟩
  · intro entry mem
    rcases List.mem_append.mp mem with old | new
    · exact orderly.numbered entry old
    · rw [List.mem_singleton.mp new]
  · rw [List.map_append, List.nodup_append]
    refine ⟨orderly.distinct, List.nodup_singleton _, fun number inside other new => ?_⟩
    obtain ⟨entry, mem, rfl⟩ := List.mem_map.mp inside
    rw [List.map_cons, List.map_nil, List.mem_singleton] at new
    rw [new]
    exact absent entry mem
  · intro entry mem active
    rcases List.mem_append.mp mem with old | new
    · exact orderly.active entry old active
    · rw [List.mem_singleton.mp new] at active
      cases active
  · intro entry mem named
    rcases List.mem_append.mp mem with old | new
    · exact absurd named (absent entry old)
    · rw [List.mem_singleton.mp new]

/-- The installation of a key that is not barred. -/
theorem installTxSa_orderly (orderly : device.Orderly barred) :
    Ends (installTxSa kernel an ki sak false) device fun _ => Keyed barred an ki := by
  apply Ends.get_bind
  split
  · rename_i found
    apply addTxSa_orderly obliging fresh orderly
    intro sa mem
    have other := List.find?_eq_none.mp found sa mem
    exact fun same => other (beq_iff_eq.mpr same)
  · rename_i old found
    apply Ends.ite
    · intro same
      have idle {x : Device Unit} : Keeps (SameTx device.txSa barred) (Fallible.when (false = true) x) :=
        Keeps.when fun no => absurd no Bool.false_ne_true
      apply ((Keeps.bind idle fun _ => Keeps.bind apply_orderly fun _ => idle).ends ⟨rfl, orderly⟩).mono
      rintro _ after ⟨unchanged, kept⟩
      refine ⟨kept, fun sa mem named => ?_⟩
      rw [unchanged] at mem
      have first := (find?_eq_some_iff_of_nodup orderly.distinct).mpr ⟨mem, named⟩
      rw [← Option.some.inj (found.symm.trans first)]
      exact same
    · intro _
      apply Ends.modify_bind
      have erased : SameTx (device.txSa.eraseP (·.an == an)) barred
          { device with txSa := device.txSa.eraseP (·.an == an) } := by
        have part : device.txSa.eraseP (·.an == an) ⊆ device.txSa := List.eraseP_subset
        exact ⟨rfl, fun sa mem => orderly.numbered sa (part mem),
          orderly.distinct.sublist (List.eraseP_sublist.map _),
          fun sa mem => orderly.active sa (part mem), orderly.called, orderly.safe⟩
      have applied : Ends (apply kernel) _ fun _ => SameTx _ barred := apply_orderly.ends erased
      rw [Ends, apply_exec obliging] at applied
      rw [Ends, exec_bind_ok (apply_exec obliging)]
      apply addTxSa_orderly obliging fresh applied.2
      exact fun sa mem => ne_of_mem_eraseP orderly.distinct mem

end Install

section Session

variable {env : MkaEnv} {scis : List Sci} (obliging : env.kernel.Obliging) (fresh : ¬barred ki)

def Succeeds (x : Device Unit) : Prop := ∀ device, (exec x device).1 = .ok ()

theorem Succeeds.bind {x : Device Unit} {f : Unit → Device Unit} (first : Succeeds x)
    (rest : ∀ a, Succeeds (f a)) : Succeeds (x >>= f) := by
  intro device
  have passed := first device
  rw [exec_bind]
  rcases outcome : exec x device with ⟨e | a, next⟩
  · rw [outcome] at passed
    cases passed
  · exact rest a next

theorem Succeeds.modify (f : MacsecDevice → MacsecDevice) : Succeeds (modify f : Device PUnit) :=
  fun _ => rfl

include obliging

theorem apply_succeeds : Succeeds (apply env.kernel) := fun _ => congrArg Prod.fst (apply_exec obliging)

theorem addRxSa_succeeds {sci : UInt64} : Succeeds (addRxSa env.kernel sci an ki sak) :=
  .bind (.modify _) fun _ => .bind (apply_succeeds obliging) fun _ => .modify _

theorem installRxSa_succeeds {sci : Sci} : Succeeds (installRxSa env.kernel sci an ki sak) := by
  refine .bind (.modify _) fun _ device => ?_
  rw [exec_get_bind]
  dsimp only
  split
  · exact addRxSa_succeeds obliging device
  · split
    · exact apply_succeeds obliging device
    · exact Succeeds.bind (.modify _)
        (fun _ => .bind (apply_succeeds obliging) fun _ => addRxSa_succeeds obliging) device

theorem installRxSas_succeeds : Succeeds (installRxSas env scis an ki sak) := by
  induction scis with
  | nil => exact fun _ => rfl
  | cons sci scis ih => exact .bind (installRxSa_succeeds obliging) fun _ => ih

include fresh

/-- A SAK of the participant's own is installed. -/
theorem installOwnSak_orderly (orderly : device.Orderly barred) :
    Ends (installOwnSak env scis an ki sak) device fun _ => Keyed barred an ki := by
  apply Ends.bind (installTxSa_orderly obliging fresh orderly)
  · exact fun _ _ installed => installed
  · rintro _ device ⟨orderly, named⟩
    apply ((forM_orderly fun _ => installRxSa_orderly).ends ⟨rfl, orderly⟩).mono
    rintro _ after ⟨same, kept⟩
    rw [← same] at named
    exact ⟨kept, named⟩

/-- A distributed SAK is installed. -/
theorem installClientSak_orderly (orderly : device.Orderly barred) :
    Ends (installClientSak env scis an ki sak) device fun _ => Keyed barred an ki := by
  apply Ends.bind_passed (R := Orderly barred)
  · refine ⟨installRxSas_succeeds obliging device, ?_⟩
    exact ((forM_orderly fun _ => installRxSa_orderly).ends
      (show SameTx device.txSa barred device from ⟨rfl, orderly⟩)).2
  · exact fun _ installed => installTxSa_orderly obliging fresh installed

end Session

end MacsecDevice

end Shuli.Wired
