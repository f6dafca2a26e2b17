import Mathlib.Data.List.Perm.Basic
import Shuli.Ipsec.XfrmCalls
import Shuli.Runs

/-!
What the kernel holds over a whole run of `install` and `remove` calls. SAs are found by destination, SPI
and mark, policies by direction and selector. A Child SA that replaces another one has its selectors, and so
its policies have the same keys: they overwrite those of the old Child SA, and are deleted with them. The
tables hold what belongs to the installed Child SAs as long as no two of them share such a key.
-/

namespace Shuli.Ipsec.Xfrm

open Fallible

/-! Calls -/

/-- A Child SA that was installed and not yet removed. -/
structure OwnedChild where
  child : ChildSaHandle
  spec : InstallSpec
  record : InstalledChildSa
  deriving DecidableEq, Repr

def childSas (child : ChildSaHandle) (spec : InstallSpec) : List SaMessage :=
  match buildState child spec true, buildState child spec false with
  | .ok outbound, .ok inbound => [outbound, inbound]
  | _, _ => []

namespace OwnedChild

def sas (owned : OwnedChild) : List SaMessage := childSas owned.child owned.spec

def policies (owned : OwnedChild) : List PolicyMessage := childPolicies owned.child owned.spec

end OwnedChild

/-- The manager and the Child SAs that its caller holds. -/
structure XfrmStore where
  manager : XfrmManager
  owned : List OwnedChild
  deriving DecidableEq, Repr

inductive XfrmCall
  | install (child : ChildSaHandle) (spec : InstallSpec)
  | remove (index : Nat)
  deriving DecidableEq, Repr

namespace XfrmStore

def start : XfrmStore := ⟨.start, []⟩

def step (kernel : XfrmKernel) (store : XfrmStore) : XfrmCall → XfrmStore
  | .install child spec =>
    match exec (Xfrm.install kernel child spec) store.manager with
    | (.ok record, manager) => ⟨manager, store.owned ++ [⟨child, spec, record⟩]⟩
    | (.error _, manager) => { store with manager }
  | .remove index =>
    match store.owned[index]? with
    | none => store
    | some owned =>
      match store.manager.remove kernel owned.record with
      | (none, manager) => ⟨manager, store.owned.eraseIdx index⟩
      | (some _, manager) => { store with manager }

def succeeds (kernel : XfrmKernel) (store : XfrmStore) : XfrmCall → Bool
  | .install child spec => (exec (Xfrm.install kernel child spec) store.manager).1.isOk
  | .remove index => store.owned[index]?.any fun owned =>
    (store.manager.remove kernel owned.record).1.isNone

structure Holds (store : XfrmStore) : Prop where
  sas : ∀ sa, sa ∈ store.manager.tables.sas ↔ ∃ owned ∈ store.owned, sa ∈ owned.sas
  policies : ∀ policy, policy ∈ store.manager.tables.policies ↔ ∃ owned ∈ store.owned, policy ∈ owned.policies

end XfrmStore

/-! What is not shared -/

def SaMessage.meets (new other : SaMessage) : Bool :=
  other.isAt new.destination new.spi new.lookupMark

/-- The SAs of a new Child SA meet none that is there nor each other, and its policies take the place of no
other policy. -/
def Fresh (child : ChildSaHandle) (spec : InstallSpec) (owned : List OwnedChild) : Prop :=
  (childSas child spec).Pairwise (fun first second => second.meets first = false) ∧
    ∀ other ∈ owned, (∀ new ∈ childSas child spec, ∀ sa ∈ other.sas, new.meets sa = false) ∧
      Agree PolicyMessage.key other.policies (childPolicies child spec)

/-- What `remove` deletes by the record of one Child SA is not of the other one. -/
def Apart (owned other : OwnedChild) : Prop :=
  (∀ policy ∈ other.policies, policy.key ∉ owned.record.records.map PolicyRecord.deleteKey) ∧
    ∀ sa ∈ other.sas, owned.record.outboundId.finds sa = false ∧ owned.record.inboundId.finds sa = false

instance (child : ChildSaHandle) (spec : InstallSpec) (owned : List OwnedChild) :
    Decidable (Fresh child spec owned) :=
  inferInstanceAs (Decidable (_ ∧ ∀ other ∈ owned, _ ∧ _))

instance (owned other : OwnedChild) : Decidable (Apart owned other) :=
  inferInstanceAs (Decidable (_ ∧ _))

/-- The Child SA of a call shares no place in the kernel's tables with another one. -/
def Unshared (store : XfrmStore) : XfrmCall → Prop
  | .install child spec => Fresh child spec store.owned
  | .remove index => ∀ owned ∈ store.owned[index]?, ∀ other ∈ store.owned.eraseIdx index, Apart owned other

instance (store : XfrmStore) : (call : XfrmCall) → Decidable (Unshared store call)
  | .install child spec => inferInstanceAs (Decidable (Fresh child spec store.owned))
  | .remove index => inferInstanceAs (Decidable (∀ owned ∈ store.owned[index]?, _))

/-! What the records say of a Child SA -/

variable {child : ChildSaHandle} {spec : InstallSpec}

theorem buildState_eq_ok {outbound : Bool} {sa : SaMessage} (built : buildState child spec outbound = .ok sa) :
    sa.destination = (if outbound then spec.remoteAddress else spec.localAddress) ∧
      sa.spi = (if outbound then child.remoteSpi else child.localSpi) ∧ sa.mark = spec.xfrmMark := by
  cases outbound <;>
    obtain ⟨selector, _, rest⟩ := Except.bind_eq_ok.mp built <;>
    obtain ⟨integrity, _, done⟩ := Except.bind_eq_ok.mp rest <;>
    cases done <;>
    exact ⟨rfl, rfl, rfl⟩

/-- The record that `install` returns is that of the Child SA. -/
structure OwnedChild.Recorded (owned : OwnedChild) : Prop where
  outbound : owned.record.outboundId =
    outboundRecord owned.spec.localAddress owned.spec.remoteAddress owned.child.remoteSpi
  inbound : owned.record.inboundId =
    inboundRecord owned.spec.localAddress owned.spec.remoteAddress owned.child.localSpi
  messages : ∀ policy, policy ∈ owned.policies ↔ policy ∈ owned.record.records.map PolicyRecord.message
  made : ∀ record ∈ owned.record.records, RecordOf owned.spec record

theorem childPolicies_key {policy : PolicyMessage} (mem : policy ∈ childPolicies child spec) :
    policy = policyMessage spec policy.key.direction policy.key.selector := by
  obtain ⟨pair, _, mem⟩ := List.mem_flatMap.mp mem
  simp only [pairPolicies, List.mem_append, List.mem_cons, List.not_mem_nil, or_false, List.mem_ite_nil_right] at mem
  rcases mem with (rfl | rfl) | ⟨_, rfl | rfl⟩ <;> rfl

theorem childPolicies_agree (child : ChildSaHandle) (spec : InstallSpec) :
    Agree PolicyMessage.key (childPolicies child spec) (childPolicies child spec) := by
  intro one first other second same
  rw [childPolicies_key first, childPolicies_key second, same]

theorem childSas_place {sa : SaMessage} (mem : sa ∈ childSas child spec) : sa.mark = spec.xfrmMark ∧
      (sa.destination = spec.remoteAddress ∧ sa.spi = child.remoteSpi ∨
        sa.destination = spec.localAddress ∧ sa.spi = child.localSpi) := by
  unfold childSas at mem
  split at mem
  · rename_i outbound inbound builtOutbound builtInbound
    rcases List.mem_pair.mp mem with rfl | rfl
    · obtain ⟨destination, spi, mark⟩ := buildState_eq_ok builtOutbound
      exact ⟨mark, .inl ⟨destination, spi⟩⟩
    · obtain ⟨destination, spi, mark⟩ := buildState_eq_ok builtInbound
      exact ⟨mark, .inr ⟨destination, spi⟩⟩
  · cases mem

/-! Installing -/

variable {kernel : XfrmKernel}

theorem putSa_fresh {sas : List SaMessage} {message : SaMessage}
    (fresh : ∀ sa ∈ sas, message.meets sa = false) : putSa kernel sas message = sas ++ [message] := by
  refine if_neg fun present => ?_
  obtain ⟨sa, mem, found⟩ := List.any_eq_true.mp present
  exact absurd found (by rw [← SaMessage.meets, fresh sa mem]; exact Bool.false_ne_true)

variable {store : XfrmStore}

theorem XfrmStore.Holds.install {record : InstalledChildSa} {after : XfrmManager} (holds : store.Holds)
    (fresh : Fresh child spec store.owned)
    (done : exec (Xfrm.install kernel child spec) store.manager = (.ok record, after)) :
    XfrmStore.Holds ⟨after, store.owned ++ [⟨child, spec, record⟩]⟩ ∧
      OwnedChild.Recorded ⟨child, spec, record⟩ := by
  obtain ⟨outbound, inbound, added, builtOutbound, builtInbound, extended, tables⟩ := install_eq_ok done
  have sas : childSas child spec = [outbound, inbound] := by
    simp only [childSas, builtOutbound, builtInbound]
  obtain ⟨distinct, others⟩ := fresh
  have newOutbound : ∀ sa ∈ store.manager.tables.sas, outbound.meets sa = false := by
    intro sa mem
    obtain ⟨other, held, mem⟩ := (holds.sas sa).mp mem
    exact (others other held).1 outbound (by simp [sas]) sa mem
  have newInbound : ∀ sa ∈ store.manager.tables.sas ++ [outbound], inbound.meets sa = false := by
    intro sa mem
    rcases List.mem_append.mp mem with mem | mem
    · obtain ⟨other, held, mem⟩ := (holds.sas sa).mp mem
      exact (others other held).1 inbound (by simp [sas]) sa mem
    · rw [List.mem_singleton.mp mem]
      simpa [sas] using distinct
  have agree : Agree PolicyMessage.key store.manager.tables.policies (childPolicies child spec) := by
    intro policy mem
    obtain ⟨other, held, mem⟩ := (holds.policies policy).mp mem
    exact (others other held).2 policy mem
  rw [putSa_fresh newOutbound, putSa_fresh newInbound] at tables
  refine ⟨⟨fun sa => ?_, fun policy => ?_⟩, ?_⟩
  · simp only [tables, List.mem_append, holds.sas, or_and_right, exists_or, List.mem_singleton, exists_eq_left,
      OwnedChild.sas, sas, List.mem_pair, or_assoc]
  · simp only [tables, mem_foldl_put (childPolicies_agree child spec) agree, holds.policies,
      List.mem_append, or_and_right, exists_or, List.mem_singleton, exists_eq_left]
    rfl
  · have records (record' : PolicyRecord) : record' ∈ record.records ↔ record' ∈ added := by
      rw [extended.records]
      simp [InstalledChildSa.records, InstalledChildSa.bare]
    refine ⟨extended.ids.2, extended.ids.1, fun policy => ?_, fun record' mem =>
      extended.made record' ((records record').mp mem)⟩
    rw [OwnedChild.policies, childPolicies, ← extended.messages]
    simp only [List.mem_map, records]

/-! Removing -/

variable {owned : OwnedChild}

variable {index : Nat}

theorem mem_owned (there : store.owned[index]? = some owned) (other : OwnedChild) :
    other ∈ store.owned ↔ other = owned ∨ other ∈ store.owned.eraseIdx index := by
  obtain ⟨bound, rfl⟩ := List.getElem?_eq_some_iff.mp there
  exact (List.getElem_cons_eraseIdx_perm bound).mem_iff.symm.trans List.mem_cons

theorem XfrmStore.Holds.own_sa (holds : store.Holds) (there : store.owned[index]? = some owned)
    (apart : ∀ other ∈ store.owned.eraseIdx index, Apart owned other) {sa : SaMessage}
    (mem : sa ∈ store.manager.tables.sas) (found : owned.record.inboundId.finds sa = true) : sa ∈ owned.sas := by
  obtain ⟨other, held, mem⟩ := (holds.sas sa).mp mem
  rcases (mem_owned there other).mp held with rfl | rest
  · exact mem
  · rw [((apart other rest).2 sa mem).2] at found
    cases found

theorem XfrmStore.Holds.own_policy (holds : store.Holds) (there : store.owned[index]? = some owned)
    (apart : ∀ other ∈ store.owned.eraseIdx index, Apart owned other) {policy : PolicyMessage} {record : PolicyRecord}
    (kept : record ∈ owned.record.records) (mem : policy ∈ store.manager.tables.policies)
    (found : policy.key = record.deleteKey) :
    policy ∈ owned.policies := by
  obtain ⟨other, held, mem⟩ := (holds.policies policy).mp mem
  rcases (mem_owned there other).mp held with rfl | rest
  · exact mem
  · exact absurd (found ▸ List.mem_map_of_mem kept) ((apart other rest).1 policy mem)

theorem OwnedChild.Recorded.finds (recorded : owned.Recorded) {found sa : SaMessage} (own : found ∈ owned.sas)
    (by_ : owned.record.inboundId.finds found = true) (mem : sa ∈ owned.sas) :
    owned.record.outboundId.finds sa = true ∨ owned.record.inboundId.finds sa = true := by
  simp only [SaRecord.finds, SaMessage.isAt, Bool.and_eq_true] at by_
  obtain ⟨mark, place⟩ := childSas_place mem
  rw [(childSas_place own).1, ← mark] at by_
  rcases place with ⟨destination, spi⟩ | ⟨destination, spi⟩
  · left
    simp only [SaRecord.finds, SaMessage.isAt, recorded.outbound, outboundRecord, destination, spi, BEq.rfl,
      Bool.true_and, by_.2]
  · right
    simp only [SaRecord.finds, SaMessage.isAt, recorded.inbound, inboundRecord, destination, spi, BEq.rfl,
      Bool.true_and, by_.2]

theorem OwnedChild.Recorded.deletes (recorded : owned.Recorded)
    {policy found : PolicyMessage} {record : PolicyRecord} (kept : record ∈ owned.record.records)
    (own : found ∈ owned.policies) (same : found.key = record.deleteKey) (message : record.message = policy) :
    policy.key ∈ owned.record.records.map PolicyRecord.deleteKey := by
  have made := recorded.made record kept
  rw [childPolicies_key own] at same
  have mark : markOf owned.spec.xfrmMark = ⟨0, 0⟩ := congrArg PolicyKey.mark same
  refine List.mem_map.mpr ⟨record, kept, ?_⟩
  rw [← message, made.message, policyMessage_key, mark, PolicyRecord.deleteKey, made.ifId]

theorem XfrmStore.Holds.remove {after : XfrmManager} (holds : store.Holds) (recorded : owned.Recorded)
    (there : store.owned[index]? = some owned) (apart : ∀ other ∈ store.owned.eraseIdx index, Apart owned other)
    (done : store.manager.remove kernel owned.record = (none, after)) :
    XfrmStore.Holds ⟨after, store.owned.eraseIdx index⟩ := by
  obtain ⟨policies, ⟨inbound, mem, found⟩, tables⟩ := remove_eq_none done
  have own := holds.own_sa there apart mem found
  refine ⟨fun sa => ?_, fun policy => ?_⟩
  · simp only [tables, List.mem_filter, Bool.and_eq_true, Bool.not_eq_true']
    constructor
    · rintro ⟨mem, missed⟩
      obtain ⟨other, held, mem⟩ := (holds.sas sa).mp mem
      rcases (mem_owned there other).mp held with rfl | rest
      · have hit := recorded.finds own found mem
        simp [missed] at hit
      · exact ⟨other, rest, mem⟩
    · rintro ⟨other, rest, mem⟩
      exact ⟨(holds.sas sa).mpr ⟨other, (mem_owned there other).mpr (.inr rest), mem⟩, (apart other rest).2 sa mem⟩
  · simp only [tables, List.mem_filter, decide_eq_true_eq]
    constructor
    · rintro ⟨mem, missed⟩
      obtain ⟨other, held, mem⟩ := (holds.policies policy).mp mem
      rcases (mem_owned there other).mp held with rfl | rest
      · obtain ⟨record, kept, message⟩ := List.mem_map.mp ((recorded.messages policy).mp mem)
        obtain ⟨deleted, held, same⟩ := policies record kept
        exact absurd (recorded.deletes kept (holds.own_policy there apart kept held same) same message) missed
      · exact ⟨other, rest, mem⟩
    · rintro ⟨other, rest, mem⟩
      exact ⟨(holds.policies policy).mpr ⟨other, (mem_owned there other).mpr (.inr rest), mem⟩,
        (apart other rest).1 policy mem⟩

/-! Runs -/

/-- The tables hold what is owned, and the records are those of the owned Child SAs. -/
def XfrmStore.Sound (store : XfrmStore) : Prop := store.Holds ∧ ∀ owned ∈ store.owned, owned.Recorded

theorem XfrmStore.Sound.step {call : XfrmCall} (sound : store.Sound)
    (succeeds : store.succeeds kernel call = true) (unshared : Unshared store call) :
    (store.step kernel call).Sound := by
  obtain ⟨holds, recorded⟩ := sound
  cases call with
  | install child spec =>
    simp only [XfrmStore.succeeds] at succeeds
    simp only [XfrmStore.step]
    rcases done : exec (Xfrm.install kernel child spec) store.manager with ⟨error | record, after⟩
    · rw [done] at succeeds
      cases succeeds
    · obtain ⟨holds, new⟩ := holds.install unshared done
      refine ⟨holds, fun owned mem => ?_⟩
      rcases List.mem_append.mp mem with old | mem
      · exact recorded owned old
      · rw [List.mem_singleton.mp mem]
        exact new
  | remove index =>
    simp only [XfrmStore.succeeds] at succeeds
    simp only [XfrmStore.step]
    rcases there : store.owned[index]? with _ | owned
    · rw [there] at succeeds
      cases succeeds
    · rw [there] at succeeds
      rcases done : store.manager.remove kernel owned.record with ⟨_ | error, after⟩
      · simp only [done]
        exact ⟨holds.remove (recorded owned ((mem_owned there owned).mpr (.inl rfl))) there
          (unshared owned there) done, fun other mem => recorded other ((mem_owned there other).mpr (.inr mem))⟩
      · simp [done] at succeeds

/-- The kernel holds exactly the SAs and policies of the installed Child SAs after every run of successful
calls in which no Child SA shares its place with another. -/
theorem tables_hold_installed (kernel : XfrmKernel) (calls : List XfrmCall)
    (succeed : Admitted (XfrmStore.step kernel) (fun store call => store.succeeds kernel call = true) .start calls)
    (unshared : Admitted (XfrmStore.step kernel) Unshared .start calls) :
    (runInputs (XfrmStore.step kernel) .start calls).Holds := by
  have sound : (runInputs (XfrmStore.step kernel) .start calls).Sound := by
    refine run_invariant (fun store call sound admitted => sound.step admitted.1 admitted.2) ?_ (succeed.and unshared)
    refine ⟨⟨fun sa => ?_, fun policy => ?_⟩, fun owned mem => ?_⟩
    · simp [XfrmStore.start, XfrmManager.start]
    · simp [XfrmStore.start, XfrmManager.start]
    · cases mem
  exact sound.1

def disjointCalls : List XfrmCall :=
  [.install (sampleChild 1 2 0x0A010000 0x0A0100FF) sampleSpec,
    .install (sampleChild 3 4 0x0A030000 0x0A0300FF) sampleSpec, .remove 0]

theorem tables_hold_disjoint :
    (runInputs (XfrmStore.step obligingKernel) .start disjointCalls).owned.length = 1 ∧
      (runInputs (XfrmStore.step obligingKernel) .start disjointCalls).Holds :=
  ⟨by decide +kernel, tables_hold_installed obligingKernel disjointCalls (by decide +kernel) (by decide +kernel)⟩

def rekeyCalls : List XfrmCall :=
  [.install (sampleChild 1 2 0x0A010000 0x0A0100FF) sampleSpec,
    .install (sampleChild 3 4 0x0A010000 0x0A0100FF) sampleSpec, .remove 0]

/-- The rekey leaves the new Child SA without its policies, although every request succeeded. -/
theorem rekey_deletes_policies :
    Admitted (XfrmStore.step obligingKernel) (fun store call => store.succeeds obligingKernel call = true)
        .start rekeyCalls ∧
      (runInputs (XfrmStore.step obligingKernel) .start rekeyCalls).owned.length = 1 ∧
      (runInputs (XfrmStore.step obligingKernel) .start rekeyCalls).manager.tables.policies = [] ∧
      ¬(runInputs (XfrmStore.step obligingKernel) .start rekeyCalls).Holds := by
  refine ⟨by decide +kernel, by decide +kernel, by decide +kernel, fun holds => ?_⟩
  have gone : (runInputs (XfrmStore.step obligingKernel) .start rekeyCalls).manager.tables.policies = [] := by
    decide +kernel
  have owns : ∃ policy, ∃ owned ∈ (runInputs (XfrmStore.step obligingKernel) .start rekeyCalls).owned,
      policy ∈ owned.policies :=
    ⟨policyMessage sampleSpec .out (selectorOf
      ⟨.v4 0x0A010000, .v4 0x0A0100FF, 0, 0, 65535⟩ ⟨.v4 0x0A020000, .v4 0x0A0200FF, 0, 0, 65535⟩), by decide +kernel⟩
  obtain ⟨policy, owned⟩ := owns
  have held := (holds.policies policy).mpr owned
  rw [gone] at held
  cases held

end Shuli.Ipsec.Xfrm
