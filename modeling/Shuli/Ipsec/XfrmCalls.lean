import Shuli.Ipsec.Xfrm
import Shuli.Tables

/-!
What the calls of the manager do to the kernel's tables when they succeed: `install` puts the policies of
every selector pair and the two SAs in their places, `remove` takes out what has the keys of its records.
-/

namespace Shuli.Ipsec.Xfrm

open Fallible

/-! Requests -/

def SaMessage.lookupMark (message : SaMessage) : UInt32 :=
  (markOf message.mark).value &&& (markOf message.mark).mask

def putSa (kernel : XfrmKernel) (sas : List SaMessage) (message : SaMessage) : List SaMessage :=
  if sas.any fun sa => sa.isAt message.destination message.spi message.lookupMark then
    sas.map fun sa =>
      if sa.isAt message.destination message.spi message.lookupMark then kernel.updated sa message else sa
  else sas ++ [message]

structure Wrote (before after : XfrmManager) (messages : List PolicyMessage) : Prop where
  tables : after.tables =
    { before.tables with policies := messages.foldl (put PolicyMessage.key) before.tables.policies }
  sas : after.sas = before.sas
  policies : after.policies = before.policies

theorem Wrote.refl (self : XfrmManager) : Wrote self self [] := ⟨rfl, rfl, rfl⟩

theorem Wrote.trans {first second third : XfrmManager} {earlier later : List PolicyMessage}
    (one : Wrote first second earlier) (two : Wrote second third later) :
    Wrote first third (earlier ++ later) where
  tables := by rw [two.tables, one.tables, List.foldl_append]
  sas := two.sas.trans one.sas
  policies := two.policies.trans one.policies

variable {self after : XfrmManager} {kernel : XfrmKernel}

theorem submit_eq_ok {request : XfrmRequest} (sent : self.submit kernel request = (.ok (), after)) :
    ∃ tables, self.tables.serve kernel request = .ok tables ∧
      after = { self with requests := self.requests + 1, tables } := by
  unfold XfrmManager.submit at sent
  split at sent
  · cases sent
  · split at sent
    · cases sent
    · rename_i tables served
      cases sent
      exact ⟨tables, served, rfl⟩

theorem submit_eq_error {request : XfrmRequest}
    {error : KernelError} (sent : self.submit kernel request = (.error error, after)) :
    after = { self with requests := self.requests + 1 } ∧
      (error = .alreadyThere → self.tables.serve kernel request = .error .alreadyThere) := by
  unfold XfrmManager.submit at sent
  split at sent
  · cases sent
    exact ⟨rfl, nofun⟩
  · split at sent
    · rename_i served
      cases sent
      exact ⟨rfl, fun there => there ▸ served⟩
    · cases sent

theorem exec_requestOnce (kernel : XfrmKernel) (request : XfrmRequest) (self : XfrmManager) :
    exec (requestOnce kernel request) self =
      (.ok (self.submit kernel request).1, (self.submit kernel request).2) := rfl

/-- An object is added, or one that is there is updated. -/
theorem addOrUpdate_eq_ok {add update : XfrmRequest}
    (done : exec (addOrUpdate kernel add update) self = (.ok (), after)) :
    (∃ tables requests, self.tables.serve kernel add = .ok tables ∧
      after = { self with requests, tables }) ∨
    ∃ tables requests, self.tables.serve kernel add = .error .alreadyThere ∧
      self.tables.serve kernel update = .ok tables ∧ after = { self with requests, tables } := by
  rw [addOrUpdate, exec_bind, exec_requestOnce] at done
  rcases first : self.submit kernel add with ⟨error | _, middle⟩
  · rw [first] at done
    obtain ⟨rfl, there⟩ := submit_eq_error first
    cases error with
    | alreadyThere =>
      change exec (requestOnce kernel update >>= _) _ = _ at done
      rw [exec_bind, exec_requestOnce] at done
      rcases second : XfrmManager.submit _ kernel update with ⟨error | _, last⟩
      · rw [second] at done
        cases done
      · rw [second] at done
        obtain ⟨tables, served, rfl⟩ := submit_eq_ok second
        cases done
        exact .inr ⟨tables, _, there rfl, served, rfl⟩
    | missing => cases done
    | refused => cases done
  · rw [first] at done
    obtain ⟨tables, served, rfl⟩ := submit_eq_ok first
    cases done
    exact .inl ⟨tables, _, served, rfl⟩

variable {record : PolicyRecord}

theorem addPolicy_eq_ok
    (done : exec (addPolicy kernel record) self = (.ok (), after)) : Wrote self after [record.message] := by
  by_cases present : self.tables.findPolicy record.message.key = true
  · rcases addOrUpdate_eq_ok done with ⟨tables, requests, served, _⟩ | ⟨tables, requests, _, served, rfl⟩
    · simp only [XfrmTables.serve, if_pos present] at served
      cases served
    · simp only [XfrmTables.serve, if_pos present] at served
      cases served
      have placed : put PolicyMessage.key self.tables.policies record.message = _ := if_pos present
      exact ⟨by rw [List.foldl_cons, List.foldl_nil, placed], rfl, rfl⟩
  · rcases addOrUpdate_eq_ok done with ⟨tables, requests, served, rfl⟩ | ⟨tables, requests, there, _, _⟩
    · simp only [XfrmTables.serve, if_neg present] at served
      cases served
      have placed : put PolicyMessage.key self.tables.policies record.message = _ := if_neg present
      exact ⟨by rw [List.foldl_cons, List.foldl_nil, placed], rfl, rfl⟩
    · simp only [XfrmTables.serve, if_neg present] at there
      cases there

variable {installed : InstalledChildSa}

theorem addOrRollback_eq_ok (done : exec (addOrRollback kernel record installed) self = (.ok (), after)) :
    Wrote self after [record.message] := by
  rw [addOrRollback, exec_tryCatch_eq_ok] at done
  · exact addPolicy_eq_ok done
  · intro error state caught
    cases caught

/-! Installing -/

def policyMessage (spec : InstallSpec) (direction : Direction) (selector : Selector) : PolicyMessage where
  selector
  direction
  priority := spec.priority
  template := match direction with
    | .out => ⟨spec.localAddress, spec.remoteAddress, spec.mode, spec.reqid⟩
    | .inward | .forward => ⟨spec.remoteAddress, spec.localAddress, spec.mode, spec.reqid⟩
  ifId := spec.xfrmIfId
  mark := spec.xfrmMark

def pairPolicies (spec : InstallSpec) (pair : TrafficSelector × TrafficSelector) : List PolicyMessage :=
  let outgoing := selectorOf pair.1 pair.2
  let incoming := selectorOf pair.2 pair.1
  [policyMessage spec .out outgoing, policyMessage spec .inward incoming] ++
    if spec.forward ∧ spec.mode = .tunnel then
      [policyMessage spec .forward outgoing, policyMessage spec .forward incoming]
    else []

def childPolicies (child : ChildSaHandle) (spec : InstallSpec) : List PolicyMessage :=
  (selectorPairs child).flatMap (pairPolicies spec)

structure RecordOf (spec : InstallSpec) (record : PolicyRecord) : Prop where
  message : record.message = policyMessage spec record.direction record.selector
  ifId : record.ifId = spec.ifId

theorem policyMessage_key (spec : InstallSpec) (direction : Direction) (selector : Selector) :
    (policyMessage spec direction selector).key = ⟨direction, selector, spec.ifId, markOf spec.xfrmMark⟩ := by
  have ifId : spec.xfrmIfId.getD 0 = spec.ifId := by
    unfold InstallSpec.xfrmIfId
    split <;> simp_all
  simp only [PolicyMessage.key, policyMessage, ifId]

variable {spec : InstallSpec}

theorem buildPolicy_eq_ok {direction : Direction} {source destination : TrafficSelector}
    (built : buildPolicy direction source destination spec = .ok record) :
    record.message = policyMessage spec direction (selectorOf source destination) ∧
      record.selector = selectorOf source destination ∧ RecordOf spec record := by
  unfold buildPolicy at built
  split at built
  · cases built
  · cases direction <;> cases built <;> exact ⟨rfl, rfl, rfl, rfl⟩

def InstalledChildSa.records (installed : InstalledChildSa) : List PolicyRecord :=
  installed.localPolicies ++ installed.remotePolicies ++ installed.forwardPolicies

/-- What the loop over the selector pairs adds to the record of a Child SA. -/
structure Extends (spec : InstallSpec) (pairs : List (TrafficSelector × TrafficSelector))
    (before after : InstalledChildSa) (added : List PolicyRecord) : Prop where
  ids : after.inboundId = before.inboundId ∧ after.outboundId = before.outboundId
  records : ∀ record, record ∈ after.records ↔ record ∈ before.records ∨ record ∈ added
  made : ∀ record ∈ added, RecordOf spec record
  messages : added.map PolicyRecord.message = pairs.flatMap (pairPolicies spec)
  localPolicies : ∀ selector, selector ∈ after.localPolicies.map PolicyRecord.selector ↔
    selector ∈ before.localPolicies.map PolicyRecord.selector ∨
      ∃ pair ∈ pairs, selector = selectorOf pair.1 pair.2
  remotePolicies : ∀ selector, selector ∈ after.remotePolicies.map PolicyRecord.selector ↔
    selector ∈ before.remotePolicies.map PolicyRecord.selector ∨
      ∃ pair ∈ pairs, selector = selectorOf pair.2 pair.1

theorem installForward_eq_ok {localSide remoteSide : TrafficSelector} {before installed : InstalledChildSa}
    (done : exec (installForward kernel spec localSide remoteSide before) self = (.ok installed, after)) :
    ∃ forwards : List PolicyRecord,
      (∀ record ∈ forwards, RecordOf spec record) ∧
      [policyMessage spec .out (selectorOf localSide remoteSide),
          policyMessage spec .inward (selectorOf remoteSide localSide)] ++
        forwards.map PolicyRecord.message = pairPolicies spec (localSide, remoteSide) ∧
      installed = { before with forwardPolicies := before.forwardPolicies ++ forwards } ∧
      Wrote self after (forwards.map PolicyRecord.message) := by
  unfold installForward at done
  by_cases forward : spec.forward ∧ spec.mode = .tunnel
  · rw [if_neg (not_not_intro forward)] at done
    obtain ⟨first, builtFirst, done⟩ := exec_liftM_bind_eq_ok.mp done
    obtain ⟨second, builtSecond, done⟩ := exec_liftM_bind_eq_ok.mp done
    obtain ⟨_, middle, wroteFirst, done⟩ := exec_bind_eq_ok.mp done
    obtain ⟨_, last, wroteSecond, done⟩ := exec_bind_eq_ok.mp done
    cases done
    obtain ⟨messageFirst, _, recordFirst⟩ := buildPolicy_eq_ok builtFirst
    obtain ⟨messageSecond, _, recordSecond⟩ := buildPolicy_eq_ok builtSecond
    refine ⟨[first, second], ?_, ?_, by rw [List.append_assoc]; rfl,
      (addOrRollback_eq_ok wroteFirst).trans (addOrRollback_eq_ok wroteSecond)⟩
    · simp only [List.forall_mem_cons, List.not_mem_nil, false_implies, implies_true, and_true]
      exact ⟨recordFirst, recordSecond⟩
    · simp only [pairPolicies, if_pos forward, List.map_cons, List.map_nil, messageFirst, messageSecond]
  · rw [if_pos forward] at done
    cases done
    refine ⟨[], fun _ mem => (by cases mem), ?_, by rw [List.append_nil], .refl _⟩
    simp only [pairPolicies, if_neg forward, List.map_nil]

theorem Extends.cons {pair : TrafficSelector × TrafficSelector}
    {pairs : List (TrafficSelector × TrafficSelector)} {first second third : InstalledChildSa}
    {earlier later : List PolicyRecord} (one : Extends spec [pair] first second earlier)
    (two : Extends spec pairs second third later) : Extends spec (pair :: pairs) first third (earlier ++ later) where
  ids := ⟨two.ids.1.trans one.ids.1, two.ids.2.trans one.ids.2⟩
  records := fun record => by rw [two.records, one.records, List.mem_append, or_assoc]
  made := by
    intro record mem
    rcases List.mem_append.mp mem with old | new
    · exact one.made record old
    · exact two.made record new
  messages := by rw [List.map_append, one.messages, two.messages]; simp
  localPolicies := fun selector => by
    rw [two.localPolicies, one.localPolicies, or_assoc]
    simp only [List.mem_cons, List.not_mem_nil, or_false, exists_eq_left, exists_eq_or_imp]
  remotePolicies := fun selector => by
    rw [two.remotePolicies, one.remotePolicies, or_assoc]
    simp only [List.mem_cons, List.not_mem_nil, or_false, exists_eq_left, exists_eq_or_imp]

theorem installPairs_eq_ok {pairs : List (TrafficSelector × TrafficSelector)} {before installed : InstalledChildSa}
    (done : exec (installPairs kernel spec pairs before) self = (.ok installed, after)) :
    ∃ added, Extends spec pairs before installed added ∧ Wrote self after (added.map PolicyRecord.message) := by
  induction pairs generalizing before self with
  | nil =>
    cases done
    exact ⟨[], ⟨⟨rfl, rfl⟩, by simp, fun _ mem => (by cases mem), rfl, by simp, by simp⟩, .refl _⟩
  | cons pair pairs ih =>
    obtain ⟨localSide, remoteSide⟩ := pair
    obtain ⟨out, builtOut, done⟩ := exec_liftM_bind_eq_ok.mp done
    obtain ⟨inward, builtInward, done⟩ := exec_liftM_bind_eq_ok.mp done
    obtain ⟨_, first, wroteOut, done⟩ := exec_bind_eq_ok.mp done
    obtain ⟨_, second, wroteInward, done⟩ := exec_bind_eq_ok.mp done
    obtain ⟨extended, third, forwarded, done⟩ := exec_bind_eq_ok.mp done
    obtain ⟨later, rest, wroteRest⟩ := ih done
    have wrote := (addOrRollback_eq_ok wroteOut).trans (addOrRollback_eq_ok wroteInward)
    obtain ⟨messageOut, selectorOut, recordOut⟩ := buildPolicy_eq_ok builtOut
    obtain ⟨messageInward, selectorInward, recordInward⟩ := buildPolicy_eq_ok builtInward
    obtain ⟨forwards, made, messages, same, wroteForwards⟩ := installForward_eq_ok forwarded
    have step : Extends spec [(localSide, remoteSide)] before extended ([out, inward] ++ forwards) := by
      subst same
      refine ⟨⟨rfl, rfl⟩, ?_, ?_, ?_, ?_, ?_⟩
      · intro record
        simp only [InstalledChildSa.records, List.mem_append, List.mem_cons]
        tauto
      · simp only [List.forall_mem_append, List.forall_mem_cons, List.not_mem_nil, false_implies,
          implies_true, and_true]
        exact ⟨⟨recordOut, recordInward⟩, made⟩
      · simp only [List.flatMap_singleton, ← messages, List.map_append, List.map_cons, List.map_nil,
          messageOut, messageInward]
      · intro selector
        simp [selectorOut]
      · intro selector
        simp [selectorInward]
    refine ⟨[out, inward] ++ forwards ++ later, step.cons rest, ?_⟩
    rw [List.map_append]
    exact (wrote.trans wroteForwards).trans wroteRest

theorem addOrUpdateSa_eq_ok {message : SaMessage}
    (done : exec (addOrUpdateSa kernel message) self = (.ok (), after)) :
    ∃ requests, after = { self with
      requests, tables := { self.tables with sas := putSa kernel self.tables.sas message } } := by
  by_cases present :
      self.tables.findSa message.destination message.spi message.lookupMark = true
  · have placed : putSa kernel self.tables.sas message = _ := if_pos present
    unfold SaMessage.lookupMark at present
    rcases addOrUpdate_eq_ok done with ⟨_, _, served, _⟩ | ⟨tables, requests, _, served, rfl⟩
    · simp only [XfrmTables.serve, if_pos present] at served
      cases served
    · simp only [XfrmTables.serve, if_pos present] at served
      cases served
      rw [placed]
      exact ⟨requests, rfl⟩
  · have placed : putSa kernel self.tables.sas message = _ := if_neg present
    unfold SaMessage.lookupMark at present
    rcases addOrUpdate_eq_ok done with ⟨tables, requests, served, rfl⟩ | ⟨_, _, there, _, _⟩
    · simp only [XfrmTables.serve, if_neg present] at served
      cases served
      rw [placed]
      exact ⟨requests, rfl⟩
    · simp only [XfrmTables.serve, if_neg present] at there
      cases there

/-- What a successful `install` leaves in the kernel's tables. -/
theorem install_eq_ok {child : ChildSaHandle}
    (done : exec (install kernel child spec) self = (.ok installed, after)) :
    ∃ outbound inbound added, buildState child spec true = .ok outbound ∧
      buildState child spec false = .ok inbound ∧
      Extends spec (selectorPairs child) (.bare child spec) installed added ∧
      after.tables = {
        sas := putSa kernel (putSa kernel self.tables.sas outbound) inbound
        policies := (childPolicies child spec).foldl (put PolicyMessage.key) self.tables.policies } := by
  obtain ⟨_, _, done⟩ := exec_liftM_bind_eq_ok.mp done
  obtain ⟨outbound, builtOutbound, done⟩ := exec_liftM_bind_eq_ok.mp done
  obtain ⟨inbound, builtInbound, done⟩ := exec_liftM_bind_eq_ok.mp done
  obtain ⟨_, first, addedOutbound, done⟩ := exec_bind_eq_ok.mp done
  obtain ⟨_, second, addedInbound, done⟩ := exec_bind_eq_ok.mp done
  obtain ⟨extended, third, pairs, done⟩ := exec_bind_eq_ok.mp done
  cases done
  rw [exec_tryCatch_eq_ok fun _ _ caught => by rw [exec_modify_bind] at caught; cases caught]
    at addedInbound
  rw [exec_tryCatch_eq_ok fun _ _ caught => by
    cases caught] at pairs
  obtain ⟨added, extends_, wrote⟩ := installPairs_eq_ok pairs
  obtain ⟨_, rfl⟩ := addOrUpdateSa_eq_ok addedOutbound
  obtain ⟨_, rfl⟩ := addOrUpdateSa_eq_ok addedInbound
  rw [extends_.messages] at wrote
  exact ⟨outbound, inbound, added, builtOutbound, builtInbound, extends_, wrote.tables⟩

/-! Removing -/

def PolicyRecord.deleteKey (record : PolicyRecord) : PolicyKey :=
  ⟨record.direction, record.selector, record.ifId, ⟨0, 0⟩⟩

def SaRecord.finds (id : SaRecord) (sa : SaMessage) : Bool := sa.isAt id.destination id.spi 0

variable {outcome : Option IpsecError × XfrmManager}

theorem removePolicy_eq_none {after : XfrmManager}
    (done : XfrmManager.removePolicy kernel outcome record = (none, after)) :
    outcome.1 = none ∧ (∃ policy ∈ outcome.2.tables.policies, policy.key = record.deleteKey) ∧
      after.tables = { outcome.2.tables with
        policies := outcome.2.tables.policies.filter fun policy => policy.key ≠ record.deleteKey } := by
  unfold XfrmManager.removePolicy at done
  split at done
  · simp at done
  · rename_i sent
    obtain ⟨tables, served, rfl⟩ := submit_eq_ok sent
    by_cases present : outcome.2.tables.findPolicy record.deleteKey = true
    · have policies : outcome.2.tables.serve kernel (deletePolicyRequest record) = _ := if_pos present
      rw [policies] at served
      cases served
      obtain ⟨clean, rfl⟩ := Prod.mk.inj done
      obtain ⟨policy, mem, same⟩ := List.any_eq_true.mp present
      exact ⟨clean, ⟨policy, mem, eq_of_beq same⟩, rfl⟩
    · have refused : outcome.2.tables.serve kernel (deletePolicyRequest record) = _ := if_neg present
      rw [refused] at served
      cases served

theorem removeSa_eq_none {id : SaRecord}
    {after : XfrmManager} (done : XfrmManager.removeSa kernel outcome id = (none, after)) :
    outcome.1 = none ∧ (∃ sa ∈ outcome.2.tables.sas, id.finds sa = true) ∧
      after.tables = { outcome.2.tables with
        sas := outcome.2.tables.sas.filter fun sa => !id.finds sa } := by
  unfold XfrmManager.removeSa XfrmManager.deleteSa at done
  rcases sent : outcome.2.submit kernel (deleteSaRequest id) with ⟨error | _, last⟩
  · rw [sent] at done
    simp at done
  · rw [sent] at done
    obtain ⟨tables, served, rfl⟩ := submit_eq_ok sent
    by_cases present : outcome.2.tables.findSa id.destination id.spi 0 = true
    · have sas : outcome.2.tables.serve kernel (deleteSaRequest id) = _ := if_pos present
      rw [sas] at served
      cases served
      obtain ⟨clean, rfl⟩ := Prod.mk.inj done
      exact ⟨clean, List.any_eq_true.mp present, rfl⟩
    · have refused : outcome.2.tables.serve kernel (deleteSaRequest id) = _ := if_neg present
      rw [refused] at served
      cases served

theorem removePolicies_eq_none {records : List PolicyRecord} {after : XfrmManager}
    (done : records.foldl (XfrmManager.removePolicy kernel) outcome = (none, after)) :
    outcome.1 = none ∧
      (∀ record ∈ records, ∃ policy ∈ outcome.2.tables.policies, policy.key = record.deleteKey) ∧
      after.tables = { outcome.2.tables with
        policies := outcome.2.tables.policies.filter fun policy =>
          policy.key ∉ records.map PolicyRecord.deleteKey } := by
  induction records generalizing outcome with
  | nil =>
    cases done
    simp
  | cons record records ih =>
    obtain ⟨clean, found, rest⟩ := ih done
    obtain ⟨first, present, tables⟩ := removePolicy_eq_none (Prod.ext clean rfl)
    rw [tables] at found rest
    refine ⟨first, List.forall_mem_cons.mpr ⟨present, fun other mem => ?_⟩, ?_⟩
    · obtain ⟨policy, kept, same⟩ := found other mem
      exact ⟨policy, (List.mem_filter.mp kept).1, same⟩
    · rw [rest]
      simp [Bool.and_comm]

/-- What a successful `remove` found in the kernel's tables and left there. -/
theorem remove_eq_none (done : self.remove kernel installed = (none, after)) :
    (∀ record ∈ installed.records, ∃ policy ∈ self.tables.policies, policy.key = record.deleteKey) ∧
      (∃ sa ∈ self.tables.sas, installed.inboundId.finds sa = true) ∧
      after.tables = {
        sas := self.tables.sas.filter fun sa =>
          !installed.outboundId.finds sa && !installed.inboundId.finds sa
        policies := self.tables.policies.filter fun policy =>
          policy.key ∉ installed.records.map PolicyRecord.deleteKey } := by
  obtain ⟨second, _, outbound⟩ := removeSa_eq_none done
  obtain ⟨first, present, inbound⟩ := removeSa_eq_none (Prod.ext second rfl)
  obtain ⟨_, found, policies⟩ := removePolicies_eq_none (Prod.ext first rfl)
  rw [policies] at inbound present
  rw [inbound] at outbound
  have order : ∀ record, record ∈ installed.forwardPolicies ++ installed.remotePolicies ++
      installed.localPolicies ↔ record ∈ installed.records := by
    simp only [InstalledChildSa.records, List.mem_append]
    tauto
  refine ⟨fun record mem => found record ((order record).mpr mem), present, ?_⟩
  rw [outbound, List.filter_filter]
  simp only [List.mem_map, order]

/-! Samples -/

def obligingKernel : XfrmKernel := ⟨fun _ => none, fun _ message => message⟩

def sampleSpec : InstallSpec where
  interface := none
  ifId := 0
  reqid := 7
  localAddress := .v4 0xC0000201
  remoteAddress := .v4 0xC0000202
  mode := .tunnel
  lifetime := .fromSecs 3600
  priority := 100
  replayWindow := 32
  mark := none
  markMask := 0
  forward := false
  natT := false

def sampleChild (localSpi remoteSpi start stop : UInt32) : ChildSaHandle where
  localSpi := localSpi
  remoteSpi := remoteSpi
  encryption := .aesGcm16_128
  integrity := none
  esn := false
  mode := .tunnel
  localSelectors := [⟨.v4 start, .v4 stop, 0, 0, 65535⟩]
  remoteSelectors := [⟨.v4 0x0A020000, .v4 0x0A0200FF, 0, 0, 65535⟩]
  outboundKey := List.replicate 20 1
  outboundIntegrityKey := none
  inboundKey := List.replicate 20 2
  inboundIntegrityKey := none

end Shuli.Ipsec.Xfrm
