import Mathlib.Data.List.Nodup
import Shuli.Ipsec.Reflection

/-!
Replays. The engine never compares message identifiers: a protected request is handled each time
it is delivered, and a protected response is taken for the answer to whatever is outstanding. A
watched runner keeps, beside the runner, the protected messages that were delivered to it. When each
request is delivered once, and a response that the phase does not ignore answers an outstanding
request, every request changes the Child SA at most once.
-/

namespace Shuli.Ipsec

open Fallible Shuli.Core

def Action.isChildChange : Action → Bool
  | .childInstalled _ | .childRemoved _ => true
  | _ => false

theorem Action.isMark_of_isChildChange {action : Action} (change : action.isChildChange = true) :
    action.isMark = true := by
  cases action <;> first | rfl | cases change

theorem countP_marks (trace : List Action) :
    (trace.filter Action.isMark).countP Action.isChildChange = trace.countP Action.isChildChange := by
  rw [List.countP_filter]
  refine List.countP_congr fun action _ => ?_
  simp only [Bool.and_eq_true, and_iff_left_iff_imp]
  exact Action.isMark_of_isChildChange

theorem countP_installed (handle : ChildSaHandle) (event : IpsecEvent) :
    [Action.childInstalled handle, Action.event event].countP Action.isChildChange = 1 := rfl

def Action.requestId? (action : Action) : Option UInt32 :=
  match action.message?.map IkeHeader.decode with
  | some (.ok header) => if header.isResponse then none else some header.messageId
  | _ => none

/-- Among entries with distinct keys, those with one key add up to at most one when each entry does. -/
theorem sum_filter_le_one {α κ : Type} [DecidableEq κ] (key : α → κ) (weight : α → Nat)
    (entries : List α) (distinct : (entries.map key).Nodup) (light : ∀ a ∈ entries, weight a ≤ 1)
    (k : κ) : ((entries.filter fun a => key a = k).map weight).sum ≤ 1 := by
  induction entries with
  | nil => exact Nat.zero_le 1
  | cons a entries ih =>
    obtain ⟨new, distinct⟩ := List.nodup_cons.mp distinct
    by_cases same : key a = k
    · have others : entries.filter (fun a => key a = k) = [] := by
        refine List.filter_eq_nil_iff.mpr fun b member => ?_
        have apart : key b ≠ key a := fun equal => new (equal ▸ List.mem_map_of_mem member)
        simpa [← same] using apart
      have first := light a List.mem_cons_self
      simpa [same, others] using first
    · have rest := ih distinct fun b member => light b (List.mem_cons_of_mem a member)
      simpa [same] using rest

/-- What was delivered and done under one message identifier of the peer. -/
structure Handled where
  id : UInt32
  changes : Nat
  answers : List Octets

section

variable [Crypto] [Tls]

def Runner.protectedHeader (self : Runner) : Wake → Option IkeHeader
  | .datagram data _ =>
    match Message.decode data with
    | .ok message => if (self.openEncrypted message).isOk then some message.header else none
    | .error _ => none
  | _ => none

def Phase.ignores (phase : Phase) (exchange : ExchangeType) : Bool :=
  match phase with
  | .init | .saInitSent | .closed => true
  | .authSent | .eapAuth => false
  | .established => exchange != .createChildSa && exchange != .informational

def Runner.childChanges (self : Runner) : Nat := self.trace.countP Action.isChildChange

structure Watched where
  runner : Runner
  handled : List Handled
  responses : List UInt32

namespace Watched

def start (env : Env) (config : IpsecConfig) : Watched := ⟨.start env config, [], []⟩

def entry (self : Watched) (input : Env × Wake) (id : UInt32) : Handled where
  id := id
  changes := (self.runner.step input).childChanges - self.runner.childChanges
  answers := ((self.runner.step input).trace.drop self.runner.trace.length).filterMap Action.message?

def step (self : Watched) (input : Env × Wake) : Watched :=
  match self.runner.protectedHeader input.2 with
  | some header =>
    if header.isResponse then
      { self with runner := self.runner.step input, responses := header.messageId :: self.responses }
    else
      { self with
        runner := self.runner.step input
        handled := self.entry input header.messageId :: self.handled }
  | none => { self with runner := self.runner.step input }

/-- A request of this runner that no protected response has answered. -/
def Outstanding (self : Watched) (id : UInt32) : Prop :=
  id ∈ self.runner.trace.filterMap Action.requestId? ∧ id ∉ self.responses

instance (self : Watched) (id : UInt32) : Decidable (self.Outstanding id) :=
  inferInstanceAs (Decidable (_ ∧ _))

/-- The delivery of one protected message: a request that was not delivered before, or a response
that the phase ignores or that answers an outstanding request. -/
def Timely (self : Watched) (header : IkeHeader) : Prop :=
  if header.isResponse then
    self.runner.phase.ignores header.exchange = true ∨ self.Outstanding header.messageId
  else header.messageId ∉ self.handled.map Handled.id

instance (self : Watched) (header : IkeHeader) : Decidable (self.Timely header) :=
  inferInstanceAs (Decidable (if header.isResponse then
    self.runner.phase.ignores header.exchange = true ∨ self.Outstanding header.messageId
    else header.messageId ∉ self.handled.map Handled.id))

def Fresh (self : Watched) (input : Env × Wake) : Prop :=
  ∀ header ∈ self.runner.protectedHeader input.2, self.Timely header

instance (self : Watched) (input : Env × Wake) : Decidable (self.Fresh input) :=
  inferInstanceAs (Decidable (∀ header ∈ self.runner.protectedHeader input.2, self.Timely header))

def changesOf (self : Watched) (id : UInt32) : Nat :=
  ((self.handled.filter fun handled => handled.id = id).map Handled.changes).sum

theorem step_runner (self : Watched) (input : Env × Wake) :
    (self.step input).runner = self.runner.step input := by
  unfold step
  split
  · split <;> rfl
  · rfl

end Watched

/-! One step changes the Child SA at most once -/

theorem Effect.changes_once {wake : Wake} {before after : View} (effect : Effect wake before after) :
    after.marks.countP Action.isChildChange ≤ before.marks.countP Action.isChildChange + 1 := by
  cases effect with
  | quiet | saInitTaken => exact Nat.le_succ _
  | createdInitiator _ _ _ _ _ _ computed =>
    rcases computed with rfl | ⟨idBody, auth, rfl⟩ <;> simp [Action.isChildChange]
  | _ => simp [View.marked, View.installed, View.removed, Action.isChildChange, countP_installed]

theorem step_changes_once (self : Runner) (input : Env × Wake) :
    (self.step input).childChanges - self.childChanges ≤ 1 := by
  have once : (self.step input).view.marks.countP Action.isChildChange ≤
      self.view.marks.countP Action.isChildChange + 1 :=
    (step_effect self input.1 input.2).changes_once
  have before : self.view.marks.countP Action.isChildChange = self.childChanges := countP_marks _
  have after : (self.step input).view.marks.countP Action.isChildChange =
      (self.step input).childChanges := countP_marks _
  omega

/-! A response that the phase ignores -/

/-- Nothing but the transport, which follows the sender, has changed. -/
structure Ignored (before after : Runner) : Prop where
  view : after.view = before.view
  retransmit : after.retransmit = before.retransmit
  nextMessageId : after.nextMessageId = before.nextMessageId
  eap : after.eap = before.eap
  dpdDeadline : after.dpdDeadline = before.dpdDeadline
  dpdFailures : after.dpdFailures = before.dpdFailures
  rekeyDeadline : after.rekeyDeadline = before.rekeyDeadline
  pendingRekey : after.pendingRekey = before.pendingRekey

omit [Crypto] in
theorem Followed.ignored {self followed : Runner} {env : Env} {source : SocketAddr}
    {result : Except IpsecError Unit} (ends : Followed self env source result followed) :
    Ignored self followed := by
  cases ends <;> exact ⟨rfl, rfl, rfl, rfl, rfl, rfl, rfl, rfl⟩

theorem handleResponse_ignored (env : Env) (data : Octets) (source : SocketAddr) (message : Message)
    (self : Runner) (taken : self.phase = .saInitSent → self.pendingSaInit = none)
    (ignores : self.phase.ignores message.header.exchange = true) :
    (exec (handleResponse env data source message) self).2 = self := by
  rw [handleResponse, exec_get_bind]
  cases phase : self.phase with
  | saInitSent => exact handleSaInitResponse_taken env data source (taken phase)
  | init => rfl
  | closed => rfl
  | authSent => rw [phase] at ignores; cases ignores
  | eapAuth => rw [phase] at ignores; cases ignores
  | established =>
    rw [phase] at ignores
    simp only [Phase.ignores, Bool.and_eq_true, bne_iff_ne] at ignores
    simp [ignores.1, ignores.2]

omit [Crypto] in
theorem Ignored.reported {self : Runner} {outcome : Except IpsecError Unit × Runner}
    (ignored : Ignored self outcome.2) : Ignored self (.reported outcome) := by
  have view := (Runner.view_reported outcome).trans ignored.view
  obtain ⟨error | _, after⟩ := outcome
  · exact ⟨view, ignored.retransmit, ignored.nextMessageId, ignored.eap, ignored.dpdDeadline,
      ignored.dpdFailures, ignored.rekeyDeadline, ignored.pendingRekey⟩
  · exact ignored

/-- A protected message, as the dispatcher sees it. -/
theorem protectedHeader_eq_some {self : Runner} {wake : Wake} {header : IkeHeader}
    (opens : self.protectedHeader wake = some header) :
    ∃ data source message, wake = .datagram data source ∧ Message.decode data = .ok message ∧
      (self.openEncrypted message).isOk = true ∧ message.header = header := by
  cases wake with
  | datagram data source =>
    unfold Runner.protectedHeader at opens
    cases decoded : Message.decode data with
    | error e => simp [decoded] at opens
    | ok message =>
      by_cases opened : (self.openEncrypted message).isOk = true
      · simp only [decoded, opened, if_true, Option.some.injEq] at opens
        exact ⟨data, source, message, rfl, decoded, opened, opens⟩
      · simp [decoded, opened] at opens
  | retransmitTimer => cases opens
  | dpdTimer => cases opens
  | rekeyTimer => cases opens

theorem step_ignored (self : Runner) (input : Env × Wake) (header : IkeHeader)
    (taken : self.view.SaInitTaken) (opens : self.protectedHeader input.2 = some header)
    (response : header.isResponse = true) (ignores : self.phase.ignores header.exchange = true) :
    Ignored self (self.step input) := by
  obtain ⟨env, wake⟩ := input
  obtain ⟨data, source, message, rfl, decoded, opened, rfl⟩ := protectedHeader_eq_some opens
  have keyed : self.ike.isSome = true := by
    cases current : self.ike with
    | none => simp [Runner.openEncrypted, current, Except.toBool] at opened
    | some ike => rfl
  have handled : Ends (handleDatagram env data source) self fun _ after => Ignored self after := by
    refine Ends.bind (followSource_followed self env source) (fun _ _ ends => ends.ignored)
      fun _ followed ends => ?_
    have kept := ends.ignored
    refine Ends.liftM_bind (fun _ _ => kept) fun again decoded' => ?_
    obtain rfl : message = again := Except.ok.inj (decoded.symm.trans decoded')
    rw [if_pos response]
    have phase : followed.phase = self.phase := congrArg View.phase kept.view
    have pending : followed.pendingSaInit = self.pendingSaInit := congrArg View.pendingSaInit kept.view
    have same := handleResponse_ignored env data source message followed
      (fun sent => pending.trans (taken keyed (phase.symm.trans sent))) (phase ▸ ignores)
    exact (congrArg (Ignored self) same).mpr kept
  exact Ignored.reported handled

/-! Runs without replays -/

namespace Watched

/-- What holds along a run without replays. -/
structure Tidy (watched : Watched) : Prop where
  taken : watched.runner.view.SaInitTaken
  distinct : (watched.handled.map Handled.id).Nodup
  once : ∀ handled ∈ watched.handled, handled.changes ≤ 1

theorem start_tidy (env : Env) (config : IpsecConfig) : (start env config).Tidy where
  taken some := by
    rw [start, (start_started env config).ike_none] at some
    cases some
  distinct := List.nodup_nil
  once _ member := by cases member

theorem step_tidy (self : Watched) (input : Env × Wake) (tidy : self.Tidy) (fresh : self.Fresh input) :
    (self.step input).Tidy := by
  have taken : (self.step input).runner.view.SaInitTaken := by
    rw [step_runner]
    exact (step_effect self.runner input.1 input.2).saInitTaken_keeps tidy.taken
  cases opens : self.runner.protectedHeader input.2 with
  | none =>
    have same : (self.step input).handled = self.handled := by simp [step, opens]
    exact ⟨taken, same ▸ tidy.distinct, same ▸ tidy.once⟩
  | some header =>
    have timely := fresh header opens
    unfold Timely at timely
    by_cases response : header.isResponse = true
    · have same : (self.step input).handled = self.handled := by simp [step, opens, response]
      exact ⟨taken, same ▸ tidy.distinct, same ▸ tidy.once⟩
    · have added : (self.step input).handled = self.entry input header.messageId :: self.handled := by
        simp [step, opens, response]
      rw [if_neg response] at timely
      refine ⟨taken, ?_, ?_⟩ <;> rw [added]
      · exact List.nodup_cons.mpr ⟨timely, tidy.distinct⟩
      · intro handled member
        rcases List.mem_cons.mp member with rfl | old
        · exact step_changes_once self.runner input
        · exact tidy.once handled old

theorem run_tidy (env : Env) (config : IpsecConfig) {inputs : List (Env × Wake)}
    (admitted : Admitted step Fresh (start env config) inputs) :
    (runInputs step (start env config) inputs).Tidy :=
  run_invariant (I := Tidy) step_tidy (start_tidy env config) admitted

end Watched

end

section

attribute [local instance] checksumCrypto closedTls

end

end Shuli.Ipsec
