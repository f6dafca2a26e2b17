import Shuli.Ipsec.Authentication
import Shuli.Ipsec.Handlers

/-!
The next rekey of a Child SA. A rekey request takes the place of its deadline: until it is answered,
the retransmission slot is all that brings the rekey to an end. But the slot is shared with the
liveness checks, it is emptied by every INFORMATIONAL response and before a CREATE_CHILD_SA response is
opened, and an attempt that cannot be sent leaves neither a deadline nor a request. When none of this
happens while a request waits, a rekey is always scheduled.
-/

namespace Shuli.Ipsec

open Fallible Shuli.Core

section

variable [Crypto]

def Ledger.IsRequest (ledger : Ledger) (message : Octets) (pending : PendingRekey) : Prop :=
  ∃ env ike peer messageId, ledger.ike = some ike ∧ ledger.peer? = some peer ∧
    ike.sealPayloads env (ike.headerFor .createChildSa messageId true)
      (rekeyPayloads ledger.config.child.proposals peer.selectors pending.localSpi pending.nonceI
        pending.keyPair) = .ok message

/-- An installed Child SA has a time for its rekey, or its rekey request is in retransmission. -/
def Ledger.Scheduled (ledger : Ledger) : Prop :=
  ledger.phase = .established → ledger.child.isSome →
    ledger.rekeyDeadline.isSome ∨
      ∃ pending message, ledger.pendingRekey = some pending ∧ ledger.slot = some message ∧
        ledger.IsRequest message pending

theorem Ledger.IsRequest.congr {ledger next : Ledger} {message : Octets} {pending : PendingRekey}
    (request : ledger.IsRequest message pending) (ike : next.ike = ledger.ike)
    (peer : next.peer? = ledger.peer?) (config : next.config = ledger.config) :
    next.IsRequest message pending := by
  unfold IsRequest
  rw [ike, peer, config]
  exact request

theorem Ledger.rekeyRequest_isRequest {ledger : Ledger} {env : Env} {message : Octets}
    {pending : PendingRekey} (made : ledger.rekeyRequest env = .ok (message, pending)) :
    ledger.IsRequest message pending := by
  obtain ⟨ike, _, peer, current, _, _, _, _, _, configured, posted⟩ := rekeyRequest_eq_ok.mp made
  exact ⟨env, ike, peer, ledger.nextMessageId, current, configured, posted.made⟩

variable [Tls]

def Runner.acceptsRekey (self : Runner) (message : Message) : Bool :=
  match self.ike, self.pendingRekey, self.openEncrypted message with
  | some ike, some pending, .ok payloads => (acceptCreateChild self ike pending payloads).isOk
  | _, _, _ => false

/-- The wake leaves the slot to a rekey request that waits in it. -/
def Runner.sparesRequest (self : Runner) : Wake → Bool
  | .datagram data _ =>
    match Message.decode data with
    | .error _ => true
    | .ok message =>
      match message.header.isResponse, message.header.exchange with
      | true, .informational => false
      | true, .createChildSa => self.acceptsRekey message
      | false, .ikeAuth => false
      | _, _ => true
  | .dpdTimer => false
  | _ => true

/-- The wake keeps the schedule of a Child SA: a rekey that is due can be sent, and nothing takes the
slot from a request that waits. -/
def Runner.keepsSchedule (self : Runner) (input : Env × Wake) : Bool :=
  if self.phase = .established ∧ self.ledger.child.isSome then
    (input.2 != .rekeyTimer || self.pendingRekey.isSome || (self.ledger.rekeyRequest input.1).isOk) &&
      (self.rekeyDeadline.isSome || self.sparesRequest input.2)
  else true

def ScheduleKept (self : Runner) (input : Env × Wake) : Prop := self.keepsSchedule input = true

instance (self : Runner) (input : Env × Wake) : Decidable (ScheduleKept self input) :=
  inferInstanceAs (Decidable (_ = true))

variable {self : Runner}

theorem sparesRequest_of_delivers {wake : Wake} {message : Message}
    (delivers : wake.Delivers message) : self.sparesRequest wake =
      match message.header.isResponse, message.header.exchange with
      | true, .informational => false
      | true, .createChildSa => self.acceptsRekey message
      | false, .ikeAuth => false
      | _, _ => true := by
  obtain ⟨data, source, rfl, decoded⟩ := delivers
  simp only [Runner.sparesRequest, decoded]

theorem acceptCreateChild_congr {self other : Runner} (config : self.config = other.config)
    (peer : self.peerIndex = other.peerIndex) (ike : IkeRuntime) (pending : PendingRekey) (payloads : List Payload) :
    acceptCreateChild self ike pending payloads = acceptCreateChild other ike pending payloads := by
  unfold acceptCreateChild Runner.peer?
  rw [config, peer]

theorem acceptsRekey_eq_true {message : Message} (accepts : self.acceptsRekey message = true) :
    ∃ ike pending payloads handle, self.ike = some ike ∧ self.pendingRekey = some pending ∧
      ike.openEncrypted message = .ok payloads ∧
      acceptCreateChild self ike pending payloads = .ok handle := by
  unfold Runner.acceptsRekey Runner.openEncrypted at accepts
  split at accepts
  case h_1 ike pending payloads current pends opens =>
    rw [current] at opens
    cases accepted : acceptCreateChild self ike pending payloads with
    | error e => simp [accepted, Except.toBool] at accepts
    | ok handle => exact ⟨ike, pending, payloads, handle, current, pends, opens, accepted⟩
  case h_2 => cases accepts

theorem ScheduleKept.spelled {env : Env} {wake : Wake} (kept : ScheduleKept self (env, wake))
    (established : self.phase = .established) (recorded : self.ledger.child.isSome) :
    (wake = .rekeyTimer → self.pendingRekey = none →
      ∃ request, self.ledger.rekeyRequest env = .ok request) ∧
    (self.rekeyDeadline.isSome ∨ self.sparesRequest wake = true) := by
  rw [ScheduleKept, Runner.keepsSchedule, if_pos ⟨established, recorded⟩, Bool.and_eq_true] at kept
  refine ⟨fun timer idle => ?_, (Bool.or_eq_true _ _).mp kept.2⟩
  have made := kept.1
  cases outcome : self.ledger.rekeyRequest env with
  | ok request => exact ⟨request, rfl⟩
  | error e => simp [timer, idle, outcome, Except.toBool] at made

theorem Move.scheduled {env : Env} {wake : Wake} {after : Ledger}
    (move : Move env wake self.ledger after) (scheduled : self.ledger.Scheduled)
    (kept : ScheduleKept self (env, wake)) : after.Scheduled := by
  intro phase child
  -- A move that takes the slot from a waiting request is one that the wake does not make.
  have deadline (established : self.phase = .established) (recorded : self.ledger.child.isSome)
      (taken : ¬self.sparesRequest wake = true) : self.rekeyDeadline.isSome :=
    (kept.spelled established recorded).2.resolve_right taken
  have outside (inAuth : self.ledger.phase.inAuth) : self.ledger.phase ≠ .established := by
    rcases inAuth with found | found <;> simp [found]
  cases move with
  | quiet | notified | informed | retransmitted | probeUnsent => exact scheduled phase child
  | authAnswered | authCompleted | rekeyAnswered | rekeyCompleted | rekeyPostponed => exact .inl rfl
  | createdResponder => cases phase
  | saInitTaken _ _ _ found | createdUnsent _ _ _ found => cases found.symm.trans phase
  | createdInitiator _ _ _ _ _ _ _ inAuth => rcases inAuth with rfl | rfl <;> cases phase
  | authResponseFailed _ _ inAuth | eapUnsent _ _ inAuth | eapContinued _ _ inAuth =>
    exact absurd phase (outside inAuth)
  | authRequestFailed delivers request exchange =>
    refine .inl (deadline phase child ?_)
    simp [sparesRequest_of_delivers delivers, request, exchange]
  | answered delivers response exchange =>
    refine .inl (deadline phase child ?_)
    simp [sparesRequest_of_delivers delivers, response, exchange]
  | deletedUnsent | deleted =>
    have none : self.ledger.removes.child = none := Ledger.child_removes _
    cases none.symm.trans (Option.isSome_iff_exists.mp child).choose_spec
  | rekeyIgnored delivers response exchange _ unread =>
    refine .inl (deadline phase child fun spares => ?_)
    simp only [sparesRequest_of_delivers delivers, response, exchange] at spares
    obtain ⟨ike, pending, payloads, _, current, pends, opens, _⟩ := acceptsRekey_eq_true spares
    rcases unread with none | unread
    · cases none.symm.trans pends
    · exact unread ike payloads ⟨delivers, current, opens⟩
  | rekeyRefused reads response exchange _ same pends refused =>
    refine .inl (deadline phase child fun spares => ?_)
    simp only [sparesRequest_of_delivers reads.delivers, response, exchange] at spares
    obtain ⟨ike, pending, payloads, handle, current, pends', opens, accepted⟩ :=
      acceptsRekey_eq_true spares
    obtain rfl := reads.ike_eq current
    obtain rfl := Option.some.inj (pends.symm.trans pends')
    cases reads.opens.symm.trans opens
    rw [← acceptCreateChild_congr same.1 same.2] at accepted
    exact refused handle accepted
  | exhausted _ found => exact absurd phase found
  | retransmitDead | dpdDead => cases phase
  | probed timer => exact .inl (deadline phase child (by simp [timer, Runner.sparesRequest]))
  | rekeyIdle _ idle =>
    rcases idle with found | none
    · exact absurd phase found
    · simp [Ledger.child, none] at child
  | rekeyUnsent timer _ idle failed =>
    obtain ⟨request, made⟩ := (kept.spelled phase child).1 timer idle
    exact absurd made (failed request)
  | rekeySent _ _ _ made =>
    exact .inr ⟨_, _, rfl, rfl, (Ledger.rekeyRequest_isRequest made).congr rfl rfl rfl⟩

theorem step_scheduled (self : Runner) (input : Env × Wake) (scheduled : self.ledger.Scheduled)
    (kept : ScheduleKept self input) : (self.step input).ledger.Scheduled :=
  (step_move self input.1 input.2).scheduled scheduled kept

theorem Opens.scheduled {config : IpsecConfig} {ledger : Ledger} (opens : Opens config ledger) :
    ledger.Scheduled := by
  intro established
  cases opens <;> cases established

/-- Along every run whose wakes keep the schedule, an installed Child SA has a time for its rekey or its
rekey request is in retransmission. -/
theorem rekey_always_scheduled (env : Env) (config : IpsecConfig) (inputs : List (Env × Wake))
    (admitted : Admitted Runner.step ScheduleKept (Runner.start env config) inputs) :
    (runInputs Runner.step (Runner.start env config) inputs).ledger.Scheduled :=
  run_invariant (I := fun self => self.ledger.Scheduled) step_scheduled
    (start_opens env config).scheduled admitted

end

section

attribute [local instance] checksumCrypto closedTls

def initiatorInputs : List (Env × Wake) :=
  [fromHost 2 11 (lastSent responderKeyed), fromHost 2 12 (lastSent responderUp), (sampleEnv 13, .rekeyTimer),
    (sampleEnv 14, .retransmitTimer),
    fromHost 2 15 (lastSent (responderUp.step (fromHost 1 23 (lastSent initiatorRekeys))))]

theorem rekey_always_scheduled_initiator :
    (∀ count, (runInputs Runner.step initiator (initiatorInputs.take count)).ledger.Scheduled) ∧
      (runInputs Runner.step initiator (initiatorInputs.take 4)).rekeyDeadline = none ∧
      (runInputs Runner.step initiator initiatorInputs).rekeyDeadline.isSome := by
  have admitted : Admitted Runner.step ScheduleKept initiator initiatorInputs ∧
      (runInputs Runner.step initiator (initiatorInputs.take 4)).rekeyDeadline = none ∧
      (runInputs Runner.step initiator initiatorInputs).rekeyDeadline.isSome := by
    decide +kernel
  exact ⟨fun count => rekey_always_scheduled (sampleEnv 10) (sampleConfig 1 2 true [1, 2, 3]) _
    (admitted.1.take count), admitted.2⟩

/-- The answer to a liveness check that was sent before the rekey empties the slot of the rekey. -/
theorem rekey_forgotten :
    let probed := initiatorUp.step (sampleEnv 40, .dpdTimer)
    let answer := lastSent (responderUp.step (fromHost 1 41 (lastSent probed)))
    let self := (probed.step (sampleEnv 42, .rekeyTimer)).step (fromHost 2 43 answer)
    self.phase = .established ∧ self.ledger.child.isSome ∧ self.rekeyDeadline = none ∧
      self.pendingRekey.isSome ∧ self.retransmit = none := by
  decide +kernel

end

end Shuli.Ipsec
