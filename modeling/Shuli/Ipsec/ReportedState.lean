import Shuli.Ipsec.Authentication
import Shuli.Ipsec.Handlers

/-!
The reported state of a connection. The published state, the phase and the Child SA are changed apart
from each other: a Delete of the peer removes the Child SA and leaves the state Established in place,
and a CREATE_CHILD_SA request is answered in phase `closed` as in any other. When neither happens,
Established is published only over a Child SA that was announced and not removed, and a peer that was
declared dead stays dead until it authenticates again.
-/

namespace Shuli.Ipsec

open Fallible Shuli.Core

namespace Ledger

/-- Established is reported only over a Child SA that is on record and announced. -/
def Truthful (ledger : Ledger) : Prop :=
  ledger.published = some .established →
    ∃ child, ledger.child = some child ∧ ledger.announced = some child

/-- What keeps the report truthful: the outside knows of the Child SA on record, a Child SA is on record
in phase `established` only, and a peer that was declared dead is reported so. -/
structure Reported (ledger : Ledger) : Prop where
  announced : ledger.announced = ledger.child
  published : ledger.published = some .established → ledger.child.isSome
  recorded : ledger.child.isSome → ledger.phase = .established
  running : ledger.phase = .established ∨ ledger.phase = .closed → ledger.ike.isSome
  closed : ledger.phase = .closed → ledger.published = some .failed

namespace Reported

variable {ledger : Ledger}

theorem truthful (reported : ledger.Reported) : ledger.Truthful := by
  intro established
  obtain ⟨child, recorded⟩ := Option.isSome_iff_exists.mp (reported.published established)
  exact ⟨child, recorded, reported.announced.trans recorded⟩

theorem absent (reported : ledger.Reported) (phase : ledger.phase ≠ .established) :
    ledger.child = none ∧ ledger.announced = none ∧ ledger.published ≠ some .established := by
  have none : ledger.child = none :=
    Option.not_isSome_iff_eq_none.mp fun some => phase (reported.recorded some)
  refine ⟨none, reported.announced.trans none, fun established => ?_⟩
  exact phase (reported.recorded (reported.published established))

theorem installs (ledger : Ledger) (ike : IkeRuntime) (handle : ChildSaHandle) (deadline : Instant) :
    (ledger.installs ike handle deadline).Reported where
  announced := rfl
  published _ := rfl
  recorded _ := rfl
  running _ := rfl
  closed impossible := nomatch impossible

theorem removes (reported : ledger.Reported) (unpublished : ledger.published ≠ some .established) :
    ledger.removes.Reported where
  announced := (child_removes ledger).symm
  published established := absurd established unpublished
  recorded some := by
    rw [child_removes] at some
    cases some
  running phase := by
    have some := reported.running phase
    change (ledger.ike.map _).isSome
    rwa [Option.isSome_map]
  closed := reported.closed

theorem dies (reported : ledger.Reported) (phase : ledger.phase = .established) :
    ledger.dies.Reported where
  announced := (child_removes ledger).symm
  published impossible := nomatch impossible
  recorded some := by
    have none : ledger.dies.child = none := child_removes ledger
    rw [none] at some
    cases some
  running _ := by
    have some := reported.running (.inl phase)
    change (ledger.ike.map _).isSome
    rwa [Option.isSome_map]
  closed _ := rfl

theorem created (reported : ledger.Reported) {next : Ledger} {ike : IkeRuntime} (phase : ledger.phase ≠ .established)
    (opened : next.ike = some ike) (none : ike.child = none) (announced : next.announced = ledger.announced)
    (published : next.published = ledger.published ∨ next.published = some .connecting)
    (closed : next.phase ≠ .closed) : next.Reported := by
  obtain ⟨_, unannounced, unpublished⟩ := reported.absent phase
  have child : next.child = Option.none := by rw [Ledger.child, opened]; exact none
  refine ⟨by rw [announced, unannounced, child], fun established => ?_, fun some => ?_,
    fun _ => by rw [opened]; rfl, fun impossible => absurd impossible closed⟩
  · rcases published with same | connecting
    · exact absurd (same.symm.trans established) unpublished
    · cases connecting.symm.trans established
  · rw [child] at some
    cases some

end Reported

end Ledger

section

variable [Crypto] [Tls]

def Runner.protectedRequest (self : Runner) : Wake → Option (ExchangeType × List Payload)
  | .datagram data _ =>
    match Message.decode data with
    | .ok message =>
      if message.header.isResponse then none
      else (self.openEncrypted message).toOption.map fun payloads => (message.header.exchange, payloads)
    | .error _ => none
  | _ => none

/-- The wake is no Delete of the Child SA while Established is published, and no CREATE_CHILD_SA request
once the peer was declared dead. -/
def Runner.keepsReport (self : Runner) (wake : Wake) : Bool :=
  match self.protectedRequest wake with
  | some (.informational, payloads) =>
    self.ledger.published != some .established ||
      self.ledger.child.all fun child => !payloads.any (Payload.deletes child)
  | some (.createChildSa, _) => self.phase != .closed
  | _ => true

def ReportKept (self : Runner) (input : Env × Wake) : Prop := self.keepsReport input.2 = true

instance (self : Runner) (input : Env × Wake) : Decidable (ReportKept self input) :=
  inferInstanceAs (Decidable (_ = true))

variable {wake : Wake}

/-- Every move keeps the report, as long as no Delete comes while Established is published. -/
theorem Move.reported {env : Env} {before after : Ledger}
    (move : Move env wake before after) (reported : before.Reported)
    (undeleted : ∀ message ike payloads child, Reads wake before message ike payloads →
      message.header.isResponse = false → message.header.exchange = .informational →
      before.child = some child → payloads.any (Payload.deletes child) = true →
      before.published ≠ some .established) :
    after.Reported := by
  cases move with
  | quiet | notified | saInitTaken | authRequestFailed | authResponseFailed | eapUnsent | eapContinued
  | informed | answered | rekeyIgnored | rekeyRefused | retransmitted | probeUnsent | probed | rekeyIdle
  | rekeyPostponed | rekeyUnsent =>
    exact ⟨reported.announced, reported.published, reported.recorded, reported.running, reported.closed⟩
  | authAnswered | authCompleted | rekeyAnswered | rekeyCompleted =>
    exact Ledger.Reported.installs _ _ _ _
  | createdResponder _ _ _ _ fresh answered =>
    have phase : before.phase ≠ .established := fun established => by
      have some := reported.running (.inl established)
      rw [fresh] at some
      cases some
    exact reported.created phase rfl (answerSaInit_responded answered).child rfl (.inr rfl) (by simp)
  | createdUnsent _ _ _ phase _ accepted =>
    have none := (acceptSaInit_initiated accepted).child
    exact reported.created (by simp [phase]) rfl none rfl (.inl rfl) (by simp [phase])
  | createdInitiator _ _ _ phase _ accepted _ inAuth =>
    have none := (acceptSaInit_initiated accepted).child
    refine reported.created (by simp [phase]) rfl none rfl (.inl rfl) ?_
    rcases inAuth with rfl | rfl <;> simp
  | deletedUnsent reads request exchange recorded deletes =>
    exact reported.removes (undeleted _ _ _ _ reads request exchange recorded deletes)
  | deleted reads request exchange recorded deletes =>
    have removed := reported.removes (undeleted _ _ _ _ reads request exchange recorded deletes)
    exact ⟨removed.announced, removed.published, removed.recorded, removed.running, removed.closed⟩
  | exhausted _ phase =>
    refine ⟨reported.announced, fun impossible => (nomatch impossible), reported.recorded,
      reported.running, fun _ => rfl⟩
  | retransmitDead _ phase =>
    have dead := reported.dies phase
    exact ⟨dead.announced, dead.published, dead.recorded, dead.running, dead.closed⟩
  | dpdDead _ phase => exact reported.dies phase
  | rekeySent _ phase =>
    refine ⟨reported.announced, fun impossible => (nomatch impossible), reported.recorded,
      reported.running, fun closed => ?_⟩
    cases phase.symm.trans closed

theorem protectedRequest_of_reads {self : Runner} {message : Message} {ike : IkeRuntime}
    {payloads : List Payload} (reads : Reads wake self.ledger message ike payloads)
    (request : message.header.isResponse = false) :
    self.protectedRequest wake = some (message.header.exchange, payloads) := by
  obtain ⟨data, source, rfl, decoded⟩ := reads.delivers
  have opens : self.openEncrypted message = .ok payloads := by
    rw [Runner.openEncrypted, show self.ike = some ike from reads.current]
    exact reads.opens
  simp [Runner.protectedRequest, decoded, request, opens, Except.toOption]

theorem step_reported (self : Runner) (input : Env × Wake) (reported : self.ledger.Reported)
    (kept : ReportKept self input) : (self.step input).ledger.Reported := by
  refine (step_move self input.1 input.2).reported reported ?_
  intro message ike payloads child reads request exchange recorded deletes published
  have opened := protectedRequest_of_reads reads request
  rw [exchange] at opened
  simp [ReportKept, Runner.keepsReport, opened, published, recorded, deletes] at kept

omit [Crypto] in
theorem Opens.reported {config : IpsecConfig} {ledger : Ledger} (opens : Opens config ledger) :
    ledger.Reported := by
  cases opens with
  | waiting =>
    refine ⟨rfl, fun impossible => (nomatch impossible), fun impossible => (nomatch impossible), ?_,
      fun impossible => (nomatch impossible)⟩
    rintro (impossible | impossible) <;> cases impossible
  | saInitSent =>
    refine ⟨rfl, fun impossible => (nomatch impossible), fun impossible => (nomatch impossible), ?_,
      fun impossible => (nomatch impossible)⟩
    rintro (impossible | impossible) <;> cases impossible

def Wake.isAuthRequest : Wake → Bool
  | .datagram data _ =>
    match Message.decode data with
    | .ok message => !message.header.isResponse && message.header.exchange == .ikeAuth
    | .error _ => false
  | _ => false

omit [Crypto] [Tls] in
theorem isAuthRequest_of_delivers {message : Message} (delivers : wake.Delivers message)
    (request : message.header.isResponse = false) (exchange : message.header.exchange = .ikeAuth) :
    wake.isAuthRequest = true := by
  obtain ⟨data, source, rfl, decoded⟩ := delivers
  simp [Wake.isAuthRequest, decoded, request, exchange]

/-- Only a request can take the books out of phase `closed`. -/
theorem Move.closed {env : Env} {before after : Ledger}
    (move : Move env wake before after) (closed : before.phase = .closed) (some : before.ike.isSome)
    (unauthenticated : wake.isAuthRequest = false)
    (unanswered : ∀ message ike payloads, Reads wake before message ike payloads →
      message.header.isResponse = false → message.header.exchange ≠ .createChildSa) :
    after.phase = .closed := by
  have elsewhere {other : Phase} (phase : before.phase = other) (apart : other ≠ .closed) : False :=
    apart (phase.symm.trans closed)
  have unready (inAuth : before.phase.inAuth) : False := by
    rcases inAuth with phase | phase
    · exact elsewhere phase (by decide)
    · exact elsewhere phase (by decide)
  cases move with
  | quiet | notified | saInitTaken | createdUnsent | authRequestFailed | authResponseFailed | eapUnsent
  | eapContinued | informed | deletedUnsent | deleted | answered | rekeyIgnored | rekeyRefused
  | retransmitted | exhausted | probeUnsent | probed | rekeyIdle | rekeyPostponed | rekeyUnsent
  | rekeySent => exact closed
  | retransmitDead | dpdDead => rfl
  | createdResponder _ _ _ _ fresh =>
    rw [fresh] at some
    cases some
  | createdInitiator _ _ _ phase => exact (elsewhere phase (by decide)).elim
  | authAnswered reads request exchange =>
    rw [isAuthRequest_of_delivers reads.delivers request exchange] at unauthenticated
    cases unauthenticated
  | authCompleted _ _ inAuth => exact (unready inAuth).elim
  | rekeyAnswered reads request exchange => exact absurd exchange (unanswered _ _ _ reads request)
  | rekeyCompleted _ _ _ phase => exact (elsewhere phase (by decide)).elim

theorem step_closed (self : Runner) (input : Env × Wake) (reported : self.ledger.Reported)
    (kept : ReportKept self input) (closed : self.phase = .closed)
    (unauthenticated : input.2.isAuthRequest = false) : (self.step input).phase = .closed := by
  refine (step_move self input.1 input.2).closed closed (reported.running (.inr closed)) unauthenticated ?_
  intro message ike payloads reads request exchange
  have opened := protectedRequest_of_reads reads request
  rw [exchange] at opened
  simp [ReportKept, Runner.keepsReport, opened, closed] at kept

theorem run_reported (env : Env) (config : IpsecConfig) {inputs : List (Env × Wake)}
    (admitted : Admitted Runner.step ReportKept (Runner.start env config) inputs) :
    (runInputs Runner.step (Runner.start env config) inputs).ledger.Reported :=
  run_invariant (I := fun self => self.ledger.Reported) step_reported (start_opens env config).reported
    admitted

theorem run_closed {self : Runner} {inputs : List (Env × Wake)} (reported : self.ledger.Reported)
    (closed : self.phase = .closed) (admitted : Admitted Runner.step ReportKept self inputs)
    (unauthenticated : ∀ input ∈ inputs, input.2.isAuthRequest = false) :
    (runInputs Runner.step self inputs).phase = .closed := by
  induction inputs generalizing self with
  | nil => exact closed
  | cons input inputs ih =>
    rw [List.forall_mem_cons] at unauthenticated
    exact ih (step_reported self input reported admitted.1)
      (step_closed self input reported admitted.1 closed unauthenticated.1) admitted.2 unauthenticated.2

/-- The reported state is truthful along every run that keeps the report: Established is published only
over a Child SA on record that was announced and not removed, and once the peer was declared dead the
connection stays closed and failed as long as the peer does not authenticate again, whatever
CREATE_CHILD_SA messages it sends. -/
theorem reported_state_truthful (env : Env) (config : IpsecConfig) (early late : List (Env × Wake))
    (admitted : Admitted Runner.step ReportKept (Runner.start env config) (early ++ late)) :
    let dying := runInputs Runner.step (Runner.start env config) early
    let self := runInputs Runner.step (Runner.start env config) (early ++ late)
    self.ledger.Truthful ∧
      (dying.phase = .closed → (∀ input ∈ late, input.2.isAuthRequest = false) →
        self.phase = .closed ∧ self.ledger.published = some .failed) := by
  have reported := run_reported env config admitted
  refine ⟨reported.truthful, fun closed unauthenticated => ?_⟩
  obtain ⟨before, after⟩ := Admitted.append.mp admitted
  have stays : (runInputs Runner.step (Runner.start env config) (early ++ late)).phase = .closed := by
    rw [runInputs_append]
    exact run_closed (run_reported env config before) closed after unauthenticated
  exact ⟨stays, reported.closed stays⟩

end

section

attribute [local instance] checksumCrypto closedTls

def unansweredProbes : List (Env × Wake) :=
  [(sampleEnv 60, .dpdTimer), (sampleEnv 100, .dpdTimer), (sampleEnv 140, .dpdTimer),
    (sampleEnv 180, .dpdTimer)]

theorem reported_state_truthful_responder :
    let inputs := responderInputs.take 2 ++ unansweredProbes
    let self := runInputs Runner.step responder (inputs ++ [fromHost 1 200 (lastSent initiator)])
    self.ledger.Truthful ∧ self.phase = .closed ∧ self.ledger.published = some .failed := by
  have admitted : Admitted Runner.step ReportKept responder
      ((responderInputs.take 2 ++ unansweredProbes) ++ [fromHost 1 200 (lastSent initiator)]) ∧
      (runInputs Runner.step responder (responderInputs.take 2 ++ unansweredProbes)).phase = .closed ∧
      ∀ input ∈ [fromHost 1 200 (lastSent initiator)], input.2.isAuthRequest = false := by
    decide +kernel
  have truthful := reported_state_truthful (sampleEnv 20) (sampleConfig 2 1 false [1, 2, 3])
    (responderInputs.take 2 ++ unansweredProbes) [fromHost 1 200 (lastSent initiator)] admitted.1
  exact ⟨truthful.1, truthful.2 admitted.2.1 admitted.2.2⟩

/-- A Delete of the peer leaves Established published without a Child SA, and a rekey request brings
back a connection whose peer was declared dead. -/
theorem reported_state_untruthful :
    let deleting := responderUp.step (fromHost 1 30 (lastSent (initiatorUp.shutdownConnection (sampleEnv 31))))
    let revived := (runInputs Runner.step responderUp unansweredProbes).step
      (fromHost 1 200 (lastSent initiatorRekeys))
    (deleting.ledger.published = some .established ∧ deleting.ledger.child = none) ∧
      (runInputs Runner.step responderUp unansweredProbes).phase = .closed ∧
      revived.phase = .established ∧ revived.ledger.published = some .established := by
  decide +kernel

end

end Shuli.Ipsec
