import Shuli.Ipsec.Effects

/-!
What one wake of a runner does to its books: the IKE SA with its Child SA, the pending exchanges, the
message in retransmission, the next message identifier, the time of the next rekey, what was sent, and
the state and the Child SA that the outside was told of. `Move` lists every way out of every handler,
and `step_move` runs the handlers once.
-/

namespace Shuli.Ipsec

open Fallible Shuli.Core

def Action.published? : Action → Option IpsecState
  | .published state => some state
  | _ => none

/-- The Child SA that the outside knows of, after one more action. -/
def Action.announces (child : Option ChildSaHandle) : Action → Option ChildSaHandle
  | .event (.childSaReady _ _ child _) => some child
  | .event (.childSaRefreshed _ _ child _) => some child
  | .event (.childSaRemoved ..) => none
  | _ => child

structure Ledger where
  config : IpsecConfig
  phase : Phase
  ike : Option IkeRuntime
  peerIndex : Nat
  pendingSaInit : Option PendingSaInit
  pendingRekey : Option PendingRekey
  /-- the message in retransmission -/
  slot : Option Octets
  nextMessageId : UInt32
  rekeyDeadline : Option Instant
  sent : List Octets
  published : Option IpsecState
  announced : Option ChildSaHandle

namespace Ledger

def peer? (ledger : Ledger) : Option PeerConfig := ledger.config.peers[ledger.peerIndex]?

def child (ledger : Ledger) : Option ChildSaHandle := ledger.ike.bind IkeRuntime.child

def posts (ledger : Ledger) (message : Octets) : Ledger :=
  { ledger with sent := ledger.sent ++ [message] }

def installs (ledger : Ledger) (ike : IkeRuntime) (handle : ChildSaHandle) (deadline : Instant) :
    Ledger :=
  { ledger with
    phase := .established
    ike := some { ike with child := some handle }
    slot := none
    rekeyDeadline := some deadline
    published := some .established
    announced := some handle }

def removes (ledger : Ledger) : Ledger :=
  { ledger with ike := ledger.ike.map fun ike => { ike with child := none }, announced := none }

theorem child_removes (ledger : Ledger) : ledger.removes.child = none := by
  change (ledger.ike.map fun ike => { ike with child := none }).bind IkeRuntime.child = none
  cases ledger.ike <;> rfl

def dies (ledger : Ledger) : Ledger :=
  { ledger.removes with phase := .closed, published := some .failed }

end Ledger

def IkeRuntime.headerFor (ike : IkeRuntime) (exchange : ExchangeType) (messageId : UInt32)
    (request : Bool) : IkeHeader :=
  let initiator := ike.role = Role.initiator
  IkeHeader.new (if initiator then ike.localSpi else ike.remoteSpi)
    (if initiator then ike.remoteSpi else ike.localSpi) exchange
    ((if initiator then flagInitiator else 0) ||| (if request then 0 else flagResponse)) messageId

namespace Runner

variable [Tls]

def ledger (self : Runner) : Ledger where
  config := self.config
  phase := self.phase
  ike := self.ike
  peerIndex := self.peerIndex
  pendingSaInit := self.pendingSaInit
  pendingRekey := self.pendingRekey
  slot := self.retransmit.map Retransmit.message
  nextMessageId := self.nextMessageId
  rekeyDeadline := self.rekeyDeadline
  sent := self.trace.filterMap Action.message?
  published := (self.trace.filterMap Action.published?).getLast?
  announced := self.trace.foldl Action.announces none

/-- What one more action changes in the books. -/
theorem ledger_record (self : Runner) (action : Action) :
    (self.record action).ledger = { self.ledger with
      sent := self.ledger.sent ++ action.message?.toList
      published := action.published?.or self.ledger.published
      announced := action.announces self.ledger.announced } := by
  have sent : (self.record action).ledger.sent = self.ledger.sent ++ action.message?.toList := by
    change (self.trace ++ [action]).filterMap Action.message? = _
    rw [List.filterMap_append]
    cases message : action.message? <;> simp [ledger, message]
  have published : (self.record action).ledger.published =
      action.published?.or self.ledger.published := by
    change ((self.trace ++ [action]).filterMap Action.published?).getLast? = _
    rw [List.filterMap_append]
    cases state : action.published? <;> simp [ledger, state]
  have announced : (self.record action).ledger.announced =
      action.announces self.ledger.announced := List.foldl_append
  rw [← sent, ← published, ← announced]
  rfl

theorem ledger_record_told (self : Runner) (action : Action) (unsent : action.message? = none)
    (unpublished : action.published? = none) :
    (self.record action).ledger =
      { self.ledger with announced := action.announces self.ledger.announced } := by
  rw [ledger_record, unsent, unpublished]
  simp

theorem ledger_record_silent (self : Runner) (action : Action) (unsent : action.message? = none)
    (unpublished : action.published? = none) (unannounced : ∀ child, action.announces child = child) :
    (self.record action).ledger = self.ledger := by
  rw [ledger_record_told _ _ unsent unpublished, unannounced]

@[simp] theorem ledger_recordSent (self : Runner) (message : Octets) :
    (self.recordSent message).ledger = self.ledger.posts message := ledger_record _ _

@[simp] theorem ledger_setState (self : Runner) (state : IpsecState) :
    (self.setState state).ledger = { self.ledger with published := some state } := by
  rw [setState, ledger_record_silent _ _ rfl rfl fun _ => rfl, ledger_record]
  simp [Action.message?, Action.published?, Action.announces]

theorem ledger_reported (outcome : Except IpsecError Unit × Runner) :
    (reported outcome).ledger = outcome.2.ledger := by
  obtain ⟨error | _, after⟩ := outcome
  · exact ledger_record_silent _ _ rfl rfl fun _ => rfl
  · rfl

theorem ledger_announceChild (self : Runner) (env : Env) (handle : ChildSaHandle) (ike : IkeRuntime)
    (current : self.ike = some ike) :
    (self.announceChild env handle).ledger = { self.ledger with
      ike := some { ike with child := some handle }, announced := some handle } := by
  have announces : (Action.event (self.childEvent env handle ike.child.isSome)).announces
      self.ledger.announced = some handle := by
    unfold childEvent
    split <;> rfl
  rw [announceChild, current, ← announces]
  exact ledger_record_told _ (.event _) rfl rfl

theorem ledger_installChild (self : Runner) (env : Env) (handle : ChildSaHandle) (ike : IkeRuntime)
    (current : self.ike = some ike) :
    ∃ deadline, (self.installChild env handle).ledger = self.ledger.installs ike handle deadline := by
  have announced := (self.record (.childInstalled handle)).ledger_announceChild env handle ike current
  rw [ledger_record_silent _ _ rfl rfl fun _ => rfl] at announced
  generalize told : (self.record (.childInstalled handle)).announceChild env handle = next at announced
  refine ⟨env.now + ((next.setPhase .established).clearRetransmit.setState .established).rekeyAfter, ?_⟩
  have published := ledger_setState (next.setPhase .established).clearRetransmit .established
  rw [installChild, told]
  calc
    _ = { ((next.setPhase .established).clearRetransmit.setState .established).ledger with
          rekeyDeadline := some (env.now +
            ((next.setPhase .established).clearRetransmit.setState .established).rekeyAfter) } := rfl
    _ = { next.ledger with
          phase := .established
          slot := none
          published := some .established
          rekeyDeadline := some (env.now +
            ((next.setPhase .established).clearRetransmit.setState .established).rekeyAfter) } := by
      rw [published]
      rfl
    _ = _ := by
      rw [announced]
      rfl

theorem ledger_removeChild (self : Runner) (reason : ChildSaRemovalReason) :
    (self.removeChild reason).ledger = self.ledger.removes := by
  rw [removeChild, ledger_record_told _ _ rfl rfl, ledger_record_silent _ _ rfl rfl fun _ => rfl]
  rfl

theorem headerFor_eq {self : Runner} {ike : IkeRuntime} (current : self.ike = some ike)
    (exchange : ExchangeType) (messageId : UInt32) (request : Bool) :
    self.headerFor exchange messageId request = ike.headerFor exchange messageId request := by
  unfold headerFor IkeRuntime.headerFor
  rw [current]
  by_cases initiator : ike.role = .initiator <;> simp [initiator]

theorem sealPayloads_eq [Crypto] {self : Runner} {ike : IkeRuntime} (current : self.ike = some ike)
    (env : Env) (header : IkeHeader) (payloads : List Payload) :
    self.sealPayloads env header payloads = ike.sealPayloads env header payloads := by
  rw [sealPayloads, current]

end Runner

section

variable [Crypto]

def Ledger.rekeyRequest (ledger : Ledger) (env : Env) : Except IpsecError (Octets × PendingRekey) := do
  let ike ← orThrow ledger.ike unwrapFailed
  let suite ← orThrow ledger.config.child.proposals.head? (IpsecError.config "no Child SA proposal")
  let localSpi ← env.randomU32
  let nonceI ← env.nonce nonceLen
  let keyPair ← rekeyKeyPair env suite.dh
  let peer ← orThrow ledger.peer? unwrapFailed
  let message ← ike.sealPayloads env (ike.headerFor .createChildSa ledger.nextMessageId true)
    (rekeyPayloads ledger.config.child.proposals peer.selectors localSpi nonceI.val keyPair)
  env.send
  return (message, { keyPair, nonceI := nonceI.val, localSpi, suite })

def Ledger.probe (ledger : Ledger) (env : Env) : Except IpsecError Octets := do
  let ike ← orThrow ledger.ike unwrapFailed
  let message ← ike.sealPayloads env (ike.headerFor .informational ledger.nextMessageId true) []
  env.send
  return message

/-- The wake delivers a message that opens under the IKE SA on record. -/
structure Reads (wake : Wake) (before : Ledger) (message : Message) (ike : IkeRuntime)
    (payloads : List Payload) : Prop where
  delivers : wake.Delivers message
  current : before.ike = some ike
  opens : ike.openEncrypted message = .ok payloads

/-- The payloads are sealed under the IKE SA and leave. -/
structure Posted (env : Env) (ike : IkeRuntime) (header : IkeHeader) (payloads : List Payload)
    (message : Octets) : Prop where
  made : ike.sealPayloads env header payloads = .ok message
  left : env.send = .ok ()

variable {env : Env} {message : Octets}

theorem Ledger.probe_eq_ok {ledger : Ledger} :
    ledger.probe env = .ok message ↔ ∃ ike, ledger.ike = some ike ∧
      Posted env ike (ike.headerFor .informational ledger.nextMessageId true) [] message := by
  simp only [probe, Except.bind_eq_ok, orThrow_eq_ok]
  constructor
  · rintro ⟨ike, current, _, made, _, left, same⟩
    cases same
    exact ⟨ike, current, made, left⟩
  · rintro ⟨ike, current, made, left⟩
    exact ⟨ike, current, message, made, (), left, rfl⟩

theorem Ledger.rekeyRequest_eq_ok {ledger : Ledger} {pending : PendingRekey} :
    ledger.rekeyRequest env = .ok (message, pending) ↔ ∃ ike nonceI peer,
      ledger.ike = some ike ∧ ledger.config.child.proposals.head? = some pending.suite ∧
      env.randomU32 = .ok pending.localSpi ∧ env.nonce nonceLen = .ok nonceI ∧
      nonceI.val = pending.nonceI ∧ rekeyKeyPair env pending.suite.dh = .ok pending.keyPair ∧
      ledger.peer? = some peer ∧
      Posted env ike (ike.headerFor .createChildSa ledger.nextMessageId true)
        (rekeyPayloads ledger.config.child.proposals peer.selectors pending.localSpi pending.nonceI
          pending.keyPair) message := by
  simp only [rekeyRequest, Except.bind_eq_ok, orThrow_eq_ok]
  constructor
  · rintro ⟨ike, current, suite, first, spi, drawn, nonceI, nonce, keyPair, pair, peer, configured,
      _, made, _, left, same⟩
    cases same
    exact ⟨ike, nonceI, peer, current, first, drawn, nonce, rfl, pair, configured, made, left⟩
  · rintro ⟨ike, nonceI, peer, current, first, drawn, nonce, same, pair, configured, made, left⟩
    rw [← same] at made
    refine ⟨ike, current, pending.suite, first, pending.localSpi, drawn, nonceI, nonce, pending.keyPair,
      pair, peer, configured, message, made, (), left, ?_⟩
    rw [same]
    rfl

/-- The environment answers what an initiator asks between IKE_SA_INIT and IKE_AUTH. -/
def Env.Completes (env : Env) : Prop := env.localAddr.isOk ∧ env.bindNatT.isOk ∧ env.randomU32.isOk

instance (env : Env) : Decidable env.Completes := inferInstanceAs (Decidable (_ ∧ _))

variable [Tls]

def Runner.ConfiguredAs (self : Runner) (ledger : Ledger) : Prop :=
  self.config = ledger.config ∧ self.peerIndex = ledger.peerIndex

inductive Move (env : Env) (wake : Wake) (before : Ledger) : Ledger → Prop
  | quiet : Move env wake before before
  -- IKE_SA_INIT
  | notified {message : Message} {notify : Octets} {payload : Payload}
      (delivers : wake.Delivers message) (request : message.header.isResponse = false)
      (fresh : before.ike = none)
      (encoded : Message.encode ⟨IkeHeader.new message.header.initiatorSpi 0 .ikeSaInit flagResponse 0,
        [payload]⟩ = .ok notify) :
      Move env wake before (before.posts notify)
  | createdResponder {data : Octets} {source : SocketAddr} {message : Message} {self : Runner}
      {suite : IkeProposal} {number : UInt8} {peerPublic response : Octets} {ike : IkeRuntime}
      {peerIndex : Nat}
      (delivers : wake = .datagram data source) (decoded : Message.decode data = .ok message)
      (request : message.header.isResponse = false) (exchange : message.header.exchange = .ikeSaInit)
      (fresh : before.ike = none)
      (answered : answerSaInit self env data source message suite number peerPublic =
        .ok (ike, response)) :
      Move env wake before
        { before.posts response with
          ike := some ike, peerIndex, phase := .authSent, slot := some response
          published := some .connecting }
  | saInitTaken {data : Octets} {source : SocketAddr} {message : Message} {pending : PendingSaInit}
      {slot : Option Octets}
      (delivers : wake = .datagram data source) (decoded : Message.decode data = .ok message)
      (response : message.header.isResponse = true) (phase : before.phase = .saInitSent)
      (pends : before.pendingSaInit = some pending)
      (unfinished : ¬((acceptSaInit pending data message).isOk ∧ env.Completes))
      (kept : slot = before.slot ∨ slot = none) :
      Move env wake before { before with pendingSaInit := none, slot }
  | createdUnsent {data : Octets} {source : SocketAddr} {message : Message} {pending : PendingSaInit}
      {ike : IkeRuntime} {localChildSpi nextMessageId : UInt32}
      (delivers : wake = .datagram data source) (decoded : Message.decode data = .ok message)
      (response : message.header.isResponse = true) (phase : before.phase = .saInitSent)
      (pends : before.pendingSaInit = some pending)
      (accepted : acceptSaInit pending data message = .ok ike) :
      Move env wake before
        { before with
          ike := some { ike with localChildSpi }
          pendingSaInit := none, slot := none, nextMessageId }
  | createdInitiator {data : Octets} {source : SocketAddr} {message : Message} {pending : PendingSaInit}
      {ike : IkeRuntime} {localChildSpi : UInt32} {payloads : List Payload} {encrypted : Octets}
      {next : Phase}
      (delivers : wake = .datagram data source) (decoded : Message.decode data = .ok message)
      (response : message.header.isResponse = true) (phase : before.phase = .saInitSent)
      (pends : before.pendingSaInit = some pending)
      (accepted : acceptSaInit pending data message = .ok ike)
      (posted : Posted env { ike with localChildSpi } (ike.headerFor .ikeAuth 1 true) payloads encrypted)
      (inAuth : next.inAuth) :
      Move env wake before
        { before.posts encrypted with
          ike := some { ike with localChildSpi }
          pendingSaInit := none, slot := some encrypted, nextMessageId := 2, phase := next }
  -- IKE_AUTH
  | authRequestFailed {message : Message} (delivers : wake.Delivers message)
      (request : message.header.isResponse = false) (exchange : message.header.exchange = .ikeAuth) :
      Move env wake before { before with slot := none }
  | authAnswered {message : Message} {ike : IkeRuntime} {payloads : List Payload} {peer : PeerConfig}
      {self : Runner} {answer : ChildAnswer} {signed auth encrypted : Octets} {deadline : Instant}
      (reads : Reads wake before message ike payloads) (request : message.header.isResponse = false)
      (exchange : message.header.exchange = .ikeAuth) (same : self.ConfiguredAs before)
      (configured : before.peer? = some peer)
      (answered : answerAuth self env peer ike payloads = .ok (answer, signed, auth))
      (posted : Posted env ike (ike.headerFor .ikeAuth message.header.messageId false) answer.response
        encrypted) :
      Move env wake before ((before.posts encrypted).installs ike answer.handle deadline)
  | authResponseFailed {message : Message} (delivers : wake.Delivers message)
      (response : message.header.isResponse = true) (phase : before.phase.inAuth) :
      Move env wake before { before with slot := none }
  | eapUnsent {message : Message} (delivers : wake.Delivers message)
      (response : message.header.isResponse = true) (phase : before.phase.inAuth) :
      Move env wake before
        { before with slot := none, nextMessageId := before.nextMessageId + 1 }
  | eapContinued {message : Message} {ike : IkeRuntime} {payloads request : List Payload}
      {encrypted : Octets}
      (reads : Reads wake before message ike payloads) (response : message.header.isResponse = true)
      (phase : before.phase.inAuth)
      (posted : Posted env ike (ike.headerFor .ikeAuth before.nextMessageId true) request encrypted) :
      Move env wake before
        { before.posts encrypted with
          slot := some encrypted, nextMessageId := before.nextMessageId + 1 }
  | authCompleted {message : Message} {ike : IkeRuntime} {payloads : List Payload} {peer : PeerConfig}
      {self : Runner} {handle : ChildSaHandle} {innerAddresses : List IpNet} {dns : List IpAddr}
      {deadline : Instant}
      (reads : Reads wake before message ike payloads) (response : message.header.isResponse = true)
      (phase : before.phase.inAuth) (same : self.ConfiguredAs before) (configured : before.peer? = some peer)
      (accepted : acceptAuth self peer ike payloads = .ok handle) :
      Move env wake before (before.installs { ike with innerAddresses, dns } handle deadline)
  -- INFORMATIONAL
  | informed {message : Message} {ike : IkeRuntime} {payloads response : List Payload}
      {encrypted : Octets}
      (reads : Reads wake before message ike payloads) (request : message.header.isResponse = false)
      (exchange : message.header.exchange = .informational)
      (posted : Posted env ike (ike.headerFor .informational message.header.messageId false) response
        encrypted) :
      Move env wake before (before.posts encrypted)
  | deletedUnsent {message : Message} {ike : IkeRuntime} {payloads : List Payload}
      {child : ChildSaHandle}
      (reads : Reads wake before message ike payloads) (request : message.header.isResponse = false)
      (exchange : message.header.exchange = .informational)
      (recorded : before.child = some child) (deletes : payloads.any (Payload.deletes child) = true) :
      Move env wake before before.removes
  | deleted {message : Message} {ike : IkeRuntime} {payloads response : List Payload}
      {child : ChildSaHandle} {encrypted : Octets}
      (reads : Reads wake before message ike payloads) (request : message.header.isResponse = false)
      (exchange : message.header.exchange = .informational)
      (recorded : before.child = some child) (deletes : payloads.any (Payload.deletes child) = true)
      (posted : Posted env { ike with child := none }
        (ike.headerFor .informational message.header.messageId false) response encrypted) :
      Move env wake before (before.removes.posts encrypted)
  | answered {message : Message} (delivers : wake.Delivers message)
      (response : message.header.isResponse = true)
      (exchange : message.header.exchange = .informational) (phase : before.phase = .established) :
      Move env wake before { before with slot := none }
  -- CREATE_CHILD_SA
  | rekeyAnswered {message : Message} {ike : IkeRuntime} {payloads : List Payload} {self : Runner}
      {answer : ChildAnswer} {encrypted : Octets} {deadline : Instant}
      (reads : Reads wake before message ike payloads) (request : message.header.isResponse = false)
      (exchange : message.header.exchange = .createChildSa) (same : self.ConfiguredAs before)
      (answered : answerCreateChild self env ike payloads = .ok answer)
      (posted : Posted env ike (ike.headerFor .createChildSa message.header.messageId false)
        answer.response encrypted) :
      Move env wake before ((before.posts encrypted).installs ike answer.handle deadline)
  | rekeyIgnored {message : Message} (delivers : wake.Delivers message)
      (response : message.header.isResponse = true)
      (exchange : message.header.exchange = .createChildSa) (phase : before.phase = .established)
      (unread : before.pendingRekey = none ∨ ∀ ike payloads, ¬Reads wake before message ike payloads) :
      Move env wake before { before with slot := none }
  | rekeyRefused {message : Message} {ike : IkeRuntime} {payloads : List Payload} {self : Runner}
      {pending : PendingRekey}
      (reads : Reads wake before message ike payloads) (response : message.header.isResponse = true)
      (exchange : message.header.exchange = .createChildSa) (phase : before.phase = .established)
      (same : self.ConfiguredAs before) (pends : before.pendingRekey = some pending)
      (refused : ∀ handle, acceptCreateChild self ike pending payloads ≠ .ok handle) :
      Move env wake before { before with slot := none, pendingRekey := none }
  | rekeyCompleted {message : Message} {ike : IkeRuntime} {payloads : List Payload} {self : Runner}
      {pending : PendingRekey} {handle : ChildSaHandle} {deadline : Instant}
      (reads : Reads wake before message ike payloads) (response : message.header.isResponse = true)
      (exchange : message.header.exchange = .createChildSa) (phase : before.phase = .established)
      (same : self.ConfiguredAs before) (pends : before.pendingRekey = some pending)
      (accepted : acceptCreateChild self ike pending payloads = .ok handle) :
      Move env wake before ({ before with pendingRekey := none }.installs ike handle deadline)
  -- timers
  | retransmitted {message : Octets} (timer : wake = .retransmitTimer)
      (armed : before.slot = some message) :
      Move env wake before (before.posts message)
  | exhausted (timer : wake = .retransmitTimer) (phase : before.phase ≠ .established) :
      Move env wake before { before with slot := none, published := some .failed }
  | retransmitDead (timer : wake = .retransmitTimer) (phase : before.phase = .established) :
      Move env wake before { before with slot := none }.dies
  | dpdDead (timer : wake = .dpdTimer) (phase : before.phase = .established) :
      Move env wake before before.dies
  | probeUnsent (timer : wake = .dpdTimer) (phase : before.phase = .established)
      (failed : ∀ message, before.probe env ≠ .ok message) :
      Move env wake before { before with nextMessageId := before.nextMessageId + 1 }
  | probed {message : Octets} (timer : wake = .dpdTimer) (phase : before.phase = .established)
      (made : before.probe env = .ok message) :
      Move env wake before
        { before.posts message with
          slot := some message, nextMessageId := before.nextMessageId + 1 }
  | rekeyIdle (timer : wake = .rekeyTimer) (idle : before.phase ≠ .established ∨ before.ike = none) :
      Move env wake before { before with rekeyDeadline := none }
  | rekeyPostponed {deadline : Instant} (timer : wake = .rekeyTimer)
      (pends : before.pendingRekey.isSome) :
      Move env wake before { before with rekeyDeadline := some deadline }
  | rekeyUnsent {nextMessageId : UInt32} (timer : wake = .rekeyTimer)
      (phase : before.phase = .established) (idle : before.pendingRekey = none)
      (failed : ∀ request, before.rekeyRequest env ≠ .ok request) :
      Move env wake before { before with rekeyDeadline := none, nextMessageId }
  | rekeySent {message : Octets} {pending : PendingRekey} (timer : wake = .rekeyTimer)
      (phase : before.phase = .established) (idle : before.pendingRekey = none)
      (made : before.rekeyRequest env = .ok (message, pending)) :
      Move env wake before
        { before.posts message with
          rekeyDeadline := none, pendingRekey := some pending, slot := some message
          nextMessageId := before.nextMessageId + 1, published := some .rekeying }

variable {self : Runner} {wake : Wake} {payloads : List Payload}

theorem Reads.of_runner {message : Message}
    (delivers : wake.Delivers message) (opens : self.openEncrypted message = .ok payloads) :
    ∃ ike, Reads wake self.ledger message ike payloads := by
  cases current : self.ike with
  | none => simp [Runner.openEncrypted, current] at opens
  | some ike =>
    exact ⟨ike, delivers, current, by simpa only [Runner.openEncrypted, current] using opens⟩

variable {before : Ledger}

omit [Tls] in
theorem Reads.ike_eq {message : Message} {ike other : IkeRuntime} (reads : Reads wake before message ike payloads)
    (current : before.ike = some other) : ike = other :=
  Option.some.inj (reads.current.symm.trans current)

omit [Crypto] in
theorem ends_sent {Q : Except IpsecError Unit → Runner → Prop} (failed : ∀ e, env.send = .error e → Q (.error e) self)
    (passed : env.send = .ok () → Q (.ok ()) (self.recordSent message)) :
    Ends (send env message) self Q :=
  Ends.liftM_bind failed fun _ left => passed left

omit [Crypto] in
theorem ends_sent_bind {β : Type} {f : Unit → Engine β}
    {Q : Except IpsecError β → Runner → Prop} (failed : ∀ e, env.send = .error e → Q (.error e) self)
    (passed : env.send = .ok () → Ends (f ()) (self.recordSent message) Q) :
    Ends (send env message >>= f) self Q := by
  refine Ends.bind (R := orElse (fun _ after => env.send = .ok () ∧ after = self.recordSent message)
    fun e after => env.send = .error e ∧ after = self)
    (ends_sent (fun _ left => ⟨left, rfl⟩) fun left => ⟨left, rfl⟩) ?_ ?_
  · rintro e _ ⟨left, rfl⟩
    exact failed e left
  · rintro _ _ ⟨left, rfl⟩
    exact passed left

variable {ike : IkeRuntime}

theorem Posted.of_runner {exchange : ExchangeType} {messageId : UInt32} {request : Bool}
    (current : self.ike = some ike)
    (made : self.sealPayloads env (self.headerFor exchange messageId request) payloads = .ok message)
    (left : env.send = .ok ()) :
    Posted env ike (ike.headerFor exchange messageId request) payloads message := by
  rw [Runner.sealPayloads_eq current, Runner.headerFor_eq current] at made
  exact ⟨made, left⟩

omit [Crypto] in
theorem ledger_opened (self : Runner) (opening : AuthOpening) :
    (self.opened opening).ledger = { self.ledger with nextMessageId := 2 } := by
  unfold Runner.opened
  cases opening.computed with
  | none => rfl
  | some computed => exact Runner.ledger_record_silent _ _ rfl rfl fun _ => rfl

omit [Crypto] in
theorem ledger_dies :
    (((self.removeChild .peerDead).setPhase .closed).setState .failed).ledger = self.ledger.dies := by
  rw [Runner.ledger_setState]
  exact congrArg (fun ledger : Ledger => { ledger with
    phase := Phase.closed, published := some IpsecState.failed }) (self.ledger_removeChild .peerDead)

/-- The books of a runner before its first wake: empty, or with the IKE_SA_INIT request of an
initiator. -/
inductive Opens (config : IpsecConfig) : Ledger → Prop
  | waiting : Opens config (Runner.spawn config).ledger
  | saInitSent {payloads : List Payload} {pending : PendingSaInit}
      (encoded : Message.encode ⟨IkeHeader.new pending.localSpi 0 .ikeSaInit flagInitiator 0, payloads⟩ =
        .ok pending.realMessage1) :
      Opens config
        { (Runner.spawn config).ledger with
          phase := .saInitSent, pendingSaInit := some pending
          slot := some pending.realMessage1, sent := [pending.realMessage1] }

end

end Shuli.Ipsec
