import Shuli.Ipsec.Engine

/-!
What one wake of a runner can do to its IKE SA. The handlers change many fields; authentication
and the life of the Child SA depend on a few of them, the view, and on the marks of the trace.
Each handler is run once here, and `step_effect` lists the possible changes of the view with the
checks that a handler passed before it made them.
-/

namespace Shuli.Ipsec

open Fallible Shuli.Core

/-- The entries of a trace that concern authentication and Child SAs. -/
def Action.isMark : Action → Bool
  | .sent .. | .published _ => false
  | .event (.state ..) | .event (.error ..) | .event (.childSaRemoved ..) => false
  | _ => true

structure View where
  config : IpsecConfig
  phase : Phase
  ike : Option IkeRuntime
  peerIndex : Nat
  pendingSaInit : Option PendingSaInit
  marks : List Action

namespace View

def installed (view : View) (ike : IkeRuntime) (handle : ChildSaHandle) (event : IpsecEvent) : View :=
  { view with
    phase := .established
    ike := some { ike with child := some handle }
    marks := view.marks ++ [.childInstalled handle, .event event] }

def removed (view : View) (reason : ChildSaRemovalReason) : View :=
  { view with
    ike := view.ike.map fun ike => { ike with child := none }
    marks := view.marks ++ [.childRemoved reason] }

def marked (view : View) (action : Action) : View := { view with marks := view.marks ++ [action] }

def peer? (view : View) : Option PeerConfig := view.config.peers[view.peerIndex]?

end View

def Wake.Delivers (wake : Wake) (message : Message) : Prop :=
  ∃ data source, wake = .datagram data source ∧ Message.decode data = .ok message

namespace Runner

variable [Tls]

def marks (self : Runner) : List Action := self.trace.filter Action.isMark

def view (self : Runner) : View where
  config := self.config
  phase := self.phase
  ike := self.ike
  peerIndex := self.peerIndex
  pendingSaInit := self.pendingSaInit
  marks := self.marks

theorem view_record (self : Runner) (action : Action) (mark : action.isMark = true) :
    (self.record action).view = self.view.marked action := by
  have kept : (self.record action).marks = self.marks ++ [action] := by simp [marks, record, mark]
  rw [view, kept]
  rfl

theorem view_record_silent (self : Runner) (action : Action) (silent : action.isMark = false) :
    (self.record action).view = self.view := by
  have kept : (self.record action).marks = self.marks := by simp [marks, record, silent]
  rw [view, kept]
  rfl

@[simp] theorem view_recordSent (self : Runner) (message : Octets) :
    (self.recordSent message).view = self.view := view_record_silent _ _ rfl

@[simp] theorem view_setState (self : Runner) (state : IpsecState) :
    (self.setState state).view = self.view := by
  rw [setState, view_record_silent _ _ rfl, view_record_silent _ _ rfl]

theorem view_reported (outcome : Except IpsecError Unit × Runner) :
    (reported outcome).view = outcome.2.view := by
  obtain ⟨error | _, after⟩ := outcome
  · exact view_record_silent _ _ rfl
  · rfl

theorem view_setIke (self : Runner) (ike : Option IkeRuntime) :
    (self.setIke ike).view = { self.view with ike } := rfl

theorem view_setPhase (self : Runner) (phase : Phase) :
    (self.setPhase phase).view = { self.view with phase } := rfl

theorem view_announceChild (self : Runner) (env : Env) (handle : ChildSaHandle) (ike : IkeRuntime)
    (current : self.ike = some ike) :
    ∃ event, (self.announceChild env handle).view =
      { self.view with ike := some { ike with child := some handle } }.marked (.event event) := by
  refine ⟨self.childEvent env handle ike.child.isSome, ?_⟩
  have mark : (Action.event (self.childEvent env handle ike.child.isSome)).isMark = true := by
    unfold childEvent
    split <;> rfl
  rw [announceChild, current]
  exact view_record _ _ mark

theorem view_installChild (self : Runner) (env : Env) (handle : ChildSaHandle) (ike : IkeRuntime)
    (current : self.ike = some ike) :
    ∃ event, (self.installChild env handle).view = self.view.installed ike handle event := by
  obtain ⟨event, announced⟩ :=
    (self.record (.childInstalled handle)).view_announceChild env handle ike current
  refine ⟨event, ?_⟩
  calc (self.installChild env handle).view
      = (((((self.record (.childInstalled handle)).announceChild env handle).setPhase
          .established).clearRetransmit).setState .established).view := rfl
    _ = { ((self.record (.childInstalled handle)).announceChild env handle).view with
          phase := .established } := view_setState _ _
    _ = self.view.installed ike handle event := by
      rw [announced, view_record _ _ rfl]
      simp [View.installed, View.marked]

theorem view_removeChild (self : Runner) (reason : ChildSaRemovalReason) :
    (self.removeChild reason).view = self.view.removed reason := by
  rw [removeChild, view_record_silent _ _ rfl, view_record _ _ rfl]
  rfl

end Runner

section

variable [Tls]

def openingMarks (opening : AuthOpening) : List Action :=
  (opening.computed.map fun (signed, auth) => Action.authComputed signed auth).toList

theorem view_opened (self : Runner) (opening : AuthOpening) :
    (self.opened opening).view = { self.view with marks := self.marks ++ openingMarks opening } := by
  unfold Runner.opened openingMarks
  cases opening.computed with
  | none => simp [Runner.view, Runner.marks]
  | some computed => exact Runner.view_record _ _ rfl

theorem view_createdAsResponder (self : Runner) (env : Env) (peer : PeerConfig) (ike : IkeRuntime)
    (response : Octets) :
    ∃ peerIndex, (self.createdAsResponder env peer ike response).view =
      View.marked { self.view with ike := some ike, peerIndex, phase := .authSent }
        (.ikeCreated .responder) := by
  rw [Runner.createdAsResponder, Runner.view_setState, Runner.view_record _ _ rfl]
  exact ⟨_, rfl⟩

def Payload.deletes (child : ChildSaHandle) : Payload → Bool
  | .delete protocol _ spis => protocol = ProtocolId.ESP ∧ child.remoteSpi ∈ spis
  | _ => false

/-- One payload of an INFORMATIONAL request deletes the Child SA or leaves the runner alone. -/
theorem informationalPayload_view (state : List Payload × Runner) (payload : Payload) :
    (informationalPayload state payload).2 = state.2 ∨
      ∃ child, state.2.ike.bind IkeRuntime.child = some child ∧ payload.deletes child = true ∧
        (informationalPayload state payload).2 = state.2.removeChild .peerDelete := by
  unfold informationalPayload
  split
  · split <;> exact .inl rfl
  · split
    · split
      · split
        · exact .inr ⟨_, by assumption, by simpa [Payload.deletes] using ⟨‹_›, ‹_›⟩, rfl⟩
        · exact .inl rfl
      · exact .inl rfl
    · exact .inl rfl
  · exact .inl rfl

theorem removeChild_child (self : Runner) (reason : ChildSaRemovalReason) :
    (self.removeChild reason).ike.bind IkeRuntime.child = none := by
  change (self.ike.map fun ike => { ike with child := none }).bind IkeRuntime.child = none
  cases self.ike <;> rfl

theorem informational_none (payloads : List Payload) (state : List Payload × Runner)
    (none : state.2.ike.bind IkeRuntime.child = none) :
    (payloads.foldl informationalPayload state).2 = state.2 := by
  induction payloads generalizing state with
  | nil => rfl
  | cons payload payloads ih =>
    rcases informationalPayload_view state payload with same | ⟨child, some, _⟩
    · rw [List.foldl_cons, ih _ (same ▸ none), same]
    · simp [none] at some

/-- The payloads of an INFORMATIONAL request remove the Child SA at most once, when one of them
deletes it. -/
theorem informational_once (payloads : List Payload) (state : List Payload × Runner) :
    (payloads.foldl informationalPayload state).2 = state.2 ∨
      ∃ child, state.2.ike.bind IkeRuntime.child = some child ∧
        payloads.any (Payload.deletes child) = true ∧
        (payloads.foldl informationalPayload state).2 = state.2.removeChild .peerDelete := by
  induction payloads generalizing state with
  | nil => exact .inl rfl
  | cons payload payloads ih =>
    rcases informationalPayload_view state payload with same | ⟨child, recorded, deletes, removed⟩
    · rw [← same]
      rcases ih (informationalPayload state payload) with kept | ⟨child, recorded, deletes, removed⟩
      · exact .inl kept
      · exact .inr ⟨child, recorded, by simp [deletes], removed⟩
    · refine .inr ⟨child, recorded, by simp [deletes], ?_⟩
      rw [← removed]
      exact informational_none payloads _ (removed ▸ removeChild_child _ _)

end

section

variable [Crypto] [Tls]

/-- The IKE SA of the end that answered the request. -/
structure RespondedTo (raw : Octets) (message : Message) (response : Octets) (ike : IkeRuntime) :
    Prop where
  role : ike.role = .responder
  remoteSpi : ike.remoteSpi = message.header.initiatorSpi
  first : ike.realMessage1 = raw
  second : ike.realMessage2 = response
  child : ike.child = none
  encoded : ∃ payloads, Message.encode ⟨IkeHeader.new message.header.initiatorSpi ike.localSpi
    .ikeSaInit flagResponse 0, payloads⟩ = .ok response

variable {self : Runner} {source : SocketAddr} {message : Message} {ike : IkeRuntime}

theorem answerSaInit_responded {env : Env} {raw : Octets}
    {suite : IkeProposal} {number : UInt8} {peerPublic response : Octets}
    (answered : answerSaInit self env raw source message suite number peerPublic = .ok (ike, response)) :
    RespondedTo raw message response ike := by
  simp only [answerSaInit, Except.bind_eq_ok] at answered
  obtain ⟨_, _, _, _, _, _, _, _, _, _, _, _, _, _, _, encoded, same⟩ := answered
  cases same
  exact ⟨rfl, rfl, rfl, rfl, rfl, _, encoded⟩

/-- The IKE SA of the end whose request was answered. -/
structure InitiatedBy (pending : PendingSaInit) (raw : Octets) (message : Message) (ike : IkeRuntime) :
    Prop where
  role : ike.role = .initiator
  localSpi : ike.localSpi = pending.localSpi
  remoteSpi : ike.remoteSpi = message.header.responderSpi
  first : ike.realMessage1 = pending.realMessage1
  second : ike.realMessage2 = raw
  child : ike.child = none

omit [Tls] in
theorem acceptSaInit_initiated {pending : PendingSaInit} {raw : Octets}
    (accepted : acceptSaInit pending raw message = .ok ike) :
    InitiatedBy pending raw message ike := by
  simp only [acceptSaInit, Except.bind_eq_ok, Except.guard_eq_ok] at accepted
  obtain ⟨_, _, _, _, _, _, _, _, _, _, _, _, same⟩ := accepted
  cases same
  exact ⟨rfl, rfl, rfl, rfl, rfl, rfl⟩

/-- The wake delivers a message that opens under the keys of the IKE SA. -/
structure Opened (wake : Wake) (before : View) (message : Message) (ike : IkeRuntime)
    (payloads : List Payload) : Prop where
  delivers : wake.Delivers message
  current : before.ike = some ike
  opens : ike.openEncrypted message = .ok payloads

def Phase.inAuth (phase : Phase) : Prop := phase = .authSent ∨ phase = .eapAuth

inductive Effect (wake : Wake) (before : View) : View → Prop
  | quiet : Effect wake before before
  | saInitTaken (sent : before.phase = .saInitSent) :
      Effect wake before { before with pendingSaInit := none }
  | createdResponder {data : Octets} {source : SocketAddr} {message : Message} {self : Runner}
      {env : Env} {suite : IkeProposal} {number : UInt8} {peerPublic response : Octets}
      {ike : IkeRuntime} {peerIndex : Nat}
      (delivers : wake = .datagram data source) (decoded : Message.decode data = .ok message)
      (request : message.header.isResponse = false) (fresh : before.ike = none)
      (answered : answerSaInit self env data source message suite number peerPublic =
        .ok (ike, response)) :
      Effect wake before (View.marked
        { before with ike := some ike, peerIndex, phase := .authSent } (.ikeCreated .responder))
  | createdInitiator {data : Octets} {source : SocketAddr} {message : Message}
      {pending : PendingSaInit} {ike : IkeRuntime} {localChildSpi : UInt32} {own : List Action}
      {phase : Phase}
      (delivers : wake = .datagram data source) (decoded : Message.decode data = .ok message)
      (response : message.header.isResponse = true) (sent : before.phase = .saInitSent)
      (pends : before.pendingSaInit = some pending)
      (accepted : acceptSaInit pending data message = .ok ike)
      (computed : own = [] ∨ ∃ idBody auth, own = [.authComputed (ike.initiatorSigned idBody) auth])
      (next : phase = .saInitSent ∨ phase.inAuth) :
      Effect wake before
        { before with
          ike := some { ike with localChildSpi }
          pendingSaInit := none
          phase
          marks := before.marks ++ [.ikeCreated .initiator] ++ own }
  | eapAuthenticated {message : Message} {ike : IkeRuntime} {payloads : List Payload}
      {idBody auth : Octets}
      (opened : Opened wake before message ike payloads)
      (response : message.header.isResponse = true) (phase : before.phase.inAuth) :
      Effect wake before (before.marked (.authComputed (ike.initiatorSigned idBody) auth))
  | requestVerified {message : Message} {ike : IkeRuntime} {payloads : List Payload}
      {peer : PeerConfig} {signed auth : Octets}
      (opened : Opened wake before message ike payloads)
      (request : message.header.isResponse = false) (exchange : message.header.exchange = .ikeAuth)
      (configured : before.peer? = some peer)
      (verified : verifyAuthRequest peer ike payloads = .ok (signed, auth)) :
      Effect wake before (before.marked (.authVerified .request ike.role signed auth))
  | requestAnswered {message : Message} {ike : IkeRuntime} {payloads : List Payload}
      {peer : PeerConfig} {signed auth idBody ownAuth : Octets}
      (opened : Opened wake before message ike payloads)
      (request : message.header.isResponse = false) (exchange : message.header.exchange = .ikeAuth)
      (configured : before.peer? = some peer)
      (verified : verifyAuthRequest peer ike payloads = .ok (signed, auth)) :
      Effect wake before ((before.marked (.authVerified .request ike.role signed auth)).marked
        (.authComputed (ike.responderSigned idBody) ownAuth))
  | requestInstalled {message : Message} {ike : IkeRuntime} {payloads : List Payload}
      {peer : PeerConfig} {signed auth idBody ownAuth : Octets} {handle : ChildSaHandle}
      {event : IpsecEvent}
      (opened : Opened wake before message ike payloads)
      (request : message.header.isResponse = false) (exchange : message.header.exchange = .ikeAuth)
      (configured : before.peer? = some peer)
      (verified : verifyAuthRequest peer ike payloads = .ok (signed, auth)) :
      Effect wake before (((before.marked (.authVerified .request ike.role signed auth)).marked
        (.authComputed (ike.responderSigned idBody) ownAuth)).installed ike handle event)
  | responseVerified {message : Message} {ike : IkeRuntime} {payloads : List Payload}
      {peer : PeerConfig} {eap : Option EapSession} {signed auth : Octets}
      (opened : Opened wake before message ike payloads)
      (response : message.header.isResponse = true) (phase : before.phase.inAuth)
      (configured : before.peer? = some peer)
      (verified : verifyAuthResponse peer ike eap payloads = .ok (signed, auth)) :
      Effect wake before (before.marked (.authVerified .response ike.role signed auth))
  | responseInstalled {message : Message} {ike : IkeRuntime} {payloads : List Payload}
      {peer : PeerConfig} {eap : Option EapSession} {signed auth : Octets}
      {innerAddresses : List IpNet} {dns : List IpAddr} {handle : ChildSaHandle} {event : IpsecEvent}
      (opened : Opened wake before message ike payloads)
      (response : message.header.isResponse = true) (phase : before.phase.inAuth)
      (configured : before.peer? = some peer)
      (verified : verifyAuthResponse peer ike eap payloads = .ok (signed, auth)) :
      Effect wake before ((before.marked (.authVerified .response ike.role signed auth)).installed
        { ike with innerAddresses, dns } handle event)
  | rekeyAnswered {message : Message} {ike : IkeRuntime} {payloads : List Payload}
      {handle : ChildSaHandle} {event : IpsecEvent}
      (opened : Opened wake before message ike payloads)
      (request : message.header.isResponse = false)
      (exchange : message.header.exchange = .createChildSa) :
      Effect wake before (before.installed ike handle event)
  | rekeyCompleted {message : Message} {ike : IkeRuntime} {payloads : List Payload}
      {handle : ChildSaHandle} {event : IpsecEvent}
      (opened : Opened wake before message ike payloads)
      (response : message.header.isResponse = true) (phase : before.phase = .established) :
      Effect wake before (before.installed ike handle event)
  | deleted {message : Message} {ike : IkeRuntime} {payloads : List Payload}
      (opened : Opened wake before message ike payloads)
      (request : message.header.isResponse = false)
      (exchange : message.header.exchange = .informational) :
      Effect wake before (before.removed .peerDelete)
  | peerDead (phase : before.phase = .established) :
      Effect wake before { before.removed .peerDead with phase := .closed }

variable {wake : Wake} {payloads : List Payload}

theorem answerAuth_signed {env : Env} {peer : PeerConfig} {answer : ChildAnswer} {ownSigned ownAuth : Octets}
    (answered : answerAuth self env peer ike payloads = .ok (answer, ownSigned, ownAuth)) :
    ∃ idBody, ownSigned = ike.responderSigned idBody := by
  simp only [answerAuth, Except.bind_eq_ok] at answered
  obtain ⟨_, _, _, _, _, _, _, _, _, _, idBody, _, _, _, result⟩ := answered
  cases result
  exact ⟨idBody, rfl⟩

/-- The opening AUTH covers the octets of the original initiator. -/
theorem authOpening_computed {peer : PeerConfig}
    {opening : AuthOpening} (opened : authOpening self peer ike = .ok opening) :
    opening.computed = none ∨
      ∃ idBody auth, opening.computed = some (ike.initiatorSigned idBody, auth) := by
  simp only [authOpening, Except.bind_eq_ok] at opened
  obtain ⟨idBody, _, result⟩ := opened
  cases auth : peer.auth with
  | psk secret =>
    rw [auth] at result
    cases result
    exact .inr ⟨idBody, _, rfl⟩
  | certificate config =>
    rw [auth] at result
    simp only [Except.bind_eq_ok] at result
    obtain ⟨_, _, _, _, result⟩ := result
    cases result
    exact .inr ⟨idBody, _, rfl⟩
  | eapTls config =>
    rw [auth] at result
    simp only [Except.bind_eq_ok] at result
    obtain ⟨_, _, result⟩ := result
    cases result
    exact .inl rfl

def Opening (before : View) (ike : IkeRuntime) (after : View) : Prop :=
  ∃ own phase, (own = [] ∨ ∃ idBody auth, own = [.authComputed (ike.initiatorSigned idBody) auth]) ∧
    (phase = before.phase ∨ phase.inAuth) ∧ after = { before with phase, marks := before.marks ++ own }

/-- The view of a runner before its first wake: without an IKE SA, and perhaps with the IKE_SA_INIT
request of an initiator on its way. -/
inductive Started (config : IpsecConfig) : View → Prop
  | waiting : Started config (Runner.spawn config).view
  | saInitSent {header : IkeHeader} {payloads : List Payload} {pending : PendingSaInit}
      (flags : header.flags = flagInitiator)
      (encoded : Message.encode ⟨header, payloads⟩ = .ok pending.realMessage1) :
      Started config
        { (Runner.spawn config).view with phase := .saInitSent, pendingSaInit := some pending }

omit [Crypto] in
theorem Started.ike_none {config : IpsecConfig} {view : View} (started : Started config view) :
    view.ike = none := by
  cases started <;> rfl

end

end Shuli.Ipsec
