import Shuli.Ipsec.Authentication

/-!
Unauthenticated input. A datagram that does not open under the inbound keys of the IKE SA still
passes through the dispatcher, which follows the sender's address, drops the armed retransmission
and counts a liveness answer before anything is decrypted. The state of the SA stays as it was
exactly when these writes find nothing to change.
-/

namespace Shuli.Ipsec

open Fallible Shuli.Core

section

variable [Tls]

/-- The state of an IKE SA that only its peer may change. -/
structure Untouched (before after : Runner) : Prop where
  phase : after.phase = before.phase
  ike : after.ike = before.ike
  retransmit : after.retransmit = before.retransmit
  pendingRekey : after.pendingRekey = before.pendingRekey
  dpdFailures : after.dpdFailures = before.dpdFailures
  dpdDeadline : after.dpdDeadline = before.dpdDeadline
  rekeyDeadline : after.rekeyDeadline = before.rekeyDeadline
  nextMessageId : after.nextMessageId = before.nextMessageId
  remote : after.transport.remote = before.transport.remote
  natT : after.transport.encapsulated = before.transport.encapsulated

def Runner.opensNatT (self : Runner) (source : SocketAddr) : Prop :=
  source.port = natTPort ∧ self.transport.natT = true ∧ self.transport.encapsulated = false

def Env.natTSocket (env : Env) : Except IpsecError Unit := do
  let _ ← env.localAddr
  env.bindNatT

def Runner.FollowedAlready (self : Runner) (env : Env) (source : SocketAddr) : Prop :=
  (source.port = natTPort ∨ self.config.localConfig.natT = true ∧ self.transport.encapsulated = true →
    self.transport.remote = source) ∧
  (self.opensNatT source → env.natTSocket.isOk = false)

def Runner.NothingToClear (self : Runner) (env : Env) (source : SocketAddr) (message : Message) : Prop :=
  if message.header.isResponse then
    (self.phase.inAuth ∨ self.phase = .established ∧ message.header.exchange = .createChildSa →
      self.retransmit = none) ∧
    (self.phase = .established ∧ message.header.exchange = .informational →
      self.retransmit = none ∧ self.dpdFailures = 0 ∧
        self.dpdDeadline = some (env.now + self.config.dpd.interval))
  else
    message.header.exchange = .ikeAuth → self.transport.remote = source ∧ self.retransmit = none

/-- The datagram finds nothing to change: its sender is followed already, and its message, if the
dispatcher gets to it, clears nothing. -/
def Runner.Undisturbed (self : Runner) (env : Env) (data : Octets) (source : SocketAddr) : Prop :=
  self.FollowedAlready env source ∧
    (¬self.opensNatT source →
      ∀ message, Message.decode data = .ok message → self.NothingToClear env source message)

def Runner.afterForged (self : Runner) (env : Env) (source : SocketAddr) (message : Message) : Runner :=
  if message.header.isResponse then
    match self.phase with
    | .authSent | .eapAuth => self.clearRetransmit
    | .established =>
      if message.header.exchange = .createChildSa then self.clearRetransmit
      else if message.header.exchange = .informational then self.alive env
      else self
    | _ => self
  else if message.header.exchange = .ikeAuth then (self.setRemote source).clearRetransmit
  else self

section

variable {self : Runner} {env : Env} {source : SocketAddr}

theorem untouched_refl (self : Runner) : Untouched self self :=
  ⟨rfl, rfl, rfl, rfl, rfl, rfl, rfl, rfl, rfl, rfl⟩

theorem untouched_clearRetransmit_iff :
    Untouched self self.clearRetransmit ↔ self.retransmit = none :=
  ⟨fun same => same.retransmit.symm, fun unarmed => ⟨rfl, rfl, unarmed.symm, rfl, rfl, rfl, rfl, rfl, rfl, rfl⟩⟩

theorem untouched_alive_iff :
    Untouched self (self.alive env) ↔
      self.retransmit = none ∧ self.dpdFailures = 0 ∧
        self.dpdDeadline = some (env.now + self.config.dpd.interval) :=
  ⟨fun same => ⟨same.retransmit.symm, same.dpdFailures.symm, same.dpdDeadline.symm⟩,
    fun ⟨unarmed, zero, deadline⟩ =>
      ⟨rfl, rfl, unarmed.symm, rfl, zero.symm, deadline.symm, rfl, rfl, rfl, rfl⟩⟩

theorem untouched_setRemote_iff :
    Untouched self (self.setRemote source) ↔ self.transport.remote = source :=
  ⟨fun same => same.remote.symm, fun remote => ⟨rfl, rfl, rfl, rfl, rfl, rfl, rfl, rfl, remote.symm, rfl⟩⟩

theorem untouched_setRemote_clear_iff :
    Untouched self ((self.setRemote source).clearRetransmit) ↔
      self.transport.remote = source ∧ self.retransmit = none :=
  ⟨fun same => ⟨same.remote.symm, same.retransmit.symm⟩,
    fun ⟨remote, unarmed⟩ => ⟨rfl, rfl, unarmed.symm, rfl, rfl, rfl, rfl, rfl, remote.symm, rfl⟩⟩

theorem untouched_afterForged_iff (message : Message) :
    Untouched self (self.afterForged env source message) ↔ self.NothingToClear env source message := by
  unfold Runner.afterForged Runner.NothingToClear
  by_cases response : message.header.isResponse = true
  · rw [if_pos response, if_pos response]
    cases phase : self.phase with
    | init | saInitSent | closed => simp [Phase.inAuth, untouched_refl]
    | authSent | eapAuth => simp [Phase.inAuth, untouched_clearRetransmit_iff]
    | established =>
      cases exchange : message.header.exchange with
      | ikeSaInit | ikeAuth => simp [Phase.inAuth, untouched_refl]
      | createChildSa => simp [untouched_clearRetransmit_iff]
      | informational => simp [Phase.inAuth, untouched_alive_iff]
  · rw [if_neg response, if_neg response]
    by_cases exchange : message.header.exchange = .ikeAuth
    · simp [exchange, untouched_setRemote_clear_iff]
    · simp [exchange, untouched_refl]

/-- The dispatch either keeps the remote end or takes the sender for it. -/
theorem afterForged_transport (message : Message) (remote : self.transport.remote = source) :
    (self.afterForged env source message).transport = self.transport := by
  have same : (self.setRemote source).transport = self.transport := by
    rw [← remote]
    rfl
  unfold Runner.afterForged
  split
  · split
    · rfl
    · rfl
    · split
      · rfl
      · split <;> rfl
    · rfl
  · split
    · exact same
    · rfl

def Runner.afterDatagram (self : Runner) (env : Env) (data : Octets) (source : SocketAddr) : Runner :=
  match Message.decode data with
  | .ok message => self.afterForged env source message
  | .error _ => self

theorem afterDatagram_transport (self : Runner) (env : Env) (data : Octets) {source : SocketAddr}
    (remote : self.transport.remote = source) :
    (self.afterDatagram env data source).transport = self.transport := by
  unfold Runner.afterDatagram
  split
  · exact afterForged_transport _ remote
  · rfl

theorem untouched_afterDatagram_iff (data : Octets) :
    Untouched self (self.afterDatagram env data source) ↔
      ∀ message, Message.decode data = .ok message → self.NothingToClear env source message := by
  unfold Runner.afterDatagram
  cases decoded : Message.decode data with
  | error e => simp [untouched_refl]
  | ok message => simp [untouched_afterForged_iff]

theorem touched_encapsulate (data : Octets) (plain : self.transport.encapsulated = false) :
    ¬Untouched self ((self.setRemote source).encapsulate.afterDatagram env data source) := by
  intro same
  have kept : ((self.setRemote source).encapsulate.afterDatagram env data source).transport =
      (self.setRemote source).encapsulate.transport := afterDatagram_transport _ env data rfl
  have natT := same.natT
  rw [kept, plain] at natT
  cases natT

theorem setRemote_same (remote : self.transport.remote = source) : self.setRemote source = self := by
  rw [← remote]
  rfl

theorem untouched_moved_iff (data : Octets) :
    Untouched self ((self.setRemote source).afterDatagram env data source) ↔
      self.transport.remote = source ∧
        ∀ message, Message.decode data = .ok message → self.NothingToClear env source message := by
  by_cases remote : self.transport.remote = source
  · rw [setRemote_same remote, untouched_afterDatagram_iff, and_iff_right remote]
  · refine iff_of_false (fun same => remote ?_) fun both => remote both.1
    have kept : ((self.setRemote source).afterDatagram env data source).transport =
        (self.setRemote source).transport := afterDatagram_transport _ env data rfl
    exact same.remote.symm.trans (congrArg IkeTransport.remote kept)

/-! Following the sender -/

inductive Followed (self : Runner) (env : Env) (source : SocketAddr) :
    Except IpsecError Unit → Runner → Prop
  | bound (opens : self.opensNatT source) (bound : env.natTSocket = .ok ()) :
      Followed self env source (.ok ()) (self.setRemote source).encapsulate
  | unbound {e : IpsecError} (opens : self.opensNatT source) (failed : env.natTSocket = .error e) :
      Followed self env source (.error e) (self.setRemote source)
  | moved (keeps : ¬self.opensNatT source)
      (follows : source.port = natTPort ∨
        self.config.localConfig.natT = true ∧ self.transport.encapsulated = true) :
      Followed self env source (.ok ()) (self.setRemote source)
  | stayed (keeps : ¬self.opensNatT source)
      (ignores : ¬(source.port = natTPort ∨
        self.config.localConfig.natT = true ∧ self.transport.encapsulated = true)) :
      Followed self env source (.ok ()) self

theorem followSource_followed (self : Runner) (env : Env) (source : SocketAddr) :
    Ends (followSource env source) self (Followed self env source) := by
  refine Ends.get_bind (Ends.ite (fun port => Ends.modify_bind (Ends.modify_bind ?_)) fun port => ?_)
  · have target : (self.setRemote source).setRemote
        { (self.setRemote source).transport.remote with port := natTPort } = self.setRemote source := by
      rw [← port]
      rfl
    rw [target]
    refine Ends.get_bind (Ends.ite (fun kept => ?_) fun opens => ?_)
    · refine .moved ?_ (.inl port)
      rintro ⟨-, natT, plain⟩
      simp [Runner.setRemote, natT, plain] at kept
    · have opens : self.opensNatT source := by
        simpa [Runner.opensNatT, port, Runner.setRemote] using opens
      refine Ends.liftM_bind (fun e failed => .unbound opens ?_) fun address found => ?_
      · simp [Env.natTSocket, failed, bind, Except.bind]
      · refine Ends.liftM_bind (fun e failed => .unbound opens ?_) fun _ bound => .bound opens ?_
        · simp [Env.natTSocket, found, failed, bind, Except.bind]
        · simp [Env.natTSocket, found, bound, bind, Except.bind]
  · have keeps : ¬self.opensNatT source := fun opens => port opens.1
    refine Ends.ite (fun follows => .moved keeps (.inr follows)) fun ignores => .stayed keeps ?_
    rintro (same | follows)
    · exact port same
    · exact ignores follows

end

variable [Crypto]

def Runner.protects (self : Runner) (data : Octets) : Bool :=
  match Message.decode data with
  | .ok message => (self.openEncrypted message).isOk
  | .error _ => false

def View.SaInitTaken (view : View) : Prop :=
  view.ike.isSome = true → view.phase = .saInitSent → view.pendingSaInit = none

theorem Effect.saInitTaken_keeps {wake : Wake} {before after : View} (effect : Effect wake before after)
    (holds : before.SaInitTaken) : after.SaInitTaken := by
  cases effect with
  | quiet => exact holds
  | saInitTaken => exact fun _ _ => rfl
  | createdResponder => rintro - ⟨⟩
  | createdInitiator => exact fun _ _ => rfl
  | eapAuthenticated | requestVerified | requestAnswered | responseVerified => exact holds
  | requestInstalled | responseInstalled | rekeyAnswered | rekeyCompleted => rintro - ⟨⟩
  | deleted => 
    intro some phase
    exact holds (by simpa [View.removed] using some) phase
  | peerDead => rintro - ⟨⟩

theorem reachable_saInitTaken {env : Env} {config : IpsecConfig} {self : Runner}
    (reached : Reachable Runner.step (Runner.start env config) self) : self.view.SaInitTaken := by
  refine reached.invariant (I := fun self => self.view.SaInitTaken) ?_ ?_
  · intro self input holds
    exact (step_effect self input.1 input.2).saInitTaken_keeps holds
  · intro some
    rw [(start_started env config).ike_none] at some
    cases some

/-! What the handlers do with a message that does not open -/

section

variable {self : Runner} {message : Message} {e : IpsecError}

theorem handleAuthRequest_forged (env : Env) (source : SocketAddr) (closed : self.openEncrypted message = .error e) :
    exec (handleAuthRequest env message source) self =
      (.error e, (self.setRemote source).clearRetransmit) := by
  rw [handleAuthRequest, exec_modify_bind, exec_modify_bind, exec_get_bind, exec_liftM_bind]
  rw [show ((self.setRemote source).clearRetransmit).openEncrypted message = .error e from closed]

theorem handleAuthResponse_forged (env : Env) (closed : self.openEncrypted message = .error e) :
    exec (handleAuthResponse env message) self = (.error e, self.clearRetransmit) := by
  rw [handleAuthResponse, exec_modify_bind, exec_get_bind, exec_liftM_bind]
  rw [show self.clearRetransmit.openEncrypted message = .error e from closed]

theorem handleCreateChildResponse_forged (env : Env) (closed : self.openEncrypted message = .error e) :
    exec (handleCreateChildResponse env message) self = (.error e, self.clearRetransmit) := by
  rw [handleCreateChildResponse, exec_modify_bind, exec_get_bind, exec_liftM_bind]
  rw [show self.clearRetransmit.openEncrypted message = .error e from closed]

theorem handleInformationalRequest_forged (env : Env) (closed : self.openEncrypted message = .error e) :
    exec (handleInformationalRequest env message) self = (.error e, self) := by
  rw [handleInformationalRequest, exec_get_bind, exec_liftM_bind, closed]

theorem handleCreateChildRequest_forged (env : Env) (closed : self.openEncrypted message = .error e) :
    exec (handleCreateChildRequest env message) self = (.error e, self) := by
  rw [handleCreateChildRequest, exec_get_bind, exec_liftM_bind, closed]

theorem handleSaInitRequest_retransmitted (env : Env) (data : Octets) (source : SocketAddr)
    (keyed : self.ike.isSome = true) :
    exec (handleSaInitRequest env data source message) self = (.ok (), self) := by
  rw [handleSaInitRequest, exec_get_bind, if_pos keyed, exec_pure]

theorem handleSaInitResponse_taken (env : Env) (data : Octets) (source : SocketAddr)
    (taken : self.pendingSaInit = none) :
    (exec (handleSaInitResponse env data source message) self).2 = self := by
  rw [handleSaInitResponse, exec_get_bind, taken]
  rfl

/-- The dispatch of an undecryptable message. -/
theorem dispatch_forged (env : Env) (data : Octets) (source : SocketAddr)
    (closed : self.openEncrypted message = .error e) (keyed : self.ike.isSome = true)
    (taken : self.phase = .saInitSent → self.pendingSaInit = none) :
    (exec (if message.header.isResponse then handleResponse env data source message
      else handleRequest env data source message) self).2 = self.afterForged env source message := by
  unfold Runner.afterForged
  by_cases response : message.header.isResponse = true
  · rw [if_pos response, if_pos response, handleResponse, exec_get_bind]
    cases phase : self.phase with
    | saInitSent => exact handleSaInitResponse_taken env data source (taken phase)
    | authSent => exact congrArg Prod.snd (handleAuthResponse_forged env closed)
    | eapAuth => exact congrArg Prod.snd (handleAuthResponse_forged env closed)
    | established =>
      by_cases create : message.header.exchange = .createChildSa
      · simp only [create]
        exact congrArg Prod.snd (handleCreateChildResponse_forged env closed)
      · simp only [create, if_false]
        split <;> rfl
    | init => rfl
    | closed => rfl
  · rw [if_neg response, if_neg response, handleRequest]
    cases exchange : message.header.exchange with
    | ikeSaInit => exact congrArg Prod.snd (handleSaInitRequest_retransmitted env data source keyed)
    | ikeAuth => exact congrArg Prod.snd (handleAuthRequest_forged env source closed)
    | informational => exact congrArg Prod.snd (handleInformationalRequest_forged env closed)
    | createChildSa => exact congrArg Prod.snd (handleCreateChildRequest_forged env closed)

end

section

variable {self : Runner} {env : Env} {data : Octets} {source : SocketAddr}

/-- From the decoding on, an unprotected datagram leaves `afterDatagram`. -/
theorem ends_unprotected {P : Runner → Prop} (unprotected : self.protects data = false)
    (keyed : self.ike.isSome = true) (taken : self.phase = .saInitSent → self.pendingSaInit = none)
    (after : P (self.afterDatagram env data source)) :
    Ends (do
      let message ← (Message.decode data : Except IpsecError Message)
      if message.header.isResponse then handleResponse env data source message
      else handleRequest env data source message : Engine Unit) self fun _ => P := by
  unfold Runner.afterDatagram at after
  refine Ends.liftM_bind (fun e decoded => ?_) fun message decoded => ?_ <;> rw [decoded] at after
  · exact after
  · cases opened : self.openEncrypted message with
    | error e =>
      unfold Ends
      rw [dispatch_forged env data source opened keyed taken]
      exact after
    | ok payloads => simp [Runner.protects, decoded, opened, Except.toBool] at unprotected

end

/-- Unauthenticated input leaves an IKE SA untouched exactly when the sender is followed already
and the dispatch of the message has nothing to clear. -/
theorem forged_untouched_iff {started : Env} {config : IpsecConfig} {self : Runner} {ike : IkeRuntime}
    (reached : Reachable Runner.step (Runner.start started config) self) (keyed : self.ike = some ike)
    (env : Env) (data : Octets) (source : SocketAddr) (unprotected : self.protects data = false) :
    Untouched self (exec (handleDatagram env data source) self).2 ↔
      self.Undisturbed env data source := by
  have keyed : self.ike.isSome = true := by rw [keyed]; rfl
  have taken : self.phase = .saInitSent → self.pendingSaInit = none :=
    reachable_saInitTaken reached keyed
  change Ends (handleDatagram env data source) self
    fun _ after => Untouched self after ↔ self.Undisturbed env data source
  refine Ends.bind (followSource_followed self env source) (fun _ followed ends => ?_)
    fun _ followed ends => ?_
  · cases ends with
    | unbound opens failed =>
      rw [untouched_setRemote_iff]
      refine ⟨fun remote => ⟨⟨fun _ => remote, fun _ => by rw [failed]; rfl⟩, fun keeps => absurd opens keeps⟩,
        fun undisturbed => undisturbed.1.1 (.inl opens.1)⟩
  · cases ends with
    | bound opens bound =>
      refine ends_unprotected unprotected keyed taken (iff_of_false ?_ fun undisturbed => ?_)
      · exact touched_encapsulate data opens.2.2
      · have closed := undisturbed.1.2 opens
        rw [bound] at closed
        cases closed
    | moved keeps follows =>
      refine ends_unprotected unprotected keyed taken ?_
      rw [untouched_moved_iff]
      exact ⟨fun ⟨remote, clear⟩ => ⟨⟨fun _ => remote, fun opens => absurd opens keeps⟩, fun _ => clear⟩,
        fun ⟨followed, clear⟩ => ⟨followed.1 follows, clear keeps⟩⟩
    | stayed keeps ignores =>
      refine ends_unprotected unprotected keyed taken ?_
      rw [untouched_afterDatagram_iff]
      exact ⟨fun clear => ⟨⟨fun follows => absurd follows ignores, fun opens => absurd opens keeps⟩,
        fun _ => clear⟩, fun undisturbed => undisturbed.2 keeps⟩

end

section

attribute [local instance] checksumCrypto closedTls

def forgedInformational : Octets :=
  (Message.encode ⟨IkeHeader.new 11 22 .informational flagResponse 0, []⟩).toOption.getD []

theorem initiatorRekeys_reachable : Reachable Runner.step initiator initiatorRekeys := by
  exact (((Reachable.refl _ initiator).step _).step _).step _

theorem forgedInformational_dropped :
    (initiatorRekeys.ike.isSome && !initiatorRekeys.protects forgedInformational &&
      initiatorRekeys.retransmit.isSome &&
      (exec (handleDatagram (sampleEnv 14) forgedInformational (hostAddress 2))
        initiatorRekeys).2.retransmit.isNone) = true := by
  decide +kernel

theorem forged_untouched_informational :
    initiatorRekeys.protects forgedInformational = false ∧
      (Untouched initiatorRekeys
          (exec (handleDatagram (sampleEnv 14) forgedInformational (hostAddress 2)) initiatorRekeys).2 ↔
        initiatorRekeys.Undisturbed (sampleEnv 14) forgedInformational (hostAddress 2)) := by
  have facts := forgedInformational_dropped
  simp only [Bool.and_eq_true, Bool.not_eq_true'] at facts
  obtain ⟨⟨⟨keyed, unprotected⟩, -⟩, -⟩ := facts
  obtain ⟨ike, keyed⟩ := Option.isSome_iff_exists.mp keyed
  exact ⟨unprotected, forged_untouched_iff initiatorRekeys_reachable keyed _ _ _ unprotected⟩

/-- A forged INFORMATIONAL response stops the retransmission of a rekey request. -/
theorem forged_informational_touches :
    Reachable Runner.step initiator initiatorRekeys ∧ initiatorRekeys.ike.isSome = true ∧
      initiatorRekeys.protects forgedInformational = false ∧
      ¬Untouched initiatorRekeys
        (exec (handleDatagram (sampleEnv 14) forgedInformational (hostAddress 2)) initiatorRekeys).2 := by
  have facts := forgedInformational_dropped
  simp only [Bool.and_eq_true, Bool.not_eq_true'] at facts
  obtain ⟨⟨⟨keyed, unprotected⟩, armed⟩, dropped⟩ := facts
  refine ⟨initiatorRekeys_reachable, keyed, unprotected, fun same => ?_⟩
  rw [same.retransmit, Option.isNone_iff_eq_none] at dropped
  simp [dropped] at armed

end

end Shuli.Ipsec
