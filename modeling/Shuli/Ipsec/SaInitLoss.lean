import Shuli.Ipsec.Authentication

/-!
Responses that fail while IKE_SA_INIT is under way. The handler takes the pending exchange out of the runner
before it looks at the response, so a response that it refuses, from whoever sent it, is the last one: the
genuine response finds nothing pending.
-/

namespace Shuli.Ipsec

open Core Fallible

structure Delivery where
  env : Env
  data : Octets
  source : SocketAddr

section

variable [Crypto] [Tls]

namespace Runner

structure AwaitsSaInit (runner : Runner) : Prop where
  sent : runner.phase = .saInitSent
  pending : runner.pendingSaInit.isSome = true
  timer : runner.retransmit.isSome = true

def deliver (self : Runner) (delivery : Delivery) : Runner :=
  self.step (delivery.env, .datagram delivery.data delivery.source)

/-- The datagram is a response that reaches `handleSaInitResponse`, which returns an error. -/
def RefusesSaInit (self : Runner) (delivery : Delivery) : Prop :=
  self.phase = .saInitSent ∧ ∃ message followed error, Message.decode delivery.data = .ok message ∧
    message.header.isResponse = true ∧ exec (followSource delivery.env delivery.source) self = (.ok (), followed) ∧
    (exec (handleSaInitResponse delivery.env delivery.data delivery.source message) followed).1 = .error error

/-- The exchange goes on in `after` as it would in `before`: it is pending, its request is sent again, and every
response has the same outcome. -/
structure KeepsSaInit (before after : Runner) : Prop where
  pending : after.pendingSaInit = before.pendingSaInit
  timer : after.retransmit = before.retransmit
  outcome (env : Env) (data : Octets) (source : SocketAddr) (message : Message) :
    (exec (handleSaInitResponse env data source message) after).1 =
      (exec (handleSaInitResponse env data source message) before).1
  keyed (env : Env) (data : Octets) (source : SocketAddr) (message : Message) :
    (exec (handleSaInitResponse env data source message) after).2.ike =
      (exec (handleSaInitResponse env data source message) before).2.ike

end Runner

theorem beginAuth_pending (env : Env) (ike : IkeRuntime) (self : Runner) :
    Ends (beginAuth env ike) self fun _ after => after.pendingSaInit = self.pendingSaInit := by
  refine Ends.liftM_bind (fun _ _ => rfl) fun localChildSpi _ => Ends.modify_bind ?_
  refine (sendAuth_opening env _ _ rfl).mono fun _ after ⟨⟨_, _, _, _, opened⟩, _⟩ => ?_
  exact congrArg View.pendingSaInit opened

theorem handleSaInitResponse_takes (env : Env) (data : Octets) (source : SocketAddr) (message : Message)
    (self : Runner) : Ends (handleSaInitResponse env data source message) self
      fun _ after => after.pendingSaInit = none := by
  refine Ends.get_bind (Ends.liftM_bind (fun _ missing => ?_) fun pending _ => Ends.modify_bind ?_)
  · cases pends : self.pendingSaInit with
    | none => rfl
    | some pending =>
      rw [pends] at missing
      cases missing
  refine Ends.liftM_bind (fun _ _ => rfl) fun ike _ => Ends.modify_bind (Ends.ite (fun _ => ?_) fun _ => ?_)
  · refine Ends.bind (enableNatT_same env _) (fun _ _ same => congrArg View.pendingSaInit same.1) fun _ after same => ?_
    exact (beginAuth_pending env ike after).mono fun _ _ kept => kept.trans (congrArg View.pendingSaInit same.1)
  · exact beginAuth_pending env ike _

theorem Effect.pendingSaInit_none {wake : Wake} {before after : View} (effect : Effect wake before after)
    (taken : before.pendingSaInit = none) : after.pendingSaInit = none := by
  cases effect <;> first | exact taken | rfl

theorem deliver_keeps_none {self : Runner} (delivery : Delivery) (taken : self.pendingSaInit = none) :
    (self.deliver delivery).pendingSaInit = none :=
  (step_effect self delivery.env (.datagram delivery.data delivery.source)).pendingSaInit_none taken

/-- A response that is refused ends what was pending. -/
theorem deliver_takes {self : Runner} {delivery : Delivery} (refuses : self.RefusesSaInit delivery) :
    (self.deliver delivery).pendingSaInit = none := by
  obtain ⟨sent, message, followed, error, decoded, response, follows, _⟩ := refuses
  have same : followed.view = self.view := by
    have kept := followSource_same delivery.env delivery.source self
    rw [Ends, follows] at kept
    exact kept.1
  have handled : Ends (handleDatagram delivery.env delivery.data delivery.source) self
      fun _ after => after.pendingSaInit = none := by
    refine Ends.bind_ok follows ?_
    refine Ends.liftM_ok decoded (Ends.ite (fun _ => ?_) fun request => absurd response request)
    refine Ends.get_bind ?_
    rw [show followed.phase = .saInitSent from (congrArg View.phase same).trans sent]
    exact handleSaInitResponse_takes ..
  exact (congrArg View.pendingSaInit (Runner.view_reported _)).trans handled

/-- The negotiation survives the responses that fail just when there was none. -/
theorem sa_init_undisturbed_iff {self : Runner} (waits : self.AwaitsSaInit) {refused : List Delivery}
    (failed : Admitted Runner.deliver Runner.RefusesSaInit self refused) :
    self.KeepsSaInit (runInputs Runner.deliver self refused) ↔ refused = [] := by
  constructor
  · intro kept
    cases refused with
    | nil => rfl
    | cons first rest =>
      have lost := run_invariant (I := fun runner : Runner => runner.pendingSaInit = none)
        (fun _ delivery taken _ => deliver_keeps_none delivery taken) (deliver_takes failed.1) failed.2
      have pends := waits.pending
      rw [kept.pending.symm.trans lost] at pends
      cases pends
  · rintro rfl
    exact ⟨rfl, rfl, fun _ _ _ _ => rfl, fun _ _ _ _ => rfl⟩

end

section

attribute [local instance] checksumCrypto closedTls

def forgedHeader : IkeHeader := IkeHeader.new 0 0 .ikeSaInit flagResponse 0

def forgedResponse : Delivery := ⟨sampleEnv 12, forgedHeader.encode, hostAddress 3⟩

def genuineResponse : Delivery := ⟨sampleEnv 11, lastSent responderKeyed, hostAddress 2⟩

theorem initiator_awaits : initiator.AwaitsSaInit := by
  constructor <;> decide +kernel

theorem forgedResponse_refused : initiator.RefusesSaInit forgedResponse := by
  refine ⟨by decide +kernel, ⟨forgedHeader, []⟩, initiator, .ike "IKE_SA_INIT response without SA", ?_, ?_, rfl, ?_⟩
  · decide +kernel
  · decide +kernel
  · decide +kernel

/-- The genuine response is accepted, but not after the forged one. -/
theorem sa_init_lost :
    initiator.AwaitsSaInit ∧ initiator.RefusesSaInit forgedResponse ∧
      (initiator.deliver forgedResponse).pendingSaInit.isSome = false ∧
      (initiator.deliver genuineResponse).phase = .authSent ∧
      ((initiator.deliver forgedResponse).deliver genuineResponse).phase = .saInitSent ∧
      ((initiator.deliver forgedResponse).deliver genuineResponse).ike.isSome = false :=
  ⟨initiator_awaits, forgedResponse_refused, by decide +kernel⟩

theorem sa_init_undisturbed_forged :
    initiator.AwaitsSaInit ∧ Admitted Runner.deliver Runner.RefusesSaInit initiator [forgedResponse] ∧
      ¬initiator.KeepsSaInit (runInputs Runner.deliver initiator [forgedResponse]) :=
  have failed : Admitted Runner.deliver Runner.RefusesSaInit initiator [forgedResponse] :=
    ⟨forgedResponse_refused, trivial⟩
  ⟨initiator_awaits, failed, (sa_init_undisturbed_iff initiator_awaits failed).not.mpr (by simp)⟩

end

end Shuli.Ipsec
