import Shuli.Ipsec.Forgery
import Shuli.Ipsec.Window

/-!
The conduct of a runner over whole runs. An IKE SA on record is never exchanged for another one, whatever
arrives. No wake sends more than one message, and that is a copy of the armed message, a request of the
runner's own, or the response to the request that was delivered.
-/

namespace Shuli.Ipsec

open Fallible Shuli.Core

/-- What an IKE SA keeps while its Child SAs come and go: role, SPIs, keys, suite, nonces and the octets that
AUTH covers. -/
def IkeRuntime.settled (ike : IkeRuntime) : IkeRuntime :=
  { ike with child := none, innerAddresses := [], dns := [] }

section

variable [Crypto] {env : Env} {wake : Wake} {before after : Ledger} {message : Octets}

/-- The message may leave when this wake finds these books: a request is not an IKE_SA_INIT, an IKE_SA_INIT
response leaves only without an IKE SA, and any other response only for a request that opens under the IKE SA,
with its exchange and its identifier. -/
def Ledger.Warrants (before : Ledger) (wake : Wake) (message : Octets) : Prop :=
  (wake = .retransmitTimer ∧ before.slot = some message) ∨
    ((wireHeader message).response = false ∧ (wireHeader message).exchange ≠ some .ikeSaInit) ∨
    (wireHeader message).response = true ∧ ∃ request, wake.Delivers request ∧ request.header.isResponse = false ∧
      (before.ike = none ∧ (wireHeader message).exchange = some .ikeSaInit ∨
        (∃ ike payloads, Reads wake before request ike payloads) ∧
          (wireHeader message).exchange = some request.header.exchange ∧
          (wireHeader message).messageId = request.header.messageId)

/-- At most one message was sent, and it was warranted; what is armed was armed before or is that message. -/
structure Ledger.PostsOne (before : Ledger) (wake : Wake) (after : Ledger) (posted : Option Octets) : Prop where
  sent : after.sent = before.sent ++ posted.toList
  slot : after.slot = before.slot ∨ after.slot = none ∨ after.slot = posted
  warranted : ∀ message ∈ posted, before.Warrants wake message

theorem Posted.warrants_request {ike runtime : IkeRuntime} {exchange : ExchangeType} {messageId : UInt32}
    {payloads : List Payload} (posted : Posted env ike (runtime.headerFor exchange messageId true) payloads message)
    (later : exchange ≠ .ikeSaInit) : before.Warrants wake message := by
  refine .inr (.inl ⟨?_, ?_⟩)
  · rw [posted.header, IkeRuntime.headerFor_isResponse]
    rfl
  · rw [posted.header]
    exact fun same => later (Option.some.inj same)

theorem Posted.warrants_response {ike runtime other : IkeRuntime} {payloads inner : List Payload}
    {request : Message} {exchange : ExchangeType}
    (posted : Posted env ike (runtime.headerFor exchange request.header.messageId false) payloads message)
    (reads : Reads wake before request other inner) (asked : request.header.isResponse = false)
    (same : request.header.exchange = exchange) : before.Warrants wake message := by
  refine .inr (.inr ⟨?_, request, reads.delivers, asked, .inr ⟨⟨other, inner, reads⟩, ?_, ?_⟩⟩)
  · rw [posted.header, IkeRuntime.headerFor_isResponse]
    rfl
  · rw [posted.header, same]
    rfl
  · rw [posted.header]
    rfl

theorem Ledger.warrants_opening {request : Message} {initiatorSpi responderSpi : UInt64} {payloads : List Payload}
    (delivers : wake.Delivers request) (asked : request.header.isResponse = false) (fresh : before.ike = none)
    (encoded : Message.encode ⟨IkeHeader.new initiatorSpi responderSpi .ikeSaInit flagResponse 0, payloads⟩ =
      .ok message) : before.Warrants wake message := by
  refine .inr (.inr ⟨?_, request, delivers, asked, .inl ⟨fresh, ?_⟩⟩)
  · rw [wireHeader_encoded encoded, IkeHeader.new_response]
  · rw [wireHeader_encoded encoded]
    rfl

theorem Ledger.posts_none (same : after.sent = before.sent) (slot : after.slot = before.slot ∨ after.slot = none) :
    ∃ posted, before.PostsOne wake after posted :=
  ⟨none, same.trans (List.append_nil _).symm, slot.imp_right .inl, nofun⟩

theorem Ledger.posts_one (more : after.sent = before.sent ++ [message])
    (slot : after.slot = before.slot ∨ after.slot = none ∨ after.slot = some message)
    (warranted : before.Warrants wake message) : ∃ posted, before.PostsOne wake after posted :=
  ⟨some message, more, slot, fun _ sent => Option.some.inj sent ▸ warranted⟩

variable [Tls]

theorem Move.settled (move : Move env wake before after) (known : before.ike.isSome = true)
    (taken : before.ike.isSome = true → before.phase = .saInitSent → before.pendingSaInit = none) :
    after.ike.map IkeRuntime.settled = before.ike.map IkeRuntime.settled := by
  cases move with
  | quiet | notified | saInitTaken | authRequestFailed | authResponseFailed | eapUnsent | eapContinued
  | informed | answered | rekeyIgnored | rekeyRefused | retransmitted | exhausted | probeUnsent | probed
  | rekeyIdle | rekeyPostponed | rekeyUnsent | rekeySent => rfl
  | createdResponder _ _ _ _ fresh => simp [fresh] at known
  | createdUnsent _ _ _ phase pends | createdInitiator _ _ _ phase pends =>
    cases (taken known phase).symm.trans pends
  | authAnswered reads | authCompleted reads | rekeyAnswered reads | rekeyCompleted reads =>
    rw [reads.current]
    rfl
  | deletedUnsent | deleted | retransmitDead | dpdDead =>
    change (before.ike.map fun ike => { ike with child := none }).map _ = _
    cases before.ike <;> rfl

theorem Move.posts (move : Move env wake before after) : ∃ posted, before.PostsOne wake after posted := by
  cases move with
  | quiet | deletedUnsent | dpdDead | probeUnsent | rekeyIdle | rekeyPostponed | rekeyUnsent =>
    exact Ledger.posts_none rfl (.inl rfl)
  | saInitTaken _ _ _ _ _ _ kept => exact Ledger.posts_none rfl kept
  | createdUnsent | authRequestFailed | authResponseFailed | eapUnsent | authCompleted | answered
  | rekeyIgnored | rekeyRefused | rekeyCompleted | exhausted | retransmitDead =>
    exact Ledger.posts_none rfl (.inr rfl)
  | notified delivers request fresh encoded =>
    exact Ledger.posts_one rfl (.inl rfl) (Ledger.warrants_opening delivers request fresh encoded)
  | createdResponder delivers decoded request _ fresh answered =>
    obtain ⟨_, encoded⟩ := (answerSaInit_responded answered).encoded
    exact Ledger.posts_one rfl (.inr (.inr rfl))
      (Ledger.warrants_opening ⟨_, _, delivers, decoded⟩ request fresh encoded)
  | createdInitiator _ _ _ _ _ _ posted | eapContinued _ _ _ posted =>
    exact Ledger.posts_one rfl (.inr (.inr rfl)) (posted.warrants_request nofun)
  | authAnswered reads request exchange _ _ _ posted | rekeyAnswered reads request exchange _ _ posted =>
    exact Ledger.posts_one rfl (.inr (.inl rfl)) (posted.warrants_response reads request exchange)
  | informed reads request exchange posted | deleted reads request exchange _ _ posted =>
    exact Ledger.posts_one rfl (.inl rfl) (posted.warrants_response reads request exchange)
  | retransmitted timer armed => exact Ledger.posts_one rfl (.inl rfl) (.inl ⟨timer, armed⟩)
  | probed _ _ made =>
    obtain ⟨_, _, posted⟩ := Ledger.probe_eq_ok.mp made
    exact Ledger.posts_one rfl (.inr (.inr rfl)) (posted.warrants_request nofun)
  | rekeySent _ _ _ made =>
    obtain ⟨_, _, _, _, _, _, _, _, _, _, posted⟩ := Ledger.rekeyRequest_eq_ok.mp made
    exact Ledger.posts_one rfl (.inr (.inr rfl)) (posted.warrants_request nofun)

/-- Once a runner has an IKE SA it has that IKE SA to the end of the run. -/
theorem ike_sa_kept (env : Env) (config : IpsecConfig) (early late : List (Env × Wake)) :
    (runInputs Runner.step (Runner.start env config) early).ike = none ∨
      (runInputs Runner.step (Runner.start env config) (early ++ late)).ike.map IkeRuntime.settled =
        (runInputs Runner.step (Runner.start env config) early).ike.map IkeRuntime.settled := by
  have reached : Reachable Runner.step (Runner.start env config)
      (runInputs Runner.step (Runner.start env config) early) := ⟨early, rfl⟩
  have taken := reachable_saInitTaken reached
  rw [runInputs_append]
  generalize runInputs Runner.step (Runner.start env config) early = self at taken ⊢
  rcases known : self.ike with _ | ike
  · exact .inl rfl
  · refine .inr (Reachable.invariant (I := fun later : Runner => later.view.SaInitTaken ∧
      later.ike.map IkeRuntime.settled = some ike.settled) ⟨late, rfl⟩ ?_ ⟨taken, by rw [known]; rfl⟩).2
    rintro later input ⟨taken, same⟩
    have some : later.ike.isSome = true := by
      rw [← Option.isSome_map, same]
      rfl
    exact ⟨(step_effect later input.1 input.2).saInitTaken_keeps taken,
      ((step_move later input.1 input.2).settled some taken).trans same⟩

/-- A wake adds at most one message to those that were sent, one that its books warrant, so that a run sends no
more messages than it has wakes. -/
theorem one_message_each_wake (self : Runner) :
    (∀ env wake, ∃ posted, self.ledger.PostsOne wake (self.step (env, wake)).ledger posted) ∧
      ∀ inputs, (runInputs Runner.step self inputs).ledger.sent.length ≤ self.ledger.sent.length + inputs.length := by
  refine ⟨fun env wake => (step_move self env wake).posts, fun inputs => ?_⟩
  induction inputs generalizing self with
  | nil => exact Nat.le_refl _
  | cons input inputs ih =>
    obtain ⟨posted, one⟩ := (step_move self input.1 input.2).posts
    have single : posted.toList.length ≤ 1 := by cases posted <;> simp
    have more : (self.step input).ledger.sent.length = _ := congrArg List.length one.sent
    have bound := ih (self.step input)
    rw [runInputs_cons, List.length_cons]
    rw [more, List.length_append] at bound
    omega

end

end Shuli.Ipsec
