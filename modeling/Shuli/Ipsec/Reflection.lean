import Shuli.Ipsec.Forgery

/-!
No AUTH reflection. The AUTH payload of the original initiator covers the IKE_SA_INIT request, that
of the original responder the response, and the two differ in the response flag. A runner that only
verifies requests as responder and responses as initiator therefore never accepts, under a prf
without collisions, a value that it computed itself. The dispatcher does not look at the role: an
initiator handles an IKE_AUTH request, and accepts its own AUTH when the peer's identity is `any`.
-/

namespace Shuli.Ipsec

open Fallible Shuli.Core

/-! Where the flags are in a message -/

def hasResponseFlag (octets : Octets) : Bool := octetAt octets 19 &&& flagResponse != 0

theorem octetAt_append {first : Octets} {index : Nat} (second : Octets) (inside : index < first.length) :
    octetAt (first ++ second) index = octetAt first index := by
  simp [octetAt, List.getElem?_append_left inside]

/-- The octets are a message from the direction that `response` tells. -/
structure FromSide (octets : Octets) (response : Bool) : Prop where
  long : 28 ≤ octets.length
  flag : hasResponseFlag octets = response

variable {message : Message} {octets : Octets}

theorem Message.encode_side {response : Bool}
    (encoded : Message.encode message = .ok octets) (flag : message.header.isResponse = response) :
    FromSide octets response := by
  simp only [Message.encode, Except.bind_eq_ok] at encoded
  obtain ⟨chain, -, result⟩ := encoded
  cases result
  refine ⟨?_, ?_⟩
  · rw [List.length_append]
    exact Nat.le_add_right 28 _
  · rw [hasResponseFlag]
    exact flag

theorem IkeHeader.decode_flags {header : IkeHeader}
    (decoded : IkeHeader.decode octets = .ok header) :
    28 ≤ octets.length ∧ octetAt octets 19 = header.flags := by
  simp only [IkeHeader.decode, Except.guard_eq_ok] at decoded
  obtain ⟨long, decoded⟩ := decoded
  refine ⟨Nat.le_of_not_lt long, ?_⟩
  split at decoded
  · simp only [Except.guard_eq_ok] at decoded
    obtain ⟨-, -, result⟩ := decoded
    cases result
    rfl
  · cases decoded

theorem Message.decode_side
    (decoded : Message.decode octets = .ok message) : FromSide octets message.header.isResponse := by
  simp only [Message.decode, Except.bind_eq_ok] at decoded
  obtain ⟨header, decoded, payloads, -, result⟩ := decoded
  cases result
  obtain ⟨long, flags⟩ := IkeHeader.decode_flags decoded
  exact ⟨long, by rw [hasResponseFlag, flags]; rfl⟩

theorem FromSide.signed [Crypto] {message : Octets} {response : Bool} (side : FromSide message response)
    (nonce : Octets) (prfAlgorithm : PrfAlgorithm) (skP id : Octets) :
    hasResponseFlag (signedOctets message nonce prfAlgorithm skP id) = response := by
  have long := side.long
  rw [signedOctets, hasResponseFlag, List.append_assoc, octetAt_append _ (by omega)]
  exact side.flag

/-! What a run records about AUTH -/

/-- The messages that AUTH covers have the flags of their directions. -/
structure IkeRuntime.Sided (ike : IkeRuntime) : Prop where
  request : FromSide ike.realMessage1 false
  response : FromSide ike.realMessage2 true

/-- A runner in a role computes AUTH over the octets of its own side, and verifies it over those of
the other side, in the flow that belongs to the role. -/
def Action.Fits (role : Role) : Action → Prop
  | .authComputed signed _ => hasResponseFlag signed = !role.isInitiator
  | .authVerified flow verifier signed _ =>
    hasResponseFlag signed = role.isInitiator ∧ verifier = role ∧
      (flow = .request ↔ role = .responder)
  | _ => True

structure View.Sided (view : View) : Prop where
  taken : view.SaInitTaken
  pending : ∀ pending, view.pendingSaInit = some pending → FromSide pending.realMessage1 false
  sa : ∀ ike, view.ike = some ike → ike.Sided ∧ ∀ action ∈ view.marks, action.Fits ike.role
  fresh : view.ike = none → ∀ action ∈ view.marks, ∀ role, action.Fits role

namespace View.Sided

variable {view : View} {ike : IkeRuntime}

theorem marked (holds : view.Sided) (current : view.ike = some ike) {action : Action}
    (fits : action.Fits ike.role) : (view.marked action).Sided where
  taken := holds.taken
  pending := holds.pending
  sa other same := by
    obtain rfl := Option.some.inj (current.symm.trans same)
    refine ⟨(holds.sa ike current).1, fun a member => ?_⟩
    rcases List.mem_append.mp member with old | new
    · exact (holds.sa ike current).2 a old
    · obtain rfl := List.mem_singleton.mp new
      exact fits
  fresh none := by simp [View.marked, current] at none

/-- The IKE SA gets another Child SA, or other leases, and marks that are not about AUTH. -/
theorem changed (holds : view.Sided) (current : view.ike = some ike) {next : View} {ike' : IkeRuntime}
    {marks : List Action} (ike_eq : next.ike = some ike') (role : ike'.role = ike.role)
    (request : ike'.realMessage1 = ike.realMessage1) (response : ike'.realMessage2 = ike.realMessage2)
    (pending : next.pendingSaInit = view.pendingSaInit) (phase : next.phase = .saInitSent → view.phase = .saInitSent)
    (appended : next.marks = view.marks ++ marks) (fits : ∀ action ∈ marks, ∀ role, action.Fits role) :
    next.Sided where
  taken _ sent := pending.trans (holds.taken (by rw [current]; rfl) (phase sent))
  pending := pending ▸ holds.pending
  sa other same := by
    obtain rfl := Option.some.inj (ike_eq.symm.trans same)
    obtain ⟨sided, old⟩ := holds.sa ike current
    refine ⟨⟨request ▸ sided.request, response ▸ sided.response⟩, fun a member => ?_⟩
    rw [appended] at member
    rcases List.mem_append.mp member with before | new
    · exact role ▸ old a before
    · exact fits a new _
  fresh none := by simp [ike_eq] at none

theorem installed (holds : view.Sided) (current : view.ike = some ike) {ike' : IkeRuntime}
    (role : ike'.role = ike.role) (request : ike'.realMessage1 = ike.realMessage1)
    (response : ike'.realMessage2 = ike.realMessage2) (handle : ChildSaHandle) (event : IpsecEvent) :
    (view.installed ike' handle event).Sided := by
  refine holds.changed current rfl role request response rfl (fun h => by cases h) rfl ?_
  intro action member _
  rcases List.mem_cons.mp member with rfl | member
  · trivial
  · obtain rfl := List.mem_singleton.mp member
    trivial

theorem removed (holds : view.Sided) (reason : ChildSaRemovalReason) : (view.removed reason).Sided := by
  have silent : ∀ action ∈ [Action.childRemoved reason], ∀ role, action.Fits role := by
    intro action member _
    obtain rfl := List.mem_singleton.mp member
    trivial
  cases current : view.ike with
  | none =>
    refine ⟨fun some => ?_, holds.pending, fun ike same => ?_, fun _ action member role => ?_⟩
    · simp [View.removed, current] at some
    · simp [View.removed, current] at same
    · rcases List.mem_append.mp member with old | new
      · exact holds.fresh current action old role
      · exact silent action new role
  | some ike =>
    have next : (view.removed reason).ike = some { ike with child := none } := by
      simp [View.removed, current]
    exact holds.changed current next rfl rfl rfl rfl id rfl silent

/-- A new IKE SA, from a state without one. -/
theorem created (holds : view.Sided) (absent : view.ike = none) {next : View} (current : next.ike = some ike)
    (sided : ike.Sided) (taken : next.phase = .saInitSent → next.pendingSaInit = none)
    (pending : ∀ pending, next.pendingSaInit = some pending → view.pendingSaInit = some pending) {marks : List Action}
    (appended : next.marks = view.marks ++ marks) (fits : ∀ action ∈ marks, action.Fits ike.role) : next.Sided where
  taken _ := taken
  pending p some := holds.pending p (pending p some)
  sa other same := by
    obtain rfl := Option.some.inj (current.symm.trans same)
    refine ⟨sided, fun action member => ?_⟩
    rw [appended] at member
    rcases List.mem_append.mp member with old | new
    · exact holds.fresh absent action old _
    · exact fits action new
  fresh empty := by simp [current] at empty

end View.Sided

section

variable [Crypto]

omit [Crypto] in
theorem isResponse_flagResponse {spiI spiR : UInt64} {exchange : ExchangeType} {messageId : UInt32} :
    (IkeHeader.new spiI spiR exchange flagResponse messageId).isResponse = true := by
  change (flagResponse &&& flagResponse != 0) = true
  decide

variable {ike : IkeRuntime}

theorem answerSaInit_sided [Tls] {self : Runner} {env : Env} {raw : Octets} {source : SocketAddr}
    {suite : IkeProposal} {number : UInt8} {peerPublic response : Octets} (request : FromSide raw false)
    (answered : answerSaInit self env raw source message suite number peerPublic = .ok (ike, response)) :
    ike.role = .responder ∧ ike.Sided := by
  have responded := answerSaInit_responded answered
  obtain ⟨_, encoded⟩ := responded.encoded
  exact ⟨responded.role, responded.first ▸ request,
    responded.second ▸ Message.encode_side encoded isResponse_flagResponse⟩

theorem acceptSaInit_sided {pending : PendingSaInit} {raw : Octets}
    (request : FromSide pending.realMessage1 false) (response : FromSide raw true)
    (accepted : acceptSaInit pending raw message = .ok ike) : ike.role = .initiator ∧ ike.Sided := by
  have initiated := acceptSaInit_initiated accepted
  exact ⟨initiated.role, initiated.first ▸ request, initiated.second ▸ response⟩

variable {payloads : List Payload}

variable {signed auth : Octets} {peer : PeerConfig}

theorem verifyAuthRequest_signed (verified : verifyAuthRequest peer ike payloads = .ok (signed, auth)) :
    ∃ idBody, signed = ike.initiatorSigned idBody := by
  simp only [verifyAuthRequest, Except.bind_eq_ok, Except.guard_eq_ok] at verified
  obtain ⟨id, -, _, -, -, verified⟩ := verified
  refine ⟨idPayloadBody id, ?_⟩
  split at verified
  · simp only [Except.bind_eq_ok] at verified
    obtain ⟨_, _, _, _, result⟩ := verified
    cases result
    rfl
  · simp only [Except.bind_eq_ok] at verified
    obtain ⟨_, _, _, _, _, _, result⟩ := verified
    cases result
    rfl
  · cases verified

theorem verifyAuthResponse_signed [Tls] {eap : Option EapSession}
    (verified : verifyAuthResponse peer ike eap payloads = .ok (signed, auth)) :
    ∃ idBody, signed = ike.responderSigned idBody := by
  simp only [verifyAuthResponse, Except.bind_eq_ok, Except.guard_eq_ok] at verified
  obtain ⟨id, -, _, -, -, verified⟩ := verified
  refine ⟨idPayloadBody id, ?_⟩
  split at verified
  · simp only [Except.bind_eq_ok] at verified
    obtain ⟨_, _, _, _, result⟩ := verified
    cases result
    rfl
  all_goals
    simp only [Except.bind_eq_ok] at verified
    obtain ⟨_, _, _, _, _, _, result⟩ := verified
    cases result
    rfl

namespace IkeRuntime.Sided

variable {ike : IkeRuntime}

theorem computed_initiator (sided : ike.Sided) (role : ike.role = .initiator) (idBody auth : Octets) :
    (Action.authComputed (ike.initiatorSigned idBody) auth).Fits ike.role := by
  rw [role]
  exact sided.request.signed ..

theorem computed_responder (sided : ike.Sided) (role : ike.role = .responder) (idBody auth : Octets) :
    (Action.authComputed (ike.responderSigned idBody) auth).Fits ike.role := by
  rw [role]
  exact sided.response.signed ..

theorem verified_request (sided : ike.Sided) (role : ike.role = .responder)
    {payloads : List Payload}
    (verified : verifyAuthRequest peer ike payloads = .ok (signed, auth)) :
    (Action.authVerified .request ike.role signed auth).Fits ike.role := by
  obtain ⟨idBody, rfl⟩ := verifyAuthRequest_signed verified
  rw [role]
  exact ⟨sided.request.signed .., rfl, by simp⟩

theorem verified_response [Tls] (sided : ike.Sided) (role : ike.role = .initiator)
    {eap : Option EapSession} {payloads : List Payload}
    (verified : verifyAuthResponse peer ike eap payloads = .ok (signed, auth)) :
    (Action.authVerified .response ike.role signed auth).Fits ike.role := by
  obtain ⟨idBody, rfl⟩ := verifyAuthResponse_signed verified
  rw [role]
  exact ⟨sided.response.signed .., rfl, by simp⟩

end IkeRuntime.Sided

variable [Tls]

theorem Effect.sided {wake : Wake} {before after : View} (effect : Effect wake before after)
    (holds : before.Sided)
    (asInitiator : ∀ message ike payloads, Opened wake before message ike payloads →
      message.header.isResponse = true → before.phase.inAuth → ike.role = .initiator)
    (asResponder : ∀ message ike payloads, Opened wake before message ike payloads →
      message.header.isResponse = false → message.header.exchange = .ikeAuth → ike.role = .responder) :
    after.Sided := by
  cases effect with
  | quiet => exact holds
  | saInitTaken => exact ⟨fun _ _ => rfl, fun _ some => (by cases some), holds.sa, holds.fresh⟩
  | createdResponder _ decoded request fresh answered =>
    obtain ⟨role, sided⟩ := answerSaInit_sided (request ▸ Message.decode_side decoded) answered
    refine holds.created fresh rfl sided (fun sent => by cases sent) (fun _ some => some) rfl ?_
    intro action member
    obtain rfl := List.mem_singleton.mp member
    trivial
  | createdInitiator _ decoded response sent pends accepted computed =>
    obtain ⟨role, sided⟩ := acceptSaInit_sided (holds.pending _ pends)
      (response ▸ Message.decode_side decoded) accepted
    have absent : before.ike = none := by
      by_contra some
      have taken := holds.taken (Option.isSome_iff_ne_none.mpr some) sent
      simp [taken] at pends
    refine holds.created absent rfl ⟨sided.request, sided.response⟩ (fun _ => rfl)
      (fun _ some => by cases some) (List.append_assoc ..) ?_
    intro action member
    rcases List.mem_cons.mp member with rfl | own
    · trivial
    · rcases computed with rfl | ⟨idBody, auth, rfl⟩
      · cases own
      · obtain rfl := List.mem_singleton.mp own
        exact sided.computed_initiator role _ _
  | eapAuthenticated opened response phase =>
    have role := asInitiator _ _ _ opened response phase
    exact holds.marked opened.current ((holds.sa _ opened.current).1.computed_initiator role _ _)
  | requestVerified opened request exchange _ verified =>
    have role := asResponder _ _ _ opened request exchange
    exact holds.marked opened.current ((holds.sa _ opened.current).1.verified_request role verified)
  | requestAnswered opened request exchange _ verified =>
    have role := asResponder _ _ _ opened request exchange
    have sided := (holds.sa _ opened.current).1
    exact (holds.marked opened.current (sided.verified_request role verified)).marked opened.current
      (sided.computed_responder role _ _)
  | requestInstalled opened request exchange _ verified =>
    have role := asResponder _ _ _ opened request exchange
    have sided := (holds.sa _ opened.current).1
    exact ((holds.marked opened.current (sided.verified_request role verified)).marked opened.current
      (sided.computed_responder role _ _)).installed opened.current rfl rfl rfl ..
  | responseVerified opened response phase _ verified =>
    have role := asInitiator _ _ _ opened response phase
    exact holds.marked opened.current ((holds.sa _ opened.current).1.verified_response role verified)
  | responseInstalled opened response phase _ verified =>
    have role := asInitiator _ _ _ opened response phase
    have marked := holds.marked opened.current
      ((holds.sa _ opened.current).1.verified_response role verified)
    refine marked.installed opened.current ?_ ?_ ?_ _ _ <;> rfl
  | rekeyAnswered opened => exact holds.installed opened.current rfl rfl rfl ..
  | rekeyCompleted opened => exact holds.installed opened.current rfl rfl rfl ..
  | deleted => exact holds.removed _
  | peerDead =>
    exact ⟨fun _ sent => (by cases sent), (holds.removed .peerDead).pending, (holds.removed .peerDead).sa,
      (holds.removed .peerDead).fresh⟩

omit [Crypto] in
theorem Started.sided {config : IpsecConfig} {view : View} (started : Started config view) :
    view.Sided := by
  cases started with
  | waiting =>
    exact ⟨fun some => (by cases some), fun _ some => (by cases some), fun _ some => (by cases some),
      fun _ _ member => (by cases member)⟩
  | saInitSent flags encoded =>
    refine ⟨fun some => (by cases some), fun _ some => ?_, fun _ some => (by cases some),
      fun _ _ member => (by cases member)⟩
    obtain rfl := Option.some.inj some
    refine Message.encode_side encoded ?_
    rw [IkeHeader.isResponse, flags]
    decide

/-- The role in which a protected message of IKE_AUTH belongs to a runner: a request to the
responder, and what the phase takes for a response to the initiator. -/
def Runner.authSide (self : Runner) : Wake → Option Role
  | .datagram data _ =>
    match Message.decode data with
    | .ok message =>
      if (self.openEncrypted message).isOk then
        if message.header.isResponse then
          if self.phase = .authSent ∨ self.phase = .eapAuth then some .initiator else none
        else if message.header.exchange = .ikeAuth then some .responder
        else none
      else none
    | .error _ => none
  | _ => none

/-- Protected messages of IKE_AUTH are delivered to the role that they belong to. -/
def AuthByRole (self : Runner) (input : Env × Wake) : Prop :=
  ∀ role ∈ self.authSide input.2, ∀ ike ∈ self.ike, ike.role = role

instance (self : Runner) (input : Env × Wake) : Decidable (AuthByRole self input) :=
  inferInstanceAs (Decidable (∀ role ∈ self.authSide input.2, ∀ ike ∈ self.ike, ike.role = role))

theorem authSide_of_opened {self : Runner} {wake : Wake}
    (opened : Opened wake self.view message ike payloads) :
    self.authSide wake =
      if message.header.isResponse then
        if self.phase = .authSent ∨ self.phase = .eapAuth then some .initiator else none
      else if message.header.exchange = .ikeAuth then some .responder
      else none := by
  obtain ⟨data, source, rfl, decoded⟩ := opened.delivers
  have current : self.ike = some ike := opened.current
  simp [Runner.authSide, decoded, Runner.openEncrypted, current, opened.opens,
    Except.toBool]

theorem step_sided (self : Runner) (input : Env × Wake) (holds : self.view.Sided)
    (admitted : AuthByRole self input) : (self.step input).view.Sided := by
  refine (step_effect self input.1 input.2).sided holds ?_ ?_
  · intro message ike payloads opened response phase
    refine admitted _ ?_ ike opened.current
    rw [authSide_of_opened opened, if_pos response]
    exact if_pos phase
  · intro message ike payloads opened request exchange
    refine admitted _ ?_ ike opened.current
    rw [authSide_of_opened opened, request]
    exact if_pos exchange

/-- The prf has no collision in the run: a value that was accepted and that the runner computed
itself covers the same octets. -/
def Unforged (trace : List Action) : Prop :=
  ∀ flow role signed auth own, .authVerified flow role signed auth ∈ trace →
    .authComputed own auth ∈ trace → signed = own

omit [Crypto] in
theorem mem_marks {self : Runner} {action : Action} (mark : action.isMark = true) :
    action ∈ self.marks ↔ action ∈ self.trace := by
  simp [Runner.marks, mark]

/-- No AUTH reflection: along every run that delivers protected IKE_AUTH messages to the role they
belong to, an accepted AUTH value is none that the runner computed itself, requests are accepted by
a responder and responses by an initiator. -/
theorem no_auth_reflection (env : Env) (config : IpsecConfig) (inputs : List (Env × Wake))
    (admitted : Admitted Runner.step AuthByRole (Runner.start env config) inputs)
    (unforged : Unforged (runInputs Runner.step (Runner.start env config) inputs).trace)
    (flow : AuthFlow) (role : Role) (signed auth : Octets)
    (accepted : .authVerified flow role signed auth ∈
      (runInputs Runner.step (Runner.start env config) inputs).trace) :
    (∀ own, .authComputed own auth ∉ (runInputs Runner.step (Runner.start env config) inputs).trace) ∧
      (flow = .request ↔ role = .responder) := by
  have holds : (runInputs Runner.step (Runner.start env config) inputs).view.Sided :=
    run_invariant (I := fun self => self.view.Sided) step_sided (start_started env config).sided admitted
  have marked := (mem_marks rfl).mpr accepted
  cases current : (runInputs Runner.step (Runner.start env config) inputs).ike with
  | none =>
    have fits := fun side => holds.fresh current _ marked side
    exact absurd ((fits .initiator).2.1.symm.trans (fits .responder).2.1) (by decide)
  | some ike =>
    obtain ⟨side, rfl, direction⟩ := (holds.sa ike current).2 _ marked
    refine ⟨fun own computed => ?_, direction⟩
    have ownSide : hasResponseFlag own = !ike.role.isInitiator :=
      (holds.sa ike current).2 _ ((mem_marks rfl).mpr computed)
    obtain rfl := unforged _ _ _ _ _ accepted computed
    rw [side] at ownSide
    cases flag : ike.role.isInitiator <;> simp [flag] at ownSide

end

section

attribute [local instance] checksumCrypto closedTls

def acceptedAuths (trace : List Action) : List (AuthFlow × Role × Octets × Octets) :=
  trace.filterMap fun
    | .authVerified flow role signed auth => some (flow, role, signed, auth)
    | _ => none

def computedAuths (trace : List Action) : List (Octets × Octets) :=
  trace.filterMap fun
    | .authComputed signed auth => some (signed, auth)
    | _ => none

variable {trace : List Action}

theorem mem_acceptedAuths {flow : AuthFlow} {role : Role} :
    (flow, role, signed, auth) ∈ acceptedAuths trace ↔ .authVerified flow role signed auth ∈ trace := by
  simp only [acceptedAuths, List.mem_filterMap]
  constructor
  · rintro ⟨action, member, same⟩
    split at same
    · cases same
      exact member
    · cases same
  · exact fun member => ⟨_, member, rfl⟩

theorem mem_computedAuths :
    (signed, auth) ∈ computedAuths trace ↔ .authComputed signed auth ∈ trace := by
  simp only [computedAuths, List.mem_filterMap]
  constructor
  · rintro ⟨action, member, same⟩
    split at same
    · cases same
      exact member
    · cases same
  · exact fun member => ⟨_, member, rfl⟩

theorem unforged_of_lists (apart : ∀ accepted ∈ acceptedAuths trace, ∀ computed ∈ computedAuths trace,
      accepted.2.2.2 = computed.2 → accepted.2.2.1 = computed.1) : Unforged trace :=
  fun _ _ _ _ _ accepted computed =>
    apart _ (mem_acceptedAuths.mpr accepted) _ (mem_computedAuths.mpr computed) rfl

theorem no_auth_reflection_responder :
    ∃ signed auth,
      .authVerified .request .responder signed auth ∈
        (runInputs Runner.step responder responderInputs).trace ∧
      ∀ own, .authComputed own auth ∉ (runInputs Runner.step responder responderInputs).trace := by
  have facts : Admitted Runner.step AuthByRole responder responderInputs ∧
      (∀ accepted ∈ acceptedAuths (runInputs Runner.step responder responderInputs).trace,
        ∀ computed ∈ computedAuths (runInputs Runner.step responder responderInputs).trace,
          accepted.2.2.2 = computed.2 → accepted.2.2.1 = computed.1) ∧
      (acceptedAuths (runInputs Runner.step responder responderInputs).trace).any
        (fun accepted => accepted.1 == .request && accepted.2.1 == .responder) = true := by
    decide +kernel
  obtain ⟨admitted, apart, some⟩ := facts
  obtain ⟨⟨flow, role, signed, auth⟩, member, same⟩ := List.any_eq_true.mp some
  simp only [Bool.and_eq_true, beq_iff_eq] at same
  obtain ⟨rfl, rfl⟩ := same
  have accepted := mem_acceptedAuths.mp member
  exact ⟨signed, auth, accepted, (no_auth_reflection (sampleEnv 20) (sampleConfig 2 1 false [1, 2, 3])
    responderInputs admitted (unforged_of_lists apart) _ _ _ _ accepted).1⟩

def mirror : Runner :=
  (Runner.start (sampleEnv 40) (sampleConfig 2 1 false [9])).step (fromHost 1 41 (lastSent initiator))

def mirroredInitiator : Runner := initiator.step (fromHost 2 42 (lastSent mirror))

def reflectedAuth : Octets :=
  match Message.decode (lastSent mirroredInitiator) with
  | .ok message =>
    match mirror.openEncrypted message, mirror.ike with
    | .ok payloads, some ike =>
      (mirror.sealPayloads (sampleEnv 43)
        (IkeHeader.new ike.remoteSpi ike.localSpi .ikeAuth 0 1)
        (payloads.filter (fun payload => payload.payloadType == PayloadType.IDI ||
            payload.payloadType == PayloadType.AUTH || payload.payloadType == PayloadType.SA) ++
          [tsPayload true [host 2], tsPayload false [host 1]])).toOption.getD []
    | _, _ => []
  | .error _ => []

theorem auth_reflected :
    let self := runInputs Runner.step initiator
      [fromHost 2 42 (lastSent mirror), fromHost 2 44 reflectedAuth]
    (∃ signed auth own, .authVerified .request .initiator signed auth ∈ self.trace ∧
      .authComputed own auth ∈ self.trace) ∧ self.phase = .established := by
  have facts : (acceptedAuths (runInputs Runner.step initiator
        [fromHost 2 42 (lastSent mirror), fromHost 2 44 reflectedAuth]).trace).any (fun accepted =>
          accepted.1 == .request && accepted.2.1 == .initiator &&
            (computedAuths (runInputs Runner.step initiator
              [fromHost 2 42 (lastSent mirror), fromHost 2 44 reflectedAuth]).trace).any
                (fun computed => computed.2 == accepted.2.2.2)) = true ∧
      (runInputs Runner.step initiator
        [fromHost 2 42 (lastSent mirror), fromHost 2 44 reflectedAuth]).phase = .established := by
    decide +kernel
  obtain ⟨some, established⟩ := facts
  obtain ⟨⟨flow, role, signed, auth⟩, accepted, same⟩ := List.any_eq_true.mp some
  simp only [Bool.and_eq_true, beq_iff_eq] at same
  obtain ⟨⟨rfl, rfl⟩, own⟩ := same
  obtain ⟨⟨ownSigned, value⟩, computed, same⟩ := List.any_eq_true.mp own
  obtain rfl := eq_of_beq same
  exact ⟨⟨signed, value, ownSigned, mem_acceptedAuths.mp accepted, mem_computedAuths.mp computed⟩, established⟩

end

end Shuli.Ipsec
