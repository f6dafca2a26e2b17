import Shuli.Ipsec.Handlers
import Shuli.Ipsec.LawfulCrypto
import Shuli.Runs

/-!
Authentication before any tunnel. The trace is read by a small automaton: a new IKE SA has an
unverified peer, a verified AUTH payload changes that, and a Child SA may only be installed or
announced afterwards. The handlers of IKE_AUTH keep to it, and so does the response to a rekey,
which is dispatched in phase `established` only. A CREATE_CHILD_SA request is handled in every
phase; the runs that keep to the automaton are those that deliver such a request, protected under
the keys of the IKE SA, after IKE_AUTH.
-/

namespace Shuli.Ipsec

open Fallible Shuli.Core

def Action.verifies (verified : Bool) : Action → Bool
  | .ikeCreated _ => false
  | .authVerified .. => true
  | _ => verified

def Action.opensTunnel : Action → Bool
  | .childInstalled _ | .event (.childSaReady ..) | .event (.childSaRefreshed ..) => true
  | _ => false

def verifiedFrom (verified : Bool) (trace : List Action) : Bool := trace.foldl Action.verifies verified

/-- Every Child SA of the trace is opened under an IKE SA whose peer is verified. -/
def authenticatedFrom : Bool → List Action → Bool
  | _, [] => true
  | verified, action :: rest =>
    (verified || !action.opensTunnel) && authenticatedFrom (action.verifies verified) rest

theorem authenticatedFrom_append (verified : Bool) (first second : List Action) :
    authenticatedFrom verified (first ++ second) =
      (authenticatedFrom verified first && authenticatedFrom (verifiedFrom verified first) second) := by
  induction first generalizing verified with
  | nil => rfl
  | cons action rest ih =>
    rw [List.cons_append, authenticatedFrom, ih, authenticatedFrom, Bool.and_assoc]
    rfl

theorem verifiedFrom_append (verified : Bool) (first second : List Action) :
    verifiedFrom verified (first ++ second) = verifiedFrom (verifiedFrom verified first) second :=
  List.foldl_append

theorem Action.neutral_of_not_mark {action : Action} (silent : action.isMark = false) (verified : Bool) :
    action.verifies verified = verified ∧ action.opensTunnel = false := by
  cases action with
  | sent | published => exact ⟨rfl, rfl⟩
  | event event => cases event <;> first | exact ⟨rfl, rfl⟩ | cases silent
  | _ => cases silent

theorem verifiedFrom_marks (verified : Bool) (trace : List Action) :
    verifiedFrom verified (trace.filter Action.isMark) = verifiedFrom verified trace := by
  induction trace generalizing verified with
  | nil => rfl
  | cons action rest ih =>
    cases mark : action.isMark with
    | true => rw [List.filter_cons_of_pos mark]; exact ih _
    | false =>
      rw [List.filter_cons_of_neg (by simp [mark]), ih]
      exact congrArg (verifiedFrom · rest) (action.neutral_of_not_mark mark verified).1.symm

theorem authenticatedFrom_marks (verified : Bool) (trace : List Action) :
    authenticatedFrom verified (trace.filter Action.isMark) = authenticatedFrom verified trace := by
  induction trace generalizing verified with
  | nil => rfl
  | cons action rest ih =>
    cases mark : action.isMark with
    | true => rw [List.filter_cons_of_pos mark, authenticatedFrom, authenticatedFrom, ih]
    | false =>
      obtain ⟨same, closed⟩ := Action.neutral_of_not_mark mark verified
      rw [List.filter_cons_of_neg (by simp [mark]), ih, authenticatedFrom, same, closed]
      simp

/-- What holds of the view along a run: the marks keep to the automaton, and the phases that follow
IKE_AUTH are reached under a verified peer. -/
structure View.Authenticated (view : View) : Prop where
  trace : authenticatedFrom false view.marks = true
  phase : view.phase = .established ∨ view.phase = .closed → verifiedFrom false view.marks = true

@[simp] theorem verifiedFrom_marked (view : View) (action : Action) :
    verifiedFrom false (view.marked action).marks = action.verifies (verifiedFrom false view.marks) :=
  verifiedFrom_append ..

namespace View.Authenticated

theorem extend {view next : View} {marks : List Action} (before : view.Authenticated)
    (appended : next.marks = view.marks ++ marks)
    (allowed : authenticatedFrom (verifiedFrom false view.marks) marks = true)
    (phase : next.phase = .established ∨ next.phase = .closed →
      verifiedFrom (verifiedFrom false view.marks) marks = true) : next.Authenticated where
  trace := by rw [appended, authenticatedFrom_append, before.trace, allowed]; rfl
  phase reached := by rw [appended, verifiedFrom_append]; exact phase reached

variable {view : View}

theorem marked (before : view.Authenticated) (action : Action)
    (closed : action.opensTunnel = false) (stays : action.verifies true = true) :
    (view.marked action).Authenticated := by
  refine before.extend rfl (by simp [authenticatedFrom, closed]) fun reached => ?_
  rw [before.phase reached]
  exact stays

theorem installed (before : view.Authenticated)
    (verified : verifiedFrom false view.marks = true) (ike : IkeRuntime) (handle : ChildSaHandle)
    (event : IpsecEvent) : (view.installed ike handle event).Authenticated := by
  refine before.extend rfl ?_ fun _ => ?_ <;> rw [verified] <;> rfl

theorem removed (before : view.Authenticated) (reason : ChildSaRemovalReason) : (view.removed reason).Authenticated :=
  ⟨(before.marked (.childRemoved reason) rfl rfl).trace,
    (before.marked (.childRemoved reason) rfl rfl).phase⟩

end View.Authenticated

section

variable [Crypto] [Tls]

def Runner.opensRekeyRequest (self : Runner) : Wake → Bool
  | .datagram data _ =>
    match Message.decode data with
    | .ok message =>
      !message.header.isResponse && message.header.exchange == .createChildSa &&
        (self.openEncrypted message).isOk
    | .error _ => false
  | _ => false

/-- A protected CREATE_CHILD_SA request is delivered only once IKE_AUTH has established the SA. -/
def RekeyAfterAuth (self : Runner) (input : Env × Wake) : Prop :=
  self.opensRekeyRequest input.2 = true → self.phase = .established ∨ self.phase = .closed

instance (self : Runner) (input : Env × Wake) : Decidable (RekeyAfterAuth self input) :=
  inferInstanceAs (Decidable (_ → _))

theorem opensRekeyRequest_of_opened {self : Runner} {wake : Wake} {message : Message}
    {ike : IkeRuntime} {payloads : List Payload} (opened : Opened wake self.view message ike payloads)
    (request : message.header.isResponse = false)
    (exchange : message.header.exchange = .createChildSa) : self.opensRekeyRequest wake = true := by
  obtain ⟨data, source, rfl, decoded⟩ := opened.delivers
  have current : self.ike = some ike := opened.current
  simp [Runner.opensRekeyRequest, decoded, request, exchange, Runner.openEncrypted, current,
    opened.opens, Except.toBool]

theorem Effect.authenticated {wake : Wake} {before after : View} (effect : Effect wake before after)
    (holds : before.Authenticated)
    (rekey : ∀ message ike payloads, Opened wake before message ike payloads →
      message.header.isResponse = false → message.header.exchange = .createChildSa →
      before.phase = .established ∨ before.phase = .closed) : after.Authenticated := by
  cases effect with
  | quiet => exact holds
  | saInitTaken sent => exact ⟨holds.trace, holds.phase⟩
  | createdResponder =>
    refine holds.extend rfl (by simp [authenticatedFrom, Action.opensTunnel]) ?_
    rintro (reached | reached) <;> cases reached
  | createdInitiator _ _ _ _ _ _ computed next =>
    refine holds.extend (List.append_assoc ..) ?_ ?_
    · rcases computed with rfl | ⟨idBody, auth, rfl⟩ <;> simp [authenticatedFrom, Action.opensTunnel]
    · rcases next with rfl | rfl | rfl <;> rintro (reached | reached) <;> cases reached
  | eapAuthenticated => exact holds.marked _ rfl rfl
  | requestVerified | responseVerified => exact holds.marked _ rfl rfl
  | requestAnswered => exact (holds.marked _ rfl rfl).marked _ rfl rfl
  | requestInstalled => exact ((holds.marked _ rfl rfl).marked _ rfl rfl).installed (by simp [Action.verifies]) ..
  | responseInstalled => exact (holds.marked _ rfl rfl).installed (by simp [Action.verifies]) ..
  | rekeyAnswered opened request exchange =>
    exact holds.installed (holds.phase (rekey _ _ _ opened request exchange)) ..
  | rekeyCompleted _ _ phase => exact holds.installed (holds.phase (.inl phase)) ..
  | deleted => exact holds.removed _
  | peerDead phase =>
    exact ⟨(holds.removed .peerDead).trace, fun _ => (holds.removed .peerDead).phase (.inl phase)⟩

theorem step_authenticated (self : Runner) (input : Env × Wake) (holds : self.view.Authenticated)
    (admitted : RekeyAfterAuth self input) : (self.step input).view.Authenticated :=
  (step_effect self input.1 input.2).authenticated holds fun _ _ _ opened request exchange =>
    admitted (opensRekeyRequest_of_opened opened request exchange)

omit [Crypto] in
theorem Started.authenticated {config : IpsecConfig} (started : Started config view) :
    view.Authenticated := by
  cases started with
  | waiting => exact ⟨rfl, by rintro (reached | reached) <;> cases reached⟩
  | saInitSent => exact ⟨rfl, by rintro (reached | reached) <;> cases reached⟩

/-- Authentication before any tunnel: along every run that delivers protected CREATE_CHILD_SA
requests only after IKE_AUTH, each Child SA is installed and announced under a verified peer, and
phase `established` is reached under a verified peer. -/
theorem tunnels_authenticated (env : Env) (config : IpsecConfig) (inputs : List (Env × Wake))
    (admitted : Admitted Runner.step RekeyAfterAuth (Runner.start env config) inputs) :
    authenticatedFrom false (runInputs Runner.step (Runner.start env config) inputs).trace = true ∧
      ((runInputs Runner.step (Runner.start env config) inputs).phase = .established →
        verifiedFrom false (runInputs Runner.step (Runner.start env config) inputs).trace = true) := by
  have holds : (runInputs Runner.step (Runner.start env config) inputs).view.Authenticated :=
    run_invariant (I := fun self => self.view.Authenticated) step_authenticated
      (start_started env config).authenticated admitted
  constructor
  · rw [← authenticatedFrom_marks]
    exact holds.trace
  · intro established
    rw [← verifiedFrom_marks]
    exact holds.phase (.inl established)

end

/-! A connection between two hosts with a pre-shared key, over checksums for cryptography. -/

section

attribute [local instance] checksumCrypto closedTls

def host (number : UInt32) : TrafficSelector where
  start := .v4 (0x0A000000 + number)
  stop := .v4 (0x0A000000 + number)
  protocol := 0
  startPort := 0
  endPort := 65535

def hostAddress (number : UInt32) : SocketAddr := ⟨.v4 (0xC0000200 + number), 500⟩

def sampleEnv (seed : Nat) : Env where
  now := seed
  systemNow := seed
  randomU64 := .ok (UInt64.ofNat (seed + 1))
  randomU32 := .ok (UInt32.ofNat (seed + 1))
  nonce length := .ok ⟨List.replicate length (UInt8.ofNat seed), List.length_replicate⟩
  iv length := .ok ⟨List.replicate length (UInt8.ofNat seed), List.length_replicate⟩
  dhSecret _ := .ok [1, UInt8.ofNat seed]
  send := .ok ()
  bindNatT := .ok ()
  localAddr := .ok ⟨.v4 0, 500⟩
  probe _ := .ok (.v4 0)

def sampleIkeProposal : IkeProposal := ⟨.aesGcm16_128, .hmacSha2_256, .none, .x25519⟩

def sampleChildProposal : ChildProposal := ⟨.aesGcm16_128, .none, false, .none⟩

def sampleConfig (own remote : UInt32) (initiates : Bool) (secret : Octets) : IpsecConfig where
  name := "site"
  topology := .pointToPoint
  localConfig := ⟨some (hostAddress own).ip, .keyId [UInt8.ofNat own.toNat], 500, false, false, false⟩
  peers := [
    ⟨⟨if initiates then some (hostAddress remote).ip else none, .any, 500⟩,
      ⟨[host own], [host remote]⟩, .psk secret⟩]
  ikeProposals := [sampleIkeProposal]
  child := ⟨[sampleChildProposal], .tunnel, .fromSecs 3600⟩
  xfrm := ⟨none, some 1, some 1⟩
  childMarginPercent := 90
  dpd := ⟨.fromSecs 30, .fromSecs 5, 3, true⟩

def lastSent (self : Runner) : Octets :=
  (self.trace.filterMap fun
    | .sent message _ _ => some message
    | _ => none).getLastD []

def fromHost (number : UInt32) (seed : Nat) (message : Octets) : Env × Wake :=
  (sampleEnv seed, .datagram message (hostAddress number))

def initiator : Runner := .start (sampleEnv 10) (sampleConfig 1 2 true [1, 2, 3])

def responder : Runner := .start (sampleEnv 20) (sampleConfig 2 1 false [1, 2, 3])

def responderKeyed : Runner := responder.step (fromHost 1 21 (lastSent initiator))

def initiatorKeyed : Runner := initiator.step (fromHost 2 11 (lastSent responderKeyed))

def responderUp : Runner := responderKeyed.step (fromHost 1 22 (lastSent initiatorKeyed))

def initiatorUp : Runner := initiatorKeyed.step (fromHost 2 12 (lastSent responderUp))

def initiatorRekeys : Runner := initiatorUp.step (sampleEnv 13, .rekeyTimer)

def responderInputs : List (Env × Wake) :=
  [fromHost 1 21 (lastSent initiator), fromHost 1 22 (lastSent initiatorKeyed),
    fromHost 1 23 (lastSent initiatorRekeys)]

theorem tunnels_authenticated_responder :
    Admitted Runner.step RekeyAfterAuth responder responderInputs ∧
      authenticatedFrom false (runInputs Runner.step responder responderInputs).trace = true ∧
      (runInputs Runner.step responder responderInputs).trace.countP Action.opensTunnel = 4 :=
  have admitted : Admitted Runner.step RekeyAfterAuth responder responderInputs := by decide +kernel
  ⟨admitted, (tunnels_authenticated (sampleEnv 20) (sampleConfig 2 1 false [1, 2, 3]) _ admitted).1,
    by decide +kernel⟩

def intruder : Runner := .start (sampleEnv 30) (sampleConfig 3 2 true [9])

def intruderKeyed : Runner :=
  intruder.step (fromHost 2 31 (lastSent (responder.step (fromHost 3 21 (lastSent intruder)))))

def intruderRekey : Octets :=
  (intruderKeyed.sealPayloads (sampleEnv 32) (intruderKeyed.headerFor .createChildSa 1 true)
    (rekeyPayloads [sampleChildProposal] ⟨[host 1], [host 2]⟩ 77 (List.replicate 32 33) none)).toOption.getD []

theorem tunnel_without_auth :
    let self := runInputs Runner.step responder
      [fromHost 3 21 (lastSent intruder), fromHost 3 22 intruderRekey]
    authenticatedFrom false self.trace = false ∧ verifiedFrom false self.trace = false ∧
      self.phase = .established := by
  decide +kernel

end

end Shuli.Ipsec
