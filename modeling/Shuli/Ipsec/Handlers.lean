import Shuli.Ipsec.Moves

/-!
Each handler of a runner, run once. What it does to the view is one of the effects of
`Shuli.Ipsec.Effects`, and what it does to the books one of the moves of `Shuli.Ipsec.Moves`.
-/

namespace Shuli.Ipsec

open Fallible Shuli.Core

section

variable [Crypto] [Tls]

structure Changes (env : Env) (wake : Wake) (before after : Runner) : Prop where
  effect : Effect wake before.view after.view
  move : Move env wake before.ledger after.ledger

variable {env : Env} {wake : Wake} {origin self : Runner} {message : Message} {ike : IkeRuntime}
  {payloads : List Payload} {source : SocketAddr} {data : Octets}

theorem Changes.quiet : Changes env wake self self := ⟨.quiet, .quiet⟩

theorem ends_installed {handle : ChildSaHandle} (current : self.ike = some ike)
    (effect : ∀ event, Effect wake origin.view (self.view.installed ike handle event))
    (move : ∀ deadline, Move env wake origin.ledger (self.ledger.installs ike handle deadline)) :
    Ends (modify fun self => self.installChild env handle : Engine Unit) self
      fun _ => Changes env wake origin := by
  obtain ⟨event, viewed⟩ := self.view_installChild env handle ike current
  obtain ⟨deadline, booked⟩ := self.ledger_installChild env handle ike current
  refine ⟨?_, ?_⟩
  · change Effect wake origin.view (self.installChild env handle).view
    rw [viewed]
    exact effect event
  · change Move env wake origin.ledger (self.installChild env handle).ledger
    rw [booked]
    exact move deadline

theorem handleAuthRequest_changes (env : Env) (source : SocketAddr) (self : Runner)
    (delivers : wake.Delivers message) (request : message.header.isResponse = false)
    (exchange : message.header.exchange = .ikeAuth) :
    Ends (handleAuthRequest env message source) self fun _ => Changes env wake self := by
  have failed : Move env wake self.ledger { self.ledger with slot := none } :=
    .authRequestFailed delivers request exchange
  refine Ends.modify_bind (Ends.modify_bind (Ends.get_bind ?_))
  refine Ends.liftM_bind (fun _ _ => ⟨.quiet, failed⟩) fun payloads opens => ?_
  refine Ends.liftM_bind (fun _ _ => ⟨.quiet, failed⟩) fun peer configured => ?_
  refine Ends.liftM_bind (fun _ _ => ⟨.quiet, failed⟩) fun ike current => ?_
  refine Ends.liftM_bind (fun _ _ => ⟨.quiet, failed⟩) fun (signed, auth) verified => Ends.modify_bind ?_
  rw [orThrow_eq_ok] at configured current
  obtain ⟨_, reads⟩ := Reads.of_runner delivers opens
  obtain rfl := (reads.ike_eq current).symm
  have opened : Opened wake self.view message ike payloads := ⟨delivers, current, reads.opens⟩
  have silent (action : Action) (runner : Runner) (unsent : action.message? = none)
      (unpublished : action.published? = none) (unannounced : ∀ child, action.announces child = child)
      (same : runner.ledger = { self.ledger with slot := none }) :
      (runner.record action).ledger = { self.ledger with slot := none } :=
    (runner.ledger_record_silent action unsent unpublished unannounced).trans same
  have verifiedSame := silent (.authVerified .request ike.role signed auth) _ rfl rfl (fun _ => rfl)
    (rfl : ((self.setRemote source).clearRetransmit).ledger = _)
  refine Ends.liftM_bind (fun _ _ => ⟨?_, verifiedSame ▸ failed⟩) fun (answer, ownSigned, ownAuth) answered => ?_
  · rw [Runner.view_record _ _ rfl]
    exact .requestVerified opened request exchange configured verified
  have computedSame := silent (.authComputed ownSigned ownAuth) _ rfl rfl (fun _ => rfl) verifiedSame
  obtain ⟨idBody, rfl⟩ := answerAuth_signed answered
  have computed : Changes env wake self ((((self.setRemote source).clearRetransmit).record
      (.authVerified .request ike.role signed auth)).record (.authComputed (ike.responderSigned idBody) ownAuth)) := by
    refine ⟨?_, computedSame ▸ failed⟩
    rw [Runner.view_record _ _ rfl, Runner.view_record _ _ rfl]
    exact .requestAnswered opened request exchange configured verified
  refine Ends.modify_bind (Ends.liftM_bind (fun _ _ => computed) fun encrypted made => ?_)
  refine ends_sent_bind (fun _ _ => computed) fun left => ends_installed current (fun event => ?_) fun deadline => ?_
  · rw [Runner.view_recordSent, Runner.view_record _ _ rfl, Runner.view_record _ _ rfl]
    exact .requestInstalled opened request exchange configured verified
  · rw [Runner.ledger_recordSent, computedSame]
    exact .authAnswered ⟨reads.delivers, reads.current, reads.opens⟩ request exchange
      (⟨rfl, rfl⟩ : ((self.setRemote source).clearRetransmit).ConfiguredAs self.ledger) configured answered
      (Posted.of_runner current made left)

theorem handleCreateChildRequest_changes (env : Env) (self : Runner)
    (delivers : wake.Delivers message) (request : message.header.isResponse = false)
    (exchange : message.header.exchange = .createChildSa) :
    Ends (handleCreateChildRequest env message) self fun _ => Changes env wake self := by
  refine Ends.get_bind (Ends.liftM_bind (fun _ _ => .quiet) fun payloads opens => ?_)
  refine Ends.liftM_bind (fun _ _ => .quiet) fun ike current => ?_
  refine Ends.liftM_bind (fun _ _ => .quiet) fun answer answered => ?_
  refine Ends.liftM_bind (fun _ _ => .quiet) fun encrypted made => ?_
  rw [orThrow_eq_ok] at current
  obtain ⟨_, reads⟩ := Reads.of_runner delivers opens
  obtain rfl := reads.ike_eq current
  refine ends_sent_bind (fun _ _ => .quiet) fun left =>
    ends_installed current (fun event => ?_) fun deadline => ?_
  · rw [Runner.view_recordSent]
    exact .rekeyAnswered ⟨delivers, current, reads.opens⟩ request exchange
  · rw [Runner.ledger_recordSent]
    exact .rekeyAnswered reads request exchange (⟨rfl, rfl⟩ : self.ConfiguredAs self.ledger) answered
      (Posted.of_runner current made left)

theorem handleCreateChildResponse_changes (env : Env) (self : Runner)
    (delivers : wake.Delivers message) (response : message.header.isResponse = true)
    (exchange : message.header.exchange = .createChildSa) (phase : self.phase = .established) :
    Ends (handleCreateChildResponse env message) self fun _ => Changes env wake self := by
  refine Ends.modify_bind (Ends.get_bind ?_)
  refine Ends.liftM_bind (fun _ failed => ⟨.quiet, ?_⟩) fun payloads opens => ?_
  · refine .rekeyIgnored delivers response exchange phase (.inr fun ike payloads reads => ?_)
    have current : self.clearRetransmit.ike = some ike := reads.current
    rw [Runner.openEncrypted, current] at failed
    cases failed.symm.trans reads.opens
  obtain ⟨ike, reads⟩ := Reads.of_runner delivers opens
  refine Ends.liftM_bind (fun _ missing => ⟨.quiet, ?_⟩) fun pending pends => Ends.modify_bind ?_
  · refine .rekeyIgnored delivers response exchange phase (.inl ?_)
    change orThrow self.pendingRekey _ = _ at missing
    cases pends : self.pendingRekey with
    | none => exact pends
    | some pending => simp [orThrow, pends] at missing
  rw [orThrow_eq_ok] at pends
  refine Ends.liftM_bind (fun _ missing => ?_) fun ike' current => ?_
  · have current : self.clearRetransmit.ike = some ike := reads.current
    rw [current] at missing
    cases missing
  rw [orThrow_eq_ok] at current
  obtain rfl := reads.ike_eq current
  have reads : Reads wake self.ledger message ike payloads := ⟨reads.delivers, reads.current, reads.opens⟩
  have same : self.clearRetransmit.ConfiguredAs self.ledger := ⟨rfl, rfl⟩
  refine Ends.liftM_bind (fun e refused => ⟨.quiet, ?_⟩) fun handle accepted => ?_
  · refine .rekeyRefused reads response exchange phase same pends fun handle accepted => ?_
    cases refused.symm.trans accepted
  · refine ends_installed current (fun event => ?_) fun deadline => ?_
    · exact .rekeyCompleted ⟨delivers, current, reads.opens⟩ response phase
    · exact .rekeyCompleted reads response exchange phase same pends accepted

theorem handleInformationalRequest_changes (env : Env) (self : Runner)
    (delivers : wake.Delivers message) (request : message.header.isResponse = false)
    (exchange : message.header.exchange = .informational) :
    Ends (handleInformationalRequest env message) self fun _ => Changes env wake self := by
  refine Ends.get_bind (Ends.liftM_bind (fun _ _ => .quiet) fun payloads opens => ?_)
  obtain ⟨ike, reads⟩ := Reads.of_runner delivers opens
  refine Ends.modify_bind ?_
  rcases informational_once payloads ([], self) with same | ⟨child, recorded, deletes, removed⟩
  · rw [same]
    refine Ends.liftM_bind (fun _ _ => .quiet) fun encrypted made => ends_sent (fun _ _ => .quiet) ?_
    refine fun left => ⟨?_, ?_⟩
    · rw [Runner.view_recordSent]
      exact .quiet
    · rw [Runner.ledger_recordSent]
      exact .informed reads request exchange (Posted.of_runner reads.current made left)
  · rw [removed]
    have effect : Effect wake self.view (self.removeChild .peerDelete).view := by
      rw [Runner.view_removeChild]
      exact .deleted ⟨delivers, reads.current, reads.opens⟩ request exchange
    have unsent : Move env wake self.ledger (self.removeChild .peerDelete).ledger := by
      rw [Runner.ledger_removeChild]
      exact .deletedUnsent reads request exchange recorded deletes
    refine Ends.liftM_bind (fun _ _ => ⟨effect, unsent⟩) fun encrypted made => ?_
    refine ends_sent (fun _ _ => ⟨effect, unsent⟩) fun left => ⟨?_, ?_⟩
    · rw [Runner.view_recordSent]
      exact effect
    have current : (self.removeChild .peerDelete).ike = some { ike with child := none } := by
      have current : self.ike = some ike := reads.current
      change self.ike.map _ = _
      rw [current]
      rfl
    rw [Runner.ledger_recordSent, Runner.ledger_removeChild]
    exact .deleted reads request exchange recorded deletes (Posted.of_runner current made left)

/-- A request of the AUTH exchange, from a runner that has read a response: the books are those of
`origin` without the slot, and `seen` is what the wake did to the view. -/
theorem sendAuthRequest_changes (env : Env) (request : List Payload) (self : Runner)
    (reads : Reads wake origin.ledger message ike payloads) (response : message.header.isResponse = true)
    (phase : origin.phase.inAuth) (seen : Effect wake origin.view self.view)
    (cleared : self.ledger = { origin.ledger with slot := none }) :
    Ends (sendAuthRequest env request) self fun _ => Changes env wake origin := by
  have bumped : self.bumpMessageId.ledger =
      { origin.ledger with slot := none, nextMessageId := origin.ledger.nextMessageId + 1 } := by
    change { self.ledger with nextMessageId := self.ledger.nextMessageId + 1 } = _
    rw [cleared]
  have current : self.ike = some ike := (congrArg Ledger.ike cleared).trans reads.current
  have next : self.nextMessageId = origin.ledger.nextMessageId := congrArg Ledger.nextMessageId cleared
  have unsent : Changes env wake origin self.bumpMessageId :=
    ⟨seen, bumped ▸ .eapUnsent reads.delivers response phase⟩
  refine Ends.get_bind (Ends.modify_bind (Ends.liftM_bind (fun _ _ => unsent) fun encrypted made => ?_))
  refine ends_sent_bind (fun _ _ => unsent) fun left => ⟨?_, ?_⟩
  · exact (congrArg (Effect wake origin.view) (self.bumpMessageId.view_recordSent encrypted)).mpr seen
  have posted := Posted.of_runner current made left
  rw [next] at posted
  have sent : (self.bumpMessageId.recordSent encrypted).ledger = _ :=
    (Runner.ledger_recordSent _ _).trans (congrArg (Ledger.posts · encrypted) bumped)
  have armed : ((self.bumpMessageId.recordSent encrypted).armRetransmit env encrypted).ledger =
      { origin.ledger.posts encrypted with
        slot := some encrypted, nextMessageId := origin.ledger.nextMessageId + 1 } :=
    congrArg (fun ledger : Ledger => { ledger with slot := some encrypted }) sent
  exact (congrArg (Move env wake origin.ledger) armed).mpr (.eapContinued reads response phase posted)

theorem handleEap_changes (env : Env) (eapData : Octets) (self : Runner)
    (reads : Reads wake origin.ledger message ike payloads) (response : message.header.isResponse = true)
    (phase : origin.phase.inAuth) (same : self.view = origin.view)
    (cleared : self.ledger = { origin.ledger with slot := none }) :
    Ends (handleEap env eapData) self fun _ => Changes env wake origin := by
  have seen : Effect wake origin.view self.view := same ▸ .quiet
  have failed : Changes env wake origin self :=
    ⟨seen, cleared ▸ .authResponseFailed reads.delivers response phase⟩
  refine Ends.get_bind (Ends.liftM_bind (fun _ _ => failed) fun session _ => Ends.modify_bind ?_)
  refine Ends.liftM_bind (fun _ _ => ⟨failed.effect, failed.move⟩) fun (answer, success) _ => ?_
  cases answer with
  | some answer => exact sendAuthRequest_changes env _ _ reads response phase seen cleared
  | none =>
    refine Ends.ite (fun _ => ?_) fun _ => ⟨failed.effect, failed.move⟩
    refine Ends.liftM_bind (fun _ _ => ⟨failed.effect, failed.move⟩) fun msk _ => ?_
    refine Ends.liftM_bind (fun _ _ => ⟨failed.effect, failed.move⟩) fun idBody _ => ?_
    refine Ends.liftM_bind (fun _ _ => ⟨failed.effect, failed.move⟩) fun ike' current => Ends.modify_bind ?_
    rw [orThrow_eq_ok] at current
    obtain rfl := reads.ike_eq ((congrArg View.ike same).symm.trans current)
    refine sendAuthRequest_changes env _ _ reads response phase ?_ ?_
    · rw [Runner.view_record _ _ rfl]
      change Effect wake origin.view (self.view.marked _)
      rw [same]
      exact .eapAuthenticated ⟨reads.delivers, reads.current, reads.opens⟩ response phase
    · rw [Runner.ledger_record_silent _ _ rfl rfl fun _ => rfl]
      exact cleared

theorem completeAuth_changes (env : Env) (self : Runner)
    (reads : Reads wake origin.ledger message ike payloads) (response : message.header.isResponse = true)
    (phase : origin.phase.inAuth) (same : self.view = origin.view)
    (cleared : self.ledger = { origin.ledger with slot := none }) :
    Ends (completeAuth env payloads) self fun _ => Changes env wake origin := by
  have failed : Move env wake origin.ledger self.ledger :=
    cleared ▸ .authResponseFailed reads.delivers response phase
  have unseen : Effect wake origin.view self.view := same ▸ .quiet
  have current : self.ike = some ike := (congrArg Ledger.ike cleared).trans reads.current
  refine Ends.get_bind (Ends.liftM_bind (fun _ _ => ⟨unseen, failed⟩) fun peer configured => ?_)
  refine Ends.liftM_bind (fun _ _ => ⟨unseen, failed⟩) fun ike' current' => ?_
  rw [orThrow_eq_ok] at configured current'
  obtain rfl := Option.some.inj (current.symm.trans current')
  refine Ends.liftM_bind (fun _ _ => ⟨unseen, failed⟩) fun (signed, auth) verified => Ends.modify_bind ?_
  have verifiedSame := self.ledger_record_silent (.authVerified .response ike.role signed auth) rfl rfl
    fun _ => rfl
  have opened : Opened wake origin.view message ike payloads := ⟨reads.delivers, reads.current, reads.opens⟩
  have configuredAs : self.ConfiguredAs origin.ledger :=
    ⟨congrArg Ledger.config cleared, congrArg Ledger.peerIndex cleared⟩
  have peerOf : origin.ledger.peer? = some peer := by
    rw [← configured, Ledger.peer?, Runner.peer?, configuredAs.1, configuredAs.2]
  refine Ends.liftM_bind (fun _ _ => ⟨?_, verifiedSame ▸ failed⟩) fun handle accepted => ?_
  · rw [Runner.view_record _ _ rfl, same]
    exact .responseVerified opened response phase peerOf verified
  obtain ⟨innerAddresses, dns⟩ := parseConfigPayload payloads
  have leased : (self.ike.map fun ike : IkeRuntime => { ike with innerAddresses, dns }) =
      some { ike with innerAddresses, dns } := by rw [current]; rfl
  have installs : Ends (modify fun self => self.installChild env handle : Engine Unit)
      ((self.record (.authVerified .response ike.role signed auth)).setIke
        (self.ike.map fun ike : IkeRuntime => { ike with innerAddresses, dns }))
      fun _ => Changes env wake origin := by
    refine ends_installed leased (fun event => ?_) fun deadline => ?_
    · rw [Runner.view_setIke, Runner.view_record _ _ rfl, same]
      exact .responseInstalled opened response phase peerOf verified
    have kept : ((self.record (.authVerified .response ike.role signed auth)).setIke
        (self.ike.map fun ike : IkeRuntime => { ike with innerAddresses, dns })).ledger =
        { origin.ledger with slot := none, ike := some { ike with innerAddresses, dns } } := by
      rw [leased]
      exact congrArg (fun ledger : Ledger => { ledger with ike := some { ike with innerAddresses, dns } })
        (verifiedSame.trans cleared)
    rw [kept]
    exact .authCompleted reads response phase configuredAs peerOf accepted
  exact installs

theorem handleAuthResponse_changes (env : Env) (self : Runner) (delivers : wake.Delivers message)
    (response : message.header.isResponse = true) (phase : self.phase.inAuth) :
    Ends (handleAuthResponse env message) self fun _ => Changes env wake self := by
  have failed : Move env wake self.ledger { self.ledger with slot := none } :=
    .authResponseFailed delivers response phase
  refine Ends.modify_bind (Ends.get_bind (Ends.liftM_bind (fun _ _ => ⟨.quiet, failed⟩) fun payloads opens => ?_))
  obtain ⟨ike, reads⟩ := Reads.of_runner delivers opens
  have reads : Reads wake self.ledger message ike payloads := ⟨reads.delivers, reads.current, reads.opens⟩
  cases findEap payloads with
  | some eapData => exact handleEap_changes env eapData _ reads response phase rfl rfl
  | none => exact completeAuth_changes env _ reads response phase rfl rfl

/-- The opening IKE_AUTH request is sent or it is not. -/
theorem sendAuth_opening (env : Env) (self : Runner) (ike : IkeRuntime) (current : self.ike = some ike) :
    Ends (sendAuth env) self fun _ after => Opening self.view ike after.view ∧
      ((∃ nextMessageId, after.ledger = { self.ledger with nextMessageId }) ∨
      ∃ payloads encrypted next, Posted env ike (ike.headerFor .ikeAuth 1 true) payloads encrypted ∧
        Phase.inAuth next ∧ after.ledger = { self.ledger.posts encrypted with
          slot := some encrypted, nextMessageId := 2, phase := next }) := by
  have nothing : Opening self.view ike self.view ∧
      ∃ nextMessageId, self.ledger = { self.ledger with nextMessageId } :=
    ⟨⟨[], self.phase, .inl rfl, .inl rfl, by simp [Runner.view]⟩, self.nextMessageId, rfl⟩
  refine Ends.get_bind (Ends.liftM_bind (fun _ _ => nothing.imp_right .inl) fun peer _ => ?_)
  refine Ends.liftM_bind (fun _ _ => nothing.imp_right .inl) fun ike' current' => ?_
  rw [orThrow_eq_ok, current] at current'
  obtain rfl := Option.some.inj current'
  refine Ends.liftM_bind (fun _ _ => nothing.imp_right .inl) fun opening opened => Ends.modify_bind ?_
  have own : openingMarks opening = [] ∨
      ∃ idBody auth, openingMarks opening = [.authComputed (ike.initiatorSigned idBody) auth] := by
    rcases authOpening_computed opened with none | ⟨idBody, auth, some⟩
    · exact .inl (by simp [openingMarks, none])
    · exact .inr ⟨idBody, auth, by simp [openingMarks, some]⟩
  have unsent : Opening self.view ike (self.opened opening).view ∧
      ∃ nextMessageId, (self.opened opening).ledger = { self.ledger with nextMessageId } :=
    ⟨⟨openingMarks opening, self.phase, own, .inl rfl, view_opened self opening⟩, 2, ledger_opened self opening⟩
  have inAuth : Phase.inAuth (if opening.session.isSome then .eapAuth else .authSent) := by
    split
    · exact .inr rfl
    · exact .inl rfl
  refine Ends.liftM_bind (fun _ _ => unsent.imp_right .inl) fun encrypted made => ?_
  refine ends_sent_bind (fun _ _ => unsent.imp_right .inl) fun left => ⟨?_, .inr ?_⟩
  · refine ⟨openingMarks opening, _, own, .inr inAuth, ?_⟩
    have sent := (self.opened opening).view_recordSent encrypted
    rw [view_opened] at sent
    exact congrArg (fun view : View => { view with
      phase := if opening.session.isSome then Phase.eapAuth else Phase.authSent }) sent
  · refine ⟨_, encrypted, _, Posted.of_runner current made left, inAuth, ?_⟩
    have sent : ((self.opened opening).recordSent encrypted).ledger = _ :=
      (Runner.ledger_recordSent _ _).trans (congrArg (Ledger.posts · encrypted) (ledger_opened self opening))
    exact congrArg (fun ledger : Ledger => { ledger with
      slot := some encrypted
      phase := if opening.session.isSome then Phase.eapAuth else Phase.authSent }) sent

omit [Crypto] in
theorem enableNatT_same (env : Env) (self : Runner) :
    Ends (enableNatT env) self fun result after => after.view = self.view ∧
      after.ledger = self.ledger ∧ (env.localAddr.isOk → env.bindNatT.isOk → result = .ok ()) := by
  refine Ends.modify_bind (Ends.get_bind (Ends.ite (fun _ => ⟨rfl, rfl, fun _ _ => rfl⟩) fun _ => ?_))
  refine Ends.liftM_bind (fun _ failed => ⟨rfl, rfl, fun found => ?_⟩) fun _ _ => ?_
  · simp [failed, Except.toBool] at found
  refine Ends.liftM_bind (fun _ failed => ⟨rfl, rfl, fun _ bound => ?_⟩) fun _ _ => ⟨rfl, rfl, fun _ _ => rfl⟩
  simp [failed, Except.toBool] at bound

theorem handleSaInitResponse_changes (env : Env) (self : Runner)
    (delivers : wake = .datagram data source) (decoded : Message.decode data = .ok message)
    (response : message.header.isResponse = true) (sent : self.phase = .saInitSent) :
    Ends (handleSaInitResponse env data source message) self fun _ => Changes env wake self := by
  refine Ends.get_bind (Ends.liftM_bind (fun _ _ => .quiet) fun pending pends => Ends.modify_bind ?_)
  rw [orThrow_eq_ok] at pends
  have taken {slot : Option Octets}
      (unfinished : ¬((acceptSaInit pending data message).isOk ∧ env.Completes))
      (kept : slot = self.ledger.slot ∨ slot = none) :
      Move env wake self.ledger { self.ledger with pendingSaInit := none, slot } :=
    .saInitTaken delivers decoded response sent pends unfinished kept
  refine Ends.liftM_bind (fun _ failed => ⟨.saInitTaken sent, taken ?_ (.inl rfl)⟩)
    fun ike accepted => Ends.modify_bind ?_
  · simp [failed, Except.toBool]
  have begins (next : Runner) (viewed : next.view = { self.view with pendingSaInit := none })
      (booked : next.ledger = { self.ledger with pendingSaInit := none, slot := none }) :
      Ends (beginAuth env ike) next fun _ => Changes env wake self := by
    refine Ends.liftM_bind (fun _ failed => ⟨viewed ▸ .saInitTaken sent, ?_⟩)
      fun localChildSpi _ => Ends.modify_bind ?_
    · rw [booked]
      exact taken (by simp [Env.Completes, failed, Except.toBool]) (.inr rfl)
    have created := (next.setIke (some { ike with localChildSpi })).ledger_record_silent
      (.ikeCreated .initiator) rfl rfl fun _ => rfl
    have created : _ = { self.ledger with
        ike := some { ike with localChildSpi }, pendingSaInit := none, slot := none } :=
      created.trans (congrArg (fun ledger : Ledger => { ledger with
        ike := some { ike with localChildSpi } }) booked)
    refine (sendAuth_opening env _ { ike with localChildSpi } rfl).mono
      fun _ after ⟨⟨own, phase, computed, next', opened⟩, outcome⟩ => ⟨?_, ?_⟩
    · rw [opened, Runner.view_record _ _ rfl, Runner.view_setIke, viewed]
      have kept : next.phase = .saInitSent := (congrArg View.phase viewed).trans sent
      exact .createdInitiator delivers decoded response sent pends accepted computed
        (next'.imp_left fun same => same.trans kept)
    rcases outcome with ⟨nextMessageId, unsent⟩ | ⟨payloads, encrypted, phase', posted, inAuth, left⟩
    · rw [unsent, created]
      exact .createdUnsent delivers decoded response sent pends accepted
    · rw [left, created]
      exact .createdInitiator delivers decoded response sent pends accepted posted inAuth
  refine Ends.ite (fun _ => ?_) fun _ => begins _ rfl rfl
  refine Ends.bind (enableNatT_same env _) (fun _ after outcome => ⟨?_, ?_⟩)
    fun _ after outcome => begins after outcome.1 outcome.2.1
  · rw [outcome.1]
    exact .saInitTaken sent
  · rw [outcome.2.1]
    refine taken (fun finished => ?_) (.inr rfl)
    cases outcome.2.2 finished.2.1 finished.2.2.1

theorem handleSaInitRequest_changes (env : Env) (self : Runner)
    (delivers : wake = .datagram data source) (decoded : Message.decode data = .ok message)
    (request : message.header.isResponse = false) (exchange : message.header.exchange = .ikeSaInit) :
    Ends (handleSaInitRequest env data source message) self fun _ => Changes env wake self := by
  refine Ends.get_bind (Ends.ite (fun _ => .quiet) fun some => ?_)
  have fresh : self.ike = none := by simpa using some
  refine Ends.liftM_bind (fun _ _ => .quiet) fun peer _ => Ends.modify_bind ?_
  refine Ends.liftM_bind (fun _ _ => ⟨.quiet, .quiet⟩) fun offers _ => ?_
  refine Ends.liftM_bind (fun _ _ => ⟨.quiet, .quiet⟩) fun (suite, number) _ => ?_
  refine Ends.liftM_bind (fun _ _ => ⟨.quiet, .quiet⟩) fun (group, peerPublic) _ => ?_
  refine Ends.ite (fun _ => ?_) fun _ => ?_
  · have notifies : Ends (sendPlainNotify env message.header.initiatorSpi 0 0
        NotifyType.INVALID_KE_PAYLOAD (be16 suite.dh.transformId)) (self.setRemote source)
        fun _ => Changes env wake self := by
      refine Ends.liftM_bind (fun _ _ => ⟨.quiet, .quiet⟩) fun notify encoded => ?_
      refine ends_sent (fun _ _ => ⟨.quiet, .quiet⟩) fun _ => ⟨?_, ?_⟩
      · rw [Runner.view_recordSent]
        exact .quiet
      · rw [Runner.ledger_recordSent]
        exact .notified ⟨data, source, delivers, decoded⟩ request fresh encoded
    exact Ends.bind notifies (fun _ _ changes => changes) fun _ _ changes => changes
  · refine Ends.liftM_bind (fun _ _ => ⟨.quiet, .quiet⟩) fun (ike, response) answered => ?_
    refine ends_sent_bind (fun _ _ => ⟨.quiet, .quiet⟩) fun _ => ⟨?_, ?_⟩
    · obtain ⟨peerIndex, created⟩ := view_createdAsResponder
        ((self.setRemote source).recordSent response) env peer ike response
      change Effect wake self.view (Runner.createdAsResponder _ env peer ike response).view
      rw [created, Runner.view_recordSent]
      exact .createdResponder delivers decoded request fresh answered
    have sent := (self.setRemote source).ledger_recordSent response
    change Move env wake self.ledger (Runner.createdAsResponder _ env peer ike response).ledger
    rw [Runner.createdAsResponder, Runner.ledger_setState,
      Runner.ledger_record_silent _ _ rfl rfl fun _ => rfl]
    have created := congrArg (fun ledger : Ledger => { ledger with
      ike := Option.some ike
      peerIndex := (ledger.config.peers.findIdx? fun candidate => candidate == peer).getD ledger.peerIndex
      phase := Phase.authSent
      slot := Option.some response
      published := Option.some IpsecState.connecting }) sent
    refine (congrArg (Move env wake self.ledger) created).mpr ?_
    exact .createdResponder delivers decoded request exchange fresh answered

theorem view_dies (same : self.view = origin.view) (phase : origin.phase = .established) :
    Effect wake origin.view (((self.removeChild .peerDead).setPhase .closed).setState .failed).view := by
  rw [Runner.view_setState, Runner.view_setPhase, Runner.view_removeChild, same]
  exact .peerDead phase

theorem onRetransmit_changes (env : Env) (self : Runner) :
    Ends (onRetransmit env) self fun _ => Changes env .retransmitTimer self := by
  refine Ends.get_bind ?_
  cases armed : self.retransmit with
  | none => exact .quiet
  | some retransmit =>
    have slot : self.ledger.slot = some retransmit.message := congrArg (Option.map _) armed
    have retried : (self.setRetransmit (retransmit.retry env.now).1).ledger = self.ledger := by
      change { self.ledger with slot := some retransmit.message } = _
      rw [← slot]
    have kept : Changes env .retransmitTimer self (self.setRetransmit (retransmit.retry env.now).1) :=
      ⟨.quiet, retried ▸ .quiet⟩
    refine Ends.modify_bind (Ends.ite (fun _ => ?_) fun _ => Ends.modify_bind ?_)
    · refine Ends.liftM_bind (fun _ _ => kept) fun _ _ => ends_sent (fun _ _ => kept) fun _ => ⟨?_, ?_⟩
      · rw [Runner.view_recordSent]
        exact .quiet
      · have resent : ((self.setRetransmit (retransmit.retry env.now).1).recordSent
            retransmit.message).ledger = self.ledger.posts retransmit.message := by
          rw [Runner.ledger_recordSent, retried]
        exact (congrArg (Move env .retransmitTimer self.ledger) resent).mpr (.retransmitted rfl slot)
    · refine Ends.ite (fun phase => Ends.modify_bind (Ends.modify_bind ⟨view_dies rfl phase, ?_⟩))
        fun phase => Ends.modify_bind ⟨?_, ?_⟩
      · exact (congrArg (Move env .retransmitTimer self.ledger) ledger_dies).mpr (.retransmitDead rfl phase)
      · have same := ((self.setRetransmit (retransmit.retry env.now).1).clearRetransmit).view_setState .failed
        exact (congrArg (Effect .retransmitTimer self.view) same).mpr .quiet
      · refine (congrArg (Move env .retransmitTimer self.ledger) (Runner.ledger_setState _ .failed)).mpr ?_
        exact .exhausted rfl phase

theorem onDpd_changes (env : Env) (self : Runner) :
    Ends (onDpd env) self fun _ => Changes env .dpdTimer self := by
  refine Ends.modify_bind (Ends.get_bind (Ends.ite (fun _ => ⟨.quiet, .quiet⟩) fun phase => ?_))
  have phase : self.phase = .established := not_not.mp phase
  refine Ends.ite (fun _ => Ends.modify_bind (Ends.modify_bind ⟨view_dies rfl phase, ?_⟩))
    fun _ => Ends.modify_bind ?_
  · exact (congrArg (Move env .dpdTimer self.ledger) ledger_dies).mpr (.dpdDead rfl phase)
  cases probe : self.ledger.probe env with
  | error e =>
    have unsent : Changes env .dpdTimer self (self.setDpdDeadline none).bumpMessageId :=
      ⟨.quiet, .probeUnsent rfl phase (by simp [probe])⟩
    refine Ends.liftM_bind (fun _ _ => unsent) fun encrypted made => ?_
    refine ends_sent_bind (fun _ _ => unsent) fun left => ?_
    cases current : (self.setDpdDeadline none).ike with
    | none =>
      rw [Runner.sealPayloads, current] at made
      cases made
    | some ike =>
      cases probe.symm.trans (Ledger.probe_eq_ok.mpr ⟨ike, current, Posted.of_runner current made left⟩)
  | ok message =>
    obtain ⟨ike, current, posted⟩ := Ledger.probe_eq_ok.mp probe
    have current : (self.setDpdDeadline none).ike = some ike := current
    rw [Runner.sealPayloads_eq current, Runner.headerFor_eq current]
    refine Ends.liftM_ok posted.made (ends_sent_bind (fun _ failed => ?_) fun _ => ⟨?_, ?_⟩)
    · cases failed.symm.trans posted.left
    · have same := ((self.setDpdDeadline none).bumpMessageId).view_recordSent message
      exact (congrArg (Effect .dpdTimer self.view) same).mpr .quiet
    · refine (congrArg (Move env .dpdTimer self.ledger) ?_).mpr (.probed rfl phase probe)
      exact congrArg (fun ledger : Ledger => { ledger with slot := some message })
        (Runner.ledger_recordSent _ _)

theorem initiateRekey_changes (env : Env) (self : Runner) :
    Ends (initiateRekey env) self fun _ => Changes env .rekeyTimer self := by
  refine Ends.modify_bind (Ends.get_bind (Ends.ite (fun idle => ?_) fun running => ?_))
  · exact ⟨.quiet, .rekeyIdle rfl (idle.imp_right Option.isNone_iff_eq_none.mp)⟩
  refine Ends.ite (fun pends => Ends.modify_bind ⟨.quiet, .rekeyPostponed rfl pends⟩) fun idle => ?_
  obtain ⟨phase, some⟩ := not_or.mp running
  have phase : self.phase = .established := not_not.mp phase
  have idle : self.pendingRekey = none := Option.not_isSome_iff_eq_none.mp idle
  cases asked : self.ledger.rekeyRequest env with
  | error e =>
    have unsent {nextMessageId : UInt32} :
        Move env .rekeyTimer self.ledger { self.ledger with rekeyDeadline := none, nextMessageId } :=
      .rekeyUnsent rfl phase idle (by simp [asked])
    obtain ⟨ike, current⟩ : ∃ ike, (self.setRekeyDeadline none).ike = Option.some ike :=
      Option.ne_none_iff_exists'.mp fun none => some (Option.isNone_iff_eq_none.mpr none)
    refine Ends.liftM_bind (fun _ _ => ⟨.quiet, unsent⟩) fun suite first => ?_
    refine Ends.liftM_bind (fun _ _ => ⟨.quiet, unsent⟩) fun localSpi drawn => ?_
    refine Ends.liftM_bind (fun _ _ => ⟨.quiet, unsent⟩) fun nonceI nonce => ?_
    refine Ends.liftM_bind (fun _ _ => ⟨.quiet, unsent⟩) fun keyPair pair => ?_
    refine Ends.liftM_bind (fun _ _ => ⟨.quiet, unsent⟩) fun peer configured => Ends.modify_bind ?_
    refine Ends.liftM_bind (fun _ _ => ⟨.quiet, unsent⟩) fun encrypted made => ?_
    refine ends_sent_bind (fun _ _ => ⟨.quiet, unsent⟩) fun left => ?_
    rw [orThrow_eq_ok] at first configured
    have made : self.ledger.rekeyRequest env = .ok (encrypted, ⟨keyPair, nonceI.val, localSpi, suite⟩) :=
      Ledger.rekeyRequest_eq_ok.mpr ⟨ike, nonceI, peer, current, first, drawn, nonce, rfl, pair, configured,
        Posted.of_runner current made left⟩
    cases asked.symm.trans made
  | ok request =>
    obtain ⟨message, pending⟩ := request
    obtain ⟨ike, nonceI, peer, current, first, drawn, nonce, same, pair, configured, posted⟩ :=
      Ledger.rekeyRequest_eq_ok.mp asked
    have current : (self.setRekeyDeadline none).ike = Option.some ike := current
    refine Ends.liftM_ok (orThrow_eq_ok.mpr first) (Ends.liftM_ok drawn (Ends.liftM_ok nonce ?_))
    refine Ends.liftM_ok pair (Ends.liftM_ok (orThrow_eq_ok.mpr configured) (Ends.modify_bind ?_))
    rw [Runner.sealPayloads_eq current, Runner.headerFor_eq current, same]
    refine Ends.liftM_ok posted.made (ends_sent_bind (fun _ failed => ?_) fun _ => ⟨?_, ?_⟩)
    · cases failed.symm.trans posted.left
    · refine (congrArg (Effect .rekeyTimer self.view) ?_).mpr .quiet
      exact (Runner.view_setState _ _).trans ((self.setRekeyDeadline none).bumpMessageId.view_recordSent message)
    · refine (congrArg (Move env .rekeyTimer self.ledger) ?_).mpr (.rekeySent rfl phase idle asked)
      refine (Runner.ledger_setState _ .rekeying).trans ?_
      exact congrArg (fun ledger : Ledger => { ledger with
        slot := Option.some message
        pendingRekey := Option.some pending
        published := Option.some IpsecState.rekeying })
          ((self.setRekeyDeadline none).bumpMessageId.ledger_recordSent message)

/-! The event loop -/

theorem handleResponse_changes (env : Env) (self : Runner) (delivers : wake = .datagram data source)
    (decoded : Message.decode data = .ok message) (response : message.header.isResponse = true) :
    Ends (handleResponse env data source message) self fun _ => Changes env wake self := by
  have arrives : wake.Delivers message := ⟨data, source, delivers, decoded⟩
  refine Ends.get_bind ?_
  cases phase : self.phase with
  | saInitSent => exact handleSaInitResponse_changes env self delivers decoded response phase
  | authSent => exact handleAuthResponse_changes env self arrives response (.inl phase)
  | eapAuth => exact handleAuthResponse_changes env self arrives response (.inr phase)
  | established =>
    refine Ends.ite (fun exchange => ?_) fun _ => Ends.ite (fun exchange => ?_) fun _ => .quiet
    · exact handleCreateChildResponse_changes env self arrives response exchange phase
    · exact ⟨.quiet, .answered arrives response exchange phase⟩
  | init => exact .quiet
  | closed => exact .quiet

theorem handleRequest_changes (env : Env) (self : Runner) (delivers : wake = .datagram data source)
    (decoded : Message.decode data = .ok message) (request : message.header.isResponse = false) :
    Ends (handleRequest env data source message) self fun _ => Changes env wake self := by
  have arrives : wake.Delivers message := ⟨data, source, delivers, decoded⟩
  unfold handleRequest
  cases exchange : message.header.exchange with
  | ikeSaInit => exact handleSaInitRequest_changes env self delivers decoded request exchange
  | ikeAuth => exact handleAuthRequest_changes env source self arrives request exchange
  | informational => exact handleInformationalRequest_changes env self arrives request exchange
  | createChildSa => exact handleCreateChildRequest_changes env self arrives request exchange

omit [Crypto] in
theorem followSource_same (env : Env) (source : SocketAddr) (self : Runner) :
    Ends (followSource env source) self fun result after => after.view = self.view ∧
      after.ledger = self.ledger ∧ (env.localAddr.isOk → env.bindNatT.isOk → result = .ok ()) := by
  refine Ends.get_bind (Ends.ite (fun _ => Ends.modify_bind (enableNatT_same env _)) fun _ => ?_)
  exact Ends.ite (fun _ => ⟨rfl, rfl, fun _ _ => rfl⟩) fun _ => ⟨rfl, rfl, fun _ _ => rfl⟩

theorem handleDatagram_changes (env : Env) (data : Octets) (source : SocketAddr) (self : Runner) :
    Ends (handleDatagram env data source) self
      fun _ after => Changes env (.datagram data source) self after := by
  refine Ends.bind (followSource_same env source self) (fun _ followed ⟨viewed, booked, _⟩ => ?_)
    fun _ followed ⟨viewed, booked, _⟩ => ?_
  · exact ⟨viewed ▸ .quiet, booked ▸ .quiet⟩
  · have onward {after : Runner} (changes : Changes env (.datagram data source) followed after) :
        Changes env (.datagram data source) self after := ⟨viewed ▸ changes.effect, booked ▸ changes.move⟩
    refine Ends.liftM_bind (fun _ _ => onward .quiet) fun message decoded => ?_
    refine Ends.ite (fun response => ?_) fun request => ?_
    · exact (handleResponse_changes env followed rfl decoded response).mono fun _ _ => onward
    · exact (handleRequest_changes env followed rfl decoded (by simpa using request)).mono fun _ _ => onward

theorem handleWake_changes (self : Runner) (env : Env) (wake : Wake) :
    Ends (handleWake env wake) self fun _ => Changes env wake self := by
  cases wake with
  | datagram data source => exact handleDatagram_changes env data source self
  | retransmitTimer => exact onRetransmit_changes env self
  | dpdTimer => exact onDpd_changes env self
  | rekeyTimer => exact initiateRekey_changes env self

theorem step_effect (self : Runner) (env : Env) (wake : Wake) :
    Effect wake self.view (self.step (env, wake)).view := by
  rw [Runner.step, Runner.view_reported]
  exact (handleWake_changes self env wake).effect

theorem step_move (self : Runner) (env : Env) (wake : Wake) :
    Move env wake self.ledger (self.step (env, wake)).ledger := by
  rw [Runner.step, Runner.ledger_reported]
  exact (handleWake_changes self env wake).move

theorem sendSaInit_starts (env : Env) (config : IpsecConfig) :
    Ends (sendSaInit env) { Runner.spawn config with started := true }
      fun _ after => Started config after.view ∧ Opens config after.ledger := by
  have unsent : Started config (Runner.spawn config).view ∧ Opens config (Runner.spawn config).ledger :=
    ⟨.waiting, .waiting⟩
  refine Ends.get_bind (Ends.liftM_bind (fun _ _ => unsent) fun peer _ => ?_)
  refine Ends.liftM_bind (fun _ _ => unsent) fun keyPair _ => ?_
  refine Ends.liftM_bind (fun _ _ => unsent) fun nonce _ => ?_
  refine Ends.liftM_bind (fun _ _ => unsent) fun localSpi _ => ?_
  refine Ends.liftM_bind (fun _ _ => unsent) fun sourceAddress _ => ?_
  refine Ends.liftM_bind (fun _ _ => unsent) fun localAddr _ => ?_
  refine Ends.ite (fun _ => unsent) fun _ => ?_
  refine Ends.liftM_bind (fun _ _ => unsent) fun message encoded => ?_
  refine ends_sent_bind (fun _ _ => unsent) fun _ => ?_
  let pending : PendingSaInit := {
    keyPair, nonce := nonce.val, proposals := config.ikeProposals, realMessage1 := message
    localSpi, localAddress := sourceAddress, localPort := localAddr.port }
  have viewed := congrArg (fun view : View => { view with
    phase := Phase.saInitSent, pendingSaInit := some pending })
      (Runner.view_recordSent { Runner.spawn config with started := true } message)
  have booked := congrArg (fun ledger : Ledger => { ledger with
    phase := Phase.saInitSent, slot := some message, pendingSaInit := some pending })
    (Runner.ledger_recordSent { Runner.spawn config with started := true } message)
  exact ⟨(congrArg (Started config) viewed).mpr (.saInitSent rfl encoded),
    (congrArg (Opens config) booked).mpr (.saInitSent encoded)⟩

theorem start_started (env : Env) (config : IpsecConfig) :
    Started config (Runner.start env config).view := by
  unfold Runner.start
  split
  · rw [Runner.view_reported]
    exact (sendSaInit_starts env config).1
  · exact .waiting

theorem start_opens (env : Env) (config : IpsecConfig) : Opens config (Runner.start env config).ledger := by
  unfold Runner.start
  split
  · rw [Runner.ledger_reported]
    exact (sendSaInit_starts env config).2
  · exact .waiting

end

end Shuli.Ipsec
