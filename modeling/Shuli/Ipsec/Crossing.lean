import Shuli.Ipsec.Conduct
import Shuli.Pairs

/-!
Who initiates. Two runners that know each other's address both send IKE_SA_INIT, and the requests may
cross. A request that arrives while the own one is pending makes the runner a responder; when that
happens at both ends neither exchange can be completed. As long as a runner whose peer has answered its
request ignores the peer's request, and takes the answer, the roles of the two ends fit together.
-/

namespace Shuli.Ipsec

open Fallible Shuli.Core

theorem wireHeader_decoded {message : Message} {octets : Octets} (decoded : Message.decode octets = .ok message) :
    wireHeader octets = ⟨message.header.initiatorSpi, some message.header.exchange,
      message.header.isResponse, message.header.messageId⟩ := by
  simp only [Message.decode, Except.bind_eq_ok] at decoded
  obtain ⟨header, decoded, payloads, -, result⟩ := decoded
  cases result
  simp only [IkeHeader.decode, Except.guard_eq_ok] at decoded
  obtain ⟨-, decoded⟩ := decoded
  split at decoded
  case h_1 exchange found =>
    simp only [Except.guard_eq_ok] at decoded
    obtain ⟨-, -, result⟩ := decoded
    cases result
    simp only [wireHeader, found]
    rfl
  case h_2 => cases decoded

def Wake.data? : Wake → Option Octets
  | .datagram data _ => some data
  | _ => none

def opensIke (octets : Octets) : Prop :=
  (wireHeader octets).response = false ∧ (wireHeader octets).exchange = some .ikeSaInit

/-! What a move changes of the roles -/

def IkeRuntime.SameEnds (ike other : IkeRuntime) : Prop :=
  other.role = ike.role ∧ other.localSpi = ike.localSpi ∧ other.remoteSpi = ike.remoteSpi

def Ledger.Sends (before after : Ledger) : Prop :=
  (after.sent = before.sent ∧ (after.slot = before.slot ∨ after.slot = none)) ∨
    ∃ message, after.sent = before.sent ++ [message] ∧
      (after.slot = before.slot ∨ after.slot = none ∨ after.slot = some message) ∧
      (¬opensIke message ∨ before.slot = some message)

/-- The IKE SA stays, and a pending IKE_SA_INIT too. -/
structure Ledger.KeepsRole (before after : Ledger) : Prop where
  ike : Option.Rel IkeRuntime.SameEnds before.ike after.ike
  pending : after.pendingSaInit = before.pendingSaInit
  phase : after.phase = before.phase ∨ (after.phase ≠ .saInitSent ∧ before.phase ≠ .saInitSent) ∨
    (after.phase ≠ .saInitSent ∧ before.ike ≠ none)

section

variable {before after ledger : Ledger} {wake : Wake} {payloads : List Payload} {env : Env} {message : Octets}

theorem sameEnds_of_eq {before after : Option IkeRuntime} (same : after = before) :
    Option.Rel IkeRuntime.SameEnds before after := by
  subst same
  cases after with
  | none => exact .none
  | some ike => exact .some ⟨rfl, rfl, rfl⟩

theorem Ledger.sameEnds_removes (ledger : Ledger) :
    Option.Rel IkeRuntime.SameEnds ledger.ike ledger.removes.ike := by
  change Option.Rel _ ledger.ike (ledger.ike.map fun ike => { ike with child := none })
  cases ledger.ike with
  | none => exact .none
  | some ike => exact .some ⟨rfl, rfl, rfl⟩

theorem Ledger.KeepsRole.of_eq (ike : after.ike = before.ike)
    (phase : after.phase = before.phase) (pending : after.pendingSaInit = before.pendingSaInit) :
    before.KeepsRole after := ⟨sameEnds_of_eq ike, pending, .inl phase⟩

/-! The roles of one runner -/

def Ledger.Responds (ledger : Ledger) : Prop := ∃ ike, ledger.ike = some ike ∧ ike.role = .responder

/-- The runner has the initiator's IKE SA of this SPI, or can still complete the exchange. -/
def Ledger.Awaits (ledger : Ledger) (spi : UInt64) : Prop :=
  (∃ ike, ledger.ike = some ike ∧ ike.role = .initiator ∧ ike.localSpi = spi) ∨
    (ledger.ike = none ∧ ledger.phase = .saInitSent ∧
      ∃ pending, ledger.pendingSaInit = some pending ∧ pending.localSpi = spi)

/-- The runner stands by the IKE_SA_INIT requests that it sent, unless it answered one. -/
structure Ledger.Asks (ledger : Ledger) : Prop where
  kept : ∀ message, ledger.slot = some message → message ∈ ledger.sent
  opening : ledger.phase = .saInitSent → ledger.pendingSaInit.isSome → ledger.ike = none
  asked : ∀ message ∈ ledger.sent, opensIke message →
    ledger.Responds ∨ ledger.Awaits (wireHeader message).initiatorSpi

theorem Ledger.Awaits.not_responds {spi : UInt64} (awaits : ledger.Awaits spi) :
    ¬ledger.Responds := by
  rintro ⟨ike, current, role⟩
  rcases awaits with ⟨other, same, initiator, _⟩ | ⟨none, _⟩
  · cases current.symm.trans same
    cases role.symm.trans initiator
  · cases none.symm.trans current

theorem Ledger.KeepsRole.responds (keeps : before.KeepsRole after) :
    after.Responds ↔ before.Responds := by
  have same := keeps.ike
  unfold Responds
  generalize before.ike = first at same
  generalize after.ike = second at same
  cases same with
  | none => simp
  | some ends => simp [ends.1]

theorem Ledger.KeepsRole.awaits {spi : UInt64} (keeps : before.KeepsRole after)
    (awaits : before.Awaits spi) : after.Awaits spi := by
  have same := keeps.ike
  rcases awaits with ⟨ike, current, role, own⟩ | ⟨none, phase, pending, pends, own⟩
  · rw [current] at same
    generalize kept : after.ike = second at same
    cases same with
    | some ends => exact .inl ⟨_, kept, ends.1.trans role, ends.2.1.trans own⟩
  · rw [none] at same
    generalize kept : after.ike = second at same
    cases same
    refine .inr ⟨kept, ?_, pending, keeps.pending.trans pends, own⟩
    rcases keeps.phase with same | ⟨_, left⟩ | ⟨_, some⟩
    · exact same.trans phase
    · exact absurd phase left
    · exact absurd none some

theorem Ledger.Asks.mem (asks : before.Asks) (sends : before.Sends after)
    (mem : message ∈ after.sent) (opens : opensIke message) : message ∈ before.sent := by
  rcases sends with ⟨same, _⟩ | ⟨posted, more, _, reason⟩
  · exact same ▸ mem
  · rw [more, List.mem_append, List.mem_singleton] at mem
    rcases mem with old | rfl
    · exact old
    · rcases reason with silent | again
      · exact absurd opens silent
      · exact asks.kept message again

theorem Ledger.Asks.slot (asks : before.Asks) (sends : before.Sends after)
    (found : after.slot = some message) : message ∈ after.sent := by
  rcases sends with ⟨same, slot | slot⟩ | ⟨posted, more, slot | slot | slot, _⟩
  · exact same ▸ asks.kept message (slot ▸ found)
  · cases slot.symm.trans found
  · exact more ▸ List.mem_append_left _ (asks.kept message (slot ▸ found))
  · cases slot.symm.trans found
  · cases slot.symm.trans found
    exact more ▸ List.mem_append_right _ (List.mem_singleton_self _)

variable [Crypto]

/-- What a wake can do to the role of a runner. -/
inductive RoleMove (env : Env) (wake : Wake) (before after : Ledger) : Prop
  | kept (keeps : before.KeepsRole after)
  | responds {data : Octets} {source : SocketAddr} {message : Message} {ike : IkeRuntime}
      (delivers : wake = .datagram data source) (decoded : Message.decode data = .ok message)
      (request : message.header.isResponse = false) (exchange : message.header.exchange = .ikeSaInit)
      (fresh : before.ike = none) (created : after.ike = some ike) (role : ike.role = .responder)
      (remote : ike.remoteSpi = message.header.initiatorSpi) (phase : after.phase = .authSent)
  | drops {data : Octets} {source : SocketAddr} {message : Message} {pending : PendingSaInit}
      (delivers : wake = .datagram data source) (decoded : Message.decode data = .ok message)
      (response : message.header.isResponse = true) (phase : before.phase = .saInitSent)
      (pends : before.pendingSaInit = some pending)
      (unfinished : ¬((acceptSaInit pending data message).isOk ∧ env.Completes))
      (ike : after.ike = before.ike) (dropped : after.pendingSaInit = none)
  | initiates {pending : PendingSaInit} {ike : IkeRuntime} (phase : before.phase = .saInitSent)
      (pends : before.pendingSaInit = some pending) (created : after.ike = some ike)
      (role : ike.role = .initiator) (localSpi : ike.localSpi = pending.localSpi)
      (dropped : after.pendingSaInit = none)

theorem Reads.keepsRole {message : Message} {ike other : IkeRuntime} (reads : Reads wake before message ike payloads)
    (kept : after.ike = some other) (ends : ike.SameEnds other) (phase : after.phase = .established)
    (pending : after.pendingSaInit = before.pendingSaInit) : before.KeepsRole after := by
  refine ⟨?_, pending, .inr (.inr ⟨by simp [phase], by simp [reads.current]⟩)⟩
  rw [reads.current, kept]
  exact .some ends

/-- An IKE_SA_INIT response that reaches a waiting runner completes its IKE SA. -/
def Ledger.Takes (ledger : Ledger) (env : Env) (wake : Wake) : Prop :=
  ∀ data source message pending, wake = .datagram data source → Message.decode data = .ok message →
    message.header.isResponse = true → ledger.phase = .saInitSent →
    ledger.pendingSaInit = some pending → (acceptSaInit pending data message).isOk ∧ env.Completes

theorem RoleMove.awaits {spi : UInt64} (move : RoleMove env wake before after) (asks : before.Asks)
    (takes : before.Takes env wake) (awaits : before.Awaits spi) : after.Responds ∨ after.Awaits spi := by
  cases move with
  | kept keeps => exact .inr (keeps.awaits awaits)
  | responds _ _ _ _ _ created role => exact .inl ⟨_, created, role⟩
  | drops delivers decoded response phase pends unfinished =>
    exact absurd (takes _ _ _ _ delivers decoded response phase pends) unfinished
  | initiates phase pends created role own =>
    have fresh := asks.opening phase (by rw [pends]; rfl)
    rcases awaits with ⟨_, current, _⟩ | ⟨_, _, pending, same, spi⟩
    · cases fresh.symm.trans current
    · cases pends.symm.trans same
      exact .inr (.inl ⟨_, created, role, own.trans spi⟩)

theorem RoleMove.responds_of
    (move : RoleMove env wake before after) (asks : before.Asks) (responds : before.Responds) :
    after.Responds := by
  obtain ⟨ike, current, role⟩ := id responds
  cases move with
  | kept keeps => exact keeps.responds.mpr responds
  | responds _ _ _ _ fresh => cases fresh.symm.trans current
  | drops _ _ _ _ _ _ same => exact ⟨ike, same.trans current, role⟩
  | initiates phase pends =>
    cases (asks.opening phase (by rw [pends]; rfl)).symm.trans current

/-- A runner becomes a responder by answering a request while it has no IKE SA. -/
theorem RoleMove.responds_inv {ike : IkeRuntime}
    (move : RoleMove env wake before after) (created : after.ike = some ike) (role : ike.role = .responder) :
    (∃ earlier, before.ike = some earlier ∧ earlier.role = .responder ∧
      earlier.remoteSpi = ike.remoteSpi) ∨
      ∃ data source message, wake = .datagram data source ∧ Message.decode data = .ok message ∧
        message.header.isResponse = false ∧ message.header.exchange = .ikeSaInit ∧ before.ike = none ∧
        ike.remoteSpi = message.header.initiatorSpi := by
  cases move with
  | kept keeps =>
    have same := keeps.ike
    rw [created] at same
    generalize current : before.ike = first at same
    cases same with
    | some ends => exact .inl ⟨_, rfl, ends.1.symm.trans role, ends.2.2.symm⟩
  | responds delivers decoded request exchange fresh made _ remote =>
    cases created.symm.trans made
    exact .inr ⟨_, _, _, delivers, decoded, request, exchange, fresh, remote⟩
  | drops _ _ _ _ _ _ same => exact .inl ⟨ike, same.symm.trans created, role, rfl⟩
  | initiates _ _ made initiator =>
    cases created.symm.trans made
    cases role.symm.trans initiator

theorem RoleMove.opening (move : RoleMove env wake before after) (asks : before.Asks)
    (phase : after.phase = .saInitSent) (pends : after.pendingSaInit.isSome) : after.ike = none := by
  cases move with
  | kept keeps =>
    rcases keeps.phase with same | ⟨left, _⟩ | ⟨left, _⟩
    · have none := asks.opening (same.symm.trans phase) (keeps.pending ▸ pends)
      have ike := keeps.ike
      rw [none] at ike
      generalize after.ike = second at ike
      cases ike
      rfl
    · exact absurd phase left
    · exact absurd phase left
  | responds _ _ _ _ _ _ _ _ sent => cases sent.symm.trans phase
  | drops _ _ _ _ _ _ _ dropped | initiates _ _ _ _ _ dropped => simp [dropped] at pends

variable [Tls]

theorem Move.role (move : Move env wake before after) :
    RoleMove env wake before after := by
  cases move with
  | quiet | notified | authRequestFailed | authResponseFailed | eapUnsent | eapContinued | informed
  | answered | rekeyIgnored | rekeyRefused | retransmitted | exhausted | probeUnsent | probed | rekeyIdle
  | rekeyPostponed | rekeyUnsent | rekeySent => exact .kept (.of_eq rfl rfl rfl)
  | createdResponder delivers decoded request exchange fresh answered =>
    have responded := answerSaInit_responded answered
    exact .responds delivers decoded request exchange fresh rfl responded.role responded.remoteSpi rfl
  | saInitTaken delivers decoded response phase pends unfinished =>
    exact .drops delivers decoded response phase pends unfinished rfl rfl
  | createdUnsent _ _ _ phase pends accepted | createdInitiator _ _ _ phase pends accepted =>
    have initiated := acceptSaInit_initiated accepted
    exact .initiates phase pends rfl initiated.role initiated.localSpi rfl
  | authAnswered reads | authCompleted reads | rekeyAnswered reads | rekeyCompleted reads =>
    exact .kept (reads.keepsRole rfl ⟨rfl, rfl, rfl⟩ rfl rfl)
  | deletedUnsent | deleted => exact .kept ⟨before.sameEnds_removes, rfl, .inl rfl⟩
  | retransmitDead _ phase | dpdDead _ phase =>
    exact .kept ⟨before.sameEnds_removes, rfl, .inr (.inl ⟨nofun, by simp [phase]⟩)⟩

theorem Move.sends (move : Move env wake before after) : before.Sends after := by
  obtain ⟨_ | message, one⟩ := move.posts
  · exact .inl ⟨one.sent.trans (List.append_nil _), by simpa using one.slot⟩
  · refine .inr ⟨message, one.sent, one.slot, ?_⟩
    rcases one.warranted message rfl with ⟨_, armed⟩ | ⟨_, later⟩ | ⟨response, _⟩
    · exact .inr armed
    · exact .inl fun opens => later opens.2
    · exact .inl fun opens => Bool.noConfusion (response.symm.trans opens.1)

theorem Move.asks (move : Move env wake before after)
    (asks : before.Asks) (takes : before.Takes env wake) : after.Asks where
  kept := fun _ found => asks.slot move.sends found
  opening := move.role.opening asks
  asked := by
    intro message mem opens
    rcases asks.asked message (asks.mem move.sends mem opens) opens with responds | awaits
    · exact .inl (move.role.responds_of asks responds)
    · exact move.role.awaits asks takes awaits

/-! The roles of two runners -/

/-- The peer of a responder is the initiator of the same IKE SA, or can still become it. -/
def RolesFit (self peer : Ledger) : Prop :=
  ∀ ike, self.ike = some ike → ike.role = .responder → peer.Awaits ike.remoteSpi

/-- The datagrams of the pair are the messages that the other end sent. -/
def Genuine (pair : End → Runner) (input : End × Env × Wake) : Prop :=
  ∀ data ∈ input.2.2.data?, data ∈ (pair input.1.other).ledger.sent

instance (pair : End → Runner) (input : End × Env × Wake) : Decidable (Genuine pair input) :=
  inferInstanceAs (Decidable (∀ data ∈ input.2.2.data?, _))

def Runner.isResponder (self : Runner) : Bool := self.ike.any fun ike => ike.role == .responder

/-- The wake does not cross the exchange of the peer: a runner whose peer answered does not answer, and a
response that it waits for is taken. -/
def uncrossed (pair : End → Runner) (input : End × Env × Wake) : Bool :=
  let self := pair input.1
  match input.2.2 with
  | .datagram data _ =>
    match Message.decode data with
    | .error _ => true
    | .ok message =>
      if message.header.isResponse then
        match self.phase, self.pendingSaInit with
        | .saInitSent, some pending =>
          (acceptSaInit pending data message).isOk && decide input.2.1.Completes
        | _, _ => true
      else message.header.exchange != .ikeSaInit || self.ike.isSome || !(pair input.1.other).isResponder
  | _ => true

/-- The network delivers what was sent, and the exchanges do not cross. -/
def Uncrossed (pair : End → Runner) (input : End × Env × Wake) : Prop :=
  Genuine pair input ∧ uncrossed pair input = true

instance (pair : End → Runner) (input : End × Env × Wake) : Decidable (Uncrossed pair input) :=
  inferInstanceAs (Decidable (_ ∧ _))

theorem Uncrossed.takes {pair : End → Runner} {side : End}
    (clear : Uncrossed pair (side, env, wake)) : (pair side).ledger.Takes env wake := by
  rintro data source message pending rfl decoded response phase pends
  have phase : (pair side).phase = .saInitSent := phase
  have pends : (pair side).pendingSaInit = some pending := pends
  have clear := clear.2
  simp only [uncrossed, decoded, response, if_true, phase, pends, Bool.and_eq_true, decide_eq_true_eq] at clear
  exact clear

theorem Uncrossed.unanswered {pair : End → Runner} {side : End} {data : Octets}
    {source : SocketAddr} {message : Message}
    (clear : Uncrossed pair (side, env, .datagram data source)) (decoded : Message.decode data = .ok message)
    (request : message.header.isResponse = false) (exchange : message.header.exchange = .ikeSaInit)
    (fresh : (pair side).ledger.ike = none) : ¬(pair side.other).ledger.Responds := by
  have fresh : (pair side).ike = none := fresh
  have clear := clear.2
  simp only [uncrossed, decoded, request, exchange, fresh] at clear
  rintro ⟨ike, current, role⟩
  have current : (pair side.other).ike = some ike := current
  simp [Runner.isResponder, current, role] at clear

/-- What each end keeps towards its peer. -/
def RolesKept (self peer : Runner) : Prop := self.ledger.Asks ∧ RolesFit self.ledger peer.ledger

theorem pairStep_roles (pair : End → Runner) (input : End × Env × Wake)
    (holds : ∀ side, RolesKept (pair side) (pair side.other)) (clear : Uncrossed pair input) (side : End) :
    RolesKept (pairStep Runner.step pair input side) (pairStep Runner.step pair input side.other) := by
  obtain ⟨moved, env, wake⟩ := input
  obtain ⟨asks, fits⟩ := holds moved
  obtain ⟨peerAsks, peerFits⟩ := holds moved.other
  rw [End.other_other] at peerFits
  have move := step_move (pair moved) env wake
  refine pairStep_keeps ⟨move.asks asks clear.takes, ?_⟩ ⟨peerAsks, ?_⟩ side
  · intro ike created role
    obtain ⟨earlier, current, role, remote⟩ | ⟨data, source, message, rfl, decoded, request, exchange, fresh,
      remote⟩ := move.role.responds_inv created role
    · exact remote ▸ fits earlier current role
    · have header := wireHeader_decoded decoded
      have opens : opensIke data := ⟨by rw [header]; exact request, by rw [header, exchange]⟩
      rcases peerAsks.asked data (clear.1 data rfl) opens with responds | awaits
      · exact absurd responds (clear.unanswered decoded request exchange fresh)
      · rw [header] at awaits
        exact remote ▸ awaits
  · intro ike current role
    have awaits := peerFits ike current role
    rcases move.role.awaits asks clear.takes awaits with ⟨other, created, responder⟩ | still
    · obtain ⟨earlier, held, responder, _⟩ | ⟨data, source, message, rfl, decoded, request, exchange, fresh, _⟩ :=
        move.role.responds_inv created responder
      · exact absurd ⟨earlier, held, responder⟩ awaits.not_responds
      · exact absurd ⟨ike, current, role⟩ (clear.unanswered decoded request exchange fresh)
    · exact still

omit [Crypto] in
theorem Opens.asks {config : IpsecConfig} (opens : Opens config ledger) :
    ledger.Asks := by
  cases opens with
  | waiting => exact ⟨nofun, nofun, nofun⟩
  | saInitSent encoded =>
    refine ⟨?_, fun _ _ => rfl, ?_⟩
    · rintro _ ⟨⟩
      exact List.mem_singleton_self _
    · intro message mem _
      obtain rfl := List.mem_singleton.mp mem
      refine .inr (.inr ⟨rfl, rfl, _, rfl, ?_⟩)
      rw [wireHeader_encoded encoded]
      rfl

omit [Crypto] in
theorem Opens.unanswered {config : IpsecConfig} (opens : Opens config ledger) :
    ledger.ike = none := by
  cases opens <;> rfl

/-- Two runners whose exchanges do not cross: the peer of a responder is the initiator of the same IKE SA
or can still complete it, and they are never both responders. -/
theorem roles_never_split (envs : End → Env) (configs : End → IpsecConfig)
    (inputs : List (End × Env × Wake))
    (admitted : Admitted (pairStep Runner.step) Uncrossed
      (fun side => Runner.start (envs side) (configs side)) inputs) :
    let pair := runInputs (pairStep Runner.step) (fun side => Runner.start (envs side) (configs side)) inputs
    (∀ side, RolesFit (pair side).ledger (pair side.other).ledger) ∧
      ¬((pair .left).ledger.Responds ∧ (pair .right).ledger.Responds) := by
  intro pair
  have unanswered (side : End) : (Runner.start (envs side) (configs side)).ledger.ike = none :=
    (start_opens _ _).unanswered
  have kept : ∀ side, RolesKept (pair side) (pair side.other) := by
    refine run_invariant (I := fun pair => ∀ side, RolesKept (pair side) (pair side.other)) pairStep_roles
      (fun side => ⟨(start_opens _ _).asks, fun ike current => ?_⟩) admitted
    cases (unanswered side).symm.trans current
  refine ⟨fun side => (kept side).2, ?_⟩
  rintro ⟨⟨ike, current, role⟩, right⟩
  exact ((kept .left).2 ike current role).not_responds right

end

section

attribute [local instance] checksumCrypto closedTls

def crossingEnvs : End → Env
  | .left => sampleEnv 10
  | .right => sampleEnv 20

def crossingConfigs : End → IpsecConfig
  | .left => sampleConfig 1 2 true [1, 2, 3]
  | .right => sampleConfig 2 1 true [1, 2, 3]

def crossingPair (side : End) : Runner := .start (crossingEnvs side) (crossingConfigs side)

def clearInputs : List (End × Env × Wake) :=
  let request := lastSent (crossingPair .left)
  let answered := (crossingPair .right).step (fromHost 1 21 request)
  [(.right, fromHost 1 21 request), (.left, fromHost 2 11 (lastSent answered)), (.right, fromHost 1 22 request)]

theorem roles_never_split_answered :
    let pair := runInputs (pairStep Runner.step) crossingPair clearInputs
    (∀ side, RolesFit (pair side).ledger (pair side.other).ledger) ∧ (pair .right).isResponder = true ∧
      (pair .left).ike.any (fun ike => ike.role == .initiator) = true := by
  have admitted : Admitted (pairStep Runner.step) Uncrossed crossingPair clearInputs ∧
      (runInputs (pairStep Runner.step) crossingPair clearInputs .right).isResponder = true ∧
      (runInputs (pairStep Runner.step) crossingPair clearInputs .left).ike.any
        (fun ike => ike.role == .initiator) = true := by
    decide +kernel
  exact ⟨(roles_never_split crossingEnvs crossingConfigs _ admitted.1).1, admitted.2⟩

/-- The requests cross, and both ends answer. -/
theorem roles_split :
    let pair := runInputs (pairStep Runner.step) crossingPair
      [(.right, fromHost 1 21 (lastSent (crossingPair .left))),
        (.left, fromHost 2 11 (lastSent (crossingPair .right)))]
    (pair .left).isResponder = true ∧ (pair .right).isResponder = true ∧
      (pair .left).phase = .authSent ∧ (pair .right).phase = .authSent := by
  decide +kernel

end

end Shuli.Ipsec
