import Shuli.Core.Eap

/-!
Which packets an EAP peer takes. Every check that the peer and its EAP-TLS method make on their own is
stated over the packet and the state before it; what remains is the verdict of the TLS library on a
completed message.
-/

namespace Shuli.Core

open Fallible

/-- The result is a success exactly when `P` holds. -/
def Verdict {σ ε α : Type} (P : Prop) : Except ε α → σ → Prop
  | .ok _, _ => P
  | .error _, _ => ¬P

theorem verdict_bind {σ ε α β γ : Type} {x : Fallible σ ε α} {f : α → Fallible σ ε β} {g : α → Fallible σ ε γ} {s : σ}
    (same : ∀ a t, Ends (f a) t (Verdict ((exec (g a) t).1.toOption.isSome))) :
    Ends (x >>= f) s (Verdict ((exec (x >>= g) s).1.toOption.isSome)) := by
  unfold Ends
  rw [exec_bind, exec_bind]
  rcases exec x s with ⟨e | a, t⟩
  · exact Bool.false_ne_true
  · exact same a t

section

variable [Tls]

namespace EapTlsMethod

variable {self : EapTlsMethod} {flags : UInt8} {body data : Octets}

def connFor (self : EapTlsMethod) (flags : UInt8) : Option Tls.Conn :=
  match self.conn with
  | some conn => some conn
  | none =>
    if flags &&& eapTlsFlagStart ≠ 0 then (Tls.connect self.config self.serverName).toOption else none

def announced (body : Octets) : Nat := beNat ((body.drop 1).take 4)

def Consistent (self : EapTlsMethod) (flags : UInt8) (body : Octets) : Prop :=
  flags &&& eapTlsFlagL ≠ 0 →
    announced body ≤ 65535 ∧ self.rxExpectedLen.any (fun expected => expected.toNat != announced body) = false

def expectedFor (self : EapTlsMethod) (flags : UInt8) (body : Octets) : Option UInt32 :=
  if flags &&& eapTlsFlagL ≠ 0 then some (UInt32.ofNat (announced body)) else self.rxExpectedLen

def Fits (self : EapTlsMethod) (expected : Option UInt32) (data : Octets) : Prop :=
  self.rxFragments.length + data.length ≤ (expected.map UInt32.toNat).getD 65535

def Completes (self : EapTlsMethod) (expected : Option UInt32) (data : Octets) : Prop :=
  expected.all fun len => UInt32.ofNat (self.rxFragments ++ data).length == len

def reassembled (self : EapTlsMethod) (conn : Tls.Conn) (data : Octets) : EapTlsMethod :=
  { self with conn := some conn, rxFragments := self.rxFragments ++ data, rxExpectedLen := none }

def converse : Method Octets := do
  if !(← get).rxFragments.isEmpty then
    modify fun self => { self with rxBuf := self.rxBuf ++ self.rxFragments, rxFragments := [] }
    feedTls (← get).rxBuf.length
  let out ← onConn Tls.writeTls
  exportMsk
  return out

/-- The body is well formed, finds a connection, and continues, acknowledges or completes a message; the
TLS library takes a completed one. -/
def Accepts (self : EapTlsMethod) (body : Octets) : Prop :=
  ∃ flags data conn, parseTlsMessage body = .ok (flags, data) ∧ self.connFor flags = some conn ∧
    (flags = 0 ∧ data.isEmpty ∨
      self.Consistent flags body ∧ self.Fits (self.expectedFor flags body) data ∧
        (flags &&& eapTlsFlagM ≠ 0 ∨
          flags &&& eapTlsFlagM = 0 ∧ self.Completes (self.expectedFor flags body) data ∧
            (exec converse (self.reassembled conn data)).1.toOption.isSome))

omit [Tls] in
theorem parseTlsMessage_long (parsed : parseTlsMessage body = .ok (flags, data))
    (set : flags &&& eapTlsFlagL ≠ 0) : 5 ≤ body.length := by
  unfold parseTlsMessage at parsed
  split at parsed
  · cases parsed
    exact absurd rfl set
  · split at parsed
    · split at parsed
      · cases parsed
      · exact Nat.not_lt.mp ‹_›
    · cases parsed
      exact absurd set ‹_›

theorem startConnection_verdict : Ends (startConnection flags) self
    (orElse (fun _ t => ∃ conn, self.connFor flags = some conn ∧ t = { self with conn := some conn })
      fun _ _ => self.connFor flags = none) := by
  have checked (t : EapTlsMethod) (kept : t = { self with conn := t.conn })
      (found : t.conn = self.connFor flags) : Ends (do
      if (← get).conn.isNone then throw tlsDataBeforeStart : Method Unit) t
      (orElse (fun _ t => ∃ conn, self.connFor flags = some conn ∧ t = { self with conn := some conn })
        fun _ _ => self.connFor flags = none) := by
    apply Ends.ite
    · intro none
      rw [found] at none
      exact Option.isNone_iff_eq_none.mp none
    · intro some
      obtain ⟨conn, opened⟩ := Option.ne_none_iff_exists'.mp fun none => some (Option.isNone_iff_eq_none.mpr none)
      rw [opened] at kept
      exact ⟨conn, found.symm.trans opened, kept⟩
  apply Ends.ite
  · rintro ⟨start, closed⟩
    have closed := Option.isNone_iff_eq_none.mp closed
    apply Ends.liftM_bind
    · intro e failed
      rw [connFor, closed]
      simp only [if_pos start, failed]
      rfl
    · intro conn opened
      apply Ends.modify_bind
      apply checked _ rfl
      rw [connFor, closed]
      simp only [if_pos start, opened]
      rfl
  · intro other
    apply checked self rfl
    rcases opened : self.conn with _ | conn
    · rw [connFor, opened]
      exact (if_neg fun start => other ⟨start, Option.isNone_iff_eq_none.mpr opened⟩).symm
    · rw [connFor, opened]

theorem announceLength_verdict (long : flags &&& eapTlsFlagL ≠ 0 → 5 ≤ body.length) :
    Ends (announceLength flags body) self
      (orElse (fun _ t => self.Consistent flags body ∧
          t = { self with rxExpectedLen := self.expectedFor flags body })
        fun _ _ => ¬self.Consistent flags body) := by
  apply Ends.ite
  · intro set
    apply Ends.ite
    · exact fun short => absurd (long set) (Nat.not_le.mpr short)
    intro _
    apply Ends.ite
    · exact fun above consistent => Nat.not_lt.mpr (consistent set).1 above
    intro limit
    apply Ends.ite
    · intro differs consistent
      exact Bool.eq_false_iff.mp (consistent set).2 differs
    intro same
    refine ⟨fun _ => ⟨Nat.not_lt.mp limit, Bool.eq_false_iff.mpr same⟩, ?_⟩
    rw [expectedFor, if_pos set]
    rfl
  · intro unset
    refine ⟨fun set => absurd set unset, ?_⟩
    rw [expectedFor, if_neg unset]
    rfl

theorem addFragment_verdict : Ends (addFragment flags data) self
    (orElse (fun complete t => self.Fits self.rxExpectedLen data ∧
        if complete then flags &&& eapTlsFlagM = 0 ∧ self.Completes self.rxExpectedLen data ∧
          t = { self with rxFragments := self.rxFragments ++ data, rxExpectedLen := none }
        else flags &&& eapTlsFlagM ≠ 0)
      fun _ _ => ¬(self.Fits self.rxExpectedLen data ∧
        (flags &&& eapTlsFlagM = 0 → self.Completes self.rxExpectedLen data))) := by
  apply Ends.ite
  · exact fun above both => Nat.not_lt.mpr both.1 above
  intro fits
  have fits := Nat.not_lt.mp fits
  apply Ends.ite
  · exact fun done => ⟨fits, done.1, done.2, rfl⟩
  intro unfinished
  apply Ends.ite
  · exact fun last both => unfinished ⟨last, both.2 last⟩
  · exact fun more => ⟨fits, more⟩

theorem nextTxFragment_passes : Ends nextTxFragment self (Verdict True) := by
  apply Ends.ite
  · exact fun _ => trivial
  intro _
  apply Ends.ite
  · exact fun _ => trivial
  · exact fun _ => trivial

theorem queueTlsOutput_passes {output : Octets} : Ends (do
    queueTlsOutput output
    nextTxFragment : Method Octets) self (Verdict True) := by
  unfold queueTlsOutput
  split
  · exact nextTxFragment_passes
  · exact nextTxFragment_passes

/-- What follows a completed message fails only in the TLS library. -/
theorem converse_verdict : Ends (do
    if !(← get).rxFragments.isEmpty then
      modify fun self => { self with rxBuf := self.rxBuf ++ self.rxFragments, rxFragments := [] }
      feedTls (← get).rxBuf.length
    let out ← onConn Tls.writeTls
    exportMsk
    queueTlsOutput out
    nextTxFragment : Method Octets) self (Verdict ((exec converse self).1.toOption.isSome)) := by
  have written (t : EapTlsMethod) : Ends (do
      let out ← onConn Tls.writeTls
      exportMsk
      queueTlsOutput out
      nextTxFragment : Method Octets) t (Verdict ((exec (do
        let out ← onConn Tls.writeTls
        exportMsk
        return out : Method Octets) t).1.toOption.isSome)) := by
    apply verdict_bind
    intro out t
    apply verdict_bind
    intro _ t
    apply queueTlsOutput_passes.mono
    intro result t passes
    cases result with
    | error e => exact absurd trivial passes
    | ok reply => rfl
  apply verdict_bind
  intro started t
  split
  · apply verdict_bind
    intro _ t
    apply verdict_bind
    intro filled t
    apply verdict_bind
    exact fun _ t => written t
  · exact written t

theorem handleRequest_verdict : Ends (handleRequest body) self (Verdict (self.Accepts body)) := by
  apply Ends.liftM_bind
  · rintro e failed ⟨flags, data, conn, parsed, -⟩
    cases failed.symm.trans parsed
  rintro ⟨flags, data⟩ parsed
  have long : flags &&& eapTlsFlagL ≠ 0 → 5 ≤ body.length := parseTlsMessage_long parsed
  apply Ends.bind startConnection_verdict
  · rintro e t closed ⟨flags, data, conn, other, found, -⟩
    cases parsed.symm.trans other
    cases closed.symm.trans found
  rintro _ t ⟨conn, found, rfl⟩
  have accepts : self.Accepts body ↔ (flags = 0 ∧ data.isEmpty ∨
      self.Consistent flags body ∧ self.Fits (self.expectedFor flags body) data ∧
        (flags &&& eapTlsFlagM ≠ 0 ∨
          flags &&& eapTlsFlagM = 0 ∧ self.Completes (self.expectedFor flags body) data ∧
            (exec converse (self.reassembled conn data)).1.toOption.isSome)) := by
    constructor
    · rintro ⟨flags, data, other, same, opened, rest⟩
      cases parsed.symm.trans same
      cases found.symm.trans opened
      exact rest
    · exact fun rest => ⟨flags, data, conn, parsed, found, rest⟩
  rw [accepts]
  apply Ends.ite
  · intro acknowledged
    apply nextTxFragment_passes.mono
    intro result t passes
    cases result with
    | error e => exact absurd trivial passes
    | ok reply => exact .inl acknowledged
  intro carries
  apply Ends.bind (announceLength_verdict long)
  · rintro e t inconsistent (acknowledged | ⟨consistent, -⟩)
    · exact carries acknowledged
    · exact inconsistent consistent
  rintro _ t ⟨consistent, rfl⟩
  apply Ends.bind addFragment_verdict
  · rintro e t unfit (acknowledged | ⟨-, fits, more | ⟨-, completes, -⟩⟩)
    · exact carries acknowledged
    · exact unfit ⟨fits, fun last => absurd last more⟩
    · exact unfit ⟨fits, fun _ => completes⟩
  rintro complete t ⟨fits, rest⟩
  cases complete with
  | false => exact .inr ⟨consistent, fits, .inl rest⟩
  | true =>
    obtain ⟨last, completes, rfl⟩ := rest
    apply converse_verdict.mono
    intro result t verdict
    cases result with
    | error e =>
      rintro (acknowledged | ⟨-, -, more | ⟨-, -, taken⟩⟩)
      · exact carries acknowledged
      · exact more last
      · exact verdict taken
    | ok reply => exact .inr ⟨consistent, fits, .inr ⟨last, completes, verdict⟩⟩

end EapTlsMethod

namespace EapPeer

def Repeats (self : EapPeer) (packet : EapPacket) : Prop :=
  self.lastResponse.isSome ∧ self.lastRequest = some packet

/-- The packets that do not end the authentication. -/
structure Accepts (peer : EapPeer) (packet : EapPacket) : Prop where
  success : packet.isSuccess → peer.isStale packet ∨
    (peer.method.any fun method => !method.successIndicationReceived) ∨ peer.msk.isSome
  failure : packet.isFailure → peer.isStale packet
  request : packet.code = codeRequest → peer.Repeats packet ∨ ∃ type, packet.type = some type ∧
    ∀ method, peer.method = some method → type = typeTls → method.Accepts packet.body

def Replies (self : EapPeer) (packet : EapPacket) : Prop :=
  packet.code = codeRequest ∧ (self.Repeats packet ∨ packet.type ≠ some typeNak)

inductive PacketOutcome (self : EapPeer) (packet : EapPacket) :
    Except WifiError EapAction → EapPeer → Prop
  | wait {t : EapPeer} (accepted : self.Accepts packet) (silent : ¬self.Replies packet) :
      PacketOutcome self packet (.ok .wait) t
  | respond {response : Octets} {t : EapPeer} (accepted : self.Accepts packet)
      (replies : self.Replies packet) : PacketOutcome self packet (.ok (.respond response)) t
  | success (keyed : self.Accepts packet ↔ self.msk.isSome) (silent : ¬self.Replies packet) :
      PacketOutcome self packet (.ok .success) self
  | failure (refused : ¬self.Accepts packet) : PacketOutcome self packet (.ok .failure) self
  | error {error : WifiError} {t : EapPeer} (refused : ¬self.Accepts packet) :
      PacketOutcome self packet (.error error) t

variable {self : EapPeer} {packet : EapPacket}

theorem askMethod_verdict {method : EapTlsMethod} {body : Octets} (held : self.method = some method) :
    Ends (askMethod body) self (Verdict (method.Accepts body)) := by
  apply Ends.get_bind
  rw [held]
  apply Ends.modify_bind
  have verdict : Ends (EapTlsMethod.handleRequest body) method _ := EapTlsMethod.handleRequest_verdict
  unfold Ends at verdict ⊢
  generalize exec (EapTlsMethod.handleRequest body) method = outcome at verdict ⊢
  rcases outcome with ⟨e | reply, t⟩
  · exact verdict
  · exact verdict

/-- An identity, notification, Nak or unknown type is always taken; the method decides about its own. -/
theorem answer_outcome {type : UInt8} : Ends (answer packet type) self
    (orElse (fun response _ => (response = none ↔ type = typeNak) ∧
        ∀ method, self.method = some method → type = typeTls → method.Accepts packet.body)
      fun _ _ => ∃ method, self.method = some method ∧ type = typeTls ∧ ¬method.Accepts packet.body) := by
  have apart {other : UInt8} (same : type = other) (differs : other ≠ typeTls) :
      ∀ method, self.method = some method → type = typeTls → method.Accepts packet.body :=
    fun _ _ tls => absurd (same.symm.trans tls) differs
  apply Ends.ite
  · intro identity
    refine ⟨⟨fun none => (nomatch none), fun nak => ?_⟩, apart identity (by decide)⟩
    exact absurd (identity.symm.trans nak) (by decide)
  intro _
  apply Ends.ite
  · intro notification
    refine ⟨⟨fun none => (nomatch none), fun nak => ?_⟩, apart notification (by decide)⟩
    exact absurd (notification.symm.trans nak) (by decide)
  intro _
  apply Ends.ite
  · exact fun nak => ⟨⟨fun _ => nak, fun _ => rfl⟩, apart nak (by decide)⟩
  intro named
  apply Ends.ite
  · rintro ⟨installed, tls⟩
    obtain ⟨method, held⟩ := Option.isSome_iff_exists.mp installed
    apply Ends.bind (askMethod_verdict held)
    · exact fun e t refused => ⟨method, held, tls, refused⟩
    · intro body t accepted
      refine ⟨⟨fun none => (nomatch none), fun nak => absurd nak named⟩, fun other same _ => ?_⟩
      cases held.symm.trans same
      exact accepted
  · intro other
    refine ⟨⟨fun none => (nomatch none), fun nak => absurd nak named⟩, fun method held tls => ?_⟩
    exact absurd ⟨by rw [held]; rfl, tls⟩ other

theorem respond_outcome (request : packet.code = codeRequest) (new : ¬self.Repeats packet) :
    Ends (respond packet) self (PacketOutcome self packet) := by
  have code : ¬packet.isSuccess ∧ ¬packet.isFailure := by
    rw [EapPacket.isSuccess, EapPacket.isFailure, request]
    decide
  unfold respond
  rcases typed : packet.type with _ | type
  · apply PacketOutcome.error
    intro accepted
    rcases accepted.request request with repeated | ⟨type, present, -⟩
    · exact new repeated
    · cases typed.symm.trans present
  · apply Ends.bind answer_outcome
    · rintro e t ⟨method, held, tls, refused⟩
      apply PacketOutcome.error
      intro accepted
      rcases accepted.request request with repeated | ⟨other, present, taken⟩
      · exact new repeated
      · cases typed.symm.trans present
        exact refused (taken method held tls)
    · rintro response t ⟨nak, taken⟩
      have accepted : self.Accepts packet :=
        ⟨fun success => absurd success code.1, fun failure => absurd failure code.2,
          fun _ => .inr ⟨type, typed, taken⟩⟩
      cases response with
      | none =>
        refine PacketOutcome.wait accepted fun replies => ?_
        rcases replies.2 with repeated | other
        · exact new repeated
        · exact other (typed.trans (congrArg some (nak.mp rfl)))
      | some response =>
        refine PacketOutcome.respond accepted ⟨request, .inr fun same => ?_⟩
        cases nak.mpr (Option.some.inj (typed.symm.trans same))

theorem handlePacket_outcome : Ends (handlePacket packet) self (PacketOutcome self packet) := by
  apply Ends.ite
  · intro final
    have other : packet.code ≠ codeRequest := by
      intro request
      rw [EapPacket.isSuccess, EapPacket.isFailure, request] at final
      revert final
      decide
    have silent : ¬self.Replies packet := fun replies => other replies.1
    apply Ends.ite
    · intro stale
      exact .wait ⟨fun _ => .inl stale, fun _ => stale, fun request => absurd request other⟩ silent
    intro current
    apply Ends.ite
    · intro success
      have failure : ¬packet.isFailure := by
        rw [EapPacket.isFailure, beq_iff_eq.mp success]
        decide
      apply Ends.ite
      · exact fun early => .wait ⟨fun _ => .inr (.inl early), fun failed => absurd failed failure,
          fun request => absurd request other⟩ silent
      · intro ready
        refine .success ⟨fun accepted => ?_, fun keyed => ?_⟩ silent
        · exact ((accepted.success success).resolve_left current).resolve_left ready
        · exact ⟨fun _ => .inr (.inr keyed), fun failed => absurd failed failure,
            fun request => absurd request other⟩
    · intro unsuccessful
      exact .failure fun accepted => current (accepted.failure (final.resolve_left unsuccessful))
  intro inner
  apply Ends.ite
  · intro other
    exact .wait ⟨fun success => absurd (.inl success) inner, fun failure => absurd (.inr failure) inner,
      fun request => absurd request other⟩ fun replies => other replies.1
  intro request
  have request := Decidable.not_not.mp request
  apply Ends.get_bind
  rcases cached : self.lastResponse with _ | response
  · exact respond_outcome request fun repeated => by
      rw [Repeats, cached] at repeated
      exact nomatch repeated.1
  · apply Ends.ite
    · intro same
      have repeated : self.Repeats packet := ⟨by rw [cached]; rfl, same⟩
      exact .respond ⟨fun success => absurd (.inl success) inner,
        fun failure => absurd (.inr failure) inner, fun _ => .inl repeated⟩ ⟨request, .inl repeated⟩
    · exact fun differs => respond_outcome request fun repeated => differs repeated.2

end EapPeer

end

end Shuli.Core
