import Shuli.Core.EapSuccess

/-!
Retransmitted requests (RFC 3748 section 4.1). A copy that follows its request directly is answered from the
cache, so that the peer and its method stay as the request left them.
-/

namespace Shuli.Core.EapPeer

open Fallible

section

variable [Tls] {self next : EapPeer} {packet : EapPacket} {action : EapAction}

def Cached (self : EapPeer) (packet : EapPacket) : Prop :=
  self.lastRequest = some packet ∧ self.lastResponse.isSome

instance (self : EapPeer) (packet : EapPacket) : Decidable (self.Cached packet) :=
  inferInstanceAs (Decidable (_ ∧ _))

def consults (self : EapPeer) (packet : EapPacket) : Option (UInt8 × Octets) :=
  if packet.code = codeRequest ∧ packet.type = some typeTls ∧ self.method.isSome ∧ ¬self.Cached packet then
    some (packet.identifier, packet.body)
  else none

structure Turn where
  action : Except WifiError EapAction
  call : Option (UInt8 × Octets)

def converse : EapPeer → List EapPacket → List Turn × EapPeer
  | self, [] => ([], self)
  | self, packet :: packets =>
    let outcome := exec (handlePacket packet) self
    let rest := converse outcome.2 packets
    (⟨outcome.1, self.consults packet⟩ :: rest.1, rest.2)

theorem handlePacket_request (request : packet.code = codeRequest) :
    exec (handlePacket packet) self = exec (handleRequest packet) self := by
  rw [handlePacket, exec_get_bind, if_neg, if_neg]
  · exact not_not_intro request
  · simp [EapPacket.isSuccess, EapPacket.isFailure, request, codeRequest, codeSuccess, codeFailure]

def Answered (self : EapPeer) (packet : EapPacket) (action : EapAction) (next : EapPeer) : Prop :=
  packet.type = some typeNak ∧ action = .wait ∧ next = self ∨
    ∃ response, action = .respond response ∧ next.lastRequest = some packet ∧ next.lastResponse = some response

theorem answer_none {type : UInt8} :
    Ends (answer packet type) self fun result after => result = .ok none → type = typeNak ∧ after = self := by
  apply Ends.get_bind
  apply Ends.ite
  · exact fun _ same => nomatch same
  intro _
  apply Ends.ite
  · exact fun _ same => nomatch same
  intro _
  apply Ends.ite
  · exact fun nak _ => ⟨nak, rfl⟩
  intro _
  apply Ends.ite
  · intro _
    have asked : Ends (askMethod packet.body) self fun _ _ => True := trivial
    exact asked.bind (fun _ _ _ same => nomatch same) fun _ _ _ same => nomatch same
  · exact fun _ same => nomatch same

theorem respond_answered : Ends (respond packet) self fun result after =>
    ∀ action, result = .ok action → self.Answered packet action after := by
  unfold respond
  cases typed : packet.type with
  | none => exact fun _ same => nomatch same
  | some type =>
    apply Ends.bind answer_none
    · exact fun _ _ _ _ same => nomatch same
    · intro answered after silent
      cases answered with
      | none =>
        obtain ⟨rfl, rfl⟩ := silent rfl
        intro action same
        cases same
        exact .inl ⟨typed, rfl, rfl⟩
      | some response =>
        intro action same
        cases same
        exact .inr ⟨response, rfl, rfl, rfl⟩

theorem handleRequest_cached {response : Octets} (last : self.lastRequest = some packet)
    (cached : self.lastResponse = some response) :
    exec (handleRequest packet) self = (.ok (.respond response), self) := by
  rw [handleRequest, exec_get_bind, cached]
  dsimp only
  rw [if_pos last]
  rfl

theorem handleRequest_uncached (uncached : ¬self.Cached packet) :
    exec (handleRequest packet) self = exec (respond packet) self := by
  rw [handleRequest, exec_get_bind]
  cases last : self.lastResponse with
  | none => rfl
  | some response =>
    dsimp only
    rw [if_neg]
    exact fun same => uncached ⟨same, by rw [last]; rfl⟩

/-- A copy of an answered request changes nothing and gets the same answer, without a call of the method. -/
theorem handlePacket_again (request : packet.code = codeRequest)
    (answered : exec (handlePacket packet) self = (.ok action, next)) :
    exec (handlePacket packet) next = (.ok action, next) ∧ next.consults packet = none := by
  rw [handlePacket_request request] at answered ⊢
  by_cases cached : self.Cached packet
  · obtain ⟨response, held⟩ := Option.isSome_iff_exists.mp cached.2
    rw [handleRequest_cached cached.1 held] at answered
    cases answered
    exact ⟨handleRequest_cached cached.1 held, if_neg fun asked => asked.2.2.2 cached⟩
  · rw [handleRequest_uncached cached] at answered
    have ends : Ends (respond packet) self _ := respond_answered
    rw [Ends, answered] at ends
    have outcome : self.Answered packet action next := ends action rfl
    rcases outcome with ⟨nak, rfl, rfl⟩ | ⟨response, rfl, last, held⟩
    · refine ⟨(handleRequest_uncached cached).trans answered, if_neg fun asked => ?_⟩
      rw [nak] at asked
      exact absurd asked.2.1 (by decide)
    · refine ⟨handleRequest_cached last held, if_neg fun asked => asked.2.2.2 ⟨last, ?_⟩⟩
      rw [held]
      rfl

theorem converse_replicate (settled : exec (handlePacket packet) self = (.ok action, self))
    (silent : self.consults packet = none) (copies : Nat) (packets : List EapPacket) :
    self.converse (List.replicate copies packet ++ packets) =
      (List.replicate copies ⟨.ok action, none⟩ ++ (self.converse packets).1, (self.converse packets).2) := by
  induction copies with
  | zero => rfl
  | succ copies ih => rw [List.replicate_succ, List.cons_append, converse, settled, ih, silent]; rfl

end

section Sample

attribute [local instance] flightTls

end Sample

end Shuli.Core.EapPeer
