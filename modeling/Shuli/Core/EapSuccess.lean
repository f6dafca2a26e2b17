import Shuli.Core.Eap

/-!
When an EAP-Success is accepted. The peer accepts it as soon as the method reports its success
indication, and the EAP-TLS method reports one also while no TLS 1.3 connection exists. The
acceptance is tied to a completed method exactly when the connection has negotiated TLS 1.3 and
an indication that was read left an exported MSK behind.
-/

namespace Shuli.Core

open Fallible

/-- What the TLS library, configured for TLS 1.3 only, documents: application data is delivered
on a connection that has negotiated TLS 1.3, and a negotiated version stays. -/
class LawfulTls [Tls] : Prop where
  plain_version : ∀ conn plain, (Tls.readPlain conn).1 = .ok plain → plain ≠ [] →
    Tls.protocolVersion (Tls.readPlain conn).2 = some .tlsV1_3
  readTls_version : ∀ conn data, Tls.protocolVersion conn = some .tlsV1_3 →
    Tls.protocolVersion (Tls.readTls conn data).2 = some .tlsV1_3
  processNewPackets_version : ∀ conn, Tls.protocolVersion conn = some .tlsV1_3 →
    Tls.protocolVersion (Tls.processNewPackets conn).2 = some .tlsV1_3
  readPlain_version : ∀ conn, Tls.protocolVersion conn = some .tlsV1_3 →
    Tls.protocolVersion (Tls.readPlain conn).2 = some .tlsV1_3
  writeTls_version : ∀ conn, Tls.protocolVersion conn = some .tlsV1_3 →
    Tls.protocolVersion (Tls.writeTls conn).2 = some .tlsV1_3

section

variable [Tls]

namespace EapTlsMethod

/-- The indication was read from a connection that negotiated TLS 1.3. -/
def IndicationVersioned (self : EapTlsMethod) : Prop :=
  self.protectedSuccess = true → self.version = some .tlsV1_3

theorem exec_onConn {α : Type} (call : Tls.Conn → Except WifiError α × Tls.Conn) (self : EapTlsMethod) :
    exec (onConn call) self = match self.conn with
      | none => (.error tlsDataBeforeStart, self)
      | some conn => ((call conn).1, { self with conn := some (call conn).2 }) := by
  simp only [onConn, exec_bind, exec_get]
  cases self.conn <;> rfl

theorem onConn_keeps {α : Type} {call : Tls.Conn → Except WifiError α × Tls.Conn}
    (stays : ∀ conn, Tls.protocolVersion conn = some .tlsV1_3 → Tls.protocolVersion (call conn).2 = some .tlsV1_3) :
    Keeps IndicationVersioned (onConn call) := by
  intro self before
  rw [exec_onConn]
  cases opened : self.conn with
  | none => exact before
  | some conn =>
    intro indicated
    have negotiated := before indicated
    rw [version, opened] at negotiated
    exact stays conn negotiated

theorem IndicationVersioned.of_same {self other : EapTlsMethod} (before : self.IndicationVersioned)
    (conn : other.conn = self.conn) (indication : other.protectedSuccess = self.protectedSuccess) :
    other.IndicationVersioned := by
  intro indicated
  rw [version, conn]
  exact before (indication ▸ indicated)

theorem nextTxFragment_keeps : Keeps IndicationVersioned nextTxFragment := by
  refine Keeps.bind Keeps.get fun self => ?_
  refine Keeps.skip fun _ => ?_
  refine Keeps.ite (fun _ => ?_) fun _ => ?_
  · exact Keeps.bind (Keeps.modify fun _ before => before.of_same rfl rfl) fun _ => Keeps.pure _
  · exact Keeps.bind (Keeps.modify fun _ before => before.of_same rfl rfl) fun _ => Keeps.pure _

theorem queueTlsOutput_keeps (output : Octets) :
    Keeps IndicationVersioned (queueTlsOutput output) :=
  Keeps.skip fun _ => Keeps.modify fun _ before => before.of_same rfl rfl

/-- The connection is created only while none exists, so no indication has been read yet. -/
theorem startConnection_keeps (flags : UInt8) :
    Keeps IndicationVersioned (startConnection flags) := by
  have checked : Keeps IndicationVersioned (do
      if (← get).conn.isNone then throw tlsDataBeforeStart : Method Unit) :=
    Keeps.bind Keeps.get fun _ => Keeps.ite (fun _ => Keeps.throw _) fun _ => Keeps.pure _
  intro self before
  simp only [startConnection, exec_bind, exec_get]
  by_cases fresh : flags &&& eapTlsFlagStart ≠ 0 ∧ self.conn.isNone = true
  · have silent : self.protectedSuccess = false := by
      by_contra indicated
      have negotiated := before (by simpa using indicated)
      simp [version, Option.isNone_iff_eq_none.mp fresh.2] at negotiated
    rw [if_pos fresh]
    cases Tls.connect self.config self.serverName with
    | error e => exact before
    | ok conn =>
      exact checked { self with conn := some conn } fun indicated => by
        simp [silent] at indicated
  · rw [if_neg fresh]
    exact checked self before

theorem announceLength_keeps (flags : UInt8) (body : Octets) :
    Keeps IndicationVersioned (announceLength flags body) := by
  refine Keeps.ite (fun _ => ?_) fun _ => Keeps.pure _
  refine Keeps.ite (fun _ => Keeps.throw _) fun _ => ?_
  refine Keeps.ite (fun _ => Keeps.throw _) fun _ => ?_
  refine Keeps.bind Keeps.get fun _ => ?_
  refine Keeps.ite (fun _ => Keeps.throw _) fun _ => ?_
  exact Keeps.modify fun _ before => before.of_same rfl rfl

theorem dropFragments_keeps : Keeps IndicationVersioned dropFragments :=
  Keeps.modify fun _ before => before.of_same rfl rfl

theorem addFragment_keeps (flags : UInt8) (data : Octets) :
    Keeps IndicationVersioned (addFragment flags data) := by
  refine Keeps.bind Keeps.get fun self => ?_
  refine Keeps.ite (fun _ => Keeps.bind dropFragments_keeps fun _ => Keeps.throw _) fun _ => ?_
  refine Keeps.bind (Keeps.modify fun _ before => before.of_same rfl rfl) fun _ => ?_
  refine Keeps.ite (fun _ => ?_) fun _ => ?_
  · exact Keeps.bind (Keeps.modify fun _ before => before.of_same rfl rfl) fun _ => Keeps.pure _
  · exact Keeps.ite (fun _ => Keeps.bind dropFragments_keeps fun _ => Keeps.throw _)
      fun _ => Keeps.pure _

theorem exportMsk_keeps : Keeps IndicationVersioned exportMsk := by
  refine Keeps.bind Keeps.get fun self => ?_
  cases self.conn with
  | none => exact Keeps.throw _
  | some conn =>
    refine Keeps.ite (fun _ => Keeps.bind (Keeps.liftM _) fun _ => ?_) fun _ => Keeps.pure _
    exact Keeps.modify fun _ before => before.of_same rfl rfl

variable [LawfulTls]

theorem readPlain_meets : Meets IndicationVersioned (onConn Tls.readPlain)
    (orElse (fun plain self => self.IndicationVersioned ∧ (plain ≠ [] → self.version = some .tlsV1_3))
      fun _ => IndicationVersioned) := by
  intro self before
  have kept := onConn_keeps LawfulTls.readPlain_version self before
  rw [exec_onConn] at kept ⊢
  cases opened : self.conn with
  | none => exact before
  | some conn =>
    simp only [opened] at kept ⊢
    cases read : (Tls.readPlain conn).1 with
    | error e => exact kept
    | ok plain => exact ⟨kept, fun some => LawfulTls.plain_version conn plain read some⟩

theorem feedTls_keeps (bound : Nat) : Keeps IndicationVersioned (feedTls bound) := by
  induction bound with
  | zero => exact Keeps.pure _
  | succ bound ih =>
    refine Keeps.bind Keeps.get fun self => ?_
    refine Keeps.skip fun _ => ?_
    refine Keeps.bind (onConn_keeps fun conn => LawfulTls.readTls_version conn _) fun used => ?_
    refine Keeps.skip fun _ => ?_
    refine Keeps.bind (Keeps.modify fun _ before => before.of_same rfl rfl) fun _ => ?_
    refine Keeps.bind (onConn_keeps LawfulTls.processNewPackets_version) fun _ => ?_
    refine Meets.bind _ readPlain_meets fun plain => ?_
    -- The indication is recorded only for data, hence on a TLS 1.3 connection.
    intro s ⟨kept, versioned⟩
    by_cases indication : plain = [0]
    · simp only [if_pos indication]
      exact ih { s with protectedSuccess := true } fun _ => versioned (by simp [indication])
    · simp only [if_neg indication]
      exact ih s kept

theorem handleRequest_keeps (body : Octets) : Keeps IndicationVersioned (handleRequest body) := by
  refine Keeps.bind (Keeps.liftM _) fun ⟨flags, data⟩ => ?_
  refine Keeps.bind (startConnection_keeps flags) fun _ => ?_
  refine Keeps.ite (fun _ => nextTxFragment_keeps) fun _ => ?_
  refine Keeps.bind (announceLength_keeps flags body) fun _ => ?_
  refine Keeps.bind (addFragment_keeps flags data) fun complete => ?_
  refine Keeps.skip fun _ => ?_
  have finished : Keeps IndicationVersioned (do
      let out ← onConn Tls.writeTls
      exportMsk
      queueTlsOutput out
      nextTxFragment : Method Octets) :=
    Keeps.bind (onConn_keeps LawfulTls.writeTls_version) fun out =>
      Keeps.bind exportMsk_keeps fun _ =>
        Keeps.bind (queueTlsOutput_keeps out) fun _ => nextTxFragment_keeps
  refine Keeps.bind Keeps.get fun self => ?_
  refine Keeps.ite (fun _ => ?_) fun _ => finished
  refine Keeps.bind (Keeps.modify fun _ before => before.of_same rfl rfl) fun _ => ?_
  exact Keeps.bind Keeps.get fun s => Keeps.bind (feedTls_keeps _) fun _ => finished

end EapTlsMethod

namespace EapPeer

/-- A method is installed, and its indication was read under TLS 1.3. -/
def MethodVersioned (self : EapPeer) : Prop :=
  ∃ method, self.method = some method ∧ method.IndicationVersioned

def Completed (self : EapPeer) : Prop :=
  ∃ method, self.method = some method ∧ method.msk.isSome = true ∧ method.protectedSuccess = true

/-- A Success that answers the last request, or comes before any request. -/
def CurrentSuccess (self : EapPeer) (packet : EapPacket) : Prop :=
  packet.isSuccess = true ∧ self.isStale packet = false

/-- TLS 1.3 is negotiated, and an indication that was read left an exported MSK behind. -/
def Guarded (self : EapPeer) : Prop :=
  ∃ method, self.method = some method ∧ method.version = some .tlsV1_3 ∧
    (method.protectedSuccess = true → method.msk.isSome = true)

variable {self : EapPeer} {method : EapTlsMethod}

theorem completed_iff (installed : self.method = some method) :
    self.Completed ↔ method.msk.isSome = true ∧ method.protectedSuccess = true := by
  simp [Completed, installed]

theorem guarded_iff (installed : self.method = some method) :
    self.Guarded ↔ method.version = some .tlsV1_3 ∧
      (method.protectedSuccess = true → method.msk.isSome = true) := by
  simp [Guarded, installed]

theorem respond_not_success (packet : EapPacket) :
    Meets (fun _ => True) (respond packet) fun result _ => result ≠ .ok .success := by
  unfold respond
  cases packet.type with
  | none => exact fun _ _ accepted => by cases accepted
  | some type =>
    refine Meets.bind (fun _ _ => True) ?_ fun response => ?_
    · intro s _
      rcases exec (answer packet type) s with ⟨_ | _, _⟩
      · exact fun accepted => by cases accepted
      · trivial
    · intro s _ accepted
      cases response <;> cases accepted

theorem handleRequest_not_success (packet : EapPacket) (self : EapPeer) :
    (exec (handleRequest packet) self).1 ≠ .ok .success := by
  simp only [handleRequest, exec_bind, exec_get]
  cases self.lastResponse with
  | none => exact respond_not_success packet self trivial
  | some response =>
    by_cases repeated : self.lastRequest = some packet
    · simp [if_pos repeated]
    · simpa only [if_neg repeated] using respond_not_success packet self trivial

theorem exec_currentSuccess {packet : EapPacket}
    (installed : self.method = some method) (current : self.CurrentSuccess packet) :
    exec (handlePacket packet) self =
      (.ok (if method.successIndicationReceived then .success else .wait), self) := by
  obtain ⟨success, fresh⟩ := current
  simp only [handlePacket, exec_bind, exec_get, fresh, success, installed,
    Option.any_some]
  cases method.successIndicationReceived <;> rfl

theorem not_success_of_not_current {packet : EapPacket} (other : ¬self.CurrentSuccess packet) :
    (exec (handlePacket packet) self).1 ≠ .ok .success := by
  simp only [handlePacket, exec_bind, exec_get]
  by_cases result : packet.isSuccess = true ∨ packet.isFailure = true
  · rw [if_pos result]
    by_cases stale : self.isStale packet = true
    · simp [stale]
    · have unsuccessful : packet.isSuccess ≠ true := fun success => other ⟨success, by simpa using stale⟩
      simp [stale, unsuccessful]
  · rw [if_neg result]
    by_cases response : packet.code ≠ codeRequest
    · simp [if_pos response]
    · rw [if_neg response]
      exact handleRequest_not_success packet self

theorem MethodVersioned.of_same {self other : EapPeer} (before : self.MethodVersioned)
    (method : other.method = self.method) : other.MethodVersioned := by
  obtain ⟨active, installed, versioned⟩ := before
  exact ⟨active, method.trans installed, versioned⟩

theorem askMethod_keeps [LawfulTls] (body : Octets) : Keeps MethodVersioned (askMethod body) := by
  intro self before
  obtain ⟨method, installed, versioned⟩ := before
  simp only [askMethod, exec_bind, exec_get, installed]
  exact ⟨_, rfl, EapTlsMethod.handleRequest_keeps body method versioned⟩

theorem answer_keeps [LawfulTls] (packet : EapPacket) (type : UInt8) :
    Keeps MethodVersioned (answer packet type) := by
  refine Keeps.bind Keeps.get fun self => ?_
  refine Keeps.skip fun _ => ?_
  refine Keeps.skip fun _ => ?_
  refine Keeps.skip fun _ => ?_
  refine Keeps.ite (fun _ => ?_) fun _ => Keeps.pure _
  exact Keeps.bind (askMethod_keeps packet.body) fun _ => Keeps.pure _

theorem respond_keeps [LawfulTls] (packet : EapPacket) : Keeps MethodVersioned (respond packet) := by
  unfold respond
  cases packet.type with
  | none => exact Keeps.throw _
  | some type =>
    refine Keeps.bind (answer_keeps packet type) fun response => ?_
    cases response with
    | none => exact Keeps.pure _
    | some response =>
      exact Keeps.bind (Keeps.modify fun _ before => before.of_same rfl) fun _ => Keeps.pure _

theorem handleRequest_keeps [LawfulTls] (packet : EapPacket) :
    Keeps MethodVersioned (handleRequest packet) := by
  refine Keeps.bind Keeps.get fun self => ?_
  cases self.lastResponse with
  | none => exact respond_keeps packet
  | some response => exact Keeps.skip fun _ => respond_keeps packet

theorem handlePacket_keeps [LawfulTls] (packet : EapPacket) :
    Keeps MethodVersioned (handlePacket packet) := by
  refine Keeps.bind Keeps.get fun self => ?_
  refine Keeps.ite (fun _ => ?_) fun _ => ?_
  · refine Keeps.skip fun _ => ?_
    refine Keeps.ite (fun _ => ?_) fun _ => Keeps.pure _
    exact Keeps.skip fun _ => Keeps.pure _
  · exact Keeps.skip fun _ => handleRequest_keeps packet

theorem feed_versioned [LawfulTls] (before : self.MethodVersioned)
    (packets : List EapPacket) : (self.feed packets).MethodVersioned := by
  refine Reachable.invariant ⟨packets, rfl⟩ (fun peer packet kept => ?_) before
  exact handlePacket_keeps packet peer kept

theorem fresh_versioned {config : Tls.ClientConfig} {serverName : String}
    (created : EapTlsMethod.new config serverName = .ok method) (identity : String) :
    ((new identity).setMethod method).MethodVersioned := by
  refine ⟨method, rfl, fun indicated => ?_⟩
  obtain ⟨_, _, made⟩ := Except.bind_eq_ok.mp created
  cases made
  simp at indicated

/-- After any packets, an EAP-Success is accepted only for a completed method exactly when a
current Success finds TLS 1.3 negotiated and no indication without an MSK. -/
theorem success_completed_iff [LawfulTls] {config : Tls.ClientConfig} {serverName : String}
    {method : EapTlsMethod} (created : EapTlsMethod.new config serverName = .ok method)
    (identity : String) (packets : List EapPacket) (packet : EapPacket) :
    let peer := ((new identity).setMethod method).feed packets
    ((exec (handlePacket packet) peer).1 = .ok .success →
        (exec (handlePacket packet) peer).2.Completed) ↔
      (peer.CurrentSuccess packet → peer.Guarded) := by
  intro peer
  obtain ⟨active, installed, versioned⟩ :=
    feed_versioned (fresh_versioned created identity) packets
  by_cases current : peer.CurrentSuccess packet
  · rw [exec_currentSuccess installed current, completed_iff installed, guarded_iff installed]
    by_cases negotiated : active.version = some .tlsV1_3
    · cases indicated : active.protectedSuccess <;>
        simp [EapTlsMethod.successIndicationReceived, negotiated, indicated, current]
    · -- Without TLS 1.3 the method lets every Success through, and no indication can be there.
      have silent : active.protectedSuccess ≠ true := fun indicated => negotiated (versioned indicated)
      have passed : active.successIndicationReceived = true := by
        unfold EapTlsMethod.successIndicationReceived
        split
        · contradiction
        · rfl
      simp [passed, silent, negotiated, current]
  · exact iff_of_true (fun accepted => absurd accepted (not_success_of_not_current current))
      fun found => absurd found current

end EapPeer

end

/-- A TLS library that counts flights: the first one ends the handshake, the second one carries
the protected success indication. -/
@[reducible] def flightTls : Tls where
  ClientConfig := Unit
  Conn := Nat
  loadConfig := fun _ _ _ => .ok ()
  checkServerName := fun _ => .ok ()
  connect := fun _ _ => .ok 0
  readTls := fun conn data => (.ok data.length, conn)
  processNewPackets := fun conn => (.ok (), conn + 1)
  readPlain := fun conn => (.ok (if conn = 2 then [0] else []), conn)
  writeTls := fun conn => (.ok [22], conn)
  isHandshaking := fun conn => conn = 0
  protocolVersion := fun conn => if conn = 0 then none else some .tlsV1_3
  exportKeyingMaterial := fun _ => .ok (List.replicate 128 7)

section

attribute [local instance] flightTls

theorem flightTls_lawful : LawfulTls where
  plain_version := by
    intro (conn : Nat) plain read some
    by_cases second : conn = 2
    · subst second
      rfl
    · have silent : plain = [] := by
        simpa [Tls.readPlain, second] using read.symm
      exact absurd silent some
  readTls_version := fun _ _ negotiated => negotiated
  processNewPackets_version := fun _ _ => rfl
  readPlain_version := fun _ negotiated => negotiated
  writeTls_version := fun _ negotiated => negotiated

def flightMethod : EapTlsMethod where
  conn := none
  config := ()
  serverName := "server"
  rxBuf := []
  rxFragments := []
  rxExpectedLen := none
  txQueue := []
  txOffset := 0
  txTotal := 0
  maxTlsFragment := 1200
  msk := none
  protectedSuccess := false

def flightPeer : EapPeer := (EapPeer.new "peer").setMethod flightMethod

def tlsRequest (identifier : UInt8) (body : Octets) : EapPacket := ⟨codeRequest, identifier, some typeTls, body⟩

def successPacket (identifier : UInt8) : EapPacket := ⟨codeSuccess, identifier, none, []⟩

/-- A whole session: Start, the server's flight, the indication, and then the Success. -/
theorem success_completed_session :
    (exec (EapPeer.handlePacket (successPacket 3))
        (flightPeer.feed [tlsRequest 1 [0x20], tlsRequest 2 [0, 22], tlsRequest 3 [0, 23]])).1 =
      .ok .success ∧
    (exec (EapPeer.handlePacket (successPacket 3))
        (flightPeer.feed [tlsRequest 1 [0x20], tlsRequest 2 [0, 22], tlsRequest 3 [0, 23]])).2.Completed :=
  have accepted : (exec (EapPeer.handlePacket (successPacket 3))
      (flightPeer.feed [tlsRequest 1 [0x20], tlsRequest 2 [0, 22], tlsRequest 3 [0, 23]])).1 =
      .ok .success := rfl
  haveI := flightTls_lawful
  ⟨accepted, (@EapPeer.success_completed_iff _ _ () "server" flightMethod rfl "peer" _ _).mpr
    (fun _ => ⟨_, rfl, rfl, fun _ => rfl⟩) accepted⟩

/-- A Success that opens the conversation is accepted, with no MSK and no indication. -/
theorem success_before_any_request :
    ¬((exec (EapPeer.handlePacket (successPacket 0)) (flightPeer.feed [])).1 = .ok .success →
      (exec (EapPeer.handlePacket (successPacket 0)) (flightPeer.feed [])).2.Completed) := by
  intro claimed
  obtain ⟨method, installed, exported, _⟩ := claimed rfl
  cases installed
  cases exported

end

end Shuli.Core
