import Shuli.Core.EapSuccess

/-!
Fragments of TLS messages (RFC 5216 section 2.1.5). A message that one side cuts into fragments is put together
by the other side, which acknowledges all fragments but the last. Whatever arrives, the buffer of fragments is
bounded, and a completed or a refused message leaves it empty.
-/

namespace Shuli.Core.EapTlsMethod

open Fallible

section

variable [Tls]

inductive Received
  | acknowledgement
  | fragment
  | message (octets : Octets)
  deriving DecidableEq, Repr

def openBody (body : Octets) : Method (Option (UInt8 × Octets)) := do
  let (flags, data) ← parseTlsMessage body
  startConnection flags
  if flags = 0 ∧ data.isEmpty then return none
  announceLength flags body
  return some (flags, data)

def reassemble (body : Octets) : Method Received := do
  match ← openBody body with
  | none => return .acknowledgement
  | some (flags, data) =>
    if !(← addFragment flags data) then return .fragment
    let message := (← get).rxFragments
    modify fun self => { self with rxFragments := [] }
    return .message message

def consume (message : Octets) : Method Octets := do
  if !message.isEmpty then
    modify fun self => { self with rxBuf := self.rxBuf ++ message }
    feedTls (← get).rxBuf.length
  let out ← onConn Tls.writeTls
  exportMsk
  queueTlsOutput out
  nextTxFragment

def Received.answer : Received → Method Octets
  | .acknowledgement => nextTxFragment
  | .fragment => return buildTlsMessage []
  | .message octets => consume octets

theorem handleRequest_eq (body : Octets) (self : EapTlsMethod) :
    exec (handleRequest body) self = exec (reassemble body >>= Received.answer) self := by
  unfold handleRequest reassemble openBody
  rw [bind_assoc, bind_assoc]
  rw [exec_bind, exec_bind]
  rcases exec (liftM (parseTlsMessage body)) self with ⟨error | ⟨flags, data⟩, started⟩
  · rfl
  simp only [bind_assoc]
  rw [exec_bind, exec_bind]
  rcases exec (startConnection flags) started with ⟨error | _, opened⟩
  · rfl
  dsimp only
  by_cases acknowledged : flags = 0 ∧ data.isEmpty
  · rw [if_pos acknowledged, if_pos acknowledged]
    rfl
  rw [if_neg acknowledged, if_neg acknowledged, bind_assoc, exec_bind, exec_bind]
  rcases exec (announceLength flags body) opened with ⟨error | _, announced⟩
  · rfl
  simp only [pure_bind, bind_assoc]
  rw [exec_bind, exec_bind]
  rcases exec (addFragment flags data) announced with ⟨error | complete, added⟩
  · rfl
  cases complete with
  | false => rfl
  | true =>
    obtain ⟨conn, config, serverName, rxBuf, fragments, expected, txQueue, txOffset, txTotal, size, msk,
      protectedSuccess⟩ := added
    cases fragments with
    | nil => rfl
    | cons octet octets => rfl

/-! ### The sending side -/

def fragment (size : Nat) (output : Octets) (offset : Nat) : Octets :=
  let flags := (if offset = 0 then eapTlsFlagL else 0) |||
    (if size < output.length - offset then eapTlsFlagM else 0)
  [flags] ++ (if offset = 0 then be32 (UInt32.ofNat output.length) else []) ++ (output.drop offset).take size

def sendFragments : Nat → Method (List Octets)
  | 0 => return []
  | count + 1 => return (← nextTxFragment) :: (← sendFragments count)

def receiveAll : List Octets → Method (List Received)
  | [] => return []
  | body :: bodies => return (← reassemble body) :: (← receiveAll bodies)

variable {output : Octets} {offset size : Nat}

def sending (self : EapTlsMethod) (output : Octets) (offset : Nat) : EapTlsMethod :=
  { self with txQueue := output, txOffset := offset, txTotal := output.length }

def holding (self : EapTlsMethod) (output : Octets) (offset : Nat) : EapTlsMethod :=
  { self with
    rxFragments := output.take offset
    rxExpectedLen := if offset = 0 then none else some (UInt32.ofNat output.length) }

def awaiting (self : EapTlsMethod) (output : Octets) (offset : Nat) : EapTlsMethod :=
  { self with rxFragments := output.take offset, rxExpectedLen := some (UInt32.ofNat output.length) }

theorem nextTxFragment_sending (self : EapTlsMethod) (inside : offset < output.length) :
    exec nextTxFragment (self.sending output offset) =
      (.ok (fragment self.maxTlsFragment output offset),
        if self.maxTlsFragment < output.length - offset then self.sending output (offset + self.maxTlsFragment)
        else { self with txQueue := [], txOffset := 0, txTotal := 0 }) := by
  have pending : ¬((self.sending output offset).txQueue.isEmpty ∨
      (self.sending output offset).txOffset ≥ (self.sending output offset).txQueue.length) := by
    simp only [sending, List.isEmpty_iff, not_or, not_le]
    exact ⟨List.ne_nil_of_length_pos (by omega), inside⟩
  rw [nextTxFragment, exec_get_bind, if_neg pending]
  simp only [sending, fragment]
  by_cases more : self.maxTlsFragment < output.length - offset
  · have take : min (output.length - offset) self.maxTlsFragment = self.maxTlsFragment := by omega
    simp only [take, if_pos more]
    rfl
  · have take : min (output.length - offset) self.maxTlsFragment = output.length - offset := by omega
    have whole : (output.drop offset).length ≤ output.length - offset := (List.length_drop ..).le
    have rest := (List.take_of_length_le whole).trans (List.take_of_length_le (whole.trans (not_lt.mp more))).symm
    simp only [take, lt_irrefl, if_neg more, rest]
    rfl

/-! ### The receiving side -/

theorem startConnection_open (self : EapTlsMethod) (opened : self.conn.isSome) (flags : UInt8) :
    exec (startConnection flags) self = (.ok (), self) := by
  obtain ⟨conn, held⟩ := Option.isSome_iff_exists.mp opened
  rw [startConnection, exec_get_bind, if_neg (by simp [held])]
  change exec (if self.conn.isNone then throw tlsDataBeforeStart else pure ()) self = _
  rw [if_neg (by simp [held])]
  rfl

variable {self : EapTlsMethod}

/-- The first fragment announces the length of the whole message. -/
theorem announceLength_first {flags : UInt8} {data : Octets}
    (first : flags &&& eapTlsFlagL ≠ 0) (bounded : output.length ≤ 65535) (fresh : self.rxExpectedLen = none) :
    exec (announceLength flags (flags :: (be32 (UInt32.ofNat output.length) ++ data))) self =
      (.ok (), { self with rxExpectedLen := some (UInt32.ofNat output.length) }) := by
  have announced : beNat ((be32 (UInt32.ofNat output.length) ++ data).take 4) = output.length := by
    rw [List.take_left' (be32_length _), be32, beNat_beOctets, UInt32.toNat_ofNat']
    omega
  have long : ¬(flags :: (be32 (UInt32.ofNat output.length) ++ data)).length < 5 := by
    simp only [List.length_cons, List.length_append, be32_length]
    omega
  rw [announceLength, if_pos first, if_neg long]
  simp only [List.drop_succ_cons, List.drop_zero, announced]
  rw [if_neg (not_lt.mpr bounded), exec_get_bind, if_neg (by simp [fresh])]
  rfl

/-- The announced length is reached by the fragment without the M bit. -/
theorem addFragment_awaiting (self : EapTlsMethod) {flags : UInt8} (inside : offset < output.length)
    (bounded : output.length ≤ 65535) (last : flags &&& eapTlsFlagM = 0 ↔ ¬size < output.length - offset) :
    exec (addFragment flags ((output.drop offset).take size)) (self.awaiting output offset) =
      if size < output.length - offset then (.ok false, self.awaiting output (offset + size))
      else (.ok true, { self with rxFragments := output, rxExpectedLen := none }) := by
  have limit : ((self.awaiting output offset).rxExpectedLen.map UInt32.toNat).getD 65535 = output.length := by
    rw [awaiting, Option.map_some, Option.getD_some, UInt32.toNat_ofNat']
    omega
  have joined : (self.awaiting output offset).rxFragments ++ (output.drop offset).take size =
      output.take (offset + size) := List.take_add.symm
  have room : ¬(self.awaiting output offset).rxFragments.length + ((output.drop offset).take size).length >
      output.length := by
    rw [← List.length_append, joined, List.length_take]
    omega
  rw [addFragment, exec_get_bind, limit, if_neg room, exec_modify_bind, joined]
  by_cases more : size < output.length - offset
  · rw [if_pos more, if_neg fun both => last.mp both.1 more, if_neg fun ended => last.mp ended more]
    rfl
  · rw [if_neg more, List.take_of_length_le (by omega)]
    rw [if_pos ⟨last.mpr more, by simp [awaiting]⟩]
    rfl

/-- A receiver that holds what came before the fragment takes it, once the length is announced. -/
theorem reassemble_announced {flags : UInt8} {body : Octets} (opened : self.conn.isSome)
    (parsed : parseTlsMessage body = .ok (flags, (output.drop offset).take size))
    (announced : exec (announceLength flags body) (self.holding output offset) =
      (.ok (), self.awaiting output offset))
    (last : flags &&& eapTlsFlagM = 0 ↔ ¬size < output.length - offset)
    (positive : 0 < size) (inside : offset < output.length) (bounded : output.length ≤ 65535) :
    exec (reassemble body) (self.holding output offset) =
      if size < output.length - offset then (.ok .fragment, self.holding output (offset + size))
      else (.ok (.message output), self.holding output 0) := by
  have filled : ¬(flags = 0 ∧ ((output.drop offset).take size).isEmpty) := by
    rintro ⟨-, empty⟩
    have length := congrArg List.length (List.isEmpty_iff.mp empty)
    rw [List.length_take, List.length_drop, List.length_nil] at length
    omega
  have body : exec (openBody body) (self.holding output offset) =
      (.ok (some (flags, (output.drop offset).take size)), self.awaiting output offset) := by
    rw [openBody, parsed, exec_liftM_bind]
    dsimp only
    rw [exec_bind_ok (startConnection_open (self.holding output offset) opened flags), if_neg filled,
      exec_bind_ok announced]
    rfl
  rw [reassemble, exec_bind_ok body, exec_bind, addFragment_awaiting self inside bounded last]
  by_cases more : size < output.length - offset
  · rw [if_pos more, if_pos more, holding, if_neg (by omega)]
    rfl
  · rw [if_neg more, if_neg more]
    rfl

theorem reassemble_fragment (opened : self.conn.isSome) (positive : 0 < size)
    (inside : offset < output.length) (bounded : output.length ≤ 65535) :
    exec (reassemble (fragment size output offset)) (self.holding output offset) =
      if size < output.length - offset then (.ok .fragment, self.holding output (offset + size))
      else (.ok (.message output), self.holding output 0) := by
  have last {flag : UInt8} (known : flag = eapTlsFlagL ∨ flag = 0) :
      (flag ||| (if size < output.length - offset then eapTlsFlagM else 0)) &&& eapTlsFlagM = 0 ↔
        ¬size < output.length - offset := by
    rcases known with rfl | rfl <;> by_cases more : size < output.length - offset <;>
      simp only [more] <;> decide
  by_cases first : offset = 0
  · have flag : (eapTlsFlagL ||| (if size < output.length - offset then eapTlsFlagM else 0)) &&& eapTlsFlagL ≠ 0 := by
      split <;> decide
    rw [fragment, if_pos first, if_pos first]
    refine reassemble_announced opened ?_ ?_ (last (.inl rfl)) positive inside bounded
    · rw [parseTlsMessage.eq_def]
      simp only [List.cons_append, if_pos flag]
      simp
    · have fresh : (self.holding output offset).rxExpectedLen = none := if_pos first
      exact announceLength_first flag bounded fresh
  · have flag : ¬(0 ||| (if size < output.length - offset then eapTlsFlagM else 0)) &&& eapTlsFlagL ≠ 0 := by
      split <;> decide
    rw [fragment, if_neg first, if_neg first]
    refine reassemble_announced opened ?_ ?_ (last (.inr rfl)) positive inside bounded
    · rw [parseTlsMessage.eq_def]
      simp only [List.cons_append, List.nil_append, if_neg flag]
    · rw [announceLength, if_neg flag, holding, if_neg first]
      rfl

/-! ### Whole messages -/

theorem transport_from (sender : EapTlsMethod) {receiver : EapTlsMethod} (opened : receiver.conn.isSome)
    (positive : 0 < sender.maxTlsFragment) (bounded : output.length ≤ 65535) (count offset : Nat)
    (inside : offset + count * sender.maxTlsFragment < output.length)
    (enough : output.length ≤ offset + (count + 1) * sender.maxTlsFragment) :
    ∃ bodies, exec (sendFragments (count + 1)) (sender.sending output offset) =
        (.ok bodies, { sender with txQueue := [], txOffset := 0, txTotal := 0 }) ∧
      exec (receiveAll bodies) (receiver.holding output offset) =
        (.ok (List.replicate count .fragment ++ [.message output]), receiver.holding output 0) := by
  induction count generalizing offset with
  | zero =>
    have last : ¬sender.maxTlsFragment < output.length - offset := by omega
    refine ⟨[fragment sender.maxTlsFragment output offset], ?_, ?_⟩
    · rw [sendFragments, exec_bind_ok (nextTxFragment_sending sender (by omega)), if_neg last]
      rfl
    · rw [receiveAll, exec_bind_ok ((reassemble_fragment opened positive (by omega) bounded).trans (if_neg last))]
      rfl
  | succ count ih =>
    have scaled : (count + 1) * sender.maxTlsFragment = count * sender.maxTlsFragment + sender.maxTlsFragment :=
      Nat.succ_mul ..
    have more : sender.maxTlsFragment < output.length - offset := by omega
    obtain ⟨bodies, sent, received⟩ := ih (offset + sender.maxTlsFragment) (by omega) (by
      rw [Nat.succ_mul] at enough
      omega)
    refine ⟨fragment sender.maxTlsFragment output offset :: bodies, ?_, ?_⟩
    · rw [sendFragments, exec_bind_ok (nextTxFragment_sending sender (by omega)), if_pos more, exec_bind_ok sent]
      rfl
    · rw [receiveAll, exec_bind_ok ((reassemble_fragment opened positive (by omega) bounded).trans (if_pos more)),
        exec_bind_ok received]
      rfl

/-! ### Arbitrary requests -/

def Rx (P : Octets → Option UInt32 → Prop) (self : EapTlsMethod) : Prop := P self.rxFragments self.rxExpectedLen

def Idle : EapTlsMethod → Prop := Rx fun fragments expected => fragments = [] ∧ expected = none

def Bounded : EapTlsMethod → Prop :=
  Rx fun fragments expected => fragments.length ≤ 65535 ∧ ∀ len, expected = some len → len.toNat ≤ 65535

theorem Idle.bounded (idle : self.Idle) : self.Bounded :=
  ⟨by simp [idle.1], by simp [idle.2]⟩

def Refuses (self : EapTlsMethod) (body : Octets) : Prop :=
  ∃ flags data opened, exec (openBody body) self = (.ok (some (flags, data)), opened) ∧
    ¬(exec (addFragment flags data) opened).1.isOk

section

variable {P : Octets → Option UInt32 → Prop}

theorem onConn_rx {α : Type} (call : Tls.Conn → Except WifiError α × Tls.Conn) : Keeps (Rx P) (onConn call) := by
  intro self rx
  rw [exec_onConn]
  cases self.conn with
  | none => exact rx
  | some conn => exact rx

theorem feedTls_rx (bound : Nat) : Keeps (Rx P) (feedTls bound) := by
  induction bound with
  | zero => exact Keeps.pure _
  | succ bound ih =>
    refine Keeps.get_bind fun self _ => Keeps.skip fun _ => ?_
    refine Keeps.bind (onConn_rx _) fun used => Keeps.skip fun _ => ?_
    refine Keeps.bind (Keeps.modify fun _ rx => rx) fun _ => Keeps.bind (onConn_rx _) fun _ => ?_
    refine Keeps.bind (onConn_rx _) fun plain => Keeps.ite (fun _ => ?_) fun _ => ih
    exact Keeps.bind (Keeps.modify fun _ rx => rx) fun _ => ih

theorem exportMsk_rx : Keeps (Rx P) (exportMsk : Method Unit) := by
  refine Keeps.get_bind fun self _ => ?_
  split
  · exact Keeps.throw _
  · refine Keeps.ite (fun _ => ?_) fun _ => Keeps.pure _
    exact Keeps.bind (Keeps.liftM _) fun _ => Keeps.modify fun _ rx => rx

theorem nextTxFragment_rx : Keeps (Rx P) nextTxFragment := by
  refine Keeps.get_bind fun self _ => Keeps.skip fun _ => ?_
  refine Keeps.ite (fun _ => ?_) fun _ => ?_
  · exact Keeps.bind (Keeps.modify fun _ rx => rx) fun _ => Keeps.pure _
  · exact Keeps.bind (Keeps.modify fun _ rx => rx) fun _ => Keeps.pure _

theorem answer_rx (received : Received) : Keeps (Rx P) received.answer := by
  cases received with
  | acknowledgement => exact nextTxFragment_rx
  | fragment => exact Keeps.pure _
  | message octets =>
    have rest : Keeps (Rx P) (do
        let out ← onConn Tls.writeTls
        exportMsk
        queueTlsOutput out
        nextTxFragment) := by
      refine Keeps.bind (onConn_rx _) fun out => Keeps.bind exportMsk_rx fun _ => ?_
      refine Keeps.bind ?_ fun _ => nextTxFragment_rx
      exact Keeps.skip fun _ => Keeps.modify fun _ rx => rx
    refine Keeps.ite (fun _ => ?_) fun _ => rest
    refine Keeps.bind (Keeps.modify fun _ rx => rx) fun _ => Keeps.get_bind fun _ _ => ?_
    exact Keeps.bind (feedTls_rx _) fun _ => rest

theorem startConnection_rx (flags : UInt8) : Keeps (Rx P) (startConnection flags) := by
  have checked : Keeps (Rx P) (do if (← get).conn.isNone then throw tlsDataBeforeStart : Method Unit) :=
    Keeps.get_bind fun _ _ => Keeps.ite (fun _ => Keeps.throw _) fun _ => Keeps.pure _
  refine Keeps.get_bind fun self _ => Keeps.ite (fun _ => ?_) fun _ => checked
  exact Keeps.bind (Keeps.liftM _) fun _ => Keeps.bind (Keeps.modify fun _ rx => rx) fun _ => checked

end

theorem openBody_bounded (body : Octets) : Keeps Bounded (openBody body) := by
  refine Keeps.liftM_bind fun parsed _ => Keeps.bind (startConnection_rx _) fun _ => ?_
  refine Keeps.skip fun _ => Keeps.bind ?_ fun _ => Keeps.pure _
  refine Keeps.ite (fun _ => Keeps.ite (fun _ => Keeps.throw _) fun _ => ?_) fun _ => Keeps.pure _
  refine Keeps.ite (fun _ => Keeps.throw _) fun short => Keeps.get_bind fun _ _ => ?_
  refine Keeps.ite (fun _ => Keeps.throw _) fun _ => Keeps.modify fun _ bounded => ⟨bounded.1, ?_⟩
  intro len same
  rw [← Option.some.inj same]
  exact (Nat.mod_le _ _).trans (not_lt.mp short)

/-- A refused fragment leaves nothing behind, and the last one no announced length. -/
theorem addFragment_bounded (bounded : self.Bounded) (flags : UInt8) (data : Octets) :
    Ends (addFragment flags data) self fun result after => after.Bounded ∧
      (result = .ok true → after.rxExpectedLen = none) ∧ (¬result.isOk → after.Idle) := by
  have limited : (self.rxExpectedLen.map UInt32.toNat).getD 65535 ≤ 65535 := by
    cases announced : self.rxExpectedLen with
    | none => exact le_refl _
    | some len => exact bounded.2 len announced
  have refused (error : WifiError) (other : EapTlsMethod) :
      Ends (dropFragments >>= fun _ => throw error : Method Bool) other fun result after => after.Bounded ∧
        (result = .ok true → after.rxExpectedLen = none) ∧ (¬result.isOk → after.Idle) :=
    ⟨⟨Nat.zero_le _, nofun⟩, fun _ => rfl, fun _ => ⟨rfl, rfl⟩⟩
  apply Ends.get_bind
  apply Ends.ite
  · exact fun _ => refused _ _
  intro room
  have held : (self.rxFragments ++ data).length ≤ 65535 := by
    rw [List.length_append]
    omega
  apply Ends.modify_bind
  apply Ends.ite
  · exact fun _ => ⟨⟨held, nofun⟩, fun _ => rfl, fun failed => absurd rfl failed⟩
  intro _
  apply Ends.ite
  · exact fun _ => refused _ _
  · exact fun _ => ⟨⟨held, bounded.2⟩, nofun, fun failed => absurd rfl failed⟩

theorem reassemble_taken (bounded : self.Bounded) (body : Octets) :
    Ends (reassemble body) self fun result after => after.Bounded ∧
      ((∃ octets, result = .ok (.message octets)) ∨ self.Refuses body → after.Idle) := by
  have kept := openBody_bounded body self bounded
  rw [Ends, reassemble, exec_bind]
  rcases opens : exec (openBody body) self with ⟨error | opened, middle⟩ <;> rw [opens] at kept
  · refine ⟨kept, ?_⟩
    rintro (⟨_, same⟩ | ⟨_, _, _, same, _⟩)
    · cases same
    · cases opens.symm.trans same
  cases opened with
  | none =>
    refine ⟨kept, ?_⟩
    rintro (⟨_, same⟩ | ⟨_, _, _, same, _⟩)
    · cases same
    · cases opens.symm.trans same
  | some fragment =>
    obtain ⟨flags, data⟩ := fragment
    have added := addFragment_bounded kept flags data
    rw [Ends] at added
    dsimp only
    rw [exec_bind]
    rcases adds : exec (addFragment flags data) middle with ⟨error | complete, last⟩ <;> rw [adds] at added
    · exact ⟨added.1, fun _ => added.2.2 Bool.false_ne_true⟩
    have accepted : ¬self.Refuses body := by
      rintro ⟨_, _, _, same, failed⟩
      cases opens.symm.trans same
      rw [adds] at failed
      exact failed rfl
    cases complete with
    | false =>
      refine ⟨added.1, fun ended => ?_⟩
      obtain ⟨_, same⟩ := ended.resolve_right accepted
      cases same
    | true =>
      have idle : { last with rxFragments := [] }.Idle := ⟨rfl, added.2.1 rfl⟩
      exact ⟨idle.bounded, fun _ => idle⟩

theorem handleRequest_taken (bounded : self.Bounded) (body : Octets) :
    Ends (handleRequest body) self fun _ after => after.Bounded ∧
      ((∃ octets, (exec (reassemble body) self).1 = .ok (.message octets)) ∨ self.Refuses body → after.Idle) := by
  have taken := reassemble_taken bounded body
  rw [Ends, handleRequest_eq, exec_bind]
  rw [Ends] at taken
  generalize exec (reassemble body) self = outcome at taken ⊢
  obtain ⟨error | received, middle⟩ := outcome
  · exact taken
  · exact ⟨answer_rx received middle taken.1, fun ended => answer_rx received middle (taken.2 ended)⟩

def feed (self : EapTlsMethod) (bodies : List Octets) : EapTlsMethod :=
  runInputs (fun method body => after (handleRequest body) method) self bodies

end

section Sample

attribute [local instance] flightTls

end Sample

end Shuli.Core.EapTlsMethod
