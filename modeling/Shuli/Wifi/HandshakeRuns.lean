import Shuli.Runs
import Shuli.Wifi.Downgrade

/-!
Key safety of the 4-way handshake over arbitrary calls. What each of the three calls can do is said once;
the rest follows from it by induction over the calls. Frames are arbitrary: only the MIC ties them to
the keys.
-/

namespace Shuli.Wifi

open Fallible
open Shuli.Core (WifiError handshakeError)

section Outcomes

variable [Primitives] {s t : FourWayState}

namespace FourWayState

def Admits1 (s : FourWayState) (anonce : Block 32) (replayCounter : UInt64) : Prop :=
  (s.replayCounterSet → s.replayCounter < replayCounter) ∧
    (s.pendingReplayCounter = some replayCounter → s.duplicates anonce replayCounter)

instance (anonce : Block 32) (replayCounter : UInt64) : Decidable (s.Admits1 anonce replayCounter) :=
  inferInstanceAs (Decidable (_ ∧ _))

theorem computeMic_ok (kck : Block kckLen) (data : Octets) : ∃ mic, s.computeMic kck data = .ok mic := by
  unfold computeMic
  cases s.micAlg with
  | aesCmac => exact ⟨_, rfl⟩
  | hmacSha256 => exact ⟨_, rfl⟩
  | hmacSha1 => exact ⟨_, rfl⟩

variable [EapolCodec] {frame : EapolKeyFrame}

/-- The frame carries the MIC of this PTK. -/
def MicValid (s : FourWayState) (ptk : Ptk) (frame : EapolKeyFrame) : Prop :=
  s.computeMic (kckOf ptk) (EapolCodec.pduWithZeroedMic frame.raw) = .ok frame.keyMic

theorem verifyMic_valid {ptk : Ptk} {text : String}
    (verified : s.verifyMic (kckOf ptk) frame text = .ok ()) : s.MicValid ptk frame := by
  obtain ⟨expected, computed, rest⟩ := Except.bind_eq_ok.mp verified
  split at rest
  · rename_i same
    rw [MicValid, computed, same]
  · cases rest

theorem withMic_ne_error {kck : Block kckLen} {pdu : Octets} {error : WifiError} :
    s.withMic kck pdu ≠ .error error := by
  obtain ⟨mic, computed⟩ := s.computeMic_ok kck (EapolCodec.pduWithZeroedMic pdu)
  rw [withMic, computed]
  exact fun same => nomatch same

/-- Message 3 passes the checks that precede every change. -/
structure Admits3 (s : FourWayState) (frame : EapolKeyFrame) : Prop where
  pending : s.pendingReplayCounter.isSome
  newer : s.replayCounterSet → s.replayCounter < frame.replayCounter
  anonce : s.anonce = some frame.keyNonce
  mic : ∃ ptk, s.handshakePtk = some ptk ∧ s.MicValid ptk frame

/-- So does a group message. -/
structure AdmitsGroup (s : FourWayState) (frame : EapolKeyFrame) : Prop where
  newer : s.replayCounter < frame.replayCounter
  mic : ∃ ptk, s.ptk = some ptk ∧ s.MicValid ptk frame

end FourWayState

variable [EapolCodec] {frame : EapolKeyFrame}

inductive Message1Outcome (s : FourWayState) (fresh anonce : Block 32) (replayCounter : UInt64)
    (descVersion : UInt16) : Except WifiError Octets → FourWayState → Prop
  | refused {error : WifiError} (refusal : ¬s.Admits1 anonce replayCounter) :
      Message1Outcome s fresh anonce replayCounter descVersion (.error error) s
  | staged {msg2 : Octets} (admitted : s.Admits1 anonce replayCounter) :
      Message1Outcome s fresh anonce replayCounter descVersion (.ok msg2)
        (s.stage fresh anonce replayCounter descVersion)

theorem processMessage1_outcome (fresh anonce : Block 32) (replayCounter : UInt64)
    (descVersion : UInt16) : Ends (processMessage1 fresh anonce replayCounter descVersion) s
      (Message1Outcome s fresh anonce replayCounter descVersion) := by
  apply Ends.ite
  · exact fun old => .refused fun admitted => UInt64.not_le.mpr (admitted.1 old.1) old.2
  intro newer
  apply Ends.ite
  · exact fun reused => .refused fun admitted => reused.2 (admitted.2 reused.1)
  intro same
  have admitted : s.Admits1 anonce replayCounter := by
    constructor
    · exact fun set => UInt64.not_le.mp fun old => newer ⟨set, old⟩
    · exact fun pending => Decidable.not_not.mp fun other => same ⟨pending, other⟩
  apply Ends.modify_bind
  apply Ends.get_bind
  dsimp only
  generalize built : FourWayState.withMic _ _ _ = reply
  cases reply with
  | error e => exact absurd built FourWayState.withMic_ne_error
  | ok msg2 => exact .staged admitted

/-- The GTK that the key data of a frame carries under a KEK. -/
def openedGtk (kek : Option (Block kekLen)) (frame : EapolKeyFrame) : Option (UInt8 × Octets) :=
  kek.bind fun kek => (aesKeyUnwrap kek frame.keyData).toOption.bind fun plain =>
    (EapolCodec.parseKeyDataKdes plain).gtk

theorem openedGtk_of_ok {kek : Option (Block kekLen)} {text : String} {plain : Octets}
    (success : openKeyData s kek frame text = .ok plain) :
    openedGtk kek frame = (EapolCodec.parseKeyDataKdes plain).gtk := by
  obtain ⟨key, rfl, opened, -⟩ := openKeyData_eq_ok success
  rw [openedGtk, Option.bind_some, opened]
  rfl

/-- Without Extended Key ID no key id is selected. -/
def FourWayState.Unindexed (s : FourWayState) : Prop := s.extKeyId = false ∧ s.keyId = none

/-- What Message 3 leaves: nothing changes, or only the counters and the key id do, or the staged PTK is
live and the key data taken. -/
inductive Message3Outcome (s : FourWayState) (frame : EapolKeyFrame) :
    Except WifiError (Octets × KeyDataKdes) → FourWayState → Prop
  | refused {error : WifiError} : Message3Outcome s frame (.error error) s
  | unread {error : WifiError} {keyId : Option UInt8} {t : FourWayState}
      (left : t = (s.acceptCounter frame.replayCounter).endPending.setKeyId keyId)
      (admitted : s.Admits3 frame) (selected : s.Unindexed → keyId = none) :
      Message3Outcome s frame (.error error) t
  | promoted {msg4 : Octets} {kdes : KeyDataKdes} {keyId : Option UInt8} {t : FourWayState}
      (left : t =
        (((s.acceptCounter frame.replayCounter).endPending.setKeyId keyId).takeGtk kdes.gtk).promote)
      (admitted : s.Admits3 frame) (selected : s.Unindexed → keyId = none)
      (source : kdes.gtk = none ∨ kdes.gtk = openedGtk s.kek frame) :
      Message3Outcome s frame (.ok (msg4, kdes)) t

/-- What the key data of a verified Message 3 changes. -/
theorem takeKeyData_outcome : Ends (takeKeyData frame) s
    (orElse (fun kdes t => kdes.gtk = openedGtk s.kek frame ∧
        ∃ keyId, (s.Unindexed → keyId = none) ∧ t = (s.setKeyId keyId).takeGtk kdes.gtk)
      fun _ t => ∃ keyId, (s.Unindexed → keyId = none) ∧ t = s.setKeyId keyId) := by
  have unchanged : ∃ keyId, (s.Unindexed → keyId = none) ∧ s = s.setKeyId keyId :=
    ⟨s.keyId, fun unindexed => unindexed.2, rfl⟩
  apply Ends.get_bind
  apply Ends.liftM_bind
  · exact fun _ _ => unchanged
  intro plain opened
  apply Ends.liftM_bind
  · exact fun _ _ => unchanged
  intro keyId selected
  have unindexed : s.Unindexed → keyId = none := by
    intro unindexed
    rw [FourWayState.selectKeyId, unindexed.1] at selected
    exact (Except.ok.inj selected).symm
  apply Ends.modify_bind
  apply Ends.liftM_bind
  · exact fun _ _ => ⟨keyId, unindexed, rfl⟩
  intro _ _
  exact ⟨(openedGtk_of_ok opened).symm, keyId, unindexed, rfl⟩

theorem processMessage3_outcome : Ends (processMessage3 frame) s (Message3Outcome s frame) := by
  apply Ends.get_bind
  apply Ends.liftM_bind
  · exact fun _ _ => .refused
  intro pending started
  apply Ends.ite
  · exact fun _ => .refused
  intro newer
  apply Ends.ite
  · exact fun _ => .refused
  intro nonce
  apply Ends.liftM_bind
  · exact fun _ _ => .refused
  intro kck derived
  apply Ends.liftM_bind
  · exact fun _ _ => .refused
  rintro ⟨⟩ verified
  obtain ⟨ptk, held, rfl⟩ := Option.map_eq_some_iff.mp (orThrow_eq_ok.mp derived)
  have admitted : s.Admits3 frame := by
    refine ⟨?_, ?_, Decidable.not_not.mp nonce, ptk, held, FourWayState.verifyMic_valid verified⟩
    · rw [orThrow_eq_ok.mp started]
      rfl
    · exact fun set => UInt64.not_le.mp fun old => newer (.inr ⟨set, old⟩)
  have answered (kdes : KeyDataKdes) (keyId : Option UInt8) (selected : s.Unindexed → keyId = none)
      (source : kdes.gtk = none ∨ kdes.gtk = openedGtk s.kek frame) : Ends (do
      modify (·.promote)
      let self ← get
      let message4 ← self.withMic (FourWayState.kckOf ptk)
        (EapolCodec.buildMessage4 self.snonce self.replayCounter self.descVersion)
      return (message4, kdes) : FourWay (Octets × KeyDataKdes))
      (((s.acceptCounter frame.replayCounter).endPending.setKeyId keyId).takeGtk kdes.gtk)
      (Message3Outcome s frame) := by
    apply Ends.modify_bind
    apply Ends.get_bind
    apply Ends.liftM_bind
    · exact fun e failed => absurd failed FourWayState.withMic_ne_error
    · exact fun msg4 _ => .promoted rfl admitted selected source
  apply Ends.ite
  · exact fun _ => answered {} s.keyId (fun unindexed => unindexed.2) (.inl rfl)
  · intro _
    apply Ends.bind takeKeyData_outcome
    · rintro e t ⟨keyId, selected, rfl⟩
      exact .unread rfl admitted selected
    · rintro kdes t ⟨source, keyId, selected, rfl⟩
      exact answered kdes keyId selected (.inr source)

inductive GroupOutcome (s : FourWayState) (frame : EapolKeyFrame) :
    Except WifiError (Octets × KeyDataKdes) → FourWayState → Prop
  | refused {error : WifiError} : GroupOutcome s frame (.error error) s
  | unread {error : WifiError} (admitted : s.AdmitsGroup frame) :
      GroupOutcome s frame (.error error) (s.acceptCounter frame.replayCounter)
  | taken {msg2 gtk : Octets} {kdes : KeyDataKdes} {index : UInt8} (admitted : s.AdmitsGroup frame)
      (present : kdes.gtk = some (index, gtk)) (source : kdes.gtk = openedGtk s.committedKek frame) :
      GroupOutcome s frame (.ok (msg2, kdes)) ((s.acceptCounter frame.replayCounter).setGtk index gtk)

theorem processGroupRekey_outcome : Ends (processGroupRekey frame) s (GroupOutcome s frame) := by
  apply Ends.ite
  · exact fun _ => .refused
  intro newer
  apply Ends.liftM_bind
  · exact fun _ _ => .refused
  intro kck derived
  apply Ends.liftM_bind
  · exact fun _ _ => .refused
  rintro ⟨⟩ verified
  obtain ⟨ptk, held, rfl⟩ := Option.map_eq_some_iff.mp (orThrow_eq_ok.mp derived)
  have admitted : s.AdmitsGroup frame :=
    ⟨UInt64.not_le.mp newer, ptk, held, FourWayState.verifyMic_valid verified⟩
  apply Ends.ite
  · exact fun _ => .unread admitted
  intro _
  apply Ends.liftM_bind
  · exact fun _ _ => .unread admitted
  intro plain opened
  apply Ends.liftM_bind
  · exact fun _ _ => .unread admitted
  rintro ⟨index, gtk⟩ present
  apply Ends.modify_bind
  apply Ends.get_bind
  apply Ends.liftM_bind
  · exact fun e failed => absurd failed FourWayState.withMic_ne_error
  · exact fun msg2 _ => .taken admitted (orThrow_eq_ok.mp present) (openedGtk_of_ok opened).symm

end Outcomes

/-- One call on a handshake. `fresh` is what the random generator answers if a nonce is drawn. -/
inductive HandshakeCall
  | message1 (fresh anonce : Block 32) (replayCounter : UInt64) (descVersion : UInt16)
  | message3 (frame : EapolKeyFrame)
  | groupRekey (frame : EapolKeyFrame)
  deriving DecidableEq, Repr

inductive KeyEvent
  | draw (anonce snonce : Block 32)
  | promote (anonce snonce : Block 32) (ptk : Ptk)
  deriving DecidableEq, Repr

namespace FourWayState

section Calls

variable [Primitives] [EapolCodec]

def step (s : FourWayState) : HandshakeCall → FourWayState
  | .message1 fresh anonce replayCounter descVersion =>
    after (processMessage1 fresh anonce replayCounter descVersion) s
  | .message3 frame => after (processMessage3 frame) s
  | .groupRekey frame => after (processGroupRekey frame) s

/-- The counter of the Message 3 or group message that a call accepts. -/
def acceptedBy (s : FourWayState) : HandshakeCall → Option UInt64
  | .message1 _ _ _ _ => none
  | .message3 frame =>
    match (exec (processMessage3 frame) s).1 with
    | .ok _ => some frame.replayCounter
    | .error _ => none
  | .groupRekey frame =>
    match (exec (processGroupRekey frame) s).1 with
    | .ok _ => some frame.replayCounter
    | .error _ => none

def accepted : FourWayState → List HandshakeCall → List UInt64
  | _, [] => []
  | s, call :: calls => (s.acceptedBy call).toList ++ accepted (s.step call) calls

/-- The PTK that is staged before a Message 3 and no longer after it has been promoted. -/
def promotion (s t : FourWayState) (frame : EapolKeyFrame) : Option KeyEvent :=
  match s.tptk, t.tptk with
  | some ptk, none => some (.promote frame.keyNonce s.snonce ptk)
  | _, _ => none

/-- A nonce is drawn for a Message 1 that repeats no pending one; Message 3 may promote a PTK. -/
def eventOf (s : FourWayState) : HandshakeCall → Option KeyEvent
  | .message1 fresh anonce replayCounter _ =>
    if s.Admits1 anonce replayCounter ∧ ¬s.duplicates anonce replayCounter then some (.draw anonce fresh)
    else none
  | .message3 frame => s.promotion (after (processMessage3 frame) s) frame
  | .groupRekey _ => none

/-- What a sequence of calls does with nonces and keys, in order. -/
def events : FourWayState → List HandshakeCall → List KeyEvent
  | _, [] => []
  | s, call :: calls => (s.eventOf call).toList ++ events (s.step call) calls

def committed (s : FourWayState) : Option Ptk × Option Octets × UInt8 × Bool × UInt64 :=
  (s.ptk, s.gtk, s.gtkIndex, s.replayCounterSet, s.replayCounter)

/-- The frame of the call has a valid MIC under the staged PTK, or under the live one for a group
message. -/
def Authenticates (s : FourWayState) : HandshakeCall → Prop
  | .message1 _ _ _ _ => False
  | .message3 frame => ∃ ptk, s.tptk = some ptk ∧ s.MicValid ptk frame
  | .groupRekey frame => ∃ ptk, s.ptk = some ptk ∧ s.MicValid ptk frame

/-- What a call can do: the state that it leaves, the counter that it accepts and the event. -/
inductive Effect (s : FourWayState) : HandshakeCall → FourWayState → Option UInt64 → Option KeyEvent → Prop
  | refused {call : HandshakeCall} : Effect s call s none none
  | repeated {fresh anonce : Block 32} {replayCounter : UInt64} {descVersion : UInt16}
      (duplicate : s.duplicates anonce replayCounter) :
      Effect s (.message1 fresh anonce replayCounter descVersion)
        (s.stage fresh anonce replayCounter descVersion) none none
  | drawn {fresh anonce : Block 32} {replayCounter : UInt64} {descVersion : UInt16}
      (other : ¬s.duplicates anonce replayCounter) :
      Effect s (.message1 fresh anonce replayCounter descVersion)
        (s.stage fresh anonce replayCounter descVersion) none (some (.draw anonce fresh))
  | unread3 {frame : EapolKeyFrame} {keyId : Option UInt8} (admitted : s.Admits3 frame)
      (selected : s.Unindexed → keyId = none) :
      Effect s (.message3 frame) ((s.acceptCounter frame.replayCounter).endPending.setKeyId keyId)
        none none
  | promoted {frame : EapolKeyFrame} {gtk : Option (UInt8 × Octets)} {keyId : Option UInt8}
      (admitted : s.Admits3 frame) (selected : s.Unindexed → keyId = none) :
      Effect s (.message3 frame)
        (((s.acceptCounter frame.replayCounter).endPending.setKeyId keyId).takeGtk gtk).promote
        (some frame.replayCounter) (s.tptk.map (.promote frame.keyNonce s.snonce))
  | unreadGroup {frame : EapolKeyFrame} (admitted : s.AdmitsGroup frame) :
      Effect s (.groupRekey frame) (s.acceptCounter frame.replayCounter) none none
  | taken {frame : EapolKeyFrame} {index : UInt8} {gtk : Octets} (admitted : s.AdmitsGroup frame) :
      Effect s (.groupRekey frame) ((s.acceptCounter frame.replayCounter).setGtk index gtk)
        (some frame.replayCounter) none

omit [Primitives] [EapolCodec] in
theorem promotion_kept {s t : FourWayState} {frame : EapolKeyFrame} (kept : t.tptk = s.tptk) :
    s.promotion t frame = none := by
  rw [promotion, kept]
  cases s.tptk <;> rfl

omit [Primitives] [EapolCodec] in
theorem promotion_gone {s t : FourWayState} {frame : EapolKeyFrame} (gone : t.tptk = none) :
    s.promotion t frame = s.tptk.map (.promote frame.keyNonce s.snonce) := by
  rw [promotion, gone]
  cases s.tptk <;> rfl

theorem effect_of_call (s : FourWayState) (call : HandshakeCall) :
    Effect s call (s.step call) (s.acceptedBy call) (s.eventOf call) := by
  cases call with
  | message1 fresh anonce replayCounter descVersion =>
    have ends : Ends _ s _ := processMessage1_outcome fresh anonce replayCounter descVersion
    have draws : s.eventOf (.message1 fresh anonce replayCounter descVersion) =
        if s.Admits1 anonce replayCounter ∧ ¬s.duplicates anonce replayCounter then
          some (.draw anonce fresh)
        else none := rfl
    generalize s.eventOf (.message1 fresh anonce replayCounter descVersion) = event at draws
    unfold Ends at ends
    simp only [step, after]
    generalize exec (processMessage1 fresh anonce replayCounter descVersion) s = outcome at ends
    obtain ⟨result, t⟩ := outcome
    cases ends with
    | refused refusal =>
      rw [if_neg fun both => refusal both.1] at draws
      subst draws
      exact .refused
    | staged admitted =>
      by_cases duplicate : s.duplicates anonce replayCounter
      · rw [if_neg fun both => both.2 duplicate] at draws
        subst draws
        exact .repeated duplicate
      · rw [if_pos ⟨admitted, duplicate⟩] at draws
        subst draws
        exact .drawn duplicate
  | message3 frame =>
    have ends : Ends (processMessage3 frame) s _ := processMessage3_outcome
    unfold Ends at ends
    simp only [step, acceptedBy, eventOf, after]
    generalize exec (processMessage3 frame) s = outcome at ends
    obtain ⟨result, t⟩ := outcome
    cases ends with
    | refused =>
      rw [promotion_kept rfl]
      exact .refused
    | unread left admitted selected =>
      rw [left, promotion_kept]
      · exact .unread3 admitted selected
      · rfl
    | promoted left admitted selected =>
      rw [left, promotion_gone]
      · exact .promoted admitted selected
      · rfl
  | groupRekey frame =>
    have ends : Ends (processGroupRekey frame) s _ := processGroupRekey_outcome
    unfold Ends at ends
    simp only [step, acceptedBy, after]
    generalize exec (processGroupRekey frame) s = outcome at ends
    obtain ⟨result, t⟩ := outcome
    cases ends with
    | refused => exact .refused
    | unread admitted => exact .unreadGroup admitted
    | taken admitted => exact .taken admitted

variable {s t : FourWayState} {call : HandshakeCall} {counter : Option UInt64} {event : Option KeyEvent}

def Staged (s : FourWayState) : Prop :=
  s.pendingReplayCounter.isSome → ∃ anonce, s.anonce = some anonce ∧ s.tptk = some (s.derivePtk anonce)

theorem Effect.staged (effect : s.Effect call t counter event) (staged : s.Staged) : t.Staged := by
  cases effect with
  | refused => exact staged
  | repeated => exact fun _ => ⟨_, rfl, rfl⟩
  | drawn => exact fun _ => ⟨_, rfl, rfl⟩
  | unread3 => exact fun pending => nomatch pending
  | @promoted _ gtk =>
    rcases gtk with _ | ⟨index, key⟩
    · exact fun pending => nomatch pending
    · exact fun pending => nomatch pending
  | unreadGroup => exact staged
  | taken => exact staged

/-- A change of the live keys or of the accepted counter is authenticated. -/
theorem Effect.authenticates (effect : s.Effect call t counter event) (staged : s.Staged)
    (changed : t.committed ≠ s.committed) : s.Authenticates call := by
  have verified {frame : EapolKeyFrame} (admitted : s.Admits3 frame) :
      s.Authenticates (.message3 frame) := by
    obtain ⟨anonce, -, held⟩ := staged admitted.pending
    obtain ⟨ptk, current, valid⟩ := admitted.mic
    rw [handshakePtk, held] at current
    cases current
    exact ⟨_, held, valid⟩
  cases effect with
  | refused => exact absurd rfl changed
  | repeated => exact absurd rfl changed
  | drawn => exact absurd rfl changed
  | unread3 admitted => exact verified admitted
  | promoted admitted => exact verified admitted
  | unreadGroup admitted => exact admitted.mic
  | taken admitted => exact admitted.mic

/-- An accepted counter is above the previous one and takes its place. -/
theorem Effect.counts (effect : s.Effect call t counter event) :
    (∀ accepted ∈ counter, (s.replayCounterSet → s.replayCounter < accepted) ∧
      t.replayCounterSet ∧ t.replayCounter = accepted) ∧
    (s.replayCounterSet → t.replayCounterSet ∧ s.replayCounter ≤ t.replayCounter) := by
  have same (set : s.replayCounterSet = true) : s.replayCounterSet = true ∧
      s.replayCounter ≤ s.replayCounter := ⟨set, UInt64.le_refl _⟩
  cases effect with
  | refused => exact ⟨fun _ none => (nomatch none), same⟩
  | repeated => exact ⟨fun _ none => (nomatch none), same⟩
  | drawn => exact ⟨fun _ none => (nomatch none), same⟩
  | unread3 admitted =>
    exact ⟨fun _ none => (nomatch none), fun set => ⟨rfl, UInt64.le_of_lt (admitted.newer set)⟩⟩
  | @promoted frame gtk keyId admitted =>
    have left : ((((s.acceptCounter frame.replayCounter).endPending.setKeyId keyId).takeGtk gtk).promote
        ).replayCounterSet = true ∧
        ((((s.acceptCounter frame.replayCounter).endPending.setKeyId keyId).takeGtk gtk).promote
        ).replayCounter = frame.replayCounter := by
      rcases gtk with _ | ⟨index, key⟩
      · exact ⟨rfl, rfl⟩
      · exact ⟨rfl, rfl⟩
    constructor
    · rintro accepted ⟨⟩
      exact ⟨admitted.newer, left⟩
    · intro set
      rw [left.2]
      exact ⟨left.1, UInt64.le_of_lt (admitted.newer set)⟩
  | unreadGroup admitted =>
    exact ⟨fun _ none => (nomatch none), fun _ => ⟨rfl, UInt64.le_of_lt admitted.newer⟩⟩
  | taken admitted =>
    constructor
    · rintro accepted ⟨⟩
      exact ⟨fun _ => admitted.newer, rfl, rfl⟩
    · exact fun _ => ⟨rfl, UInt64.le_of_lt admitted.newer⟩

/-- The run lemma of the counters: the accepted ones increase from the last accepted one on. -/
theorem accepted_increasing (s : FourWayState) (calls : List HandshakeCall) :
    (s.accepted calls).Pairwise (· < ·) ∧
      (s.replayCounterSet → ∀ counter ∈ s.accepted calls, s.replayCounter < counter) := by
  induction calls generalizing s with
  | nil => exact ⟨.nil, fun _ _ mem => nomatch mem⟩
  | cons call calls ih =>
    have counts := (s.effect_of_call call).counts
    obtain ⟨increasing, above⟩ := ih (s.step call)
    rw [accepted]
    rcases found : s.acceptedBy call with _ | counter
    · refine ⟨increasing, fun set later mem => ?_⟩
      obtain ⟨kept, le⟩ := counts.2 set
      exact UInt64.lt_of_le_of_lt le (above kept later mem)
    · obtain ⟨newer, set, same⟩ := counts.1 counter found
      have later (value : UInt64) (mem : value ∈ (s.step call).accepted calls) : counter < value := by
        rw [← same]
        exact above set value mem
      refine ⟨List.pairwise_cons.mpr ⟨later, increasing⟩, fun set value mem => ?_⟩
      rcases List.mem_cons.mp mem with rfl | tail
      · exact newer set
      · exact UInt64.lt_trans (newer set) (later value tail)

omit [EapolCodec] in
def ptkOf (s : FourWayState) (anonce snonce : Block 32) : Ptk := { s with snonce := snonce }.derivePtk anonce

theorem Effect.ptkOf (effect : s.Effect call t counter event) : t.ptkOf = s.ptkOf := by
  cases effect with
  | @promoted _ gtk =>
    rcases gtk with _ | ⟨index, key⟩
    · rfl
    · rfl
  | _ => rfl

theorem Effect.keyId (effect : s.Effect call t counter event) (unindexed : s.Unindexed) :
    t.keyId = none := by
  cases effect with
  | unread3 _ selected => exact selected unindexed
  | @promoted _ gtk _ _ selected =>
    rcases gtk with _ | ⟨index, key⟩
    · exact selected unindexed
    · exact selected unindexed
  | _ => exact unindexed.2

def armed (s : FourWayState) : Option (Block 32 × Block 32) :=
  if s.pendingReplayCounter.isSome then s.anonce.map (·, s.snonce) else none

end Calls

/-- Every promotion follows the draw of its own nonce, with no other event between the two. -/
def Alternates (ptkOf : Block 32 → Block 32 → Ptk) : Option (Block 32 × Block 32) → List KeyEvent → Prop
  | _, [] => True
  | _, .draw anonce snonce :: rest => Alternates ptkOf (some (anonce, snonce)) rest
  | armed, .promote anonce snonce ptk :: rest =>
    armed = some (anonce, snonce) ∧ ptk = ptkOf anonce snonce ∧ Alternates ptkOf none rest

section Alternation

variable {ptkOf : Block 32 → Block 32 → Ptk} {armed : Option (Block 32 × Block 32)}
  {events : List KeyEvent}

theorem Alternates.arm (alternates : Alternates ptkOf none events) : Alternates ptkOf armed events := by
  rcases events with _ | ⟨event, rest⟩
  · trivial
  · cases event with
    | draw anonce snonce => exact alternates
    | promote anonce snonce ptk => cases alternates.1

/-- A promotion finds its nonces armed or drawn before it. -/
theorem Alternates.draw_before {anonce snonce : Block 32} {ptk : Ptk} {between rest : List KeyEvent}
    (alternates : Alternates ptkOf armed (between ++ .promote anonce snonce ptk :: rest)) :
    armed = some (anonce, snonce) ∨ .draw anonce snonce ∈ between := by
  induction between generalizing armed with
  | nil => exact .inl alternates.1
  | cons event between ih =>
    cases event with
    | draw first second =>
      rcases ih alternates with same | mem
      · cases same
        exact .inr List.mem_cons_self
      · exact .inr (List.mem_cons_of_mem _ mem)
    | promote first second other =>
      rcases ih alternates.2.2 with same | mem
      · cases same
      · exact .inr (List.mem_cons_of_mem _ mem)

theorem Alternates.suffix {before rest : List KeyEvent} (alternates : Alternates ptkOf armed (before ++ rest)) :
    ∃ later, Alternates ptkOf later rest := by
  induction before generalizing armed with
  | nil => exact ⟨armed, alternates⟩
  | cons event before ih =>
    cases event with
    | draw first second => exact ih alternates
    | promote first second other => exact ih alternates.2.2

theorem Alternates.draw_between {before between rest : List KeyEvent} {anonce snonce other fresh : Block 32}
    {ptk next : Ptk} (alternates : Alternates ptkOf armed
      (before ++ .promote anonce snonce ptk :: (between ++ .promote other fresh next :: rest))) :
    .draw other fresh ∈ between := by
  obtain ⟨later, alternates⟩ := alternates.suffix
  rcases alternates.2.2.draw_before with none | mem
  · cases none
  · exact mem

def draws (events : List KeyEvent) : List (Block 32 × Block 32) := events.filterMap fun
  | .draw anonce snonce => some (anonce, snonce)
  | .promote _ _ _ => none

def promotions (events : List KeyEvent) : List (Block 32 × Block 32) := events.filterMap fun
  | .draw _ _ => none
  | .promote anonce snonce _ => some (anonce, snonce)

def promotedPtks (events : List KeyEvent) : List Ptk := events.filterMap fun
  | .draw _ _ => none
  | .promote _ _ ptk => some ptk

theorem Alternates.promotedPtks (alternates : Alternates ptkOf armed events) :
    FourWayState.promotedPtks events = (promotions events).map fun nonces => ptkOf nonces.1 nonces.2 := by
  induction events generalizing armed with
  | nil => rfl
  | cons event events ih =>
    cases event with
    | draw anonce snonce => exact ih alternates
    | promote anonce snonce ptk =>
      obtain ⟨-, rfl, later⟩ := alternates
      exact congrArg _ (ih later)

theorem Alternates.promotions_sublist (alternates : Alternates ptkOf armed events) :
    (promotions events).Sublist (armed.toList ++ draws events) := by
  induction events generalizing armed with
  | nil => exact List.nil_sublist _
  | cons event events ih =>
    cases event with
    | draw anonce snonce => exact (ih alternates).trans (List.sublist_append_right _ _)
    | promote anonce snonce ptk =>
      obtain ⟨rfl, -, later⟩ := alternates
      exact (ih later).cons_cons _

end Alternation

/-- What the key expansion takes in besides the key: with FT the nonces in a fixed order, otherwise
the addresses and the nonces in ascending order. -/
def expansionContext (s : FourWayState) (nonces : Block 32 × Block 32) : Octets :=
  let (anonce, snonce) := nonces
  if s.ftPmkR1.isSome then snonce.val ++ anonce.val ++ s.macAp.val ++ s.macSta.val
  else
    let (mac1, mac2) :=
      if beNat s.macAp.val < beNat s.macSta.val then (s.macAp, s.macSta) else (s.macSta, s.macAp)
    let (nonce1, nonce2) := if anonce.val < snonce.val then (anonce, snonce) else (snonce, anonce)
    mac1.val ++ mac2.val ++ nonce1.val ++ nonce2.val

theorem nonces_eq {first second third fourth : Block 32}
    (same : first.val ++ second.val = third.val ++ fourth.val) : first = third ∧ second = fourth := by
  obtain ⟨left, right⟩ := List.append_inj same (first.property.trans third.property.symm)
  exact ⟨Subtype.ext left, Subtype.ext right⟩

/-- Equal contexts have the same SNonce, or each SNonce is the ANonce of the other. -/
theorem expansionContext_eq {s : FourWayState} {first second : Block 32 × Block 32}
    (same : s.expansionContext first = s.expansionContext second) :
    first.2 = second.2 ∨ first.1 = second.2 ∧ first.2 = second.1 := by
  obtain ⟨anonce, snonce⟩ := first
  obtain ⟨other, fresh⟩ := second
  unfold expansionContext at same
  dsimp only at same ⊢
  by_cases ft : s.ftPmkR1.isSome
  · rw [if_pos ft, if_pos ft] at same
    exact .inl (nonces_eq (List.append_cancel_right (List.append_cancel_right same))).1
  · rw [if_neg ft, if_neg ft, List.append_assoc, List.append_assoc _ _ (Subtype.val _)] at same
    have sorted := nonces_eq (List.append_cancel_left same)
    by_cases low : anonce.val < snonce.val
    · rw [if_pos low] at sorted
      by_cases below : other.val < fresh.val
      · rw [if_pos below] at sorted
        exact .inl sorted.2
      · rw [if_neg below] at sorted
        exact .inr sorted
    · rw [if_neg low] at sorted
      by_cases below : other.val < fresh.val
      · rw [if_pos below] at sorted
        exact .inr sorted.symm
      · rw [if_neg below] at sorted
        exact .inl sorted.1

section Calls

variable [Primitives] [EapolCodec] {s t : FourWayState} {call : HandshakeCall}
  {counter : Option UInt64} {event : Option KeyEvent}

theorem Effect.alternates {rest : List KeyEvent} (effect : s.Effect call t counter event)
    (staged : s.Staged) (later : Alternates s.ptkOf t.armed rest) :
    Alternates s.ptkOf s.armed (event.toList ++ rest) := by
  cases effect with
  | refused => exact later
  | @repeated fresh anonce replayCounter descVersion duplicate =>
    have same : (s.stage fresh anonce replayCounter descVersion).armed = s.armed := by
      simp [stage, armed, duplicate, duplicate.1, duplicate.2]
    rw [← same]
    exact later
  | @drawn fresh anonce replayCounter descVersion other =>
    have drawn : (s.stage fresh anonce replayCounter descVersion).armed = some (anonce, fresh) := by
      simp [stage, armed, other]
    rw [drawn] at later
    exact later
  | unread3 => exact later.arm
  | @promoted frame gtk _ admitted =>
    obtain ⟨anonce, recorded, held⟩ := staged admitted.pending
    cases recorded.symm.trans admitted.anonce
    rw [held]
    have current : s.armed = some (frame.keyNonce, s.snonce) := by
      rw [armed, if_pos admitted.pending, admitted.anonce]
      rfl
    refine ⟨current, rfl, ?_⟩
    rcases gtk with _ | ⟨index, key⟩
    · exact later
    · exact later
  | unreadGroup => exact later
  | taken => exact later

theorem events_alternate (calls : List HandshakeCall) (staged : s.Staged) :
    Alternates s.ptkOf s.armed (s.events calls) := by
  induction calls generalizing s with
  | nil => trivial
  | cons call calls ih =>
    have effect := s.effect_of_call call
    have later := ih (effect.staged staged)
    rw [effect.ptkOf] at later
    exact effect.alternates staged later

/-- Each nonce that is drawn differs from the nonces drawn before it and from the ANonces heard before
it. -/
def Unforeseen (events : List KeyEvent) : Prop :=
  (draws events).Pairwise fun earlier later => earlier.2 ≠ later.2 ∧ earlier.1 ≠ later.2

instance (events : List KeyEvent) : Decidable (Unforeseen events) :=
  inferInstanceAs (Decidable (List.Pairwise _ _))

def Collisionless (s : FourWayState) (events : List KeyEvent) : Prop :=
  ∀ first ∈ promotions events, ∀ second ∈ promotions events,
    s.ptkOf first.1 first.2 = s.ptkOf second.1 second.2 →
      s.expansionContext first = s.expansionContext second

instance (s : FourWayState) (events : List KeyEvent) : Decidable (s.Collisionless events) :=
  inferInstanceAs (Decidable (∀ _ ∈ _, _))

omit [EapolCodec] in
theorem promotedPtks_map_nodup {α : Type} {part : Ptk → α} {events : List KeyEvent}
    (alternates : Alternates s.ptkOf none events) (unforeseen : Unforeseen events)
    (collisionless : ∀ first ∈ promotions events, ∀ second ∈ promotions events,
      part (s.ptkOf first.1 first.2) = part (s.ptkOf second.1 second.2) →
        s.expansionContext first = s.expansionContext second) :
    ((promotedPtks events).map part).Nodup := by
  rw [alternates.promotedPtks, List.map_map, List.Nodup, List.pairwise_map]
  have fresh := unforeseen.sublist alternates.promotions_sublist
  apply fresh.imp_of_mem
  intro first second inside there apart equal
  rcases expansionContext_eq (collisionless first inside second there equal) with same | ⟨swapped, -⟩
  · exact apart.1 same
  · exact apart.2 swapped

omit [EapolCodec] in
theorem promotedPtks_nodup {events : List KeyEvent} (alternates : Alternates s.ptkOf none events)
    (unforeseen : Unforeseen events) (collisionless : s.Collisionless events) : (promotedPtks events).Nodup := by
  have nodup : ((promotedPtks events).map id).Nodup := promotedPtks_map_nodup alternates unforeseen collisionless
  rw [List.map_id] at nodup
  exact nodup

/-- Key safety of the 4-way handshake, for arbitrary frames in any order. Accepted counters increase. The
live keys and the accepted counter change only under a valid MIC. Between two promotions a nonce is drawn,
so that no PTK is promoted twice. -/
theorem handshake_key_safe (s : FourWayState) (calls : List HandshakeCall) (idle : s.pendingReplayCounter = none) :
    (s.accepted calls).Pairwise (· < ·) ∧
    (∀ before call rest, calls = before ++ call :: rest →
      ((runInputs step s before).step call).committed ≠ (runInputs step s before).committed →
      (runInputs step s before).Authenticates call) ∧
    (∀ before between rest anonce snonce ptk other fresh next,
      s.events calls =
        before ++ .promote anonce snonce ptk :: (between ++ .promote other fresh next :: rest) →
      .draw other fresh ∈ between) ∧
    (Unforeseen (s.events calls) → s.Collisionless (s.events calls) →
      (promotedPtks (s.events calls)).Nodup) := by
  have staged : s.Staged := by
    intro pending
    rw [idle] at pending
    cases pending
  have alternates : Alternates s.ptkOf none (s.events calls) := by
    have run := events_alternate calls staged
    rw [armed, idle] at run
    exact run
  refine ⟨(accepted_increasing s calls).1, ?_, ?_, promotedPtks_nodup alternates⟩
  · intro before call rest _ changed
    have reached : (runInputs step s before).Staged :=
      run_invariant (I := Staged) (fun s call staged _ => (s.effect_of_call call).staged staged) staged
        (Admitted.of_forall fun _ _ => trivial)
    exact ((runInputs step s before).effect_of_call call).authenticates reached changed
  · intro before between rest anonce snonce ptk other fresh next same
    rw [same] at alternates
    exact alternates.draw_between

end Calls

end FourWayState

section Sample

open FourWayState

attribute [local instance] samplePrimitives sampleCodec

def idleSupplicant : FourWayState :=
  newWithApIes (filled 32 1) (filled 32 2) .aesCmac (filled 6 3) (filled 6 4) [48, 2, 1, 0] [48, 2, 1, 0] []

def signedMessage3 (self : FourWayState) (replayCounter : UInt64) (anonce : Block 32) : EapolKeyFrame :=
  let raw := samplePdu 0 replayCounter anonce.val []
  { replayCounter := replayCounter
    keyNonce := anonce
    keyRsc := filled 8 0
    keyMic := Primitives.cmacAes128 (kckOf (self.handshakePtk.getD (filled 48 0))) raw
    keyData := []
    isEncryptedData := true
    descVersion := 0
    raw := raw }

def twoHandshakes (anonce snonce other fresh : Block 32) : List HandshakeCall :=
  let first := idleSupplicant.step (.message1 snonce anonce 1 0)
  let message3 := signedMessage3 first 2 anonce
  let second := (first.step (.message3 message3)).step (.message1 fresh other 3 0)
  [.message1 snonce anonce 1 0, .message3 message3, .message1 fresh other 3 0,
    .message3 (signedMessage3 second 4 other)]

theorem handshake_key_safe_twice :
    let events := idleSupplicant.events (twoHandshakes (filled 32 5) (filled 32 6) (filled 32 7) (filled 32 8))
    (promotedPtks events).length = 2 ∧ (promotedPtks events).Nodup := by
  intro events
  have run : (promotedPtks events).length = 2 ∧ Unforeseen events ∧ idleSupplicant.Collisionless events := by
    decide +kernel
  exact ⟨run.1, (handshake_key_safe idleSupplicant _ rfl).2.2.2 run.2.1 run.2.2⟩

/-- The nonces are sorted before they are expanded, so a second handshake whose nonces are exchanged
promotes the same PTK, although its SNonce is a new one. -/
theorem ptk_promoted_again :
    let events := idleSupplicant.events (twoHandshakes (filled 32 5) (filled 32 6) (filled 32 6) (filled 32 5))
    ((draws events).map Prod.snd).Nodup ∧ idleSupplicant.Collisionless events ∧
      ¬(promotedPtks events).Nodup := by
  decide +kernel

end Sample

end Shuli.Wifi
