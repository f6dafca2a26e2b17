import Shuli.Wifi.Events
import Shuli.Wifi.HandshakeRuns

/-!
Frames that the handshake refuses or must refuse. A refused Message 3 or group message keeps the keys, but for
the key id, which Message 3 records before the elements of the AP are compared. A counter that was accepted is
not accepted again as long as the driver's reports of its own rekeys do not lower the counter and come before
the next frame.
-/

namespace Shuli.Wifi

open Fallible
open Shuli.Core (WifiError)

section

variable [Primitives] [EapolCodec] {s : FourWayState} {frame : EapolKeyFrame}

namespace FourWayState

def keyMaterial (s : FourWayState) : Option Ptk × Option Octets × UInt8 × Option UInt8 :=
  (s.ptk, s.gtk, s.gtkIndex, s.keyId)

def Verifies3 (s : FourWayState) (frame : EapolKeyFrame) : Prop :=
  ∃ pending kck, s.pendingReplayCounter = some pending ∧
    ¬(frame.replayCounter < pending ∨ s.replayCounterSet ∧ frame.replayCounter ≤ s.replayCounter) ∧
    s.anonce = some frame.keyNonce ∧ s.kck = some kck ∧ s.verifyMic kck frame "MIC mismatch" = .ok ()

/-- Key data that selects another key id comes with the elements of the beacon. -/
def SelectsSafely (s : FourWayState) (frame : EapolKeyFrame) : Prop :=
  ∀ plain keyId, openKeyData s s.kek frame "Message 3 key data is not encrypted" = .ok plain →
    s.selectKeyId (EapolCodec.parseKeyDataKdes plain) = .ok keyId → keyId ≠ s.keyId →
    s.validateApIes (EapolCodec.parseKeyDataKdes plain) = .ok ()

end FourWayState

/-- Key data that is refused has changed the key id just if it selects another one. -/
theorem takeKeyData_refused : Ends (takeKeyData frame) s fun result t =>
    (∀ e, result = .error e → (t.keyMaterial = s.keyMaterial ↔ s.SelectsSafely frame)) ∧
      ∀ kdes, result = .ok kdes → s.SelectsSafely frame := by
  apply Ends.get_bind
  apply Ends.liftM_bind
  · intro e closed
    refine ⟨fun _ _ => iff_of_true rfl fun plain keyId opened => ?_, nofun⟩
    cases closed.symm.trans opened
  intro plain opened
  apply Ends.liftM_bind
  · intro e invalid
    refine ⟨fun _ _ => iff_of_true rfl fun other keyId again selected => ?_, nofun⟩
    cases opened.symm.trans again
    cases invalid.symm.trans selected
  intro keyId selected
  have same (other : Octets) (another : Option UInt8)
      (again : openKeyData s s.kek frame "Message 3 key data is not encrypted" = .ok other)
      (chosen : s.selectKeyId (EapolCodec.parseKeyDataKdes other) = .ok another) :
      other = plain ∧ another = keyId := by
    cases opened.symm.trans again
    exact ⟨rfl, Except.ok.inj (chosen.symm.trans selected)⟩
  apply Ends.modify_bind
  apply Ends.liftM_bind
  · intro e differs
    refine ⟨fun _ _ => ⟨fun kept other another again chosen moved => ?_, fun safe => ?_⟩, nofun⟩
    · obtain ⟨rfl, rfl⟩ := same other another again chosen
      exact absurd (congrArg (fun keys => keys.2.2.2) kept) moved
    · by_contra moved
      have changed : keyId ≠ s.keyId := by
        rintro rfl
        exact moved rfl
      cases differs.symm.trans (safe plain keyId opened selected changed)
  intro _ matched
  refine ⟨nofun, fun _ _ other another again chosen _ => ?_⟩
  obtain ⟨rfl, rfl⟩ := same other another again chosen
  exact matched

theorem processMessage3_refused : Ends (processMessage3 frame) s fun result t =>
    (∀ e, result = .error e → t.keyMaterial = s.keyMaterial) ↔
      (s.Verifies3 frame → ¬frame.keyData.isEmpty → s.SelectsSafely frame) := by
  have refused (unverified : ¬s.Verifies3 frame) (error : WifiError) :
      (∀ e, (.error error : Except WifiError (Octets × KeyDataKdes)) = .error e → s.keyMaterial = s.keyMaterial) ↔
        (s.Verifies3 frame → ¬frame.keyData.isEmpty → s.SelectsSafely frame) :=
    iff_of_true (fun _ _ => rfl) fun verified => absurd verified unverified
  apply Ends.get_bind
  apply Ends.liftM_bind
  · rintro e missing
    refine refused ?_ e
    rintro ⟨pending, _, some, -⟩
    rw [some] at missing
    cases missing
  intro pending started
  have pends := orThrow_eq_ok.mp started
  apply Ends.ite
  · intro old
    refine refused ?_ _
    rintro ⟨other, _, some, newer, -⟩
    cases pends.symm.trans some
    exact newer old
  intro newer
  apply Ends.ite
  · exact fun other => refused (fun ⟨_, _, _, _, nonce, _⟩ => other nonce) _
  intro nonce
  apply Ends.liftM_bind
  · intro e missing
    refine refused ?_ e
    rintro ⟨_, kck, _, _, _, some, -⟩
    rw [some] at missing
    cases missing
  intro kck derived
  have holds := orThrow_eq_ok.mp derived
  apply Ends.liftM_bind
  · intro e mismatch
    refine refused ?_ e
    rintro ⟨_, other, _, _, _, some, valid⟩
    cases holds.symm.trans some
    cases mismatch.symm.trans valid
  rintro ⟨⟩ valid
  have verified : s.Verifies3 frame := ⟨pending, kck, pends, newer, Decidable.not_not.mp nonce, holds, valid⟩
  have answered (kdes : KeyDataKdes) (t : FourWayState)
      (safe : s.Verifies3 frame → ¬frame.keyData.isEmpty → s.SelectsSafely frame) : Ends (do
      modify (·.promote)
      let self ← get
      let message4 ← self.withMic kck
        (EapolCodec.buildMessage4 self.snonce self.replayCounter self.descVersion)
      return (message4, kdes) : FourWay (Octets × KeyDataKdes)) t fun result t =>
        (∀ e, result = .error e → t.keyMaterial = s.keyMaterial) ↔
          (s.Verifies3 frame → ¬frame.keyData.isEmpty → s.SelectsSafely frame) := by
    apply Ends.modify_bind
    apply Ends.get_bind
    apply Ends.liftM_bind
    · exact fun e failed => absurd failed FourWayState.withMic_ne_error
    · exact fun _ _ => iff_of_true nofun safe
  apply Ends.modify_bind
  apply Ends.ite
  · exact fun empty => answered {} _ fun _ filled => absurd empty filled
  intro filled
  apply Ends.bind takeKeyData_refused
  · intro e t kept
    have moved := kept.1 e rfl
    exact ⟨fun same _ _ => moved.mp (same e rfl), fun safe _ _ => moved.mpr (safe verified filled)⟩
  · exact fun kdes t kept => answered kdes t fun _ _ => kept.2 kdes rfl

/-- A refused Message 3 or group message leaves the keys alone just if a verified Message 3 that selects another
key id carries the elements of the beacon. -/
theorem refused_keys_kept_iff (s : FourWayState) (frame : EapolKeyFrame) :
    ((∀ e, (exec (processMessage3 frame) s).1 = .error e →
        (after (processMessage3 frame) s).keyMaterial = s.keyMaterial) ∧
      ∀ e, (exec (processGroupRekey frame) s).1 = .error e →
        (after (processGroupRekey frame) s).keyMaterial = s.keyMaterial) ↔
      (s.Verifies3 frame → ¬frame.keyData.isEmpty → s.SelectsSafely frame) := by
  have message3 : Ends (processMessage3 frame) s _ := processMessage3_refused
  have group : ∀ e, (exec (processGroupRekey frame) s).1 = .error e →
      (after (processGroupRekey frame) s).keyMaterial = s.keyMaterial := by
    have ends : Ends (processGroupRekey frame) s _ := processGroupRekey_outcome
    unfold Ends at ends
    unfold after
    generalize exec (processGroupRekey frame) s = outcome at ends ⊢
    obtain ⟨result, t⟩ := outcome
    cases ends with
    | refused => exact fun _ _ => rfl
    | unread => exact fun _ _ => rfl
    | taken => exact nofun
  exact ⟨fun both => message3.mp both.1, fun safe => ⟨message3.mpr safe, group⟩⟩

/-! ### Counters that the driver reports -/

/-- A 4-way state at a BSS, with the counters that it and the driver have accepted. -/
structure OffloadRun where
  fw : FourWayState
  bssid : MacAddr
  taken : List UInt64
  driver : List UInt64

/-- A frame, a rekey that the driver does itself, and an event that reports one. -/
inductive OffloadInput
  | call (call : HandshakeCall)
  | driverAccepts (counter : UInt64)
  | report (bssid : MacAddr) (replayCtr : Block 8)

namespace OffloadRun

def step (run : OffloadRun) : OffloadInput → OffloadRun
  | .call call => { run with fw := run.fw.step call, taken := run.taken ++ (run.fw.acceptedBy call).toList }
  | .driverAccepts counter => { run with driver := run.driver ++ [counter] }
  | .report bssid replayCtr =>
    { run with fw := if bssid = run.bssid then run.fw.updateReplayCounter replayCtr else run.fw }

/-- A report does not lower the counter, and a frame finds every rekey of the driver reported. -/
def InStep (run : OffloadRun) : OffloadInput → Prop
  | .call _ => ∀ counter ∈ run.driver, run.fw.replayCounterSet ∧ counter ≤ run.fw.replayCounter
  | .driverAccepts _ => True
  | .report bssid replayCtr =>
    bssid = run.bssid → run.fw.replayCounterSet → run.fw.replayCounter ≤ ofBe64 replayCtr.val

instance (run : OffloadRun) : (input : OffloadInput) → Decidable (run.InStep input)
  | .call _ => List.decidableBAll _ _
  | .driverAccepts _ => isTrue trivial
  | .report _ _ => inferInstanceAs (Decidable (_ → _))

def Counted (run : OffloadRun) : Prop :=
  ∀ counter ∈ run.taken, run.fw.replayCounterSet ∧ counter ≤ run.fw.replayCounter

theorem Counted.step {run : OffloadRun} {input : OffloadInput} (counted : run.Counted)
    (inStep : run.InStep input) : (run.step input).Counted := by
  cases input with
  | call call =>
    obtain ⟨accepts, keeps⟩ := (run.fw.effect_of_call call).counts
    intro counter mem
    rcases List.mem_append.mp mem with old | new
    · obtain ⟨set, below⟩ := counted counter old
      exact ⟨(keeps set).1, UInt64.le_trans below (keeps set).2⟩
    · obtain ⟨-, set, same⟩ := accepts counter (Option.mem_toList.mp new)
      exact ⟨set, same ▸ UInt64.le_refl _⟩
  | driverAccepts _ => exact counted
  | report bssid replayCtr =>
    intro counter mem
    obtain ⟨set, below⟩ := counted counter mem
    by_cases own : bssid = run.bssid
    · rw [OffloadRun.step, if_pos own]
      exact ⟨rfl, UInt64.le_trans below (inStep own set)⟩
    · rw [OffloadRun.step, if_neg own]
      exact ⟨set, below⟩

end OffloadRun

omit [Primitives] [EapolCodec] in
/-- The step of a report is the one of the event handler. -/
theorem handleRekeyOffloadEvent_fourway [Core.Tls] [Sae] [Owe] (bssid : MacAddr) (replayCtr : Block 8)
    (self : WifiIface) :
    Ends (handleRekeyOffloadEvent bssid replayCtr : Iface Unit) self fun _ t =>
      t.link.fourway = self.link.fourway.map
        fun fw => if bssid = self.link.bssInfo.bssid then fw.updateReplayCounter replayCtr else fw := by
  apply Ends.get_bind
  rcases fourway : self.link.fourway with _ | fw
  · exact fourway
  · exact Ends.ite (fun own => congrArg some (if_pos own).symm)
      fun other => fourway.trans (congrArg some (if_neg other).symm)

end

section Sample

attribute [local instance] samplePrimitives sampleCodec

/-- Message 3 with Key ID 1 and another RSNXE than the beacon's is refused, and the key id is kept. -/
theorem refused_key_id_kept :
    let s := sampleSupplicant [244, 1, 32]
    let frame := sampleMessage3 s ([48, 2, 1, 0, 244, 1, 33] ++ sampleKeyData.drop 7)
    (exec (processMessage3 frame) s).1.toOption.isSome = false ∧ s.keyId = none ∧
      (after (processMessage3 frame) s).keyId = some 1 := by
  decide +kernel

def counterOctets (octet : UInt8) : Block 8 := ⟨[0, 0, 0, 0, 0, 0, 0, octet], rfl⟩

def offloadStart : OffloadRun := ⟨sampleSupplicant [244, 1, 32], filled 6 4, [], []⟩

def offloadMessage3 : HandshakeCall := .message3 (sampleMessage3 (sampleSupplicant [244, 1, 32]) sampleKeyData)

end Sample

end Shuli.Wifi
