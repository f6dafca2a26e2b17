import Shuli.Wifi.SpoofedFrames

/-!
A Message 4 that the AP does not receive. The AP then sends Message 3 again, with a higher counter and
otherwise as before. The handshake is over for the station, so it has no pending Message 1, and the
retransmission is an error of the handshake that ends the connection.
-/

namespace Shuli.Wifi

open Fallible
open Shuli.Core (WifiError Tls)

section

variable [Elements] [Primitives] [EapolCodec]

/-- An authentic Message 3 that the AP sends again: the ANonce and the keys of the accepted one, and a
MIC under the PTK that it has made live. -/
structure Retransmits (live : FourWayState) (accepted : EapolKeyFrame) (raw : Octets) (again : ParsedKey) :
    Prop where
  eapol : parseEapolEapFrame raw = none
  read : Elements.parseEapolKey raw = some again
  third : again.isMessage3
  anonce : again.frame.keyNonce = accepted.keyNonce
  keys : openedGtk live.committedKek again.frame = openedGtk live.committedKek accepted
  mic : ∃ ptk, live.ptk = some ptk ∧ live.MicValid ptk again.frame

/-- Retransmissions with counters that grow from `last` on. -/
def Retransmissions (live : FourWayState) (accepted : EapolKeyFrame) : UInt64 → List (Env × Octets) → Prop
  | _, [] => True
  | last, input :: inputs => ∃ again, Retransmits live accepted input.2 again ∧
      last < again.frame.replayCounter ∧ Retransmissions live accepted again.frame.replayCounter inputs

omit [Elements] in
theorem processMessage3_over {fw : FourWayState} {frame : EapolKeyFrame} (ended : fw.pendingReplayCounter = none) :
    exec (processMessage3 frame) fw =
      (.error (Core.handshakeError "Message 3 without a preceding Message 1"), fw) := by
  simp only [processMessage3, exec_get_bind, ended, orThrow, exec_liftM_bind]

omit [Elements] in
theorem processMessage3_ended {fw live : FourWayState} {frame : EapolKeyFrame} {reply : Octets × KeyDataKdes}
    (accepted : exec (processMessage3 frame) fw = (.ok reply, live)) : live.pendingReplayCounter = none := by
  have outcome : Ends (processMessage3 frame) fw (Message3Outcome fw frame) := processMessage3_outcome
  rw [Ends, accepted] at outcome
  cases outcome with
  | @promoted _ kdes _ _ left =>
    change live = _ at left
    rw [left]
    rcases kdes.gtk with _ | ⟨index, gtk⟩
    · rfl
    · rfl

end

section

variable [Tls] [Sae] [Owe] [Elements] [Primitives] [EapolCodec]

/-- The retransmission is answered with a Message 4 for its counter and changes nothing else that
matters. -/
structure WifiIface.Answers (s : WifiIface) (live : FourWayState) (input : Env × Octets) : Prop where
  reply : ∃ again ptk msg4 more, Elements.parseEapolKey input.2 = some again ∧ live.ptk = some ptk ∧
    live.withMic (FourWayState.kckOf ptk)
      (EapolCodec.buildMessage4 live.snonce again.frame.replayCounter live.descVersion) = .ok msg4 ∧
    (s.frameStep input).trace = s.trace ++ more ∧
    Action.request (.controlPortFrame s.link.bssInfo.bssid msg4) ∈ more
  keys : installedKeys (s.frameStep input).trace = installedKeys s.trace
  state : (s.frameStep input).state = s.state

variable {self : WifiIface} {env : Env} {fw live : FourWayState} {parsed : ParsedKey}

theorem Retransmits.handled {accepted : EapolKeyFrame} {raw : Octets} {again : ParsedKey}
    (retransmits : Retransmits live accepted raw again) :
    handleControlPortFrame env raw = handleMessage3 env again := by
  obtain ⟨response, mic, secure, pairwise⟩ := retransmits.third
  have answered : again.isRequest = false := by simpa using response
  simp [handleControlPortFrame, retransmits.eapol, retransmits.read, answered, mic, secure, pairwise]

/-- An accepted Message 3 leaves its 4-way state with the interface. -/
theorem handleMessage3_left {reply : Octets × KeyDataKdes} (held : self.link.fourway = some fw)
    (accepted : exec (processMessage3 parsed.frame) fw = (.ok reply, live)) :
    (after (handleMessage3 env parsed) self).link.fourway = some live := by
  obtain ⟨msg4, kdes⟩ := reply
  have installed : Keeps (fun s => s.link.fourway = some live) (do
      installHandshakeKeys env live parsed.frame msg4 kdes
      completeHandshake env) :=
    Keeps.bind installHandshakeKeys_fourway fun _ => fourway_of_holds fun _ _ => completeHandshake_holds
  have ends : Ends (handleMessage3 env parsed) self fun _ s => s.link.fourway = some live := by
    apply Ends.get_bind
    rw [held]
    dsimp only
    rw [accepted]
    exact orFail_ends (installed.ends rfl) fun _ kept => kept
  exact ends

theorem retransmission_lost {accepted : EapolKeyFrame} {raw : Octets} {again : ParsedKey}
    (held : self.link.fourway = some live) (ended : live.pendingReplayCounter = none)
    (retransmits : Retransmits live accepted raw again) : ¬(self.frameStep (env, raw)).state.isConnected := by
  have ends : Ends (handleMessage3 env again) self fun _ s => ¬s.state.isConnected := by
    apply Ends.get_bind
    rw [held]
    dsimp only
    rw [processMessage3_over ended]
    exact message3Failed_lost
  rw [WifiIface.frameStep, retransmits.handled]
  exact ends

/-- After every completed handshake, the retransmissions of its Message 3 are all answered exactly if there
are none. -/
theorem retransmissions_answered_iff {reply : Octets × KeyDataKdes} (held : self.link.fourway = some fw)
    (accepted : exec (processMessage3 parsed.frame) fw = (.ok reply, live))
    (connected : (after (handleMessage3 env parsed) self).state.isConnected) {inputs : List (Env × Octets)}
    (again : Retransmissions live parsed.frame live.replayCounter inputs) :
    Admitted WifiIface.frameStep (fun s => s.Answers live) (after (handleMessage3 env parsed) self) inputs ↔
      inputs = [] := by
  constructor
  · intro answered
    cases inputs with
    | nil => rfl
    | cons input inputs =>
      obtain ⟨parsed, retransmits, -⟩ := again
      have kept := answered.1.state
      have lost : ¬((after (handleMessage3 env _) self).frameStep input).state.isConnected :=
        retransmission_lost (handleMessage3_left held accepted) (processMessage3_ended accepted) retransmits
      rw [kept] at lost
      exact absurd connected lost
  · rintro rfl
    trivial

end

section Sample

attribute [local instance] Core.closedTls idleSae idleOwe keyedElements samplePrimitives keyedCodec

def awaitingIface : WifiIface := (associatedIface false).frameStep (sampleKeyFrame none 2 1 [])

def awaitingState : FourWayState := awaitingIface.link.fourway.get (by decide +kernel)

def thirdFrame : ParsedKey :=
  (Elements.parseEapolKey (sampleKeyFrame (some awaitingState) 15 2 (sampleKeys 1)).2).get (by decide +kernel)

def completedIface : WifiIface := after (handleMessage3 willingEnv thirdFrame) awaitingIface

def completedState : FourWayState := after (processMessage3 thirdFrame.frame) awaitingState

def thirdAgain (counter : UInt64) : Env × Octets := sampleKeyFrame (some completedState) 15 counter (sampleKeys 1)

theorem completed_accepts : (exec (processMessage3 thirdFrame.frame) awaitingState).1.isOk := by
  decide +kernel

theorem thirdAgain_retransmits :
    Retransmissions completedState thirdFrame.frame completedState.replayCounter [thirdAgain 3] := by
  refine ⟨(Elements.parseEapolKey (thirdAgain 3).2).get (by decide +kernel), ?_, by decide +kernel, trivial⟩
  refine ⟨by decide +kernel, by decide +kernel, ?_, by decide +kernel, by decide +kernel, ?_⟩
  · exact ⟨by decide +kernel, by decide +kernel, by decide +kernel, by decide +kernel⟩
  · exact FourWayState.exists_micValid_iff.mpr (by decide +kernel)

/-- The handshake of the sample, and one retransmission. -/
theorem retransmissions_answered_once :
    Admitted WifiIface.frameStep (fun s => s.Answers completedState) completedIface [thirdAgain 3] ↔
      [thirdAgain 3] = [] := by
  obtain ⟨reply, accepted⟩ := exec_of_isOk completed_accepts
  have held : awaitingIface.link.fourway = some awaitingState := by decide +kernel
  have connected : (after (handleMessage3 willingEnv thirdFrame) awaitingIface).state.isConnected := by
    decide +kernel
  exact retransmissions_answered_iff held accepted connected thirdAgain_retransmits

/-- A retransmission ends the connection; nothing is sent for it. -/
theorem retransmission_disconnects :
    Retransmissions completedState thirdFrame.frame completedState.replayCounter [thirdAgain 3] ∧
    completedIface.state.isConnected ∧ (completedIface.frameStep (thirdAgain 3)).state = .failed ∧
    (completedIface.frameStep (thirdAgain 3)).trace = completedIface.trace ∧
    ¬Admitted WifiIface.frameStep (fun s => s.Answers completedState) completedIface [thirdAgain 3] := by
  refine ⟨thirdAgain_retransmits, by decide +kernel, by decide +kernel, by decide +kernel, ?_⟩
  intro answered
  exact absurd answered.1.state (by decide +kernel)

end Sample

end Shuli.Wifi
