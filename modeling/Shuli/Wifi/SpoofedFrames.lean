import Shuli.Core.EapVerdict
import Shuli.Wifi.KeyInstallation

/-!
What a frame of the control port can do to an established link without a MIC of the live keys. Message 1
and EAP packets have no MIC at all, so the handler acts on them; each of its error paths ends the
connection.
-/

namespace Shuli.Wifi

open Fallible
open Shuli.Core (WifiError EapPacket EapPeer Tls)

def withdrawnPmksas (trace : List Action) : List (Octets × MacAddr) := trace.filterMap fun
  | .request (.delPmksa pmkid bssid) => some (pmkid, bssid)
  | _ => none

def ParsedKey.isMessage1 (parsed : ParsedKey) : Prop := !parsed.isRequest ∧ !parsed.hasMic ∧ parsed.hasAck

def ParsedKey.isMessage3 (parsed : ParsedKey) : Prop :=
  !parsed.isRequest ∧ parsed.hasMic ∧ parsed.isSecure ∧ parsed.isPairwise

section

variable [Tls] [Sae] [Owe]

def WifiIface.committedKeys (self : WifiIface) : Option Ptk × Option Octets × UInt8 × Bool × UInt64 :=
  (self.link.fourway.map FourWayState.committed).getD (none, none, 0, false, 0)

/-- The link is up as before. -/
structure WifiIface.Undisturbed (s t : WifiIface) : Prop where
  connected : t.state.isConnected
  committed : t.committedKeys = s.committedKeys
  installed : installedKeys t.trace = installedKeys s.trace
  cached : ∀ entry ∈ s.pmksaCache, entry ∈ t.pmksaCache
  withdrawn : withdrawnPmksas t.trace = withdrawnPmksas s.trace
  error : t.lastError = s.lastError

open WifiIface (Undisturbed)

variable {env : Env} {self : WifiIface}

theorem WifiIface.Undisturbed.refl (connected : self.state.isConnected) : self.Undisturbed self :=
  ⟨connected, rfl, rfl, fun _ mem => mem, rfl, rfl⟩

theorem not_undisturbed {t : WifiIface} (lost : ¬t.state.isConnected) : ¬self.Undisturbed t :=
  fun undisturbed => lost undisturbed.connected

def WifiIface.Sends (self : WifiIface) (env : Env) : Prop :=
  (self.controlPort = .rawEapol → self.rawPortOpen) ∧ env.answer self.trace.length = .ok ()

/-- An answer on the control port is sent, or ends the attempt. -/
theorem sendControlPortFrame_outcome {bssid : MacAddr} {frame : Octets} :
    Ends (orFail (sendControlPortFrame env bssid frame)) self fun _ t =>
      self.Sends env ∧ t = self.record (.request (.controlPortFrame bssid frame)) ∨
        ¬self.Sends env ∧ t.state = .failed := by
  apply Ends.tryCatch (R := fun result t => match result with
    | .ok _ => self.Sends env ∧ t = self.record (.request (.controlPortFrame bssid frame))
    | .error _ => ¬self.Sends env)
  · apply Ends.get_bind
    apply Ends.ite
    · rintro ⟨raw, closed⟩ ⟨opened, -⟩
      rw [opened raw] at closed
      cases closed
    · intro ready
      apply Ends.get_bind
      have opened (raw : self.controlPort = .rawEapol) : self.rawPortOpen := by
        by_contra closed
        exact ready ⟨raw, by rw [Bool.eq_false_iff.mpr closed]; rfl⟩
      rcases answer : env.answer self.trace.length with e | ⟨⟩
      · rintro ⟨-, taken⟩
        cases answer.symm.trans taken
      · exact ⟨⟨opened, answer⟩, rfl⟩
  · exact fun _ _ sent => .inl sent
  · exact fun _ _ unsent => .inr ⟨unsent, rfl⟩

theorem answered_undisturbed {bssid : MacAddr} {frame : Octets} {s : WifiIface} (undisturbed : self.Undisturbed s) : 
    Ends (orFail (sendControlPortFrame env bssid frame)) s fun _ t => self.Undisturbed t ↔ s.Sends env := by
  apply sendControlPortFrame_outcome.mono
  rintro _ t (⟨sends, rfl⟩ | ⟨fails, lost⟩)
  · refine iff_of_true ⟨undisturbed.connected, undisturbed.committed, ?_, undisturbed.cached, ?_,
      undisturbed.error⟩ sends
    · rw [← undisturbed.installed]
      exact List.filterMap_append.trans (List.append_nil _)
    · rw [← undisturbed.withdrawn]
      exact List.filterMap_append.trans (List.append_nil _)
  · refine iff_of_false (not_undisturbed ?_) fails
    rw [lost]
    exact Bool.false_ne_true

/-- The EAP packets that leave the link up. -/
def WifiIface.ToleratesEap (self : WifiIface) (env : Env) (eap : Octets) : Prop :=
  ∀ packet peer, EapPacket.parse eap = some packet → self.auth.eapPeer = some peer →
    peer.Accepts packet ∧ (peer.Replies packet → self.Sends env)

theorem handleEapFrame_undisturbed {eap : Octets} (connected : self.state.isConnected) :
    Ends (handleEapFrame env eap) self fun _ t => self.Undisturbed t ↔ self.ToleratesEap env eap := by
  have unread (absent : EapPacket.parse eap = none ∨ self.auth.eapPeer = none) :
      self.Undisturbed self ↔ self.ToleratesEap env eap := by
    refine iff_of_true (.refl connected) fun packet peer parsed held => ?_
    rcases absent with none | none
    · cases none.symm.trans parsed
    · cases none.symm.trans held
  apply Ends.get_bind
  rcases parsed : EapPacket.parse eap with _ | packet
  · exact unread (.inl parsed)
  rcases held : self.auth.eapPeer with _ | peer
  · exact unread (.inr held)
  have tolerates : self.ToleratesEap env eap ↔
      peer.Accepts packet ∧ (peer.Replies packet → self.Sends env) := by
    constructor
    · exact fun all => all packet peer parsed held
    · intro both other another same found
      cases parsed.symm.trans same
      cases held.symm.trans found
      exact both
  rw [tolerates]
  have outcome : Ends (EapPeer.handlePacket packet) peer _ := EapPeer.handlePacket_outcome
  unfold Ends at outcome
  dsimp only
  generalize exec (EapPeer.handlePacket packet) peer = result at outcome ⊢
  obtain ⟨reply, later⟩ := result
  apply Ends.modify_bind
  have fed : self.Undisturbed { self with auth.eapPeer := some later } :=
    ⟨connected, rfl, rfl, fun _ mem => mem, rfl, rfl⟩
  cases outcome with
  | wait accepted silent =>
    exact iff_of_true fed ⟨accepted, fun replies => absurd replies silent⟩
  | respond accepted replies =>
    apply (answered_undisturbed fed).mono
    intro _ t undisturbed
    rw [undisturbed]
    exact ⟨fun sends => ⟨accepted, fun _ => sends⟩, fun both => both.2 replies⟩
  | success keyed silent =>
    rcases key : later.msk with _ | msk
    · refine iff_of_false (not_undisturbed Bool.false_ne_true) fun both => ?_
      have present := keyed.mp both.1
      rw [key] at present
      cases present
    · refine iff_of_true ⟨connected, rfl, rfl, fun _ mem => mem, rfl, rfl⟩
        ⟨keyed.mpr ?_, fun replies => absurd replies silent⟩
      rw [key]
      rfl
  | failure refused => exact iff_of_false (not_undisturbed Bool.false_ne_true) fun both => refused both.1
  | error refused => exact iff_of_false (not_undisturbed Bool.false_ne_true) fun both => refused both.1

variable {fw : Option FourWayState}

theorem fourway_of_holds {α : Type} {call : Iface α} (keeps : ∀ tks gtks, Keeps (WifiIface.Holds fw tks gtks) call) :
    Keeps (fun s => s.link.fourway = fw) call :=
  fun s held => (keeps _ _ s ⟨held, rfl, rfl⟩).fourway

theorem request_fourway {req : Request} :
    Keeps (fun s => s.link.fourway = fw) (request env req) :=
  fun s held => (request_ends ⟨held, rfl, rfl⟩ : Ends (request env req) s _).fourway

theorem installHandshakeKeys_fourway {live : FourWayState} {frame : EapolKeyFrame} {msg4 : Octets}
    {kdes : KeyDataKdes} :
    Keeps (fun s => s.link.fourway = fw) (installHandshakeKeys env live frame msg4 kdes) := by
  refine Keeps.get_bind fun self _ => Keeps.bind (Keeps.when fun _ => Keeps.forM fun _ _ => request_fourway)
    fun _ => ?_
  refine Keeps.bind (fourway_of_holds fun _ _ => sendControlPortFrame_kept) fun _ => ?_
  refine Keeps.bind (Keeps.forM fun _ _ => request_fourway) fun _ => ?_
  refine Keeps.bind (Keeps.forM fun _ _ => request_fourway) fun _ => ?_
  exact fourway_of_holds fun _ _ => installManagementKeys_holds

theorem driverDelPmksa_total {entry : PmksaEntry} : Total (driverDelPmksa env entry : Iface Unit) :=
  Total.bind (bestEffort_total _) fun _ => Total.pure _

variable [Elements]

/-- A first Message 1 finds a key and, with OCV, an operating channel. -/
def WifiIface.Starts (self : WifiIface) : Prop :=
  (if self.link.bssInfo.security.isFt then self.link.ft.isSome else self.handshakeKey.isSome) ∧
    (self.link.network.ocv ∧ self.link.bssInfo.apOcvCapable →
      (Elements.ociFromFreq self.link.bssInfo.freqMhz).isSome)

theorem enableOcv_isSome {fw : FourWayState} {f : FourWayState → FourWayState} :
    ((self.link.enableOcv fw).bind fun fw => some (f fw)).isSome ↔
    (self.link.network.ocv ∧ self.link.bssInfo.apOcvCapable →
      (Elements.ociFromFreq self.link.bssInfo.freqMhz).isSome) := by
  unfold Link.enableOcv
  split
  · simp_all
  · split
    · simp_all
    · rcases Elements.ociFromFreq self.link.bssInfo.freqMhz with _ | oci
      · simp_all
      · simp

theorem newFourway_starts {fresh : Block 32} : (self.newFourway fresh).isSome ↔ self.Starts := by
  unfold WifiIface.newFourway WifiIface.Starts
  dsimp only
  split
  · rcases self.link.ft with _ | ft
    · simp
    · simp [enableOcv_isSome]
  · rcases self.handshakeKey with _ | key
    · simp
    · simp [enableOcv_isSome]

/-- Message 1 is within its counters, and its answer is sent. -/
def WifiIface.ToleratesMessage1 (self : WifiIface) (env : Env) (parsed : ParsedKey) : Prop :=
  self.link.bssInfo.security.isFt ∧ self.link.ft.isNone ∨
    (match self.link.fourway with
      | some fw => fw.Admits1 parsed.frame.keyNonce parsed.frame.replayCounter
      | none => self.Starts) ∧ self.Sends env

/-- The 4-way state that answers Message 1. -/
theorem message1_reaches {anonce : Block 32} {replayCounter : UInt64} :
    (match self.link.fourway with
      | some fw => fw.Admits1 anonce replayCounter
      | none => self.Starts) ↔
    ∃ fw, self.link.fourway.or (self.newFourway (env.nonce 0)) = some fw ∧
      fw.Admits1 anonce replayCounter := by
  rcases self.link.fourway with _ | fw
  · constructor
    · intro starts
      obtain ⟨fw, made⟩ : ∃ fw, self.newFourway (env.nonce 0) = some fw :=
        Option.isSome_iff_exists.mp (newFourway_starts.mpr starts)
      have unused := newFourway_unused made
      refine ⟨fw, made, fun set => ?_, fun pending => ?_⟩
      · rw [show fw.replayCounterSet = false from congrArg (·.2.2.2.1) unused.committed] at set
        cases set
      · rw [unused.pending] at pending
        cases pending
    · rintro ⟨fw, made, -⟩
      exact newFourway_starts.mp (Option.isSome_iff_exists.mpr ⟨fw, made⟩)
  · simp

variable [Primitives] [EapolCodec] {parsed : ParsedKey}

theorem handleMessage1_undisturbed {raw : Octets} (connected : self.state.isConnected) :
    Ends (handleMessage1 env raw parsed) self fun _ t =>
      self.Undisturbed t ↔ self.ToleratesMessage1 env parsed := by
  apply Ends.get_bind
  apply Ends.ite
  · exact fun waits => iff_of_true ⟨connected, rfl, rfl, fun _ mem => mem, rfl, rfl⟩ (.inl waits)
  intro ready
  unfold WifiIface.ToleratesMessage1
  rw [or_iff_right ready, message1_reaches]
  rcases found : self.link.fourway.or (self.newFourway (env.nonce 0)) with _ | fw
  · refine iff_of_false (not_undisturbed Bool.false_ne_true) ?_
    rintro ⟨⟨fw, made, -⟩, -⟩
    cases made
  have committed : fw.committed = self.committedKeys := by
    unfold WifiIface.committedKeys
    rcases Option.or_eq_some_iff.mp found with held | ⟨none, made⟩
    · rw [held]
      rfl
    · rw [none, (newFourway_unused made).committed]
      rfl
  have reaches : (∃ other, some fw = some other ∧
      other.Admits1 parsed.frame.keyNonce parsed.frame.replayCounter) ↔
      fw.Admits1 parsed.frame.keyNonce parsed.frame.replayCounter := by simp
  rw [reaches]
  have outcome : Ends _ fw _ := processMessage1_outcome (env.nonce 1) parsed.frame.keyNonce
    parsed.frame.replayCounter parsed.frame.descVersion
  unfold Ends at outcome
  dsimp only
  generalize exec (processMessage1 (env.nonce 1) parsed.frame.keyNonce parsed.frame.replayCounter
    parsed.frame.descVersion) fw = result at outcome ⊢
  obtain ⟨reply, later⟩ := result
  cases outcome with
  | refused refusal =>
    exact iff_of_false (not_undisturbed Bool.false_ne_true) fun both => refusal both.1
  | staged admitted =>
    rw [and_iff_right admitted]
    exact answered_undisturbed ⟨connected, committed, rfl, fun _ mem => mem, rfl, rfl⟩

omit [EapolCodec] in
theorem pmksaFallback_lost : Ends (pmksaFallback env) self fun _ t => ¬t.state.isConnected := by
  have restarted (s : WifiIface) : Ends (orFail do
      sendOutAuthRequest env
      modify (·.setState .authenticating)) s fun _ t => ¬t.state.isConnected := by
    apply Ends.tryCatch (R := fun result t => result = .ok () → ¬t.state.isConnected)
    · apply Ends.bind (R := fun _ _ => True) trivial
      · exact fun _ _ _ failed => nomatch failed
      · exact fun _ _ _ _ => Bool.false_ne_true
    · exact fun _ _ lost => lost rfl
    · exact fun _ _ _ => Bool.false_ne_true
  apply Ends.get_bind
  rcases self.link.pmksaInUse with _ | entry
  · exact restarted self
  · apply Ends.modify_bind
    exact driverDelPmksa_total.bind_ends fun _ t => restarted t

omit [EapolCodec] in
theorem message3Failed_lost {error : WifiError} :
    Ends (message3Failed env error) self fun _ t => ¬t.state.isConnected := by
  apply Ends.get_bind
  apply Ends.ite
  · exact fun _ => pmksaFallback_lost
  intro _
  apply Ends.ite
  · exact fun _ => Bool.false_ne_true
  · exact fun _ => Bool.false_ne_true

/-- Message 3 never leaves the link as it is: a refused one ends the connection, and an accepted one
brings a new counter. -/
theorem handleMessage3_disturbs :
    Ends (handleMessage3 env parsed) self fun _ t => ¬self.Undisturbed t := by
  apply Ends.get_bind
  rcases held : self.link.fourway with _ | fw
  · exact not_undisturbed Bool.false_ne_true
  have counts := (fw.effect_of_call (.message3 parsed.frame)).counts.1
  simp only [FourWayState.acceptedBy, FourWayState.step, after] at counts
  apply Ends.modify_bind
  generalize exec (processMessage3 parsed.frame) fw = result at counts ⊢
  obtain ⟨e | ⟨msg4, kdes⟩, later⟩ := result
  · exact message3Failed_lost.mono fun _ _ lost => not_undisturbed lost
  · obtain ⟨newer, set, counter⟩ := counts _ rfl
    have changed : later.committed ≠ fw.committed := by
      intro same
      have kept : later.replayCounterSet = fw.replayCounterSet ∧ later.replayCounter = fw.replayCounter :=
        ⟨congrArg (·.2.2.2.1) same, congrArg (·.2.2.2.2) same⟩
      have above := newer (kept.1.symm.trans set)
      rw [← kept.2, counter] at above
      exact UInt64.lt_irrefl _ above
    have installed : Keeps (fun s => s.link.fourway = some later) (do
        installHandshakeKeys env later parsed.frame msg4 kdes
        completeHandshake env) :=
      Keeps.bind installHandshakeKeys_fourway fun _ => fourway_of_holds fun _ _ => completeHandshake_holds
    apply Ends.mono (orFail_ends (installed.ends rfl) fun _ kept => kept)
    intro _ t kept undisturbed
    apply changed
    have same := undisturbed.committed
    rw [WifiIface.committedKeys, WifiIface.committedKeys, kept, held] at same
    exact same

omit [Elements] in
/-- A group message without a MIC of the live KCK is ignored. -/
theorem handleGroupRekey_undisturbed (connected : self.state.isConnected)
    (unsigned : ∀ fw ptk, self.link.fourway = some fw → fw.ptk = some ptk → ¬fw.MicValid ptk parsed.frame) :
    Ends (handleGroupRekey env parsed) self fun _ t => self.Undisturbed t := by
  apply Ends.get_bind
  rcases held : self.link.fourway with _ | fw
  · exact .refl connected
  have outcome : Ends (processGroupRekey parsed.frame) fw _ := processGroupRekey_outcome
  unfold Ends at outcome
  apply Ends.modify_bind
  generalize exec (processGroupRekey parsed.frame) fw = result at outcome ⊢
  obtain ⟨reply, later⟩ := result
  have refuse (admitted : fw.AdmitsGroup parsed.frame) : False := by
    obtain ⟨ptk, live, valid⟩ := admitted.mic
    exact unsigned fw ptk held live valid
  cases outcome with
  | refused =>
    refine ⟨connected, ?_, rfl, fun _ mem => mem, rfl, rfl⟩
    rw [WifiIface.committedKeys, WifiIface.committedKeys, held]
    rfl
  | unread admitted => exact (refuse admitted).elim
  | taken admitted => exact (refuse admitted).elim

def WifiIface.CommittedMic (self : WifiIface) (raw : Octets) : Prop :=
  ∃ fw ptk parsed, self.link.fourway = some fw ∧ fw.ptk = some ptk ∧
    Elements.parseEapolKey raw = some parsed ∧ parsed.hasMic ∧ fw.MicValid ptk parsed.frame

theorem committedMic_iff {raw : Octets} : self.CommittedMic raw ↔ self.link.fourway.any fun fw =>
    fw.ptk.any fun ptk => (Elements.parseEapolKey raw).any fun parsed =>
      parsed.hasMic && decide (fw.MicValid ptk parsed.frame) := by
  simp only [Option.any_eq_true, Bool.and_eq_true, decide_eq_true_eq]
  constructor
  · rintro ⟨fw, ptk, parsed, held, live, key, signed⟩
    exact ⟨fw, held, ptk, live, parsed, key, signed⟩
  · rintro ⟨fw, held, ptk, live, parsed, key, signed⟩
    exact ⟨fw, ptk, parsed, held, live, key, signed⟩

instance (self : WifiIface) (raw : Octets) : Decidable (self.CommittedMic raw) :=
  decidable_of_iff _ committedMic_iff.symm

/-- The frames without such a MIC that leave the link up. -/
structure WifiIface.Tolerates (s : WifiIface) (env : Env) (raw : Octets) : Prop where
  eap : ∀ eap, parseEapolEapFrame raw = some eap → s.ToleratesEap env eap
  message1 : ∀ parsed, parseEapolEapFrame raw = none → Elements.parseEapolKey raw = some parsed →
    parsed.isMessage1 → s.ToleratesMessage1 env parsed
  message3 : ∀ parsed, parseEapolEapFrame raw = none → Elements.parseEapolKey raw = some parsed →
    ¬parsed.isMessage3

/-- A frame without a MIC of the live keys leaves an established link as it is exactly when it is no
Message 3, no Message 1 with an old or reused counter, no EAP packet that ends the authentication, and its
answer, if it asks for one, is sent. -/
theorem undisturbed_iff_tolerates (self : WifiIface) (env : Env) (raw : Octets)
    (connected : self.state.isConnected) (unsigned : ¬self.CommittedMic raw) :
    self.Undisturbed (after (handleControlPortFrame env raw) self) ↔ self.Tolerates env raw := by
  suffices ends : Ends (handleControlPortFrame env raw) self fun _ t =>
      self.Undisturbed t ↔ self.Tolerates env raw from ends
  unfold handleControlPortFrame
  rcases framed : parseEapolEapFrame raw with _ | eap
  · rcases key : Elements.parseEapolKey raw with _ | parsed
    · refine iff_of_true (.refl connected) ⟨?_, ?_, ?_⟩
      · exact fun eap same => nomatch framed.symm.trans same
      · exact fun parsed _ same => nomatch key.symm.trans same
      · exact fun parsed _ same => nomatch key.symm.trans same
    have tolerates : self.Tolerates env raw ↔
        (parsed.isMessage1 → self.ToleratesMessage1 env parsed) ∧ ¬parsed.isMessage3 := by
      constructor
      · exact fun all => ⟨all.message1 parsed framed key, all.message3 parsed framed key⟩
      · refine fun both => ⟨?_, ?_, ?_⟩
        · exact fun eap same => nomatch framed.symm.trans same
        · intro other _ same
          cases key.symm.trans same
          exact both.1
        · intro other _ same
          cases key.symm.trans same
          exact both.2
    rw [tolerates]
    apply Ends.ite
    · intro asks
      have request {P : Prop} (other : !parsed.isRequest ∧ P) : False := by
        rw [asks] at other
        cases other.1
      exact iff_of_true (.refl connected) ⟨fun first => (request first).elim, request⟩
    intro asks
    have other : !parsed.isRequest := by
      rw [Bool.eq_false_iff.mpr asks]
      rfl
    apply Ends.ite
    · intro first
      have message1 : parsed.isMessage1 := ⟨other, first⟩
      have message3 : ¬parsed.isMessage3 := by
        rintro ⟨-, mic, -⟩
        rw [mic] at first
        cases first.1
      apply (handleMessage1_undisturbed connected).mono
      intro _ t undisturbed
      rw [undisturbed]
      exact ⟨fun tolerated => ⟨fun _ => tolerated, message3⟩, fun both => both.1 message1⟩
    intro first
    apply Ends.ite
    · intro third
      apply handleMessage3_disturbs.mono
      exact fun _ t disturbed => iff_of_false disturbed fun both => both.2 ⟨other, third⟩
    intro third
    have tolerated : (parsed.isMessage1 → self.ToleratesMessage1 env parsed) ∧ ¬parsed.isMessage3 :=
      ⟨fun message1 => absurd message1.2 first, fun message3 => third message3.2⟩
    apply Ends.ite
    · intro group
      apply (handleGroupRekey_undisturbed connected ?_).mono
      · exact fun _ t undisturbed => iff_of_true undisturbed tolerated
      · exact fun fw ptk held live valid => unsigned ⟨fw, ptk, parsed, held, live, key, group.1, valid⟩
    · exact fun _ => iff_of_true (.refl connected) tolerated
  · have tolerates : self.Tolerates env raw ↔ self.ToleratesEap env eap := by
      constructor
      · exact fun all => all.eap eap framed
      · refine fun one => ⟨?_, ?_, ?_⟩
        · intro other same
          cases framed.symm.trans same
          exact one
        · exact fun parsed none => nomatch framed.symm.trans none
        · exact fun parsed none => nomatch framed.symm.trans none
    rw [tolerates]
    exact handleEapFrame_undisturbed connected

end

section Sample

attribute [local instance] Core.closedTls idleSae idleOwe keyedElements samplePrimitives keyedCodec

def connectedIface : WifiIface :=
  runInputs WifiIface.frameStep (associatedIface false) (rekeyFrames.take 2)

def spoofedMessage1 (replayCounter : UInt64) : Octets := (sampleKeyFrame none 2 replayCounter []).2

def forgedMessage3 : Octets := (sampleKeyFrame none 15 3 []).2

/-- A Message 1 with a newer counter leaves the link up. -/
theorem undisturbed_message1 :
    connectedIface.state.isConnected ∧ ¬connectedIface.CommittedMic (spoofedMessage1 3) ∧
      connectedIface.Undisturbed
        (after (handleControlPortFrame willingEnv (spoofedMessage1 3)) connectedIface) := by
  have connected : connectedIface.state.isConnected := by decide +kernel
  have unsigned : ¬connectedIface.CommittedMic (spoofedMessage1 3) := by decide +kernel
  refine ⟨connected, unsigned, ?_⟩
  apply (undisturbed_iff_tolerates connectedIface willingEnv (spoofedMessage1 3) connected unsigned).mpr
  have framed : parseEapolEapFrame (spoofedMessage1 3) = none := by decide +kernel
  have admits : connectedIface.link.fourway.any fun fw => (Elements.parseEapolKey (spoofedMessage1 3)).all
      fun parsed => decide (fw.Admits1 parsed.frame.keyNonce parsed.frame.replayCounter) := by
    decide +kernel
  obtain ⟨fw, held, admits⟩ := (Option.any_eq_true _ _).mp admits
  refine ⟨?_, ?_, ?_⟩
  · exact fun eap same => nomatch framed.symm.trans same
  · intro parsed _ key _
    rw [key] at admits
    refine .inr ⟨?_, by decide +kernel, by decide +kernel⟩
    rw [held]
    exact of_decide_eq_true admits
  · have other : (Elements.parseEapolKey (spoofedMessage1 3)).all fun parsed => !parsed.hasMic := by
      decide +kernel
    rintro parsed _ key ⟨-, mic, -⟩
    rw [key] at other
    rw [Option.all_some, mic] at other
    cases other

/-- A replayed Message 1 and a Message 3 with a bad MIC end an established connection. -/
theorem spoofed_frames_disturb :
    connectedIface.state.isConnected ∧ ∀ raw ∈ [spoofedMessage1 1, forgedMessage3],
      ¬connectedIface.CommittedMic raw ∧
      (after (handleControlPortFrame willingEnv raw) connectedIface).state = .failed ∧
      ¬connectedIface.Undisturbed (after (handleControlPortFrame willingEnv raw) connectedIface) := by
  have run : connectedIface.state.isConnected ∧ ∀ raw ∈ [spoofedMessage1 1, forgedMessage3],
      ¬connectedIface.CommittedMic raw ∧
      (after (handleControlPortFrame willingEnv raw) connectedIface).state = .failed := by
    decide +kernel
  refine ⟨run.1, fun raw mem => ⟨(run.2 raw mem).1, (run.2 raw mem).2, not_undisturbed ?_⟩⟩
  rw [(run.2 raw mem).2]
  exact Bool.false_ne_true

end Sample

end Shuli.Wifi
