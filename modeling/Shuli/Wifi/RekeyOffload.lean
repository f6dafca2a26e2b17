import Shuli.Wifi.KeyInstallation

/-!
The keys with which the driver rekeys the group on its own. The driver gets them after Message 3, after
an FT roam and after each group key handshake. `tryOffloadRekey` takes them from the handshake in
progress, so a Message 1 that anyone may send before a group key handshake puts the staged PTK in the
place of the live one.
-/

namespace Shuli.Wifi

open Fallible
open Shuli.Core (WifiError Tls)

structure RekeyKeys where
  kck : Octets
  kek : Octets
  replayCtr : Octets
  deriving DecidableEq, Repr

def offloads (trace : List Action) : List RekeyKeys := trace.filterMap fun
  | .request (.setRekeyOffload kek kck replayCtr _) => some ⟨kck, kek, replayCtr⟩
  | _ => none

theorem offloads_append (trace more : List Action) :
    offloads (trace ++ more) = offloads trace ++ offloads more := List.filterMap_append

def RekeyKeys.of (ptk : Ptk) (counter : UInt64) : RekeyKeys :=
  ⟨(FourWayState.kckOf ptk).val, (FourWayState.kekOf ptk).val, be64 counter⟩

/-- The committed PTK of a connection and the replay counter of the last accepted frame. -/
structure KeyLedger where
  ptk : Option Ptk
  counter : UInt64
  deriving DecidableEq, Repr

/-- Only keys of the ledger were handed over since the trace showed `before`. -/
def KeyLedger.Covers (ledger : KeyLedger) (before : List RekeyKeys) (trace : List Action) : Prop :=
  ∃ more, offloads trace = before ++ more ∧
    ∀ keys ∈ more, ∃ ptk, ledger.ptk = some ptk ∧ keys = .of ptk ledger.counter

theorem KeyLedger.any_iff {ledger : KeyLedger} {keys : RekeyKeys} :
    (ledger.ptk.any fun ptk => keys = .of ptk ledger.counter) ↔
      ∃ ptk, ledger.ptk = some ptk ∧ keys = .of ptk ledger.counter := by
  cases ledger.ptk with
  | none => simp
  | some ptk => simp

instance (ledger : KeyLedger) (before : List RekeyKeys) (trace : List Action) :
    Decidable (ledger.Covers before trace) :=
  decidable_of_iff ((offloads trace).take before.length = before ∧
      ∀ keys ∈ (offloads trace).drop before.length,
        ledger.ptk.any fun ptk => keys = .of ptk ledger.counter) <| by
    constructor
    · rintro ⟨start, all⟩
      refine ⟨(offloads trace).drop before.length, ?_, fun keys mem => KeyLedger.any_iff.mp (all keys mem)⟩
      exact (List.take_append_drop before.length (offloads trace)).symm.trans (congrArg (· ++ _) start)
    · rintro ⟨more, same, all⟩
      rw [same, List.take_left, List.drop_left]
      exact ⟨rfl, fun keys mem => KeyLedger.any_iff.mpr (all keys mem)⟩

theorem KeyLedger.covers_self (ledger : KeyLedger) (trace : List Action) :
    ledger.Covers (offloads trace) trace := ⟨[], (List.append_nil _).symm, fun _ mem => (by cases mem)⟩

theorem KeyLedger.Covers.append {ledger : KeyLedger} {before : List RekeyKeys} {trace more : List Action}
    (covers : ledger.Covers before trace)
    (live : ∀ keys ∈ offloads more, ∃ ptk, ledger.ptk = some ptk ∧ keys = .of ptk ledger.counter) :
    ledger.Covers before (trace ++ more) := by
  obtain ⟨handed, same, all⟩ := covers
  refine ⟨handed ++ offloads more, ?_, fun keys mem => ?_⟩
  · rw [offloads_append, same, List.append_assoc]
  · exact (List.mem_append.mp mem).elim (all keys) (live keys)

/-- The 4-way state has the PTK of the ledger, and only keys of the ledger were handed over. -/
structure Settled (ledger : KeyLedger) (before : List RekeyKeys) (held : Option FourWayState)
    (trace : List Action) : Prop where
  recorded : ∀ fw ptk, held = some fw → fw.ptk = some ptk → ledger.ptk = some ptk
  covers : ledger.Covers before trace

/-- Besides, nothing is staged and the counter is the one of the ledger. -/
structure Offerable (ledger : KeyLedger) (before : List RekeyKeys) (held : Option FourWayState)
    (trace : List Action) : Prop extends Settled ledger before held trace where
  clean : ∀ fw, held = some fw → fw.tptk = none ∧ fw.replayCounter = ledger.counter

section

variable {ledger : KeyLedger} {before : List RekeyKeys} {held : Option FourWayState} {trace : List Action}

theorem Settled.request {req : Request} (silent : offloads [.request req] = [])
    (settled : Settled ledger before held trace) :
    Settled ledger before held (trace ++ [.request req]) :=
  ⟨settled.recorded, settled.covers.append fun _ mem => (by rw [silent] at mem; cases mem)⟩

theorem Offerable.request {req : Request} (silent : offloads [.request req] = [])
    (offerable : Offerable ledger before held trace) :
    Offerable ledger before held (trace ++ [.request req]) :=
  ⟨offerable.toSettled.request silent, offerable.clean⟩

theorem Request.Plain.silent {req : Request} (plain : req.Plain) : offloads [.request req] = [] := by
  cases req with
  | setRekeyOffload => cases plain
  | _ => rfl

instance Settled.tolerant : Tolerant (Settled ledger before) where
  request plain settled := settled.request plain.silent
  connected _ settled := ⟨settled.recorded, settled.covers.append fun _ mem => (by cases mem)⟩

instance Offerable.tolerant : Tolerant (Offerable ledger before) where
  request plain offerable := offerable.request plain.silent
  connected cause offerable := ⟨Tolerant.connected cause offerable.toSettled, offerable.clean⟩

theorem Settled.drop (settled : Settled ledger before held trace) : Settled ledger before none trace :=
  ⟨fun _ _ absent => (by cases absent), settled.covers⟩

/-- The keys that `tryOffloadRekey` takes from a clean 4-way state. -/
theorem Offerable.offload {fw : FourWayState} {kck : Block kckLen} {kek : Block kekLen} (akm : AkmSuite)
    (offerable : Offerable ledger before (some fw) trace) (first : fw.kck = some kck) (second : fw.kek = some kek) :
    Offerable ledger before (some fw)
      (trace ++ [.request (.setRekeyOffload kek.val kck.val (be64 fw.replayCounter) akm)]) := by
  obtain ⟨unstaged, counter⟩ := offerable.clean fw rfl
  obtain ⟨ptk, handshake, rfl⟩ := Option.map_eq_some_iff.mp first
  have live : fw.ptk = some ptk := by rwa [FourWayState.handshakePtk, unstaged] at handshake
  have same : kek = FourWayState.kekOf ptk := by
    rw [FourWayState.kek, handshake] at second
    exact (Option.some.inj second).symm
  refine ⟨⟨offerable.recorded, offerable.covers.append fun keys mem => ?_⟩, offerable.clean⟩
  refine ⟨ptk, offerable.recorded fw ptk rfl live, ?_⟩
  obtain rfl := List.mem_singleton.mp mem
  rw [same, counter]
  rfl

end

/-- What concerns the keys of a connection: a frame of the control port, the response to an FT
reassociation, and the counter that the driver reports after a rekey of its own. -/
inductive KeyInput
  | frame (raw : Octets)
  | ftResponse (ies : Octets)
  | driverReport (bssid : MacAddr) (replayCtr : Block 8)
  deriving DecidableEq, Repr

namespace FourWayState

variable [Primitives] [EapolCodec]

/-- The PTK that a call commits: an accepted Message 3 commits the one that it was verified with. -/
def commits (s : FourWayState) : HandshakeCall → Option Ptk
  | .message3 frame => if (exec (processMessage3 frame) s).1.isOk then s.handshakePtk else none
  | _ => none

end FourWayState

def KeyLedger.afterCall [Primitives] [EapolCodec] (ledger : KeyLedger) :
    Option (FourWayState × HandshakeCall) → KeyLedger
  | none => ledger
  | some (fw, call) =>
    match fw.acceptedBy call with
    | none => ledger
    | some counter => ⟨(fw.commits call).or ledger.ptk, counter⟩

section

variable [Tls] [Sae] [Owe] [Elements] [Primitives] [EapolCodec]

namespace WifiIface

def keyStep (self : WifiIface) (input : Env × KeyInput) : WifiIface :=
  match input.2 with
  | .frame raw => after (handleControlPortFrame input.1 raw) self
  | .ftResponse ies => after (handleFtAssocResponse input.1 ies) self
  | .driverReport bssid replayCtr => after (handleRekeyOffloadEvent bssid replayCtr) self

/-- What an input does to the ledger. An FT roam that completes begins the counter anew. -/
def note (self : WifiIface) (ledger : KeyLedger) (input : Env × KeyInput) : KeyLedger :=
  match input.2 with
  | .frame raw => ledger.afterCall (self.reached input.1 raw)
  | .ftResponse ies =>
    if (exec (completeFtRoam input.1 ies) self).1.isOk then ⟨self.roam.ftRoam.bind FtRoam.ptk, 0⟩
    else ledger
  | .driverReport bssid replayCtr =>
    if self.link.fourway.isSome ∧ bssid = self.link.bssInfo.bssid then
      { ledger with counter := ofBe64 replayCtr.val }
    else ledger

/-- The ledger has the committed PTK of the interface. -/
def Recorded (self : WifiIface) (ledger : KeyLedger) : Prop :=
  ∀ fw ptk, self.link.fourway = some fw → fw.ptk = some ptk → ledger.ptk = some ptk

/-- No group key handshake is accepted while a PTK is staged. -/
def Unstaged (self : WifiIface) (input : Env × KeyInput) : Prop :=
  match input.2 with
  | .frame raw =>
    match self.reached input.1 raw with
    | some (fw, .groupRekey frame) => (fw.acceptedBy (.groupRekey frame)).isSome → fw.tptk = none
    | _ => True
  | _ => True

end WifiIface

abbrev KeyRun := WifiIface × KeyLedger

def KeyRun.step (run : KeyRun) (input : Env × KeyInput) : KeyRun :=
  (run.1.keyStep input, run.1.note run.2 input)

/-- Whatever the input hands to the driver is of the committed PTK, with the last accepted counter. -/
def KeyRun.HandsLive (run : KeyRun) (input : Env × KeyInput) : Prop :=
  (run.step input).2.Covers (offloads run.1.trace) (run.step input).1.trace

instance (run : KeyRun) (input : Env × KeyInput) : Decidable (run.HandsLive input) :=
  inferInstanceAs (Decidable (KeyLedger.Covers _ _ _))

instance (self : WifiIface) (input : Env × KeyInput) : Decidable (self.Unstaged input) := by
  unfold WifiIface.Unstaged
  split
  · split <;> infer_instance
  · infer_instance

open WifiIface (Over)

variable {self : WifiIface} {env : Env} {ledger : KeyLedger} {before : List RekeyKeys}

omit [Elements] [Primitives] [EapolCodec] in
theorem tryOffloadRekey_offerable : Keeps (Over (Offerable ledger before)) (tryOffloadRekey env) := by
  refine Keeps.of_ends fun self offerable => Ends.get_bind ?_
  rcases held : self.link.fourway with _ | fw
  · exact offerable
  dsimp only
  split
  · rename_i kck kek first second
    apply bestEffort_records
    have same : Offerable ledger before (some fw) self.trace := held ▸ offerable
    have grown := same.offload (rekeyAkm self.link.bssInfo.security) first second
    rw [← held] at grown
    exact grown
  · exact offerable

omit [Primitives] [EapolCodec] in
instance : Attempting (Over (Settled ledger before)) := Tolerant.attempting Settled.drop

variable {fw : FourWayState}

variable {frame : EapolKeyFrame}

omit [Elements] [Primitives] [EapolCodec] in
theorem installHandshakeKeys_offerable {msg4 : Octets} {kdes : KeyDataKdes} :
    Keeps (Over (Offerable ledger before)) (installHandshakeKeys env fw frame msg4 kdes) := by
  have newKey (key : KeyRequest) :
      Keeps (Over (Offerable ledger before)) (request env (.newKey key) : Iface Unit) :=
    request_grows (Offerable.request rfl)
  refine Keeps.get_bind fun _ _ => Keeps.bind (Keeps.when fun _ => Keeps.forM fun _ _ => newKey _) fun _ =>
    Keeps.bind sendControlPortFrame_kept fun _ =>
      Keeps.bind (Keeps.forM fun _ _ => newKey _) fun _ => Keeps.bind (Keeps.forM fun _ _ => newKey _) fun _ => ?_
  exact installManagementKeys_grows (Offerable.request rfl) (Offerable.request rfl)

omit [Tls] [Sae] [Owe] [Elements] in
theorem afterCall_message3 :
    ledger.afterCall (some (fw, .message3 frame)) = match (exec (processMessage3 frame) fw).1 with
      | .ok _ => ⟨fw.handshakePtk.or ledger.ptk, frame.replayCounter⟩
      | .error _ => ledger := by
  simp only [KeyLedger.afterCall, FourWayState.acceptedBy, FourWayState.commits]
  rcases (exec (processMessage3 frame) fw).1 with error | reply
  · rfl
  · rfl

omit [Tls] [Sae] [Owe] [Elements] in
theorem afterCall_groupRekey :
    ledger.afterCall (some (fw, .groupRekey frame)) = match (exec (processGroupRekey frame) fw).1 with
      | .ok _ => ⟨ledger.ptk, frame.replayCounter⟩
      | .error _ => ledger := by
  simp only [KeyLedger.afterCall, FourWayState.acceptedBy]
  rcases (exec (processGroupRekey frame) fw).1 with error | reply
  · rfl
  · rfl

variable {parsed : ParsedKey}

/-- An accepted Message 3 hands over the PTK that it commits. -/
theorem handleMessage3_settled (found : self.link.fourway = some fw) (recorded : self.Recorded ledger) :
    Ends (handleMessage3 env parsed) self fun _ =>
      Over (Settled (ledger.afterCall (some (fw, .message3 parsed.frame))) (offloads self.trace)) := by
  rw [afterCall_message3]
  apply Ends.get_bind
  rw [found]
  have outcome : Ends (processMessage3 parsed.frame) fw _ := processMessage3_outcome
  unfold Ends at outcome
  apply Ends.modify_bind
  generalize exec (processMessage3 parsed.frame) fw = result at outcome ⊢
  obtain ⟨reply, t⟩ := result
  change Message3Outcome fw parsed.frame reply t at outcome
  have failed {error : WifiError} (same : t.ptk = fw.ptk) :
      Ends (message3Failed env error) { self with link.fourway := some t } fun _ =>
        Over (Settled ledger (offloads self.trace)) := by
    refine message3Failed_kept.ends ⟨fun live ptk here held => ?_, ?_⟩
    · cases here
      exact recorded fw ptk found (same ▸ held)
    · exact ledger.covers_self _
  cases outcome with
  | refused => exact failed rfl
  | unread left => exact failed (by rw [left]; rfl)
  | @promoted msg4 kdes keyId _ left admitted selected source =>
    have live : t.ptk = fw.handshakePtk ∧ t.tptk = none ∧ t.replayCounter = parsed.frame.replayCounter := by
      rw [left]
      rcases kdes.gtk with _ | ⟨index, gtk⟩
      · exact ⟨rfl, rfl, rfl⟩
      · exact ⟨rfl, rfl, rfl⟩
    have offerable : Offerable ⟨fw.handshakePtk.or ledger.ptk, parsed.frame.replayCounter⟩
        (offloads self.trace) (some t) self.trace := by
      refine ⟨⟨fun later ptk here held => ?_, KeyLedger.covers_self _ _⟩, fun later here => ?_⟩
      · cases here
        rw [live.1] at held
        simp [held]
      · cases here
        exact live.2
    refine Ends.mono (R := fun _ => Over (Offerable _ _)) (Keeps.ends ?_ offerable) fun _ _ done => done.toSettled
    exact orFail_kept (Keeps.bind installHandshakeKeys_offerable fun _ =>
      completeHandshake_kept tryOffloadRekey_offerable)

omit [Elements] in
/-- An accepted group key handshake hands over the live PTK, if nothing is staged. -/
theorem handleGroupRekey_settled (found : self.link.fourway = some fw) (recorded : self.Recorded ledger)
    (unstaged : (fw.acceptedBy (.groupRekey parsed.frame)).isSome → fw.tptk = none) :
    Ends (handleGroupRekey env parsed) self fun _ =>
      Over (Settled (ledger.afterCall (some (fw, .groupRekey parsed.frame))) (offloads self.trace)) := by
  rw [afterCall_groupRekey]
  simp only [FourWayState.acceptedBy] at unstaged
  apply Ends.get_bind
  rw [found]
  have outcome : Ends (processGroupRekey parsed.frame) fw _ := processGroupRekey_outcome
  unfold Ends at outcome
  apply Ends.modify_bind
  generalize exec (processGroupRekey parsed.frame) fw = result at outcome unstaged ⊢
  obtain ⟨reply, t⟩ := result
  have settled (next : KeyLedger) (same : next.ptk = ledger.ptk) (held : t.ptk = fw.ptk) :
      Settled next (offloads self.trace) (some t) self.trace := by
    refine ⟨fun later ptk here live => ?_, next.covers_self _⟩
    cases here
    rw [same]
    exact recorded fw ptk found (held ▸ live)
  cases outcome with
  | refused => exact settled ledger rfl rfl
  | unread => exact settled ledger rfl rfl
  | @taken msg2 gtk kdes index admitted present source =>
    have offerable : Offerable ⟨ledger.ptk, parsed.frame.replayCounter⟩ (offloads self.trace)
        (some ((fw.acceptCounter parsed.frame.replayCounter).setGtk index gtk)) self.trace := by
      refine ⟨settled _ rfl rfl, fun later here => ?_⟩
      cases here
      exact ⟨unstaged rfl, rfl⟩
    refine Ends.mono (R := fun _ => Over (Offerable _ _)) (Keeps.ends ?_ offerable) fun _ _ done => done.toSettled
    refine Keeps.tryCatch ?_ fun _ => Keeps.pure _
    refine Keeps.bind sendControlPortFrame_kept fun _ =>
      Keeps.bind (Keeps.forM fun _ _ => ?_) fun _ =>
        Keeps.bind (installManagementKeys_grows (Offerable.request rfl) (Offerable.request rfl)) fun _ =>
          Keeps.bind tryOffloadRekey_offerable fun _ => Keeps.pure _
    exact Keeps.bind (bestEffort_grows (Offerable.request rfl)) fun _ => Keeps.pure _

/-- Message 1 hands over nothing and commits nothing. -/
theorem handleMessage1_settled {raw : Octets} (recorded : self.Recorded ledger) :
    Ends (handleMessage1 env raw parsed) self fun _ => Over (Settled ledger (offloads self.trace)) := by
  have start : Settled ledger (offloads self.trace) self.link.fourway self.trace :=
    ⟨recorded, ledger.covers_self _⟩
  apply Ends.get_bind
  apply Ends.ite
  · exact fun _ => start
  intro _
  rcases called : self.link.fourway.or (self.newFourway (env.nonce 0)) with _ | fw
  · exact start
  have outcome : Ends (processMessage1 (env.nonce 1) parsed.frame.keyNonce parsed.frame.replayCounter
    parsed.frame.descVersion) fw _ := processMessage1_outcome _ _ _ _
  unfold Ends at outcome
  dsimp only
  generalize exec (processMessage1 (env.nonce 1) parsed.frame.keyNonce parsed.frame.replayCounter
    parsed.frame.descVersion) fw = result at outcome ⊢
  obtain ⟨reply, t⟩ := result
  have same : t.ptk = fw.ptk := by
    cases outcome with
    | refused => rfl
    | staged => rfl
  have settled : Settled ledger (offloads self.trace) (some t) self.trace := by
    refine ⟨fun later ptk here live => ?_, ledger.covers_self _⟩
    cases here
    rw [same] at live
    rcases Option.or_eq_some_iff.mp called with held | ⟨-, made⟩
    · exact recorded fw ptk held live
    · cases live.symm.trans (congrArg Prod.fst (newFourway_unused made).committed)
  rcases reply with error | msg2
  · exact settled
  · exact (orFail_kept sendControlPortFrame_kept).ends settled

/-- A frame of the control port. -/
theorem handleControlPortFrame_settled {raw : Octets} (recorded : self.Recorded ledger)
    (unstaged : self.Unstaged (env, .frame raw)) :
    Ends (handleControlPortFrame env raw) self fun _ =>
      Over (Settled (ledger.afterCall (self.reached env raw)) (offloads self.trace)) := by
  have start : Settled ledger (offloads self.trace) self.link.fourway self.trace :=
    ⟨recorded, ledger.covers_self _⟩
  apply handleControlPortFrame_ends
    (Q := fun reached => Over (Settled (ledger.afterCall reached) (offloads self.trace)))
  · exact start
  · exact fun packet => handleEapFrame_kept.ends start
  · intro parsed
    have same (call : Option (FourWayState × HandshakeCall))
        (first : ∀ fw third, call = some (fw, third) → fw.acceptedBy third = none) :
        ledger.afterCall call = ledger := by
      rcases call with _ | ⟨fw, third⟩
      · rfl
      · rw [KeyLedger.afterCall, first fw third rfl]
    rw [same]
    · exact handleMessage1_settled recorded
    · intro fw third called
      split at called
      · cases called
      · obtain ⟨_, -, same⟩ := Option.map_eq_some_iff.mp called
        cases same
        rfl
  · exact fun _ => start
  · exact fun fw parsed found _ => handleMessage3_settled found recorded
  · intro fw parsed found reached
    simp only [WifiIface.Unstaged, reached] at unstaged
    exact handleGroupRekey_settled found recorded unstaged

omit [Tls] [Sae] [Owe] [Primitives] [EapolCodec] in
theorem enableOcv_replayCounter {link : Link} :
    ((link.enableOcv fw).getD fw).replayCounter = fw.replayCounter := by
  unfold Link.enableOcv
  split
  · rfl
  · split
    · rfl
    · cases Elements.ociFromFreq link.bssInfo.freqMhz with
      | none => rfl
      | some oci => rfl

omit [Primitives] [EapolCodec] in
theorem moveTo_offerable {target : BssInfo} {ft : FtContext} {pmkR1 : PmkR1} {ptk : Ptk} {ies : Octets}
    {fresh : Block 32} {now : Instant} (silent : offloads self.trace = before) :
    (self.moveTo target ft pmkR1 ptk ies fresh now).Over (Offerable ⟨some ptk, 0⟩ before) := by
  refine ⟨⟨fun fw other here held => ?_, ?_⟩, fun fw here => ?_⟩
  · cases here
    exact held
  · rw [← silent]
    exact KeyLedger.covers_self _ _
  · cases here
    exact ⟨rfl, enableOcv_replayCounter⟩

/-- The response to an FT reassociation. -/
theorem completeFtRoam_settled {ies : Octets} (recorded : self.Recorded ledger) :
    Ends (completeFtRoam env ies) self fun result =>
      Over (Settled (if result.isOk then ⟨self.roam.ftRoam.bind FtRoam.ptk, 0⟩ else ledger)
        (offloads self.trace)) := by
  have start : Settled ledger (offloads self.trace) self.link.fourway self.trace :=
    ⟨recorded, ledger.covers_self _⟩
  refine Ends.get_bind (Ends.liftM_bind (fun _ _ => start) fun roam inFlight =>
    Ends.liftM_bind (fun _ _ => start) fun ft _ => Ends.liftM_bind (fun _ _ => start) fun ptk held =>
    Ends.liftM_bind (fun _ _ => start) fun r1khId _ => Ends.liftM_bind (fun _ _ => start) fun pmkR1 _ =>
    Ends.liftM_bind (fun _ _ => start) fun ftie _ => ?_)
  have exchanged : self.roam.ftRoam.bind FtRoam.ptk = some ptk := by
    rw [orThrow_eq_ok.mp inFlight]
    exact orThrow_eq_ok.mp held
  have silent : Keeps (Over fun fw trace => fw = self.link.fourway ∧ offloads trace = offloads self.trace)
      (installFtKeys env roam.target ptk ftie) :=
    installFtKeys_grows fun same => ⟨same.1, (offloads_append _ _).trans ((List.append_nil _).trans same.2)⟩
  refine (silent.ends ⟨rfl, rfl⟩).bind (fun _ t same => ?_) fun _ t same => ?_
  · obtain ⟨fourway, handed⟩ := same
    refine ⟨fun fw ptk here => recorded fw ptk (fourway.symm.trans here), ?_⟩
    rw [← handed]
    exact ledger.covers_self _
  rw [exchanged]
  refine Ends.modify_bind ?_
  refine Ends.mono (R := fun result t => result.isOk ∧ t.Over (Offerable ⟨some ptk, 0⟩ (offloads self.trace)))
    (Total.ends ?_ ?_ (moveTo_offerable same.2)) fun result final done => ?_
  · exact Total.bind tryOffloadRekey_total fun _ => Total.bind (Total.modify _) fun _ => armWowlanIfEnabled_total
  · exact Keeps.bind tryOffloadRekey_offerable fun _ => Keeps.bind
      (Keeps.modify fun _ kept => Tolerant.connected _ kept) fun _ => armWowlanIfEnabled_kept
  · rw [if_pos done.1]
    exact done.2.toSettled

omit [Elements] [Primitives] [EapolCodec] in
/-- A report of the driver changes the counter only. -/
theorem handleRekeyOffloadEvent_settled {bssid : MacAddr} {replayCtr : Block 8} (recorded : self.Recorded ledger) :
    Ends (handleRekeyOffloadEvent bssid replayCtr : Iface Unit) self fun _ =>
      Over (Settled (if self.link.fourway.isSome ∧ bssid = self.link.bssInfo.bssid then
        { ledger with counter := ofBe64 replayCtr.val } else ledger) (offloads self.trace)) := by
  have same (next : KeyLedger) (ptk : next.ptk = ledger.ptk) :
      Settled next (offloads self.trace) self.link.fourway self.trace :=
    ⟨fun fw other here live => ptk.trans (recorded fw other here live), next.covers_self _⟩
  apply Ends.get_bind
  rcases held : self.link.fourway with _ | fw
  · exact same _ rfl
  apply Ends.ite
  · intro ours
    rw [if_pos ⟨rfl, ours⟩]
    refine ⟨fun later ptk here live => ?_, KeyLedger.covers_self _ _⟩
    cases here
    exact recorded fw ptk held live
  · intro other
    rw [if_neg fun both => other both.2]
    exact same _ rfl

/-- What one input keeps: the ledger has the committed PTK, and the driver was given no other keys. -/
theorem keyStep_settled {input : Env × KeyInput} (recorded : self.Recorded ledger) (unstaged : self.Unstaged input) :
    (self.keyStep input).Over (Settled (self.note ledger input) (offloads self.trace)) := by
  obtain ⟨env, input⟩ := input
  cases input with
  | frame raw => exact handleControlPortFrame_settled recorded unstaged
  | ftResponse ies =>
    have ends : Ends (completeFtRoam env ies) self _ := completeFtRoam_settled recorded
    rw [Ends] at ends
    simp only [WifiIface.keyStep, WifiIface.note, after, handleFtAssocResponse, exec_tryCatch]
    rcases outcome : exec (completeFtRoam env ies) self with ⟨error | done, t⟩
    · rw [outcome] at ends
      exact ends
    · rw [outcome] at ends
      exact ends
  | driverReport bssid replayCtr => exact handleRekeyOffloadEvent_settled recorded

/-- Along every run in which no group key handshake is accepted while a PTK is staged, the driver is given
the keys of the committed PTK and the last accepted counter. -/
theorem offloaded_keys_live (ledger : KeyLedger) (recorded : self.Recorded ledger) (inputs : List (Env × KeyInput))
    (unstaged : Admitted KeyRun.step (fun run => run.1.Unstaged) (self, ledger) inputs) :
    Admitted KeyRun.step KeyRun.HandsLive (self, ledger) inputs := by
  induction inputs generalizing self ledger with
  | nil => trivial
  | cons input inputs ih =>
    have settled := keyStep_settled recorded unstaged.1
    exact ⟨settled.covers, ih _ settled.recorded unstaged.2⟩

end

section Sample

attribute [local instance] Core.closedTls idleSae idleOwe keyedElements samplePrimitives keyedCodec

def asInput (input : Env × Octets) : Env × KeyInput := (input.1, .frame input.2)

/-- A handshake and a group rekey, with the hand-over after each. -/
theorem offloaded_keys_live_rekey :
    (offloads (runInputs KeyRun.step (associatedIface false, ⟨none, 0⟩) (rekeyFrames.map asInput)).1.trace).length
      = 2 ∧
    Admitted KeyRun.step KeyRun.HandsLive (associatedIface false, ⟨none, 0⟩) (rekeyFrames.map asInput) := by
  refine ⟨by decide +kernel, offloaded_keys_live _ (fun fw ptk held => ?_) _ (by decide +kernel)⟩
  have absent : (associatedIface false).link.fourway = none := by decide +kernel
  cases absent.symm.trans held

def stagedFrames : List (Env × KeyInput) :=
  let handshake := rekeyFrames.take 2
  let connected := runInputs WifiIface.frameStep (associatedIface false) handshake
  let forged := ({ willingEnv with nonce := fun _ => filled 32 10 }, (sampleKeyFrame none 2 3 []).2)
  let rekey := sampleKeyFrame connected.link.fourway 7 4 (sampleKeys 2)
  (handshake ++ [forged, rekey]).map asInput

/-- The driver is given the keys of the staged PTK. -/
theorem offloaded_keys_staged :
    ¬Admitted KeyRun.step KeyRun.HandsLive (associatedIface false, ⟨none, 0⟩) stagedFrames := by
  decide +kernel

end Sample

end Shuli.Wifi
