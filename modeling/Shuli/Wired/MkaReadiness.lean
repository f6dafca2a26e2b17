import Shuli.Runs
import Shuli.Wired.MkaPeers
import Shuli.Wired.SakAgreement

/-!
The key server transmits only when everyone can receive. A peer is marked ready without the key that it
is ready for, so the marks have to go whenever the key changes. They do when the participant generates a
SAK and when it drops one, and not when it takes over the SAK of another key server.
-/

namespace Shuli.Wired

open Fallible MkaSession

inductive SessionInput
  | begin (env : MkaEnv) (now : Instant)
  | finish (env : MkaEnv) (now : Instant) (frame : Option EapolFrame)

def MkaSession.step [MkaCrypto] (s : MkaSession) : SessionInput → MkaSession
  | .begin env now => after (beginRun env now) s
  | .finish env now frame => after (finishRun env now frame) s

def MkaSession.takesSak [MkaCrypto] (now : Instant) (frame : EapolFrame) (self : MkaSession) : Bool :=
  (self.receivedPdu frame).any fun pdu =>
    pdu.basic.mi != self.mi && self.heeds pdu && !self.collides pdu &&
      ((self.meetPeer now pdu).findPeer pdu.basic.mi).any ((self.meetPeer now pdu).wantsSak pdu)

/-! Rules for the halves. -/

/-- The changes that follow the reports of a message, and those of a half without one, keep `I`. -/
structure Stable (now : Instant) (I : MkaSession → Prop) : Prop extends Adopts now I where
  expire : ∀ s, I s → I (s.expirePeers now)
  forget : ∀ s, I s → I s.forgetSak
  sent : ∀ s payload, I s → I (s.noteSent now payload)

namespace Stable

variable [MkaCrypto] {now : Instant} {I : MkaSession → Prop} {env : MkaEnv} {s : MkaSession}
  (stable : Stable now I)

include stable

omit [MkaCrypto] in
theorem ensureMacsec : Keeps I (ensureMacsec env) := by
  refine Keeps.get_bind fun _ _ => Keeps.skip fun _ => ?_
  exact Keeps.liftM_bind fun device _ => Keeps.modify fun s before => stable.device s _ before

omit [MkaCrypto] in
theorem dropUnsecureSak : Keeps I (dropUnsecureSak env) :=
  dropUnsecureSak_keeps (fun s _ before => stable.device s _ before) fun s _ before => stable.forget s before

theorem sendMkpdu : Keeps I (sendMkpdu env now) := by
  refine Keeps.get_bind fun _ _ => Keeps.liftM_bind fun payload _ => Keeps.liftM_bind fun _ _ => ?_
  exact Keeps.modify fun s before => stable.sent s payload before

theorem beginRun : Keeps I (beginRun env now) := by
  refine Keeps.bind stable.ensureMacsec fun _ => Keeps.get_bind fun _ _ => ?_
  refine Keeps.bind (Keeps.modify stable.expire) fun _ => Keeps.bind (stable.operate _) fun _ => ?_
  refine Keeps.bind stable.dropUnsecureSak fun _ => Keeps.get_bind fun _ _ => ?_
  exact Keeps.when fun _ => stable.sendMkpdu

theorem handleFrame {f : EapolFrame} (still : I s)
    (reset : I { s.resetMi env.randomMi with needSend := true })
    (taken : ∀ pdu sender, TakenIn s (some f) pdu →
      (s.meetPeer now pdu).findPeer pdu.basic.mi = some sender →
      Ends (handleSakUse env pdu sender) (s.meetPeer now pdu) fun _ t => I t ∧
        (t.wantsSak pdu sender → ∀ ki an sak, I (t.adoptDistributedSak ki an sak))) :
    Ends (handleFrame env now f) s fun _ => I := by
  apply Ends.get_bind
  split
  · exact still
  · rename_i pdu received
    refine Ends.ite (fun _ => reset) fun foreign => Ends.ite (fun heeded => ?_) fun _ => still
    apply Ends.get_bind
    refine Ends.ite (fun _ => reset) fun distinct => ?_
    apply Ends.modify_bind
    apply Ends.get_bind
    have found : (s.meetPeer now pdu).findPeer pdu.basic.mi = _ := meetPeer_findPeer
    rw [found]
    exact stable.handleSaks (taken pdu _ ⟨⟨f, rfl, received⟩, foreign, heeded, distinct⟩ found)

theorem finishRun {frame : Option EapolFrame} (still : I s)
    (reset : I { s.resetMi env.randomMi with needSend := true })
    (taken : ∀ f pdu sender, frame = some f → TakenIn s frame pdu →
      (s.meetPeer now pdu).findPeer pdu.basic.mi = some sender →
      Ends (handleSakUse env pdu sender) (s.meetPeer now pdu) fun _ t => I t ∧
        (t.wantsSak pdu sender → ∀ ki an sak, I (t.adoptDistributedSak ki an sak))) :
    Ends (finishRun env now frame) s fun _ => I := by
  apply Ends.bind (R := fun _ => I)
  · cases frame with
    | none => exact still
    | some f => exact stable.handleFrame still reset fun pdu sender => taken f pdu sender rfl
  · exact fun _ _ kept => kept
  · intro _ t before
    refine Keeps.ends ?_ before
    refine Keeps.bind (Keeps.modify stable.expire) fun _ => Keeps.bind stable.dropUnsecureSak fun _ => ?_
    refine Keeps.get_bind fun _ _ => Keeps.bind (Keeps.when fun _ => stable.ensureSak) fun _ => ?_
    refine Keeps.get_bind fun _ _ => Keeps.bind (Keeps.when fun _ => stable.sendMkpdu) fun _ => ?_
    exact Keeps.get_bind fun _ _ => Keeps.pure _

end Stable

/-! What the SAK Use set of a message changes. -/

section Use

variable {env : MkaEnv} {pdu : MkaPdu} {sender : Peer} {s t : MkaSession}

/-- The report of a live peer is noted by the key server; nothing else in the peer list, the key and the
role changes. -/
structure Used (pdu : MkaPdu) (sender : Peer) (s t : MkaSession) : Prop where
  lki : t.lki = s.lki
  isKeyServer : t.isKeyServer = s.isKeyServer
  keyServerSci : t.keyServerSci = s.keyServerSci
  peers : t.peers = s.peers ∨ s.isKeyServer ∧ ∃ use, pdu.sakUse = some use ∧
    s.lki = some use.latestKi ∧ t.peers = (s.noteReport use sender.mi).peers

theorem startTransmission_used : Ends (startTransmission env) s fun _ t =>
    t.lki = s.lki ∧ t.isKeyServer = s.isKeyServer ∧ t.keyServerSci = s.keyServerSci ∧ t.peers = s.peers := by
  apply startTransmission_ends.mono
  rintro (e | ⟨⟩) t ended
  · rw [ended.1]
    exact ⟨rfl, rfl, rfl, rfl⟩
  · rw [show t = _ from ended]
    exact ⟨rfl, rfl, rfl, rfl⟩

theorem handleSakUse_used : Ends (handleSakUse env pdu sender) s fun _ => Used pdu sender s := by
  have same : Used pdu sender s s := ⟨rfl, rfl, rfl, .inl rfl⟩
  apply Ends.get_bind
  split
  · exact same
  · rename_i use present
    refine Ends.ite (fun _ => same) fun matching => ?_
    have current : s.lki = some use.latestKi := by simpa [sakUseMatches] using matching
    refine Ends.ite (fun serving => ?_) fun _ => Ends.ite (fun _ => ?_) fun _ => same
    · apply Ends.modify_bind
      apply afterReport_ends
      · exact fun _ _ => ⟨rfl, rfl, rfl, .inr ⟨serving.1, use, present, current, rfl⟩⟩
      · exact fun _ => ⟨rfl, rfl, rfl, .inr ⟨serving.1, use, present, current, rfl⟩⟩
      · exact ⟨rfl, rfl, rfl, .inr ⟨serving.1, use, present, current, rfl⟩⟩
    · apply startTransmission_used.mono
      rintro _ t ⟨lki, role, sci, peers⟩
      exact ⟨lki, role, sci, .inl peers⟩

theorem Used.wantsSak (used : Used pdu sender s t) (wanted : t.wantsSak pdu sender) :
    s.wantsSak pdu sender ∧ t.peers = s.peers := by
  have same : s.wantsSak pdu sender := by
    simpa only [MkaSession.wantsSak, isElectedKeyServer, used.lki, used.isKeyServer, used.keyServerSci]
      using wanted
  refine ⟨same, ?_⟩
  rcases used.peers with unchanged | ⟨server, -⟩
  · exact unchanged
  · simp [MkaSession.wantsSak, server] at same

end Use

/-! Marks and the reports behind them. -/

/-- Behind every mark of readiness there is something good about the current key and the peer. -/
def Backed (good : KeyId → Mi → Prop) (s : MkaSession) : Prop :=
  ∀ peer ∈ s.peers, peer.rxReady → ∃ ki, s.lki = some ki ∧ good ki peer.mi

section Backed

variable {good : KeyId → Mi → Prop} {now : Instant} {s : MkaSession}

theorem Backed.of_peers {t : MkaSession} (backed : Backed good s) (lki : t.lki = s.lki)
    (peers : ∀ peer ∈ t.peers, peer.rxReady → ∃ before ∈ s.peers, before.rxReady ∧ before.mi = peer.mi) :
    Backed good t := by
  intro peer mem ready
  obtain ⟨before, old, marked, same⟩ := peers peer mem ready
  obtain ⟨ki, current, holds⟩ := backed before old marked
  exact ⟨ki, lki.trans current, same ▸ holds⟩

theorem backed_of_unmarked (unmarked : ∀ peer ∈ s.peers, peer.rxReady = false) : Backed good s := by
  intro peer mem ready
  rw [unmarked peer mem] at ready
  cases ready

theorem backed_stable : Stable now (Backed good) where
  device _ _ backed := backed
  count _ _ backed := backed
  own s kn sak wrapped _ := by
    apply backed_of_unmarked
    intro peer mem
    obtain ⟨before, -, rfl⟩ := List.mem_map.mp mem
    rfl
  remark s f backed := by
    refine Backed.of_peers (t := s.remarked f) backed rfl fun peer mem ready => ?_
    obtain ⟨before, old, rfl⟩ := List.mem_map.mp mem
    exact ⟨before, old, ready, rfl⟩
  ask _ backed := backed
  expire s backed := by
    unfold expirePeers
    dsimp only
    split
    · exact backed
    · exact backed.of_peers rfl fun peer mem ready => ⟨peer, List.mem_of_mem_filter mem, ready, rfl⟩
  forget s _ := by
    apply backed_of_unmarked
    intro peer mem
    obtain ⟨before, -, rfl⟩ := List.mem_map.mp mem
    rfl
  sent _ _ backed := backed

/-- A message leaves the marks of the peer list as they are. -/
theorem meetPeer_marked {pdu : MkaPdu} {peer : Peer} (mem : peer ∈ (s.meetPeer now pdu).peers)
    (ready : peer.rxReady) : ∃ before ∈ s.peers, before.rxReady ∧ before.mi = peer.mi := by
  have noted (marked : (s.notedEntry now pdu).rxReady) :
      ∃ before ∈ s.peers, before.rxReady ∧ before.mi = pdu.basic.mi := by
    rcases found : s.findPeer pdu.basic.mi with _ | known
    · rw [notedEntry, found] at marked
      cases marked
    · rw [notedEntry, found] at marked
      exact ⟨known, findPeer_mem found, marked, findPeer_mi found⟩
  rcases mem_meetPeer mem with old | rfl | rfl | ⟨id, -, rfl⟩
  · exact ⟨peer, old, ready, rfl⟩
  · rw [notedEntry_mi]
    exact noted ready
  · rw [senderEntry_mi]
    exact noted ready
  · cases ready

theorem noteReport_marked {use : SakUse} {mi : Mi} {peer : Peer}
    (mem : peer ∈ (s.noteReport use mi).peers) (ready : peer.rxReady) :
    peer ∈ s.peers ∨ peer.mi = mi ∧ use.latestRx := by
  rcases mem_updateFirst mem with old | ⟨entry, first, rfl⟩
  · exact .inl old
  · right
    have named := List.find?_some first
    exact ⟨eq_of_beq named, ready⟩

end Backed

section Run

variable [MkaCrypto]

def MkaPdu.Reports (pdu : MkaPdu) (ki : KeyId) (mi : Mi) : Prop :=
  pdu.basic.mi = mi ∧ ∃ use, pdu.sakUse = some use ∧ use.latestKi = ki ∧ use.latestRx

/-- In the run a message was taken in that reports that the peer receives with this key, and from then on
the key has been the current one. -/
def Heard (start : MkaSession) (inputs : List SessionInput) (ki : KeyId) (mi : Mi) : Prop :=
  ∃ before env now f later pdu, inputs = before ++ .finish env now (some f) :: later ∧
    TakenIn (runInputs step start before) (some f) pdu ∧ pdu.Reports ki mi ∧
    ∀ n ≤ later.length + 1,
      (runInputs step start (before ++ (SessionInput.finish env now (some f) :: later).take n)).lki = some ki

/-- No peer is marked as ready when the participant takes over the SAK of another key server. -/
def MkaSession.Careful (s : MkaSession) : SessionInput → Prop
  | .begin _ _ => True
  | .finish _ now frame => ∀ f ∈ frame, s.takesSak now f → ∀ peer ∈ s.peers, peer.rxReady = false

instance (s : MkaSession) : (input : SessionInput) → Decidable (s.Careful input)
  | .begin _ _ => isTrue trivial
  | .finish _ _ frame => inferInstanceAs (Decidable (∀ f ∈ frame, _))

variable {start s : MkaSession} {past : List SessionInput} {input : SessionInput}

/-- What stands behind a mark during a half: the key has been the current one, and the report came in an
earlier half or comes in this one. -/
def Good (start : MkaSession) (past : List SessionInput) (input : SessionInput) (ki : KeyId) (mi : Mi) :
    Prop :=
  (runInputs step start past).lki = some ki ∧ (Heard start past ki mi ∨ ∃ env now f pdu,
    input = .finish env now (some f) ∧ TakenIn (runInputs step start past) (some f) pdu ∧ pdu.Reports ki mi)

theorem Good.heard {ki : KeyId} {mi : Mi} (good : Good start past input ki mi)
    (kept : (runInputs step start (past ++ [input])).lki = some ki) :
    Heard start (past ++ [input]) ki mi := by
  obtain ⟨current, ⟨before, env, now, f, later, pdu, rfl, taken, reports, since⟩ |
    ⟨env, now, f, pdu, rfl, taken, reports⟩⟩ := good
  · refine ⟨before, env, now, f, later ++ [input], pdu, by simp, taken, reports, fun n bound => ?_⟩
    by_cases earlier : n ≤ later.length + 1
    · have shorter : (SessionInput.finish env now (some f) :: (later ++ [input])).take n =
          (SessionInput.finish env now (some f) :: later).take n := by
        rw [← List.cons_append, List.take_append_of_le_length (by simpa using earlier)]
      rw [shorter]
      exact since n earlier
    · rw [List.length_append] at bound
      rw [List.take_of_length_le (by simp only [List.length_cons, List.length_append,
        List.length_nil] at bound ⊢; omega)]
      simpa using kept
  · refine ⟨past, env, now, f, [], pdu, rfl, taken, reports, fun n bound => ?_⟩
    match n, bound with
    | 0, _ => simpa using current
    | 1, _ => exact kept

theorem takesSak_of_taken {now : Instant} {f : EapolFrame} {pdu : MkaPdu} {sender : Peer}
    (taken : TakenIn s (some f) pdu) (found : (s.meetPeer now pdu).findPeer pdu.basic.mi = some sender)
    (wanted : (s.meetPeer now pdu).wantsSak pdu sender) : s.takesSak now f := by
  obtain ⟨⟨frame, same, received⟩, foreign, heeded, distinct⟩ := taken
  obtain rfl := Option.some.inj same
  simp [takesSak, received, foreign, heeded, distinct, found, wanted]

theorem step_backed (careful : (runInputs step start past).Careful input)
    (backed : Backed (Heard start past) (runInputs step start past)) :
    Backed (Heard start (past ++ [input])) (runInputs step start (past ++ [input])) := by
  have good : Backed (Good start past input) (runInputs step start past) := by
    intro peer mem ready
    obtain ⟨ki, current, heard⟩ := backed peer mem ready
    exact ⟨ki, current, current, .inl heard⟩
  have after : Backed (Good start past input) (runInputs step start (past ++ [input])) := by
    rw [runInputs_append]
    generalize reached : runInputs step start past = s at *
    cases input with
    | begin env now => exact backed_stable.beginRun s good
    | finish env now frame =>
      refine backed_stable.finishRun good (fun _ none => (by cases none)) ?_
      rintro f pdu sender rfl taken found
      have met : Backed (Good start past (.finish env now (some f))) (s.meetPeer now pdu) :=
        good.of_peers meetPeer_lki fun peer mem ready => meetPeer_marked mem ready
      apply handleSakUse_used.mono
      refine fun _ t used => ⟨?_, fun wanted ki an sak => ?_⟩
      · rcases used.peers with same | ⟨-, use, present, current, noted⟩
        · exact met.of_peers used.lki fun peer mem ready => ⟨peer, same ▸ mem, ready, rfl⟩
        · intro peer mem ready
          rw [noted] at mem
          rcases noteReport_marked mem ready with old | ⟨named, reported⟩
          · rw [used.lki]
            exact met peer old ready
          · have own : s.lki = some use.latestKi := meetPeer_lki.symm.trans current
            refine ⟨use.latestKi, used.lki.trans current, reached.symm ▸ own, .inr ⟨env, now, f, pdu, rfl,
              reached.symm ▸ taken, ?_, use, present, rfl, reported⟩⟩
            rw [named, findPeer_mi found]
      · obtain ⟨wants, same⟩ := used.wantsSak wanted
        have unmarked := careful f rfl (takesSak_of_taken taken found wants)
        apply backed_of_unmarked
        intro peer mem
        refine Bool.eq_false_iff.mpr fun ready => ?_
        obtain ⟨before, old, marked, -⟩ := meetPeer_marked (same ▸ mem : peer ∈ _) ready
        rw [unmarked before old] at marked
        cases marked
  intro peer mem ready
  obtain ⟨ki, current, holds⟩ := after peer mem ready
  exact ⟨ki, current, holds.heard current⟩

/-- Along a careful run there is a report behind every mark. -/
theorem run_backed {inputs : List SessionInput} (alone : start.peers = [])
    (careful : Admitted step Careful start inputs) :
    Backed (Heard start inputs) (runInputs step start inputs) := by
  refine (run_history (I := fun past s => s = runInputs step start past ∧ Backed (Heard start past) s) ?_ []
    ⟨rfl, ?_⟩ careful).2
  · rintro past s input ⟨rfl, backed⟩ careful
    have next := step_backed careful backed
    refine ⟨?_, ?_⟩
    · rw [runInputs_append]
      rfl
    · rw [runInputs_append] at next
      exact next
  · apply backed_of_unmarked
    rw [runInputs_nil, alone]
    exact fun _ none => (by cases none)

theorem new_peers {ifaceName : String} {config : MacsecConfig} {socket : Except Core.WifiError MacAddr}
    {randomMi : Except String Mi} {created : Instant}
    (new : MkaSession.new ifaceName config socket randomMi created = .ok start) : start.peers = [] := by
  obtain ⟨mac, kek, ick, mi, -, -, -, rfl⟩ := new_eq_ok new
  rfl

omit [MkaCrypto] in
/-- What the key server has seen when it starts to transmit. -/
theorem handleSakUse_starts {env : MkaEnv} {pdu : MkaPdu} {sender : Peer} (server : s.isKeyServer)
    (idle : s.ltx = false) (starts : (after (handleSakUse env pdu sender) s).ltx) :
    ∃ use, pdu.sakUse = some use ∧ s.lki = some use.latestKi ∧ (s.noteReport use sender.mi).allReady := by
  have ends : Ends (handleSakUse env pdu sender) s fun _ t => t.ltx → ∃ use, pdu.sakUse = some use ∧
      s.lki = some use.latestKi ∧ (s.noteReport use sender.mi).allReady := by
    have silent : s.ltx → ∃ use, pdu.sakUse = some use ∧ s.lki = some use.latestKi ∧
        (s.noteReport use sender.mi).allReady := by
      rw [idle]
      exact fun never => (by cases never)
    apply Ends.get_bind
    split
    · exact silent
    · rename_i use present
      refine Ends.ite (fun _ => silent) fun matching => ?_
      have current : s.lki = some use.latestKi := by simpa [sakUseMatches] using matching
      refine Ends.ite (fun _ => ?_) fun _ => Ends.ite (fun client => absurd server client.1) fun _ => silent
      apply Ends.modify_bind
      apply Ends.get_bind
      by_cases ready : (s.noteReport use sender.mi).allReady
      · apply Ends.mono (R := fun _ _ => True) trivial
        exact fun _ _ _ _ => ⟨use, present, current, ready⟩
      · have waits : ¬((s.noteReport use sender.mi).allReady ∧ ¬(s.noteReport use sender.mi).ltx) :=
          fun both => ready both.1
        rw [when, if_neg waits]
        exact silent
  exact ends starts

omit [MkaCrypto] in
/-- Nothing but a SAK Use set makes a participant transmit, and no key is replaced under a transmission. -/
theorem transmitting_stable {now : Instant} (Q : Option KeyId → Prop) :
    Stable now fun t => t.ltx → Q t.lki where
  device _ _ before := before
  count _ _ before := before
  own _ _ _ _ _ never := by cases never
  remark _ _ before := before
  ask _ before := before
  expire s before := by
    unfold expirePeers
    dsimp only
    split
    · exact before
    · exact before
  forget _ _ never := by cases never
  sent _ _ before := before

/-- A half that leaves the participant transmitting found it transmitting with the same key, or has
started in its handling of a SAK Use set. -/
theorem step_ltx (transmits : (s.step input).ltx) : s.ltx ∧ (s.step input).lki = s.lki ∨
    ∃ env now f pdu sender, input = .finish env now (some f) ∧ TakenIn s (some f) pdu ∧
      (s.meetPeer now pdu).findPeer pdu.basic.mi = some sender ∧ (s.meetPeer now pdu).ltx = false ∧
      (after (handleSakUse env pdu sender) (s.meetPeer now pdu)).ltx := by
  revert transmits
  cases input with
  | begin env now =>
    exact (transmitting_stable fun lki => s.ltx ∧ lki = s.lki ∨ _).beginRun s fun ltx => .inl ⟨ltx, rfl⟩
  | finish env now frame =>
    refine (transmitting_stable fun lki => s.ltx ∧ lki = s.lki ∨ _).finishRun (fun ltx => .inl ⟨ltx, rfl⟩)
      (fun never => (by cases never)) ?_
    rintro f pdu sender rfl taken found
    have used : Ends (handleSakUse env pdu sender) (s.meetPeer now pdu) fun _ =>
      Used pdu sender (s.meetPeer now pdu) := handleSakUse_used
    refine ⟨fun starts => ?_, fun _ _ _ _ never => (by cases never)⟩
    have kept : (s.meetPeer now pdu).ltx = s.ltx := by
      simp only [meetPeer, electKeyServer, learnPeers, markLive, notePeer]
    by_cases before : s.ltx
    · exact .inl ⟨before, used.lki.trans meetPeer_lki⟩
    · have idle := kept.trans (Bool.eq_false_iff.mpr before)
      exact .inr ⟨env, now, f, pdu, sender, rfl, taken, found, idle, starts⟩

/-- The key server transmits only when everyone can receive. Along every run that takes over the SAK of
another key server only while no peer is marked as ready: when the key server starts to transmit with its
current key, every live peer has reported that it receives with that key, since the key became the current
one or with the message at hand; and there is no other way to start. -/
theorem key_server_awaits_reports {ifaceName : String} {config : MacsecConfig}
    {socket : Except Core.WifiError MacAddr} {randomMi : Except String Mi} {created : Instant}
    (new : MkaSession.new ifaceName config socket randomMi created = .ok start)
    {inputs : List SessionInput} (careful : Admitted step Careful start inputs) :
    let reached := runInputs step start inputs
    (∀ env now f pdu sender, TakenIn reached (some f) pdu →
      (reached.meetPeer now pdu).findPeer pdu.basic.mi = some sender →
      (reached.meetPeer now pdu).isKeyServer → (reached.meetPeer now pdu).ltx = false →
      (after (handleSakUse env pdu sender) (reached.meetPeer now pdu)).ltx →
      ∃ ki, (reached.meetPeer now pdu).lki = some ki ∧
        ∀ peer ∈ (reached.meetPeer now pdu).peers, peer.live →
          Heard start inputs ki peer.mi ∨ pdu.Reports ki peer.mi) ∧
    ∀ input, (reached.step input).ltx → reached.ltx ∧ (reached.step input).lki = reached.lki ∨
      ∃ env now f pdu sender, input = .finish env now (some f) ∧ TakenIn reached (some f) pdu ∧
        (reached.meetPeer now pdu).findPeer pdu.basic.mi = some sender ∧
        (reached.meetPeer now pdu).ltx = false ∧
        (after (handleSakUse env pdu sender) (reached.meetPeer now pdu)).ltx := by
  refine ⟨fun env now f pdu sender taken found server idle starts => ?_, fun input => step_ltx⟩
  obtain ⟨use, present, current, ready⟩ := handleSakUse_starts server idle starts
  have backed := run_backed (new_peers new) careful
  refine ⟨use.latestKi, current, fun peer mem live => ?_⟩
  rcases updateFirst_mem mem with kept | ⟨first, changed⟩
  · -- the mark of the peer is older than the message
    have marked : peer.rxReady := List.all_eq_true.mp ready peer (List.mem_filter.mpr ⟨kept, live⟩)
    obtain ⟨before, old, earlier, same⟩ := meetPeer_marked mem marked
    obtain ⟨ki, held, heard⟩ := backed before old earlier
    rw [← meetPeer_lki, current] at held
    obtain rfl := Option.some.inj held
    exact .inl (same ▸ heard)
  · have named := List.find?_some first
    rw [beq_iff_eq] at named
    have reported : use.latestRx := List.all_eq_true.mp ready _ (List.mem_filter.mpr ⟨changed, live⟩)
    rw [named, findPeer_mi found]
    exact .inr ⟨rfl, use, present, rfl, reported⟩

end Run

section Sample

attribute [local instance] sampleMkaCrypto

def stationPdu (number priority : UInt8) (server : Bool) (mn listed : UInt32) (use : Option SakUse)
    (dist : Option DistSak) : MkaPdu where
  basic := { (sampleParticipant none number).mkpdu.basic with
    priority := priority, keyServer := server, mn := mn }
  livePeers := [⟨.fill 1 12, listed⟩]
  potentialPeers := []
  sakUse := use
  distSak := dist

def stationFrame (number : UInt8) (pdu : MkaPdu) : EapolFrame :=
  ⟨sampleMac number, paeGroupAddr,
    (pdu.buildEapol paeGroupAddr (sampleMac number) (sampleParticipant none 1).ick).toOption.getD []⟩

def stationKey (number : UInt8) : KeyId := ⟨.fill number 12, 1⟩

def receiving (ki : KeyId) : SakUse :=
  ⟨1, false, true, 0, false, false, false, false, false, ki, 0, .default, 0⟩

def stationSak : DistSak :=
  ⟨2, 1, 1, none, (wrapKey (sampleParticipant none 1).kek (List.replicate 16 0x66)).toOption.getD []⟩

def stationHears (number : UInt8) (pdu : MkaPdu) : SessionInput :=
  .finish sampleOutside 1 (some (stationFrame number pdu))

def stationServes : List SessionInput :=
  [.begin sampleOutside 0, stationHears 2 (stationPdu 2 0xff false 1 1 none none)]

def secondReports : MkaPdu := stationPdu 2 0xff false 2 2 (some (receiving (stationKey 1))) none

def stationFollows : List SessionInput :=
  stationServes ++ [stationHears 2 secondReports, stationHears 3 (stationPdu 3 1 true 1 3 none (some stationSak))]

def thirdReports : MkaPdu := stationPdu 3 1 false 2 4 (some (receiving (stationKey 3))) none

def Starts (s : MkaSession) (f : EapolFrame) (pdu : MkaPdu) : Prop :=
  (s.receivedPdu f = some pdu ∧ pdu.basic.mi ≠ s.mi ∧ s.heeds pdu ∧ ¬s.collides pdu) ∧
    (s.meetPeer 1 pdu).isKeyServer ∧ (s.meetPeer 1 pdu).ltx = false ∧
    (after (handleSakUse sampleOutside pdu (s.senderEntry 1 pdu)) (s.meetPeer 1 pdu)).ltx

instance (s : MkaSession) (f : EapolFrame) (pdu : MkaPdu) : Decidable (Starts s f pdu) :=
  inferInstanceAs (Decidable (_ ∧ _))

theorem key_server_awaits_second :
    let reached := runInputs MkaSession.step (sampleParticipant (some 5) 1) stationServes
    Starts reached (stationFrame 2 secondReports) secondReports ∧
      ∃ ki, (reached.meetPeer 1 secondReports).lki = some ki ∧
        ∀ peer ∈ (reached.meetPeer 1 secondReports).peers, peer.live →
          Heard (sampleParticipant (some 5) 1) stationServes ki peer.mi ∨
            secondReports.Reports ki peer.mi := by
  intro reached
  have careful : Admitted MkaSession.step MkaSession.Careful (sampleParticipant (some 5) 1) stationServes := by
    decide +kernel
  have starts : Starts reached (stationFrame 2 secondReports) secondReports := by decide +kernel
  obtain ⟨⟨received, foreign, heeded, distinct⟩, server, idle, transmits⟩ := starts
  refine ⟨⟨⟨received, foreign, heeded, distinct⟩, server, idle, transmits⟩, ?_⟩
  exact (key_server_awaits_reports (sampleParticipant_new (some 5) 1) careful).1 sampleOutside 1
    (stationFrame 2 secondReports) secondReports _ ⟨⟨_, rfl, received⟩, foreign, heeded, distinct⟩
    meetPeer_findPeer server idle transmits

/-- Station 2 has reported the first key of station 1 and nothing else. When station 1 takes the role back
it counts that report for the key of station 3, and transmits with it. -/
theorem key_server_trusts_old_report :
    let reached := runInputs MkaSession.step (sampleParticipant (some 5) 1) stationFollows
    Starts reached (stationFrame 3 thirdReports) thirdReports ∧
      (reached.meetPeer 1 thirdReports).lki = some (stationKey 3) ∧
      ∃ peer ∈ (reached.meetPeer 1 thirdReports).peers, peer.live ∧
        ¬(Heard (sampleParticipant (some 5) 1) stationFollows (stationKey 3) peer.mi ∨
          thirdReports.Reports (stationKey 3) peer.mi) := by
  intro reached
  have starts : Starts reached (stationFrame 3 thirdReports) thirdReports ∧
      (reached.meetPeer 1 thirdReports).lki = some (stationKey 3) := by decide +kernel
  have second : ∃ peer ∈ (reached.meetPeer 1 thirdReports).peers, peer.live ∧
      peer.mi = (stationKey 2).mi := by decide +kernel
  obtain ⟨peer, mem, live, named⟩ := second
  refine ⟨starts.1, starts.2, peer, mem, live, ?_⟩
  rintro (⟨before, env, now, f, later, pdu, split, -, -, since⟩ | ⟨sent, -⟩)
  · -- the key of station 3 was never the current one before a message of the run
    have other : ∀ n < stationFollows.length, (runInputs MkaSession.step (sampleParticipant (some 5) 1)
        (stationFollows.take n)).lki ≠ some (stationKey 3) := by decide +kernel
    refine other before.length (by simp [split]) ?_
    simpa [split] using since 0 (Nat.zero_le _)
  · rw [named] at sent
    exact absurd sent (by decide)

end Sample

end Shuli.Wired
