import Shuli.Wired.MacsecCalls
import Shuli.Wired.MkaLiveness

/-!
MACsec nonce safety. A participant that transmits with a SAK must not install it again with packet
number 1. The key server signals the use of its SAK only when it has stopped to distribute it, so the
MKPDUs that distribute the SAK are older than the signal. Once a participant has lost the key server, it
has sent two more messages, and such an MKPDU no longer makes the key server live.
-/

namespace Shuli.Wired

open Fallible

/-- The MKPDU signals that its sender transmits with this SAK. -/
def MkaPdu.Signals (ki : KeyId) (pdu : MkaPdu) : Prop :=
  ∃ use ∈ pdu.sakUse, use.latestKi = ki ∧ use.latestTx

section Serving

open MkaSession

variable {ι : Type} {log : List (ι × Transmission)} {i : ι} {env : MkaEnv} {now : Instant}
  {origin s t : MkaSession} {frame : Option EapolFrame}

/-- A participant distributes only as key server, only its current SAK, and only before it transmits
with it; it numbers its SAKs upwards. -/
structure Serving (log : List (ι × Transmission)) (i : ι) (s : MkaSession) : Prop where
  client : s.isKeyServer = false → s.distSak = none
  offered : ∀ dist ∈ s.distSak, s.lki = some ⟨s.mi, dist.kn⟩ ∧ s.ltx = false
  own : ∀ ki, s.lki = some ki → ki.mi = s.mi → ki.kn.toNat < s.nextKn.toNat
  signalled : ∀ sent kn, (i, sent) ∈ log → sent.pdu.Signals ⟨s.mi, kn⟩ →
    kn.toNat < s.nextKn.toNat ∧ ∀ dist ∈ s.distSak, dist.kn ≠ kn

/-- The distributed SAK may go, with everything else as it was. -/
theorem Serving.drop (serving : Serving log i s) (dist : t.distSak = none ∨ t.distSak = s.distSak)
    (client : t.isKeyServer = false → t.distSak = none) (lki : t.lki = s.lki) (mi : t.mi = s.mi)
    (ltx : t.ltx = s.ltx) (nextKn : t.nextKn = s.nextKn) : Serving log i t := by
  have inside {value : DistSak} (mem : value ∈ t.distSak) : value ∈ s.distSak := by
    rcases dist with gone | kept
    · rw [gone] at mem
      cases mem
    · rw [← kept]
      exact mem
  constructor
  · exact client
  · intro value mem
    rw [lki, mi, ltx]
    exact serving.offered value (inside mem)
  · rw [lki, mi, nextKn]
    exact serving.own
  · rw [mi, nextKn]
    intro sent kn mem signals
    obtain ⟨below, other⟩ := serving.signalled sent kn mem signals
    exact ⟨below, fun value mem => other value (inside mem)⟩

theorem electKeyServer_serving (serving : Serving log i s) : Serving log i s.electKeyServer := by
  apply serving.drop electKeyServer_distSak
  · intro client
    by_cases before : s.isKeyServer
    · have changed : s.electKeyServer.distSak = none := by
        unfold electKeyServer at client ⊢
        simp only at client ⊢
        rw [client, before]
        rfl
      exact changed
    · rcases electKeyServer_distSak with gone | kept
      · exact gone
      · exact kept.trans (serving.client (Bool.eq_false_iff.mpr before))
  · rfl
  · rfl
  · rfl
  · rfl

theorem expirePeers_serving (serving : Serving log i s) : Serving log i (s.expirePeers now) := by
  unfold expirePeers
  simp only
  split
  · exact serving
  · apply electKeyServer_serving
    exact serving.drop (.inr rfl) serving.client rfl rfl rfl rfl

theorem meetPeer_serving {pdu : MkaPdu} (serving : Serving log i s) :
    Serving log i (s.meetPeer now pdu) := by
  apply electKeyServer_serving
  exact serving.drop (.inr rfl) serving.client rfl rfl rfl rfl

theorem stopDistributing_serving (serving : Serving log i s) : Serving log i s.stopDistributing := by
  apply serving.drop (ite_eq_or_eq _ _ _)
  · intro client
    exact ite_eq_left_iff.mpr fun _ => serving.client client
  · rfl
  · rfl
  · rfl
  · rfl

theorem transmitting_serving (serving : Serving log i s) (none : t.distSak = none)
    (lki : t.lki = s.lki) (mi : t.mi = s.mi) (nextKn : t.nextKn = s.nextKn) : Serving log i t := by
  refine ⟨fun _ => none, ?_, ?_, ?_⟩
  · intro dist mem
    rw [none] at mem
    cases mem
  · rw [lki, mi, nextKn]
    exact serving.own
  · rw [mi, nextKn]
    intro sent kn mem signals
    refine ⟨(serving.signalled sent kn mem signals).1, fun dist mem => ?_⟩
    rw [none] at mem
    cases mem

variable [MkaCrypto]

theorem Act.mi (act : Act env now origin frame s t) : t.mi = s.mi := by
  cases act with
  | expire =>
    unfold expirePeers
    simp only
    split <;> rfl
  | _ => rfl

theorem Act.nextKn_le (act : Act env now origin frame s t) (below : origin.nextKn ≠ 0xffffffff) :
    s.nextKn.toNat ≤ t.nextKn.toNat := by
  cases act with
  | expire =>
    unfold expirePeers
    simp only
    split <;> exact Nat.le_refl _
  | count due first =>
    have next := nextCounter_toNat (first ▸ below)
    exact Nat.le_of_succ_le (Nat.le_of_eq next.symm)
  | generate due first =>
    have next := nextCounter_toNat (first ▸ below)
    exact Nat.le_of_succ_le (Nat.le_of_eq next.symm)
  | _ => exact Nat.le_refl _

theorem Act.serving (act : Act env now origin frame s t) (obliging : env.kernel.Obliging)
    (below : origin.nextKn ≠ 0xffffffff) (mi : s.mi = origin.mi) (serving : Serving log i s) :
    Serving log i t := by
  have same {t : MkaSession} (dist : t.distSak = s.distSak) (role : t.isKeyServer = s.isKeyServer)
      (lki : t.lki = s.lki) (mi : t.mi = s.mi) (ltx : t.ltx = s.ltx) (nextKn : t.nextKn = s.nextKn) :
      Serving log i t := by
    apply serving.drop (.inr dist) _ lki mi ltx nextKn
    rw [dist, role]
    exact serving.client
  cases act with
  | expire => exact expirePeers_serving serving
  | forget => exact ⟨fun _ => rfl, fun _ mem => (nomatch mem), fun _ current => (nomatch current),
      fun sent kn mem signals => ⟨(serving.signalled sent kn mem signals).1, fun _ mem => (nomatch mem)⟩⟩
  | report => exact same rfl rfl rfl rfl rfl rfl
  | serve _ _ _ _ ready =>
    apply transmitting_serving serving
    · exact if_pos ready
    · rfl
    · rfl
    · rfl
  | serveFailed refused => exact absurd obliging refused
  | stop => exact stopDistributing_serving serving
  | follow _ _ _ _ client => exact transmitting_serving serving (serving.client client) rfl rfl rfl
  | adopt taken _ _ known _ _ _ client =>
    have none := serving.client client
    have named := findPeer_mi known
    refine ⟨fun _ => none, ?_, ?_, ?_⟩
    · intro dist mem
      rw [show (MkaSession.adopted env _ _ _ s).distSak = s.distSak from rfl, none] at mem
      cases mem
    · rintro ki ⟨⟩ own
      have own : _ = s.mi := own
      rw [named, mi] at own
      exact absurd own taken.foreign
    · intro sent kn mem signals
      refine ⟨(serving.signalled sent kn mem signals).1, fun dist mem => ?_⟩
      rw [show (MkaSession.adopted env _ _ _ s).distSak = s.distSak from rfl, none] at mem
      cases mem
  | count due first =>
    have next := nextCounter_toNat (first ▸ below)
    refine ⟨serving.client, serving.offered, fun ki current own => ?_, fun sent kn mem signals => ?_⟩
    · have before := serving.own ki current own
      change ki.kn.toNat < (nextCounter s.nextKn).toNat
      omega
    · have before := serving.signalled sent kn mem signals
      refine ⟨?_, before.2⟩
      change kn.toNat < (nextCounter s.nextKn).toNat
      omega
  | generate due first =>
    have next := nextCounter_toNat (first ▸ below)
    have server : s.isKeyServer = true := by
      simp only [sakIsDue, Bool.and_eq_true] at due
      exact due.1.1.1
    refine ⟨fun client => ?_, ?_, ?_, fun sent kn mem signals => ?_⟩
    · exact absurd server (Bool.eq_false_iff.mp client)
    · rintro dist ⟨⟩
      exact ⟨rfl, rfl⟩
    · rintro ki ⟨⟩ _
      change s.nextKn.toNat < (nextCounter s.nextKn).toNat
      omega
    · have before := (serving.signalled sent kn mem signals).1
      refine ⟨?_, ?_⟩
      · change kn.toNat < (nextCounter s.nextKn).toNat
        omega
      · rintro dist ⟨⟩ equal
        rw [← equal] at before
        exact Nat.lt_irrefl _ before
  | remark f => exact same rfl rfl rfl rfl rfl rfl
  | create => exact same rfl rfl rfl rfl rfl rfl
  | removeRxScs => exact same rfl rfl rfl rfl rfl rfl
  | clear => exact same rfl rfl rfl rfl rfl rfl
  | installPending => exact same rfl rfl rfl rfl rfl rfl
  | ask => exact same rfl rfl rfl rfl rfl rfl

end Serving

section Barrier

open MkaSession

variable {env : MkaEnv} {now : Instant} {origin s t : MkaSession} {frame : Option EapolFrame}
  {still : Peer → Prop} {count : Nat} {mi : Mi} {mn : UInt32}

/-- Why an MKPDU of `mi` with a message number below `mn` does not find its sender live. `count` is the
number of messages that were sent since the MKPDU with the number `mn` was. -/
structure Barrier (still : Peer → Prop) (count : Nat) (mi : Mi) (mn : UInt32) (s : MkaSession) : Prop where
  answered : 1 ≤ count ∨ s.needSend ∧ ∃ peer ∈ s.standings, peer.mi = mi ∧ still peer
  outdated : (2 ≤ count ∨ 1 ≤ count ∧ s.needSend) ∨ ∃ peer ∈ s.standings, peer.mi = mi ∧ mn ≤ peer.mn
  live : ∀ peer ∈ s.standings, peer.mi = mi → peer.live → mn ≤ peer.mn

theorem Barrier.same (barrier : Barrier still count mi mn s) (standings : t.standings = s.standings)
    (needSend : s.needSend → t.needSend) : Barrier still count mi mn t := by
  obtain ⟨answered, outdated, live⟩ := barrier
  constructor
  · rw [standings]
    exact answered.imp_right fun both => ⟨needSend both.1, both.2⟩
  · rw [standings]
    exact outdated.imp_left fun strong => strong.imp_right fun both => ⟨both.1, needSend both.2⟩
  · rw [standings]
    exact live

theorem Unique.eq {first second : Peer} (unique : s.Unique) (one : first ∈ s.standings)
    (two : second ∈ s.standings) (same : first.mi = second.mi) : first = second :=
  List.inj_on_of_nodup_map (unique_iff.mp unique) one two same

/-- An entry that expires leaves a message to be sent. -/
theorem expirePeers_barrier (unique : s.Unique) (barrier : Barrier (isFresh now ·) count mi mn s) :
    Barrier (isFresh now ·) count mi mn (s.expirePeers now) := by
  by_cases same : (s.peers.filter (isFresh now)).length = s.peers.length
  · have unchanged : s.expirePeers now = s := by
      exact if_pos same
    rw [unchanged]
    exact barrier
  · have asked : (s.expirePeers now).needSend = true := by
      unfold expirePeers
      rw [if_neg same]
      rfl
    have kept {peer : Peer} (mem : peer ∈ s.standings) (fresh : isFresh now peer) :
        peer ∈ (s.expirePeers now).standings := by
      rw [expirePeers_standings]
      exact List.mem_filter.mpr ⟨mem, fresh⟩
    obtain ⟨answered, outdated, live⟩ := barrier
    constructor
    · rcases answered with sent | ⟨-, peer, mem, named, fresh⟩
      · exact .inl sent
      · exact .inr ⟨asked, peer, kept mem fresh, named, fresh⟩
    · rcases outdated with (twice | ⟨once, -⟩) | ⟨peer, mem, named, above⟩
      · exact .inl (.inl twice)
      · exact .inl (.inr ⟨once, asked⟩)
      · rcases answered with sent | ⟨-, other, inside, alike, fresh⟩
        · exact .inl (.inr ⟨sent, asked⟩)
        · have entry : peer = other := Unique.eq unique mem inside (named.trans alike.symm)
          rw [entry] at above
          exact .inr ⟨other, kept inside fresh, alike, above⟩
    · intro peer mem
      rw [expirePeers_standings] at mem
      exact live peer (List.mem_of_mem_filter mem)

variable {pdu : MkaPdu}

theorem meetPeer_needSend : (s.meetPeer now pdu).needSend = true := by
  simp only [meetPeer, electKeyServer, learnPeers, markLive, notePeer, Bool.true_or]

theorem meetPeer_standings_other {peer : Peer}
    (mem : peer ∈ (s.meetPeer now pdu).standings) (other : peer.mi ≠ pdu.basic.mi) :
    peer ∈ s.standings ∨ peer.live = false := by
  obtain ⟨entry, inside, rfl⟩ := mem_standings mem
  rcases mem_meetPeer inside with old | rfl | rfl | ⟨id, -, rfl⟩
  · exact .inl (List.mem_map_of_mem old)
  · exact absurd notedEntry_mi other
  · exact absurd senderEntry_mi other
  · exact .inr rfl

theorem meetPeer_standings_own {peer : Peer} (unique : s.Unique)
    (mem : peer ∈ (s.meetPeer now pdu).standings) (own : peer.mi = pdu.basic.mi) :
    peer = (s.senderEntry now pdu).standing := by
  have entry : (s.senderEntry now pdu).standing ∈ (s.meetPeer now pdu).standings ∧ _ :=
    findPeer_standing meetPeer_findPeer
  exact Unique.eq (meetPeer_unique unique) mem entry.1 (own.trans entry.2.symm)

theorem heeds_above {peer : Peer} (unique : s.Unique) (heeded : s.heeds pdu)
    (mem : peer ∈ s.standings) (named : peer.mi = pdu.basic.mi) : peer.mn < pdu.basic.mn := by
  obtain ⟨entry, inside, rfl⟩ := mem_standings mem
  have found := unique.findPeer_iff.mpr ⟨inside, named⟩
  simp only [heeds, isStale, found, Option.any_some, Bool.and_eq_true, Bool.not_eq_true',
    decide_eq_false_iff_not] at heeded
  exact UInt32.not_le.mp heeded.2

/-- No message brings a sender to life whose number is below the barrier. -/
theorem meetPeer_barrier (unique : s.Unique) (settled : s.needSend = false)
    (heeded : s.heeds pdu) (barrier : Barrier (isFresh now ·) count mi mn s)
    (recent : pdu.basic.mi = mi → s.knowsUs pdu → 2 ≤ count → mn ≤ pdu.basic.mn) :
    Barrier (isFresh now ·) count mi mn (s.meetPeer now pdu) := by
  obtain ⟨answered, outdated, live⟩ := barrier
  have sent : 1 ≤ count := by
    rcases answered with sent | ⟨asked, -⟩
    · exact sent
    · rw [settled] at asked
      cases asked
  refine ⟨.inl sent, .inl (.inr ⟨sent, meetPeer_needSend⟩), fun peer mem named alive => ?_⟩
  by_cases own : peer.mi = pdu.basic.mi
  · have entry := meetPeer_standings_own unique mem own
    have number : peer.mn = pdu.basic.mn := by
      rw [entry]
      exact senderEntry_mn
    rw [number]
    have alive : (s.isLive pdu.basic.mi || s.knowsUs pdu) = true := by
      rw [entry] at alive
      exact alive
    rcases Bool.or_eq_true_iff.mp alive with before | knows
    · obtain ⟨old, inside, same, living⟩ := hasLive_iff.mp (hasLive_of_isLive before)
      have above := heeds_above unique heeded inside same
      have bound := live old inside (same.trans (own.symm.trans named)) living
      exact UInt32.le_trans bound (UInt32.le_of_lt above)
    · rcases outdated with (twice | ⟨-, asked⟩) | ⟨old, inside, same, bound⟩
      · exact recent (own.symm.trans named) knows twice
      · rw [settled] at asked
        cases asked
      · have above := heeds_above unique heeded inside (same.trans (named.symm.trans own))
        exact UInt32.le_trans bound (UInt32.le_of_lt above)
  · rcases meetPeer_standings_other mem own with old | dead
    · exact live peer old named alive
    · rw [dead] at alive
      cases alive

/-- A signal that is taken in raises a barrier at its own number. -/
theorem meetPeer_barrier_own (unique : s.Unique) :
    Barrier (isFresh now ·) count pdu.basic.mi pdu.basic.mn (s.meetPeer now pdu) := by
  have entry : (s.senderEntry now pdu).standing ∈ (s.meetPeer now pdu).standings ∧ _ :=
    findPeer_standing meetPeer_findPeer
  have fresh : isFresh now (s.senderEntry now pdu).standing = true := by
    have seen : (s.senderEntry now pdu).standing.lastSeen = now := notedEntry_lastSeen
    rw [isFresh, seen, Nat.sub_self]
    decide
  have number : (s.senderEntry now pdu).standing.mn = pdu.basic.mn := senderEntry_mn
  constructor
  · exact .inr ⟨meetPeer_needSend, _, entry.1, entry.2, fresh⟩
  · exact .inr ⟨_, entry.1, entry.2, UInt32.le_of_eq number.symm⟩
  · intro peer mem named _
    rw [meetPeer_standings_own unique mem named]
    exact UInt32.le_of_eq number.symm

variable [MkaCrypto]

/-- The acts that follow keep what was seen of the peers, except that peers may expire, and what is to be
sent stays to be sent. -/
theorem Act.barrier (act : Act env now origin frame s t) (unique : s.Unique)
    (barrier : Barrier (isFresh now ·) count mi mn s) : Barrier (isFresh now ·) count mi mn t := by
  cases act with
  | expire => exact expirePeers_barrier unique barrier
  | forget => exact barrier.same forgetSak_standings fun _ => rfl
  | report => exact barrier.same noteReport_standings id
  | generate => exact barrier.same generated_standings id
  | remark f => exact barrier.same (remarked_standings f) id
  | ask => exact barrier.same rfl fun _ => rfl
  | serve => exact barrier.same rfl id
  | serveFailed => exact barrier.same rfl id
  | stop => exact barrier.same rfl id
  | follow => exact barrier.same rfl id
  | adopt => exact barrier.same rfl id
  | create => exact barrier.same rfl id
  | removeRxScs => exact barrier.same rfl id
  | clear => exact barrier.same rfl id
  | count => exact barrier.same rfl id
  | installPending => exact barrier.same rfl id

end Barrier

section Guarded

open MkaSession

variable {env : MkaEnv} {now : Instant} {origin s t : MkaSession} {frame : Option EapolFrame}
  {barred : KeyId → Prop}

/-- The device is in order, and its transmit SA of the current AN has the current SAK. -/
structure Guarded (barred : KeyId → Prop) (s : MkaSession) : Prop where
  orderly : ∀ device ∈ s.macsec, device.Orderly barred
  current : ∀ device ∈ s.macsec, ∀ ki, s.lki = some ki → ∀ sa ∈ device.txSa, sa.an = s.lan →
    sa.keyId = keyidBytes ki

theorem Guarded.mono {more : KeyId → Prop} (guarded : Guarded barred s)
    (wider : ∀ ki, barred ki → more ki) : Guarded more s :=
  ⟨fun device mem => (guarded.orderly device mem).mono wider, guarded.current⟩

theorem operated_guarded {operation : Device Unit}
    (result : ∀ device ∈ s.macsec, (after operation device).Orderly barred ∧
      ∀ ki, s.lki = some ki → ∀ sa ∈ (after operation device).txSa, sa.an = s.lan →
        sa.keyId = keyidBytes ki) : Guarded barred (s.operated operation) := by
  constructor
  · intro device mem
    obtain ⟨old, inside, rfl⟩ := Option.map_eq_some_iff.mp mem
    exact (result old inside).1
  · intro device mem
    obtain ⟨old, inside, rfl⟩ := Option.map_eq_some_iff.mp mem
    exact (result old inside).2

theorem Guarded.rx {operation : Device Unit} (guarded : Guarded barred s)
    (keeps : ∀ txSa, Keeps (MacsecDevice.SameTx txSa barred) operation) :
    Guarded barred (s.operated operation) := by
  apply operated_guarded
  intro device mem
  have kept : MacsecDevice.SameTx device.txSa barred (after operation device) :=
    (keeps device.txSa).ends ⟨rfl, guarded.orderly device mem⟩
  refine ⟨kept.2, ?_⟩
  rw [kept.1]
  exact guarded.current device mem

/-- The transmission starts with a SAK that is barred from now on. -/
theorem transmitting_guarded {ki : KeyId} (guarded : Guarded barred s) (current : s.lki = some ki)
    (sealed : barred ki) : Guarded barred (s.transmitting env) := by
  apply operated_guarded
  intro device mem
  have chosen (sa : SaConfig) (inside : sa ∈ device.txSa) (named : sa.an = s.lan) (other : KeyId)
      (key : sa.keyId = keyidBytes other) : barred other := by
    have same := guarded.current device mem ki current sa inside named
    rw [keyidBytes_injective (key.symm.trans same)]
    exact sealed
  obtain ⟨orderly, txSa⟩ := MacsecDevice.setTxSaActive_orderly (guarded.orderly device mem) chosen
  refine ⟨orderly, ?_⟩
  rw [txSa]
  intro ki current sa inside chosen
  obtain ⟨old, there, an, -, key, -⟩ := MacsecDevice.mem_activateTxSa inside
  rw [key]
  exact guarded.current device mem ki current old there (an.symm.trans chosen)

variable [MkaCrypto]

/-- The acts keep the device in order: a SAK that is put to use is barred, and one that is installed is
not. -/
theorem Act.guarded (act : Act env now origin frame s t) (obliging : env.kernel.Obliging)
    (serves : ∀ pdu use, TakenIn origin frame pdu → pdu.sakUse = some use →
      (origin.meetPeer now pdu).lki = some use.latestKi → s.lki = some use.latestKi →
      (origin.meetPeer now pdu).isKeyServer → barred use.latestKi)
    (follows : ∀ pdu use, TakenIn origin frame pdu → pdu.sakUse = some use →
      s = origin.meetPeer now pdu → s.lki = some use.latestKi → pdu.basic.keyServer → use.latestTx →
      barred use.latestKi)
    (adopts : ∀ pdu dist, TakenIn origin frame pdu → pdu.distSak = some dist →
      s.standings = (origin.meetPeer now pdu).standings → s.HasLive pdu.basic.mi →
      ¬barred ⟨pdu.basic.mi, dist.kn⟩)
    (generates : ¬barred ⟨s.mi, s.nextKn⟩) (guarded : Guarded barred s) : Guarded barred t := by
  cases act with
  | create missing created =>
    have made : MacsecDevice.SameTx [] barred _ := MacsecDevice.create_orderly created
    constructor
    · rintro device ⟨⟩
      exact made.2
    · rintro device ⟨⟩ ki current sa inside
      rw [made.1] at inside
      cases inside
  | expire =>
    have same : (s.expirePeers now).macsec = s.macsec ∧ (s.expirePeers now).lki = s.lki ∧
        (s.expirePeers now).lan = s.lan := by
      unfold expirePeers
      simp only
      split <;> exact ⟨rfl, rfl, rfl⟩
    constructor
    · rw [same.1]
      exact guarded.orderly
    · rw [same.1, same.2.1, same.2.2]
      exact guarded.current
  | removeRxScs scis =>
    exact guarded.rx fun _ => MacsecDevice.forM_orderly fun _ => MacsecDevice.removeRxSc_orderly
  | clear =>
    apply operated_guarded
    intro device mem
    obtain ⟨none, orderly⟩ := MacsecDevice.clearSas_orderly (guarded.orderly device mem)
    refine ⟨orderly, ?_⟩
    rw [none]
    exact fun _ _ sa inside => nomatch inside
  | forget => exact ⟨guarded.orderly, fun _ _ _ current => nomatch current⟩
  | report => exact ⟨guarded.orderly, guarded.current⟩
  | serve taken present current server =>
    have started : Guarded barred (transmitting env _) :=
      transmitting_guarded guarded current (serves _ _ taken present current current server)
    exact ⟨started.orderly, started.current⟩
  | serveFailed refused => exact absurd obliging refused
  | stop => exact ⟨guarded.orderly, guarded.current⟩
  | follow taken present current known client server elected signal =>
    have claims : _ = true := server
    rw [Option.some.inj (known.symm.trans meetPeer_findPeer), senderEntry_keyServer] at claims
    exact transmitting_guarded guarded current (follows _ _ taken present rfl current claims signal)
  | adopt taken present met known live =>
    have named := findPeer_mi known
    have living : s.HasLive _ :=
      hasLive_iff.mpr ⟨Peer.standing _, met ▸ (findPeer_standing known).1, named, live⟩
    have fresh := adopts _ _ taken present met living
    rw [← named] at fresh
    apply operated_guarded
    intro device mem
    obtain ⟨orderly, key⟩ := MacsecDevice.installClientSak_orderly obliging fresh
      (guarded.orderly device mem)
    refine ⟨orderly, ?_⟩
    rintro ki ⟨⟩
    exact key
  | count => exact ⟨guarded.orderly, guarded.current⟩
  | generate =>
    apply operated_guarded
    intro device mem
    obtain ⟨orderly, key⟩ := MacsecDevice.installOwnSak_orderly obliging generates
      (guarded.orderly device mem)
    refine ⟨orderly, ?_⟩
    rintro ki ⟨⟩
    exact key
  | installPending scis => exact guarded.rx fun _ => MacsecDevice.forM_orderly fun _ => MacsecDevice.installRxSa_orderly
  | remark => exact ⟨guarded.orderly, guarded.current⟩
  | ask => exact ⟨guarded.orderly, guarded.current⟩

end Guarded

namespace MkaSession

variable {s : MkaSession} {now : Instant} {pdu : MkaPdu}

/-- A live peer that claims the key server role precedes the participant, also after this MKPDU. -/
def Outranked (s : MkaSession) (pdu : MkaPdu) : Prop :=
  s.canBeKeyServer → ∃ peer ∈ s.peers, peer.live ∧ peer.keyServer ∧ peer.candidate.precedes s.candidate ∧
    (pdu.basic.mi = peer.mi → pdu.basic.keyServer ∧
      Candidate.precedes (pdu.basic.priority, pdu.basic.sci) s.candidate)

instance : Decidable (s.Outranked pdu) := inferInstanceAs (Decidable (_ → _))

theorem meetPeer_outranked (outranked : s.Outranked pdu) :
    (s.meetPeer now pdu).isKeyServer = false := by
  by_contra server
  obtain ⟨may, unbeaten⟩ : (s.meetPeer now pdu).canBeKeyServer ∧ ∀ peer ∈ (s.meetPeer now pdu).peers,
      peer.live → peer.keyServer → ¬peer.candidate.precedes (s.meetPeer now pdu).candidate :=
    electKeyServer_own (Bool.eq_true_of_not_eq_false server)
  rw [meetPeer_candidate] at unbeaten
  obtain ⟨peer, mem, live, claim, precedes, renewal⟩ := outranked may
  rcases meetPeer_mem now pdu mem live with kept | found
  · exact unbeaten peer kept live claim precedes
  · obtain ⟨claim, precedes⟩ := renewal (findPeer_mi found).symm
    apply unbeaten (s.senderEntry now pdu) (findPeer_mem meetPeer_findPeer)
    · have alive : s.isLive pdu.basic.mi = true := by rw [isLive, found, Option.any_some, live]
      rw [senderEntry, alive, Bool.true_or]
    · rw [senderEntry_keyServer]
      exact claim
    · rw [Peer.candidate, senderEntry_priority, senderEntry_sci]
      exact precedes

theorem mkpdu_signals {ki : KeyId} (signals : s.mkpdu.Signals ki) : s.lki = some ki ∧ s.ltx := by
  obtain ⟨use, present, same, signal⟩ := signals
  obtain ⟨current, held, rfl⟩ := Option.map_eq_some_iff.mp present
  exact ⟨held.trans (congrArg some same), signal⟩

theorem mkpdu_distSak {dist : DistSak} (present : s.mkpdu.distSak = some dist) : dist ∈ s.distSak := by
  have inside : (if s.isKeyServer then s.distSak else none) = some dist := present
  split at inside
  · exact inside
  · cases inside

/-- A SAK that the MKPDU reports and that is the current one here is the sender's own, if the sender
signals its use as key server, and the participant's own, unless it stays a client. -/
def Credits (s : MkaSession) (pdu : MkaPdu) : Prop :=
  ∀ use ∈ pdu.sakUse, s.lki = some use.latestKi →
    (pdu.basic.keyServer → use.latestTx → use.latestKi.mi = pdu.basic.mi) ∧
    (use.latestKi.mi = s.mi ∨ s.Outranked pdu)

instance : Decidable (s.Credits pdu) := inferInstanceAs (Decidable (∀ _ ∈ _, _))

end MkaSession

end Shuli.Wired
