import Shuli.Wired.MkaLog

/-!
What the key server election reads and writes. Candidates are ordered, the least one of those that claim
to be key server wins, and nothing else that a message brings touches the outcome.
-/

namespace Shuli.Wired

open Fallible MkaSession

section Order

def Candidate.rank (candidate : Candidate) : Nat := candidate.1.toNat * 256 ^ 8 + beNat candidate.2.val

theorem beNat_sci_lt (sci : Sci) : beNat sci.val < 256 ^ 8 := by
  have bound := beNat_lt sci.val
  rwa [sci.property] at bound

theorem Candidate.precedes_iff {first second : Candidate} :
    first.precedes second ↔ first.rank < second.rank := by
  have one := beNat_sci_lt first.2
  have two := beNat_sci_lt second.2
  rw [precedes, rank, rank, UInt8.lt_iff_toNat_lt, ← UInt8.toNat_inj]
  omega

theorem Candidate.rank_injective {first second : Candidate} (same : first.rank = second.rank) :
    first = second := by
  have one := beNat_sci_lt first.2
  have two := beNat_sci_lt second.2
  rw [rank, rank] at same
  have priority : first.1 = second.1 := UInt8.toNat_inj.mp (by omega)
  have numbers : beNat first.2.val = beNat second.2.val := by
    omega
  have octets : first.2.val = second.2.val := by
    rw [← beOctets_beNat first.2.val, ← beOctets_beNat second.2.val, numbers, first.2.property,
      second.2.property]
  exact Prod.ext priority (Subtype.ext octets)

variable {peers : List Peer} {winner : Candidate}

theorem foldl_betterCandidate_stays {own : Bool} (unbeaten : ∀ peer ∈ peers, winner.rank ≤ peer.candidate.rank) :
    peers.foldl betterCandidate (some (winner, own)) = some (winner, own) := by
  induction peers with
  | nil => rfl
  | cons peer peers ih =>
    rw [List.forall_mem_cons] at unbeaten
    have kept : ¬peer.candidate.precedes winner := by
      rw [Candidate.precedes_iff]
      omega
    rw [List.foldl_cons, betterCandidate, if_neg kept]
    exact ih unbeaten.2

/-- A peer that beats the others and what stood before them wins. -/
theorem foldl_betterCandidate_wins {best : Option (Candidate × Bool)}
    (claims : ∃ peer ∈ peers, peer.candidate = winner) (unbeaten : ∀ peer ∈ peers, winner.rank ≤ peer.candidate.rank)
    (better : ∀ current ∈ best, winner.rank < current.1.rank) :
    peers.foldl betterCandidate best = some (winner, false) := by
  induction peers generalizing best with
  | nil =>
    obtain ⟨peer, mem, -⟩ := claims
    cases mem
  | cons peer peers ih =>
    rw [List.forall_mem_cons] at unbeaten
    rw [List.foldl_cons]
    by_cases wins : peer.candidate = winner
    · have replaced : betterCandidate best peer = some (winner, false) := by
        rcases best with _ | ⟨current, own⟩
        · rw [betterCandidate, wins]
        · have beaten := better _ rfl
          rw [← Candidate.precedes_iff] at beaten
          rw [betterCandidate, wins, if_pos beaten]
      rw [replaced]
      exact foldl_betterCandidate_stays unbeaten.2
    · have behind : winner.rank < peer.candidate.rank := by
        rcases Nat.lt_or_eq_of_le unbeaten.1 with less | same
        · exact less
        · exact absurd (Candidate.rank_injective same.symm) wins
      apply ih
      · obtain ⟨other, mem, same⟩ := claims
        rcases List.mem_cons.mp mem with rfl | later
        · exact absurd same wins
        · exact ⟨other, later, same⟩
      · exact unbeaten.2
      · intro current stands
        rcases best with _ | ⟨standing, own⟩
        · obtain rfl := Option.some.inj stands
          exact behind
        · rw [betterCandidate] at stands
          split at stands
          · obtain rfl := Option.some.inj stands
            exact behind
          · obtain rfl := Option.some.inj stands
            exact better _ rfl

end Order

/-! What the election reads and writes. -/

/-- A participant without its keys and what it reports about them. -/
structure Ballot where
  mi : Mi
  mn : UInt32
  candidate : Candidate
  canBeKeyServer : Bool
  isKeyServer : Bool
  keyServerSci : Sci
  peers : List Peer

def MkaSession.ballot (self : MkaSession) : Ballot :=
  ⟨self.mi, self.mn, self.candidate, self.canBeKeyServer, self.isKeyServer, self.keyServerSci,
    self.standings⟩

namespace Ballot

variable {b : Ballot}

def entry (b : Ballot) (mi : Mi) : Option Peer := b.peers.find? (·.mi == mi)

def claimants (b : Ballot) : List Peer := b.peers.filter fun peer => peer.live && peer.keyServer

def best (b : Ballot) : Option (Candidate × Bool) :=
  b.claimants.foldl betterCandidate (if b.canBeKeyServer then some (b.candidate, true) else none)

/-- The role is the one that the election gives. -/
def Settled (b : Ballot) : Prop :=
  (b.isKeyServer, b.keyServerSci) = match b.best with
    | some ((_, sci), own) => (own, sci)
    | none => (false, zeros 8)

def Unique (b : Ballot) : Prop := (b.peers.map (·.mi)).Nodup

theorem Unique.entry_iff {mi : Mi} {peer : Peer} (unique : b.Unique) :
    b.entry mi = some peer ↔ peer ∈ b.peers ∧ peer.mi = mi := find?_eq_some_iff_of_nodup unique

theorem Settled.of_best {candidate : Candidate} {own : Bool} (settled : b.Settled)
    (best : b.best = some (candidate, own)) : b.isKeyServer = own ∧ b.keyServerSci = candidate.2 := by
  rw [Settled, best] at settled
  exact Prod.mk.inj settled

theorem mem_claimants {peer : Peer} :
    peer ∈ b.claimants ↔ peer ∈ b.peers ∧ peer.live ∧ peer.keyServer := by
  rw [claimants, List.mem_filter, Bool.and_eq_true]

end Ballot

section Session

variable {s : MkaSession} {mi : Mi}

theorem standings_find? (peers : List Peer) (mi : Mi) :
    (peers.map Peer.standing).find? (·.mi == mi) = (peers.find? (·.mi == mi)).map Peer.standing := by
  rw [List.find?_map]
  rfl

theorem ballot_entry : s.ballot.entry mi = (s.findPeer mi).map Peer.standing := standings_find? s.peers mi

theorem ballot_best : s.ballot.best = s.bestCandidate := by
  unfold Ballot.best Ballot.claimants bestCandidate
  simp only [ballot, standings, List.filter_map, List.foldl_map]
  rfl

theorem ballot_unique : s.ballot.Unique ↔ s.Unique := by
  unfold Ballot.Unique MkaSession.Unique
  simp only [ballot, standings, List.map_map, Function.comp_def, Peer.standing]

theorem ballot_of_standings {t : MkaSession} (standings : t.standings = s.standings)
    (same : { t.ballot with peers := s.standings } = s.ballot) : t.ballot = s.ballot := by
  rw [← same, ← standings]
  rfl

theorem adoptOwnSak_standings {now : Instant} {kn : UInt32} {sak wrapped : Octets} :
    (s.adoptOwnSak now kn sak wrapped).standings = s.standings := by
  simp [adoptOwnSak, standings, Peer.standing]

section Keys

variable {b : Ballot} {env : MkaEnv} {now : Instant} {pdu : MkaPdu} {sender : Peer}

theorem ballot_adopts : Adopts now fun s => s.ballot = b where
  device _ _ before := before
  count _ _ before := before
  own _ _ _ _ before := (ballot_of_standings adoptOwnSak_standings rfl).trans before
  remark _ f before := (ballot_of_standings (remarked_standings f) rfl).trans before
  ask _ before := before

theorem startTransmission_ballot : Keeps (fun s => s.ballot = b) (startTransmission env) := by
  refine Keeps.bind (Keeps.modify fun _ before => before) fun _ => Keeps.bind ?_ fun _ => ?_
  · exact Keeps.get_bind fun _ _ => withMacsec_keeps fun _ before => before
  · exact Keeps.modify fun _ before => before

theorem handleSakUse_ballot : Keeps (fun s => s.ballot = b) (handleSakUse env pdu sender) := by
  apply Keeps.get_bind
  intro s _
  split
  · exact Keeps.pure _
  · rename_i use _
    refine Keeps.skip fun _ => Keeps.ite (fun _ => ?_) fun _ => ?_
    · refine Keeps.bind (Keeps.modify fun _ before => ?_) fun _ => Keeps.get_bind fun _ _ => ?_
      · exact (ballot_of_standings noteReport_standings rfl).trans before
      · refine Keeps.bind (Keeps.when fun _ => startTransmission_ballot) fun _ => ?_
        exact Keeps.modify fun _ before => before
    · exact Keeps.when fun _ => startTransmission_ballot

variable [MkaCrypto]

/-- A message that is taken in leaves what the election after it has made. -/
theorem handleFrame_taken {f : EapolFrame} (taken : TakenIn s (some f) pdu) :
    (after (handleFrame env now f) s).ballot = (s.meetPeer now pdu).ballot := by
  obtain ⟨⟨frame, same, received⟩, foreign, heeded, distinct⟩ := taken
  obtain rfl := Option.some.inj same
  change Ends (handleFrame env now f) s fun _ t => t.ballot = (s.meetPeer now pdu).ballot
  apply Ends.get_bind
  rw [received]
  dsimp only
  rw [if_neg foreign, when, if_pos heeded]
  apply Ends.get_bind
  rw [if_neg distinct]
  apply Ends.modify_bind
  apply Ends.get_bind
  split
  · rfl
  · exact ballot_adopts.handleSaks ((handleSakUse_ballot.ends rfl).mono fun _ _ same => ⟨same, fun _ _ _ _ => same⟩)

theorem handleFrame_stale {f : EapolFrame} (received : s.receivedPdu f = some pdu)
    (foreign : pdu.basic.mi ≠ s.mi) (stale : s.isStale pdu) : after (handleFrame env now f) s = s := by
  have unheeded : ¬s.heeds pdu := by simp [heeds, stale]
  change Ends (handleFrame env now f) s fun _ t => t = s
  apply Ends.get_bind
  rw [received]
  dsimp only
  rw [if_neg foreign, when, if_neg unheeded]
  rfl

end Keys

/-! What a message makes of the ballot of its receiver. -/

section Meeting

variable {now : Instant} {pdu : MkaPdu} {peer : Peer}

theorem ballot_entry_mem (found : s.ballot.entry mi = some peer) : ∃ known, s.findPeer mi = some known ∧
    peer = known.standing := by
  rw [ballot_entry, Option.map_eq_some_iff] at found
  obtain ⟨known, found, same⟩ := found
  exact ⟨known, found, same.symm⟩

theorem meetPeer_entry (s : MkaSession) (now : Instant) (pdu : MkaPdu) :
    ∃ entry, (s.meetPeer now pdu).ballot.entry pdu.basic.mi = some entry ∧ entry.mn = pdu.basic.mn ∧
    entry.candidate = (pdu.basic.priority, pdu.basic.sci) ∧
    entry.keyServer = pdu.basic.keyServer ∧ (s.isLive pdu.basic.mi → entry.live) := by
  refine ⟨(s.senderEntry now pdu).standing, ?_, senderEntry_mn, ?_, senderEntry_keyServer, fun live => ?_⟩
  · rw [ballot_entry, meetPeer_findPeer, Option.map_some]
  · change ((s.senderEntry now pdu).priority, (s.senderEntry now pdu).sci) = _
    rw [senderEntry_priority, senderEntry_sci]
  · change (s.isLive pdu.basic.mi || s.knowsUs pdu) = true
    rw [live, Bool.true_or]

theorem meetPeer_entry_other {other : Mi} (apart : other ≠ pdu.basic.mi)
    (found : s.ballot.entry other = some peer) : (s.meetPeer now pdu).ballot.entry other = some peer := by
  obtain ⟨known, listed, rfl⟩ := ballot_entry_mem found
  rw [ballot_entry, meetPeer_findPeer_other apart listed, Option.map_some]

theorem meetPeer_settled : (s.meetPeer now pdu).ballot.Settled := by
  unfold Ballot.Settled
  rw [ballot_best]
  rfl

theorem meetPeer_entitled (server : (s.meetPeer now pdu).isKeyServer) : s.canBeKeyServer := by
  have may := (electKeyServer_own server).1
  simpa only [learnPeers, markLive, notePeer] using may

theorem meetPeer_identity (s : MkaSession) (now : Instant) (pdu : MkaPdu) :
    (s.meetPeer now pdu).ballot.mi = s.ballot.mi ∧ (s.meetPeer now pdu).ballot.mn = s.ballot.mn ∧
      (s.meetPeer now pdu).ballot.candidate = s.ballot.candidate ∧
      (s.meetPeer now pdu).ballot.canBeKeyServer = s.ballot.canBeKeyServer ∧
      ((s.meetPeer now pdu).ballot.isKeyServer → s.ballot.canBeKeyServer) := by
  unfold MkaSession.ballot
  dsimp only
  exact ⟨meetPeer_mi, rfl, meetPeer_candidate, meetPeer_canBeKeyServer, meetPeer_entitled⟩

theorem learnPeers_foreign {own : Mi} {peers : List Peer} (ids : List PeerId)
    (foreign : ∀ peer ∈ peers, peer.mi ≠ own) :
    ∀ peer ∈ ids.foldl (learnPeer now own) peers, peer.mi ≠ own := by
  induction ids generalizing peers with
  | nil => exact foreign
  | cons id ids ih =>
    apply ih
    unfold learnPeer
    split
    · exact foreign
    · rename_i unknown
      intro peer mem
      rcases List.mem_append.mp mem with old | new
      · exact foreign peer old
      · obtain rfl := List.mem_singleton.mp new
        exact fun same => unknown (.inl same)

theorem meetPeer_foreign (foreign : ∀ peer ∈ s.peers, peer.mi ≠ s.mi) (other : pdu.basic.mi ≠ s.mi) :
    ∀ peer ∈ (s.meetPeer now pdu).peers, peer.mi ≠ s.mi := by
  have marked : ∀ peer ∈ ((s.notePeer now pdu).markLive now pdu).peers, peer.mi ≠ s.mi := by
    intro peer mem
    rcases mem_markLive mem with old | rfl | rfl
    · exact foreign peer old
    · rwa [notedEntry_mi]
    · rwa [senderEntry_mi]
  change ∀ peer ∈ (((s.notePeer now pdu).markLive now pdu).learnPeers now pdu).peers, peer.mi ≠ s.mi
  simp only [learnPeers]
  split
  · exact learnPeers_foreign _ marked
  · exact marked

end Meeting

end Session

end Shuli.Wired
