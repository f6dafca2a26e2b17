import Shuli.Wired.MkaActs

/-!
The peer list and the election: what a message makes of each entry, and when a participant becomes
key server.
-/

namespace Shuli.Wired.MkaSession

variable {now : Instant} {pdu : MkaPdu} {s : MkaSession} {peer : Peer}

section Election

theorem foldl_betterCandidate_own {peers : List Peer} {best : Option (Candidate × Bool)}
    {winner : Candidate} (won : peers.foldl betterCandidate best = some (winner, true)) :
    best = some (winner, true) ∧ ∀ peer ∈ peers, ¬peer.candidate.precedes winner := by
  induction peers generalizing best with
  | nil => exact ⟨won, fun _ mem => absurd mem List.not_mem_nil⟩
  | cons peer peers ih =>
    obtain ⟨step, later⟩ := ih won
    rcases best with _ | ⟨current, own⟩
    · cases step
    · rw [betterCandidate] at step
      by_cases replaced : peer.candidate.precedes current
      · rw [if_pos replaced] at step
        cases step
      · rw [if_neg replaced] at step
        cases step
        refine ⟨rfl, fun other mem => ?_⟩
        rcases List.mem_cons.mp mem with rfl | tail
        · exact replaced
        · exact later other tail

/-- A participant elects itself only if it may and no live peer that claims the role precedes it. -/
theorem electKeyServer_own (server : s.electKeyServer.isKeyServer) : s.canBeKeyServer ∧
    ∀ peer ∈ s.peers, peer.live → peer.keyServer → ¬peer.candidate.precedes s.candidate := by
  have won : ∃ winner, s.bestCandidate = some (winner, true) := by
    rcases elected : s.bestCandidate with _ | ⟨winner, own⟩
    · simp [electKeyServer, elected] at server
    · simp only [electKeyServer, elected] at server
      exact ⟨winner, by rw [server]⟩
  obtain ⟨winner, best⟩ := won
  obtain ⟨first, unbeaten⟩ := foldl_betterCandidate_own best
  by_cases may : s.canBeKeyServer
  · rw [if_pos may] at first
    cases first
    refine ⟨may, fun peer mem live claims => unbeaten peer ?_⟩
    rw [List.mem_filter]
    exact ⟨mem, by rw [live, claims, Bool.and_self]⟩
  · rw [if_neg may] at first
    cases first

theorem electKeyServer_settled (server : s.electKeyServer.isKeyServer)
    (settled : s.electKeyServer.needNewSak = false) :
    s.isKeyServer ∧ s.needNewSak = false ∧ s.electKeyServer.distSak = s.distSak := by
  unfold electKeyServer at server settled ⊢
  simp only at server settled ⊢
  rw [server] at settled ⊢
  by_cases before : s.isKeyServer
  · rw [before] at settled ⊢
    exact ⟨rfl, settled, rfl⟩
  · rw [Bool.eq_false_iff.mpr before] at settled
    cases settled

theorem electKeyServer_distSak :
    s.electKeyServer.distSak = none ∨ s.electKeyServer.distSak = s.distSak := ite_eq_or_eq _ _ _

end Election

section Meeting

def notedEntry (now : Instant) (pdu : MkaPdu) (s : MkaSession) : Peer :=
  match s.findPeer pdu.basic.mi with
  | some peer => refreshPeer now pdu.basic peer
  | none => newPeer now pdu.basic

def senderEntry (now : Instant) (pdu : MkaPdu) (s : MkaSession) : Peer :=
  { s.notedEntry now pdu with live := s.isLive pdu.basic.mi || s.knowsUs pdu }

theorem notedEntry_mi : (s.notedEntry now pdu).mi = pdu.basic.mi := by
  unfold notedEntry
  split
  · rename_i found
    have named := findPeer_mi found
    exact named
  · rfl

theorem notedEntry_mn : (s.notedEntry now pdu).mn = pdu.basic.mn := by
  unfold notedEntry
  split <;> rfl

theorem notedEntry_live : (s.notedEntry now pdu).live = s.isLive pdu.basic.mi := by
  unfold notedEntry isLive
  cases s.findPeer pdu.basic.mi <;> rfl

theorem notedEntry_lastSeen : (s.notedEntry now pdu).lastSeen = now := by
  unfold notedEntry
  split <;> rfl

theorem senderEntry_mi : (s.senderEntry now pdu).mi = pdu.basic.mi := notedEntry_mi

theorem senderEntry_sci : (s.senderEntry now pdu).sci = pdu.basic.sci := by
  unfold senderEntry notedEntry
  cases s.findPeer pdu.basic.mi <;> rfl

theorem senderEntry_mn : (s.senderEntry now pdu).mn = pdu.basic.mn := notedEntry_mn

theorem senderEntry_keyServer : (s.senderEntry now pdu).keyServer = pdu.basic.keyServer := by
  unfold senderEntry notedEntry
  cases s.findPeer pdu.basic.mi <;> rfl

theorem senderEntry_priority : (s.senderEntry now pdu).priority = pdu.basic.priority := by
  unfold senderEntry notedEntry
  cases s.findPeer pdu.basic.mi <;> rfl

variable {peers : List Peer}

theorem find?_updatePeer {mi : Mi} {f : Peer → Peer} (same : ∀ peer, (f peer).mi = peer.mi) :
    (updateFirst (·.mi == mi) f peers).find? (·.mi == mi) = (peers.find? (·.mi == mi)).map f := by
  apply find?_updateFirst
  intro peer passed
  rw [same]
  exact passed

theorem find?_updatePeer_other {mi other : Mi} {f : Peer → Peer} (apart : other ≠ mi)
    (same : ∀ peer, (f peer).mi = peer.mi) :
    (updateFirst (·.mi == mi) f peers).find? (·.mi == other) = peers.find? (·.mi == other) := by
  apply find?_updateFirst_other
  intro peer passed
  have named := eq_of_beq passed
  rw [same, named]
  exact ⟨beq_eq_false_iff_ne.mpr apart.symm, beq_eq_false_iff_ne.mpr apart.symm⟩

theorem notePeer_findPeer :
    (s.notePeer now pdu).findPeer pdu.basic.mi = some (s.notedEntry now pdu) := by
  unfold notedEntry
  rcases found : s.findPeer pdu.basic.mi with _ | peer
  · have same : (s.notePeer now pdu).peers = s.peers ++ [newPeer now pdu.basic] := by
      simp [notePeer, found]
    unfold findPeer at found ⊢
    rw [same, List.find?_append, found, Option.none_or]
    exact List.find?_cons_of_pos (beq_self_eq_true _)
  · have same : (s.notePeer now pdu).peers =
        updateFirst (·.mi == pdu.basic.mi) (refreshPeer now pdu.basic) s.peers := by
      simp [notePeer, found]
    unfold findPeer at found ⊢
    rw [same, find?_updatePeer, found]
    · rfl
    · exact fun _ => rfl

theorem mem_notePeer (mem : peer ∈ (s.notePeer now pdu).peers) :
    peer ∈ s.peers ∨ peer = s.notedEntry now pdu := by
  unfold notedEntry
  rcases found : s.findPeer pdu.basic.mi with _ | known
  · simp only [notePeer, found] at mem
    rcases List.mem_append.mp mem with old | added
    · exact .inl old
    · exact .inr (List.mem_singleton.mp added)
  · simp only [notePeer, found] at mem
    rcases mem_updateFirst mem with old | ⟨entry, first, changed⟩
    · exact .inl old
    · unfold findPeer at found
      rw [found] at first
      cases first
      exact .inr changed

variable (now pdu) in
theorem notePeer_mem (mem : peer ∈ s.peers) :
    peer ∈ (s.notePeer now pdu).peers ∨ s.findPeer pdu.basic.mi = some peer := by
  rcases found : s.findPeer pdu.basic.mi with _ | known
  · simp only [notePeer, found]
    exact .inl (List.mem_append_left _ mem)
  · simp only [notePeer, found]
    rcases updateFirst_mem mem with kept | ⟨first, -⟩
    · exact .inl kept
    · unfold findPeer at found
      rw [← found, first]
      exact .inr rfl

theorem notePeer_isLive : (s.notePeer now pdu).isLive pdu.basic.mi = s.isLive pdu.basic.mi := by
  rw [isLive, notePeer_findPeer, Option.any_some, notedEntry_live]

/-- The entry of the sender is settled once its liveness is. -/
theorem markLive_findPeer :
    ((s.notePeer now pdu).markLive now pdu).findPeer pdu.basic.mi = some (s.senderEntry now pdu) := by
  have noted : (s.notePeer now pdu).findPeer pdu.basic.mi = some (s.notedEntry now pdu) :=
    notePeer_findPeer
  have seen : (s.notedEntry now pdu).lastSeen = now := notedEntry_lastSeen
  have alive : (s.notedEntry now pdu).live = s.isLive pdu.basic.mi := notedEntry_live
  have knows : (s.notePeer now pdu).knowsUs pdu = s.knowsUs pdu := rfl
  unfold findPeer at noted ⊢
  simp only [markLive, notePeer_isLive, knows]
  by_cases joins : (s.knowsUs pdu && !s.isLive pdu.basic.mi) = true
  · rw [if_pos joins, find?_updatePeer, noted]
    · rw [Bool.and_eq_true] at joins
      simp only [Option.map_some, senderEntry, joins.1, Bool.or_true, seen]
    · exact fun _ => rfl
  · rw [if_neg joins, noted, senderEntry]
    have settled : (s.notedEntry now pdu).live = (s.isLive pdu.basic.mi || s.knowsUs pdu) := by
      rw [alive]
      revert joins
      cases s.isLive pdu.basic.mi <;> cases s.knowsUs pdu <;> decide
    rw [← settled]

theorem mem_markLive (mem : peer ∈ ((s.notePeer now pdu).markLive now pdu).peers) :
    peer ∈ s.peers ∨ peer = s.notedEntry now pdu ∨ peer = s.senderEntry now pdu := by
  have settled : ((s.notePeer now pdu).markLive now pdu).findPeer pdu.basic.mi =
      some (s.senderEntry now pdu) := markLive_findPeer
  simp only [markLive] at mem
  split at mem
  · rename_i joins
    rcases mem_updateFirst mem with old | ⟨entry, first, changed⟩
    · rcases mem_notePeer old with known | same
      · exact .inl known
      · exact .inr (.inl same)
    · unfold findPeer at settled
      simp only [markLive] at settled
      rw [if_pos joins, find?_updatePeer, first, Option.map_some, ← changed] at settled
      · exact .inr (.inr (Option.some.inj settled))
      · exact fun _ => rfl
  · rcases mem_notePeer mem with known | same
    · exact .inl known
    · exact .inr (.inl same)

theorem find?_learnPeers {own mi : Mi} (found : peers.find? (·.mi == mi) = some peer)
    (ids : List PeerId) : (ids.foldl (learnPeer now own) peers).find? (·.mi == mi) = some peer := by
  induction ids generalizing peers with
  | nil => exact found
  | cons id ids ih =>
    apply ih
    unfold learnPeer
    split
    · exact found
    · rw [List.find?_append, found, Option.some_or]

theorem mem_learnPeers {own : Mi} {ids : List PeerId} (mem : peer ∈ ids.foldl (learnPeer now own) peers) :
    peer ∈ peers ∨ ∃ id ∈ ids, peer = listedPeer now id := by
  induction ids generalizing peers with
  | nil => exact .inl mem
  | cons id ids ih =>
    rcases ih mem with first | ⟨later, inside, same⟩
    · unfold learnPeer at first
      split at first
      · exact .inl first
      · rcases List.mem_append.mp first with old | added
        · exact .inl old
        · exact .inr ⟨id, List.mem_cons_self, List.mem_singleton.mp added⟩
    · exact .inr ⟨later, List.mem_cons_of_mem id inside, same⟩

theorem learnPeers_mem {own : Mi} {ids : List PeerId} (mem : peer ∈ peers) :
    peer ∈ ids.foldl (learnPeer now own) peers := by
  induction ids generalizing peers with
  | nil => exact mem
  | cons id ids ih =>
    apply ih
    unfold learnPeer
    split
    · exact mem
    · exact List.mem_append_left _ mem

theorem meetPeer_findPeer :
    (s.meetPeer now pdu).findPeer pdu.basic.mi = some (s.senderEntry now pdu) := by
  have settled : ((s.notePeer now pdu).markLive now pdu).findPeer pdu.basic.mi =
      some (s.senderEntry now pdu) := markLive_findPeer
  change (((s.notePeer now pdu).markLive now pdu).learnPeers now pdu).findPeer pdu.basic.mi = _
  simp only [learnPeers]
  split
  · exact find?_learnPeers settled _
  · exact settled

/-- Each entry after a message was there before, is the sender's, or is one that the sender lists. -/
theorem mem_meetPeer (mem : peer ∈ (s.meetPeer now pdu).peers) :
    peer ∈ s.peers ∨ peer = s.notedEntry now pdu ∨ peer = s.senderEntry now pdu ∨
      ∃ id ∈ pdu.livePeers, peer = listedPeer now id := by
  change peer ∈ (((s.notePeer now pdu).markLive now pdu).learnPeers now pdu).peers at mem
  simp only [learnPeers] at mem
  split at mem
  · rcases mem_learnPeers mem with before | listed
    · rcases mem_markLive before with old | noted | settled
      · exact .inl old
      · exact .inr (.inl noted)
      · exact .inr (.inr (.inl settled))
    · exact .inr (.inr (.inr listed))
  · rcases mem_markLive mem with old | noted | settled
    · exact .inl old
    · exact .inr (.inl noted)
    · exact .inr (.inr (.inl settled))

variable (now pdu) in
/-- A message takes no live entry away other than the sender's, which it renews. -/
theorem meetPeer_mem (mem : peer ∈ s.peers) (live : peer.live) :
    peer ∈ (s.meetPeer now pdu).peers ∨ s.findPeer pdu.basic.mi = some peer := by
  have kept {t : MkaSession} (inside : peer ∈ t.peers) : peer ∈ (t.learnPeers now pdu).peers := by
    simp only [learnPeers]
    split
    · exact learnPeers_mem inside
    · exact inside
  rcases notePeer_mem now pdu mem with noted | found
  · left
    apply kept
    simp only [markLive]
    split
    · rename_i joins
      rcases updateFirst_mem noted with inside | ⟨first, -⟩
      · exact inside
      · -- The entry that turns live was not live.
        have first : (s.notePeer now pdu).findPeer pdu.basic.mi = some peer := first
        rw [isLive, first, Option.any_some, live] at joins
        simp at joins
    · exact noted
  · exact .inr found

/-- A message leaves the entries of other members alone. -/
theorem meetPeer_findPeer_other {mi : Mi} (other : mi ≠ pdu.basic.mi)
    (found : s.findPeer mi = some peer) : (s.meetPeer now pdu).findPeer mi = some peer := by
  have noted : (s.notePeer now pdu).findPeer mi = some peer := by
    unfold findPeer at found ⊢
    simp only [notePeer]
    split
    · rw [find?_updatePeer_other other]
      · exact found
      · exact fun _ => rfl
    · rw [List.find?_append, found, Option.some_or]
  have marked : ((s.notePeer now pdu).markLive now pdu).findPeer mi = some peer := by
    unfold findPeer at noted ⊢
    simp only [markLive]
    split
    · rw [find?_updatePeer_other other]
      · exact noted
      · exact fun _ => rfl
    · exact noted
  change (((s.notePeer now pdu).markLive now pdu).learnPeers now pdu).findPeer mi = _
  simp only [learnPeers]
  split
  · exact find?_learnPeers marked _
  · exact marked

def Unique (s : MkaSession) : Prop := (s.peers.map (·.mi)).Nodup

instance (s : MkaSession) : Decidable s.Unique := inferInstanceAs (Decidable (List.Nodup _))

theorem Unique.findPeer_iff {mi : Mi} (unique : s.Unique) :
    s.findPeer mi = some peer ↔ peer ∈ s.peers ∧ peer.mi = mi := find?_eq_some_iff_of_nodup unique

theorem notePeer_unique (unique : s.Unique) : (s.notePeer now pdu).Unique := by
  unfold Unique
  simp only [notePeer]
  rcases found : s.findPeer pdu.basic.mi with _ | known
  · rw [Option.isSome_none, if_neg Bool.false_ne_true, List.map_append, List.nodup_append]
    refine ⟨unique, List.nodup_singleton _, fun mi inside other new => ?_⟩
    obtain ⟨peer, mem, rfl⟩ := List.mem_map.mp inside
    rw [List.map_cons, List.map_nil, List.mem_singleton] at new
    rintro rfl
    have missing : s.findPeer pdu.basic.mi = some peer := unique.findPeer_iff.mpr ⟨mem, new⟩
    rw [found] at missing
    cases missing
  · rw [Option.isSome_some, if_pos rfl, map_updateFirst]
    · exact unique
    · exact fun _ => rfl

theorem markLive_unique (unique : s.Unique) : (s.markLive now pdu).Unique := by
  unfold Unique
  simp only [markLive]
  split
  · rw [map_updateFirst]
    · exact unique
    · exact fun _ => rfl
  · exact unique

theorem learnPeers_unique (unique : s.Unique) : (s.learnPeers now pdu).Unique := by
  have learned (own : Mi) (ids : List PeerId) (peers : List Peer) (distinct : (peers.map (·.mi)).Nodup) :
      ((ids.foldl (learnPeer now own) peers).map (·.mi)).Nodup := by
    induction ids generalizing peers with
    | nil => exact distinct
    | cons id ids ih =>
      apply ih
      unfold learnPeer
      split
      · exact distinct
      · rename_i unknown
        rw [List.map_append, List.nodup_append]
        refine ⟨distinct, List.nodup_singleton _, fun mi inside other new => ?_⟩
        obtain ⟨peer, mem, rfl⟩ := List.mem_map.mp inside
        rw [List.map_cons, List.map_nil, List.mem_singleton] at new
        rintro rfl
        apply unknown
        exact .inr (List.any_eq_true.mpr ⟨peer, mem, beq_iff_eq.mpr new⟩)
  simp only [learnPeers]
  split
  · exact learned _ _ _ unique
  · exact unique

theorem meetPeer_unique (unique : s.Unique) : (s.meetPeer now pdu).Unique :=
  learnPeers_unique (markLive_unique (notePeer_unique unique))

/-! A message changes the peer list, the role and what follows from it; the rest stays. -/

attribute [local simp] meetPeer electKeyServer learnPeers markLive notePeer

@[simp] theorem meetPeer_mac : (s.meetPeer now pdu).mac = s.mac := by simp

@[simp] theorem meetPeer_candidate : (s.meetPeer now pdu).candidate = s.candidate := by simp [candidate, actorSci]

@[simp] theorem meetPeer_canBeKeyServer : (s.meetPeer now pdu).canBeKeyServer = s.canBeKeyServer := by simp

@[simp] theorem meetPeer_mi : (s.meetPeer now pdu).mi = s.mi := by simp

@[simp] theorem meetPeer_macsec : (s.meetPeer now pdu).macsec = s.macsec := by simp

@[simp] theorem meetPeer_kek : (s.meetPeer now pdu).kek = s.kek := by simp

@[simp] theorem meetPeer_encrypt : (s.meetPeer now pdu).encrypt = s.encrypt := by simp

@[simp] theorem meetPeer_lan : (s.meetPeer now pdu).lan = s.lan := by simp

@[simp] theorem meetPeer_lki : (s.meetPeer now pdu).lki = s.lki := by simp

end Meeting

end Shuli.Wired.MkaSession
