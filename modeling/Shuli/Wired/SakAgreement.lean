import Mathlib.Data.Fintype.Basic
import Shuli.Wired.MkaGroup
import Shuli.Wired.MkaPeers

/-!
Agreement on the SAK. A key server that has stopped distributing its SAK relies on its live peers to
hold it. The reports that it acted on keep that true, unless a participant loses or replaces the SAK
while the key server still counts on it.
-/

namespace Shuli.Wired

open Fallible

namespace MkaSession

variable {now : Instant} {holds : Sci → KeyId → Prop} {s : MkaSession}

/-- What the key server relies on: a live peer holds the SAK if it has reported so, or if the SAK is no
longer distributed. `holds` says which SAK the participant of an SCI holds. -/
def Relies (holds : Sci → KeyId → Prop) (s : MkaSession) : Prop :=
  s.isKeyServer → s.needNewSak = false → ∀ ki, s.lki = some ki → ∀ peer ∈ s.peers, peer.live →
    peer.rxReady ∨ s.distSak = none → holds peer.sci ki

theorem electKeyServer_relies (relies : Relies holds s) : Relies holds s.electKeyServer := by
  intro server settled ki current peer mem live ready
  obtain ⟨before, unchanged, same⟩ := electKeyServer_settled server settled
  rw [same] at ready
  exact relies before unchanged ki current peer mem live ready

theorem expirePeers_relies (relies : Relies holds s) : Relies holds (s.expirePeers now) := by
  unfold expirePeers
  simp only
  split
  · exact relies
  · apply electKeyServer_relies
    intro server settled ki current peer mem live ready
    exact relies server (Bool.or_eq_false_iff.mp settled).1 ki current peer
      (List.mem_of_mem_filter mem) live ready

/-- A message keeps what the key server relies on, provided that the sender's SCI is the one known
for its MI. A sender that turns live makes a key server ask for a new SAK. -/
theorem meetPeer_relies {pdu : MkaPdu} (relies : Relies holds s)
    (named : s.isKeyServer → ∀ peer ∈ s.peers, peer.mi = pdu.basic.mi → peer.live →
      peer.sci = pdu.basic.sci) : Relies holds (s.meetPeer now pdu) := by
  apply electKeyServer_relies
  intro server settled ki current peer mem live ready
  obtain ⟨unchanged, joined⟩ := Bool.or_eq_false_iff.mp settled
  have held : (s.lki.isSome) = true := by
    rw [show s.lki = some ki from current]
    rfl
  have known : s.isLive pdu.basic.mi = true ∨ s.knowsUs pdu = false := by
    rw [show (s.notePeer now pdu).isKeyServer = true from server,
      show ((s.notePeer now pdu).lki.isSome) = true from held, Bool.and_true, Bool.and_true,
      notePeer_isLive] at joined
    revert joined
    change (s.knowsUs pdu && _) = false → _
    cases s.isLive pdu.basic.mi <;> cases s.knowsUs pdu <;> decide
  -- The sender's entry was live before, and stands under the same SCI.
  have renewed (entry : Peer) (alive : entry.live = s.isLive pdu.basic.mi)
      (ready : entry.rxReady ∨ s.distSak = none) (sci : entry.sci = pdu.basic.sci)
      (report : ∀ before, s.findPeer pdu.basic.mi = some before → entry.rxReady = before.rxReady)
      (live : entry.live) : holds entry.sci ki := by
    rw [alive, isLive] at live
    rcases found : s.findPeer pdu.basic.mi with _ | before
    · rw [found] at live
      cases live
    · rw [found] at live
      have inside := findPeer_mem found
      rw [report before found] at ready
      rw [sci, ← named server before inside (findPeer_mi found) live]
      exact relies server unchanged ki current before inside live ready
  have members : peer ∈ (s.meetPeer now pdu).peers := mem
  rcases mem_meetPeer members with old | noted | settled | ⟨id, -, listed⟩
  · exact relies server unchanged ki current peer old live ready
  · subst noted
    apply renewed _ notedEntry_live ready senderEntry_sci _ live
    intro before found
    rw [notedEntry, found]
    rfl
  · subst settled
    apply renewed _ _ ready senderEntry_sci _ live
    · rcases known with before | unknown
      · rw [senderEntry, before, Bool.true_or]
      · rw [senderEntry, unknown, Bool.or_false]
    · intro before found
      rw [senderEntry, notedEntry, found]
      rfl
  · rw [listed] at live
    cases live

theorem noteReport_relies {use : SakUse} {mi : Mi} {sender : Peer} (relies : Relies holds s)
    (found : s.findPeer mi = some sender) (current : s.lki = some use.latestKi)
    (honest : s.isKeyServer → s.needNewSak = false → holds sender.sci use.latestKi) :
    Relies holds (s.noteReport use mi) := by
  intro server settled ki held peer mem live ready
  have unchanged := (Bool.or_eq_false_iff.mp settled).1
  rcases mem_updateFirst mem with old | ⟨entry, first, changed⟩
  · exact relies server unchanged ki held peer old live ready
  · have same : sender = entry := Option.some.inj (found.symm.trans first)
    have key : use.latestKi = ki := Option.some.inj (current.symm.trans held)
    rw [changed, ← same, ← key]
    exact honest server unchanged

theorem stopDistributing_relies (relies : Relies holds s) : Relies holds s.stopDistributing := by
  intro server settled ki current peer mem live ready
  apply relies server settled ki current peer mem live
  simp only [stopDistributing] at ready
  split at ready
  · rename_i all
    left
    exact List.all_eq_true.mp all peer (List.mem_filter.mpr ⟨mem, live⟩)
  · exact ready

theorem remarked_relies {f : Peer → Bool} (relies : Relies holds s) : Relies holds (s.remarked f) := by
  intro server settled ki current peer mem live ready
  obtain ⟨entry, inside, same⟩ := List.mem_map.mp mem
  subst same
  exact relies server settled ki current entry inside live ready

theorem generated_relies {env : MkaEnv} {sak wrapped : Octets} :
    Relies holds (s.generated env now sak wrapped) := by
  intro server settled ki current peer mem live ready
  rcases ready with reported | stopped
  · obtain ⟨entry, -, same⟩ := List.mem_map.mp mem
    subst same
    cases reported
  · cases stopped

/-- The participant has a live peer, heard within MKA Life Time, that keeps it from the key server
role if it may have it. -/
def Follows (now : Instant) (s : MkaSession) : Prop :=
  ∃ peer ∈ s.peers, peer.live ∧ isFresh now peer ∧
    (s.canBeKeyServer → peer.keyServer ∧ peer.candidate.precedes s.candidate)

theorem electKeyServer_follows (follows : Follows now s) : s.electKeyServer.isKeyServer = false := by
  obtain ⟨peer, mem, live, -, claims⟩ := follows
  by_contra server
  obtain ⟨may, unbeaten⟩ := electKeyServer_own (Bool.eq_true_of_not_eq_false server)
  obtain ⟨claim, precedes⟩ := claims may
  exact unbeaten peer mem live claim precedes

/-- A client that holds `ki` and follows a live peer. -/
structure Client (now : Instant) (ki : KeyId) (s : MkaSession) : Prop where
  holds : s.lki = some ki
  client : s.isKeyServer = false
  follows : Follows now s

variable {ki : KeyId}

theorem Client.hasLivePeer (client : Client now ki s) : s.hasLivePeer = true := by
  obtain ⟨peer, mem, live, -⟩ := client.follows
  exact List.any_eq_true.mpr ⟨peer, mem, live⟩

theorem expirePeers_client (client : Client now ki s) : Client now ki (s.expirePeers now) := by
  unfold expirePeers
  simp only
  split
  · exact client
  · obtain ⟨peer, mem, live, fresh, claims⟩ := client.follows
    have follows : Follows now { s with
        peers := s.peers.filter (isFresh now)
        needSend := true
        needNewSak := s.needNewSak || s.isKeyServer && s.lki.isSome &&
          (s.peers.filter (isFresh now)).any (·.live) } :=
      ⟨peer, List.mem_filter.mpr ⟨mem, fresh⟩, live, fresh, claims⟩
    exact ⟨client.holds, electKeyServer_follows follows, follows⟩

theorem remarked_client {f : Peer → Bool} (client : Client now ki s) :
    Client now ki (s.remarked f) := by
  obtain ⟨peer, mem, live, fresh, claims⟩ := client.follows
  exact ⟨client.holds, client.client, _, List.mem_map_of_mem mem, live, fresh, claims⟩

/-- A message does not take the followed peer away; if it comes from that peer, it still has to keep
the participant from the role. -/
theorem meetPeer_client {pdu : MkaPdu} {peer : Peer} (held : s.lki = some ki) (mem : peer ∈ s.peers)
    (live : peer.live) (fresh : isFresh now peer)
    (claims : s.canBeKeyServer → peer.keyServer ∧ peer.candidate.precedes s.candidate)
    (renewal : s.canBeKeyServer → pdu.basic.mi = peer.mi → pdu.basic.keyServer ∧
      Candidate.precedes (pdu.basic.priority, pdu.basic.sci) s.candidate) :
    Client now ki (s.meetPeer now pdu) := by
  have follows : Follows now (s.meetPeer now pdu) := by
    unfold Follows
    rw [meetPeer_candidate]
    rcases meetPeer_mem now pdu mem live with kept | found
    · exact ⟨peer, kept, live, fresh, claims⟩
    · have entry : s.senderEntry now pdu ∈ (s.meetPeer now pdu).peers := findPeer_mem meetPeer_findPeer
      refine ⟨_, entry, ?_, ?_, ?_⟩
      · have alive : s.isLive pdu.basic.mi = true := by rw [isLive, found, Option.any_some, live]
        rw [senderEntry, alive, Bool.true_or]
      · have seen : (s.senderEntry now pdu).lastSeen = now := notedEntry_lastSeen
        rw [isFresh, seen, Nat.sub_self]
        decide
      · intro may
        obtain ⟨claim, precedes⟩ := renewal may (findPeer_mi found).symm
        rw [senderEntry_keyServer, Peer.candidate, senderEntry_priority, senderEntry_sci]
        exact ⟨claim, precedes⟩
  exact ⟨meetPeer_lki.trans held, electKeyServer_follows
    (s := ((s.notePeer now pdu).markLive now pdu).learnPeers now pdu) follows, follows⟩

/-- Nothing that the participant meets in this half of `run` costs it its SAK: it is a client, keeps
a live peer that it follows, meets no MI collision, and is sent no other SAK by a key server. -/
def KeepsSak (now : Instant) (heard : Option MkaPdu) (s : MkaSession) : Prop :=
  s.isKeyServer = false ∧
  (∃ peer ∈ s.peers, peer.live ∧ isFresh now peer ∧
    (s.canBeKeyServer → (peer.keyServer ∧ peer.candidate.precedes s.candidate) ∧
      ∀ pdu ∈ heard, s.heeds pdu → pdu.basic.mi = peer.mi → pdu.basic.keyServer ∧
        Candidate.precedes (pdu.basic.priority, pdu.basic.sci) s.candidate)) ∧
  ∀ pdu ∈ heard, pdu.basic.mi ≠ s.mi ∧ (s.heeds pdu → ¬s.collides pdu ∧
    (pdu.basic.keyServer → ∀ dist ∈ pdu.distSak, s.lki = some ⟨pdu.basic.mi, dist.kn⟩))

instance (heard : Option MkaPdu) : Decidable (KeepsSak now heard s) :=
  inferInstanceAs (Decidable (_ ∧ _ ∧ _))

end MkaSession

section Acts

open MkaSession

variable [MkaCrypto] {env : MkaEnv} {now : Instant} {origin s t : MkaSession}
  {frame : Option EapolFrame} {holds : Sci → KeyId → Prop}

theorem Act.mac (act : Act env now origin frame s t) : t.mac = s.mac := by
  cases act with
  | expire =>
    unfold expirePeers
    simp only
    split <;> rfl
  | _ => rfl

theorem opening_mac : (origin.opening env now frame).mac = origin.mac := by
  apply opening_cases (P := fun s => s.mac = origin.mac)
  · rfl
  · exact fun _ _ _ _ _ => rfl
  · exact fun _ _ => meetPeer_mac

/-- What a message may tell a key server: its SCI is the one known for its MI, and it reports the use
of the SAK only for a participant that holds it. -/
def Truthful (holds : Sci → KeyId → Prop) (s : MkaSession) (pdu : MkaPdu) : Prop :=
  (∀ peer ∈ s.peers, peer.mi = pdu.basic.mi → peer.live → peer.sci = pdu.basic.sci) ∧
  ∀ use ∈ pdu.sakUse, s.lki = some use.latestKi → holds pdu.basic.sci use.latestKi

instance [∀ sci ki, Decidable (holds sci ki)] (pdu : MkaPdu) : Decidable (Truthful holds s pdu) :=
  inferInstanceAs (Decidable (_ ∧ _))

/-- No act breaks what the key server relies on, if the message is truthful. -/
theorem Act.relies (act : Act env now origin frame s t)
    (truthful : ∀ pdu, TakenIn origin frame pdu → origin.isKeyServer → Truthful holds origin pdu)
    (relies : Relies holds s) : Relies holds t := by
  cases act with
  | expire => exact expirePeers_relies relies
  | forget =>
    intro _ _ _ current
    cases current
  | report taken present current server =>
    apply noteReport_relies relies meetPeer_findPeer current
    intro server settled
    have before := (electKeyServer_settled server settled).1
    rw [senderEntry_sci]
    exact (truthful _ taken before).2 _ present current
  | serve => exact stopDistributing_relies relies
  | serveFailed => exact relies
  | stop => exact stopDistributing_relies relies
  | adopt _ _ _ _ _ _ _ client =>
    intro server
    exact absurd server (Bool.eq_false_iff.mp client)
  | generate => exact generated_relies
  | remark f => exact remarked_relies relies
  | create => exact relies
  | removeRxScs => exact relies
  | clear => exact relies
  | follow => exact relies
  | count => exact relies
  | installPending => exact relies
  | ask => exact relies

theorem opening_relies (truthful : ∀ pdu, TakenIn origin frame pdu → origin.isKeyServer → Truthful holds origin pdu)
    (relies : Relies holds origin) : Relies holds (origin.opening env now frame) := by
  apply opening_cases relies
  · intro f pdu handed received collision server settled ki current
    cases current
  · exact fun pdu taken => meetPeer_relies relies fun server => (truthful pdu taken server).1

/-- No act costs a client its SAK, if it starts from a participant that keeps it. -/
theorem Act.client {ki : KeyId} {heard : Option MkaPdu} (act : Act env now origin frame s t)
    (kept : origin.KeepsSak now heard)
    (received : ∀ f pdu, frame = some f → origin.receivedPdu f = some pdu → pdu ∈ heard)
    (held : origin.lki = some ki) (client : Client now ki s) : Client now ki t := by
  cases act with
  | expire => exact expirePeers_client client
  | forget alone => exact absurd client.hasLivePeer (Bool.eq_false_iff.mp alone)
  | report _ _ _ server => exact absurd server (Bool.eq_false_iff.mp client.client)
  | serve _ _ _ server => exact absurd server (Bool.eq_false_iff.mp client.client)
  | serveFailed _ _ _ _ server => exact absurd server (Bool.eq_false_iff.mp client.client)
  | stop server => exact absurd server (Bool.eq_false_iff.mp client.client)
  | adopt taken present met known live server elected role other =>
    obtain ⟨f, handed, found⟩ := taken.received
    obtain ⟨-, kept⟩ := kept.2.2 _ (received _ _ handed found)
    cases Option.some.inj (known.symm.trans meetPeer_findPeer)
    rw [senderEntry_keyServer] at server
    rw [senderEntry_mi] at other
    have current := (kept taken.heeded).2 server _ present
    exact absurd (client.holds.trans (held.symm.trans current)) other
  | generate due =>
    have server : s.isKeyServer = true := by
      simp only [sakIsDue, Bool.and_eq_true] at due
      exact due.1.1.1
    exact absurd server (Bool.eq_false_iff.mp client.client)
  | remark f => exact remarked_client client
  | create => exact ⟨client.holds, client.client, client.follows⟩
  | removeRxScs => exact ⟨client.holds, client.client, client.follows⟩
  | clear => exact ⟨client.holds, client.client, client.follows⟩
  | follow => exact ⟨client.holds, client.client, client.follows⟩
  | count => exact ⟨client.holds, client.client, client.follows⟩
  | installPending => exact ⟨client.holds, client.client, client.follows⟩
  | ask => exact ⟨client.holds, client.client, client.follows⟩

theorem opening_client {ki : KeyId} {heard : Option MkaPdu} (kept : origin.KeepsSak now heard)
    (received : ∀ f pdu, frame = some f → origin.receivedPdu f = some pdu → pdu ∈ heard)
    (held : origin.lki = some ki) (client : Client now ki origin) :
    Client now ki (origin.opening env now frame) := by
  apply opening_cases client
  · intro f pdu handed found collision
    obtain ⟨foreign, other⟩ := kept.2.2 _ (received _ _ handed found)
    rcases collision with same | ⟨heeded, collides⟩
    · exact absurd same foreign
    · exact absurd collides (other heeded).1
  · intro pdu taken
    obtain ⟨f, handed, found⟩ := taken.received
    obtain ⟨peer, mem, live, fresh, claims⟩ := kept.2.1
    exact meetPeer_client held mem live fresh (fun may => (claims may).1) fun may same =>
      (claims may).2 _ (received _ _ handed found) taken.heeded same

end Acts

namespace MkaGroup

variable {ι : Type} {group : MkaGroup ι} {i k : ι}

/-- The participants other than `k` that have an SCI hold a SAK. -/
def OthersHold (group : MkaGroup ι) (k : ι) (sci : Sci) (ki : KeyId) : Prop :=
  ∀ i, i ≠ k → (group.session i).actorSci = sci → (group.session i).lki = some ki

/-- The key server `k` counts on `i` to hold its SAK: it has no new SAK scheduled, `i` is among its
live peers and has reported the SAK, or the SAK is no longer distributed. -/
def Counts (group : MkaGroup ι) (k i : ι) : Prop :=
  (group.session k).isKeyServer ∧ (group.session k).needNewSak = false ∧
  (group.session k).lki.isSome ∧ (group.session k).lki = (group.session i).lki ∧
  ∃ peer ∈ (group.session k).peers, peer.live ∧
    (peer.rxReady ∨ (group.session k).distSak = none) ∧ peer.sci = (group.session i).actorSci

/-- A participant keeps its SAK while a key server counts on it, and a key server is told the truth
about the use of its SAK. -/
def Coherent [MkaCrypto] (group : MkaGroup ι) : GroupInput ι → Prop
  | .advance _ => True
  | .begin i _ => (∃ k, k ≠ i ∧ group.Counts k i) → (group.session i).KeepsSak group.now none
  | .finish i _ place => group.waiting i →
    ((∃ k, k ≠ i ∧ group.Counts k i) → (group.session i).KeepsSak group.now (group.heard i place)) ∧
    ∀ pdu ∈ group.heard i place, (group.session i).isKeyServer → (group.session i).heeds pdu →
      Truthful (group.OthersHold i) (group.session i) pdu

instance [Fintype ι] [DecidableEq ι] (k : ι) (sci : Sci) (ki : KeyId) :
    Decidable (group.OthersHold k sci ki) :=
  inferInstanceAs (Decidable (∀ _, _))

instance [DecidableEq ι] (k i : ι) : Decidable (group.Counts k i) :=
  inferInstanceAs (Decidable (_ ∧ _))

instance [MkaCrypto] [Fintype ι] [DecidableEq ι] (group : MkaGroup ι) :
    (input : GroupInput ι) → Decidable (group.Coherent input)
  | .advance _ => isTrue trivial
  | .begin _ _ => inferInstanceAs (Decidable (_ → _))
  | .finish _ _ _ => inferInstanceAs (Decidable (_ → _ ∧ _))

/-- Every live participant of a key server that has stopped distributing its SAK holds the SAK, or a
new SAK is scheduled. -/
def Agreement (group : MkaGroup ι) : Prop :=
  ∀ k i, (group.session k).isKeyServer → (group.session k).secured →
    (group.session k).distSak = none →
    (∃ peer ∈ (group.session k).peers, peer.live ∧ peer.sci = (group.session i).actorSci) →
    (group.session i).lki = (group.session k).lki ∨ (group.session k).needNewSak

def Reliable (group : MkaGroup ι) : Prop :=
  ∀ k, (group.session k).Relies (group.OthersHold k)

theorem Reliable.agreement (reliable : group.Reliable) : group.Agreement := by
  intro k i server secured stopped entry
  obtain ⟨peer, mem, live, named⟩ := entry
  by_cases pending : (group.session k).needNewSak
  · exact .inr pending
  · by_cases own : i = k
    · exact .inl (by rw [own])
    · have current : (group.session k).lki.isSome := by
        simp only [MkaSession.secured, Bool.and_eq_true] at secured
        exact secured.1.1.1
      obtain ⟨ki, held⟩ := Option.isSome_iff_exists.mp current
      left
      rw [held]
      exact reliable k server (Bool.eq_false_iff.mpr pending) ki held peer mem live (.inr stopped) i own
        named.symm

theorem Started.reliable [MkaCrypto] {cak ckn : Octets} (started : group.Started cak ckn) : group.Reliable := by
  intro k server settled ki current
  obtain ⟨ifaceName, config, socket, randomMi, -, -, created⟩ := started.fresh k
  obtain ⟨mac, kek, ick, mi, -, -, -, fresh⟩ := MkaSession.new_eq_ok created
  rw [fresh] at current
  cases current

variable [DecidableEq ι]

/-- One participant acts: it may rely on the others as before, and the others may rely on it. -/
theorem act_reliable {α : Type} {operation : Session α} {waits : Except Core.WifiError α → Bool}
    (reliable : group.Reliable)
    (own : (group.session i).Relies (group.OthersHold i) →
      (after operation (group.session i)).Relies (group.OthersHold i))
    (mac : (after operation (group.session i)).mac = (group.session i).mac)
    (keep : ∀ ki, (group.session i).lki = some ki → (∃ k, k ≠ i ∧ group.Counts k i) →
      (after operation (group.session i)).lki = some ki) :
    (group.act i operation waits).Reliable := by
  have named : ((group.act i operation waits).session i).actorSci = (group.session i).actorSci := by
    rw [act_session_self]
    simp only [MkaSession.actorSci, mac]
  intro k
  by_cases acting : k = i
  · -- The other participants stand still while `i` acts.
    subst acting
    rw [act_session_self]
    intro server settled ki current peer mem live ready j apart sci
    rw [act_session_other apart] at sci ⊢
    exact own (reliable k) server settled ki current peer mem live ready j apart sci
  · rw [act_session_other acting]
    intro server settled ki current peer mem live ready j apart sci
    by_cases acted : j = i
    · subst acted
      rw [named] at sci
      have held := reliable k server settled ki current peer mem live ready j apart sci
      rw [act_session_self]
      apply keep ki held
      exact ⟨k, acting, server, settled, by rw [current]; rfl, by rw [current, held], peer, mem, live,
        ready, sci.symm⟩
    · rw [act_session_other acted] at sci ⊢
      exact reliable k server settled ki current peer mem live ready j apart sci

variable [MkaCrypto]

/-- One half of `run` of a participant that is handed `frame` and finds `heard` in it. -/
theorem half_reliable {α : Type} {operation : Session α} {waits : Except Core.WifiError α → Bool}
    {env : MkaEnv} {frame : Option EapolFrame} {heard : Option MkaPdu} (reliable : group.Reliable)
    (half : Half env group.now (group.session i) frame (after operation (group.session i)))
    (received : ∀ f pdu, frame = some f → (group.session i).receivedPdu f = some pdu → pdu ∈ heard)
    (keeps : (∃ k, k ≠ i ∧ group.Counts k i) → (group.session i).KeepsSak group.now heard)
    (truth : ∀ pdu ∈ heard, (group.session i).isKeyServer → (group.session i).heeds pdu →
      Truthful (group.OthersHold i) (group.session i) pdu) :
    (group.act i operation waits).Reliable := by
  have truthful (pdu : MkaPdu) (taken : TakenIn (group.session i) frame pdu)
      (server : (group.session i).isKeyServer) :
      Truthful (group.OthersHold i) (group.session i) pdu := by
    obtain ⟨f, handed, found⟩ := taken.received
    exact truth pdu (received f pdu handed found) server taken.heeded
  apply act_reliable reliable
  · intro relies
    apply half.invariant _ (fun s payload relies => relies) (opening_relies truthful relies)
    exact fun s t act relies => act.relies truthful relies
  · apply half.invariant (I := fun t => t.mac = (group.session i).mac) _ (fun s payload same => same)
      opening_mac
    exact fun s t act same => act.mac.trans same
  · intro ki held counted
    have kept := keeps counted
    obtain ⟨peer, mem, live, fresh, claims⟩ := kept.2.1
    have client : (group.session i).Client group.now ki :=
      ⟨held, kept.1, peer, mem, live, fresh, fun may => (claims may).1⟩
    apply MkaSession.Client.holds
    apply half.invariant _ _ (opening_client kept received held client)
    · exact fun s t act => act.client kept received held
    · exact fun s payload client => ⟨client.holds, client.client, client.follows⟩

theorem step_reliable {input : GroupInput ι} (reliable : group.Reliable)
    (coherent : group.Coherent input) : (group.step input).Reliable := by
  cases input with
  | advance elapsed => exact reliable
  | begin i env =>
    rw [step]
    apply half_reliable reliable beginRun_half _ coherent
    · exact fun pdu mem => absurd mem (Option.not_mem_none pdu)
    · exact fun f pdu handed => nomatch handed
  | finish i env place =>
    rw [step]
    split
    · rename_i waits
      obtain ⟨keeps, truth⟩ := coherent waits
      apply half_reliable reliable finishRun_half _ keeps truth
      intro f pdu handed found
      rw [MkaGroup.heard, handed]
      exact found
    · exact reliable

/-- The SAKs of a group agree in every state of a run whose steps are coherent. -/
theorem sak_agreement {cak ckn : Octets} {inputs : List (GroupInput ι)}
    (started : group.Started cak ckn) (coherent : Admitted step Coherent group inputs) :
    (runInputs step group inputs).Agreement := by
  apply Reliable.agreement
  exact run_invariant (fun _ _ reliable coherent => step_reliable reliable coherent) started.reliable
    coherent

end MkaGroup

section Sample

attribute [local instance] sampleMkaCrypto

def sampleCak : Octets := List.replicate 16 0x11

def sampleCkn : Octets := List.replicate 16 0x22

def samplePort (role : Option UInt8) : MacsecConfig where
  cak := sampleCak
  ckn := sampleCkn
  keyServerPriority := role.getD 0xff
  canBeKeyServer := role.isSome
  macsecIface := none
  replayWindow := 0
  encrypt := true

def sampleMac (number : UInt8) : MacAddr := ⟨[2, 0, 0, 0, 0, number], rfl⟩

def sampleParticipant (role : Option UInt8) (number : UInt8) : MkaSession :=
  let kek := ((deriveKek sampleCak sampleCkn).toOption).getD []
  let ick := ((deriveIck sampleCak sampleCkn).toOption).getD []
  (MkaSession.initial "eth0" (samplePort role) (sampleMac number) kek ick (.fill number 12) 0).electKeyServer

theorem sampleParticipant_new (role : Option UInt8) (number : UInt8) :
    MkaSession.new "eth0" (samplePort role) (.ok (sampleMac number))
      (.ok (.fill number 12)) 0 =
    .ok (sampleParticipant role number) := by
  have kek : deriveKek sampleCak sampleCkn =
      .ok ((deriveKek sampleCak sampleCkn).toOption.getD []) := by decide +kernel
  have ick : deriveIck sampleCak sampleCkn =
      .ok ((deriveIck sampleCak sampleCkn).toOption.getD []) := by decide +kernel
  unfold MkaSession.new
  rw [show deriveKek (samplePort role).cak (samplePort role).ckn = _ from kek,
    show deriveIck (samplePort role).cak (samplePort role).ckn = _ from ick]
  rfl

def sampleOutside : MkaEnv where
  randomMi := .ok ⟨List.replicate 12 0x77, List.length_replicate⟩
  randomSak := .ok ⟨List.replicate 16 0x33, List.length_replicate⟩
  sendFrame := .ok ()
  kernel := ⟨fun _ => .ok (), fun _ => none⟩

theorem sampleOutside_obliging : sampleOutside.kernel.Obliging := fun _ => rfl

def sampleGroup {n : Nat} (role : Fin n → Option UInt8) : MkaGroup (Fin n) where
  now := 0
  session i := sampleParticipant (role i) (UInt8.ofNat (i.val + 1))
  waiting _ := false
  log := []

instance neZeroTwo : NeZero 2 := ⟨by decide⟩

def samplePair : MkaGroup (Fin 2) := sampleGroup fun i => if i = 0 then some 1 else none

theorem samplePair_started : samplePair.Started sampleCak sampleCkn where
  fresh _ := ⟨_, _, _, _, rfl, rfl, sampleParticipant_new _ _⟩
  idle _ := rfl
  silent := rfl
  distinct := by decide +kernel

def pairUp : List (GroupInput (Fin 2)) :=
  [.begin 0 sampleOutside, .begin 1 sampleOutside, .finish 0 sampleOutside (some 1),
    .finish 1 sampleOutside (some 2), .begin 0 sampleOutside, .finish 0 sampleOutside (some 3),
    .begin 1 sampleOutside, .finish 1 sampleOutside (some 4), .begin 0 sampleOutside,
    .finish 0 sampleOutside (some 5)]

def pairApart : List (GroupInput (Fin 2)) :=
  [.advance (secs 3), .begin 1 sampleOutside, .begin 0 sampleOutside, .finish 0 sampleOutside (some 7),
    .advance (secs 3), .begin 1 sampleOutside]

theorem sak_agreement_pair :
    ((runInputs MkaGroup.step samplePair pairUp).session 0).secured ∧
      ((runInputs MkaGroup.step samplePair pairUp).session 0).distSak = none ∧
      (runInputs MkaGroup.step samplePair pairUp).Agreement := by
  have reached : ((runInputs MkaGroup.step samplePair pairUp).session 0).secured ∧
      ((runInputs MkaGroup.step samplePair pairUp).session 0).distSak = none ∧
      Admitted MkaGroup.step MkaGroup.Coherent samplePair pairUp := by decide +kernel
  exact ⟨reached.1, reached.2.1, MkaGroup.sak_agreement samplePair_started reached.2.2⟩

/-- The key server is secured, distributes nothing, schedules nothing and holds the client as live,
and the client has dropped the SAK. -/
theorem sak_disagreement_pair : ¬(runInputs MkaGroup.step samplePair (pairUp ++ pairApart)).Agreement := by
  intro agreement
  have apart : let group := runInputs MkaGroup.step samplePair (pairUp ++ pairApart)
      ((group.session 0).isKeyServer ∧ (group.session 0).secured ∧ (group.session 0).distSak = none ∧
        ∃ peer ∈ (group.session 0).peers, peer.live ∧ peer.sci = (group.session 1).actorSci) ∧
      ¬((group.session 1).lki = (group.session 0).lki ∨ (group.session 0).needNewSak) := by
    decide +kernel
  obtain ⟨⟨server, secured, stopped, entry⟩, missing⟩ := apart
  exact missing (agreement 0 1 server secured stopped entry)

end Sample

end Shuli.Wired
