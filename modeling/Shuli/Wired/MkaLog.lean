import Shuli.Wired.MkaCodec
import Shuli.Wired.MkaGroup
import Shuli.Wired.MkaPeers

/-!
What the log of a group says about its participants. Every MKPDU that is heard was sent, its MI names
its sender, its MN counts the sends of the sender, and every participant that a peer list holds was
once heard with that MN. So no participant ever finds its MI in use elsewhere.
-/

namespace Shuli.Wired

open Fallible

/-- Counting does not pass the greatest number. -/
theorem nextCounter_toNat {counter : UInt32} (below : counter ≠ 0xffffffff) :
    (nextCounter counter).toNat = counter.toNat + 1 := by
  have small : counter.toNat ≠ 0xffffffff := fun same => below (UInt32.toNat_inj.mp same)
  have bound := counter.toNat_lt
  have next : (counter + 1).toNat = counter.toNat + 1 := by
    change (counter.toNat + 1) % 2 ^ 32 = _
    omega
  change (if counter + 1 ≤ 1 then 1 else counter + 1).toNat = _
  split
  · rename_i le
    rw [UInt32.le_iff_toNat_le, next] at le
    change counter.toNat + 1 ≤ 1 at le
    change 1 = counter.toNat + 1
    omega
  · exact next

section Encoding

/-- The fields of an MKPDU are within their widths. -/
structure MkaPdu.Narrow (pdu : MkaPdu) : Prop where
  capability : pdu.basic.macsecCapability.toNat < 4
  ckn : pdu.basic.ckn.length ≤ 32
  sakUse : ∀ use ∈ pdu.sakUse, use.latestAn.toNat < 4 ∧ use.oldAn.toNat < 4
  distSak : ∀ dist ∈ pdu.distSak, dist.an.toNat < 4 ∧ dist.confidentialityOffset.toNat < 4 ∧
    dist.cipherSuite = none ∧ dist.wrappedSak.length < 32

/-- What a participant shows of itself in its MKPDUs, with its outbox. -/
structure Face where
  mi : Mi
  mac : MacAddr
  ick : Octets
  ckn : Octets
  mn : UInt32
  lan : UInt8
  oan : UInt8
  distSak : Option DistSak
  standings : List Peer
  outbox : List Transmission

def MkaSession.face (self : MkaSession) : Face :=
  ⟨self.mi, self.mac, self.ick, self.ckn, self.mn, self.lan, self.oan, self.distSak, self.standings,
    self.outbox⟩

/-- The fields of a participant are within the widths that they are sent with. -/
structure Face.Narrow (face : Face) : Prop where
  ckn : face.ckn.length ≤ 32
  lan : face.lan.toNat < 4
  oan : face.oan.toNat < 4
  distSak : ∀ dist ∈ face.distSak, dist.an.toNat < 4 ∧ dist.confidentialityOffset.toNat < 4 ∧
    dist.cipherSuite = none ∧ dist.wrappedSak.length < 32

theorem Face.Narrow.mkpdu {s : MkaSession} (narrow : s.face.Narrow) : s.mkpdu.Narrow where
  capability := show (2 : UInt8).toNat < 4 by decide
  ckn := narrow.ckn
  sakUse := by
    intro use present
    obtain ⟨ki, -, rfl⟩ := Option.map_eq_some_iff.mp present
    exact ⟨narrow.lan, narrow.oan⟩
  distSak := by
    intro dist present
    rw [MkaSession.mkpdu] at present
    split at present
    · exact narrow.distSak dist present
    · cases present

variable [MkaCrypto]

/-- A PDU that fits the buffer of the socket fits its length fields. -/
theorem MkaPdu.Narrow.encodable {pdu : MkaPdu} {da sa : MacAddr} {ick eapol : Octets}
    (narrow : pdu.Narrow) (built : pdu.buildEapol da sa ick = .ok eapol)
    (fits : eapol.length ≤ recvBufferLen - ethernetHeaderLen) : pdu.Encodable := by
  obtain ⟨icv, -, -, rfl⟩ := buildEapol_eq_ok built
  have size (type : UInt8) (peers : List PeerId) : peers.length * 16 ≤ (buildPeers type peers).length := by
    cases peers with
    | nil => exact Nat.zero_le _
    | cons peer peers =>
      have inner := ParameterSets.flatMap_peers_length (peer :: peers)
      simp only [buildPeers, List.isEmpty_cons, Bool.false_eq_true, if_false, List.length_append]
      omega
  have live := size 1 pdu.livePeers
  have potential := size 2 pdu.potentialPeers
  have whole : recvBufferLen - ethernetHeaderLen = 4082 := rfl
  simp only [buildBody, List.length_append] at fits
  have ckn := narrow.ckn
  exact ⟨narrow.capability, by omega, by omega, by omega, narrow.sakUse, narrow.distSak⟩

/-- What is found in the frame of an MKPDU is the MKPDU, and it is another port's. -/
theorem MkaSession.receivedPdu_sent {s : MkaSession} {sent : Transmission} {pdu : MkaPdu}
    (received : s.receivedPdu sent.frame.received = some pdu) (narrow : sent.pdu.Narrow)
    (built : sent.pdu.buildEapol sent.frame.dst sent.frame.src s.ick = .ok sent.frame.payload) :
    pdu = sent.pdu ∧ sent.frame.src ≠ s.mac := by
  rw [receivedPdu, EapolFrame.received] at received
  split at received
  · cases received
  · split at received
    · cases received
    · split at received
      · cases received
      · rename_i foreign
        refine ⟨?_, foreign⟩
        by_cases fits : sent.frame.payload.length ≤ recvBufferLen - ethernetHeaderLen
        · have parsed : MkaPdu.parse (sent.frame.payload ++ []) sent.frame.dst sent.frame.src s.ick = _ :=
            MkaPdu.parse_buildEapol (narrow.encodable built fits) built
          rw [List.append_nil] at parsed
          rw [List.take_of_length_le fits, parsed] at received
          dsimp only at received
          split at received
          · exact (Option.some.inj received).symm
          · cases received
        · obtain ⟨e, refused⟩ := MkaPdu.parse_take built (by decide) (Nat.lt_of_not_le fits)
          rw [refused] at received
          cases received

end Encoding

section Log

variable {ι : Type} [DecidableEq ι] {i : ι} {log : List (ι × Transmission)} {sent : Transmission} {n : Nat}

def sends (i : ι) (log : List (ι × Transmission)) : Nat := log.countP fun sent => decide (sent.1 = i)

theorem sends_append (first second : List (ι × Transmission)) :
    sends i (first ++ second) = sends i first + sends i second := List.countP_append

theorem sends_own : sends i [(i, sent)] = 1 := by simp [sends]

theorem sends_other {j : ι} (other : j ≠ i) : sends i [(j, sent)] = 0 := by simp [sends, other]

theorem sends_take_le (n : Nat) : sends i (log.take n) ≤ sends i log :=
  (List.take_sublist n log).countP_le

theorem sends_take_mono {m : Nat} (le : m ≤ n) : sends i (log.take m) ≤ sends i (log.take n) :=
  (List.take_sublist_take_left le).countP_le

theorem sends_take_succ (found : log[n]? = some (i, sent)) :
    sends i (log.take (n + 1)) = sends i (log.take n) + 1 := by
  rw [List.take_add_one, found, sends_append]
  exact congrArg _ sends_own

/-- An MKPDU with this MI and MN was sent. -/
def Mentioned (log : List (ι × Transmission)) (id : PeerId) : Prop :=
  ∃ sent ∈ log, sent.2.pdu.basic.mi = id.mi ∧ sent.2.pdu.basic.mn = id.mn

omit [DecidableEq ι] in
theorem Mentioned.append {id : PeerId} (mentioned : Mentioned log id) (later : List (ι × Transmission)) :
    Mentioned (log ++ later) id := by
  obtain ⟨sent, mem, same⟩ := mentioned
  exact ⟨sent, List.mem_append_left _ mem, same⟩

theorem mem_orderedLivePeers {peers : List Peer} {id : PeerId} (mem : id ∈ orderedLivePeers peers) :
    ∃ peer ∈ peers, id = ⟨peer.mi, peer.mn⟩ := by
  obtain ⟨peer, inside, rfl⟩ := List.mem_map.mp mem
  rw [List.mem_insertionSort] at inside
  exact ⟨peer, List.mem_of_mem_filter inside, rfl⟩

theorem mem_orderedPotentialPeers {peers : List Peer} {id : PeerId}
    (mem : id ∈ orderedPotentialPeers peers) : ∃ peer ∈ peers, id = ⟨peer.mi, peer.mn⟩ := by
  rw [orderedPotentialPeers, List.mem_insertionSort] at mem
  obtain ⟨peer, inside, rfl⟩ := List.mem_map.mp mem
  exact ⟨peer, List.mem_of_mem_filter inside, rfl⟩

end Log

section Acts

variable {ι : Type} {log : List (ι × Transmission)} {env : MkaEnv} {now : Instant}
  {origin s t : MkaSession} {frame : Option EapolFrame}

/-- What an MKPDU of the log may be to a participant: it comes from elsewhere, and what it says about
MIs and MNs was sent before. -/
structure Plausible (log : List (ι × Transmission)) (origin : MkaSession) (pdu : MkaPdu) : Prop where
  foreign : pdu.basic.mi ≠ origin.mi
  distinct : ¬origin.collides pdu
  sender : Mentioned log ⟨pdu.basic.mi, pdu.basic.mn⟩
  listed : ∀ id ∈ pdu.livePeers, Mentioned log id
  narrow : pdu.Narrow

/-- What the acts of a half keep: the identity of the participant, its message number and its outbox,
and that its peer list comes from the log. -/
structure Unmoved (log : List (ι × Transmission)) (origin face : Face) : Prop where
  mi : face.mi = origin.mi
  mac : face.mac = origin.mac
  ick : face.ick = origin.ick
  mn : face.mn = origin.mn
  outbox : face.outbox = origin.outbox
  narrow : face.Narrow
  acquainted : ∀ peer ∈ face.standings, Mentioned log ⟨peer.mi, peer.mn⟩

open MkaSession

theorem mem_standings {peer : Peer} (mem : peer ∈ s.standings) : ∃ entry ∈ s.peers, peer = entry.standing := by
  obtain ⟨entry, inside, rfl⟩ := List.mem_map.mp mem
  exact ⟨entry, inside, rfl⟩

theorem Unmoved.mentioned {origin : Face} {peer : Peer} (unmoved : Unmoved log origin s.face)
    (mem : peer ∈ s.peers) : Mentioned log ⟨peer.mi, peer.mn⟩ :=
  unmoved.acquainted peer.standing (List.mem_map_of_mem mem)

variable {origin : Face}

/-- The distributed SAK may go, and the peer list may change within the log. -/
theorem Unmoved.change (unmoved : Unmoved log origin s.face)
    (same : { t.face with distSak := s.distSak, standings := s.standings } = s.face)
    (dist : t.distSak = none ∨ t.distSak = s.distSak)
    (acquainted : ∀ peer ∈ t.peers, Mentioned log ⟨peer.mi, peer.mn⟩) : Unmoved log origin t.face := by
  have ckn : t.ckn = s.ckn := congrArg Face.ckn same
  have lan : t.lan = s.lan := congrArg Face.lan same
  have oan : t.oan = s.oan := congrArg Face.oan same
  refine ⟨(congrArg Face.mi same).trans unmoved.mi, (congrArg Face.mac same).trans unmoved.mac,
    (congrArg Face.ick same).trans unmoved.ick, (congrArg Face.mn same).trans unmoved.mn,
    (congrArg Face.outbox same).trans unmoved.outbox, ⟨?_, ?_, ?_, ?_⟩, ?_⟩
  · rw [face, ckn]
    exact unmoved.narrow.ckn
  · rw [face, lan]
    exact unmoved.narrow.lan
  · rw [face, oan]
    exact unmoved.narrow.oan
  · intro value present
    rcases dist with gone | kept
    · rw [show t.face.distSak = none from gone] at present
      cases present
    · rw [show t.face.distSak = s.distSak from kept] at present
      exact unmoved.narrow.distSak value present
  · intro peer mem
    obtain ⟨entry, inside, rfl⟩ := mem_standings mem
    exact acquainted entry inside

theorem expirePeers_unmoved (unmoved : Unmoved log origin s.face) :
    Unmoved log origin (s.expirePeers now).face := by
  unfold expirePeers
  simp only
  split
  · exact unmoved
  · apply unmoved.change
    · rfl
    · exact electKeyServer_distSak
    · exact fun peer mem => unmoved.mentioned (List.mem_of_mem_filter mem)

theorem meetPeer_unmoved {pdu : MkaPdu} (unmoved : Unmoved log origin s.face)
    (sender : Mentioned log ⟨pdu.basic.mi, pdu.basic.mn⟩)
    (listed : ∀ id ∈ pdu.livePeers, Mentioned log id) : Unmoved log origin (s.meetPeer now pdu).face := by
  apply unmoved.change
  · simp only [face, meetPeer, electKeyServer, learnPeers, markLive, notePeer]
  · exact electKeyServer_distSak
  · intro peer mem
    rcases mem_meetPeer mem with old | rfl | rfl | ⟨id, inside, rfl⟩
    · exact unmoved.mentioned old
    · rw [notedEntry_mi, notedEntry_mn]
      exact sender
    · rw [senderEntry_mi, senderEntry_mn]
      exact sender
    · exact listed id inside

theorem stopDistributing_unmoved (unmoved : Unmoved log origin s.face) :
    Unmoved log origin s.stopDistributing.face :=
  unmoved.change rfl (ite_eq_or_eq _ _ _) fun _ mem => unmoved.mentioned mem

theorem transmitting_unmoved (unmoved : Unmoved log origin s.face) :
    Unmoved log origin (s.transmitting env).face := unmoved

theorem forgetSak_standings : s.forgetSak.standings = s.standings := by
  simp [forgetSak, standings, Peer.standing]

theorem remarked_standings (f : Peer → Bool) : (s.remarked f).standings = s.standings := by
  simp [remarked, standings, Peer.standing]

theorem generated_standings {sak wrapped : Octets} :
    (s.generated env now sak wrapped).standings = s.standings := by
  simp [generated, adoptOwnSak, operated, standings, Peer.standing]

variable [MkaCrypto]

theorem wrapKey_length {kek plain wrapped : Octets} (wrap : wrapKey kek plain = .ok wrapped) :
    wrapped.length = plain.length + 8 := by
  obtain ⟨result, -, out⟩ := Except.bind_eq_ok.mp wrap
  split at out
  · rename_i block
    rw [← Except.ok.inj out]
    exact block.property
  · cases out

/-- No act moves a participant that hears plausible MKPDUs only. -/
theorem Act.unmoved {origin : MkaSession} (act : Act env now origin frame s t)
    (credible : ∀ f pdu, frame = some f → origin.receivedPdu f = some pdu → Plausible log origin pdu)
    (unmoved : Unmoved log origin.face s.face) : Unmoved log origin.face t.face := by
  have heard {pdu : MkaPdu} (taken : TakenIn origin frame pdu) : Plausible log origin pdu := by
    obtain ⟨f, handed, received⟩ := taken.received
    exact credible f pdu handed received
  have zero : (0 : UInt8).toNat < 4 := by decide
  cases act with
  | expire => exact expirePeers_unmoved unmoved
  | forget =>
    obtain ⟨mi, mac, ick, mn, outbox, narrow, acquainted⟩ := unmoved
    refine ⟨mi, mac, ick, mn, outbox, ⟨narrow.ckn, zero, zero, fun _ absent => nomatch absent⟩, ?_⟩
    rw [face, forgetSak_standings]
    exact acquainted
  | report =>
    unfold face
    rw [noteReport_standings]
    exact unmoved
  | serve => exact stopDistributing_unmoved (transmitting_unmoved unmoved)
  | serveFailed => exact transmitting_unmoved unmoved
  | stop => exact stopDistributing_unmoved unmoved
  | follow => exact transmitting_unmoved unmoved
  | adopt taken present =>
    obtain ⟨mi, mac, ick, mn, outbox, narrow, acquainted⟩ := unmoved
    have an := ((heard taken).narrow.distSak _ present).1
    exact ⟨mi, mac, ick, mn, outbox, ⟨narrow.ckn, an, narrow.lan, narrow.distSak⟩, acquainted⟩
  | generate due first drawn wrap =>
    rename_i sak wrapped
    obtain ⟨mi, mac, ick, mn, outbox, narrow, acquainted⟩ := unmoved
    have an : ((s.lan + 1) &&& 0x03).toNat < 4 := by
      exact Nat.lt_succ_of_le Nat.and_le_right
    have offset (encrypt : Bool) : (confidentialityOffset encrypt).toNat < 4 := by
      cases encrypt <;> decide
    refine ⟨mi, mac, ick, mn, outbox, ⟨narrow.ckn, an, narrow.lan, ?_⟩, ?_⟩
    · rintro dist ⟨⟩
      refine ⟨an, offset _, rfl, ?_⟩
      rw [wrapKey_length wrap, sak.property]
      decide
    · rw [face, generated_standings]
      exact acquainted
  | remark f =>
    unfold face
    rw [remarked_standings]
    exact unmoved
  | create => exact unmoved
  | removeRxScs => exact unmoved
  | clear => exact unmoved
  | count => exact unmoved
  | installPending => exact unmoved
  | ask => exact unmoved

theorem opening_unmoved {origin : MkaSession}
    (credible : ∀ f pdu, frame = some f → origin.receivedPdu f = some pdu → Plausible log origin pdu)
    (unmoved : Unmoved log origin.face origin.face) :
    Unmoved log origin.face (origin.opening env now frame).face := by
  apply opening_cases (P := fun s => Unmoved log origin.face s.face) unmoved
  · intro f pdu handed received collision
    have credible := credible f pdu handed received
    rcases collision with same | ⟨-, collides⟩
    · exact absurd same credible.foreign
    · exact absurd collides credible.distinct
  · intro pdu taken
    obtain ⟨f, handed, received⟩ := taken.received
    have credible := credible f pdu handed received
    exact meetPeer_unmoved unmoved credible.sender credible.listed

end Acts

namespace MkaGroup

variable {ι : Type} [DecidableEq ι] [MkaCrypto] {mis : ι → Mi} {macs : ι → MacAddr} {ick : Octets}
  {group : MkaGroup ι} {i j : ι} {sent : Transmission} {n : Nat}

/-- What holds of a transmission of `j` that stands behind `before` in the log. -/
structure Logged (mis : ι → Mi) (macs : ι → MacAddr) (ick : Octets) (before : List (ι × Transmission))
    (j : ι) (sent : Transmission) : Prop where
  mi : sent.pdu.basic.mi = mis j
  mn : sent.pdu.basic.mn.toNat = sends j before + 1
  src : sent.frame.src = macs j
  narrow : sent.pdu.Narrow
  built : sent.pdu.buildEapol sent.frame.dst sent.frame.src ick = .ok sent.frame.payload
  listed : ∀ id ∈ sent.pdu.livePeers ++ sent.pdu.potentialPeers, Mentioned before id

/-- The participants keep their MIs and MAC addresses and share the ICK; the log tells what they sent
and what they know of each other. -/
structure Traced (mis : ι → Mi) (macs : ι → MacAddr) (ick : Octets) (group : MkaGroup ι) : Prop where
  mi : ∀ i, (group.session i).mi = mis i
  mac : ∀ i, (group.session i).mac = macs i
  key : ∀ i, (group.session i).ick = ick
  mn : ∀ i, (group.session i).mn.toNat = sends i group.log + 1
  narrow : ∀ i, (group.session i).face.Narrow
  acquainted : ∀ i, ∀ peer ∈ (group.session i).standings, Mentioned group.log ⟨peer.mi, peer.mn⟩
  logged : ∀ n j sent, group.log[n]? = some (j, sent) → Logged mis macs ick (group.log.take n) j sent

theorem Traced.heard {place : Option Nat} {f : EapolFrame} {pdu : MkaPdu} (traced : group.Traced mis macs ick)
    (handed : group.frameAt place = some f) (received : (group.session i).receivedPdu f = some pdu) :
    ∃ n j sent, place = some n ∧ group.log[n]? = some (j, sent) ∧ pdu = sent.pdu ∧ j ≠ i := by
  obtain ⟨⟨j, sent⟩, found, rfl⟩ := Option.map_eq_some_iff.mp handed
  obtain ⟨n, rfl, there⟩ := Option.bind_eq_some_iff.mp found
  have logged := traced.logged n j sent there
  have built := logged.built
  rw [← traced.key i] at built
  obtain ⟨same, foreign⟩ := MkaSession.receivedPdu_sent received logged.narrow built
  refine ⟨n, j, sent, rfl, there, same, ?_⟩
  rintro rfl
  rw [logged.src, traced.mac] at foreign
  exact foreign rfl

section

variable (traced : group.Traced mis macs ick) (distinct : Function.Injective mis)

include traced distinct

theorem Traced.sender (found : group.log[n]? = some (j, sent)) (mi : sent.pdu.basic.mi = mis i) : j = i :=
  distinct ((traced.logged n j sent found).mi.symm.trans mi)

/-- The MN with which a participant is known before a place is one that it has sent there. -/
theorem Traced.counted {id : PeerId} (mentioned : Mentioned (group.log.take n) id) (mi : id.mi = mis i) :
    1 ≤ id.mn.toNat ∧ id.mn.toNat ≤ sends i (group.log.take n) := by
  obtain ⟨⟨j, sent⟩, mem, named, numbered⟩ := mentioned
  obtain ⟨m, inside⟩ := List.mem_iff_getElem?.mp mem
  rw [List.getElem?_take] at inside
  split at inside
  · rename_i before
    have same := traced.sender distinct inside (named.trans mi)
    subst same
    have mn := (traced.logged m j sent inside).mn
    have next := sends_take_succ inside
    have later : sends j (group.log.take (m + 1)) ≤ sends j (group.log.take n) := sends_take_mono before
    rw [numbered] at mn
    omega
  · cases inside

theorem Traced.credible (found : group.log[n]? = some (j, sent)) (other : j ≠ i) :
    Plausible group.log (group.session i) sent.pdu := by
  have logged := traced.logged n j sent found
  have earlier {id : PeerId} (mentioned : Mentioned (group.log.take n) id) : Mentioned group.log id := by
    rw [← List.take_append_drop n group.log]
    exact mentioned.append _
  refine ⟨?_, ?_, ?_, ?_, logged.narrow⟩
  · rw [logged.mi, traced.mi]
    exact fun same => other (distinct same)
  · intro collides
    obtain ⟨id, inside, found⟩ := List.any_eq_true.mp collides
    rw [Bool.and_eq_true, beq_iff_eq, decide_eq_true_eq, traced.mi] at found
    have known := traced.counted distinct (logged.listed id inside) found.1
    have all : sends i (group.log.take n) ≤ sends i group.log := sends_take_le n
    have mn := traced.mn i
    have le := UInt32.le_iff_toNat_le.mp found.2
    omega
  · exact ⟨(j, sent), List.mem_of_getElem? found, rfl, rfl⟩
  · exact fun id inside => earlier (logged.listed id (List.mem_append_left _ inside))

/-- An MKPDU that lists one of the last two messages of `i` was sent after `i` had sent all but one of
its messages. -/
theorem Traced.recent (found : group.log[n]? = some (j, sent)) (knows : (group.session i).knowsUs sent.pdu) :
    0 < sends i (group.log.take n) ∧ sends i group.log ≤ sends i (group.log.take n) + 1 := by
  obtain ⟨id, inside, listed⟩ := List.any_eq_true.mp knows
  rw [Bool.and_eq_true, beq_iff_eq, traced.mi] at listed
  have known := traced.counted distinct ((traced.logged n j sent found).listed id inside) listed.1
  have all : sends i (group.log.take n) ≤ sends i group.log := sends_take_le n
  have mn := traced.mn i
  have last : id.mn.toNat + 1 = (group.session i).mn.toNat ∨ id.mn.toNat + 2 = (group.session i).mn.toNat := by
    have recent := listed.2
    rw [mnIsRecent, Bool.or_eq_true, beq_iff_eq, beq_iff_eq] at recent
    have bound := (group.session i).mn.toNat_lt
    rcases recent with same | same
    · left
      have value := congrArg UInt32.toNat same
      change id.mn.toNat = (2 ^ 32 - 1 + (group.session i).mn.toNat) % 2 ^ 32 at value
      omega
    · right
      have value := congrArg UInt32.toNat same
      change id.mn.toNat = (2 ^ 32 - 2 + (group.session i).mn.toNat) % 2 ^ 32 at value
      omega
  omega

end

/-- No participant has sent its last message number. -/
def Unwrapped (group : MkaGroup ι) : Prop := ∀ sent ∈ group.log, sent.2.pdu.basic.mn ≠ 0xffffffff

instance : Decidable group.Unwrapped := inferInstanceAs (Decidable (∀ _ ∈ _, _))

/-- The participants are new ones of one CA with MIs of their own. -/
structure Enrolled (cak ckn : Octets) (group : MkaGroup ι) : Prop where
  fresh : ∀ i, ∃ ifaceName config socket randomMi, config.cak = cak ∧ config.ckn = ckn ∧
    MkaSession.new ifaceName config socket randomMi group.now = .ok (group.session i)
  idle : ∀ i, group.waiting i = false
  silent : group.log = []
  distinct : Function.Injective fun i => (group.session i).mi

omit [DecidableEq ι] in
/-- A new participant has sent and heard nothing. -/
theorem Enrolled.made {cak ckn : Octets} (enrolled : group.Enrolled cak ckn) (i : ι) :
    deriveIck cak ckn = .ok (group.session i).ick ∧ (group.session i).mn = 1 ∧
      (group.session i).peers = [] ∧ (group.session i).face.Narrow := by
  obtain ⟨ifaceName, config, socket, randomMi, rfl, rfl, created⟩ := enrolled.fresh i
  obtain ⟨mac, kek, ick, mi, valid, -, checking, same⟩ := MkaSession.new_eq_ok created
  have short : config.ckn.length ≤ 32 := by
    rw [MacsecConfig.validate] at valid
    split at valid
    · cases valid
    · split at valid
      · cases valid
      · rename_i bounds
        omega
  have none (s : MkaSession) (start : s.distSak = none) : s.electKeyServer.distSak = none := by
    rcases s.electKeyServer_distSak with gone | kept
    · exact gone
    · exact kept.trans start
  have zero : (0 : UInt8).toNat < 4 := by decide
  rw [same]
  refine ⟨checking, rfl, rfl, short, zero, zero, fun dist present => ?_⟩
  have absent := Option.mem_def.mp present
  rw [MkaSession.face, none _ rfl] at absent
  cases absent

theorem Enrolled.traced {cak ckn : Octets} (enrolled : group.Enrolled cak ckn) :
    group.Traced (fun i => (group.session i).mi) (fun i => (group.session i).mac)
      ((deriveIck cak ckn).toOption.getD []) where
  mi _ := rfl
  mac _ := rfl
  key i := by rw [(enrolled.made i).1]; rfl
  mn i := by
    rw [(enrolled.made i).2.1, enrolled.silent]
    rfl
  narrow i := (enrolled.made i).2.2.2
  acquainted i peer mem := by
    rw [MkaSession.standings, (enrolled.made i).2.2.1] at mem
    cases mem
  logged n j sent found := by
    rw [enrolled.silent] at found
    cases found

section Halves

variable {α : Type} {operation : Session α} {waits : Except Core.WifiError α → Bool} {env : MkaEnv}
  {place : Option Nat}

/-- What a half makes of a participant and of the log: it leaves `s` by its acts, and may send one
MKPDU from there. -/
inductive HalfLog (env : MkaEnv) (group : MkaGroup ι) (i : ι) (place : Option Nat) (s t : MkaSession)
    (log : List (ι × Transmission)) : Prop
  | silent (same : t = s) (log : log = group.log)
  | sent {payload : Octets} (built : s.mkpdu.buildEapol paeGroupAddr s.mac s.ick = .ok payload)
      (noted : t = s.noteSent group.now payload)
      (log : log = group.log ++ [(i, ⟨s.mkpdu, ⟨s.mac, paeGroupAddr, payload⟩⟩)])

omit [DecidableEq ι] in
theorem HalfLog.grown {s t : MkaSession} {log : List (ι × Transmission)}
    (ended : HalfLog env group i place s t log) : ∃ later, log = group.log ++ later := by
  rcases ended with ⟨-, log⟩ | ⟨-, -, log⟩
  · exact ⟨[], log.trans (List.append_nil _).symm⟩
  · exact ⟨_, log⟩

variable (waits) in
theorem Traced.halfLog (traced : group.Traced mis macs ick) (distinct : Function.Injective mis)
    (half : Half env group.now (group.session i) (group.frameAt place) (after operation (group.session i))) :
    ∃ s, Reaches env group.now (group.session i) (group.frameAt place) s ∧
      Unmoved group.log (group.session i).face s.face ∧
      HalfLog env group i place s ((group.act i operation waits).session i)
        (group.act i operation waits).log := by
  obtain ⟨s, reached, sends⟩ := half
  have credible (f : EapolFrame) (pdu : MkaPdu) (handed : group.frameAt place = some f)
      (received : (group.session i).receivedPdu f = some pdu) :
      Plausible group.log (group.session i) pdu := by
    obtain ⟨n, j, sent, -, found, rfl, other⟩ := traced.heard handed received
    exact traced.credible distinct found other
  have unmoved : Unmoved group.log (group.session i).face s.face := by
    apply reached.invariant (I := fun s => Unmoved group.log (group.session i).face s.face)
    · exact fun s t act unmoved => act.unmoved credible unmoved
    · exact opening_unmoved credible
        ⟨rfl, rfl, rfl, rfl, rfl, traced.narrow i, traced.acquainted i⟩
  have log : (group.act i operation waits).log = group.log ++
      ((after operation (group.session i)).outbox.drop (group.session i).outbox.length).map
        fun sent => (i, sent) := rfl
  have outbox : s.outbox = (group.session i).outbox := unmoved.outbox
  refine ⟨s, reached, unmoved, ?_⟩
  rw [act_session_self, log]
  rcases sends with same | ⟨payload, built, -, noted⟩
  · rw [same, outbox, List.drop_length]
    exact .silent rfl (List.append_nil _)
  · rw [noted]
    refine .sent built rfl ?_
    rw [MkaSession.noteSent, outbox, List.drop_left]
    rfl

/-- A half keeps the group traced, as long as it does not send the last message number. -/
theorem Traced.act (traced : group.Traced mis macs ick) (distinct : Function.Injective mis)
    (half : Half env group.now (group.session i) (group.frameAt place) (after operation (group.session i)))
    (unwrapped : (group.act i operation waits).Unwrapped) :
    (group.act i operation waits).Traced mis macs ick := by
  obtain ⟨s, -, unmoved, ended⟩ := traced.halfLog waits distinct half
  have others (j : ι) (other : j ≠ i) : (group.act i operation waits).session j = group.session j :=
    act_session_other other
  generalize group.act i operation waits = next at ended others unwrapped
  have mn : s.mn.toNat = sends i group.log + 1 := by
    rw [← traced.mn i]
    exact congrArg UInt32.toNat unmoved.mn
  have mac : s.mac = macs i := unmoved.mac.trans (traced.mac i)
  have mi : s.mi = mis i := unmoved.mi.trans (traced.mi i)
  have key : s.ick = ick := unmoved.ick.trans (traced.key i)
  have kept : (next.session i).mi = s.mi ∧ (next.session i).mac = s.mac ∧ (next.session i).ick = s.ick ∧
      (next.session i).face.Narrow ∧ (next.session i).standings = s.standings := by
    rcases ended with ⟨same, -⟩ | ⟨-, noted, -⟩
    · rw [same]
      exact ⟨rfl, rfl, rfl, unmoved.narrow, rfl⟩
    · rw [noted]
      have narrow := unmoved.narrow
      exact ⟨rfl, rfl, rfl, ⟨narrow.ckn, narrow.lan, narrow.oan, narrow.distSak⟩, rfl⟩
  obtain ⟨later, grown⟩ := ended.grown
  constructor
  · intro j
    by_cases own : j = i
    · rw [own, kept.1, mi]
    · rw [others j own, traced.mi]
  · intro j
    by_cases own : j = i
    · rw [own, kept.2.1, mac]
    · rw [others j own, traced.mac]
  · intro j
    by_cases own : j = i
    · rw [own, kept.2.2.1, key]
    · rw [others j own, traced.key]
  · intro j
    by_cases own : j = i
    · subst own
      rcases ended with ⟨same, log⟩ | ⟨-, noted, log⟩
      · rw [same, log, mn]
      · have below : s.mn ≠ 0xffffffff := by
          rw [Unwrapped, log, List.forall_mem_append] at unwrapped
          exact unwrapped.2 _ List.mem_cons_self
        rw [noted, log, sends_append, sends_own, ← mn]
        exact nextCounter_toNat below
    · rw [others j own, traced.mn]
      rcases ended with ⟨-, log⟩ | ⟨-, -, log⟩
      · rw [log]
      · rw [log, sends_append, sends_other (Ne.symm own)]
  · intro j
    by_cases own : j = i
    · rw [own]
      exact kept.2.2.2.1
    · rw [others j own]
      exact traced.narrow j
  · intro j peer mem
    rw [grown]
    by_cases own : j = i
    · rw [own, kept.2.2.2.2] at mem
      exact (unmoved.acquainted peer mem).append later
    · rw [others j own] at mem
      exact (traced.acquainted j peer mem).append later
  · intro n j sent found
    rcases ended with ⟨-, log⟩ | ⟨built, -, log⟩
    · rw [log] at found ⊢
      exact traced.logged n j sent found
    · rw [log] at found ⊢
      rcases getElem?_append_one found with ⟨old, there⟩ | ⟨rfl, new⟩
      · rw [List.take_append_of_le_length (Nat.le_of_lt old)]
        exact traced.logged n j sent there
      · cases new
        rw [List.take_left]
        refine ⟨mi, mn, mac, unmoved.narrow.mkpdu, by rw [← key]; exact built, fun id mem => ?_⟩
        obtain ⟨peer, inside, rfl⟩ : ∃ peer ∈ s.peers, id = ⟨peer.mi, peer.mn⟩ := by
          rcases List.mem_append.mp mem with live | potential
          · exact mem_orderedLivePeers live
          · exact mem_orderedPotentialPeers potential
        exact unmoved.mentioned inside

theorem Traced.step {input : GroupInput ι} (traced : group.Traced mis macs ick)
    (distinct : Function.Injective mis) (unwrapped : (group.step input).Unwrapped) :
    (group.step input).Traced mis macs ick := by
  cases input with
  | advance elapsed => exact ⟨traced.mi, traced.mac, traced.key, traced.mn, traced.narrow,
      traced.acquainted, traced.logged⟩
  | begin i env =>
    have half : Half env group.now (group.session i) (group.frameAt none) _ := beginRun_half
    exact traced.act distinct half unwrapped
  | finish i env place =>
    rw [MkaGroup.step] at unwrapped ⊢
    split at unwrapped
    · rename_i waits
      rw [if_pos waits]
      exact traced.act distinct finishRun_half unwrapped
    · rename_i idle
      rw [if_neg idle]
      exact traced

end Halves

end MkaGroup

end Shuli.Wired
