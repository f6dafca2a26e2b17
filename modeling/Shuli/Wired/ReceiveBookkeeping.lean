import Shuli.Wired.MacsecChannels
import Shuli.Wired.MkaLiveness
import Shuli.Wired.MkaReadiness

/-!
The receive side of a participant: the peer list with its marks of installed receive SAs, the current SAK
and the channels of the device belong together. They do as long as no live peer changes its SCI or shares
it, no distributed SAK is refused, no live peer expires after a frame, and the participant resets its MI
only while it has no SAK.
-/

namespace Shuli.Wired

open Fallible MkaSession

namespace MkaSession

def rxSc (self : MkaSession) : List RxScConfig := (self.macsec.map (·.rxSc)).getD []

def txSa (self : MkaSession) : List SaConfig := (self.macsec.map (·.txSa)).getD []

end MkaSession

/-- No two peers share an MI or an SCI. -/
structure Roster (peers : List Peer) : Prop where
  unique : (peers.map (·.mi)).Nodup
  apart : ∀ p ∈ peers, ∀ q ∈ peers, p.sci = q.sci → p.sci ≠ zeros 8 → p.mi = q.mi

/-- What the peer list, the current SAK and the device have to do with each other, at any time. -/
structure Booked (s : MkaSession) : Prop where
  roster : Roster s.peers
  held : s.lki.isSome → s.sak.isSome
  bare : s.lki = none → s.txSa = [] ∧ s.rxSc = []
  marked : ∀ p ∈ s.peers, p.rxInstalled → p.live ∧ p.sci ≠ zeros 8 ∧
    ∃ ki, s.lki = some ki ∧ HasRxSa (sciBe p.sci) s.lan ki s.rxSc
  channels : ∀ sc ∈ s.rxSc, ∃ p ∈ s.peers, p.live ∧ p.sci ≠ zeros 8 ∧ sc.sci = sciBe p.sci

/-- Every live peer with an SCI is marked. -/
def Complete (s : MkaSession) : Prop :=
  ∀ p ∈ s.peers, p.live → p.sci ≠ zeros 8 → s.lki.isSome → p.rxInstalled

def Peer.unready (peer : Peer) : Peer := { peer with rxReady := false }

/-- The other participant differs in nothing that counts here: the entries without their reports, the SAK
and the channels. -/
structure Alike (s t : MkaSession) : Prop where
  peers : t.peers.map Peer.unready = s.peers.map Peer.unready
  lki : t.lki = s.lki
  lan : t.lan = s.lan
  sak : t.sak = s.sak
  rxSc : t.rxSc = s.rxSc
  txSa : s.lki = none → t.txSa = s.txSa

section Roster

variable {peers : List Peer} {p q : Peer}

theorem Roster.eq_of_sci (roster : Roster peers) (first : p ∈ peers) (second : q ∈ peers)
    (same : p.sci = q.sci) (revealed : p.sci ≠ zeros 8) : p = q := by
  have found : ∀ r ∈ peers, r.mi = q.mi → peers.find? (·.mi == q.mi) = some r := fun r mem named =>
    (find?_eq_some_iff_of_nodup roster.unique).mpr ⟨mem, named⟩
  have named := roster.apart p first q second same revealed
  exact Option.some.inj ((found p first named).symm.trans (found q second rfl))

/-- A change of other fields makes no difference. -/
theorem Roster.map_iff (f : Peer → Peer) (mi : ∀ p, (f p).mi = p.mi) (sci : ∀ p, (f p).sci = p.sci) :
    Roster (peers.map f) ↔ Roster peers := by
  have names : (peers.map f).map (·.mi) = peers.map (·.mi) := by
    rw [List.map_map]
    exact List.map_congr_left fun p _ => mi p
  refine ⟨fun roster => ⟨names ▸ roster.unique, ?_⟩, fun roster => ⟨names ▸ roster.unique, ?_⟩⟩
  · intro p first q second same revealed
    have apart := roster.apart _ (List.mem_map_of_mem first) _ (List.mem_map_of_mem second)
    rw [sci, sci, mi, mi] at apart
    exact apart same revealed
  · rintro p first q second
    obtain ⟨p', first', rfl⟩ := List.mem_map.mp first
    obtain ⟨q', second', rfl⟩ := List.mem_map.mp second
    rw [sci, sci, mi, mi]
    exact roster.apart p' first' q' second'

end Roster

section Books

variable {s t : MkaSession} {p q : Peer} {ki : KeyId} {now : Instant}

theorem Alike.mem (alike : Alike s t) (mem : p ∈ t.peers) : ∃ q ∈ s.peers, q.unready = p.unready :=
  List.mem_map.mp (alike.peers ▸ List.mem_map_of_mem mem)

theorem Alike.symm_mem (alike : Alike s t) (mem : p ∈ s.peers) : ∃ q ∈ t.peers, q.unready = p.unready :=
  List.mem_map.mp (alike.peers ▸ List.mem_map_of_mem mem)

theorem unready_eq (same : q.unready = p.unready) :
    q.mi = p.mi ∧ q.sci = p.sci ∧ q.live = p.live ∧ q.rxInstalled = p.rxInstalled ∧
      q.lastSeen = p.lastSeen := by
  simp only [Peer.unready, Peer.mk.injEq] at same
  obtain ⟨mi, -, sci, -, -, -, -, live, seen, -, mark⟩ := same
  exact ⟨mi, sci, live, mark, seen⟩

theorem Booked.alike (booked : Booked s) (alike : Alike s t) : Booked t where
  roster := by
    have roster := (Roster.map_iff Peer.unready (fun _ => rfl) fun _ => rfl).mpr booked.roster
    rw [← alike.peers] at roster
    exact (Roster.map_iff Peer.unready (fun _ => rfl) fun _ => rfl).mp roster
  held := by
    rw [alike.lki, alike.sak]
    exact booked.held
  bare none := by
    rw [alike.lki] at none
    rw [alike.rxSc, alike.txSa none]
    exact booked.bare none
  marked p mem installed := by
    obtain ⟨p', mem', equal⟩ := alike.mem mem
    obtain ⟨-, sci, live, mark, -⟩ := unready_eq equal
    rw [alike.lki, alike.lan, alike.rxSc, ← sci, ← live]
    exact booked.marked p' mem' (mark ▸ installed)
  channels sc mem := by
    rw [alike.rxSc] at mem
    obtain ⟨p, known, live, revealed, own⟩ := booked.channels sc mem
    obtain ⟨p', mem', equal⟩ := alike.symm_mem known
    obtain ⟨-, sci, live', -⟩ := unready_eq equal
    exact ⟨p', mem', live' ▸ live, sci ▸ revealed, sci ▸ own⟩

theorem Complete.alike (complete : Complete s) (alike : Alike s t) : Complete t := by
  intro p mem live revealed current
  obtain ⟨p', mem', equal⟩ := alike.mem mem
  obtain ⟨-, sci, live', mark, -⟩ := unready_eq equal
  rw [alike.lki] at current
  exact mark ▸ complete p' mem' (live' ▸ live) (sci ▸ revealed) current

/-- The marks are put on exactly the live peers that have revealed their SCI. -/
theorem remarked_booked (roster : Roster s.peers) (current : s.lki = some ki) (held : s.sak.isSome)
    {f : Peer → Bool} (chosen : ∀ p ∈ s.peers, f p = true ↔ p.live ∧ p.sci ≠ zeros 8)
    (receives : ∀ p ∈ s.peers, p.live → p.sci ≠ zeros 8 → HasRxSa (sciBe p.sci) s.lan ki s.rxSc)
    (channels : ∀ sc ∈ s.rxSc, ∃ p ∈ s.peers, p.live ∧ p.sci ≠ zeros 8 ∧ sc.sci = sciBe p.sci) :
    Booked (s.remarked f) ∧ Complete (s.remarked f) := by
  have entry {p : Peer} (mem : p ∈ (s.remarked f).peers) : ∃ q ∈ s.peers, { q with rxInstalled := f q } = p :=
    List.mem_map.mp mem
  refine ⟨⟨?_, fun _ => held, fun none => ?_, ?_, ?_⟩, ?_⟩
  · exact (Roster.map_iff (fun p => { p with rxInstalled := f p }) (fun _ => rfl) fun _ => rfl).mpr roster
  · rw [show (s.remarked f).lki = some ki from current] at none
    cases none
  · rintro p mem marked
    obtain ⟨p', mem', rfl⟩ := entry mem
    obtain ⟨live, revealed⟩ := (chosen p' mem').mp marked
    exact ⟨live, revealed, ki, current, receives p' mem' live revealed⟩
  · intro sc mem
    obtain ⟨p, known, rest⟩ := channels sc mem
    exact ⟨_, List.mem_map_of_mem known, rest⟩
  · rintro p mem live revealed -
    obtain ⟨p', mem', rfl⟩ := entry mem
    exact (chosen p' mem').mpr ⟨live, revealed⟩

/-- Peers expire. Their channels go, and those of the others stay. -/
theorem Booked.expire (booked : Booked s) (peers : t.peers = s.peers.filter (isFresh now))
    (lki : t.lki = s.lki) (lan : t.lan = s.lan) (sak : t.sak = s.sak) (txSa : t.txSa = s.txSa)
    (stay : ∀ sc ∈ s.rxSc, ∀ p ∈ t.peers, p.sci ≠ zeros 8 → sc.sci = sciBe p.sci → sc ∈ t.rxSc)
    (gone : ∀ sc ∈ t.rxSc, sc ∈ s.rxSc ∧
      ∀ p ∈ s.peers, p.live → p.sci ≠ zeros 8 → sc.sci = sciBe p.sci → isFresh now p) : Booked t := by
  have known {p : Peer} (mem : p ∈ t.peers) : p ∈ s.peers := by
    rw [peers] at mem
    exact List.mem_of_mem_filter mem
  refine ⟨⟨?_, ?_⟩, ?_, fun none => ?_, ?_, ?_⟩
  · rw [peers]
    exact booked.roster.unique.sublist (List.filter_sublist.map _)
  · exact fun p first q second => booked.roster.apart p (known first) q (known second)
  · rw [lki, sak]
    exact booked.held
  · rw [lki] at none
    obtain ⟨noTx, noRx⟩ := booked.bare none
    refine ⟨txSa.trans noTx, List.eq_nil_iff_forall_not_mem.mpr fun sc mem => ?_⟩
    have old := (gone sc mem).1
    rw [noRx] at old
    cases old
  · intro p mem installed
    obtain ⟨live, revealed, ki, current, sc, listed, own, keyed⟩ := booked.marked p (known mem) installed
    exact ⟨live, revealed, ki, lki.trans current, sc, stay sc listed p mem revealed own, own, lan ▸ keyed⟩
  · intro sc mem
    obtain ⟨old, fresh⟩ := gone sc mem
    obtain ⟨p, listed, live, revealed, own⟩ := booked.channels sc old
    refine ⟨p, ?_, live, revealed, own⟩
    rw [peers]
    exact List.mem_filter.mpr ⟨listed, fresh p listed live revealed own⟩

theorem Complete.expire (complete : Complete s) (peers : t.peers = s.peers.filter (isFresh now))
    (lki : t.lki = s.lki) : Complete t := by
  intro p mem live revealed current
  rw [peers] at mem
  exact complete p (List.mem_of_mem_filter mem) live revealed (lki ▸ current)

end Books

/-! What a message changes in the books. -/

section Message

variable {s : MkaSession} {pdu : MkaPdu} {now : Instant} {p : Peer}

/-- The sender keeps the SCI that it has revealed, and it is of no other peer. -/
structure MkaSession.Steady (s : MkaSession) (pdu : MkaPdu) : Prop where
  own : ∀ p ∈ s.peers, p.mi = pdu.basic.mi → p.live → p.sci ≠ zeros 8 → pdu.basic.sci = p.sci
  foreign : ∀ p ∈ s.peers, p.mi ≠ pdu.basic.mi → pdu.basic.sci ≠ zeros 8 → pdu.basic.sci ≠ p.sci

instance : Decidable (s.Steady pdu) :=
  decidable_of_iff (_ ∧ _) ⟨fun steady => ⟨steady.1, steady.2⟩, fun steady => ⟨steady.own, steady.foreign⟩⟩

theorem meetPeer_entry_cases (unique : s.Unique) (mem : p ∈ (s.meetPeer now pdu).peers) :
    p = s.senderEntry now pdu ∨ p.mi ≠ pdu.basic.mi ∧ (p ∈ s.peers ∨ ∃ id, p = listedPeer now id) := by
  by_cases own : p.mi = pdu.basic.mi
  · have found := (meetPeer_unique unique).findPeer_iff.mpr ⟨mem, own⟩
    exact .inl (Option.some.inj (found.symm.trans meetPeer_findPeer))
  · refine .inr ⟨own, ?_⟩
    rcases mem_meetPeer mem with old | rfl | rfl | ⟨id, -, rfl⟩
    · exact .inl old
    · exact absurd notedEntry_mi own
    · exact absurd senderEntry_mi own
    · exact .inr ⟨id, rfl⟩

theorem senderEntry_mem : s.senderEntry now pdu ∈ (s.meetPeer now pdu).peers :=
  findPeer_mem meetPeer_findPeer

theorem senderEntry_marked (marked : (s.senderEntry now pdu).rxInstalled) :
    ∃ known, s.findPeer pdu.basic.mi = some known ∧ known.rxInstalled := by
  unfold senderEntry notedEntry at marked
  rcases found : s.findPeer pdu.basic.mi with _ | known
  · rw [found] at marked
    cases marked
  · rw [found] at marked
    exact ⟨known, rfl, marked⟩

theorem senderEntry_live_of {known : Peer} (found : s.findPeer pdu.basic.mi = some known)
    (live : known.live) : (s.senderEntry now pdu).live := by
  simp [senderEntry, isLive, found, live]

theorem meetPeer_booked (booked : Booked s) (steady : s.Steady pdu) : Booked (s.meetPeer now pdu) := by
  have rx : (s.meetPeer now pdu).rxSc = s.rxSc := by rw [rxSc, rxSc, meetPeer_macsec]
  have tx : (s.meetPeer now pdu).txSa = s.txSa := by rw [txSa, txSa, meetPeer_macsec]
  have unique : s.Unique := booked.roster.unique
  refine ⟨⟨meetPeer_unique unique, ?_⟩, ?_, ?_, ?_, ?_⟩
  · intro p first q second same revealed
    rcases meetPeer_entry_cases unique first with rfl | ⟨other, old | ⟨id, rfl⟩⟩
    · rcases meetPeer_entry_cases unique second with rfl | ⟨other, old | ⟨id, rfl⟩⟩
      · rfl
      · rw [senderEntry_sci] at same revealed
        exact absurd same (steady.foreign q old other revealed)
      · exact absurd same revealed
    · rcases meetPeer_entry_cases unique second with rfl | ⟨-, old' | ⟨id, rfl⟩⟩
      · rw [senderEntry_sci] at same
        exact absurd same.symm (steady.foreign p old other (same ▸ revealed))
      · exact booked.roster.apart p old q old' same revealed
      · exact absurd same revealed
    · exact absurd rfl revealed
  · rw [meetPeer_lki]
    exact booked.held
  · rw [meetPeer_lki, rx, tx]
    exact booked.bare
  · intro p mem marked
    rw [meetPeer_lki, rx]
    rcases meetPeer_entry_cases unique mem with rfl | ⟨-, old | ⟨id, rfl⟩⟩
    · obtain ⟨known, found, installed⟩ := senderEntry_marked marked
      obtain ⟨live, revealed, received⟩ := booked.marked known (findPeer_mem found) installed
      rw [senderEntry_sci, steady.own known (findPeer_mem found) (findPeer_mi found) live revealed]
      exact ⟨senderEntry_live_of found live, revealed, received⟩
    · exact booked.marked p old marked
    · cases marked
  · intro sc mem
    obtain ⟨p, old, live, revealed, own⟩ := booked.channels sc mem
    rcases meetPeer_mem now pdu old live with kept | found
    · exact ⟨p, kept, live, revealed, own⟩
    · refine ⟨_, senderEntry_mem, senderEntry_live_of found live, ?_⟩
      rw [senderEntry_sci, steady.own p old (findPeer_mi found) live revealed]
      exact ⟨revealed, own⟩

end Message

/-! The halves. -/

/-- A state within a half that started in `origin`: the device is there, the configuration is that of the
start, and no live peer is about to expire. -/
structure Within (now : Instant) (origin t : MkaSession) : Prop where
  present : t.macsec.isSome
  kek : t.kek = origin.kek
  encrypt : t.encrypt = origin.encrypt
  fresh : ∀ p ∈ t.peers, p.live → isFresh now p

/-- The books are in order and complete within a half. -/
structure Settled (now : Instant) (origin t : MkaSession) : Prop extends Within now origin t where
  booked : Booked t
  complete : Complete t

section Half

variable {env : MkaEnv} {now : Instant} {origin s t : MkaSession} {device : MacsecDevice}

theorem Within.alike (within : Within now origin s) (alike : Alike s t) (present : t.macsec.isSome)
    (kek : t.kek = s.kek) (encrypt : t.encrypt = s.encrypt) : Within now origin t where
  present := present
  kek := kek.trans within.kek
  encrypt := encrypt.trans within.encrypt
  fresh p mem live := by
    obtain ⟨q, old, same⟩ := alike.mem mem
    obtain ⟨-, -, live', -, seen⟩ := unready_eq same
    have fresh := within.fresh q old (live' ▸ live)
    rwa [isFresh, seen] at fresh

theorem rxSc_of (present : s.macsec = some device) : s.rxSc = device.rxSc := by rw [rxSc, present]; rfl

variable {operation : Device Unit}

theorem withMacsec_ok {R : MacsecDevice → Prop} (present : s.macsec = some device)
    (ends : Ends operation device fun result next => result = .ok () ∧ R next) :
    ∃ next, R next ∧ exec (withMacsec operation) s = (.ok (), { s with macsec := some next }) := by
  refine ⟨after operation device, ends.2, ?_⟩
  rw [withMacsec, exec_get_bind, present, exec_modify_bind, ends.1]
  rfl

theorem withMacsec_ok_bind {R : MacsecDevice → Prop} {β : Type} {f : Unit → Session β}
    {Q : Except Core.WifiError β → MkaSession → Prop} (present : s.macsec = some device)
    (ends : Ends operation device fun result next => result = .ok () ∧ R next)
    (rest : ∀ next, R next → Ends (f ()) { s with macsec := some next } Q) :
    Ends (withMacsec operation >>= f) s Q := by
  obtain ⟨next, holds, done⟩ := withMacsec_ok present ends
  exact Ends.bind_ok done (rest next holds)

variable {next : MacsecDevice}

theorem forgetSak_booked (booked : Booked s) (alone : s.hasLivePeer = false)
    (noTx : next.txSa = []) (noRx : next.rxSc = []) : Booked { s with macsec := some next }.forgetSak where
  roster := (Roster.map_iff Peer.unready (fun _ => rfl) fun _ => rfl).mpr booked.roster
  held := nofun
  bare _ := ⟨noTx, noRx⟩
  marked p mem marked := by
    obtain ⟨q, old, rfl⟩ := List.mem_map.mp mem
    have live := (booked.marked q old marked).1
    exact absurd live (List.any_eq_false.mp alone q old)
  channels sc mem := by
    have inside : sc ∈ next.rxSc := mem
    rw [noRx] at inside
    cases inside

theorem dropUnsecureSak_settled (obliging : env.kernel.Obliging) (settled : Settled now origin s) :
    Ends (dropUnsecureSak env) s fun result t => result = .ok () ∧ Settled now origin t := by
  apply Ends.get_bind
  refine Ends.ite (fun _ => ⟨rfl, settled⟩) fun dropping => ?_
  have alone : s.hasLivePeer = false := Bool.eq_false_iff.mpr (not_or.mp dropping).2
  obtain ⟨device, found⟩ := Option.isSome_iff_exists.mp settled.present
  apply withMacsec_ok_bind (R := fun next => next.txSa = [] ∧ next.rxSc = []) found
  · exact MacsecDevice.clearSas_exec obliging
  · rintro next ⟨noTx, noRx⟩
    refine ⟨rfl, ⟨rfl, settled.kek, settled.encrypt, ?_⟩, forgetSak_booked settled.booked alone noTx noRx, ?_⟩
    · intro p mem
      obtain ⟨q, old, rfl⟩ := List.mem_map.mp mem
      exact settled.fresh q old
    · exact fun _ _ _ _ none => nomatch none

/-- A SAK has been installed for the live peers, and they are marked. -/
theorem markInstalled_booked {u : MkaSession} {ki : KeyId} {old : List RxScConfig} (roster : Roster u.peers)
    (current : u.lki = some ki) (held : u.sak.isSome)
    (marks : ∀ p ∈ u.peers, p.rxInstalled → p.live ∧ p.sci ≠ zeros 8)
    (channels : ∀ sc ∈ old, ∃ p ∈ u.peers, p.live ∧ p.sci ≠ zeros 8 ∧ sc.sci = sciBe p.sci)
    (installed : InstalledAll (livePeerScis u.peers) u.lan ki old u.rxSc) :
    Booked (u.markInstalled (livePeerScis u.peers)) ∧ Complete (u.markInstalled (livePeerScis u.peers)) := by
  have listed {sci : Sci} : sci ∈ livePeerScis u.peers ↔
      ∃ p ∈ u.peers, (p.live ∧ p.sci ≠ zeros 8) ∧ p.sci = sci := by
    simp [livePeerScis, and_assoc]
  rw [markInstalled_eq]
  apply remarked_booked roster current held
  · intro p mem
    rw [Bool.or_eq_true, Bool.and_eq_true, List.contains_iff_mem, listed]
    constructor
    · rintro (⟨live, q, -, ⟨-, revealed⟩, same⟩ | marked)
      · exact ⟨live, same ▸ revealed⟩
      · exact marks p mem marked
    · exact fun chosen => .inl ⟨chosen.1, p, mem, chosen, rfl⟩
  · exact fun p mem live revealed => installed.receives p.sci (listed.mpr ⟨p, mem, ⟨live, revealed⟩, rfl⟩)
  · intro sc mem
    rcases installed.channels sc mem with ⟨sci, inside, own⟩ | ⟨before, known, same⟩
    · obtain ⟨p, mem', ⟨live, revealed⟩, rfl⟩ := listed.mp inside
      exact ⟨p, mem', live, revealed, own⟩
    · rw [← same]
      exact channels before known

theorem Within.remarked (within : Within now origin t) (f : Peer → Bool) :
    Within now origin (t.remarked f) := by
  refine ⟨within.present, within.kek, within.encrypt, fun p mem live => ?_⟩
  obtain ⟨q, old, rfl⟩ := List.mem_map.mp mem
  exact within.fresh q old live

theorem Settled.ask (settled : Settled now origin t) : Settled now origin { t with needSend := true } :=
  have same : Alike t { t with needSend := true } := ⟨rfl, rfl, rfl, rfl, rfl, fun _ => rfl⟩
  ⟨settled.toWithin.alike same settled.present rfl rfl, settled.booked.alike same, settled.complete.alike same⟩

/-- What follows the adoption of a SAK: it is installed for the live peers, and they are marked. -/
theorem install_settled {u : MkaSession} {ki : KeyId} {scis : List Sci}
    (present : u.macsec = some device) (listed : scis = livePeerScis u.peers) (roster : Roster u.peers)
    (current : u.lki = some ki) (held : u.sak.isSome)
    (marks : ∀ p ∈ u.peers, p.rxInstalled → p.live ∧ p.sci ≠ zeros 8)
    (channels : ∀ sc ∈ u.rxSc, ∃ p ∈ u.peers, p.live ∧ p.sci ≠ zeros 8 ∧ sc.sci = sciBe p.sci)
    (within : Within now origin u)
    (installs : Ends operation device fun result next =>
      result = .ok () ∧ InstalledAll scis u.lan ki device.rxSc next.rxSc) :
    Ends (do
      withMacsec operation
      modify fun self => if self.macsec.isSome then self.markInstalled scis else self
      modify fun self => { self with needSend := true } : Session PUnit) u
      fun result t => result = .ok () ∧ Settled now origin t := by
  subst listed
  apply withMacsec_ok_bind present installs
  intro next installed
  refine ⟨rfl, Settled.ask ?_⟩
  rw [rxSc_of present] at channels
  obtain ⟨booked, complete⟩ :=
    markInstalled_booked (u := { u with macsec := some next }) roster current held marks channels installed
  have inside : Within now origin ({ u with macsec := some next }.markInstalled (livePeerScis u.peers)) := by
    rw [markInstalled_eq]
    exact Within.remarked (t := { u with macsec := some next })
      ⟨rfl, within.kek, within.encrypt, within.fresh⟩ _
  exact ⟨inside, booked, complete⟩

section Crypto

variable {pdu : MkaPdu}

theorem mem_pendingRxScis {sci : Sci} : sci ∈ pendingRxScis s.peers ↔
    ∃ p ∈ s.peers, (p.live ∧ p.sci ≠ zeros 8 ∧ p.rxInstalled = false) ∧ p.sci = sci := by
  simp [pendingRxScis, and_assoc]

/-- The peers that miss a receive SA of the current SAK get it, and are marked. -/
theorem markPending_booked {ki : KeyId} (booked : Booked s) (current : s.lki = some ki)
    (installed : InstalledAll (pendingRxScis s.peers) s.lan ki s.rxSc next.rxSc) :
    Booked ({ s with macsec := some next }.markPending (pendingRxScis s.peers)) ∧
      Complete ({ s with macsec := some next }.markPending (pendingRxScis s.peers)) := by
  rw [markPending_eq]
  refine remarked_booked (s := { s with macsec := some next }) booked.roster current
    (booked.held (current ▸ rfl)) ?_ ?_ ?_
  · intro p mem
    rw [Bool.or_eq_true, List.contains_iff_mem, mem_pendingRxScis]
    constructor
    · rintro (⟨q, mem', ⟨live, revealed, -⟩, same⟩ | marked)
      · have equal := booked.roster.eq_of_sci mem' mem same revealed
        exact equal ▸ ⟨live, revealed⟩
      · exact ⟨(booked.marked p mem marked).1, (booked.marked p mem marked).2.1⟩
    · rintro ⟨live, revealed⟩
      by_cases marked : p.rxInstalled
      · exact .inr marked
      · exact .inl ⟨p, mem, ⟨live, revealed, Bool.eq_false_iff.mpr marked⟩, rfl⟩
  · intro p mem live revealed
    by_cases marked : p.rxInstalled
    · obtain ⟨-, -, other, held, received⟩ := booked.marked p mem marked
      obtain rfl := Option.some.inj (held.symm.trans current)
      exact installed.keeps _ received
    · apply installed.receives
      exact mem_pendingRxScis.mpr ⟨p, mem, ⟨live, revealed, Bool.eq_false_iff.mpr marked⟩, rfl⟩
  · intro sc mem
    rcases installed.channels sc mem with ⟨sci, inside, own⟩ | ⟨before, known, same⟩
    · obtain ⟨p, mem', ⟨live, revealed, -⟩, rfl⟩ := mem_pendingRxScis.mp inside
      exact ⟨p, mem', live, revealed, own⟩
    · rw [← same]
      exact booked.channels before known

theorem installRxSasForLivePeers_settled (obliging : env.kernel.Obliging) (booked : Booked s)
    (within : Within now origin s) : Ends (installRxSasForLivePeers env) s fun result t =>
      result = .ok () ∧ Settled now origin t := by
  obtain ⟨device, found⟩ := Option.isSome_iff_exists.mp within.present
  apply Ends.get_bind
  split
  · rename_i ki sak current _
    refine Ends.ite (fun idle => ?_) fun _ => ?_
    · refine ⟨rfl, within, booked, fun p mem live revealed _ => ?_⟩
      have nothing : pendingRxScis s.peers = [] := idle.resolve_right (by simp [found])
      by_contra unmarked
      have pending : p.sci ∈ pendingRxScis s.peers :=
        mem_pendingRxScis.mpr ⟨p, mem, ⟨live, revealed, Bool.eq_false_iff.mpr unmarked⟩, rfl⟩
      rw [nothing] at pending
      cases pending
    · apply withMacsec_ok_bind (R := fun next =>
        InstalledAll (pendingRxScis s.peers) s.lan ki s.rxSc next.rxSc) found
      · rw [rxSc_of found]
        exact ⟨MacsecDevice.installRxSas_succeeds obliging device, MacsecDevice.installRxSas_installed obliging⟩
      · intro next installed
        obtain ⟨books, complete⟩ := markPending_booked booked current installed
        refine ⟨rfl, ?_, books, complete⟩
        rw [exec_modify, markPending_eq]
        exact Within.remarked (t := { s with macsec := some next })
          ⟨rfl, within.kek, within.encrypt, within.fresh⟩ _
  · rename_i unset
    refine ⟨rfl, within, booked, fun p mem live revealed current => ?_⟩
    obtain ⟨ki, lki⟩ := Option.isSome_iff_exists.mp current
    obtain ⟨sak, held⟩ := Option.isSome_iff_exists.mp (booked.held current)
    exact absurd held (unset ki sak lki)

theorem startTransmission_alike (obliging : env.kernel.Obliging) (current : s.lki.isSome)
    (within : Within now origin s) : Ends (startTransmission env) s fun result t =>
      result = .ok () ∧ Alike s t ∧ Within now origin t := by
  obtain ⟨device, found⟩ := Option.isSome_iff_exists.mp within.present
  obtain ⟨next, same, done⟩ := withMacsec_ok (s := { s with ltx := true }) (R := fun next => next.rxSc = device.rxSc)
    found ⟨setTxSaActive_exec obliging s.lan device, MacsecDevice.setTxSaActive_keeps_rxSc device rfl⟩
  apply Ends.modify_bind
  apply Ends.bind_ok (x := activateTxSa env) ((exec_get_bind _ _).trans done)
  refine ⟨rfl, ⟨rfl, rfl, rfl, rfl, same.trans (rxSc_of found).symm, fun none => ?_⟩, rfl, within.kek, within.encrypt,
    within.fresh⟩
  rw [none] at current
  cases current

theorem Alike.trans {u : MkaSession} (first : Alike s t) (second : Alike t u) : Alike s u where
  peers := second.peers.trans first.peers
  lki := second.lki.trans first.lki
  lan := second.lan.trans first.lan
  sak := second.sak.trans first.sak
  rxSc := second.rxSc.trans first.rxSc
  txSa none := (second.txSa (first.lki.trans none)).trans (first.txSa none)

/-- The SAK Use set touches neither the marks nor the channels. -/
theorem handleSakUse_alike {sender : Peer} (obliging : env.kernel.Obliging)
    (within : Within now origin s) : Ends (handleSakUse env pdu sender) s fun result t =>
      result = .ok () ∧ Alike s t ∧ Within now origin t := by
  have still : Alike s s := ⟨rfl, rfl, rfl, rfl, rfl, fun _ => rfl⟩
  apply Ends.get_bind
  split
  · exact ⟨rfl, still, within⟩
  · rename_i use _
    refine Ends.ite (fun _ => ⟨rfl, still, within⟩) fun matching => ?_
    have current : s.lki.isSome := by
      have held : s.lki = some use.latestKi := by simpa [sakUseMatches] using matching
      rw [held]
      rfl
    refine Ends.ite (fun _ => ?_) fun _ => ?_
    · apply Ends.modify_bind
      apply Ends.get_bind
      have noted : Alike s (s.noteReport use sender.mi) :=
        ⟨map_updateFirst fun _ => rfl, rfl, rfl, rfl, rfl, fun _ => rfl⟩
      have inside := within.alike noted within.present rfl rfl
      apply Ends.bind_passed (R := fun t => Alike s t ∧ Within now origin t)
      · refine Ends.ite (fun _ => ?_) fun _ => ⟨rfl, noted, inside⟩
        apply (startTransmission_alike (s := s.noteReport use sender.mi) obliging current inside).mono
        exact fun _ _ started => ⟨started.1, noted.trans started.2.1, started.2.2⟩
      · rintro t ⟨alike, kept⟩
        exact ⟨rfl, alike.trans ⟨rfl, rfl, rfl, rfl, rfl, fun _ => rfl⟩, kept.present, kept.kek, kept.encrypt,
          kept.fresh⟩
    · exact Ends.ite (fun _ => startTransmission_alike obliging current within) fun _ => ⟨rfl, still, within⟩

theorem isFresh_of_lastSeen {p : Peer} (seen : p.lastSeen = now) : isFresh now p := by
  rw [isFresh, seen, Nat.sub_self]
  decide

theorem meetPeer_within (within : Within now origin s) :
    Within now origin (s.meetPeer now pdu) := by
  refine ⟨(congrArg Option.isSome meetPeer_macsec).trans within.present, meetPeer_kek.trans within.kek,
    meetPeer_encrypt.trans within.encrypt, fun p mem live => ?_⟩
  rcases mem_meetPeer mem with old | rfl | rfl | ⟨id, -, rfl⟩
  · exact within.fresh p old live
  · exact isFresh_of_lastSeen notedEntry_lastSeen
  · have seen : (s.senderEntry now pdu).lastSeen = now := notedEntry_lastSeen
    exact isFresh_of_lastSeen seen
  · cases live

theorem ensureMacsec_booked (booked : Booked s) (complete : Complete s) :
    Ends (ensureMacsec env) s fun result t =>
      Booked t ∧ Complete t ∧ ∀ a, result = .ok a → t.macsec.isSome := by
  apply Ends.get_bind
  refine Ends.ite (fun present => ⟨booked, complete, fun _ _ => present⟩) fun missing => ?_
  have absent : s.macsec = none := by simpa using missing
  apply Ends.liftM_bind
  · exact fun _ _ => ⟨booked, complete, fun _ done => nomatch done⟩
  · intro device created
    obtain ⟨noTx, noRx⟩ := MacsecDevice.create_empty created
    have same : Alike s { s with macsec := some device } := by
      refine ⟨rfl, rfl, rfl, rfl, noRx.trans ?_, fun _ => noTx.trans ?_⟩
      · rw [rxSc, absent]
        rfl
      · rw [txSa, absent]
        rfl
    exact ⟨booked.alike same, complete.alike same, fun _ _ => rfl⟩

theorem expirePeers_keeps (now : Instant) (s : MkaSession) :
    (s.expirePeers now).macsec = s.macsec ∧ (s.expirePeers now).lki = s.lki ∧
    (s.expirePeers now).lan = s.lan ∧ (s.expirePeers now).sak = s.sak ∧ (s.expirePeers now).kek = s.kek ∧
    (s.expirePeers now).encrypt = s.encrypt := by
  unfold expirePeers
  dsimp only
  split
  · exact ⟨rfl, rfl, rfl, rfl, rfl, rfl⟩
  · exact ⟨rfl, rfl, rfl, rfl, rfl, rfl⟩

/-- The peers that expire before the wait take their channels with them. -/
theorem expirePeers_removed (booked : Booked s) (complete : Complete s)
    (found : s.macsec = some device) (tx : next.txSa = device.txSa)
    (rx : ∀ sc, sc ∈ next.rxSc ↔ sc ∈ device.rxSc ∧ ∀ sci ∈ s.expiredScis now, sc.sci ≠ sciBe sci) :
    Settled now s { s.expirePeers now with macsec := some next } := by
  obtain ⟨-, lki, lan, sak, kek, encrypt⟩ : _ ∧ _ := expirePeers_keeps now s
  have oldRx := rxSc_of found
  have oldTx : s.txSa = device.txSa := by rw [txSa, found]; rfl
  have expired {sci : Sci} : sci ∈ s.expiredScis now ↔
      ∃ p ∈ s.peers, (isFresh now p = false ∧ p.sci ≠ zeros 8) ∧ p.sci = sci := by
    simp [expiredScis, and_assoc]
  have left {p : Peer} (mem : p ∈ (s.expirePeers now).peers) : p ∈ s.peers ∧ isFresh now p := by
    rw [expirePeers_peers] at mem
    exact List.mem_filter.mp mem
  have books : Booked { s.expirePeers now with macsec := some next } := by
    refine booked.expire expirePeers_peers lki lan sak (tx.trans oldTx.symm) ?_ ?_
    · intro sc mem p kept revealed own
      obtain ⟨known, fresh⟩ := left kept
      refine (rx sc).mpr ⟨oldRx ▸ mem, fun sci inside same => ?_⟩
      obtain ⟨q, mem', ⟨stale, -⟩, rfl⟩ := expired.mp inside
      have equal := booked.roster.eq_of_sci known mem' (sciBe_injective (own.symm.trans same)) revealed
      rw [← equal, fresh] at stale
      cases stale
    · intro sc mem
      obtain ⟨known, spared⟩ := (rx sc).mp mem
      refine ⟨oldRx ▸ known, fun p mem' _ revealed own => ?_⟩
      by_contra stale
      exact spared p.sci (expired.mpr ⟨p, mem', ⟨Bool.eq_false_iff.mpr stale, revealed⟩, rfl⟩) own
  exact ⟨⟨rfl, kek, encrypt, fun p mem _ => (left mem).2⟩, books, complete.expire expirePeers_peers lki⟩

variable [MkaCrypto]

/-- The random generator and the key wrap give the participant a SAK when it wants one. -/
def MkaSession.canGenerate (s : MkaSession) (env : MkaEnv) : Bool :=
  match env.randomSak with
  | .ok sak => (wrapKey s.kek sak.val).isOk
  | .error _ => false

theorem canGenerate_iff : s.canGenerate env ↔
    ∃ sak, env.randomSak = .ok sak ∧ ∃ wrapped, wrapKey s.kek sak.val = .ok wrapped := by
  rw [canGenerate]
  rcases env.randomSak with text | sak
  · simp
  · rcases outcome : wrapKey s.kek sak.val with e | wrapped <;> simp [outcome, Except.toBool]

theorem generateSak_settled (obliging : env.kernel.Obliging) (able : origin.canGenerate env)
    (booked : Booked s) (within : Within now origin s) :
    Ends (generateSak env now) s fun result t => result = .ok () ∧ Settled now origin t := by
  obtain ⟨sak, drawn, wrapped, wrap⟩ := canGenerate_iff.mp able
  obtain ⟨device, found⟩ := Option.isSome_iff_exists.mp within.present
  apply Ends.liftM_ok (a := sak)
  · rw [drawn]
    rfl
  apply Ends.get_bind
  apply Ends.modify_bind
  apply Ends.liftM_ok (a := wrapped)
  · rw [within.kek, wrap]
  apply Ends.modify_bind
  apply Ends.get_bind
  have entry {p : Peer} (mem : p ∈ s.peers.map fun peer => { peer with rxReady := false, rxInstalled := false }) :
      ∃ q ∈ s.peers, { q with rxReady := false, rxInstalled := false } = p := List.mem_map.mp mem
  refine install_settled found rfl ?_ rfl rfl ?_ ?_ ⟨within.present, within.kek, within.encrypt, ?_⟩
    (MacsecDevice.installOwnSak_installed obliging)
  · exact (Roster.map_iff (fun peer => { peer with rxReady := false, rxInstalled := false })
      (fun _ => rfl) fun _ => rfl).mpr booked.roster
  · intro p mem marked
    obtain ⟨q, -, rfl⟩ := entry mem
    cases marked
  · intro sc mem
    obtain ⟨p, old, rest⟩ := booked.channels sc mem
    exact ⟨_, List.mem_map_of_mem old, rest⟩
  · intro p mem
    obtain ⟨q, old, rfl⟩ := entry mem
    exact within.fresh q old

theorem ensureSak_settled (obliging : env.kernel.Obliging) (able : origin.canGenerate env)
    (booked : Booked s) (within : Within now origin s) : Ends (ensureSak env now) s fun result t =>
      result = .ok () ∧ (t = s ∨ Settled now origin t) := by
  apply Ends.get_bind
  refine Ends.ite (fun _ => ?_) fun _ => ⟨rfl, .inl rfl⟩
  apply (generateSak_settled obliging able booked within).mono
  exact fun _ _ ended => ⟨ended.1, .inr ended.2⟩

def MkaSession.canAdopt (s : MkaSession) (dist : DistSak) : Bool :=
  distSakSupported s.encrypt dist && match unwrapKey s.kek dist.wrappedSak with
    | .ok sak => sak.length == 16
    | .error _ => false

theorem canAdopt_iff {dist : DistSak} : s.canAdopt dist ↔ distSakSupported s.encrypt dist ∧
    ∃ sak, unwrapKey s.kek dist.wrappedSak = .ok sak ∧ sak.length = 16 := by
  rw [canAdopt]
  rcases unwrapKey s.kek dist.wrappedSak with e | sak <;> simp

/-- The Distributed SAK set of a message is not refused. -/
theorem handleDistSak_booked {sender : Peer} (obliging : env.kernel.Obliging)
    (adoptable : ∀ dist ∈ pdu.distSak, dist.wrappedSak ≠ [] → origin.canAdopt dist)
    (listed : ∃ p ∈ s.peers, p.live = sender.live ∧ p.sci = sender.sci)
    (booked : Booked s) (within : Within now origin s) : Ends (handleDistSak env pdu sender) s fun result t =>
      result = .ok true ∧ Booked t ∧ Within now origin t := by
  have still : Booked s ∧ Within now origin s := ⟨booked, within⟩
  obtain ⟨device, found⟩ := Option.isSome_iff_exists.mp within.present
  apply Ends.get_bind
  split
  · exact ⟨rfl, still⟩
  · rename_i dist present
    refine Ends.ite (fun offered => ?_) fun _ => ⟨rfl, still⟩
    obtain ⟨live, -, elected, -, wrapped⟩ := offered
    obtain ⟨supported, sak, unwrapped, length⟩ := canAdopt_iff.mp (adoptable dist present wrapped)
    rw [← within.encrypt] at supported
    rw [← within.kek] at unwrapped
    refine Ends.ite (fun refused => absurd supported refused) fun _ => Ends.ite (fun _ => ⟨rfl, still⟩) fun _ => ?_
    rw [unwrapped]
    refine Ends.ite (fun refused => absurd length refused) fun _ => ?_
    -- the sender is live and has revealed its SCI, so it is among the live peers
    have member : (livePeerScis s.peers).contains sender.sci := by
      obtain ⟨p, mem, alive, same⟩ := listed
      have revealed : sender.sci ≠ zeros 8 := by
        rw [isElectedKeyServer, Bool.and_eq_true, bne_iff_ne, beq_iff_eq] at elected
        exact elected.2 ▸ elected.1
      rw [List.contains_iff_mem, livePeerScis, List.mem_map]
      exact ⟨p, List.mem_filter.mpr ⟨mem, by simp [alive, live, same, revealed]⟩, same⟩
    apply Ends.bind_passed (R := Settled now origin)
    · apply Ends.modify_bind
      apply Ends.get_bind
      refine install_settled found (if_pos member) booked.roster rfl rfl ?_ booked.channels
        ⟨within.present, within.kek, within.encrypt, within.fresh⟩
        (MacsecDevice.installClientSak_installed obliging)
      exact fun p mem marked => ⟨(booked.marked p mem marked).1, (booked.marked p mem marked).2.1⟩
    · exact fun t ended => ⟨rfl, ended.booked, ended.toWithin⟩

theorem handleSaks_settled {sender : Peer} (obliging : env.kernel.Obliging)
    (able : origin.canGenerate env)
    (adoptable : ∀ dist ∈ pdu.distSak, dist.wrappedSak ≠ [] → origin.canAdopt dist)
    (listed : sender ∈ s.peers) (booked : Booked s) (within : Within now origin s) :
    Ends (handleSaks env now pdu sender) s fun result t => result = .ok () ∧ Settled now origin t := by
  apply Ends.bind_passed (handleSakUse_alike obliging within)
  rintro t ⟨alike, within⟩
  have known : ∃ p ∈ t.peers, p.live = sender.live ∧ p.sci = sender.sci := by
    obtain ⟨p, mem, same⟩ := alike.symm_mem listed
    obtain ⟨-, sci, live, -⟩ := unready_eq same
    exact ⟨p, mem, live, sci⟩
  apply Ends.bind_passed (handleDistSak_booked obliging adoptable known (booked.alike alike) within)
  rintro u ⟨booked, within⟩
  apply Ends.get_bind
  apply Ends.bind_passed (R := fun t => Booked t ∧ Within now origin t)
  · refine Ends.ite (fun _ => ?_) fun _ => ⟨rfl, booked, within⟩
    apply (ensureSak_settled obliging able booked within).mono
    rintro _ v ⟨done, rfl | settled⟩
    · exact ⟨done, booked, within⟩
    · exact ⟨done, settled.booked, settled.toWithin⟩
  · exact fun v kept => installRxSasForLivePeers_settled obliging kept.1 kept.2

/-- What a message may bring. The sender of one that is taken in keeps its SCI to itself, and the SAK that
it distributes is not refused; an MI collision comes only while there is no SAK. -/
structure MkaSession.Harmless (s : MkaSession) (pdu : MkaPdu) : Prop where
  collision : pdu.basic.mi = s.mi ∨ s.heeds pdu ∧ s.collides pdu → s.lki = none
  steady : s.heeds pdu → s.Steady pdu
  adoptable : s.heeds pdu → ∀ dist ∈ pdu.distSak, dist.wrappedSak ≠ [] → s.canAdopt dist

instance {pdu : MkaPdu} : Decidable (s.Harmless pdu) :=
  decidable_of_iff (_ ∧ _ ∧ _) ⟨fun harmless => ⟨harmless.1, harmless.2.1, harmless.2.2⟩,
    fun harmless => ⟨harmless.collision, harmless.steady, harmless.adoptable⟩⟩

theorem handleFrame_settled {f : EapolFrame} (obliging : env.kernel.Obliging) (able : s.canGenerate env)
    (harmless : ∀ pdu ∈ s.receivedPdu f, s.Harmless pdu) (settled : Settled now s s) :
    Ends (handleFrame env now f) s fun result t => result = .ok () ∧ Settled now s t := by
  have reset (none : s.lki = none) : Settled now s { s.resetMi env.randomMi with needSend := true } := by
    obtain ⟨noTx, noRx⟩ := settled.booked.bare none
    refine ⟨⟨settled.present, rfl, rfl, fun _ mem => (by cases mem)⟩, ⟨⟨List.nodup_nil, fun _ mem => (by cases mem)⟩,
      nofun, fun _ => ⟨noTx, noRx⟩, fun _ mem => (by cases mem), fun sc mem => ?_⟩, fun _ mem => (by cases mem)⟩
    have inside : sc ∈ s.rxSc := mem
    rw [noRx] at inside
    cases inside
  apply Ends.get_bind
  split
  · exact ⟨rfl, settled⟩
  · rename_i pdu received
    refine Ends.ite (fun own => ⟨rfl, reset ((harmless pdu received).collision (.inl own))⟩) fun _ => ?_
    refine Ends.ite (fun heeded => ?_) fun _ => ⟨rfl, settled⟩
    apply Ends.get_bind
    refine Ends.ite (fun collides => ?_) fun _ => ?_
    · exact ⟨rfl, reset ((harmless pdu received).collision (.inr ⟨heeded, collides⟩))⟩
    · apply Ends.modify_bind
      apply Ends.get_bind
      have found : (s.meetPeer now pdu).findPeer pdu.basic.mi = _ := meetPeer_findPeer
      rw [found]
      exact handleSaks_settled obliging able ((harmless pdu received).adoptable heeded) senderEntry_mem
        (meetPeer_booked settled.booked ((harmless pdu received).steady heeded)) (meetPeer_within settled.toWithin)

theorem sendMkpdu_settled : Keeps (Settled now origin) (sendMkpdu env now) := by
  refine Keeps.get_bind fun _ _ => Keeps.liftM_bind fun payload _ => Keeps.liftM_bind fun _ _ => ?_
  intro s settled
  have same : Alike s (s.noteSent now payload) := ⟨rfl, rfl, rfl, rfl, rfl, fun _ => rfl⟩
  exact ⟨settled.toWithin.alike same settled.present rfl rfl, settled.booked.alike same,
    settled.complete.alike same⟩

theorem beginRun_booked (obliging : env.kernel.Obliging) (booked : Booked s) (complete : Complete s) :
    Ends (beginRun env now) s fun result t =>
      Booked t ∧ Complete t ∧ ∀ a, result = .ok a → t.macsec.isSome := by
  apply Ends.bind (ensureMacsec_booked booked complete)
  · exact fun _ _ failed => ⟨failed.1, failed.2.1, fun _ done => nomatch done⟩
  rintro ⟨⟩ u ⟨booked, complete, present⟩
  obtain ⟨device, found⟩ := Option.isSome_iff_exists.mp (present _ rfl)
  apply Ends.get_bind
  apply Ends.modify_bind
  apply withMacsec_ok_bind ((expirePeers_keeps now u).1.trans found) (MacsecDevice.removeRxScs_ends obliging)
  rintro next ⟨tx, rx⟩
  apply Ends.bind_passed (dropUnsecureSak_settled obliging (expirePeers_removed booked complete found tx rx))
  intro v settled
  apply Ends.get_bind
  have sent : Ends (when (v.needSend ∨ v.lastHello + secs mkaHelloSecs ≤ now) (sendMkpdu env now)) v
      fun _ => Settled now u := Keeps.ends (Keeps.when fun _ => sendMkpdu_settled) settled
  apply sent.mono
  exact fun _ t kept => ⟨kept.booked, kept.complete, fun _ _ => kept.present⟩

theorem finishRun_booked {frame : Option EapolFrame} (obliging : env.kernel.Obliging)
    (able : s.canGenerate env) (harmless : ∀ f ∈ frame, ∀ pdu ∈ s.receivedPdu f, s.Harmless pdu)
    (settled : Settled now s s) :
    Ends (finishRun env now frame) s fun _ => Settled now s := by
  apply Ends.bind_passed (R := Settled now s)
  · cases frame with
    | none => exact ⟨rfl, settled⟩
    | some f => exact handleFrame_settled obliging able (harmless f rfl) settled
  intro t settled
  apply Ends.modify_bind
  have expired : Settled now s (t.expirePeers now) := by
    obtain ⟨macsec, lki, lan, sak, kek, encrypt⟩ : _ ∧ _ := expirePeers_keeps now t
    have rx : (t.expirePeers now).rxSc = t.rxSc := by rw [rxSc, rxSc, macsec]
    have tx : (t.expirePeers now).txSa = t.txSa := by rw [txSa, txSa, macsec]
    have books : Booked (t.expirePeers now) := by
      refine settled.booked.expire expirePeers_peers lki lan sak tx ?_ ?_
      · exact fun sc mem _ _ _ _ => rx ▸ mem
      · exact fun sc mem => ⟨rx ▸ mem, fun p known live _ _ => settled.fresh p known live⟩
    refine ⟨⟨macsec ▸ settled.present, kek.trans settled.kek, encrypt.trans settled.encrypt, ?_⟩, books,
      settled.complete.expire expirePeers_peers lki⟩
    intro p mem live
    rw [expirePeers_peers] at mem
    exact (List.mem_filter.mp mem).2
  apply Ends.bind_passed (dropUnsecureSak_settled obliging expired)
  intro u settled
  apply Ends.get_bind
  apply Ends.bind (R := fun _ => Settled now s)
  · refine Ends.ite (fun _ => ?_) fun _ => settled
    apply (ensureSak_settled obliging able settled.booked settled.toWithin).mono
    rintro _ v ⟨-, rfl | ensured⟩
    · exact settled
    · exact ensured
  · exact fun _ _ kept => kept
  · intro _ v kept
    refine Keeps.ends (Keeps.get_bind fun _ _ => Keeps.bind (Keeps.when fun _ => sendMkpdu_settled) fun _ => ?_) kept
    exact Keeps.get_bind fun _ _ => Keeps.pure _

end Crypto

end Half

/-! Whole runs. -/

/-- A participant, and whether `run` waits for a frame. -/
structure Running where
  session : MkaSession
  waiting : Bool

/-- `run` gets to its wait only if its first half succeeds, and may be left there. -/
def Running.step [MkaCrypto] (r : Running) : SessionInput → Running
  | .begin env now => ⟨after (beginRun env now) r.session, (exec (beginRun env now) r.session).1.isOk⟩
  | .finish env now frame => if r.waiting then ⟨after (finishRun env now frame) r.session, false⟩ else r

/-- The device operations of the half succeed. -/
def SessionInput.Granted : SessionInput → Prop
  | .begin env _ => env.kernel.Obliging
  | .finish env _ _ => env.kernel.Obliging

section Run

variable [MkaCrypto]

/-- The second half finds a working random generator, no live peer whose life time has ended, and a
message that is harmless. -/
def Running.Orderly (r : Running) : SessionInput → Prop
  | .begin _ _ => True
  | .finish env now frame => r.waiting → r.session.canGenerate env ∧
      (∀ peer ∈ r.session.peers, peer.live → isFresh now peer) ∧
      ∀ f ∈ frame, ∀ pdu ∈ r.session.receivedPdu f, r.session.Harmless pdu

instance (r : Running) : (input : SessionInput) → Decidable (r.Orderly input)
  | .begin _ _ => isTrue trivial
  | .finish _ _ _ => inferInstanceAs (Decidable (_ → _ ∧ _ ∧ _))

structure Kept (r : Running) : Prop where
  booked : Booked r.session
  complete : Complete r.session
  present : r.waiting → r.session.macsec.isSome

theorem step_kept {r : Running} {input : SessionInput} (kept : Kept r) (granted : input.Granted)
    (orderly : r.Orderly input) : Kept (r.step input) := by
  rcases input with ⟨env, now⟩ | ⟨env, now, frame⟩
  · obtain ⟨booked, complete, present⟩ : Ends (beginRun env now) r.session _ :=
      beginRun_booked granted kept.booked kept.complete
    refine ⟨booked, complete, fun waiting => ?_⟩
    rcases outcome : (exec (beginRun env now) r.session).1 with e | a
    · rw [Running.step, outcome] at waiting
      cases waiting
    · exact present a outcome
  · rw [Running.step]
    by_cases waiting : r.waiting
    · obtain ⟨able, fresh, harmless⟩ := orderly waiting
      rw [if_pos waiting]
      have ended : Settled now r.session (after (finishRun env now frame) r.session) :=
        finishRun_booked granted able harmless
          ⟨⟨kept.present waiting, rfl, rfl, fresh⟩, kept.booked, kept.complete⟩
      exact ⟨ended.booked, ended.complete, nofun⟩
    · rw [if_neg waiting]
      exact kept

/-- MACsec receive bookkeeping. -/
theorem receive_bookkeeping {ifaceName : String} {config : MacsecConfig}
    {socket : Except Core.WifiError MacAddr} {randomMi : Except String Mi} {created : Instant}
    {start : MkaSession} (new : MkaSession.new ifaceName config socket randomMi created = .ok start)
    {inputs : List SessionInput} (granted : ∀ input ∈ inputs, input.Granted)
    (orderly : Admitted Running.step Running.Orderly ⟨start, false⟩ inputs) :
    let s := (runInputs Running.step ⟨start, false⟩ inputs).session
    (∀ ki, s.lki = some ki → ∀ peer ∈ s.peers, peer.live → peer.sci ≠ zeros 8 →
      HasRxSa (sciBe peer.sci) s.lan ki s.rxSc) ∧
    (∀ sc ∈ s.rxSc, ∃ peer ∈ s.peers, sc.sci = sciBe peer.sci) ∧
    (s.lki = none → s.txSa = [] ∧ ∀ sc ∈ s.rxSc, sc.saList = []) := by
  intro s
  have initial : Kept ⟨start, false⟩ := by
    obtain ⟨mac, kek, ick, mi, -, -, -, rfl⟩ := new_eq_ok new
    exact ⟨⟨⟨List.nodup_nil, fun _ mem => (by cases mem)⟩, nofun, fun _ => ⟨rfl, rfl⟩,
      fun _ mem => (by cases mem), fun _ mem => (by cases mem)⟩, fun _ mem => (by cases mem), nofun⟩
  have kept : Kept (runInputs Running.step ⟨start, false⟩ inputs) :=
    run_invariant (fun _ _ kept admits => step_kept kept admits.1 admits.2) initial
      (Admitted.and (Admitted.of_forall granted) orderly)
  refine ⟨fun ki current peer mem live revealed => ?_, fun sc mem => ?_, fun none => ?_⟩
  · have marked := kept.complete peer mem live revealed (Option.isSome_of_eq_some current)
    obtain ⟨-, -, other, held, received⟩ := kept.booked.marked peer mem marked
    obtain rfl := Option.some.inj (held.symm.trans current)
    exact received
  · obtain ⟨peer, known, -, -, own⟩ := kept.booked.channels sc mem
    exact ⟨peer, known, own⟩
  · obtain ⟨noTx, noRx⟩ := kept.booked.bare none
    refine ⟨noTx, fun sc mem => ?_⟩
    rw [noRx] at mem
    cases mem

end Run

section Sample

attribute [local instance] sampleMkaCrypto

def stationReaches (inputs : List SessionInput) : MkaSession :=
  (runInputs Running.step ⟨sampleParticipant (some 5) 1, false⟩ inputs).session

def stationBooks : List SessionInput :=
  stationServes ++ [.begin sampleOutside 1, stationHears 2 secondReports]

theorem receive_bookkeeping_served :
    let s := (runInputs Running.step ⟨sampleParticipant (some 5) 1, false⟩ stationBooks).session
    s.lki = some (stationKey 1) ∧ ∀ peer ∈ s.peers, peer.live → peer.sci ≠ zeros 8 →
      HasRxSa (sciBe peer.sci) s.lan (stationKey 1) s.rxSc := by
  intro s
  have orderly : Admitted Running.step Running.Orderly ⟨sampleParticipant (some 5) 1, false⟩ stationBooks := by
    decide +kernel
  have current : s.lki = some (stationKey 1) := by decide +kernel
  have granted : ∀ input ∈ stationBooks, input.Granted := by
    simp [stationBooks, stationServes, stationHears, SessionInput.Granted, sampleOutside_obliging]
  have new : MkaSession.new "eth0" (samplePort (some 5)) _ _ 0 = .ok (sampleParticipant (some 5) 1) :=
    sampleParticipant_new (some 5) 1
  exact ⟨current, (receive_bookkeeping new granted orderly).1 _ current⟩

def secondMoved : List SessionInput :=
  let pdu := stationPdu 2 0xff false 3 3 none none
  let moved := { pdu with basic := { pdu.basic with sci := ⟨[2, 0, 0, 0, 0, 9, 0, 1], rfl⟩ } }
  stationBooks ++ [.begin sampleOutside 1, stationHears 2 moved]

def secondExpires : List SessionInput :=
  let joins := stationFrame 3 (stationPdu 3 0xff false 1 3 none none)
  stationBooks ++ [.begin sampleOutside (secs 5), .finish sampleOutside (secs 5) (some joins),
    .begin sampleOutside (secs 6), .finish sampleOutside (secs 6 + 1) none]

def secondCollided : List SessionInput :=
  stationBooks ++ [.begin sampleOutside 1, stationHears 2 (stationPdu 2 0xff false 3 9 none none)]

/-- The device operations succeed. A live peer that moves to another SCI gets no receive SA, the channel of
a peer that expires after the wait stays, and so do the SAs when the participant changes its MI. -/
theorem receive_bookkeeping_lapses :
    (∀ input ∈ secondMoved ++ secondExpires ++ secondCollided, input.Granted) ∧
    ((stationReaches secondMoved).lki = some (stationKey 1) ∧
      ∃ peer ∈ (stationReaches secondMoved).peers, peer.live ∧ peer.sci ≠ zeros 8 ∧
        ¬HasRxSa (sciBe peer.sci) (stationReaches secondMoved).lan (stationKey 1)
          (stationReaches secondMoved).rxSc) ∧
    (∃ sc ∈ (stationReaches secondExpires).rxSc,
      ∀ peer ∈ (stationReaches secondExpires).peers, sc.sci ≠ sciBe peer.sci) ∧
    ((stationReaches secondCollided).lki = none ∧ (stationReaches secondCollided).txSa ≠ [] ∧
      ∃ sc ∈ (stationReaches secondCollided).rxSc, sc.saList ≠ []) := by
  refine ⟨?_, by decide +kernel, by decide +kernel, by decide +kernel⟩
  simp [secondMoved, secondExpires, secondCollided, stationBooks, stationServes, stationHears,
    SessionInput.Granted, sampleOutside_obliging]

end Sample

end Shuli.Wired
