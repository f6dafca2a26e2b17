import Shuli.Wired.MkaNonce

/-!
MACsec nonce safety of a group. The log orders the MKPDUs, so an MKPDU that distributes a SAK is older
than every signal of its use.
-/

namespace Shuli.Wired

open Fallible

namespace MkaGroup

open MkaSession

variable {ι : Type} [DecidableEq ι] {log : List (ι × Transmission)} {i : ι} {still : Peer → Prop}
  {s t : MkaSession} {ki : KeyId}

/-- The SAK must not be installed again: it is an earlier one of the participant's own, or its key server
has signalled its use and a barrier keeps older MKPDUs out. -/
inductive Sealed (log : List (ι × Transmission)) (i : ι) (still : Peer → Prop) (s : MkaSession)
    (ki : KeyId) : Prop
  | own (named : ki.mi = s.mi) (below : ki.kn.toNat < s.nextKn.toNat)
  | foreign {n : Nat} {j : ι} {sent : Transmission} (found : log[n]? = some (j, sent)) (other : j ≠ i)
      (named : sent.pdu.basic.mi = ki.mi) (signals : sent.pdu.Signals ki)
      (barrier : Barrier still (sends i (log.drop n)) ki.mi sent.pdu.basic.mn s)

/-- What a participant keeps up. -/
structure Sound (log : List (ι × Transmission)) (i : ι) (still : Peer → Prop) (s : MkaSession) :
    Prop where
  unique : s.Unique
  serving : Serving log i s
  guarded : Guarded (Sealed log i still s) s

/-- No participant distributes a SAK once it has signalled its use. -/
def Ordered (log : List (ι × Transmission)) : Prop :=
  ∀ (n m : Nat) j (sent : Transmission) dist (earlier : Transmission),
    log[n]? = some (j, sent) → sent.pdu.distSak = some dist → m ≤ n →
    log[m]? = some (j, earlier) → ¬earlier.pdu.Signals ⟨sent.pdu.basic.mi, dist.kn⟩

theorem Sealed.change (sealed : Sealed log i still s ki) {later : Peer → Prop} (mi : t.mi = s.mi)
    (nextKn : s.nextKn.toNat ≤ t.nextKn.toNat)
    (barriers : ∀ count mn, Barrier still count ki.mi mn s → Barrier later count ki.mi mn t) :
    Sealed log i later t ki := by
  rcases sealed with ⟨named, below⟩ | ⟨found, other, named, signals, barrier⟩
  · exact .own (named.trans mi.symm) (Nat.lt_of_lt_of_le below nextKn)
  · exact .foreign found other named signals (barriers _ _ barrier)

theorem Sound.focus {later : Peer → Prop} (sound : Sound log i still s)
    (kept : s.needSend → ∀ peer ∈ s.standings, still peer → later peer) : Sound log i later s := by
  refine ⟨sound.unique, sound.serving, sound.guarded.mono fun ki sealed => ?_⟩
  apply sealed.change rfl (Nat.le_refl _)
  rintro count mn ⟨answered, outdated, live⟩
  refine ⟨answered.imp_right ?_, outdated, live⟩
  rintro ⟨asked, peer, mem, named, fresh⟩
  exact ⟨asked, peer, mem, named, kept asked peer mem fresh⟩

omit [DecidableEq ι] in
theorem found_lt {n : Nat} {entry : ι × Transmission} (found : log[n]? = some entry) : n < log.length :=
  (List.getElem?_eq_some_iff.mp found).1

/-- What another participant sends changes nothing. -/
theorem Sound.other {j : ι} {sent : Transmission} (sound : Sound log i still s) (other : j ≠ i) :
    Sound (log ++ [(j, sent)]) i still s := by
  obtain ⟨unique, ⟨client, offered, own, signalled⟩, guarded⟩ := sound
  refine ⟨unique, ⟨client, offered, own, ?_⟩, guarded.mono ?_⟩
  · intro earlier kn mem
    apply signalled earlier kn
    rcases List.mem_append.mp mem with old | new
    · exact old
    · cases List.mem_singleton.mp new
      exact absurd rfl other
  · rintro ki (⟨named, below⟩ | @⟨n, k, signal, found, apart, named, signals, barrier⟩)
    · exact .own named below
    · have early := found_lt found
      refine .foreign ((List.getElem?_append_left early).trans found) apart named signals ?_
      rw [List.drop_append_of_le_length (Nat.le_of_lt early), sends_append, sends_other other]
      exact barrier

/-- What the participant itself sends raises its barriers. -/
theorem Sound.sent {now : Instant} {payload : Octets} {frame : EapolFrame} (sound : Sound log i still s) :
    Sound (log ++ [(i, ⟨s.mkpdu, frame⟩)]) i (fun _ => True) (s.noteSent now payload) := by
  obtain ⟨unique, ⟨client, offered, own, signalled⟩, guarded⟩ := sound
  refine ⟨unique, ⟨client, offered, own, ?_⟩, ?_⟩
  · intro earlier kn mem signals
    rcases List.mem_append.mp mem with old | new
    · exact signalled earlier kn old signals
    · cases List.mem_singleton.mp new
      obtain ⟨current, signal⟩ := mkpdu_signals signals
      refine ⟨own _ current rfl, fun dist inside _ => ?_⟩
      rw [(offered dist inside).2] at signal
      cases signal
  · have kept : Guarded (Sealed log i still s) (s.noteSent now payload) :=
      ⟨guarded.orderly, guarded.current⟩
    apply kept.mono
    rintro ki (⟨named, below⟩ | @⟨n, k, signal, found, apart, named, signals, barrier⟩)
    · exact .own named below
    · have early := found_lt found
      refine .foreign ((List.getElem?_append_left early).trans found) apart named signals ?_
      rw [List.drop_append_of_le_length (Nat.le_of_lt early), sends_append, sends_own]
      refine ⟨.inl (Nat.le_add_left ..), ?_, barrier.live⟩
      rcases barrier.outdated with (twice | ⟨once, -⟩) | known
      · exact .inl (.inl (Nat.le_succ_of_le twice))
      · exact .inl (.inl (Nat.succ_le_succ once))
      · exact .inr known

omit [DecidableEq ι] in
/-- A participant distributes nothing whose use it has signalled. -/
theorem Ordered.sent {frame : EapolFrame} (ordered : Ordered log) (serving : Serving log i s) :
    Ordered (log ++ [(i, ⟨s.mkpdu, frame⟩)]) := by
  intro n m j sent dist earlier found present order before signals
  rcases getElem?_append_one found with ⟨old, there⟩ | ⟨rfl, new⟩
  · have early : m < log.length := Nat.lt_of_le_of_lt order old
    rw [List.getElem?_append_left early] at before
    exact ordered n m j sent dist earlier there present order before signals
  · cases new
    have inside := mkpdu_distSak present
    rcases getElem?_append_one before with ⟨old, there⟩ | ⟨rfl, new⟩
    · have apart := serving.signalled earlier dist.kn (List.mem_of_getElem? there) signals
      exact apart.2 dist inside rfl
    · cases new
      have signal := (mkpdu_signals signals).2
      rw [(serving.offered dist inside).2] at signal
      cases signal

variable [MkaCrypto] {mis : ι → Mi} {macs : ι → MacAddr} {ick : Octets} {group : MkaGroup ι}
  {env : MkaEnv} {place : Option Nat}

section Half

variable (traced : group.Traced mis macs ick) (distinct : Function.Injective mis)

include traced distinct

/-- A message that does not bring a lost key server back: it lists one of our last two messages, so it
was sent after the barrier was raised. -/
theorem Traced.later {n m : Nat} {j k : ι} {sent signal : Transmission}
    (found : group.log[n]? = some (j, sent)) (before : group.log[m]? = some (k, signal))
    (same : sent.pdu.basic.mi = signal.pdu.basic.mi) (knows : (group.session i).knowsUs sent.pdu)
    (twice : 2 ≤ sends i (group.log.drop m)) : signal.pdu.basic.mn ≤ sent.pdu.basic.mn := by
  have logged := traced.logged m k signal before
  have sender : j = k := traced.sender distinct found (same.trans logged.mi)
  subst sender
  have recent := traced.recent distinct found knows
  have parts : sends i (group.log.take m) + sends i (group.log.drop m) = sends i group.log := by
    rw [← sends_append, List.take_append_drop]
  have order : m ≤ n := by
    by_contra late
    have fewer : sends i (group.log.take n) ≤ sends i (group.log.take m) :=
      sends_take_mono (Nat.le_of_not_le late)
    omega
  have mono : sends j (group.log.take m) ≤ sends j (group.log.take n) := sends_take_mono order
  have mn := logged.mn
  have number := (traced.logged n j sent found).mn
  rw [UInt32.le_iff_toNat_le]
  omega

theorem Traced.opening_sound (settled : place ≠ none → (group.session i).needSend = false)
    (sound : Sound group.log i (isFresh group.now ·) (group.session i)) :
    ((group.session i).opening env group.now (group.frameAt place)).mi = mis i ∧
      Sound group.log i (isFresh group.now ·)
        ((group.session i).opening env group.now (group.frameAt place)) := by
  apply opening_cases (P := fun s => s.mi = mis i ∧ Sound group.log i (isFresh group.now ·) s)
  · exact ⟨traced.mi i, sound⟩
  · intro f pdu handed received collision
    obtain ⟨n, j, sent, -, found, rfl, other⟩ := traced.heard handed received
    have credible := traced.credible distinct found other
    rcases collision with same | ⟨-, collides⟩
    · exact absurd same credible.foreign
    · exact absurd collides credible.distinct
  · intro pdu taken
    obtain ⟨f, handed, received⟩ := taken.received
    obtain ⟨n, j, sent, rfl, found, rfl, other⟩ := traced.heard handed received
    have kept {ki : KeyId} (sealed : Sealed group.log i (isFresh group.now ·) (group.session i) ki) :
        Sealed group.log i (isFresh group.now ·) ((group.session i).meetPeer group.now sent.pdu) ki := by
      rcases sealed with ⟨named, below⟩ | ⟨before, apart, named, signals, barrier⟩
      · refine .own (named.trans meetPeer_mi.symm) ?_
        exact below
      · refine .foreign before apart named signals ?_
        apply meetPeer_barrier sound.unique (settled (Option.some_ne_none n)) taken.heeded barrier
        exact fun same knows twice =>
          traced.later distinct found before (same.trans named.symm) knows twice
    refine ⟨meetPeer_mi.trans (traced.mi i), meetPeer_unique sound.unique,
      meetPeer_serving sound.serving, ?_⟩
    have guarded := sound.guarded.mono fun _ => kept
    constructor
    · rw [meetPeer_macsec]
      exact guarded.orderly
    · rw [meetPeer_lki, meetPeer_lan]
      exact guarded.current

omit distinct in
theorem Traced.serves_sealed {pdu : MkaPdu} {use : SakUse} (credits : (group.session i).Credits pdu)
    (mi : s.mi = mis i) (serving : Serving group.log i s) (present : pdu.sakUse = some use)
    (current : ((group.session i).meetPeer group.now pdu).lki = some use.latestKi) (held : s.lki = some use.latestKi)
    (server : ((group.session i).meetPeer group.now pdu).isKeyServer) :
    Sealed group.log i still s use.latestKi := by
  rcases (credits use present current).2 with own | outranked
  · have named : use.latestKi.mi = s.mi := by rw [own, mi, traced.mi]
    exact .own named (serving.own _ held named)
  · rw [meetPeer_outranked outranked] at server
    cases server

section Acts

variable {pdu : MkaPdu} (taken : TakenIn (group.session i) (group.frameAt place) pdu)

include taken

omit distinct in
theorem Traced.follows_sealed {use : SakUse} (credits : (group.session i).Credits pdu)
    (unique : (group.session i).Unique) (present : pdu.sakUse = some use)
    (current : ((group.session i).meetPeer group.now pdu).lki = some use.latestKi)
    (claims : pdu.basic.keyServer) (signal : use.latestTx) :
    Sealed group.log i (isFresh group.now ·) ((group.session i).meetPeer group.now pdu)
      use.latestKi := by
  have named := (credits use present current).1 claims signal
  obtain ⟨f, handed, received⟩ := taken.received
  obtain ⟨n, j, sent, -, found, rfl, other⟩ := traced.heard handed received
  refine .foreign found other named.symm ⟨use, present, rfl, signal⟩ ?_
  rw [named]
  exact meetPeer_barrier_own unique

/-- A SAK that a live key server distributes is not a sealed one. -/
theorem Traced.adopts_open {dist : DistSak} (ordered : Ordered group.log)
    (unique : (group.session i).Unique) (mi : s.mi = mis i) (present : pdu.distSak = some dist)
    (met : s.standings = ((group.session i).meetPeer group.now pdu).standings)
    (live : s.HasLive pdu.basic.mi) : ¬Sealed group.log i still s ⟨pdu.basic.mi, dist.kn⟩ := by
  have foreign := taken.foreign
  obtain ⟨f, handed, received⟩ := taken.received
  obtain ⟨n, j, sent, -, found, rfl, other⟩ := traced.heard handed received
  rintro (⟨named, -⟩ | @⟨m, k, signal, before, -, named, signals, barrier⟩)
  · rw [traced.mi] at foreign
    exact foreign (Eq.trans named mi)
  · have logged := traced.logged m k signal before
    have sender : j = k := traced.sender distinct found (named.symm.trans logged.mi)
    subst sender
    have order : n < m := by
      by_contra late
      exact ordered n m j sent dist signal found present (Nat.le_of_not_lt late) before signals
    have fewer : sends j (group.log.take (n + 1)) ≤ sends j (group.log.take m) := sends_take_mono order
    have next := sends_take_succ found
    have mn := logged.mn
    have number := (traced.logged n j sent found).mn
    obtain ⟨peer, mem, same, alive⟩ := hasLive_iff.mp live
    have bound := barrier.live peer mem same alive
    rw [met] at mem
    have entry : peer.mn = sent.pdu.basic.mn := by
      rw [meetPeer_standings_own unique mem same]
      exact senderEntry_mn
    rw [entry, UInt32.le_iff_toNat_le] at bound
    omega

end Acts

theorem Traced.generates_open (mi : s.mi = mis i) :
    ¬Sealed group.log i still s ⟨s.mi, s.nextKn⟩ := by
  rintro (⟨-, below⟩ | ⟨found, other, named, -, -⟩)
  · exact Nat.lt_irrefl _ below
  · exact other (traced.sender distinct found (Eq.trans named mi))

theorem Traced.act_sound (act : Act env group.now (group.session i) (group.frameAt place) s t)
    (obliging : env.kernel.Obliging) (below : (group.session i).nextKn ≠ 0xffffffff) (ordered : Ordered group.log)
    (credits : ∀ pdu, TakenIn (group.session i) (group.frameAt place) pdu → (group.session i).Credits pdu)
    (unique : (group.session i).Unique) (mi : s.mi = mis i) (sound : Sound group.log i (isFresh group.now ·) s) :
    Sound group.log i (isFresh group.now ·) t := by
  have standings := act.standings
  refine ⟨?_, ?_, ?_⟩
  · have before := unique_iff.mp sound.unique
    exact unique_iff.mpr (before.sublist (standings.map _))
  · exact act.serving obliging below (mi.trans (traced.mi i).symm) sound.serving
  · have guarded : Guarded (Sealed group.log i (isFresh group.now ·) s) t := by
      apply act.guarded obliging _ _ _ _ sound.guarded
      · intro pdu use taken present current held server
        exact traced.serves_sealed (credits pdu taken) mi sound.serving present current held server
      · rintro pdu use taken present rfl current claims signal
        exact traced.follows_sealed taken (credits pdu taken) unique present current claims signal
      · intro pdu dist taken present met live
        exact traced.adopts_open distinct taken ordered unique mi present met live
      · exact traced.generates_open distinct mi
    apply guarded.mono
    intro ki sealed
    apply sealed.change act.mi (act.nextKn_le below)
    exact fun count mn barrier => act.barrier sound.unique barrier

end Half

/-- `run` waits for a frame only when no MKPDU is due. -/
theorem beginRun_quiet {now : Instant} : Ends (beginRun env now) s
    (orElse (fun _ t => t.needSend = false) fun _ _ => True) := by
  apply Ends.bind (R := fun _ _ => True) trivial fun _ _ _ => trivial
  intro _ s _
  apply Ends.get_bind
  apply Ends.modify_bind
  apply Ends.bind (R := fun _ _ => True) trivial fun _ _ _ => trivial
  intro _ s _
  apply Ends.bind (R := fun _ _ => True) trivial fun _ _ _ => trivial
  intro _ s _
  apply Ends.ite
  · intro _
    apply Ends.get_bind
    apply Ends.liftM_bind
    · exact fun _ _ => trivial
    · intro payload _
      apply Ends.liftM_bind
      · exact fun _ _ => trivial
      · exact fun _ _ => rfl
  · intro settled
    exact Bool.eq_false_iff.mpr fun asked => settled (.inl asked)

structure Secure (group : MkaGroup ι) : Prop where
  sound : ∀ i, Sound group.log i (fun _ => True) (group.session i)
  quiet : ∀ i, group.waiting i → (group.session i).needSend = false
  ordered : Ordered group.log

theorem Secure.act {α : Type} {operation : Session α} {waits : Except Core.WifiError α → Bool} (secure : group.Secure)
    (traced : group.Traced mis macs ick) (distinct : Function.Injective mis)
    (half : Half env group.now (group.session i) (group.frameAt place) (after operation (group.session i)))
    (obliging : env.kernel.Obliging) (below : (group.session i).nextKn ≠ 0xffffffff)
    (settled : place ≠ none → (group.session i).needSend = false)
    (fresh : (group.session i).needSend → ∀ peer ∈ (group.session i).peers, isFresh group.now peer)
    (credits : ∀ pdu, TakenIn (group.session i) (group.frameAt place) pdu → (group.session i).Credits pdu)
    (quiet : waits (exec operation (group.session i)).1 → (after operation (group.session i)).needSend = false) :
    (group.act i operation waits).Secure := by
  have start : Sound group.log i (isFresh group.now ·) (group.session i) := by
    apply (secure.sound i).focus
    intro asked peer mem _
    obtain ⟨entry, inside, rfl⟩ := mem_standings mem
    exact fresh asked entry inside
  obtain ⟨s, reached, -, ended⟩ := traced.halfLog waits distinct half
  obtain ⟨-, sound⟩ : s.mi = mis i ∧ Sound group.log i (isFresh group.now ·) s := by
    apply reached.invariant (I := fun s => s.mi = mis i ∧ Sound group.log i (isFresh group.now ·) s)
    · exact fun s t act kept => ⟨act.mi.trans kept.1, traced.act_sound distinct act obliging below
        secure.ordered credits start.unique kept.1 kept.2⟩
    · exact traced.opening_sound distinct settled start
  have others (j : ι) (other : j ≠ i) : (group.act i operation waits).session j = group.session j :=
    act_session_other other
  have silence (j : ι) (waiting : (group.act i operation waits).waiting j) :
      ((group.act i operation waits).session j).needSend = false := by
    by_cases own : j = i
    · subst own
      rw [act_session_self]
      rw [act_waiting_self] at waiting
      exact quiet waiting
    · rw [act_session_other own]
      rw [act_waiting_other own] at waiting
      exact secure.quiet j waiting
  generalize group.act i operation waits = next at ended others silence
  refine ⟨fun j => ?_, silence, ?_⟩
  · by_cases own : j = i
    · subst own
      rcases ended with ⟨same, log⟩ | ⟨-, noted, log⟩
      · rw [same, log]
        exact sound.focus fun _ _ _ _ => trivial
      · rw [noted, log]
        exact sound.sent
    · rw [others j own]
      rcases ended with ⟨-, log⟩ | ⟨-, -, log⟩
      · rw [log]
        exact secure.sound j
      · rw [log]
        exact (secure.sound j).other (Ne.symm own)
  · rcases ended with ⟨-, log⟩ | ⟨-, -, log⟩
    · rw [log]
      exact secure.ordered
    · rw [log]
      exact secure.ordered.sent sound.serving

def Obliging : GroupInput ι → Prop
  | .advance _ => True
  | .begin _ env => env.kernel.Obliging
  | .finish _ env _ => env.kernel.Obliging

omit [DecidableEq ι] [MkaCrypto] in
@[simp] theorem obliging_advance (elapsed : Nat) :
    Obliging (.advance elapsed : GroupInput ι) = True := rfl

omit [DecidableEq ι] [MkaCrypto] in
@[simp] theorem obliging_begin : Obliging (.begin i env) = env.kernel.Obliging := rfl

omit [DecidableEq ι] [MkaCrypto] in
@[simp] theorem obliging_finish : Obliging (.finish i env place) = env.kernel.Obliging := rfl

/-- The step sends no last message number and uses no last key number. -/
def Counting (group : MkaGroup ι) (input : GroupInput ι) : Prop :=
  group.NoWrap input ∧ match input with
  | .advance _ => True
  | .begin i _ => (group.session i).nextKn ≠ 0xffffffff
  | .finish i _ _ => (group.session i).nextKn ≠ 0xffffffff

instance : (input : GroupInput ι) → Decidable (group.Counting input)
  | .advance _ => inferInstanceAs (Decidable (_ ∧ True))
  | .begin _ _ => inferInstanceAs (Decidable (_ ∧ _ ≠ _))
  | .finish _ _ _ => inferInstanceAs (Decidable (_ ∧ _ ≠ _))

/-- A participant that still owes an MKPDU loses no peer before it sends it, and no participant takes
the SAK of a third one for its own or for that of the key server it hears. -/
def Careful (group : MkaGroup ι) : GroupInput ι → Prop
  | .advance _ => True
  | .begin i _ =>
    (group.session i).needSend → ∀ peer ∈ (group.session i).peers, isFresh group.now peer
  | .finish i _ place =>
    group.waiting i → ∀ pdu ∈ group.takenIn i place, (group.session i).Credits pdu

instance : (input : GroupInput ι) → Decidable (group.Careful input)
  | .advance _ => isTrue trivial
  | .begin _ _ => inferInstanceAs (Decidable (_ → _))
  | .finish _ _ _ => inferInstanceAs (Decidable (_ → _))

theorem Secure.step {input : GroupInput ι} (secure : group.Secure) (traced : group.Traced mis macs ick)
    (distinct : Function.Injective mis) (obliging : Obliging input) (counting : group.Counting input)
    (careful : group.Careful input) : (group.step input).Secure := by
  cases input with
  | advance elapsed => exact ⟨secure.sound, secure.quiet, secure.ordered⟩
  | begin i env =>
    have half : Half env group.now (group.session i) (group.frameAt none) _ := beginRun_half
    rw [MkaGroup.step]
    apply secure.act traced distinct half obliging counting.2
    · exact fun handed => absurd rfl handed
    · exact careful
    · rintro pdu ⟨⟨f, handed, -⟩, -⟩
      cases handed
    · intro waiting
      have ended : Ends (beginRun env group.now) (group.session i) _ := beginRun_quiet
      unfold Ends at ended
      split at waiting
      · rename_i ok
        rw [ok] at ended
        exact ended
      · cases waiting
  | finish i env place =>
    rw [MkaGroup.step]
    split
    · rename_i waits
      have settled := secure.quiet i waits
      apply secure.act traced distinct finishRun_half obliging counting.2
      · exact fun _ => settled
      · intro asked
        rw [settled] at asked
        cases asked
      · exact fun pdu taken => careful waits pdu (takenIn_iff.mpr taken)
      · intro waiting
        cases waiting
    · exact secure

theorem Enrolled.secure {cak ckn : Octets} (enrolled : group.Enrolled cak ckn) : group.Secure := by
  refine ⟨fun i => ?_, ?_, ?_⟩
  · obtain ⟨ifaceName, config, socket, randomMi, -, -, created⟩ := enrolled.fresh i
    obtain ⟨mac, kek, ick, mi, -, -, -, same⟩ := new_eq_ok created
    rw [same, enrolled.silent]
    have serving : Serving [] i (initial ifaceName config mac kek ick mi group.now) :=
      ⟨fun _ => rfl, fun _ mem => (nomatch mem), fun _ current => (nomatch current),
        fun _ _ mem => (nomatch mem)⟩
    exact ⟨List.nodup_nil, electKeyServer_serving serving, fun _ mem => (nomatch mem),
      fun _ mem => (nomatch mem)⟩
  · intro i waiting
    rw [enrolled.idle] at waiting
    cases waiting
  · intro n m j sent dist earlier found
    rw [enrolled.silent] at found
    cases found

/-- MACsec nonce safety: along every careful run no participant installs a SAK with packet number 1
once it has transmitted with it. -/
theorem nonce_safe {cak ckn : Octets} {inputs : List (GroupInput ι)} (enrolled : group.Enrolled cak ckn)
    (obliging : ∀ input ∈ inputs, Obliging input) (counting : Admitted step Counting group inputs)
    (careful : Admitted step Careful group inputs) (i : ι) :
    ∀ device ∈ ((runInputs step group inputs).session i).macsec, NonceSafe device.calls := by
  have admitted := (Admitted.of_forall obliging).and (counting.and careful)
  obtain ⟨-, secure⟩ := run_invariant (I := fun group : MkaGroup ι => group.Traced _ _ _ ∧ group.Secure)
    (fun group input kept admits =>
      ⟨kept.1.step enrolled.distinct admits.2.1.1,
        kept.2.step kept.1 enrolled.distinct admits.1 admits.2.1 admits.2.2⟩)
    ⟨enrolled.traced, enrolled.secure⟩ admitted
  exact fun device mem => ((secure.sound i).guarded.orderly device mem).safe

end MkaGroup

section Sample

attribute [local instance] sampleMkaCrypto

def pairTransmits : List (GroupInput (Fin 2)) :=
  pairUp ++ [.begin 1 sampleOutside, .finish 1 sampleOutside (some 6)]

theorem nonce_safe_pair :
    ((runInputs MkaGroup.step samplePair pairTransmits).session 1).ltx ∧
      ∀ device ∈ ((runInputs MkaGroup.step samplePair pairTransmits).session 1).macsec,
        NonceSafe device.calls := by
  have run : ((runInputs MkaGroup.step samplePair pairTransmits).session 1).ltx ∧
      Admitted MkaGroup.step MkaGroup.Counting samplePair pairTransmits ∧
      Admitted MkaGroup.step MkaGroup.Careful samplePair pairTransmits := by decide +kernel
  have obliging : ∀ input ∈ pairTransmits, MkaGroup.Obliging input := by
    simp [pairTransmits, pairUp, sampleOutside_obliging]
  have enrolled : samplePair.Enrolled sampleCak sampleCkn := samplePair_enrolled
  exact ⟨run.1, MkaGroup.nonce_safe enrolled obliging run.2.1 run.2.2 1⟩

def sampleQuad : MkaGroup (Fin 4) :=
  sampleGroup fun i => if i = 0 then some 1 else if i = 1 then some 2 else none

theorem sampleQuad_enrolled : sampleQuad.Enrolled sampleCak sampleCkn where
  fresh _ := ⟨_, _, _, _, rfl, rfl, sampleParticipant_new _ _⟩
  idle _ := rfl
  silent := rfl
  distinct := by decide +kernel

def sampleDraw (octet : UInt8) : MkaEnv :=
  { sampleOutside with randomSak := .ok ⟨List.replicate 16 octet, List.length_replicate⟩ }

def hears (i : Fin 4) (place : Nat) : List (GroupInput (Fin 4)) :=
  [.begin i sampleOutside, .finish i sampleOutside (some place)]

theorem sampleDraw_obliging (octet : UInt8) : (sampleDraw octet).kernel.Obliging := fun _ => rfl

theorem hears_obliging (i : Fin 4) (place : Nat) : ∀ input ∈ hears i place, MkaGroup.Obliging input := by
  simp [hears, sampleOutside_obliging]

def quadJoin : List (GroupInput (Fin 4)) :=
  [.begin 0 sampleOutside, .begin 3 sampleOutside] ++ hears 0 1 ++ hears 3 2 ++
  [.begin 0 sampleOutside, .finish 0 (sampleDraw 1) (some 3), .advance (secs 2), .begin 1 sampleOutside,
    .begin 2 sampleOutside, .begin 3 sampleOutside] ++
  hears 0 7 ++ hears 0 5 ++ hears 0 6 ++ hears 1 11 ++ hears 2 11 ++ hears 0 12 ++ hears 0 13

def quadRekey : List (GroupInput (Fin 4)) :=
  [.advance (secs 4), .begin 3 sampleOutside, .begin 0 sampleOutside,
    .finish 0 (sampleDraw 2) none] ++
  hears 1 18 ++ hears 2 18 ++ hears 2 20 ++ hears 1 23 ++ hears 0 24 ++ hears 0 23 ++ hears 0 16

/-- The second one loses the key server, takes its place, and takes the report of the third one about
the old SAK as one about its own: it transmits with the old SAK. -/
def quadTakeOver : List (GroupInput (Fin 4)) :=
  [.advance (secs 5), .begin 1 sampleOutside, .begin 3 sampleOutside, .begin 2 sampleOutside] ++
  hears 1 30 ++ hears 2 31 ++ hears 0 31 ++ hears 0 32 ++ hears 0 29 ++
  [.advance (secs 1), .begin 1 sampleOutside, .finish 1 (sampleDraw 3) (some 32)]

/-- The first one still distributes the old SAK when the second one hears it again. -/
def quadReturn : List (GroupInput (Fin 4)) :=
  [.advance (secs 4), .begin 2 sampleOutside, .begin 3 sampleOutside] ++
  hears 0 39 ++ hears 0 40 ++ hears 0 38 ++ [.advance (secs 2), .begin 1 sampleOutside] ++
  hears 0 45 ++ hears 1 47

def quadRun : List (GroupInput (Fin 4)) := quadJoin ++ quadRekey ++ quadTakeOver ++ quadReturn

theorem quadRun_obliging : ∀ input ∈ quadRun, MkaGroup.Obliging input := by
  have heard (i : Fin 4) (place : Nat) := eq_true (hears_obliging i place)
  have none := eq_true (List.forall_mem_nil (MkaGroup.Obliging (ι := Fin 4)))
  simp only [quadRun, quadJoin, quadRekey, quadTakeOver, quadReturn, List.forall_mem_append,
    List.forall_mem_cons, none, heard, MkaGroup.obliging_advance, MkaGroup.obliging_begin,
    MkaGroup.obliging_finish, sampleOutside_obliging, sampleDraw_obliging, and_self]

/-- The second participant transmits with the second SAK of the first one, and later installs it with
packet number 1 again. -/
theorem nonce_reuse_quad : sampleQuad.Enrolled sampleCak sampleCkn ∧
    (∀ input ∈ quadRun, MkaGroup.Obliging input) ∧
    Admitted MkaGroup.step MkaGroup.Counting sampleQuad quadRun ∧
    ¬∀ i, ∀ device ∈ ((runInputs MkaGroup.step sampleQuad quadRun).session i).macsec,
      NonceSafe device.calls := by
  have run : Admitted MkaGroup.step MkaGroup.Counting sampleQuad quadRun ∧
      ∃ device ∈ ((runInputs MkaGroup.step sampleQuad quadRun).session 1).macsec,
        (∃ call ∈ device.calls[7]?, call.Activates ⟨(sampleQuad.session 0).mi, 2⟩) ∧
        ∃ call ∈ device.calls[14]?, call.Installs ⟨(sampleQuad.session 0).mi, 2⟩ := by
    decide +kernel
  obtain ⟨counting, device, mem, ⟨first, early, activates⟩, second, late, installs⟩ := run
  refine ⟨sampleQuad_enrolled, quadRun_obliging, counting, fun safe => ?_⟩
  exact (safe 1 device mem).not_installs (by decide) early late activates installs

end Sample

end Shuli.Wired
