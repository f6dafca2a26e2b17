import Mathlib.Data.Fintype.EquivFin
import Mathlib.Data.Finset.Max
import Shuli.Wired.MkaBallot
import Shuli.Wired.SakAgreement

/-!
Convergence of the key server election. In a group of participants that are live to each other, every
participant sends an MKPDU and every other one handles it, twice. The first time the participants get to
know each other's candidates, so that the least one that may be key server elects itself; the second time
the others learn that it has.
-/

namespace Shuli.Wired

open Fallible MkaSession

/-- One message is sent, or `i` handles what `j` sent last. -/
inductive Move (ι : Type)
  | send (i : ι) (env : MkaEnv) (now : Instant)
  | hear (i j : ι) (env : MkaEnv) (now : Instant)

/-- Every participant sends, and every other one handles what it has sent. -/
def Round {ι : Type} (moves : List (Move ι)) : Prop :=
  ∀ i j, i ≠ j → ∃ before middle later env now env' now',
    moves = before ++ .send j env now :: (middle ++ .hear i j env' now' :: later)

theorem round_of_phases {ι : Type} {sends hears : List (Move ι)} (sent : ∀ j, ∃ env now, .send j env now ∈ sends)
    (heard : ∀ i j, i ≠ j → ∃ env now, .hear i j env now ∈ hears) : Round (sends ++ hears) := by
  intro i j other
  obtain ⟨env, now, mem⟩ := sent j
  obtain ⟨before, middle, rfl⟩ := List.append_of_mem mem
  obtain ⟨env', now', mem⟩ := heard i j other
  obtain ⟨rest, later, rfl⟩ := List.append_of_mem mem
  exact ⟨before, middle ++ rest, later, env, now, env', now', by simp⟩

/-- The participants, and what each of them has sent last. -/
structure Assembly (ι : Type) where
  session : ι → MkaSession
  last : ι → Option Transmission

namespace Assembly

variable {ι : Type}

def ballot (a : Assembly ι) (i : ι) : Ballot := (a.session i).ballot

variable [MkaCrypto] [DecidableEq ι]

def step (a : Assembly ι) : Move ι → Assembly ι
  | .send i env now =>
    let sender := after (sendMkpdu env now) (a.session i)
    { session := Function.update a.session i sender
      last := Function.update a.last i
        ((sender.outbox.drop (a.session i).outbox.length).getLast?.or (a.last i)) }
  | .hear i j env now =>
    match a.last j with
    | none => a
    | some sent =>
      let receiver := after (handleFrame env now sent.frame.received) (a.session i)
      { a with session := Function.update a.session i receiver }

/-- A message is sent before the message numbers are used up, and one that is handled is read as it was
sent. -/
def Processed (a : Assembly ι) : Move ι → Prop
  | .send i env now =>
    (exec (sendMkpdu env now) (a.session i)).1 = .ok () ∧ (a.session i).mn ≠ 0xffffffff
  | .hear i j _ _ =>
    i ≠ j ∧ ∀ sent ∈ a.last j, (a.session i).receivedPdu sent.frame.received = some sent.pdu

instance (a : Assembly ι) : (move : Move ι) → Decidable (a.Processed move)
  | .send _ _ _ => inferInstanceAs (Decidable (_ ∧ _))
  | .hear _ _ _ _ => inferInstanceAs (Decidable (_ ∧ _))

end Assembly

/-- Each participant has a live entry of each other one, with a message number that the other one has
used, and no other live entries. -/
structure MutuallyLive {ι : Type} (session : ι → MkaSession) : Prop where
  distinctMis : ∀ i j, (session i).mi = (session j).mi → i = j
  distinctScis : ∀ i j, (session i).actorSci = (session j).actorSci → i = j
  entitled : ∀ i, (session i).isKeyServer → (session i).canBeKeyServer
  unique : ∀ i, (session i).Unique
  foreign : ∀ i, ∀ peer ∈ (session i).peers, peer.mi ≠ (session i).mi
  members : ∀ i, ∀ peer ∈ (session i).peers, peer.live → ∃ j, j ≠ i ∧ peer.mi = (session j).mi
  known : ∀ i j, j ≠ i → ∃ peer, (session i).findPeer (session j).mi = some peer ∧ peer.live ∧
    peer.mn < (session j).mn

/-- The entry says what the message says. -/
structure Tells (basic : MkaBasic) (peer : Peer) : Prop where
  mn : peer.mn = basic.mn
  candidate : peer.candidate = (basic.priority, basic.sci)
  keyServer : peer.keyServer = basic.keyServer

namespace Assembly

variable {ι : Type} {origin : ι → MkaSession} {a : Assembly ι}

/-- A message of participant `j`. -/
structure Posted (origin : ι → MkaSession) (a : Assembly ι) (j : ι) (pdu : MkaPdu) : Prop where
  version : pdu.basic.version = mkaVersion
  algoAgility : pdu.basic.algoAgility = Wired.algoAgility
  mi : pdu.basic.mi = (origin j).mi
  candidate : (pdu.basic.priority, pdu.basic.sci) = (origin j).candidate
  entitled : pdu.basic.keyServer → (origin j).canBeKeyServer
  used : pdu.basic.mn < (a.ballot j).mn
  listed : ∀ id ∈ pdu.livePeers ++ pdu.potentialPeers, ∀ k,
    id.mi = (origin k).mi → id.mn < (a.ballot k).mn

/-- What holds of each participant: who it is, and that its live peers are the others. -/
structure Member (origin : ι → MkaSession) (i : ι) (b : Ballot) : Prop where
  mi : b.mi = (origin i).mi
  candidate : b.candidate = (origin i).candidate
  canBeKeyServer : b.canBeKeyServer = (origin i).canBeKeyServer
  entitled : b.isKeyServer → (origin i).canBeKeyServer
  unique : b.Unique
  foreign : ∀ peer ∈ b.peers, peer.mi ≠ (origin i).mi
  members : ∀ peer ∈ b.peers, peer.live → ∃ j, j ≠ i ∧ peer.mi = (origin j).mi

/-- What holds at every point of the exchange. The last clause says that a participant has either still to
hear the last message of another one, or has taken it in and has held its election after it. -/
structure Sound (origin : ι → MkaSession) (a : Assembly ι) : Prop where
  member : ∀ i, Member origin i (a.ballot i)
  known : ∀ i j, j ≠ i → ∃ peer, (a.ballot i).entry (origin j).mi = some peer ∧ peer.live ∧
    peer.mn < (a.ballot j).mn
  posted : ∀ j, ∀ sent ∈ a.last j, Posted origin a j sent.pdu
  heard : ∀ i j, j ≠ i → ∀ sent ∈ a.last j, ∀ peer ∈ (a.ballot i).entry (origin j).mi,
    peer.mn < sent.pdu.basic.mn ∨ Tells sent.pdu.basic peer ∧ (a.ballot i).Settled

variable {peer : Peer}

theorem mem_standings_iff {s : MkaSession} :
    peer ∈ s.ballot.peers ↔ ∃ known ∈ s.peers, known.standing = peer := List.mem_map

/-- The exchange starts before anything was sent. -/
theorem sound_start (live : MutuallyLive origin) : Sound origin ⟨origin, fun _ => none⟩ where
  member i :=
    { mi := rfl
      candidate := rfl
      canBeKeyServer := rfl
      entitled := live.entitled i
      unique := ballot_unique.mpr (live.unique i)
      foreign := fun peer mem => by
        obtain ⟨known, listed, rfl⟩ := mem_standings_iff.mp mem
        exact live.foreign i known listed
      members := fun peer mem alive => by
        obtain ⟨known, listed, rfl⟩ := mem_standings_iff.mp mem
        exact live.members i known listed alive }
  known i j other := by
    obtain ⟨peer, found, alive, used⟩ := live.known i j other
    refine ⟨peer.standing, ?_, alive, used⟩
    change (origin i).ballot.entry _ = _
    rw [ballot_entry, found, Option.map_some]
  posted _ _ none := by cases none
  heard _ _ _ _ none := by cases none

theorem lt_nextCounter {counter : UInt32} (below : counter ≠ 0xffffffff) :
    counter < nextCounter counter := by
  have next := nextCounter_toNat below
  rw [UInt32.lt_iff_toNat_lt]
  omega

variable [MkaCrypto] [DecidableEq ι] {env : MkaEnv} {now : Instant} {i j k : ι}

structure Sent (env : MkaEnv) (now : Instant) (a : Assembly ι) (i : ι) (sent : Transmission) : Prop where
  pdu : sent.pdu = (a.session i).mkpdu
  last : (a.step (.send i env now)).last i = some sent
  ballot : (a.step (.send i env now)).ballot i =
    { a.ballot i with mn := nextCounter (a.ballot i).mn }

theorem step_send (processed : a.Processed (.send i env now)) : ∃ sent, Sent env now a i sent := by
  obtain ⟨succeeded, -⟩ := processed
  have run : exec (sendMkpdu env now) (a.session i) = (.ok (), after (sendMkpdu env now) (a.session i)) :=
    Prod.ext succeeded rfl
  unfold sendMkpdu at run
  rw [exec_get_bind] at run
  obtain ⟨payload, -, run⟩ := exec_liftM_bind_eq_ok.mp run
  obtain ⟨⟨⟩, -, run⟩ := exec_liftM_bind_eq_ok.mp run
  have noted : after (sendMkpdu env now) (a.session i) = (a.session i).noteSent now payload :=
    (congrArg Prod.snd run).symm
  refine ⟨⟨(a.session i).mkpdu, ⟨(a.session i).mac, paeGroupAddr, payload⟩⟩, rfl, ?_, ?_⟩
  · rw [step]
    dsimp only
    rw [Function.update_self, noted, noteSent, List.drop_left]
    rfl
  · rw [step, Assembly.ballot]
    dsimp only
    rw [Function.update_self, noted]
    rfl

theorem step_send_other (other : k ≠ i) : (a.step (.send i env now)).ballot k = a.ballot k ∧
    (a.step (.send i env now)).last k = a.last k := by
  constructor
  · exact congrArg MkaSession.ballot (Function.update_of_ne other ..)
  · exact Function.update_of_ne other ..

theorem step_hear_other (other : k ≠ i) : (a.step (.hear i j env now)).ballot k = a.ballot k := by
  rw [step]
  split
  · rfl
  · exact congrArg MkaSession.ballot (Function.update_of_ne other ..)

theorem step_hear_last : (a.step (.hear i j env now)).last = a.last := by
  rw [step]
  split <;> rfl

theorem step_hear_none (silent : a.last j = none) : a.step (.hear i j env now) = a := by
  rw [step, silent]

variable {sent : Transmission}

theorem step_hear_session (posted : a.last j = some sent) :
    (a.step (.hear i j env now)).session i =
      after (handleFrame env now sent.frame.received) (a.session i) := by
  rw [step, posted]
  exact Function.update_self ..

omit [MkaCrypto] [DecidableEq ι] in
theorem Posted.mono {later : Assembly ι} {pdu : MkaPdu} (posted : Posted origin a j pdu)
    (grow : ∀ k, (a.ballot k).mn ≤ (later.ballot k).mn) : Posted origin later j pdu :=
  { posted with
    used := UInt32.lt_of_lt_of_le posted.used (grow j)
    listed := fun id mem k same => UInt32.lt_of_lt_of_le (posted.listed id mem k same) (grow k) }

omit [MkaCrypto] [DecidableEq ι] in
/-- A message lists numbers that have been used. -/
theorem Sound.mkpdu_listed (sound : Sound origin a) (i : ι) {id : PeerId}
    (mem : id ∈ (a.session i).mkpdu.livePeers ++ (a.session i).mkpdu.potentialPeers) {k : ι}
    (same : id.mi = (origin k).mi) : id.mn < (a.ballot k).mn := by
  have listed : ∃ peer ∈ (a.ballot i).peers, id = ⟨peer.mi, peer.mn⟩ := by
    have known : ∃ peer ∈ (a.session i).peers, id = ⟨peer.mi, peer.mn⟩ := by
      rcases List.mem_append.mp mem with live | potential
      · exact mem_orderedLivePeers live
      · exact mem_orderedPotentialPeers potential
    obtain ⟨peer, inside, rfl⟩ := known
    exact ⟨peer.standing, List.mem_map_of_mem inside, rfl⟩
  obtain ⟨peer, inside, rfl⟩ := listed
  have other : k ≠ i := by
    rintro rfl
    exact (sound.member k).foreign peer inside same
  obtain ⟨known, found, -, used⟩ := sound.known i k other
  have one := (sound.member i).unique.entry_iff.mpr ⟨inside, same⟩
  obtain rfl := Option.some.inj (one.symm.trans found)
  exact used

theorem Sound.send (sound : Sound origin a) (processed : a.Processed (.send i env now)) :
    Sound origin (a.step (.send i env now)) := by
  obtain ⟨sent, made⟩ := step_send processed
  have next := lt_nextCounter processed.2
  have advanced (k : ι) : ∃ mn, (a.step (.send i env now)).ballot k = { a.ballot k with mn := mn } ∧
      (a.ballot k).mn ≤ mn := by
    by_cases same : k = i
    · subst same
      exact ⟨_, made.ballot, UInt32.le_of_lt next⟩
    · exact ⟨(a.ballot k).mn, (step_send_other same).1, UInt32.le_refl _⟩
  have grow (k : ι) : (a.ballot k).mn ≤ ((a.step (.send i env now)).ballot k).mn := by
    obtain ⟨mn, changed, more⟩ := advanced k
    rw [changed]
    exact more
  have field {α : Type} (f : Ballot → α) (blind : ∀ b mn, f { b with mn := mn } = f b) (k : ι) :
      f ((a.step (.send i env now)).ballot k) = f (a.ballot k) := by
    obtain ⟨mn, changed, -⟩ := advanced k
    rw [changed, blind]
  have entry (k : ι) (mi : Mi) := field (·.entry mi) (fun _ _ => rfl) k
  refine ⟨fun k => ?_, fun k l other => ?_, fun k message posted => ?_,
    fun k l other message posted => ?_⟩
  · obtain ⟨mn, changed, -⟩ := advanced k
    rw [changed]
    exact { sound.member k with }
  · obtain ⟨peer, found, live, used⟩ := sound.known k l other
    exact ⟨peer, (entry k _).trans found, live, UInt32.lt_of_lt_of_le used (grow l)⟩
  · by_cases same : k = i
    · subst same
      rw [made.last] at posted
      obtain rfl := Option.some.inj posted
      rw [made.pdu]
      refine ⟨rfl, rfl, (sound.member k).mi, (sound.member k).candidate, (sound.member k).entitled, ?_,
        fun id mem l named => ?_⟩
      · rw [made.ballot]
        exact next
      · exact UInt32.lt_of_lt_of_le (sound.mkpdu_listed k mem named) (grow l)
    · rw [(step_send_other same).2] at posted
      exact (sound.posted k message posted).mono grow
  · rw [entry, field Ballot.Settled fun _ _ => rfl]
    intro peer found
    by_cases same : l = i
    · subst same
      rw [made.last] at posted
      obtain rfl := Option.some.inj posted
      obtain ⟨known, listed, -, used⟩ := sound.known k l other
      obtain rfl := Option.some.inj (listed.symm.trans found)
      rw [made.pdu]
      exact .inl used
    · rw [(step_send_other same).2] at posted
      exact sound.heard k l other message posted peer found

/-- A message that has not been heard is taken in; one that has been heard is ignored. -/
theorem Sound.hear_cases (sound : Sound origin a)
    (processed : a.Processed (.hear i j env now)) (posted : a.last j = some sent) :
    ((a.step (.hear i j env now)).ballot i = a.ballot i ∧ (a.ballot i).Settled ∧
        ∀ peer ∈ (a.ballot i).entry (origin j).mi, Tells sent.pdu.basic peer) ∨
      ((a.step (.hear i j env now)).ballot i = ((a.session i).meetPeer now sent.pdu).ballot ∧
        (a.session i).isLive (origin j).mi ∧ sent.pdu.basic.mi ≠ (a.session i).mi) := by
  obtain ⟨other, received⟩ := processed
  have message := sound.posted j sent posted
  have received := received sent posted
  obtain ⟨peer, found, live, -⟩ := sound.known i j other.symm
  obtain ⟨known, listed, rfl⟩ := ballot_entry_mem found
  have foreign : sent.pdu.basic.mi ≠ (a.session i).mi := by
    rw [message.mi, ← findPeer_mi listed, show (a.session i).mi = _ from (sound.member i).mi]
    exact (sound.member i).foreign known.standing (List.mem_map_of_mem (findPeer_mem listed))
  have lookup : (a.session i).findPeer sent.pdu.basic.mi = some known := by rwa [message.mi]
  have result : (a.step (.hear i j env now)).ballot i = _ :=
    congrArg MkaSession.ballot (step_hear_session posted)
  rcases sound.heard i j other.symm sent posted _ found with newer | ⟨told, settled⟩
  · right
    have fresh : ¬sent.pdu.basic.mn ≤ known.mn := UInt32.not_le.mpr newer
    have taken : TakenIn (a.session i) (some sent.frame.received) sent.pdu := by
      refine ⟨⟨_, rfl, received⟩, foreign, ?_, ?_⟩
      · simp [heeds, isStale, message.version, message.algoAgility, lookup, fresh]
      · intro collides
        obtain ⟨id, mem, meets⟩ := List.any_eq_true.mp collides
        rw [Bool.and_eq_true, beq_iff_eq, decide_eq_true_eq] at meets
        have used := message.listed id mem i (meets.1.trans ((sound.member i).mi))
        exact UInt32.not_le.mpr used meets.2
    rw [handleFrame_taken taken] at result
    refine ⟨result, ?_, foreign⟩
    rw [isLive, listed]
    exact live
  · left
    have stale : (a.session i).isStale sent.pdu := by
      have same : known.mn = sent.pdu.basic.mn := told.mn
      simp [isStale, lookup, same]
    rw [handleFrame_stale received foreign stale] at result
    refine ⟨result, settled, fun peer other => ?_⟩
    obtain rfl := Option.some.inj (found.symm.trans other)
    exact told

/-- After a message was handled, the entry of its sender says what the message says, and the election has
been held. -/
theorem Sound.hear_tells (sound : Sound origin a)
    (processed : a.Processed (.hear i j env now)) (posted : a.last j = some sent) :
    ((a.step (.hear i j env now)).ballot i).Settled ∧
      ∃ peer, ((a.step (.hear i j env now)).ballot i).entry (origin j).mi = some peer ∧ peer.live ∧
        Tells sent.pdu.basic peer := by
  have message := sound.posted j sent posted
  rcases sound.hear_cases processed posted with ⟨same, settled, told⟩ | ⟨met, live, -⟩
  · rw [same]
    obtain ⟨peer, found, live, -⟩ := sound.known i j processed.1.symm
    exact ⟨settled, peer, found, live, told peer found⟩
  · rw [met]
    obtain ⟨peer, found, mn, candidate, keyServer, alive⟩ := meetPeer_entry (a.session i) now sent.pdu
    rw [message.mi] at found alive
    exact ⟨meetPeer_settled, peer, found, alive live, mn, candidate, keyServer⟩

theorem Sound.hear_entry_other (sound : Sound origin a) (processed : a.Processed (.hear i j env now))
    {mi : Mi} (apart : mi ≠ (origin j).mi) (found : (a.ballot i).entry mi = some peer) :
    ((a.step (.hear i j env now)).ballot i).entry mi = some peer := by
  rcases posted : a.last j with _ | sent
  · rwa [step_hear_none posted]
  · rcases sound.hear_cases processed posted with ⟨same, -⟩ | ⟨met, -⟩
    · rwa [same]
    · rw [met]
      rw [← (sound.posted j sent posted).mi] at apart
      exact meetPeer_entry_other apart found

/-- The receiver of a message stays a member. -/
theorem Sound.hear_member (sound : Sound origin a) (processed : a.Processed (.hear i j env now)) :
    Member origin i ((a.step (.hear i j env now)).ballot i) ∧
      ((a.step (.hear i j env now)).ballot i).mn = (a.ballot i).mn := by
  have member := sound.member i
  rcases posted : a.last j with _ | sent
  · rw [step_hear_none posted]
    exact ⟨member, rfl⟩
  have message := sound.posted j sent posted
  rcases sound.hear_cases processed posted with ⟨same, -⟩ | ⟨met, -, apart⟩
  · rw [same]
    exact ⟨member, rfl⟩
  · have own : (a.session i).mi = (origin i).mi := member.mi
    obtain ⟨mi, mn, candidate, canBe, entitled⟩ := meetPeer_identity (a.session i) now sent.pdu
    rw [met]
    refine ⟨⟨mi.trans member.mi, candidate.trans member.candidate, canBe.trans member.canBeKeyServer,
      fun server => member.canBeKeyServer.symm.trans (entitled server),
      ballot_unique.mpr (meetPeer_unique (ballot_unique.mp member.unique)), fun peer mem => ?_,
      fun peer mem live => ?_⟩, mn⟩
    · obtain ⟨known, inside, rfl⟩ := mem_standings_iff.mp mem
      have foreign := meetPeer_foreign (fun peer listed => own ▸ member.foreign peer.standing
        (List.mem_map_of_mem listed)) apart known inside
      exact own ▸ foreign
    · obtain ⟨known, inside, rfl⟩ := mem_standings_iff.mp mem
      rcases mem_meetPeer inside with old | rfl | rfl | ⟨id, -, rfl⟩
      · exact member.members known.standing (List.mem_map_of_mem old) live
      · exact ⟨j, processed.1.symm, notedEntry_mi.trans message.mi⟩
      · exact ⟨j, processed.1.symm, senderEntry_mi.trans message.mi⟩
      · cases live

theorem Sound.hear_settled (sound : Sound origin a) (processed : a.Processed (.hear i j env now))
    (settled : (a.ballot i).Settled) : ((a.step (.hear i j env now)).ballot i).Settled := by
  rcases posted : a.last j with _ | sent
  · rwa [step_hear_none posted]
  · exact (sound.hear_tells processed posted).1

theorem Sound.hear (sound : Sound origin a)
    (distinct : ∀ i j, (origin i).mi = (origin j).mi → i = j) (processed : a.Processed (.hear i j env now)) :
    Sound origin (a.step (.hear i j env now)) := by
  obtain ⟨member, mn⟩ := sound.hear_member processed
  have numbers (k : ι) : ((a.step (.hear i j env now)).ballot k).mn = (a.ballot k).mn := by
    by_cases same : k = i
    · rw [same, mn]
    · rw [step_hear_other same]
  refine ⟨fun k => ?_, ?_, ?_, ?_⟩
  · by_cases same : k = i
    · rw [same]
      exact member
    · rw [step_hear_other same]
      exact sound.member k
  · intro k l other
    obtain ⟨peer, found, live, used⟩ := sound.known k l other
    rw [numbers]
    by_cases same : k = i
    · subst same
      rcases posted : a.last j with _ | sent
      · rw [step_hear_none posted]
        exact ⟨peer, found, live, used⟩
      · by_cases sender : l = j
        · subst sender
          obtain ⟨-, entry, present, alive, told⟩ := sound.hear_tells processed posted
          refine ⟨entry, present, alive, ?_⟩
          rw [told.mn]
          exact (sound.posted l sent posted).used
        · have apart : (origin l).mi ≠ (origin j).mi := fun equal => sender (distinct l j equal)
          exact ⟨peer, sound.hear_entry_other processed apart found, live, used⟩
    · rw [step_hear_other same]
      exact ⟨peer, found, live, used⟩
  · intro k message posted
    rw [step_hear_last] at posted
    exact (sound.posted k message posted).mono fun l => by rw [numbers]; exact UInt32.le_refl _
  · intro k l other message posted peer found
    rw [step_hear_last] at posted
    by_cases same : k = i
    · subst same
      by_cases sender : l = j
      · subst sender
        obtain ⟨settled, entry, present, -, told⟩ := sound.hear_tells processed posted
        obtain rfl := Option.some.inj (present.symm.trans found)
        exact .inr ⟨told, settled⟩
      · have apart : (origin l).mi ≠ (origin j).mi := fun equal => sender (distinct l j equal)
        obtain ⟨known, listed, -⟩ := sound.known k l other
        have kept := sound.hear_entry_other processed apart listed
        obtain rfl := Option.some.inj (kept.symm.trans found)
        rcases sound.heard k l other message posted known listed with newer | ⟨told, settled⟩
        · exact .inl newer
        · exact .inr ⟨told, sound.hear_settled processed settled⟩
    · rw [step_hear_other same] at found ⊢
      exact sound.heard k l other message posted peer found

variable {move : Move ι}

theorem Sound.step (sound : Sound origin a)
    (distinct : ∀ i j, (origin i).mi = (origin j).mi → i = j) (processed : a.Processed move) :
    Sound origin (a.step move) := by
  cases move with
  | send i env now => exact sound.send processed
  | hear i j env now => exact sound.hear distinct processed

/-- An entry changes only when a message of its owner is handled. -/
theorem Sound.entry_step (sound : Sound origin a)
    (distinct : ∀ i j, (origin i).mi = (origin j).mi → i = j) (processed : a.Processed move)
    (other : j ≠ i) (found : ((a.step move).ballot i).entry (origin j).mi = some peer) :
    (a.ballot i).entry (origin j).mi = some peer ∨
      ∃ sent, a.last j = some sent ∧ Tells sent.pdu.basic peer := by
  cases move with
  | send k env now =>
    left
    by_cases same : i = k
    · subst same
      obtain ⟨sent, made⟩ := step_send processed
      rw [made.ballot] at found
      exact found
    · rwa [(step_send_other same).1] at found
  | hear k l env now =>
    by_cases same : i = k
    · subst same
      rcases posted : a.last l with _ | sent
      · rw [step_hear_none posted] at found
        exact .inl found
      by_cases sender : j = l
      · subst sender
        obtain ⟨-, entry, present, -, told⟩ := sound.hear_tells processed posted
        obtain rfl := Option.some.inj (present.symm.trans found)
        exact .inr ⟨sent, posted, told⟩
      · have apart : (origin j).mi ≠ (origin l).mi := fun equal => sender (distinct j l equal)
        obtain ⟨known, listed, -⟩ := sound.known i j other
        obtain rfl := Option.some.inj ((sound.hear_entry_other processed apart listed).symm.trans found)
        exact .inl listed
    · rw [step_hear_other same] at found
      exact .inl found

theorem Sound.settled_step (sound : Sound origin a) (processed : a.Processed move)
    (settled : (a.ballot i).Settled) : ((a.step move).ballot i).Settled := by
  cases move with
  | send k env now =>
    by_cases same : i = k
    · subst same
      obtain ⟨sent, made⟩ := step_send processed
      rw [made.ballot]
      exact settled
    · rwa [(step_send_other same).1]
  | hear k l env now =>
    by_cases same : i = k
    · subst same
      exact sound.hear_settled processed settled
    · rwa [step_hear_other same]

theorem last_step (processed : a.Processed move) :
    (a.step move).last j = a.last j ∨
      ∃ sent, (a.step move).last j = some sent ∧ sent.pdu = (a.session j).mkpdu := by
  cases move with
  | send k env now =>
    by_cases same : j = k
    · subst same
      obtain ⟨sent, made⟩ := step_send processed
      exact .inr ⟨sent, made.last, made.pdu⟩
    · exact .inl (step_send_other same).2
  | hear k l env now => exact .inl (congrFun step_hear_last j)

/-- The rule of a round: what `j` brings about by sending, and then `i` by handling what `j` sent. -/
theorem Round.brings {I Q P : Assembly ι → Prop} {moves : List (Move ι)} (round : Round moves)
    (other : i ≠ j) (keep : ∀ a move, I a → a.Processed move → I (a.step move))
    (keepQ : ∀ a move, I a → a.Processed move → Q a → Q (a.step move))
    (send : ∀ a env now, I a → a.Processed (.send j env now) → Q (a.step (.send j env now)))
    (keepP : ∀ a move, I a → Q a → a.Processed move → P a → P (a.step move))
    (hear : ∀ a env now, I a → Q a → a.Processed (.hear i j env now) → P (a.step (.hear i j env now)))
    (start : I a) (admitted : Admitted step Processed a moves) : P (runInputs step a moves) := by
  obtain ⟨before, middle, later, env, now, env', now', rfl⟩ := round i j other
  obtain ⟨early, sent, rest⟩ := Admitted.append.mp admitted
  have reached := run_invariant keep start early
  rw [runInputs_append]
  refine run_establishes (I := fun a => I a ∧ Q a) ?_ ?_ ?_
    ⟨keep _ _ reached sent, send _ env now reached sent⟩ rest
  · exact fun a move both processed => ⟨keep a move both.1 processed, keepQ a move both.1 processed both.2⟩
  · exact fun a move both processed holds => keepP a move both.1 both.2 processed holds
  · exact fun a both processed => hear a env' now' both.1 both.2 processed

/-- `i` knows who `j` is and whether it may be key server. -/
def Honest (origin : ι → MkaSession) (i j : ι) (a : Assembly ι) : Prop :=
  ∀ peer ∈ (a.ballot i).entry (origin j).mi, peer.candidate = (origin j).candidate ∧
    (peer.keyServer → (origin j).canBeKeyServer)

/-- Everyone knows everyone and has held an election. -/
structure Acquainted (origin : ι → MkaSession) (a : Assembly ι) : Prop where
  sound : Sound origin a
  honest : ∀ i j, j ≠ i → Honest origin i j a
  settled : ∀ i, (a.ballot i).Settled

omit [MkaCrypto] [DecidableEq ι] in
theorem Sound.tells_honest (sound : Sound origin a)
    (posted : a.last j = some sent) (told : Tells sent.pdu.basic peer) :
    peer.candidate = (origin j).candidate ∧ (peer.keyServer → (origin j).canBeKeyServer) := by
  have message := sound.posted j sent posted
  refine ⟨told.candidate.trans message.candidate, fun claims => message.entitled ?_⟩
  rwa [← told.keyServer]

theorem Sound.honest_step (sound : Sound origin a)
    (distinct : ∀ i j, (origin i).mi = (origin j).mi → i = j) (processed : a.Processed move)
    (other : j ≠ i) (honest : Honest origin i j a) : Honest origin i j (a.step move) := by
  intro peer found
  rcases sound.entry_step distinct processed other found with before | ⟨sent, posted, told⟩
  · exact honest peer before
  · exact sound.tells_honest posted told

theorem Acquainted.step (acquainted : Acquainted origin a)
    (distinct : ∀ i j, (origin i).mi = (origin j).mi → i = j) (processed : a.Processed move) :
    Acquainted origin (a.step move) where
  sound := acquainted.sound.step distinct processed
  honest i j other := acquainted.sound.honest_step distinct processed other (acquainted.honest i j other)
  settled i := acquainted.sound.settled_step processed (acquainted.settled i)

/-- The first round. -/
theorem Sound.acquainted [Nontrivial ι] {moves : List (Move ι)} (sound : Sound origin a)
    (distinct : ∀ i j, (origin i).mi = (origin j).mi → i = j) (round : Round moves)
    (admitted : Admitted Assembly.step Processed a moves) :
    Acquainted origin (runInputs Assembly.step a moves) := by
  have keep (a : Assembly ι) (move : Move ι) (sound : Sound origin a) (processed : a.Processed move) :=
    sound.step distinct processed
  have pair (i j : ι) (other : j ≠ i) : Honest origin i j (runInputs Assembly.step a moves) ∧
      ((runInputs Assembly.step a moves).ballot i).Settled := by
    refine Round.brings (Q := fun a => a.last j ≠ none)
      (P := fun a => Honest origin i j a ∧ (a.ballot i).Settled) round other.symm keep ?_ ?_ ?_ ?_ sound
      admitted
    · intro a move _ processed posted
      rcases last_step (j := j) processed with same | ⟨sent, present, -⟩
      · rwa [same]
      · rw [present]
        exact Option.some_ne_none sent
    · intro a env now _ processed
      obtain ⟨sent, made⟩ := step_send processed
      rw [made.last]
      exact Option.some_ne_none sent
    · intro a move sound _ processed ⟨honest, settled⟩
      exact ⟨sound.honest_step distinct processed other honest, sound.settled_step processed settled⟩
    · intro a env now sound posted processed
      obtain ⟨sent, posted⟩ := Option.ne_none_iff_exists'.mp posted
      obtain ⟨settled, entry, present, -, told⟩ := sound.hear_tells processed posted
      refine ⟨fun peer found => ?_, settled⟩
      obtain rfl := Option.some.inj (present.symm.trans found)
      exact sound.tells_honest posted told
  refine ⟨run_invariant keep sound admitted, fun i j other => (pair i j other).1, fun i => ?_⟩
  obtain ⟨j, other⟩ := exists_ne i
  exact (pair i j other).2

omit [MkaCrypto] [DecidableEq ι] in
theorem Acquainted.claimant (acquainted : Acquainted origin a) (mem : peer ∈ (a.ballot i).claimants) :
    ∃ j, j ≠ i ∧ peer.candidate = (origin j).candidate ∧ (origin j).canBeKeyServer := by
  obtain ⟨inside, live, claims⟩ := Ballot.mem_claimants.mp mem
  obtain ⟨j, other, named⟩ := (acquainted.sound.member i).members peer inside live
  have found := ((acquainted.sound.member i).unique).entry_iff.mpr ⟨inside, named⟩
  obtain ⟨candidate, may⟩ := acquainted.honest i j other peer found
  exact ⟨j, other, candidate, may claims⟩

structure Least (origin : ι → MkaSession) (m : ι) : Prop where
  may : (origin m).canBeKeyServer
  least : ∀ k, (origin k).canBeKeyServer → k ≠ m → (origin m).candidate.precedes (origin k).candidate

omit [MkaCrypto] [DecidableEq ι] in
theorem Least.rank_le {m : ι} (least : Least origin m) (may : (origin k).canBeKeyServer) :
    (origin m).candidate.rank ≤ (origin k).candidate.rank := by
  by_cases same : k = m
  · rw [same]
  · exact Nat.le_of_lt (Candidate.precedes_iff.mp (least.least k may same))

omit [MkaCrypto] [DecidableEq ι] in
theorem exists_least [Finite ι] (distinct : ∀ i j, (origin i).actorSci = (origin j).actorSci → i = j)
    (may : ∃ i, (origin i).canBeKeyServer) : ∃ m, Least origin m := by
  have := Fintype.ofFinite ι
  obtain ⟨i, may⟩ := may
  obtain ⟨m, mem, least⟩ := Finset.exists_min_image
    (Finset.univ.filter fun i => (origin i).canBeKeyServer) (fun i => (origin i).candidate.rank)
    ⟨i, Finset.mem_filter.mpr ⟨Finset.mem_univ i, may⟩⟩
  refine ⟨m, (Finset.mem_filter.mp mem).2, fun k may other => Candidate.precedes_iff.mpr ?_⟩
  rcases Nat.lt_or_eq_of_le (least k (Finset.mem_filter.mpr ⟨Finset.mem_univ k, may⟩)) with less | same
  · exact less
  · exact absurd (distinct k m (congrArg Prod.snd (Candidate.rank_injective same)).symm) other

section Least

variable {m : ι} (acquainted : Acquainted origin a) (least : Least origin m)

include acquainted least

omit [MkaCrypto] [DecidableEq ι] in
theorem Acquainted.serves : (a.ballot m).isKeyServer := by
  have own : (a.ballot m).best = some ((a.ballot m).candidate, true) := by
    have may : (a.ballot m).canBeKeyServer := ((acquainted.sound.member m).canBeKeyServer).trans least.may
    rw [Ballot.best, if_pos may]
    apply foldl_betterCandidate_stays
    intro peer mem
    obtain ⟨j, -, candidate, may⟩ := acquainted.claimant mem
    rw [(acquainted.sound.member m).candidate, candidate]
    exact least.rank_le may
  exact ((acquainted.settled m).of_best own).1

omit [MkaCrypto] [DecidableEq ι] in
/-- The others elect it once they know that it claims to be key server. -/
theorem Acquainted.follows (other : j ≠ m) (crowned : ∀ peer ∈ (a.ballot j).entry (origin m).mi, peer.keyServer) :
    (a.ballot j).isKeyServer = false ∧ (a.ballot j).keyServerSci = (origin m).actorSci := by
  have best : (a.ballot j).best = some ((origin m).candidate, false) := by
    apply foldl_betterCandidate_wins
    · obtain ⟨peer, found, live, -⟩ := acquainted.sound.known j m other.symm
      have inside := (((acquainted.sound.member j).unique).entry_iff.mp found).1
      exact ⟨peer, Ballot.mem_claimants.mpr ⟨inside, live, crowned peer found⟩,
        (acquainted.honest j m other.symm peer found).1⟩
    · intro peer mem
      obtain ⟨k, -, candidate, may⟩ := acquainted.claimant mem
      rw [candidate]
      exact least.rank_le may
    · intro current stands
      rw [(acquainted.sound.member j).canBeKeyServer, (acquainted.sound.member j).candidate] at stands
      split at stands
      · rename_i may
        obtain rfl := Option.some.inj stands
        exact Candidate.precedes_iff.mp (least.least j may other)
      · cases stands
  exact (acquainted.settled j).of_best best

/-- The second round, and whatever follows. -/
theorem Acquainted.crowned {second later : List (Move ι)} (distinct : ∀ i j, (origin i).mi = (origin j).mi → i = j)
    (round : Round second) (other : j ≠ m) (admitted : Admitted Assembly.step Processed a (second ++ later)) :
    ∀ peer ∈ ((runInputs Assembly.step a (second ++ later)).ballot j).entry (origin m).mi, peer.keyServer := by
  have whole : Round (second ++ later) := by
    intro i j apart
    obtain ⟨before, middle, rest, env, now, env', now', rfl⟩ := round i j apart
    exact ⟨before, middle, rest ++ later, env, now, env', now', by simp⟩
  refine Round.brings (I := Acquainted origin)
    (Q := fun a => ∃ sent, a.last m = some sent ∧ sent.pdu.basic.keyServer)
    (P := fun a => ∀ peer ∈ (a.ballot j).entry (origin m).mi, peer.keyServer) whole other ?_ ?_ ?_ ?_ ?_
    acquainted admitted
  · exact fun a move acquainted processed => acquainted.step distinct processed
  · intro a move acquainted processed ⟨sent, posted, claims⟩
    rcases last_step (j := m) processed with same | ⟨sent, present, pdu⟩
    · exact ⟨sent, same.trans posted, claims⟩
    · refine ⟨sent, present, ?_⟩
      rw [pdu]
      exact acquainted.serves least
  · intro a env now acquainted processed
    obtain ⟨sent, made⟩ := step_send processed
    refine ⟨sent, made.last, ?_⟩
    rw [made.pdu]
    exact acquainted.serves least
  · intro a move acquainted ⟨sent, posted, claims⟩ processed crowned peer found
    rcases acquainted.sound.entry_step distinct processed other.symm found with before | ⟨heard, last, told⟩
    · exact crowned peer before
    · obtain rfl := Option.some.inj (posted.symm.trans last)
      exact told.keyServer.trans claims
  · intro a env now acquainted ⟨sent, posted, claims⟩ processed peer found
    obtain ⟨-, entry, present, -, told⟩ := acquainted.sound.hear_tells processed posted
    obtain rfl := Option.some.inj (present.symm.trans found)
    exact told.keyServer.trans claims

end Least

/-- In a group of two or more participants that are live to each other, two rounds make the least candidate
of those that may be key server the only key server, and all others follow it, also after everything that
is sent and handled later; if none may be key server, there is none. -/
theorem election_converges [Finite ι] [Nontrivial ι] {origin : ι → MkaSession} (live : MutuallyLive origin)
    {first second later : List (Move ι)} (one : Round first) (two : Round second)
    (processed : Admitted step Processed ⟨origin, fun _ => none⟩ (first ++ (second ++ later))) :
    let reached := runInputs step ⟨origin, fun _ => none⟩ (first ++ (second ++ later))
    (∃ m, Least origin m ∧ (reached.session m).isKeyServer ∧
      ∀ j, j ≠ m → (reached.session j).isKeyServer = false ∧
        (reached.session j).keyServerSci = (origin m).actorSci) ∨
    (∀ i, (origin i).canBeKeyServer = false) ∧ ∀ i, (reached.session i).isKeyServer = false := by
  intro reached
  obtain ⟨early, late⟩ := Admitted.append.mp processed
  have acquainted := (sound_start live).acquainted live.distinctMis one early
  have settled : Acquainted origin reached := by
    rw [show reached = _ from runInputs_append ..]
    exact run_invariant (fun a move acquainted processed => acquainted.step live.distinctMis processed)
      acquainted late
  by_cases may : ∃ i, (origin i).canBeKeyServer
  · left
    obtain ⟨m, least⟩ := exists_least live.distinctScis may
    refine ⟨m, least, settled.serves least, fun j other => settled.follows least other ?_⟩
    rw [show reached = _ from runInputs_append ..]
    exact acquainted.crowned least live.distinctMis two other late
  · right
    have nobody (i : ι) : (origin i).canBeKeyServer = false :=
      Bool.eq_false_iff.mpr fun able => may ⟨i, able⟩
    refine ⟨nobody, fun i => Bool.eq_false_iff.mpr fun server => ?_⟩
    exact may ⟨i, (settled.sound.member i).entitled server⟩

end Assembly

section Sample

attribute [local instance] sampleMkaCrypto

def sampleEntry (number : UInt8) : Peer :=
  { newPeer 0 (sampleParticipant none number).mkpdu.basic with mn := 0, live := true }

def sampleRivals (i : Fin 2) : MkaSession :=
  if i = 0 then
    { sampleParticipant (some 5) 1 with peers := [sampleEntry 2], isKeyServer := true }
  else { sampleParticipant (some 2) 2 with peers := [sampleEntry 1], isKeyServer := false }

theorem sampleRivals_live : MutuallyLive sampleRivals where
  distinctMis := by decide +kernel
  distinctScis := by decide +kernel
  entitled := by decide +kernel
  unique := by decide +kernel
  foreign := by decide +kernel
  members := by decide +kernel
  known i j other := by
    have found : ∀ i j : Fin 2, j ≠ i →
        (sampleRivals i).findPeer (sampleRivals j).mi = some (sampleEntry (UInt8.ofNat (j.val + 1))) ∧
          (sampleEntry (UInt8.ofNat (j.val + 1))).live ∧
          (sampleEntry (UInt8.ofNat (j.val + 1))).mn < (sampleRivals j).mn := by decide +kernel
    exact ⟨_, found i j other⟩

def rivalsRound : List (Move (Fin 2)) :=
  [.send 0 sampleOutside 1, .send 1 sampleOutside 1] ++
    [.hear 0 1 sampleOutside 2, .hear 1 0 sampleOutside 2]

theorem rivalsRound_round : Round rivalsRound := by
  refine round_of_phases (fun j => ⟨sampleOutside, 1, ?_⟩) fun i j other => ⟨sampleOutside, 2, ?_⟩
  · match j with
    | 0 => simp
    | 1 => simp
  · match i, j, other with
    | 0, 1, _ => simp
    | 1, 0, _ => simp
    | 0, 0, other => exact absurd rfl other
    | 1, 1, other => exact absurd rfl other

theorem election_converges_rivals :
    let reached := runInputs Assembly.step ⟨sampleRivals, fun _ => none⟩ (rivalsRound ++ (rivalsRound ++ []))
    (∃ m, Assembly.Least sampleRivals m ∧ (reached.session m).isKeyServer ∧
      ∀ j, j ≠ m → (reached.session j).isKeyServer = false ∧
        (reached.session j).keyServerSci = (sampleRivals m).actorSci) ∨
    (∀ i, (sampleRivals i).canBeKeyServer = false) ∧ ∀ i, (reached.session i).isKeyServer = false := by
  have processed : Admitted Assembly.step Assembly.Processed ⟨sampleRivals, fun _ => none⟩
      (rivalsRound ++ (rivalsRound ++ [])) := by decide +kernel
  exact Assembly.election_converges sampleRivals_live rivalsRound_round rivalsRound_round processed

def sampleLone (_ : Fin 1) : MkaSession := { sampleParticipant (some 5) 1 with isKeyServer := false }

/-- A participant that hears nobody holds no election: it does not become key server. -/
theorem election_skips_lone :
    MutuallyLive sampleLone ∧ Round [Move.send (0 : Fin 1) sampleOutside 1] ∧
      Admitted Assembly.step Assembly.Processed ⟨sampleLone, fun _ => none⟩
        ([.send 0 sampleOutside 1] ++ [.send 0 sampleOutside 1]) ∧
      (sampleLone 0).canBeKeyServer ∧
      ((runInputs Assembly.step ⟨sampleLone, fun _ => none⟩
        ([.send 0 sampleOutside 1] ++ [.send 0 sampleOutside 1])).session 0).isKeyServer = false := by
  refine ⟨⟨by decide +kernel, by decide +kernel, by decide +kernel, by decide +kernel, by decide +kernel,
    by decide +kernel, fun i j other => absurd (Subsingleton.elim j i) other⟩,
    fun i j other => absurd (Subsingleton.elim i j) other, by decide +kernel, by decide +kernel,
    by decide +kernel⟩

end Sample

end Shuli.Wired
