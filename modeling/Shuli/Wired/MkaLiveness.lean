import Shuli.Wired.MkaLog
import Shuli.Wired.SakAgreement

/-!
Freshness of liveness. A peer entry turns live only on an MKPDU that lists one of the last two messages
of the participant, so on one that was built after the participant had sent its second-to-last message.
While an entry is retained, the message numbers that are taken in from its MI increase.
-/

namespace Shuli.Wired

open Fallible

namespace MkaSession

variable {now : Instant} {env : MkaEnv} {s : MkaSession}

def HasLive (s : MkaSession) (mi : Mi) : Prop := ∃ peer ∈ s.peers, peer.mi = mi ∧ peer.live

instance (mi : Mi) : Decidable (s.HasLive mi) := inferInstanceAs (Decidable (∃ _ ∈ _, _))

theorem hasLive_iff {mi : Mi} : s.HasLive mi ↔ ∃ peer ∈ s.standings, peer.mi = mi ∧ peer.live := by
  simp [HasLive, standings, Peer.standing]

def KnowsAs (s : MkaSession) (mi : Mi) (mn : UInt32) : Prop :=
  ∀ peer ∈ s.standings, peer.mi = mi → peer.mn = mn

theorem unique_iff : s.Unique ↔ (s.standings.map (·.mi)).Nodup := by
  simp [Unique, standings, Function.comp_def, Peer.standing]

theorem expirePeers_peers : (s.expirePeers now).peers = s.peers.filter (isFresh now) := by
  unfold expirePeers
  simp only
  split
  · rename_i same
    exact (List.filter_sublist.eq_of_length same).symm
  · rfl

theorem expirePeers_standings :
    (s.expirePeers now).standings = s.standings.filter (isFresh now) := by
  rw [standings, expirePeers_peers, standings, List.filter_map]
  rfl

variable {peer : Peer}

theorem findPeer_standing {mi : Mi} (found : s.findPeer mi = some peer) :
    peer.standing ∈ s.standings ∧ peer.standing.mi = mi := by
  have named := findPeer_mi found
  exact ⟨List.mem_map_of_mem (findPeer_mem found), named⟩

theorem hasLive_of_isLive {mi : Mi} (alive : s.isLive mi) : s.HasLive mi := by
  rcases found : s.findPeer mi with _ | peer
  · rw [isLive, found] at alive
    cases alive
  · rw [isLive, found] at alive
    have named := findPeer_mi found
    exact ⟨peer, findPeer_mem found, named, alive⟩

variable {pdu : MkaPdu}

theorem meetPeer_hasLive {mi : Mi} (live : (s.meetPeer now pdu).HasLive mi) :
    s.HasLive mi ∨ pdu.basic.mi = mi ∧ s.knowsUs pdu := by
  obtain ⟨peer, mem, rfl, alive⟩ := live
  rcases mem_meetPeer mem with old | rfl | rfl | ⟨id, -, rfl⟩
  · exact .inl ⟨peer, old, rfl, alive⟩
  · rw [notedEntry_live] at alive
    rw [notedEntry_mi]
    exact .inl (hasLive_of_isLive alive)
  · rw [senderEntry_mi]
    rcases Bool.or_eq_true_iff.mp (show (s.isLive pdu.basic.mi || s.knowsUs pdu) = true from alive) with
      before | knows
    · exact .inl (hasLive_of_isLive before)
    · exact .inr ⟨rfl, knows⟩
  · cases alive

theorem meetPeer_knowsAs (unique : s.Unique) :
    (s.meetPeer now pdu).KnowsAs pdu.basic.mi pdu.basic.mn := by
  intro entry mem named
  obtain ⟨peer, inside, rfl⟩ := mem_standings mem
  have found := (meetPeer_unique unique).findPeer_iff.mpr ⟨inside, named⟩
  have same := Option.some.inj (found.symm.trans meetPeer_findPeer)
  rw [same]
  exact senderEntry_mn

theorem meetPeer_knowsAs_other {mi : Mi} (unique : s.Unique)
    (other : mi ≠ pdu.basic.mi) (found : s.findPeer mi = some peer) :
    (s.meetPeer now pdu).KnowsAs mi peer.mn := by
  intro entry mem named
  obtain ⟨peer', inside, rfl⟩ := mem_standings mem
  have after := (meetPeer_unique unique).findPeer_iff.mpr ⟨inside, named⟩
  have same := Option.some.inj (after.symm.trans (meetPeer_findPeer_other other found))
  rw [same]
  rfl

theorem knowsAs_of_findPeer {mi : Mi} (unique : s.Unique)
    (found : s.findPeer mi = some peer) : s.KnowsAs mi peer.mn := by
  intro entry mem named
  obtain ⟨peer', inside, rfl⟩ := mem_standings mem
  have same := Option.some.inj ((unique.findPeer_iff.mpr ⟨inside, named⟩).symm.trans found)
  rw [same]
  rfl

end MkaSession

section Acts

open MkaSession

variable [MkaCrypto] {env : MkaEnv} {now : Instant} {origin s t : MkaSession}
  {frame : Option EapolFrame}

/-- The acts only ever take entries out of the peer list. -/
theorem Act.standings (act : Act env now origin frame s t) : t.standings.Sublist s.standings := by
  cases act with
  | expire =>
    rw [expirePeers_standings]
    exact List.filter_sublist
  | forget => rw [forgetSak_standings]
  | report => rw [noteReport_standings]
  | generate => rw [generated_standings]
  | remark f => rw [remarked_standings]
  | serve => exact .refl _
  | serveFailed => exact .refl _
  | stop => exact .refl _
  | follow => exact .refl _
  | adopt => exact .refl _
  | create => exact .refl _
  | removeRxScs => exact .refl _
  | clear => exact .refl _
  | count => exact .refl _
  | installPending => exact .refl _
  | ask => exact .refl _

theorem Half.standings (half : Half env now origin frame t) :
    t.standings.Sublist (origin.opening env now frame).standings := by
  apply half.invariant (I := fun t => t.standings.Sublist (origin.opening env now frame).standings)
  · exact fun s t act kept => act.standings.trans kept
  · exact fun s payload kept => kept
  · exact .refl _

theorem opening_unique (unique : origin.Unique) : (origin.opening env now frame).Unique :=
  opening_cases unique (fun _ _ _ _ _ => List.nodup_nil) fun _ _ => meetPeer_unique unique

theorem Half.unique (half : Half env now origin frame t) (unique : origin.Unique) : t.Unique := by
  have opened : (origin.opening env now frame).Unique := opening_unique unique
  rw [unique_iff] at opened ⊢
  exact opened.sublist (half.standings.map _)

/-- A half lets an entry turn live only on a message that is taken in and lists us. -/
theorem Half.hasLive {mi : Mi} (half : Half env now origin frame t) (live : t.HasLive mi) :
    origin.HasLive mi ∨ ∃ pdu, TakenIn origin frame pdu ∧ pdu.basic.mi = mi ∧ origin.knowsUs pdu := by
  have opened : (origin.opening env now frame).HasLive mi := by
    rw [hasLive_iff] at live ⊢
    obtain ⟨peer, mem, rest⟩ := live
    exact ⟨peer, half.standings.mem mem, rest⟩
  revert opened
  apply opening_cases (P := fun s => s.HasLive mi → origin.HasLive mi ∨ ∃ pdu,
    TakenIn origin frame pdu ∧ pdu.basic.mi = mi ∧ origin.knowsUs pdu)
  · exact .inl
  · rintro f pdu handed received collision ⟨peer, mem, -⟩
    cases mem
  · intro pdu taken opened
    rcases meetPeer_hasLive opened with before | ⟨named, knows⟩
    · exact .inl before
    · exact .inr ⟨pdu, taken, named, knows⟩

end Acts

namespace MkaGroup

variable {ι : Type} [DecidableEq ι] [MkaCrypto] {group : MkaGroup ι} {i : ι} {mi : Mi}

/-- The place lies behind all transmissions of `i` but its last one, and behind at least one. -/
def AfterSecondToLast (log : List (ι × Transmission)) (i : ι) (n : Nat) : Prop :=
  0 < sends i (log.take n) ∧ sends i log ≤ sends i (log.take n) + 1

/-- The MKPDU that `i` takes in when it is handed what stands at a place of the log. -/
def takenIn (group : MkaGroup ι) (i : ι) (place : Option Nat) : Option MkaPdu :=
  (group.heard i place).filter fun pdu => pdu.basic.mi ≠ (group.session i).mi ∧
    (group.session i).heeds pdu ∧ ¬(group.session i).collides pdu

/-- The message numbers that `i` takes in from the member `mi` in one step. -/
def acceptedStep (group : MkaGroup ι) (i : ι) (mi : Mi) : GroupInput ι → List UInt32
  | .finish j _ place =>
    if j = i ∧ group.waiting i then
      ((group.takenIn i place).filter (·.basic.mi = mi)).toList.map (·.basic.mn)
    else []
  | _ => []

/-- The message numbers that `i` takes in from the member `mi` along a run. -/
def accepted (i : ι) (mi : Mi) : MkaGroup ι → List (GroupInput ι) → List UInt32
  | _, [] => []
  | group, input :: inputs => group.acceptedStep i mi input ++ accepted i mi (group.step input) inputs

/-- `i` keeps an entry of the member `mi` in every state of a run. -/
def Retains (i : ι) (mi : Mi) : MkaGroup ι → List (GroupInput ι) → Prop
  | group, [] => ((group.session i).findPeer mi).isSome
  | group, input :: inputs =>
    ((group.session i).findPeer mi).isSome ∧ Retains i mi (group.step input) inputs

omit [DecidableEq ι] in
theorem takenIn_iff {place : Option Nat} :
    group.takenIn i place = some pdu ↔ TakenIn (group.session i) (group.frameAt place) pdu := by
  rw [takenIn, heard, Option.filter_eq_some_iff, Option.bind_eq_some_iff, decide_eq_true_iff]
  constructor
  · rintro ⟨received, foreign, heeded, distinct⟩
    exact ⟨received, foreign, heeded, distinct⟩
  · rintro ⟨received, foreign, heeded, distinct⟩
    exact ⟨received, foreign, heeded, distinct⟩

/-- What a step does to one participant. -/
inductive StepOf (group : MkaGroup ι) (i : ι) : GroupInput ι → MkaSession → Prop
  | idle {input : GroupInput ι} (none : ∀ mi, group.acceptedStep i mi input = []) :
      StepOf group i input (group.session i)
  | begin {env : MkaEnv} {t : MkaSession} (half : Half env group.now (group.session i) none t) :
      StepOf group i (.begin i env) t
  | finish {env : MkaEnv} {place : Option Nat} {t : MkaSession} (waits : group.waiting i)
      (half : Half env group.now (group.session i) (group.frameAt place) t) :
      StepOf group i (.finish i env place) t

theorem stepOf (group : MkaGroup ι) (i : ι) (input : GroupInput ι) :
    StepOf group i input ((group.step input).session i) := by
  cases input with
  | advance elapsed => exact .idle fun _ => rfl
  | begin j env =>
    by_cases own : j = i
    · subst own
      rw [step, act_session_self]
      exact .begin beginRun_half
    · rw [step, act_session_other (Ne.symm own)]
      exact .idle fun _ => rfl
  | finish j env place =>
    by_cases own : j = i
    · subst own
      by_cases waits : group.waiting j
      · rw [step, if_pos waits, act_session_self]
        exact .finish waits finishRun_half
      · rw [step, if_neg waits]
        exact .idle fun mi => if_neg fun both => waits both.2
    · have none (mi : Mi) : group.acceptedStep i mi (.finish j env place) = [] :=
        if_neg fun both => own both.1
      rw [step]
      split
      · rw [act_session_other (Ne.symm own)]
        exact .idle none
      · exact .idle none

theorem step_unique {input : GroupInput ι} (unique : (group.session i).Unique) :
    ((group.step input).session i).Unique := by
  have result := stepOf group i input
  generalize (group.step input).session i = t at result
  cases result with
  | idle => exact unique
  | begin half => exact half.unique unique
  | finish _ half => exact half.unique unique

/-- As long as an entry is retained, a step takes in one message from its MI, with a greater number than
the entry has, or none. -/
theorem step_accepted {input : GroupInput ι} {peer next : Peer} (unique : (group.session i).Unique)
    (found : (group.session i).findPeer mi = some peer)
    (kept : ((group.step input).session i).findPeer mi = some next) :
    group.acceptedStep i mi input = [] ∧ next.mn = peer.mn ∨
      ∃ mn, group.acceptedStep i mi input = [mn] ∧ peer.mn < mn ∧ next.mn = mn := by
  have before := MkaSession.knowsAs_of_findPeer unique found
  obtain ⟨mem, named⟩ := MkaSession.findPeer_standing kept
  have result := stepOf group i input
  generalize (group.step input).session i = t at mem result
  cases result with
  | idle none => exact .inl ⟨none mi, before next.standing mem named⟩
  | begin half => exact .inl ⟨rfl, before next.standing (half.standings.mem mem) named⟩
  | @finish env place _ waits half =>
    have opened := half.standings.mem mem
    have list : group.acceptedStep i mi (.finish i env place) =
        ((group.takenIn i place).filter (·.basic.mi = mi)).toList.map (·.basic.mn) :=
      if_pos ⟨rfl, waits⟩
    rw [list]
    rcases taken : group.takenIn i place with _ | pdu
    · refine .inl ⟨rfl, ?_⟩
      revert opened
      apply opening_cases (P := fun s => next.standing ∈ s.standings → next.mn = peer.mn)
      · exact fun mem => before next.standing mem named
      · exact fun _ _ _ _ _ mem => nomatch mem
      · intro pdu heard
        rw [takenIn_iff.mpr heard] at taken
        cases taken
    · have heard := takenIn_iff.mp taken
      rw [opening_of_taken heard] at opened
      by_cases same : pdu.basic.mi = mi
      · subst same
        refine .inr ⟨pdu.basic.mn, by simp, ?_,
          MkaSession.meetPeer_knowsAs unique next.standing opened named⟩
        have heeded := heard.heeded
        simp only [MkaSession.heeds, MkaSession.isStale, found, Option.any_some, Bool.and_eq_true,
          Bool.not_eq_true', decide_eq_false_iff_not] at heeded
        exact UInt32.not_le.mp heeded.2
      · refine .inl ⟨by simp [same], ?_⟩
        exact MkaSession.meetPeer_knowsAs_other unique (Ne.symm same) found next.standing opened named

/-- The run lemma: the numbers taken in increase from the one that the entry has. -/
theorem accepted_increasing {inputs : List (GroupInput ι)} (unique : (group.session i).Unique)
    (found : (group.session i).findPeer mi = some peer) (retained : Retains i mi group inputs) :
    (peer.mn :: accepted i mi group inputs).Pairwise (· < ·) := by
  induction inputs generalizing group peer with
  | nil => exact List.pairwise_singleton _ _
  | cons input inputs ih =>
    have kept : (((group.step input).session i).findPeer mi).isSome := by
      cases inputs with
      | nil => exact retained.2
      | cons => exact retained.2.1
    obtain ⟨next, there⟩ := Option.isSome_iff_exists.mp kept
    have later := ih (step_unique unique) there retained.2
    rcases step_accepted unique found there with ⟨none, same⟩ | ⟨mn, one, greater, same⟩
    · rw [accepted, none, ← same]
      exact later
    · rw [accepted, one, ← same]
      rw [← same] at greater
      refine List.pairwise_cons.mpr ⟨fun number inside => ?_, later⟩
      rcases List.mem_cons.mp inside with rfl | tail
      · exact greater
      · exact UInt32.lt_trans greater ((List.pairwise_cons.mp later).1 number tail)

/-- A step does not send the last message number. -/
def NoWrap (group : MkaGroup ι) (input : GroupInput ι) : Prop := (group.step input).Unwrapped

instance (input : GroupInput ι) : Decidable (group.NoWrap input) :=
  inferInstanceAs (Decidable (Unwrapped _))

/-- Liveness is fresh: after every run an entry turns live only on an MKPDU that the participant of
its MI sent after `i` had sent its second-to-last one. From then on the message numbers that are taken in
for a retained entry increase. -/
theorem liveness_fresh {cak ckn : Octets} {inputs : List (GroupInput ι)}
    (enrolled : group.Enrolled cak ckn) (counting : Admitted step NoWrap group inputs) :
    let reached := runInputs step group inputs
    (∀ i mi input, ¬(reached.session i).HasLive mi → ((reached.step input).session i).HasLive mi →
      ∃ env n j sent, input = .finish i env (some n) ∧ reached.log[n]? = some (j, sent) ∧ j ≠ i ∧
        (reached.session j).mi = mi ∧ sent.pdu.basic.mi = mi ∧ AfterSecondToLast reached.log i n) ∧
    ∀ i mi peer later, (reached.session i).findPeer mi = some peer → Retains i mi reached later →
      (peer.mn :: accepted i mi reached later).Pairwise (· < ·) := by
  intro reached
  have traced : reached.Traced _ _ _ :=
    run_invariant (fun group input traced unwrapped => traced.step enrolled.distinct unwrapped)
      enrolled.traced counting
  have unique : ∀ i, (reached.session i).Unique := by
    apply run_invariant (I := fun group => ∀ i, (group.session i).Unique) _ _ counting
    · exact fun group input unique _ i => step_unique (unique i)
    · intro i
      rw [MkaSession.Unique, (enrolled.made i).2.2.1]
      exact List.nodup_nil
  constructor
  · intro i mi input before live
    have result := stepOf reached i input
    generalize (reached.step input).session i = t at live result
    cases result with
    | idle => exact absurd live before
    | begin half =>
      rcases half.hasLive live with old | ⟨pdu, taken, -⟩
      · exact absurd old before
      · obtain ⟨f, handed, -⟩ := taken.received
        cases handed
    | @finish env _ _ waits half =>
      rcases half.hasLive live with old | ⟨pdu, taken, rfl, knows⟩
      · exact absurd old before
      · obtain ⟨f, handed, received⟩ := taken.received
        obtain ⟨n, j, sent, rfl, found, rfl, other⟩ := traced.heard handed received
        refine ⟨env, n, j, sent, rfl, found, other, ?_, rfl, traced.recent enrolled.distinct found knows⟩
        rw [traced.mi, (traced.logged n j sent found).mi]
  · exact fun i mi peer later found retained => accepted_increasing (unique i) found retained

/-- Whatever is lost, delayed or replayed, a participant keeps its MI, its MN counts the MKPDUs that it sent,
what it hears was sent by another one under that one's MI, and its peer list holds participants with message
numbers that they have sent. -/
theorem members_traced {cak ckn : Octets} {inputs : List (GroupInput ι)} (enrolled : group.Enrolled cak ckn)
    (counting : Admitted step NoWrap group inputs) (i : ι) :
    let reached := runInputs step group inputs
    (reached.session i).mi = (group.session i).mi ∧ (reached.session i).mn.toNat = sends i reached.log + 1 ∧
      (∀ place pdu, reached.heard i place = some pdu → ∃ j sent, j ≠ i ∧ (j, sent) ∈ reached.log ∧
        pdu = sent.pdu ∧ pdu.basic.mi = (group.session j).mi) ∧
      ∀ peer ∈ (reached.session i).peers, ∃ j, peer.mi = (group.session j).mi ∧
        1 ≤ peer.mn.toNat ∧ peer.mn.toNat ≤ sends j reached.log := by
  intro reached
  have traced : reached.Traced _ _ _ :=
    run_invariant (fun group input traced unwrapped => traced.step enrolled.distinct unwrapped)
      enrolled.traced counting
  refine ⟨traced.mi i, traced.mn i, fun place pdu heard => ?_, fun peer mem => ?_⟩
  · obtain ⟨f, handed, received⟩ := Option.bind_eq_some_iff.mp heard
    obtain ⟨n, j, sent, -, found, rfl, other⟩ := traced.heard handed received
    exact ⟨j, sent, other, List.mem_of_getElem? found, rfl, (traced.logged n j sent found).mi⟩
  · have mentioned := traced.acquainted i peer.standing (List.mem_map_of_mem mem)
    rw [← List.take_length (l := reached.log)] at mentioned ⊢
    obtain ⟨⟨j, sent⟩, inside, named, -⟩ := id mentioned
    obtain ⟨n, found⟩ := List.mem_iff_getElem?.mp (List.mem_of_mem_take inside)
    have mi := named.symm.trans (traced.logged n j sent found).mi
    exact ⟨j, mi, traced.counted enrolled.distinct mentioned mi⟩

end MkaGroup

section Sample

attribute [local instance] sampleMkaCrypto

theorem samplePair_enrolled : samplePair.Enrolled sampleCak sampleCkn where
  fresh := samplePair_started.fresh
  idle := samplePair_started.idle
  silent := samplePair_started.silent
  distinct := by decide +kernel

/-- The client holds the key server as live once it hears that the key server has heard it. -/
theorem liveness_fresh_pair :
    let reached := runInputs MkaGroup.step samplePair (pairUp.take 3)
    ∃ env n j sent, GroupInput.finish (1 : Fin 2) sampleOutside (some 2) = .finish 1 env (some n) ∧
      reached.log[n]? = some (j, sent) ∧ j ≠ 1 ∧ (reached.session j).mi = (samplePair.session 0).mi ∧
      sent.pdu.basic.mi = (samplePair.session 0).mi ∧ MkaGroup.AfterSecondToLast reached.log 1 n := by
  intro reached
  have run : Admitted MkaGroup.step MkaGroup.NoWrap samplePair (pairUp.take 3) ∧
      ¬((runInputs MkaGroup.step samplePair (pairUp.take 3)).session 1).HasLive
        (samplePair.session 0).mi ∧
      (((runInputs MkaGroup.step samplePair (pairUp.take 3)).step
        (.finish 1 sampleOutside (some 2))).session 1).HasLive (samplePair.session 0).mi := by
    decide +kernel
  have fresh := (MkaGroup.liveness_fresh samplePair_enrolled run.1).1 1 (samplePair.session 0).mi
    (.finish 1 sampleOutside (some 2)) run.2.1 run.2.2
  subst reached
  exact fresh

/-- The client has met the key server. -/
theorem members_traced_pair :
    let reached := runInputs MkaGroup.step samplePair pairUp
    (reached.session 1).peers ≠ [] ∧ ∀ peer ∈ (reached.session 1).peers,
      ∃ j, peer.mi = (samplePair.session j).mi ∧ 1 ≤ peer.mn.toNat ∧ peer.mn.toNat ≤ sends j reached.log := by
  have run : Admitted MkaGroup.step MkaGroup.NoWrap samplePair pairUp ∧
      ((runInputs MkaGroup.step samplePair pairUp).session 1).peers ≠ [] := by decide +kernel
  exact ⟨run.2, (MkaGroup.members_traced samplePair_enrolled run.1 1).2.2.2⟩

end Sample

end Shuli.Wired
