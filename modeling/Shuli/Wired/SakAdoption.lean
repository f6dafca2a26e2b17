import Shuli.Wired.ReceiveBookkeeping

/-!
A frame that fails while a SAK is installed. The participant overwrites its SAK state before the device
operations, so a failure leaves the new state behind. The state is kept only if the frame adopts no SAK and
the SAK Use set before it starts no transmission.
-/

namespace Shuli.Wired

open Fallible MkaSession

/-- What a participant knows of its SAK, with the peers that are marked as having a receive SA. -/
structure SakBooks where
  lki : Option KeyId
  lan : UInt8
  lrx : Bool
  ltx : Bool
  sak : Option Octets
  marks : List (Mi × Bool)
  deriving DecidableEq

def marksOf (peers : List Peer) : List (Mi × Bool) := (peers.map fun p => (p.mi, p.rxInstalled)).filter Prod.snd

namespace MkaSession

def sakBooks (s : MkaSession) : SakBooks where
  lki := s.lki
  lan := s.lan
  lrx := s.lrx
  ltx := s.ltx
  sak := s.sak
  marks := marksOf s.peers

end MkaSession

section Books

variable {env : MkaEnv} {now : Instant} {s u : MkaSession} {pdu : MkaPdu} {sender : Peer}

theorem marksOf_updateFirst {test : Peer → Bool} {f : Peer → Peer} {peers : List Peer}
    (keeps : ∀ p, ((f p).mi, (f p).rxInstalled) = (p.mi, p.rxInstalled)) :
    marksOf (updateFirst test f peers) = marksOf peers :=
  congrArg (List.filter Prod.snd) (map_updateFirst keeps)

theorem marksOf_append {peers : List Peer} {p : Peer} (unmarked : p.rxInstalled = false) :
    marksOf (peers ++ [p]) = marksOf peers := by
  rw [marksOf, List.map_append, List.filter_append, List.map_singleton, unmarked]
  exact List.append_nil _

theorem marksOf_learn (own : Mi) (ids : List PeerId) (peers : List Peer) :
    marksOf (ids.foldl (learnPeer now own) peers) = marksOf peers := by
  induction ids generalizing peers with
  | nil => rfl
  | cons id ids ih =>
    rw [List.foldl_cons, ih, learnPeer]
    split
    · rfl
    · exact marksOf_append rfl

theorem meetPeer_sakBooks : (s.meetPeer now pdu).sakBooks = s.sakBooks := by
  have noted : marksOf (s.notePeer now pdu).peers = marksOf s.peers := by
    rw [notePeer]
    split
    · exact marksOf_updateFirst fun _ => rfl
    · exact marksOf_append rfl
  have marked : marksOf ((s.notePeer now pdu).markLive now pdu).peers = marksOf (s.notePeer now pdu).peers := by
    rw [markLive]
    split
    · exact marksOf_updateFirst fun _ => rfl
    · rfl
  have learned : marksOf (s.meetPeer now pdu).peers = marksOf ((s.notePeer now pdu).markLive now pdu).peers := by
    rw [meetPeer, learnPeers]
    split
    · exact marksOf_learn _ _ _
    · rfl
  rw [sakBooks, learned, marked, noted]
  simp only [meetPeer, electKeyServer, learnPeers, markLive, notePeer, sakBooks]

/-- The SAK Use set can only start the transmission. -/
theorem handleSakUse_sakBooks {books : SakBooks} :
    Keeps (fun t => ∃ ltx, t.sakBooks = { books with ltx }) (handleSakUse env pdu sender) := by
  have start : Keeps (fun t : MkaSession => ∃ ltx, t.sakBooks = { books with ltx }) (startTransmission env) := by
    refine Keeps.bind (Keeps.modify fun t same => ⟨true, ?_⟩) fun _ => Keeps.bind (Keeps.get_bind fun _ _ => ?_)
      fun _ => Keeps.modify fun _ same => same
    · obtain ⟨_, same⟩ := same
      exact congrArg (fun books : SakBooks => { books with ltx := true }) same
    · exact withMacsec_keeps fun _ same => same
  refine Keeps.get_bind fun self _ => ?_
  split
  · exact Keeps.pure _
  · rename_i use _
    refine Keeps.skip fun _ => Keeps.ite (fun _ => ?_) fun _ => Keeps.when fun _ => start
    refine Keeps.bind (Keeps.modify fun t same => ?_) fun _ => Keeps.get_bind fun _ _ =>
      Keeps.bind (Keeps.when fun _ => start) fun _ => Keeps.modify fun _ same => same
    obtain ⟨ltx, same⟩ := same
    have marks : marksOf (t.noteReport use sender.mi).peers = marksOf t.peers := marksOf_updateFirst fun _ => rfl
    refine ⟨ltx, Eq.trans ?_ same⟩
    rw [sakBooks, marks]
    rfl

theorem installRxSasForLivePeers_failed : Ends (installRxSasForLivePeers env) u fun result t =>
    ∀ e, result = .error e → t.sakBooks = u.sakBooks := by
  apply Ends.get_bind
  split
  · refine Ends.ite (fun _ _ failed => by cases failed) fun _ => ?_
    apply Ends.bind (R := fun _ t => t.sakBooks = u.sakBooks)
    · rw [Ends, exec_withMacsec]
      rfl
    · exact fun _ _ same _ _ => same
    · exact fun _ _ _ _ failed => by cases failed
  · exact fun _ failed => by cases failed

variable [MkaCrypto]

def MkaSession.Adopts (u : MkaSession) (pdu : MkaPdu) (sender : Peer) : Prop :=
  ∃ dist ∈ pdu.distSak, (sender.live ∧ sender.keyServer ∧ u.isElectedKeyServer sender.sci ∧ ¬u.isKeyServer ∧
    dist.wrappedSak ≠ []) ∧ u.canAdopt dist ∧ u.lki ≠ some ⟨sender.mi, dist.kn⟩

def MkaSession.Generates (u : MkaSession) (env : MkaEnv) (now : Instant) : Prop :=
  u.isKeyServer ∧ u.sakIsDue now ∧ u.canGenerate env

def Holds (ki : KeyId) (t : MkaSession) : Prop := t.lki = some ki ∧ t.isKeyServer = false

omit [MkaCrypto] in
theorem holds_settles (env : MkaEnv) (ki : KeyId) : Settles env (Holds ki) :=
  ⟨fun _ _ holds => holds, fun _ holds => holds, fun _ _ _ _ _ _ holds => holds⟩

omit [MkaCrypto] in
theorem lan_settles (env : MkaEnv) (an : UInt8) : Settles env fun t => t.lan = an :=
  ⟨fun _ _ same => same, fun _ same => same, fun _ _ _ _ _ _ same => same⟩

omit [MkaCrypto] in
theorem installDistributedSak_holds {dist : DistSak} {sak : Octets} (client : u.isKeyServer = false) :
    Ends (installDistributedSak env sender dist sak) u fun _ => Holds ⟨sender.mi, dist.kn⟩ := by
  apply Ends.modify_bind
  apply Ends.get_bind
  apply ends_withMacsec_bind
  · exact ⟨rfl, client⟩
  · exact ((holds_settles env _).afterInstall _).ends ⟨rfl, client⟩

theorem handleDistSak_adopts (adopts : u.Adopts pdu sender) : Ends (handleDistSak env pdu sender) u fun _ t =>
    t.lki ≠ u.lki ∧ t.isKeyServer = false := by
  obtain ⟨dist, present, offered, adoptable, other⟩ := adopts
  obtain ⟨supported, sak, unwrapped, length⟩ := canAdopt_iff.mp adoptable
  have client := Bool.eq_false_iff.mpr offered.2.2.2.1
  have held (t : MkaSession) (holds : Holds ⟨sender.mi, dist.kn⟩ t) : t.lki ≠ u.lki ∧ t.isKeyServer = false :=
    ⟨fun same => other (same.symm.trans holds.1), holds.2⟩
  apply Ends.get_bind
  rw [Option.mem_def.mp present]
  dsimp only
  rw [if_pos offered, if_neg (not_not.mpr supported), if_neg other, unwrapped]
  dsimp only
  rw [if_neg (not_not.mpr length)]
  apply Ends.bind (installDistributedSak_holds client)
  · exact fun _ t holds => held t holds
  · exact fun _ t holds => held t holds

theorem handleDistSak_declines (declines : ¬u.Adopts pdu sender) : Ends (handleDistSak env pdu sender) u
    fun result t => t = u ∧ ∃ goesOn, result = .ok goesOn := by
  apply Ends.get_bind
  split
  · exact ⟨rfl, _, rfl⟩
  · rename_i dist present
    refine Ends.ite (fun offered => ?_) fun _ => ⟨rfl, _, rfl⟩
    refine Ends.ite (fun _ => ⟨rfl, _, rfl⟩) fun supported => Ends.ite (fun _ => ⟨rfl, _, rfl⟩) fun other => ?_
    rcases unwrapped : unwrapKey u.kek dist.wrappedSak with e | sak
    · exact ⟨rfl, _, rfl⟩
    · refine Ends.ite (fun _ => ⟨rfl, _, rfl⟩) fun length => absurd ?_ declines
      exact ⟨dist, present, offered, canAdopt_iff.mpr ⟨not_not.mp supported, sak, unwrapped, not_not.mp length⟩, other⟩

theorem generateSak_lan (able : u.canGenerate env) : Ends (generateSak env now) u fun _ t =>
    t.lan = (u.lan + 1) &&& 0x03 := by
  obtain ⟨sak, drawn, wrapped, wrap⟩ := canGenerate_iff.mp able
  apply Ends.liftM_ok (a := sak)
  · rw [drawn]
    rfl
  apply Ends.get_bind
  apply Ends.modify_bind
  apply Ends.liftM_ok wrap
  apply Ends.modify_bind
  apply Ends.get_bind
  apply ends_withMacsec_bind
  · rfl
  · exact ((lan_settles env _).afterInstall _).ends rfl

theorem generateSak_unable (unable : ¬u.canGenerate env) : Ends (generateSak env now) u fun result t =>
    t.sakBooks = u.sakBooks ∧ ∃ e, result = .error e := by
  apply Ends.liftM_bind
  · exact fun e _ => ⟨rfl, e, rfl⟩
  intro sak drawn
  have random := Except.mapError_eq_ok.mp drawn
  apply Ends.get_bind
  apply Ends.modify_bind
  apply Ends.liftM_bind
  · exact fun e _ => ⟨rfl, e, rfl⟩
  · exact fun wrapped wrap => absurd (canGenerate_iff.mpr ⟨sak, random, wrapped, wrap⟩) unable

omit [MkaCrypto] in
theorem next_an_ne (an : UInt8) : (an + 1) &&& 0x03 ≠ an := by
  intro same
  have numbers := congrArg UInt8.toNat same
  rw [UInt8.toNat_and, UInt8.toNat_add, show (3 : UInt8).toNat = 2 ^ 2 - 1 from rfl,
    Nat.and_two_pow_sub_one_eq_mod] at numbers
  have one : (1 : UInt8).toNat = 1 := rfl
  omega

def installation (env : MkaEnv) (now : Instant) (pdu : MkaPdu) (sender : Peer) : Session Unit := do
  if ← handleDistSak env pdu sender then
    let self ← get
    when self.isKeyServer (ensureSak env now)
    installRxSasForLivePeers env
  else pure ()

/-- A failed installation has overwritten the SAK state if a SAK was adopted or generated. -/
theorem installation_torn (changes : u.Adopts pdu sender ∨ u.Generates env now) :
    Ends (installation env now pdu sender) u
      fun result t => ∀ e, result = .error e → t.lki ≠ u.lki ∨ t.lan ≠ u.lan := by
  by_cases adopts : u.Adopts pdu sender
  · apply Ends.bind (handleDistSak_adopts adopts)
    · exact fun _ _ kept _ _ => .inl kept.1
    rintro _ t ⟨lki, client⟩
    refine Ends.ite (fun _ => Ends.get_bind ?_) fun _ _ failed => by cases failed
    have kept : Keeps (fun t : MkaSession => t.lki ≠ u.lki) (installRxSasForLivePeers env) :=
      Settles.installRxSasForLivePeers ⟨fun _ _ apart => apart, fun _ apart => apart, fun _ _ _ _ _ _ apart => apart⟩
    rw [when, if_neg (Bool.eq_false_iff.mp client)]
    exact (kept.ends lki).mono fun _ _ apart _ _ => .inl apart
  · obtain ⟨server, due, able⟩ := changes.resolve_left adopts
    apply Ends.bind (handleDistSak_declines adopts)
    · rintro _ _ ⟨_, _, passed⟩
      cases passed
    rintro _ t ⟨same, -⟩
    obtain rfl := same.symm
    refine Ends.ite (fun _ => Ends.get_bind ?_) fun _ _ failed => by cases failed
    have changed {t : MkaSession} (lan : t.lan = (u.lan + 1) &&& 0x03) : t.lan ≠ u.lan :=
      fun same => next_an_ne u.lan (lan.symm.trans same)
    rw [when, if_pos server]
    apply Ends.bind (R := fun _ t => t.lan = (u.lan + 1) &&& 0x03)
    · apply Ends.get_bind
      rw [when, if_pos due]
      exact generateSak_lan able
    · exact fun _ _ lan _ _ => .inr (changed lan)
    · exact fun _ _ lan => ((lan_settles env _).installRxSasForLivePeers.ends lan).mono
        fun _ _ lan _ _ => .inr (changed lan)

theorem installation_kept (declines : ¬u.Adopts pdu sender) (idle : ¬u.Generates env now) :
    Ends (installation env now pdu sender) u fun result t => ∀ e, result = .error e → t.sakBooks = u.sakBooks := by
  apply Ends.bind (handleDistSak_declines declines)
  · exact fun _ _ passed => nomatch passed.2
  rintro _ t ⟨same, -⟩
  obtain rfl := same.symm
  refine Ends.ite (fun _ => Ends.get_bind ?_) fun _ => nofun
  apply Ends.bind (R := fun result t => t.sakBooks = u.sakBooks ∧ (t = u ∨ ∃ e, result = .error e))
  · refine Ends.ite (fun server => Ends.get_bind (Ends.ite (fun due => ?_) fun _ => ?_)) fun _ => ⟨rfl, .inl rfl⟩
    · have unable : ¬u.canGenerate env := fun able => idle ⟨server, due, able⟩
      exact (generateSak_unable unable).mono fun _ _ failed => ⟨failed.1, .inr failed.2⟩
    · exact ⟨rfl, .inl rfl⟩
  · exact fun _ _ kept _ _ => kept.1
  · rintro _ t ⟨-, same | ⟨_, failed⟩⟩
    · rw [same]
      exact installRxSasForLivePeers_failed
    · cases failed

/-- A frame that fails after its SAK Use set keeps the SAK state and the marks just if it adopts no SAK, no SAK
is generated, and the SAK Use set has started no transmission. -/
theorem sak_adoption_atomic_iff (env : MkaEnv) (now : Instant) (s : MkaSession) (frame : EapolFrame) (pdu : MkaPdu)
    (sender : Peer) (taken : TakenIn s (some frame) pdu)
    (known : (s.meetPeer now pdu).findPeer pdu.basic.mi = some sender) (u : MkaSession)
    (used : exec (handleSakUse env pdu sender) (s.meetPeer now pdu) = (.ok (), u)) (e : Core.WifiError)
    (failed : (exec (handleFrame env now frame) s).1 = .error e) :
    (after (handleFrame env now frame) s).sakBooks = s.sakBooks ↔
      ¬u.Adopts pdu sender ∧ ¬u.Generates env now ∧ u.ltx = s.ltx := by
  obtain ⟨⟨_, handed, received⟩, foreign, heeded, distinct⟩ := taken
  cases handed
  have run : exec (handleFrame env now frame) s = exec (installation env now pdu sender) u := by
    rw [handleFrame, exec_get_bind, received]
    dsimp only
    rw [if_neg foreign, when, if_pos heeded, handlePdu, exec_get_bind, if_neg distinct, exec_modify_bind,
      exec_get_bind, known]
    dsimp only
    rw [handleSaks, exec_bind_ok used]
    rfl
  have books : u.sakBooks = { s.sakBooks with ltx := u.ltx } := by
    have kept : Ends (handleSakUse env pdu sender) (s.meetPeer now pdu) fun _ t =>
        ∃ ltx, t.sakBooks = { s.sakBooks with ltx } :=
      handleSakUse_sakBooks.ends ⟨s.ltx, meetPeer_sakBooks⟩
    rw [Ends, used] at kept
    obtain ⟨ltx, same⟩ := kept
    have own : u.ltx = ltx := congrArg SakBooks.ltx same
    rw [same, own]
  rw [run] at failed
  rw [after, run]
  by_cases changes : u.Adopts pdu sender ∨ u.Generates env now
  · have torn : Ends (installation env now pdu sender) u _ := installation_torn changes
    refine ⟨fun kept => ?_, fun kept => (changes.elim kept.1 kept.2.1).elim⟩
    rcases torn e failed with lki | lan
    · exact absurd ((congrArg SakBooks.lki kept).trans (congrArg SakBooks.lki books).symm) lki
    · exact absurd ((congrArg SakBooks.lan kept).trans (congrArg SakBooks.lan books).symm) lan
  · rw [not_or] at changes
    have kept : Ends (installation env now pdu sender) u _ := installation_kept changes.1 changes.2
    rw [kept e failed, books]
    exact ⟨fun same => ⟨changes.1, changes.2, congrArg SakBooks.ltx same⟩, fun same => by rw [same.2.2]; rfl⟩

end Books

section Sample

attribute [local instance] sampleMkaCrypto

def refusingOutside : MkaEnv := { sampleOutside with kernel := ⟨fun _ => .ok (), fun _ => some "busy"⟩ }

def thirdJoins : MkaPdu := stationPdu 3 0xff false 1 2 none none

/-- Station 3 joins, and its receive SA is refused. -/
theorem sak_adoption_atomic_joined :
    let s := stationReaches stationServes
    (after (handleFrame refusingOutside 1 (stationFrame 3 thirdJoins)) s).sakBooks = s.sakBooks := by
  intro s
  refine (sak_adoption_atomic_iff refusingOutside 1 s (stationFrame 3 thirdJoins) thirdJoins
    (s.senderEntry 1 thirdJoins) ⟨⟨_, rfl, by decide +kernel⟩, by decide +kernel, by decide +kernel, by decide +kernel⟩
    meetPeer_findPeer _ rfl ⟨.io, "macsec apply: busy"⟩ (by decide +kernel)).mpr ⟨?_, ?_, by decide +kernel⟩
  · exact fun adopts => nomatch adopts.choose_spec.1
  · exact fun generates => absurd generates.2.1 (by decide +kernel)

/-- The key server has no SAK; the device refuses the first one that it makes, and it counts as the current one. -/
theorem sak_adoption_torn :
    let s := stationReaches [.begin sampleOutside 0]
    let frame := stationFrame 2 (stationPdu 2 0xff false 1 1 none none)
    (exec (handleFrame refusingOutside 1 frame) s).1 = .error ⟨.io, "macsec apply: busy"⟩ ∧ s.lki = none ∧
      (after (handleFrame refusingOutside 1 frame) s).lki = some (stationKey 1) ∧
      (after (handleFrame refusingOutside 1 frame) s).lrx = true := by
  decide +kernel

end Sample

end Shuli.Wired
