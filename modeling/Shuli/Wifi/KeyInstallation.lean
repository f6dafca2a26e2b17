import Shuli.Wifi.HandshakeRuns
import Shuli.Wifi.OpenAssociation
import Shuli.Wifi.Passive

/-!
The keys that the control port hands to the kernel. A PTK is handed over by the Message 3 that promotes
it, and a GTK by every frame that carries it. So the frames of an association hand over no pairwise key
twice, unless Extended Key ID is on, and no group key twice, unless the AP sends one twice.
-/

namespace Shuli.Wifi

open Fallible
open Shuli.Core (WifiError Tls)

def pairwiseKeys (trace : List Action) : List Octets := trace.filterMap fun
  | .request (.newKey (.ptk _ tk _ _)) => some tk
  | _ => none

def groupKeys (trace : List Action) : List (UInt8 × Octets) := trace.filterMap fun
  | .request (.newKey (.gtk key index _)) => some (index, key)
  | _ => none

theorem Request.Bare.keyless {req : Request} (bare : req.Bare) :
    pairwiseKeys [.request req] = [] ∧ groupKeys [.request req] = [] := by
  cases req with
  | newKey => cases bare
  | _ => exact ⟨rfl, rfl⟩

section Calls

variable [Primitives] [EapolCodec]

namespace FourWayState

instance (s : FourWayState) (ptk : Ptk) (frame : EapolKeyFrame) : Decidable (s.MicValid ptk frame) :=
  inferInstanceAs (Decidable (_ = _))

theorem exists_micValid_iff {s : FourWayState} {held : Option Ptk} {frame : EapolKeyFrame} :
    (∃ ptk, held = some ptk ∧ s.MicValid ptk frame) ↔ held.any fun ptk => s.MicValid ptk frame := by
  cases held <;> simp

instance (s : FourWayState) (frame : EapolKeyFrame) : Decidable (s.Admits3 frame) :=
  decidable_of_iff (s.pendingReplayCounter.isSome ∧
    (s.replayCounterSet → s.replayCounter < frame.replayCounter) ∧ s.anonce = some frame.keyNonce ∧
    s.handshakePtk.any fun ptk => s.MicValid ptk frame)
    ⟨fun ⟨pending, newer, anonce, mic⟩ => ⟨pending, newer, anonce, exists_micValid_iff.mpr mic⟩,
      fun admits => ⟨admits.pending, admits.newer, admits.anonce, exists_micValid_iff.mp admits.mic⟩⟩

instance (s : FourWayState) (frame : EapolKeyFrame) : Decidable (s.AdmitsGroup frame) :=
  decidable_of_iff (s.replayCounter < frame.replayCounter ∧ s.ptk.any fun ptk => s.MicValid ptk frame)
    ⟨fun ⟨newer, mic⟩ => ⟨newer, exists_micValid_iff.mpr mic⟩,
      fun admits => ⟨admits.newer, exists_micValid_iff.mp admits.mic⟩⟩

/-- The GTK in the frame of a call, if the frame passes its checks. -/
def carried (s : FourWayState) : HandshakeCall → Option (UInt8 × Octets)
  | .message1 _ _ _ _ => none
  | .message3 frame => if s.Admits3 frame then openedGtk s.kek frame else none
  | .groupRekey frame => if s.AdmitsGroup frame then openedGtk s.committedKek frame else none

structure Unused (s : FourWayState) : Prop where
  pending : s.pendingReplayCounter = none
  keyId : s.keyId = none
  committed : s.committed = (none, none, 0, false, 0)

def promotedTks (events : List KeyEvent) : List Octets := (promotedPtks events).map fun ptk => (tkOf ptk).val

variable {s t : FourWayState} {frame : EapolKeyFrame}

/-- What a verified Message 3 makes live is what it promotes. -/
theorem tk_promoted {gtk : Option (UInt8 × Octets)} {keyId : Option UInt8} (staged : s.Staged)
    (admitted : s.Admits3 frame)
    (left : t = (((s.acceptCounter frame.replayCounter).endPending.setKeyId keyId).takeGtk gtk).promote) :
    t.keyId = keyId ∧
      (t.tk.map Subtype.val).toList = promotedTks (s.promotion t frame).toList := by
  obtain ⟨anonce, -, held⟩ := staged admitted.pending
  have gone : t.tptk = none := by
    rw [left]
    rfl
  have live : t.ptk = s.tptk.or s.ptk ∧ t.keyId = keyId := by
    rw [left]
    rcases gtk with _ | ⟨index, key⟩
    · exact ⟨rfl, rfl⟩
    · exact ⟨rfl, rfl⟩
  refine ⟨live.2, ?_⟩
  rw [promotion_gone gone, tk, live.1, held]
  rfl

theorem gtk_carried3 {gtk : Option (UInt8 × Octets)} (admitted : s.Admits3 frame)
    (source : gtk = none ∨ gtk = openedGtk s.kek frame) :
    gtk.toList.Sublist (s.carried (.message3 frame)).toList := by
  rw [carried, if_pos admitted]
  rcases source with rfl | rfl
  · exact List.nil_sublist _
  · exact .refl _

omit [EapolCodec] in
/-- The key expansion has no collision in the temporal keys of the promoted PTKs. -/
def TkCollisionless (s : FourWayState) (events : List KeyEvent) : Prop :=
  ∀ first ∈ promotions events, ∀ second ∈ promotions events,
    (tkOf (s.ptkOf first.1 first.2)).val = (tkOf (s.ptkOf second.1 second.2)).val →
      s.expansionContext first = s.expansionContext second

instance (s : FourWayState) (events : List KeyEvent) : Decidable (s.TkCollisionless events) :=
  inferInstanceAs (Decidable (∀ _ ∈ _, _))

end FourWayState

end Calls

section

variable [Tls] [Sae] [Owe]

structure WifiIface.Holds (fw : Option FourWayState) (tks : List Octets) (gtks : List (UInt8 × Octets))
    (s : WifiIface) : Prop where
  fourway : s.link.fourway = fw
  pairwise : pairwiseKeys s.trace = tks
  group : groupKeys s.trace = gtks

open WifiIface (Holds)

variable {env : Env} {fw : Option FourWayState} {tks : List Octets} {gtks : List (UInt8 × Octets)}
  {self : WifiIface}

theorem holds_self (self : WifiIface) :
    self.Holds self.link.fourway (pairwiseKeys self.trace) (groupKeys self.trace) := ⟨rfl, rfl, rfl⟩

theorem WifiIface.Holds.record {action : Action} (holds : self.Holds fw tks gtks) :
    (self.record action).Holds fw (tks ++ pairwiseKeys [action]) (gtks ++ groupKeys [action]) := by
  refine ⟨holds.fourway, ?_, ?_⟩
  · rw [← holds.pairwise]
    exact List.filterMap_append
  · rw [← holds.group]
    exact List.filterMap_append

theorem WifiIface.Holds.silent {action : Action} (holds : self.Holds fw tks gtks)
    (none : pairwiseKeys [action] = [] ∧ groupKeys [action] = []) : (self.record action).Holds fw tks gtks := by
  have later : (self.record action).Holds fw _ _ := holds.record
  rwa [none.1, none.2, List.append_nil, List.append_nil] at later

theorem request_ends {req : Request} (holds : self.Holds fw tks gtks) :
    Ends (request env req) self fun _ => Holds fw (tks ++ pairwiseKeys [.request req])
      (gtks ++ groupKeys [.request req]) := request_records holds.record

instance : Steady (Holds fw tks gtks) where
  quiet holds same := by
    simp only [WifiIface.face, Face.mk.injEq] at same
    obtain ⟨-, -, -, fourway, trace⟩ := same
    exact ⟨fourway ▸ holds.fourway, trace ▸ holds.pairwise, trace ▸ holds.group⟩
  request bare holds := holds.silent bare.keyless
  connected _ _ holds := holds.silent ⟨rfl, rfl⟩
  pinned _ holds := ⟨holds.fourway, holds.pairwise, holds.group⟩
  unpinned holds := ⟨holds.fourway, holds.pairwise, holds.group⟩

theorem orFail_ends {call : Iface Unit} {P : WifiIface → Prop} (body : Ends call self fun _ => P)
    (failed : ∀ self, P self → P (self.setState .failed)) : Ends (orFail call) self fun _ => P :=
  body.tryCatch (fun _ _ done => done) fun _ t done => failed t done

theorem installManagementKeys_holds {cipher : CipherSuite} {kdes : KeyDataKdes} :
    Keeps (Holds fw tks gtks) (installManagementKeys env cipher kdes) :=
  installManagementKeys_grows (fun holds => holds.silent ⟨rfl, rfl⟩) fun holds => holds.silent ⟨rfl, rfl⟩

theorem completeHandshake_holds [Primitives] : Keeps (Holds fw tks gtks) (completeHandshake env) :=
  completeHandshake_kept (tryOffloadRekey_grows fun holds => holds.silent ⟨rfl, rfl⟩)

/-- Keys that were handed over since, out of those that may be. -/
def WifiIface.Gains (fw : Option FourWayState) (tks : List Octets) (gtks : List (UInt8 × Octets))
    (newTks : List Octets) (newGtks : List (UInt8 × Octets)) (self : WifiIface) : Prop :=
  ∃ moreTks moreGtks, self.Holds fw (tks ++ moreTks) (gtks ++ moreGtks) ∧ moreTks.Sublist newTks ∧
    moreGtks.Sublist newGtks

open WifiIface (Gains)

variable {newTks : List Octets} {newGtks : List (UInt8 × Octets)}

theorem WifiIface.Holds.gains (holds : self.Holds fw tks gtks) : self.Gains fw tks gtks [] [] := by
  refine ⟨[], [], ?_, .slnil, .slnil⟩
  rw [List.append_nil, List.append_nil]
  exact holds

theorem WifiIface.Gains.mono {laterTks : List Octets} {laterGtks : List (UInt8 × Octets)}
    (gains : self.Gains fw tks gtks newTks newGtks) (pairwise : newTks.Sublist laterTks)
    (group : newGtks.Sublist laterGtks) : self.Gains fw tks gtks laterTks laterGtks := by
  obtain ⟨moreTks, moreGtks, holds, fewTks, fewGtks⟩ := gains
  exact ⟨moreTks, moreGtks, holds, fewTks.trans pairwise, fewGtks.trans group⟩

theorem gains_of_holds {α : Type} {call : Iface α} (keeps : ∀ tks gtks, Keeps (Holds fw tks gtks) call) :
    Keeps (Gains fw tks gtks newTks newGtks) call := by
  rintro self ⟨moreTks, moreGtks, holds, fewTks, fewGtks⟩
  exact ⟨moreTks, moreGtks, keeps _ _ self holds, fewTks, fewGtks⟩

theorem request_gains {req : Request} (gains : self.Gains fw tks gtks newTks newGtks) :
    Ends (request env req) self fun _ => Gains fw tks gtks (newTks ++ pairwiseKeys [.request req])
      (newGtks ++ groupKeys [.request req]) := by
  obtain ⟨moreTks, moreGtks, holds, fewTks, fewGtks⟩ := gains
  apply (request_ends holds).mono
  intro _ t later
  rw [List.append_assoc, List.append_assoc] at later
  exact ⟨_, _, later, fewTks.append (.refl _), fewGtks.append (.refl _)⟩

theorem bestEffort_gains {req : Request} (gains : self.Gains fw tks gtks newTks newGtks) :
    Ends (bestEffort env req) self fun _ => Gains fw tks gtks (newTks ++ pairwiseKeys [.request req])
      (newGtks ++ groupKeys [.request req]) := by
  apply Ends.tryCatch (R := fun _ => Gains fw tks gtks (newTks ++ _) (newGtks ++ _))
  · apply Ends.bind (request_gains gains)
    · exact fun _ _ gains => gains
    · exact fun _ _ gains => gains
  · exact fun _ _ gains => gains
  · exact fun _ _ gains => gains

theorem offerGtk_gains {gtk : Option (UInt8 × Octets)} {seq : Octets} (gains : self.Gains fw tks gtks newTks []) :
    Ends (gtk.forM fun (index, key) => do let _ ← bestEffort env (.newKey (.gtk key index seq))) self
      fun _ => Gains fw tks gtks newTks gtk.toList := by
  rcases gtk with _ | ⟨index, key⟩
  · exact gains
  · apply Ends.bind (bestEffort_gains gains)
    · exact fun _ _ gains => gains.mono (List.append_nil _ ▸ .refl _) (.refl _)
    · exact fun _ _ gains => gains.mono (List.append_nil _ ▸ .refl _) (.refl _)

theorem WifiIface.Gains.setState (state : WifiState) (gains : self.Gains fw tks gtks newTks newGtks) :
    (self.setState state).Gains fw tks gtks newTks newGtks := by
  obtain ⟨moreTks, moreGtks, holds, few⟩ := gains
  exact ⟨moreTks, moreGtks, ⟨holds.fourway, holds.pairwise, holds.group⟩, few⟩

/-- Without a key id the pairwise key is handed over once. -/
theorem installHandshakeKeys_gains {live : FourWayState} {frame : EapolKeyFrame} {msg4 : Octets}
    {kdes : KeyDataKdes} (plain : live.keyId = none) (holds : self.Holds fw tks gtks) :
    Ends (installHandshakeKeys env live frame msg4 kdes) self fun _ =>
      Gains fw tks gtks (live.tk.map Subtype.val).toList kdes.gtk.toList := by
  apply Ends.get_bind
  have unselected : Keeps (Gains fw tks gtks [] []) (when live.keyId.isSome (live.tk.forM fun tk =>
      request env (.newKey (.ptk self.link.bssInfo.bssid tk.val live.keyId false)))) := by
    rw [plain]
    exact Keeps.pure ()
  apply Ends.bind (unselected.ends holds.gains)
  · exact fun _ _ gains => gains.mono (List.nil_sublist _) (List.nil_sublist _)
  intro _ t gains
  apply Ends.bind ((gains_of_holds fun _ _ => sendControlPortFrame_kept).ends gains)
  · exact fun _ _ gains => gains.mono (List.nil_sublist _) (List.nil_sublist _)
  intro _ t gains
  have pairwise : Ends (live.tk.forM fun tk => request env
      (.newKey (.ptk self.link.bssInfo.bssid tk.val live.keyId live.keyId.isSome))) t fun _ =>
        Gains fw tks gtks (live.tk.map Subtype.val).toList [] := by
    rcases live.tk with _ | tk
    · exact gains
    · exact request_gains gains
  apply Ends.bind pairwise
  · exact fun _ _ gains => gains.mono (.refl _) (List.nil_sublist _)
  intro _ t gains
  have group : Ends (kdes.gtk.forM fun (index, gtk) => request env
      (.newKey (.gtk gtk index (frame.keyRsc.val.take 6)))) t fun _ =>
        Gains fw tks gtks (live.tk.map Subtype.val).toList kdes.gtk.toList := by
    rcases kdes.gtk with _ | ⟨index, gtk⟩
    · exact gains
    · apply (request_gains gains).mono
      intro _ _ gains
      exact gains.mono (List.append_nil _ ▸ .refl _) (.refl _)
  apply Ends.bind group
  · exact fun _ _ gains => gains
  intro _ t gains
  exact (gains_of_holds fun _ _ => installManagementKeys_holds).ends gains

variable [Elements] [Primitives] [EapolCodec]

/-- The call that a frame of the control port makes on the handshake, and the state that it finds. -/
def WifiIface.reached (self : WifiIface) (env : Env) (raw : Octets) :
    Option (FourWayState × HandshakeCall) :=
  match parseEapolEapFrame raw with
  | some _ => none
  | none =>
    match Elements.parseEapolKey raw with
    | none => none
    | some parsed =>
      let frame := parsed.frame
      if parsed.isRequest then none
      else if !parsed.hasMic ∧ parsed.hasAck then
        if self.link.bssInfo.security.isFt ∧ self.link.ft.isNone then none
        else (self.link.fourway.or (self.newFourway (env.nonce 0))).map
          (·, .message1 (env.nonce 1) frame.keyNonce frame.replayCounter frame.descVersion)
      else if parsed.hasMic ∧ parsed.isSecure ∧ parsed.isPairwise then
        self.link.fourway.map (·, .message3 frame)
      else if parsed.hasMic ∧ parsed.isSecure ∧ parsed.hasAck then
        self.link.fourway.map (·, .groupRekey frame)
      else none

def WifiIface.restarts (self : WifiIface) (env : Env) (raw : Octets) : Bool :=
  match self.reached env raw with
  | some (fw, .message3 frame) =>
    self.link.pmksaInUse.isSome && (exec (processMessage3 frame) fw).1.toOption.isNone
  | _ => false

/-- What a frame of the control port does to the handshake and to the keys. -/
inductive WifiIface.Handled (self : WifiIface) : Option (FourWayState × HandshakeCall) → WifiIface → Prop
  | idle {t : WifiIface}
      (holds : t.Holds self.link.fourway (pairwiseKeys self.trace) (groupKeys self.trace)) :
      Handled self none t
  | called {fw : FourWayState} {call : HandshakeCall} {t : WifiIface}
      (gains : t.Gains (some (fw.step call)) (pairwiseKeys self.trace) (groupKeys self.trace)
        (FourWayState.promotedTks (fw.eventOf call).toList) (fw.carried call).toList) :
      Handled self (some (fw, call)) t

open WifiIface (Handled)

variable {fw : FourWayState} {call : HandshakeCall}

omit [Elements] in
theorem WifiIface.Handled.silent {t : WifiIface}
    (holds : t.Holds (some (fw.step call)) (pairwiseKeys self.trace) (groupKeys self.trace)) :
    self.Handled (some (fw, call)) t :=
  .called (holds.gains.mono (List.nil_sublist _) (List.nil_sublist _))

variable {parsed : ParsedKey}

variable {raw : Octets}

theorem handleMessage1_handled :
    Ends (handleMessage1 env raw parsed) self fun _ => self.Handled
      (if self.link.bssInfo.security.isFt ∧ self.link.ft.isNone then none
        else (self.link.fourway.or (self.newFourway (env.nonce 0))).map (·, .message1 (env.nonce 1)
          parsed.frame.keyNonce parsed.frame.replayCounter parsed.frame.descVersion)) := by
  apply Ends.get_bind
  apply Ends.ite
  · intro waits
    rw [if_pos waits]
    exact .idle ⟨rfl, rfl, rfl⟩
  intro ready
  rw [if_neg ready]
  apply Ends.modify_bind
  rcases self.link.fourway.or (self.newFourway (env.nonce 0)) with _ | fw
  · exact .idle ⟨rfl, rfl, rfl⟩
  apply Ends.modify_bind
  split
  · exact .silent ⟨rfl, rfl, rfl⟩
  · apply Ends.mono ((orFail_kept sendControlPortFrame_kept).ends (holds_self _))
    exact fun _ _ holds => .silent holds

omit [EapolCodec] in
theorem message3Failed_holds (error : WifiError) (lasts : self.link.pmksaInUse = none)
    (holds : self.Holds fw tks gtks) :
    Ends (message3Failed env error) self fun _ => Holds fw tks gtks := by
  apply Ends.get_bind
  rw [lasts]
  apply Ends.ite
  · exact fun started => nomatch started
  intro _
  apply Ends.ite
  · exact fun _ => Keeps.ends (quiet rfl) holds
  · exact fun _ => Keeps.ends (quiet rfl) holds

theorem handleMessage3_handled (found : self.link.fourway = some fw) (staged : fw.Staged) (unindexed : fw.Unindexed)
    (lasts : self.link.pmksaInUse = none ∨ (exec (processMessage3 parsed.frame) fw).1.toOption.isSome) :
    Ends (handleMessage3 env parsed) self fun _ => self.Handled (some (fw, .message3 parsed.frame)) := by
  apply Ends.get_bind
  rw [found]
  have outcome : Ends (processMessage3 parsed.frame) fw _ := processMessage3_outcome
  unfold Ends at outcome
  apply Ends.modify_bind
  apply Ends.mono (R := fun _ => Gains (some (exec (processMessage3 parsed.frame) fw).2)
    (pairwiseKeys self.trace) (groupKeys self.trace)
    (FourWayState.promotedTks (fw.promotion (exec (processMessage3 parsed.frame) fw).2 parsed.frame).toList)
    (fw.carried (.message3 parsed.frame)).toList) ?_ fun _ _ gains => .called gains
  generalize exec (processMessage3 parsed.frame) fw = result at outcome lasts ⊢
  obtain ⟨reply, t⟩ := result
  have failed {error : WifiError} (none : self.link.pmksaInUse = none) :
      Ends (message3Failed env error) { self with link.fourway := some t } fun _ =>
        Gains (some t) (pairwiseKeys self.trace) (groupKeys self.trace)
          (FourWayState.promotedTks (fw.promotion t parsed.frame).toList)
          (fw.carried (.message3 parsed.frame)).toList := by
    apply Ends.mono (R := fun _ => Holds (some t) (pairwiseKeys self.trace) (groupKeys self.trace))
    · exact message3Failed_holds error none ⟨rfl, rfl, rfl⟩
    · exact fun _ _ holds => holds.gains.mono (List.nil_sublist _) (List.nil_sublist _)
  cases outcome with
  | refused => exact failed (lasts.resolve_right (fun some => nomatch some))
  | unread => exact failed (lasts.resolve_right (fun some => nomatch some))
  | promoted left admitted selected source =>
    obtain ⟨plain, live⟩ := FourWayState.tk_promoted staged admitted left
    have taken := FourWayState.gtk_carried3 admitted source
    rw [selected unindexed] at plain
    rw [← live]
    apply orFail_ends
    · apply Ends.bind (installHandshakeKeys_gains plain ⟨rfl, rfl, rfl⟩)
      · exact fun _ _ gains => gains.mono (.refl _) taken
      · intro _ _ gains
        apply (gains_of_holds fun _ _ => completeHandshake_holds).ends
        exact gains.mono (.refl _) taken
    · exact fun _ gains => gains.setState .failed

omit [Elements] in
theorem handleGroupRekey_handled (found : self.link.fourway = some fw) :
    Ends (handleGroupRekey env parsed) self fun _ =>
      self.Handled (some (fw, .groupRekey parsed.frame)) := by
  apply Ends.get_bind
  rw [found]
  have outcome : Ends (processGroupRekey parsed.frame) fw _ := processGroupRekey_outcome
  unfold Ends at outcome
  apply Ends.modify_bind
  apply Ends.mono (R := fun _ => Gains (some (exec (processGroupRekey parsed.frame) fw).2)
    (pairwiseKeys self.trace) (groupKeys self.trace) [] (fw.carried (.groupRekey parsed.frame)).toList)
    ?_ fun _ _ gains => .called gains
  generalize exec (processGroupRekey parsed.frame) fw = result at outcome ⊢
  obtain ⟨reply, t⟩ := result
  have started : WifiIface.Gains (some t) (pairwiseKeys self.trace) (groupKeys self.trace) [] []
      { self with link.fourway := some t } := WifiIface.Holds.gains ⟨rfl, rfl, rfl⟩
  cases outcome with
  | refused => exact started.mono (.refl _) (List.nil_sublist _)
  | unread => exact started.mono (.refl _) (List.nil_sublist _)
  | @taken msg2 gtk kdes index admitted present source =>
    have taken : (fw.carried (.groupRekey parsed.frame)).toList = [(index, gtk)] := by
      rw [FourWayState.carried, if_pos admitted, ← source, present]
      rfl
    rw [taken]
    apply Ends.tryCatch (R := fun _ => Gains _ _ _ [] [(index, gtk)])
    · apply Ends.bind ((gains_of_holds fun _ _ => sendControlPortFrame_kept).ends started)
      · exact fun _ _ gains => gains.mono (.refl _) (List.nil_sublist _)
      intro _ sent gains
      rw [present]
      apply Ends.bind (offerGtk_gains gains)
      · exact fun _ _ gains => gains
      intro _ _ gains
      exact (gains_of_holds fun _ _ => Keeps.bind (installManagementKeys_holds) fun _ =>
        Keeps.bind (tryOffloadRekey_grows fun holds => holds.silent ⟨rfl, rfl⟩) fun _ => Keeps.pure _).ends gains
    · exact fun _ _ gains => gains
    · exact fun _ _ gains => gains

/-- A frame of the control port goes to one handler; what each does from `self` is what the frame does. -/
theorem handleControlPortFrame_ends
    {Q : Option (FourWayState × HandshakeCall) → WifiIface → Prop} (idle : Q none self)
    (eap : ∀ packet, Ends (handleEapFrame env packet) self fun _ => Q none)
    (first : ∀ parsed, Ends (handleMessage1 env raw parsed) self fun _ =>
      Q (if self.link.bssInfo.security.isFt ∧ self.link.ft.isNone then none
        else (self.link.fourway.or (self.newFourway (env.nonce 0))).map (·, .message1 (env.nonce 1)
          parsed.frame.keyNonce parsed.frame.replayCounter parsed.frame.descVersion)))
    (unstarted : self.link.fourway = none → Q none (self.setState .failed))
    (third : ∀ fw parsed, self.link.fourway = some fw →
      self.reached env raw = some (fw, .message3 parsed.frame) →
      Ends (handleMessage3 env parsed) self fun _ => Q (some (fw, .message3 parsed.frame)))
    (group : ∀ fw parsed, self.link.fourway = some fw →
      self.reached env raw = some (fw, .groupRekey parsed.frame) →
      Ends (handleGroupRekey env parsed) self fun _ => Q (some (fw, .groupRekey parsed.frame))) :
    Ends (handleControlPortFrame env raw) self fun _ => Q (self.reached env raw) := by
  unfold handleControlPortFrame
  rcases eapol : parseEapolEapFrame raw with _ | packet
  · rcases key : Elements.parseEapolKey raw with _ | parsed
    · simp only [WifiIface.reached, eapol, key]
      exact idle
    by_cases asks : parsed.isRequest
    · simp only [WifiIface.reached, eapol, key, if_pos asks]
      exact idle
    by_cases opening : !parsed.hasMic ∧ parsed.hasAck
    · simp only [WifiIface.reached, eapol, key, if_neg asks, if_pos opening]
      exact first parsed
    by_cases closing : parsed.hasMic ∧ parsed.isSecure ∧ parsed.isPairwise
    · have reached : self.reached env raw = self.link.fourway.map (·, .message3 parsed.frame) := by
        simp only [WifiIface.reached, eapol, key, if_neg asks, if_neg opening, if_pos closing]
      simp only [if_neg asks, if_neg opening, if_pos closing]
      rw [reached]
      rcases found : self.link.fourway with _ | fw
      · apply Ends.get_bind
        rw [found]
        exact unstarted found
      · rw [found] at reached
        exact third fw parsed found reached
    by_cases rekey : parsed.hasMic ∧ parsed.isSecure ∧ parsed.hasAck
    · have reached : self.reached env raw = self.link.fourway.map (·, .groupRekey parsed.frame) := by
        simp only [WifiIface.reached, eapol, key, if_neg asks, if_neg opening, if_neg closing, if_pos rekey]
      simp only [if_neg asks, if_neg opening, if_neg closing, if_pos rekey]
      rw [reached]
      rcases found : self.link.fourway with _ | fw
      · apply Ends.get_bind
        rw [found]
        exact idle
      · rw [found] at reached
        exact group fw parsed found reached
    · simp only [WifiIface.reached, eapol, key, if_neg asks, if_neg opening, if_neg closing, if_neg rekey]
      exact idle
  · simp only [WifiIface.reached, eapol]
    exact eap packet

/-- What a frame of the control port does, as long as the association lasts. -/
theorem handleControlPortFrame_handled (lasts : self.restarts env raw = false)
    (ready : ∀ fw call, self.reached env raw = some (fw, call) → fw.Staged ∧ fw.Unindexed) :
    Ends (handleControlPortFrame env raw) self fun _ => self.Handled (self.reached env raw) := by
  apply handleControlPortFrame_ends
  · exact .idle ⟨rfl, rfl, rfl⟩
  · intro packet
    exact (handleEapFrame_kept.ends (holds_self self)).mono fun _ _ holds => .idle holds
  · exact fun parsed => handleMessage1_handled
  · exact fun _ => .idle ⟨rfl, rfl, rfl⟩
  · intro fw parsed found reached
    obtain ⟨staged, unindexed⟩ := ready fw _ reached
    apply handleMessage3_handled found staged unindexed
    rw [WifiIface.restarts, reached] at lasts
    rcases Bool.and_eq_false_iff.mp lasts with none | passed
    · exact .inl (Option.not_isSome_iff_eq_none.mp (Bool.eq_false_iff.mp none))
    · exact .inr (Option.isNone_eq_false_iff.mp passed)
  · exact fun fw parsed found _ => handleGroupRekey_handled found

def WifiIface.frameStep (self : WifiIface) (input : Env × Octets) : WifiIface :=
  after (handleControlPortFrame input.1 input.2) self

def WifiIface.keyEvents : WifiIface → List (Env × Octets) → List KeyEvent
  | _, [] => []
  | self, input :: inputs =>
    ((self.reached input.1 input.2).bind fun (fw, call) => fw.eventOf call).toList ++
      keyEvents (self.frameStep input) inputs

def WifiIface.Lasts (self : WifiIface) (input : Env × Octets) : Prop :=
  self.restarts input.1 input.2 = false

instance (self : WifiIface) (input : Env × Octets) : Decidable (self.Lasts input) :=
  inferInstanceAs (Decidable (_ = _))

/-- The handshake does not use Extended Key ID, and the frame carries no GTK that the kernel has. -/
def WifiIface.Unrepeated (self : WifiIface) (input : Env × Octets) : Prop :=
  ∀ called ∈ self.reached input.1 input.2,
    called.1.extKeyId = false ∧ ∀ gtk ∈ called.1.carried called.2, gtk ∉ groupKeys self.trace

instance (self : WifiIface) (input : Env × Octets) : Decidable (self.Unrepeated input) :=
  inferInstanceAs (Decidable (∀ _ ∈ _, _))

/-- No key id is selected and a pending handshake has staged its PTK. -/
def WifiIface.Ready (self : WifiIface) : Prop :=
  ∀ fw, self.link.fourway = some fw → fw.Staged ∧ fw.keyId = none

omit [Primitives] [EapolCodec] in
/-- A new 4-way state is before its first handshake. -/
theorem newFourway_unused {fresh : Block 32} (made : self.newFourway fresh = some fw) :
    fw.Unused := by
  have configured {base : FourWayState} (unused : base.Unused)
      (last : (do
        let fw ← self.link.enableOcv base
        return fw.setExtKeyId self.link.extKeyIdEnabled) = some fw) : fw.Unused := by
    obtain ⟨checked, enabled, same⟩ := Option.bind_eq_some_iff.mp last
    obtain rfl := Option.some.inj same
    unfold Link.enableOcv at enabled
    split at enabled
    · obtain rfl := Option.some.inj enabled
      exact ⟨unused.pending, unused.keyId, unused.committed⟩
    · split at enabled
      · obtain rfl := Option.some.inj enabled
        exact ⟨unused.pending, unused.keyId, unused.committed⟩
      · obtain ⟨oci, -, rfl⟩ := Option.map_eq_some_iff.mp enabled
        exact ⟨unused.pending, unused.keyId, unused.committed⟩
  unfold WifiIface.newFourway at made
  dsimp only at made
  split at made
  · obtain ⟨built, base, rest⟩ := Option.bind_eq_some_iff.mp made
    obtain ⟨ft, -, rfl⟩ := Option.map_eq_some_iff.mp base
    exact configured ⟨rfl, rfl, rfl⟩ rest
  · obtain ⟨built, base, rest⟩ := Option.bind_eq_some_iff.mp made
    obtain ⟨key, -, rfl⟩ := Option.map_eq_some_iff.mp base
    exact configured ⟨rfl, rfl, rfl⟩ rest

omit [Primitives] [EapolCodec] in
theorem reached_origin (reached : self.reached env raw = some (fw, call)) :
    self.link.fourway = some fw ∨
      self.link.fourway = none ∧ self.newFourway (env.nonce 0) = some fw := by
  have held {call : HandshakeCall} {found : FourWayState × HandshakeCall}
      (mapped : self.link.fourway.map (·, call) = some found) : self.link.fourway = some found.1 := by
    obtain ⟨fw, found, rfl⟩ := Option.map_eq_some_iff.mp mapped
    exact found
  unfold WifiIface.reached at reached
  split at reached
  · cases reached
  split at reached
  · cases reached
  split at reached
  · cases reached
  split at reached
  · split at reached
    · cases reached
    · obtain ⟨state, found, same⟩ := Option.map_eq_some_iff.mp reached
      cases same
      rcases Option.or_eq_some_iff.mp found with some | made
      · exact .inl some
      · exact .inr made
  split at reached
  · exact .inl (held reached)
  split at reached
  · exact .inl (held reached)
  · cases reached

omit [EapolCodec] in
theorem WifiIface.Ready.reached (ready : self.Ready) (reached : self.reached env raw = some (fw, call)) :
    fw.Staged ∧ fw.keyId = none := by
  rcases reached_origin reached with held | ⟨-, made⟩
  · exact ready fw held
  · have unused := newFourway_unused made
    refine ⟨fun pending => ?_, unused.keyId⟩
    rw [unused.pending] at pending
    cases pending

omit [Primitives] [EapolCodec] in
theorem armed_origin
    (reached : self.reached env raw = some (fw, call)) : fw.armed = self.link.fourway.bind (·.armed) := by
  rcases reached_origin reached with held | ⟨none, made⟩
  · rw [held]
    rfl
  · rw [none, FourWayState.armed, (newFourway_unused made).pending]
    rfl

theorem frameStep_handled {input : Env × Octets} (ready : self.Ready) (lasts : self.Lasts input)
    (unrepeated : self.Unrepeated input) :
    self.Handled (self.reached input.1 input.2) (self.frameStep input) := by
  apply handleControlPortFrame_handled lasts
  intro fw call reached
  obtain ⟨staged, plain⟩ := ready.reached reached
  exact ⟨staged, (unrepeated (fw, call) reached).1, plain⟩

theorem WifiIface.Ready.step {input : Env × Octets} (ready : self.Ready) (lasts : self.Lasts input)
    (unrepeated : self.Unrepeated input) : (self.frameStep input).Ready := by
  have handled := frameStep_handled ready lasts unrepeated
  generalize reached : self.reached input.1 input.2 = outcome at handled
  cases handled with
  | idle holds =>
    intro fw found
    exact ready fw (holds.fourway.symm.trans found)
  | @called fw call _ gains =>
    intro later found
    obtain ⟨_, _, holds, -⟩ := gains
    cases holds.fourway.symm.trans found
    obtain ⟨staged, plain⟩ := ready.reached reached
    have effect := fw.effect_of_call call
    exact ⟨effect.staged staged, effect.keyId ⟨(unrepeated (fw, call) reached).1, plain⟩⟩

def WifiIface.Regular (self : WifiIface) (input : Env × Octets) : Prop :=
  self.Lasts input ∧ self.Unrepeated input

open FourWayState (Alternates promotedTks)

/-- The run lemma of the nonces: all promoted PTKs come from one key, each from nonces of its own. -/
theorem keyEvents_alternate {inputs : List (Env × Octets)} (ready : self.Ready)
    (regular : Admitted WifiIface.frameStep WifiIface.Regular self inputs) :
    (∀ fw, (runInputs WifiIface.frameStep self inputs).link.fourway = some fw →
      Alternates fw.ptkOf (self.link.fourway.bind (·.armed)) (self.keyEvents inputs) ∧
        ∀ start, self.link.fourway = some start → fw.ptkOf = start.ptkOf) ∧
    ((runInputs WifiIface.frameStep self inputs).link.fourway = none →
      self.link.fourway = none ∧ self.keyEvents inputs = []) := by
  induction inputs generalizing self with
  | nil =>
    refine ⟨fun fw found => ⟨trivial, fun start held => ?_⟩, fun none => ⟨none, rfl⟩⟩
    cases found.symm.trans held
    rfl
  | cons input inputs ih =>
    obtain ⟨⟨lasts, unrepeated⟩, regular⟩ := regular
    obtain ⟨some, none⟩ := ih (ready.step lasts unrepeated) regular
    have handled := frameStep_handled ready lasts unrepeated
    rw [WifiIface.keyEvents]
    generalize reached : self.reached input.1 input.2 = outcome at handled ⊢
    cases handled with
    | idle holds =>
      rw [holds.fourway] at some none
      exact ⟨some, none⟩
    | @called fw call _ gains =>
      obtain ⟨_, _, holds, -⟩ := gains
      rw [holds.fourway] at some none
      constructor
      · intro final found
        obtain ⟨alternates, same⟩ := some final found
        have effect := fw.effect_of_call call
        have key := (same _ rfl).trans effect.ptkOf
        rw [key] at alternates ⊢
        refine ⟨?_, fun start held => ?_⟩
        · rw [← armed_origin reached]
          exact effect.alternates (ready.reached reached).1 alternates
        · rcases reached_origin reached with same | ⟨absent, -⟩
          · cases same.symm.trans held
            rfl
          · cases absent.symm.trans held
      · exact fun lost => nomatch (none lost).1

/-- The run lemma of the pairwise keys. -/
theorem pairwiseKeys_run {inputs : List (Env × Octets)} (ready : self.Ready)
    (regular : Admitted WifiIface.frameStep WifiIface.Regular self inputs) :
    ∃ tks, pairwiseKeys (runInputs WifiIface.frameStep self inputs).trace = pairwiseKeys self.trace ++ tks ∧
      tks.Sublist (promotedTks (self.keyEvents inputs)) := by
  induction inputs generalizing self with
  | nil => exact ⟨[], (List.append_nil _).symm, .slnil⟩
  | cons input inputs ih =>
    obtain ⟨⟨lasts, unrepeated⟩, regular⟩ := regular
    obtain ⟨later, grown, few⟩ := ih (ready.step lasts unrepeated) regular
    have handled := frameStep_handled ready lasts unrepeated
    rw [runInputs_cons, WifiIface.keyEvents, grown]
    generalize self.reached input.1 input.2 = outcome at handled ⊢
    cases handled with
    | idle holds =>
      rw [holds.pairwise]
      exact ⟨later, rfl, few⟩
    | called gains =>
      obtain ⟨tks, _, holds, promoted, -⟩ := gains
      rw [holds.pairwise, List.append_assoc]
      refine ⟨tks ++ later, rfl, ?_⟩
      unfold FourWayState.promotedTks FourWayState.promotedPtks
      rw [List.filterMap_append, List.map_append]
      exact promoted.append few

/-- A frame hands over no group key that the kernel has. -/
theorem groupKeys_step {input : Env × Octets} (ready : self.Ready) (regular : self.Regular input)
    (nodup : (groupKeys self.trace).Nodup) : (groupKeys (self.frameStep input).trace).Nodup := by
  have handled := frameStep_handled ready regular.1 regular.2
  generalize reached : self.reached input.1 input.2 = outcome at handled
  cases handled with
  | idle holds =>
    rw [holds.group]
    exact nodup
  | @called fw call _ gains =>
    obtain ⟨_, gtks, holds, -, few⟩ := gains
    rw [holds.group]
    have apart := (regular.2 (fw, call) reached).2
    rcases carried : fw.carried call with _ | gtk
    · rw [carried, Option.toList_none, List.sublist_nil] at few
      rw [few, List.append_nil]
      exact nodup
    · rw [carried] at few
      refine List.nodup_append.mpr ⟨nodup, few.nodup (List.pairwise_singleton _ _), ?_⟩
      intro key held other repeated same
      obtain rfl := List.mem_singleton.mp (few.subset repeated)
      exact apart other carried (same ▸ held)

/-- The frames of an association hand over each pairwise key and each group key once, if none repeats a
group key and Extended Key ID is not used. -/
theorem keys_handed_over_once (self : WifiIface) (inputs : List (Env × Octets))
    (started : self.link.fourway = none)
    (keyless : pairwiseKeys self.trace = [] ∧ groupKeys self.trace = [])
    (lasts : Admitted WifiIface.frameStep WifiIface.Lasts self inputs)
    (unrepeated : Admitted WifiIface.frameStep WifiIface.Unrepeated self inputs)
    (unforeseen : FourWayState.Unforeseen (self.keyEvents inputs))
    (collisionless : ∀ fw, (runInputs WifiIface.frameStep self inputs).link.fourway = some fw →
      fw.TkCollisionless (self.keyEvents inputs)) :
    (pairwiseKeys (runInputs WifiIface.frameStep self inputs).trace).Nodup ∧
      (groupKeys (runInputs WifiIface.frameStep self inputs).trace).Nodup := by
  have ready : self.Ready := by
    intro fw held
    rw [started] at held
    cases held
  have regular := lasts.and unrepeated
  constructor
  · obtain ⟨tks, grown, few⟩ := pairwiseKeys_run ready regular
    rw [grown, keyless.1]
    apply few.nodup
    obtain ⟨some, none⟩ := keyEvents_alternate ready regular
    rcases final : (runInputs WifiIface.frameStep self inputs).link.fourway with _ | fw
    · rw [(none final).2]
      exact List.nodup_nil
    · obtain ⟨alternates, -⟩ := some fw final
      rw [started] at alternates
      exact FourWayState.promotedPtks_map_nodup alternates unforeseen (collisionless fw final)
  · have kept : (runInputs WifiIface.frameStep self inputs).Ready ∧
        (groupKeys (runInputs WifiIface.frameStep self inputs).trace).Nodup := by
      apply run_invariant (I := fun s : WifiIface => s.Ready ∧ (groupKeys s.trace).Nodup) ?_ ?_ regular
      · exact fun s input held regular =>
          ⟨held.1.step regular.1 regular.2, groupKeys_step held.1 regular held.2⟩
      · exact ⟨ready, keyless.2 ▸ List.nodup_nil⟩
    exact kept.2

end

section Sample

@[reducible] def keyedCodec : EapolCodec :=
  { sampleCodec with
    parseKeyDataKdes := fun keyData =>
      { sampleCodec.parseKeyDataKdes keyData with
        gtk := (sampleKde 1 keyData).bind fun
          | index :: key => some (index, key)
          | [] => none } }

def sampleBlock (length : Nat) (octets : Octets) : Block length :=
  ⟨beOctets length (beNat (octets.take length)), beOctets_length _ _⟩

@[reducible] def keyedElements : Elements :=
  { plainElements with
    apRsneSupportsExtKeyId := fun _ => true
    parseEapolKey := fun raw => raw.head?.map fun bits =>
      { frame :=
          { replayCounter := UInt64.ofNat (beNat ((raw.drop 2).take 8))
            keyNonce := sampleBlock 32 (raw.drop 10)
            keyRsc := filled 8 0
            keyMic := sampleBlock 16 (raw.drop 42)
            keyData := raw.drop 58
            isEncryptedData := true
            descVersion := 0
            raw := raw }
        isRequest := false
        hasMic := bits.toNat.testBit 0
        hasAck := bits.toNat.testBit 1
        isSecure := bits.toNat.testBit 2
        isPairwise := bits.toNat.testBit 3 } }

attribute [local instance] Core.closedTls idleSae idleOwe keyedElements samplePrimitives keyedCodec

def sampleKeyFrame (self : Option FourWayState) (bits : UInt8) (replayCounter : UInt64) (plain : Octets) :
    Env × Octets :=
  let raw (keyData : Octets) := [bits, 3] ++ be64 replayCounter ++ (filled 32 6).val ++ zeroMic.val ++ keyData
  let ptk := (self.bind FourWayState.handshakePtk).getD (filled 48 0)
  let keyData := if plain = [] then []
    else beOctets 8 (checksum ((FourWayState.kekOf ptk).val ++ plain)) ++ plain
  let signed := self.bind fun fw => (fw.withMic (FourWayState.kckOf ptk) (raw keyData)).toOption
  (willingEnv, signed.getD (raw keyData))

def sampleKeys (gtk : UInt8) : Octets :=
  [48, 2, 1, 0, 0xDD, 6, 0x00, 0x0F, 0xAC, 10, 1, 0, 0xDD, 10, 0x00, 0x0F, 0xAC, 1, 1, gtk, 0, 0, 0, 0]

def associatedIface (extKeyId : Bool) : WifiIface :=
  after (startAttempt willingEnv { homeNetwork with extKeyId := extKeyId } (homeBss .wpa2Psk)) idleIface

def handshakeFrames (self : WifiIface) (first second : UInt8) : List (Env × Octets) :=
  let message1 := sampleKeyFrame none 2 1 []
  let answered := self.frameStep message1
  let message3 := sampleKeyFrame answered.link.fourway 15 2 (sampleKeys first)
  [message1, message3, sampleKeyFrame (answered.frameStep message3).link.fourway 7 3 (sampleKeys second)]

def rekeyFrames : List (Env × Octets) := handshakeFrames (associatedIface false) 1 2

theorem keys_handed_over_once_rekey :
    (groupKeys (runInputs WifiIface.frameStep (associatedIface false) rekeyFrames).trace).length = 2 ∧
    (pairwiseKeys (runInputs WifiIface.frameStep (associatedIface false) rekeyFrames).trace).Nodup ∧
    (groupKeys (runInputs WifiIface.frameStep (associatedIface false) rekeyFrames).trace).Nodup := by
  have collisionless : ∀ fw ∈ (runInputs WifiIface.frameStep (associatedIface false) rekeyFrames).link.fourway,
      fw.TkCollisionless ((associatedIface false).keyEvents rekeyFrames) := by
    decide +kernel
  refine ⟨by decide +kernel, keys_handed_over_once (associatedIface false) rekeyFrames ?_ ?_ ?_ ?_ ?_ ?_⟩
  · decide +kernel
  · decide +kernel
  · decide +kernel
  · decide +kernel
  · decide +kernel
  · exact collisionless

/-- With Extended Key ID one Message 3 hands over the pairwise key twice, and a group rekey may hand over
the group key that is already there. -/
theorem keys_handed_over_again :
    ¬(pairwiseKeys (runInputs WifiIface.frameStep (associatedIface true)
      (handshakeFrames (associatedIface true) 1 2)).trace).Nodup ∧
    ¬(groupKeys (runInputs WifiIface.frameStep (associatedIface false)
      (handshakeFrames (associatedIface false) 1 1)).trace).Nodup := by
  decide +kernel

end Sample

end Shuli.Wifi
