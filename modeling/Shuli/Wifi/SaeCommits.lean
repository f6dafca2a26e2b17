import Shuli.Wifi.OpenAssociation
import Shuli.Wifi.SaeAuth

/-!
Commits of an SAE exchange: the token that an AP demands is echoed by a commit that differs in
nothing else, the elements of a commit are read back as they were written, and a commit that is our
own again is discarded.
-/

namespace Shuli.Wifi

open Fallible
open Shuli.Core (Tls)

section

/-! ### The elements of a commit -/

/-- What the extended elements of a commit hold, in their order. -/
def commitEntries (h2e : Bool) (token passwordId : Option Octets) (akmSelector : Option (Block 4)) :
    List (UInt8 × Octets) :=
  (passwordId.map (extPasswordIdentifier, ·)).toList ++
    (if h2e then (token.map (extAntiCloggingToken, ·)).toList else []) ++
    (akmSelector.map fun selector => (extAkmSuiteSelector, selector.val)).toList

theorem parseElementsLoop_extended {content : Octets} (fits : content.length ≤ 254) (bound : Nat) (extension : UInt8)
    (rest : Octets) : parseElementsLoop (bound + 1) (extendedElement extension content ++ rest) =
      (parseElementsLoop bound rest).map ((extension, content) :: ·) := by
  have width : (1 + UInt8.ofNat content.length).toNat = content.length + 1 := by
    rw [UInt8.toNat_add, UInt8.toNat_ofNat', Nat.mod_eq_of_lt (a := content.length) (by omega)]
    change (1 + content.length) % 256 = _
    omega
  have within : ¬(1 + UInt8.ofNat content.length = 0 ∨
      (extension :: (content ++ rest)).length < (1 + UInt8.ofNat content.length).toNat) := by
    rw [← UInt8.toNat_inj, width, List.length_cons, List.length_append]
    change ¬(content.length + 1 = 0 ∨ _)
    omega
  rw [show extendedElement extension content ++ rest =
    255 :: (1 + UInt8.ofNat content.length) :: extension :: (content ++ rest) from rfl, parseElementsLoop,
    if_neg within, width, List.drop_succ_cons, List.drop_left]
  cases parseElementsLoop bound rest with
  | error error => rfl
  | ok parsed =>
    rw [List.take_succ_cons, List.take_left]
    rfl

theorem parseElementsLoop_entries {entries : List (UInt8 × Octets)} (fit : ∀ entry ∈ entries, entry.2.length ≤ 254)
    {bound : Nat} (enough : (entries.flatMap fun entry => extendedElement entry.1 entry.2).length ≤ bound) :
    parseElementsLoop bound (entries.flatMap fun entry => extendedElement entry.1 entry.2) = .ok entries := by
  induction entries generalizing bound with
  | nil => cases bound <;> rfl
  | cons entry entries ih =>
    rw [List.flatMap_cons] at enough
    cases bound with
    | zero => simp [extendedElement] at enough
    | succ bound =>
      have shorter : (entries.flatMap fun entry => extendedElement entry.1 entry.2).length ≤ bound := by
        simp only [extendedElement, List.length_append, List.length_cons] at enough ⊢
        omega
      have rest := ih (fun other mem => fit other (List.mem_cons_of_mem _ mem)) shorter
      rw [List.flatMap_cons, parseElementsLoop_extended (fit entry (List.mem_cons_self ..)), rest]
      rfl

/-- The octets of a commit: the token of hunting-and-pecking stands before the scalar, and the
elements after the element are the given entries. -/
def Carries (authData : Octets) (h2e : Bool) (group : UInt16) (scalar element : Octets)
    (token passwordId : Option Octets) (akmSelector : Option (Block 4)) : Prop :=
  ∃ elements, authData = le16 1 ++ le16 (if h2e then saeStatusH2e else 0) ++ le16 group ++
      (if h2e then [] else token.getD []) ++ scalar ++ element ++ elements ∧
    parseCommitElements elements = .ok (commitEntries h2e token passwordId akmSelector)

theorem buildCommitAuthData_carries {h2e : Bool} {token passwordId : Option Octets} (group : UInt16)
    (scalar element : Octets) (akmSelector : Option (Block 4)) (tokenFits : h2e → ∀ octets ∈ token, octets.length ≤ 254)
    (idFits : ∀ octets ∈ passwordId, octets.length ≤ 254) :
    Carries (buildCommitAuthData h2e group scalar element token passwordId akmSelector) h2e group scalar element
      token passwordId akmSelector := by
  refine ⟨(commitEntries h2e token passwordId akmSelector).flatMap fun entry => extendedElement entry.1 entry.2,
    ?_, ?_⟩
  · cases passwordId <;> cases akmSelector <;> cases token <;> cases h2e <;>
      simp [buildCommitAuthData, commitEntries]
  · refine parseElementsLoop_entries (fun entry mem => ?_) le_rfl
    simp only [commitEntries, List.mem_append, Option.mem_toList, Option.map_eq_some_iff] at mem
    rcases mem with (⟨id, given, rfl⟩ | mem) | ⟨selector, _, rfl⟩
    · exact idFits id given
    · split at mem
      · obtain ⟨octets, given, rfl⟩ := by simpa using mem
        exact tokenFits ‹_› octets given
      · cases mem
    · simp [selector.property]

/-- The token of a container is shorter than the container. -/
theorem parseAntiCloggingToken_length {payload token : Octets}
    (accepted : parseAntiCloggingToken true payload = .ok token) : token.length ≤ 254 := by
  unfold parseAntiCloggingToken at accepted
  split at accepted
  · cases accepted
  simp only [Bool.not_true, Bool.false_eq_true, if_false] at accepted
  split at accepted
  · cases accepted
  · split at accepted
    · cases accepted
    · cases accepted
      have bound := ((payload.drop 2).getD 1 0).toNat_lt
      rw [List.length_take]
      omega

variable [P256]

/-- A new commit changes only what belongs to it. -/
theorem generateCommit_own {self own : SaeAuth} {rng : Rng} (committed : self.generateCommit rng = .ok own) :
    own.peerScalar = self.peerScalar ∧ own.confirmed = self.confirmed ∧ own.h2e = self.h2e ∧
      own.passwordId = self.passwordId := by
  simp only [SaeAuth.generateCommit, Except.bind_eq_ok] at committed
  obtain ⟨_, _, _, _, same⟩ := committed
  cases same
  exact ⟨rfl, rfl, rfl, rfl⟩

/-- The commit that answers a demanded token is the first one with the token, and the elements of a
commit are read back, just when the scalar of the first commit is not zero. -/
theorem token_echo_iff {self own : SaeAuth} {rng : Rng} {first payload token : Octets}
    (unanswered : self.peerScalar = none) (unconfirmed : self.confirmed = false)
    (committed : self.buildInitAuthMsg rng = .ok (first, own))
    (accepted : parseAntiCloggingToken own.h2e payload = .ok token)
    (idFits : ∀ id ∈ self.passwordId, (asBytes id).length ≤ 254) :
    (Carries first own.h2e saeGroup19Id own.ownScalarBytes.val own.ownElemBytes.val none
        (own.passwordId.map asBytes) own.akmSelector ∧
      (∀ again, (own.generateCommit again).isOk → ∃ retried next,
        own.buildCommitWithToken token again = .ok (retried, next) ∧
        Carries retried own.h2e saeGroup19Id own.ownScalarBytes.val own.ownElemBytes.val (some token)
          (own.passwordId.map asBytes) own.akmSelector) ∧
      ∀ (h2e : Bool) (group : UInt16) (scalar element : Octets) (token passwordId : Option Octets)
        (akmSelector : Option (Block 4)), (∀ octets ∈ token, octets.length ≤ 254) →
        (∀ octets ∈ passwordId, octets.length ≤ 254) →
        Carries (buildCommitAuthData h2e group scalar element token passwordId akmSelector) h2e group scalar element
          token passwordId akmSelector) ↔
      own.ownScalarBytes ≠ zeroBlock 32 := by
  obtain ⟨generated, drawn, same⟩ := Except.bind_eq_ok.mp committed
  cases same
  obtain ⟨sameScalar, sameConfirmed, -, sameId⟩ := generateCommit_own drawn
  have idFits : ∀ octets ∈ own.passwordId.map asBytes, octets.length ≤ 254 := by
    rw [sameId]
    simpa using idFits
  have tokenFits (h2e : own.h2e) : ∀ octets ∈ some token, octets.length ≤ 254 := by
    intro octets given
    cases given
    rw [h2e] at accepted
    exact parseAntiCloggingToken_length accepted
  have retries (again : Rng) : own.buildCommitWithToken token again =
      (if own.ownScalarBytes = zeroBlock 32 then own.generateCommit again else .ok own) >>= fun next =>
        .ok (next.commitAuthData (some token), next) := by
    rw [SaeAuth.buildCommitWithToken, sameScalar, sameConfirmed, unanswered, unconfirmed]
    exact if_neg (by simp)
  constructor
  · rintro ⟨-, echoes, -⟩ zero
    -- two other draws give a scalar that is not zero
    obtain ⟨retried, next, built, elements, same, -⟩ := echoes ⟨[1, 1], ""⟩ rfl
    rw [retries, if_pos zero] at built
    obtain ⟨_, redrawn, result⟩ := Except.bind_eq_ok.mp built
    cases result
    have fresh : next.ownScalarBytes = scalarToArray (1 + 1) := by
      cases redrawn
      rfl
    obtain ⟨-, -, sameH2e, -⟩ := generateCommit_own redrawn
    simp only [SaeAuth.commitAuthData, buildCommitAuthData, sameH2e, List.append_assoc,
      List.append_cancel_left_eq] at same
    have scalars := List.append_inj_left same (by rw [next.ownScalarBytes.property, own.ownScalarBytes.property])
    rw [fresh, zero] at scalars
    exact absurd scalars (by decide)
  · intro nonzero
    refine ⟨buildCommitAuthData_carries _ _ _ _ (fun _ _ given => nomatch given) idFits, fun again _ => ?_,
      fun h2e group scalar element token passwordId akmSelector tokenFits => ?_⟩
    · refine ⟨own.commitAuthData (some token), own, ?_, buildCommitAuthData_carries _ _ _ _ tokenFits idFits⟩
      rw [retries, if_neg nonzero]
      rfl
    · exact buildCommitAuthData_carries group scalar element akmSelector fun _ => tokenFits

end

section

@[reducible] def scalarCurve : P256 where
  Point := Scalar
  coordinates point :=
    if point = 0 then none
    else some ⟨(scalarToArray point).val ++ (zeroBlock 32).val, by
      rw [List.length_append, (scalarToArray point).property, (zeroBlock 32).property]⟩
  fromCoordinates octets := fromRepr (octets.val.take 32)
  sqrt := some
  hkdfExpand prk info := ⟨beOctets 48 (checksum (prk.val ++ asBytes info)), beOctets_length ..⟩
  mapToCurve octets := beNat octets.val
  rng random := ⟨random.map fun octet => octet.toNat, ""⟩

attribute [local instance] scalarCurve

def sampleSae : SaeAuth where
  pwe := (5 : Scalar)
  h2e := true
  hnpFallback := false
  passwordId := some "guest"

def tokenPayload : Octets := le16 saeGroup19Id ++ extendedElement extAntiCloggingToken [8, 9]

def committedSae : SaeAuth := (sampleSae.generateCommit ⟨[3, 4], ""⟩).toOption.getD sampleSae

theorem token_echo_kept : ∃ retried next,
    committedSae.buildCommitWithToken [8, 9] ⟨[5, 6], ""⟩ = .ok (retried, next) ∧
    Carries retried true saeGroup19Id (beOctets 32 7) committedSae.ownElemBytes.val (some [8, 9])
      (some (asBytes "guest")) none :=
  ((@token_echo_iff _ sampleSae committedSae ⟨[3, 4], ""⟩ _ tokenPayload [8, 9] rfl rfl rfl rfl
    (by decide +kernel)).mpr (by decide +kernel)).2.1 ⟨[5, 6], ""⟩ (by decide +kernel)

/-- Two draws whose sum is zero: the commit with the token has another scalar. -/
theorem token_commit_redrawn : (do
    let (first, own) ← sampleSae.buildInitAuthMsg ⟨[3, -3], ""⟩
    let token ← parseAntiCloggingToken own.h2e tokenPayload
    let (retried, _) ← own.buildCommitWithToken token ⟨[3, 4], ""⟩
    return ((first.drop 6).take 32, (retried.drop 6).take 32)) = .ok (beOctets 32 0, beOctets 32 7) := by
  decide +kernel

end

/-! ### Reflected commits -/

section

variable [P256] [Primitives]

structure SaeFrame.Reflects (frame : SaeFrame) (own : SaeAuth) : Prop where
  transaction : frame.transaction = 1
  status : frame.statusCode = 0 ∨ frame.statusCode = saeStatusH2e
  scalar : (frame.body.drop 2).take 32 = own.ownScalarBytes.val
  element : (frame.body.drop 34).take 64 = own.ownElemBytes.val

theorem reflected_refused (own : SaeAuth) (elements : Octets) (result : Octets × SaeAuth) :
    own.processCommitWithElements own.ownScalarBytes.val own.ownElemBytes.val elements ≠ .ok result := by
  intro accepted
  simp only [SaeAuth.processCommitWithElements, Except.bind_eq_ok, Except.guard_eq_ok] at accepted
  obtain ⟨_, _, _, differs, _⟩ := accepted
  exact differs ⟨List.take_of_length_le own.ownScalarBytes.property.le,
    List.take_of_length_le own.ownElemBytes.property.le⟩

variable {own : SaeAuth}

theorem acceptSaeFrame_reflected {body : Octets}
    (scalar : (body.drop 2).take 32 = own.ownScalarBytes.val)
    (element : (body.drop 34).take 64 = own.ownElemBytes.val) :
    ∃ error, exec (acceptSaeFrame 1 body) own = (.error error, own) := by
  have long : ¬body.length < 2 + 32 + 64 := by
    have length := own.ownElemBytes.property
    rw [← element, List.length_take, List.length_drop] at length
    omega
  rw [acceptSaeFrame, if_pos rfl, if_neg long, exec_get_bind]
  split
  · exact ⟨_, rfl⟩
  · cases outcome : own.processCommitWithElements own.ownScalarBytes.val own.ownElemBytes.val (body.drop 98) with
    | ok result => exact absurd outcome (reflected_refused own _ result)
    | error error =>
      refine ⟨error, ?_⟩
      have called : @Sae.processCommitWithElements saeAuth own ((body.drop 2).take 32)
          ((body.drop 34).take 64) (body.drop 98) = (.error error, own) := by
        rw [scalar, element]
        change own.settle (own.processCommitWithElements _ _ _) = _
        rw [outcome]
        rfl
      rw [onSae, exec_bind, exec_get_bind, called]
      rfl

theorem processSaeFrame_reflected {frame : SaeFrame} (unconfirmed : own.confirmed = false)
    (reflects : frame.Reflects own) :
    ∃ error, exec (processSaeFrame frame.transaction frame.statusCode frame.body) own = (.error error, own) := by
  obtain ⟨error, refused⟩ := acceptSaeFrame_reflected reflects.scalar reflects.element
  refine ⟨error, refused ▸ ?_⟩
  have unconfirmed : ¬@Sae.confirmed saeAuth own = true := Bool.eq_false_iff.mp unconfirmed
  rw [reflects.transaction, processSaeFrame, exec_get_bind, if_neg unconfirmed]
  rcases reflects.status with status | status <;> rw [status] <;> rfl

variable [Tls] [Owe] [Elements]

/-- What a reflected commit must not touch. -/
structure WifiIface.SameExchange (s t : WifiIface) : Prop where
  method : t.auth.method = s.auth.method
  sync : t.auth.saeSync = s.auth.saeSync
  state : t.state = s.state
  ignored : t.bssidIgnore = s.bssidIgnore
  error : t.lastError = s.lastError

def WifiIface.authStep (self : WifiIface) (input : Env × AuthFrame) : WifiIface :=
  after (handleAuthFrame input.1 input.2) self

theorem authStep_reflected {self : WifiIface} {input : Env × AuthFrame} {frame : SaeFrame}
    (method : self.auth.method = some own) (unconfirmed : own.confirmed = false)
    (carries : input.2.sae = some frame) (reflects : frame.Reflects own) :
    ∃ error, self.authStep input =
      if frame.bssid = self.link.bssInfo.bssid then self.failedAuth error else self := by
  obtain ⟨error, refused⟩ := processSaeFrame_reflected unconfirmed reflects
  refine ⟨error, ?_⟩
  rw [WifiIface.authStep, handleAuthFrame, after, exec_get_bind, carries, method]
  dsimp only
  split
  · rw [refused]
    change WifiIface.failedAuth { self with auth.method := some own } error = _
    rw [← method]
  · rfl

/-- Frames of another BSS change nothing; one of ours ends the attempt for good. -/
theorem run_reflected (unconfirmed : own.confirmed = false) {inputs : List (Env × AuthFrame)}
    (reflected : ∀ input ∈ inputs, ∃ frame, input.2.sae = some frame ∧ frame.Reflects own) {self : WifiIface}
    (method : self.auth.method = some own) :
    (∀ input ∈ inputs, ∀ frame ∈ input.2.sae, frame.bssid ≠ self.link.bssInfo.bssid) ∧
        runInputs WifiIface.authStep self inputs = self ∨
      (∃ input ∈ inputs, ∃ frame ∈ input.2.sae, frame.bssid = self.link.bssInfo.bssid) ∧
        (runInputs WifiIface.authStep self inputs).state = .failedAuthentication := by
  induction inputs generalizing self with
  | nil => exact .inl ⟨by simp, rfl⟩
  | cons input inputs ih =>
    obtain ⟨frame, carries, reflects⟩ := reflected input (List.mem_cons_self ..)
    have rest (next : WifiIface) := @ih (fun other mem => reflected other (List.mem_cons_of_mem _ mem)) next
    obtain ⟨error, stepped⟩ := authStep_reflected method unconfirmed carries reflects
    rw [runInputs_cons, stepped]
    by_cases ours : frame.bssid = self.link.bssInfo.bssid
    · rw [if_pos ours]
      refine .inr ⟨⟨input, List.mem_cons_self .., frame, carries, ours⟩, ?_⟩
      rcases rest (self.failedAuth error) method with ⟨-, same⟩ | ⟨-, failed⟩
      · rw [same]
        rfl
      · exact failed
    · rw [if_neg ours]
      rcases rest self method with ⟨others, same⟩ | ⟨⟨other, mem, found⟩, failed⟩
      · exact .inl ⟨List.forall_mem_cons.mpr ⟨by simpa [carries] using ours, others⟩, same⟩
      · exact .inr ⟨⟨other, List.mem_cons_of_mem _ mem, found⟩, failed⟩

/-- Reflected commits leave the exchange alone just when they come from another BSS. -/
theorem reflections_discarded_iff {self : WifiIface} {own : SaeAuth} (method : self.auth.method = some own)
    (unconfirmed : own.confirmed = false) (progress : self.state = .authenticating)
    {inputs : List (Env × AuthFrame)}
    (reflected : ∀ input ∈ inputs, ∃ frame, input.2.sae = some frame ∧ frame.Reflects own) :
    self.SameExchange (runInputs WifiIface.authStep self inputs) ↔
      ∀ input ∈ inputs, ∀ frame ∈ input.2.sae, frame.bssid ≠ self.link.bssInfo.bssid := by
  rcases run_reflected unconfirmed reflected method with ⟨others, run⟩ | ⟨⟨input, mem, frame, carried, ours⟩, failed⟩
  · rw [run]
    exact iff_of_true ⟨rfl, rfl, rfl, rfl, rfl⟩ others
  · refine iff_of_false (fun same => ?_) fun others => others input mem frame carried ours
    cases progress.symm.trans (same.state.symm.trans failed)

end

section

attribute [local instance] scalarCurve samplePrimitives Core.closedTls idleOwe plainElements

def committedIface : WifiIface := { idleIface with state := .authenticating, auth.method := some committedSae }

def mirroredCommit (bssid : MacAddr) : Env × AuthFrame :=
  (willingEnv, ⟨some ⟨bssid, 1, saeStatusH2e, (committedSae.commitAuthData none).drop 4⟩, []⟩)

theorem mirroredCommit_reflects (bssid : MacAddr) :
    SaeFrame.Reflects ⟨bssid, 1, saeStatusH2e, (committedSae.commitAuthData none).drop 4⟩ committedSae where
  transaction := rfl
  status := .inr rfl
  scalar := (by decide +kernel :
    (((committedSae.commitAuthData none).drop 4).drop 2).take 32 = committedSae.ownScalarBytes.val)
  element := (by decide +kernel :
    (((committedSae.commitAuthData none).drop 4).drop 34).take 64 = committedSae.ownElemBytes.val)

theorem reflection_elsewhere :
    committedIface.SameExchange (runInputs WifiIface.authStep committedIface [mirroredCommit (filled 6 3)]) :=
  (reflections_discarded_iff rfl rfl rfl (by
    intro input mem
    cases List.mem_singleton.mp mem
    exact ⟨_, rfl, mirroredCommit_reflects _⟩)).mpr (by
    intro input mem
    cases List.mem_singleton.mp mem
    rintro _ ⟨⟩
    decide)

/-- The AP's address on a reflected commit fails the authentication. -/
theorem reflection_fails : (committedIface.authStep (mirroredCommit (filled 6 2))).state = .failedAuthentication ∧
    SaeFrame.Reflects ⟨filled 6 2, 1, saeStatusH2e, (committedSae.commitAuthData none).drop 4⟩ committedSae :=
  ⟨by decide +kernel, mirroredCommit_reflects _⟩

end

end Shuli.Wifi
