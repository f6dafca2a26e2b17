import Shuli.Wifi.Handshake4

/-!
Downgrade protection of the 4-way handshake. An accepted Message 3 whose key data is not empty
has passed the checks of the RSNE, of a recorded RSNXE, of the operating channel and of the key
id. Two frames pass without them: one without key data, and one with an RSNXE that the beacon did
not have. These are all.
-/

namespace Shuli.Wifi

open Fallible
open Shuli.Core (WifiError handshakeError)

theorem selectKeyId_extended {self : FourWayState} {kdes : KeyDataKdes} {keyId : Option UInt8}
    (selected : self.selectKeyId kdes = .ok keyId) (extended : self.extKeyId = true) :
    ∃ value, kdes.keyId = some value ∧ value ≤ 1 := by
  simp only [FourWayState.selectKeyId, extended, Bool.not_true, Bool.false_eq_true, if_false,
    Except.bind_eq_ok, Except.guard_eq_ok, orThrow_eq_ok] at selected
  obtain ⟨value, present, small, -⟩ := selected
  exact ⟨value, present, UInt8.not_lt.mp small⟩

section

variable [EapolCodec]

theorem verifyOci_eq_ok {keyData : Octets} {freqMhz : UInt32} :
    verifyOci keyData freqMhz = .ok () ↔
      ∃ oci, EapolCodec.parseOciKde keyData = some oci ∧ EapolCodec.matchesFreq oci freqMhz = true := by
  unfold verifyOci
  cases found : EapolCodec.parseOciKde keyData with
  | none => simp
  | some oci =>
    by_cases same : EapolCodec.matchesFreq oci freqMhz = true
    · simp [same]
    · simp [same]

/-- The RSNE of Message 3 is the recorded one, up to the PMKID list with an FT AKM. -/
def FourWayState.rsneAgrees (self : FourWayState) (rsne : Octets) : Prop :=
  if self.ftPmkR1.isSome then EapolCodec.rsneMatchIgnorePmkid rsne self.apRsne = true
  else rsne = self.apRsne

variable {self : FourWayState}

theorem validateApIes_agrees {kdes : KeyDataKdes}
    (validated : self.validateApIes kdes = .ok ()) (recorded : self.apRsne ≠ []) :
    (∃ rsne, kdes.rsne = some rsne ∧ self.rsneAgrees rsne) ∧
      (self.apRsnxe ≠ [] → kdes.rsnxe = some self.apRsnxe) := by
  unfold FourWayState.validateApIes at validated
  rw [if_neg (by simpa using recorded)] at validated
  simp only [Except.bind_eq_ok, Except.guard_eq_ok, orThrow_eq_ok] at validated
  obtain ⟨rsne, present, agrees, rest⟩ := validated
  refine ⟨⟨rsne, present, ?_⟩, ?_⟩
  · unfold FourWayState.rsneAgrees
    by_cases ft : self.ftPmkR1.isSome = true
    · simpa [ft] using agrees
    · simpa [ft] using agrees
  · intro advertised
    by_contra differs
    have refused : (!self.apRsnxe.isEmpty && kdes.rsnxe != some self.apRsnxe) = true := by
      simp [advertised, differs]
    rw [if_pos refused] at rest
    cases rest

variable [Primitives]

structure KeyDataChecked (state : FourWayState) (frame : EapolKeyFrame) (kek : Block kekLen)
    (plain : Octets) : Prop where
  derived : state.kek = some kek
  opened : aesKeyUnwrap kek frame.keyData = .ok plain
  oci : state.ocv = true → verifyOci plain state.freqMhz = .ok ()
  keyId : ∃ keyId, state.selectKeyId (EapolCodec.parseKeyDataKdes plain) = .ok keyId
  apIes : state.validateApIes (EapolCodec.parseKeyDataKdes plain) = .ok ()

variable {frame : EapolKeyFrame}

theorem openKeyData_eq_ok {kek : Option (Block kekLen)} {plainText : String} {plain : Octets}
    (success : openKeyData self kek frame plainText = .ok plain) :
    ∃ key, kek = some key ∧ aesKeyUnwrap key frame.keyData = .ok plain ∧
      (self.ocv = true → verifyOci plain self.freqMhz = .ok ()) := by
  simp only [openKeyData, Except.bind_eq_ok, Except.guard_eq_ok, orThrow_eq_ok] at success
  obtain ⟨key, derived, -, opened, unwrapped, rest⟩ := success
  by_cases ocv : self.ocv = true
  · rw [if_pos ocv, Except.bind_eq_ok] at rest
    obtain ⟨_, verified, same⟩ := rest
    obtain rfl := Except.ok.inj same
    exact ⟨key, derived, unwrapped, fun _ => verified⟩
  · rw [if_neg ocv] at rest
    obtain rfl := Except.ok.inj rest
    exact ⟨key, derived, unwrapped, fun on => absurd on ocv⟩

theorem takeKeyData_checked (self : FourWayState) (frame : EapolKeyFrame) :
    Ends (takeKeyData frame) self fun result _ =>
      ∀ kdes, result = .ok kdes → ∃ kek plain, KeyDataChecked self frame kek plain := by
  apply Ends.get_bind
  apply Ends.liftM_bind (fun _ _ _ impossible => by cases impossible)
  intro plain success
  obtain ⟨kek, derived, opened, oci⟩ := openKeyData_eq_ok success
  apply Ends.liftM_bind (fun _ _ _ impossible => by cases impossible)
  intro keyId selected
  apply Ends.modify_bind
  apply Ends.liftM_bind (fun _ _ _ impossible => by cases impossible)
  intro _ validated
  intro _ _
  exact ⟨kek, plain, derived, opened, oci, ⟨keyId, selected⟩, validated⟩

theorem KeyDataChecked.before_accept {kek : Block kekLen} {plain : Octets} {counter : UInt64}
    (checked : KeyDataChecked (self.acceptCounter counter).endPending frame kek plain) :
    KeyDataChecked self frame kek plain :=
  ⟨checked.derived, checked.opened, checked.oci, checked.keyId, checked.apIes⟩

/-- An accepted Message 3 carries no key data or checked key data. -/
theorem processMessage3_checked (self : FourWayState) (frame : EapolKeyFrame) :
    Ends (processMessage3 frame) self fun result _ => ∀ reply, result = .ok reply →
      frame.keyData = [] ∨ ∃ kek plain, KeyDataChecked self frame kek plain := by
  apply Ends.get_bind
  apply Ends.liftM_bind (fun _ _ _ impossible => by cases impossible)
  intro pending _
  apply Ends.ite
  · intro _ _ impossible
    cases impossible
  intro _
  apply Ends.ite
  · intro _ _ impossible
    cases impossible
  intro _
  apply Ends.liftM_bind (fun _ _ _ impossible => by cases impossible)
  intro kck _
  apply Ends.liftM_bind (fun _ _ _ impossible => by cases impossible)
  intro _ _
  apply Ends.modify_bind
  apply Ends.ite
  · intro empty
    exact fun _ _ => .inl (List.isEmpty_iff.mp empty)
  · intro _
    apply Ends.bind (takeKeyData_checked _ frame)
    · intro _ _ _ _ impossible
      cases impossible
    · intro kdes after taken _ _
      obtain ⟨kek, plain, checked⟩ := taken kdes rfl
      exact .inr ⟨kek, plain, checked.before_accept⟩

/-- The decrypted key data of a Message 3 names the recorded security: its RSNE is the recorded
one, it has an RSNXE exactly when one was recorded and then that one, the operating channel was
verified when OCV is on, and a key id was selected when Extended Key ID is on. -/
structure DowngradeProtected (state : FourWayState) (plain : Octets) : Prop where
  rsne : ∃ rsne, (EapolCodec.parseKeyDataKdes plain).rsne = some rsne ∧ state.rsneAgrees rsne
  rsnxe : (EapolCodec.parseKeyDataKdes plain).rsnxe =
    if state.apRsnxe = [] then none else some state.apRsnxe
  oci : state.ocv = true → ∃ oci, EapolCodec.parseOciKde plain = some oci ∧
    EapolCodec.matchesFreq oci state.freqMhz = true
  keyId : state.extKeyId = true → ∃ value, (EapolCodec.parseKeyDataKdes plain).keyId = some value ∧
    value ≤ 1

/-- `plain` is the key data of the frame, decrypted under the key of the handshake. -/
def FourWayState.Decrypts (self : FourWayState) (frame : EapolKeyFrame) (plain : Octets) : Prop :=
  frame.keyData ≠ [] ∧ ∃ kek, self.kek = some kek ∧ aesKeyUnwrap kek frame.keyData = .ok plain

omit [EapolCodec] in
theorem FourWayState.Decrypts.unique
    {plain other : Octets} (first : self.Decrypts frame plain) (second : self.Decrypts frame other) :
    plain = other := by
  obtain ⟨-, kek, derived, opened⟩ := first
  obtain ⟨-, kek', derived', opened'⟩ := second
  obtain rfl : kek = kek' := Option.some.inj (derived.symm.trans derived')
  exact Except.ok.inj (opened.symm.trans opened')

theorem KeyDataChecked.downgradeProtected {kek : Block kekLen} {plain : Octets}
    (checked : KeyDataChecked self frame kek plain) (recorded : self.apRsne ≠ [])
    (expected : self.apRsnxe = [] → (EapolCodec.parseKeyDataKdes plain).rsnxe = none) :
    DowngradeProtected self plain := by
  obtain ⟨rsne, rsnxe⟩ := validateApIes_agrees checked.apIes recorded
  obtain ⟨_, selected⟩ := checked.keyId
  refine ⟨rsne, ?_, fun on => verifyOci_eq_ok.mp (checked.oci on), selectKeyId_extended selected⟩
  by_cases absent : self.apRsnxe = []
  · rw [if_pos absent]
    exact expected absent
  · rw [if_neg absent]
    exact rsnxe absent

/-- An accepted Message 3 protects against a downgrade exactly when it carries key data and, for a
beacon without RSNXE, this key data has none either. -/
theorem message3_protected_iff (self : FourWayState) (frame : EapolKeyFrame) (reply : Octets × KeyDataKdes)
    (recorded : self.apRsne ≠ []) (accepted : (exec (processMessage3 frame) self).1 = .ok reply) :
    (∃ plain, self.Decrypts frame plain ∧ DowngradeProtected self plain) ↔
      frame.keyData ≠ [] ∧ (self.apRsnxe = [] → ∀ plain, self.Decrypts frame plain →
        (EapolCodec.parseKeyDataKdes plain).rsnxe = none) := by
  constructor
  · rintro ⟨plain, decrypts, guarded⟩
    refine ⟨decrypts.1, fun absent other decrypts' => ?_⟩
    obtain rfl := decrypts.unique decrypts'
    rw [guarded.rsnxe, if_pos absent]
  · rintro ⟨filled, expected⟩
    rcases processMessage3_checked self frame reply accepted with empty | ⟨kek, plain, checked⟩
    · exact absurd empty filled
    · have decrypts : self.Decrypts frame plain := ⟨filled, kek, checked.derived, checked.opened⟩
      exact ⟨plain, decrypts,
        checked.downgradeProtected recorded fun absent => expected absent plain decrypts⟩

end

section Sample

@[reducible] def samplePrimitives : Primitives where
  hmacSha256 key data := checksumBlock 32 (key ++ [0x36] ++ data)
  hmacSha1 key data := checksumBlock 20 (key ++ [0x36] ++ data)
  sha256 data := checksumBlock 32 data
  pbkdf2 password salt := checksumBlock 32 (password ++ salt)
  cmacAes128 key data := checksumBlock 16 (key.val ++ data)
  kwUnwrapKey kek wrapped :=
    if wrapped.take 8 = beOctets 8 (checksum (kek.val ++ wrapped.drop 8)) then
      .ok ⟨wrapped.drop 8, List.length_drop⟩
    else .error "integrity check failed"

def sampleElements : Nat → Octets → List (UInt8 × Octets)
  | bound + 1, id :: length :: rest =>
    (id, id :: length :: rest.take length.toNat) :: sampleElements bound (rest.drop length.toNat)
  | _, _ => []

def sampleKde (kind : UInt8) (keyData : Octets) : Option Octets :=
  (sampleElements keyData.length keyData).findSome? fun
    | (0xDD, _ :: _ :: 0x00 :: 0x0F :: 0xAC :: type :: content) =>
      if type = kind then some content else none
    | _ => none

def samplePdu (descVersion : UInt16) (replayCounter : UInt64) (nonce keyData : Octets) : Octets :=
  be16 descVersion ++ be64 replayCounter ++ nonce ++ List.replicate 16 0 ++ keyData

def sampleSetMic (pdu : Octets) (mic : Block 16) : Octets := pdu.take 42 ++ mic.val ++ pdu.drop 58

def zeroMic : Block 16 := ⟨List.replicate 16 0, List.length_replicate⟩

@[reducible] def sampleCodec : EapolCodec where
  buildMessage2 snonce counter keyData version := samplePdu version counter snonce.val keyData
  buildMessage4 snonce counter version := samplePdu version counter snonce.val []
  buildGroupMessage2 counter keyRsc version := samplePdu version counter (keyRsc.val ++ List.replicate 24 0) []
  pduWithZeroedMic pdu := sampleSetMic pdu zeroMic
  setMic := sampleSetMic
  parseKeyDataKdes keyData :=
    let elements := sampleElements keyData.length keyData
    { rsne := (elements.find? fun element => element.1 = 48).map Prod.snd
      rsnxe := (elements.find? fun element => element.1 = 244).map Prod.snd
      keyId := (sampleKde 10 keyData).bind List.head? }
  parseOciKde keyData := (sampleKde 13 keyData).bind fun
    | [operatingClass, channel, segment] => some ⟨operatingClass, channel, segment⟩
    | _ => none
  buildOciKde oci := [0xDD, 7, 0x00, 0x0F, 0xAC, 13] ++ oci.toBytes
  matchesFreq oci freqMhz := oci.operatingClass = 81 ∧ freqMhz.toNat = 2407 + 5 * oci.channel.toNat
  rsneMatchIgnorePmkid first second := first == second

attribute [local instance] samplePrimitives sampleCodec

def filled (length : Nat) (octet : UInt8) : Block length :=
  ⟨List.replicate length octet, List.length_replicate⟩

def sampleSupplicant (apRsnxe : Octets) : FourWayState :=
  let fresh := FourWayState.newWithApIes (filled 32 1) (filled 32 2) .aesCmac (filled 6 3) (filled 6 4)
    [48, 2, 1, 0] [48, 2, 1, 0] apRsnxe
  after (processMessage1 (filled 32 5) (filled 32 6) 1 0)
    ((fresh.setOcv true ⟨81, 1, 0⟩ 2412).setExtKeyId true)

def sampleMessage3 (self : FourWayState) (plain : Octets) : EapolKeyFrame :=
  let ptk := self.handshakePtk.getD (filled 48 0)
  let keyData := if plain = [] then []
    else beOctets 8 (checksum ((FourWayState.kekOf ptk).val ++ plain)) ++ plain
  let raw := samplePdu 0 2 (filled 32 6).val keyData
  { replayCounter := 2
    keyNonce := filled 32 6
    keyRsc := filled 8 0
    keyMic := Primitives.cmacAes128 (FourWayState.kckOf ptk) raw
    keyData := keyData
    isEncryptedData := true
    descVersion := 0
    raw := raw }

def sampleKeyData : Octets :=
  [48, 2, 1, 0, 244, 1, 32, 0xDD, 6, 0x00, 0x0F, 0xAC, 10, 1, 0,
    0xDD, 7, 0x00, 0x0F, 0xAC, 13, 81, 1, 0]

theorem message3_protected_session :
    ∃ plain, (sampleSupplicant [244, 1, 32]).Decrypts
        (sampleMessage3 (sampleSupplicant [244, 1, 32]) sampleKeyData) plain ∧
      DowngradeProtected (sampleSupplicant [244, 1, 32]) plain := by
  have accepted : (exec (processMessage3 (sampleMessage3 (sampleSupplicant [244, 1, 32]) sampleKeyData))
      (sampleSupplicant [244, 1, 32])).1.toOption.isSome = true := by decide +kernel
  cases outcome : (exec (processMessage3 (sampleMessage3 (sampleSupplicant [244, 1, 32]) sampleKeyData))
      (sampleSupplicant [244, 1, 32])).1 with
  | error e =>
    rw [outcome] at accepted
    cases accepted
  | ok reply =>
    exact (message3_protected_iff _ _ reply (by decide +kernel) outcome).mpr
      ⟨by decide +kernel, fun absent => absurd absent (by decide +kernel)⟩

/-- A Message 3 without key data is accepted whatever was recorded, and so is one with an RSNXE
that was stripped from the beacon. -/
theorem message3_unprotected :
    ((exec (processMessage3 (sampleMessage3 (sampleSupplicant [244, 1, 32]) []))
        (sampleSupplicant [244, 1, 32])).1.toOption.isSome = true ∧
      ¬∃ plain, (sampleSupplicant [244, 1, 32]).Decrypts
        (sampleMessage3 (sampleSupplicant [244, 1, 32]) []) plain ∧
        DowngradeProtected (sampleSupplicant [244, 1, 32]) plain) ∧
    (exec (processMessage3 (sampleMessage3 (sampleSupplicant []) sampleKeyData))
        (sampleSupplicant [])).1.toOption.isSome = true ∧
      ¬∃ plain, (sampleSupplicant []).Decrypts
        (sampleMessage3 (sampleSupplicant []) sampleKeyData) plain ∧
        DowngradeProtected (sampleSupplicant []) plain := by
  refine ⟨⟨by decide +kernel, ?_⟩, by decide +kernel, ?_⟩
  · rintro ⟨plain, ⟨carries, -⟩, -⟩
    exact carries rfl
  · rintro ⟨plain, decrypts, guarded⟩
    have opened : (sampleSupplicant []).Decrypts (sampleMessage3 (sampleSupplicant []) sampleKeyData)
        sampleKeyData :=
      ⟨by decide +kernel, FourWayState.kekOf ((sampleSupplicant []).handshakePtk.getD (filled 48 0)),
        by decide +kernel, by decide +kernel⟩
    obtain rfl := decrypts.unique opened
    have stripped := guarded.rsnxe
    rw [if_pos (by decide +kernel)] at stripped
    revert stripped
    decide +kernel

end Sample

end Shuli.Wifi
