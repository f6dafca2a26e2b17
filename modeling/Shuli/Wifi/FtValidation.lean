import Shuli.Tlv
import Shuli.Wifi.OpenAssociation
import Shuli.Wifi.Passive

/-!
What the two responses of an FT roam have to agree on. The authentication response fixes both nonces and
both key holders, and with them the PTK; the reassociation response proves the PTK by the MIC of its FTIE.
The code compares R1KH-ID and MIC, and a PMKID that is there. It takes ANonce, SNonce and R0KH-ID as they
come, and does not ask for the PMKID, so a response needs more than the checks to be the one of the
exchange.
-/

namespace Shuli.Wifi

open Fallible
open Shuli.Core (WifiError Tls)

theorem installedKeys_append (trace more : List Action) :
    installedKeys (trace ++ more) = installedKeys trace ++ installedKeys more := List.filterMap_append

def HandedOver (count : Nat) (_ : Option FourWayState) (trace : List Action) : Prop :=
  count < (installedKeys trace).length

theorem HandedOver.append {count : Nat} {fw : Option FourWayState} {trace : List Action}
    (handed : HandedOver count fw trace) (more : List Action) : HandedOver count fw (trace ++ more) := by
  rw [HandedOver, installedKeys_append, List.length_append]
  exact Nat.lt_add_right _ handed

instance HandedOver.tolerant {count : Nat} : Tolerant (HandedOver count) where
  request _ handed := handed.append _
  connected _ handed := handed.append _

/-- What the FT authentication exchange settled between the interface and the target. -/
structure FtExchange where
  mac : MacAddr
  target : BssInfo
  anonce : Block 32
  snonce : Block 32
  r0khId : Octets
  r1khId : MacAddr
  pmkR1 : PmkR1
  ptk : Ptk
  deriving DecidableEq, Repr

section

variable [Elements]

/-- The elements of a reassociation response: the body of its FTIE, what that says, and its RSNE. -/
structure FtResponse (ies body : Octets) (ftie : Ftie) (rsne : Octets) : Prop where
  found : Elements.findIe ies elementIdFtie = some body
  parsed : Elements.parseFtie body = some ftie
  rsne : findElement ies elementIdRsn = some rsne

def ftSigned (ies body rsne : Octets) : Octets :=
  rsne ++ (findElement ies elementIdMdie).getD [] ++ ftieZeroedMic body ++
    (findElement ies elementIdRsnExt).getD []

namespace FtExchange

/-- The part of the exchange that the code does not compare. -/
structure Echoed (exchange : FtExchange) (ftie : Ftie) (rsne : Octets) : Prop where
  anonce : ftie.anonce = exchange.anonce
  snonce : ftie.snonce = exchange.snonce
  r0khId : ftie.r0khId = some exchange.r0khId
  named : (Elements.rsneFirstPmkid (rsne.drop 2)).isSome

variable [Primitives]

def MicVerifies (exchange : FtExchange) (ies body : Octets) (ftie : Ftie) (rsne : Octets) : Prop :=
  ftMic (FourWayState.kckOf exchange.ptk) exchange.mac exchange.target.bssid 6 (ftSigned ies body rsne) =
    .ok ftie.mic

/-- The response of the target to which the exchange belongs, element by element. -/
structure Proves (exchange : FtExchange) (ies body : Octets) (ftie : Ftie) (rsne : Octets) : Prop where
  elements : FtResponse ies body ftie rsne
  mic : exchange.MicVerifies ies body ftie rsne
  anonce : ftie.anonce = exchange.anonce
  snonce : ftie.snonce = exchange.snonce
  r0khId : ftie.r0khId = some exchange.r0khId
  r1khId : ftie.r1khId = some exchange.r1khId
  pmkid : Elements.rsneFirstPmkid (rsne.drop 2) = some exchange.pmkR1.name

def Validated (exchange : FtExchange) (ies : Octets) : Prop :=
  ∃ body ftie rsne, exchange.Proves ies body ftie rsne

variable [EapolCodec]

structure Checked (exchange : FtExchange) (ies body : Octets) (ftie : Ftie) (rsne : Octets) : Prop where
  elements : FtResponse ies body ftie rsne
  r1khId : ftie.r1khId = some exchange.r1khId
  pmkid : ∀ pmkid, Elements.rsneFirstPmkid (rsne.drop 2) = some pmkid → pmkid = exchange.pmkR1.name
  announced : exchange.target.apRsne ≠ [] →
    EapolCodec.rsneMatchIgnorePmkid rsne exchange.target.apRsne
  mic : exchange.MicVerifies ies body ftie rsne

def check (exchange : FtExchange) (ies : Octets) : Except WifiError Ftie :=
  checkFtAssocResponse exchange.mac exchange.target exchange.ptk exchange.r1khId exchange.pmkR1 ies

variable {exchange : FtExchange} {ies : Octets}

theorem check_eq_ok {ftie : Ftie} :
    exchange.check ies = .ok ftie ↔ ∃ body rsne, exchange.Checked ies body ftie rsne := by
  simp only [check, checkFtAssocResponse, Except.bind_eq_ok, Except.guard_eq_ok, orThrow_eq_ok]
  constructor
  · rintro ⟨body, found, _, parsed, r1khId, rsne, rsneFound, pmkid, announced, _, computed, same, ended⟩
    cases ended
    refine ⟨body, rsne, ⟨found, parsed, rsneFound⟩, not_not.mp r1khId, fun name carried => ?_,
      fun listed => ?_, computed.trans (congrArg _ (not_not.mp same))⟩
    · rw [carried] at pmkid
      simpa using pmkid
    · simpa [listed] using announced
  · rintro ⟨body, rsne, checked⟩
    refine ⟨body, checked.elements.found, ftie, checked.elements.parsed, not_not.mpr checked.r1khId, rsne,
      checked.elements.rsne, ?_, ?_, ftie.mic, checked.mic, not_not.mpr rfl, rfl⟩
    · rcases carried : Elements.rsneFirstPmkid (rsne.drop 2) with _ | name
      · simp
      · simp [checked.pmkid name carried]
    · rintro ⟨listed, differs⟩
      have same := checked.announced (by simpa using listed)
      simp [same] at differs

theorem Checked.proves_iff {body rsne : Octets} {ftie : Ftie} (checked : exchange.Checked ies body ftie rsne) :
    exchange.Validated ies ↔ exchange.Echoed ftie rsne := by
  constructor
  · rintro ⟨body', ftie', rsne', proves⟩
    obtain rfl : body' = body := Option.some.inj (proves.elements.found.symm.trans checked.elements.found)
    obtain rfl : ftie' = ftie := Option.some.inj (proves.elements.parsed.symm.trans checked.elements.parsed)
    obtain rfl : rsne' = rsne := Option.some.inj (proves.elements.rsne.symm.trans checked.elements.rsne)
    exact ⟨proves.anonce, proves.snonce, proves.r0khId, by rw [proves.pmkid]; rfl⟩
  · intro echoed
    obtain ⟨name, carried⟩ := Option.isSome_iff_exists.mp echoed.named
    exact ⟨body, ftie, rsne, checked.elements, checked.mic, echoed.anonce, echoed.snonce, echoed.r0khId,
      checked.r1khId, checked.pmkid name carried ▸ carried⟩

end FtExchange

end

section

variable [Tls] [Sae] [Owe]

open WifiIface (Over)

variable {env : Env} {count : Nat}

theorem installFtKey_handedOver (name : String) (key : KeyRequest) :
    Keeps (Over (HandedOver count)) (installFtKey env name key) :=
  Keeps.tryCatch (request_grows (HandedOver.append · _)) fun _ => Keeps.throw _

theorem installFtKey_first {self : WifiIface} (name : String) (key : KeyRequest) :
    Ends (installFtKey env name key) self fun _ => Over (HandedOver (installedKeys self.trace).length) := by
  refine Ends.tryCatch (R := fun _ => Over (HandedOver (installedKeys self.trace).length)) ?_
    (fun _ _ handed => handed) fun _ _ handed => handed
  have longer : HandedOver (installedKeys self.trace).length self.link.fourway
      (self.trace ++ [.request (.newKey key)]) := by
    rw [HandedOver, installedKeys_append, List.length_append]
    exact Nat.lt_succ_self _
  exact request_records longer

variable [Elements] [Primitives]

def WifiIface.ftExchange (self : WifiIface) (frame : Octets) : Option FtExchange := do
  let roam ← self.roam.ftRoam
  let ft ← self.link.ft
  let (ftie, r1khId) ← (checkFtAuthResponse ft roam frame).toOption
  let pmkR1 := derivePmkR1 ft.pmkR0 r1khId self.mac
  let ptk := deriveFtPtk pmkR1 roam.snonce ftie.anonce roam.target.bssid self.mac
  return ⟨self.mac, roam.target, ftie.anonce, roam.snonce, ft.r0khId, r1khId, pmkR1, ptk⟩

/-- The roam in flight is the same, with what its response is checked against. -/
structure WifiIface.SameFtRoam (s t : WifiIface) : Prop where
  mac : t.mac = s.mac
  ft : t.link.ft = s.link.ft
  roam : t.roam.ftRoam = s.roam.ftRoam

/-- The interface waits for the reassociation response of the exchange. -/
structure WifiIface.Awaits (s : WifiIface) (exchange : FtExchange) : Prop where
  mac : s.mac = exchange.mac
  ft : s.link.ft.isSome
  roam : s.roam.ftRoam = some
    ⟨exchange.target, exchange.snonce, some exchange.pmkR1, some exchange.r1khId, some exchange.ptk⟩

open WifiIface (SameFtRoam Awaits)

variable {self later : WifiIface} {exchange : FtExchange} {frame ies : Octets}

omit [Elements] [Primitives] in
theorem WifiIface.Awaits.transfer (awaits : self.Awaits exchange) (same : self.SameFtRoam later) :
    later.Awaits exchange :=
  ⟨same.mac.trans awaits.mac, same.ft ▸ awaits.ft, same.roam.trans awaits.roam⟩

theorem ftExchange_eq_some (accepted : self.ftExchange frame = some exchange) :
    ∃ roam ft ftie, self.roam.ftRoam = some roam ∧ self.link.ft = some ft ∧
      checkFtAuthResponse ft roam frame = .ok (ftie, exchange.r1khId) ∧
      exchange.mac = self.mac ∧ exchange.target = roam.target ∧ exchange.snonce = roam.snonce ∧
      exchange.pmkR1 = derivePmkR1 ft.pmkR0 exchange.r1khId self.mac ∧
      exchange.ptk = deriveFtPtk exchange.pmkR1 roam.snonce ftie.anonce roam.target.bssid self.mac := by
  simp only [WifiIface.ftExchange, Option.bind_eq_bind, Option.bind_eq_some_iff] at accepted
  obtain ⟨roam, inFlight, ft, context, ⟨ftie, r1khId⟩, checked, settled⟩ := accepted
  cases settled
  refine ⟨roam, ft, ftie, inFlight, context, ?_, rfl, rfl, rfl, rfl, rfl⟩
  cases outcome : checkFtAuthResponse ft roam frame with
  | error error => rw [outcome] at checked; cases checked
  | ok pair => rw [outcome] at checked; cases checked; rfl

theorem sendFtReassoc_sameFtRoam (target : BssInfo) (ptk : Ptk) (pmkR1 : PmkR1) (r1khId : MacAddr)
    (snonce anonce : Block 32) :
    Keeps (SameFtRoam self) (sendFtReassoc env target ptk pmkR1 r1khId snonce anonce) := by
  refine Keeps.get_bind fun _ _ => Keeps.liftM_bind fun _ _ => Keeps.liftM_bind fun _ _ =>
    Keeps.liftM_bind fun _ _ => ?_
  exact Keeps.get_bind fun _ _ => Keeps.bind
    (Keeps.modify fun _ same => ⟨same.mac, same.ft, same.roam⟩) fun _ => Keeps.liftM _

/-- An accepted authentication response leaves the roam waiting, or ended if the kernel refuses the
reassociation request. -/
theorem handleFtAuthResponse_awaits (accepted : self.ftExchange frame = some exchange)
    (inFlight : (after (handleFtAuthResponse env frame) self).roam.ftRoam.isSome) :
    (after (handleFtAuthResponse env frame) self).Awaits exchange := by
  obtain ⟨roam, ft, ftie, started, context, checked, mac, target, snonce, pmkR1, ptk⟩ :=
    ftExchange_eq_some accepted
  have ends : Ends (handleFtAuthResponse env frame) self fun _ final =>
      final.roam.ftRoam.isSome → final.Awaits exchange := by
    refine Ends.tryCatch (R := fun _ => (Awaits · exchange)) ?_ (fun _ _ awaits _ => awaits) ?_
    · refine Ends.get_bind (Ends.liftM_ok (orThrow_eq_ok.mpr started)
        (Ends.liftM_ok (orThrow_eq_ok.mpr context) (Ends.liftM_ok checked (Ends.modify_bind ?_))))
      refine ((sendFtReassoc_sameFtRoam _ _ _ _ _ _).ends ⟨rfl, rfl, rfl⟩).mono fun _ t same => ?_
      refine ⟨same.mac.trans mac.symm, ?_, same.roam.trans ?_⟩
      · rw [same.ft, context]
        rfl
      · rw [target, snonce, ptk, pmkR1]
    · exact fun _ _ _ => nofun
  exact ends inFlight

omit [Elements] in
theorem installFtKeys_handedOver (target : BssInfo) (ptk : Ptk) (ftie : Ftie) :
    Ends (installFtKeys env target ptk ftie) self fun _ =>
      Over (HandedOver (installedKeys self.trace).length) := by
  refine (installFtKey_first "PTK" _).bind (fun _ _ handed => handed) fun _ t handed => ?_
  refine Keeps.ends ?_ handed
  refine Keeps.bind (Keeps.forM fun _ _ => ?_) fun _ => Keeps.bind (Keeps.forM fun _ _ => ?_) fun _ =>
    Keeps.forM fun _ _ => ?_
  · exact Keeps.liftM_bind fun _ _ => installFtKey_handedOver _ _
  · exact Keeps.liftM_bind fun _ _ => Keeps.bind (bestEffort_grows (HandedOver.append · _)) fun _ => Keeps.pure _
  · exact Keeps.liftM_bind fun _ _ => Keeps.bind (bestEffort_grows (HandedOver.append · _)) fun _ => Keeps.pure _

variable [EapolCodec]

/-- The response ends the roam and hands no key to the kernel. -/
structure WifiIface.Rejects (s : WifiIface) (env : Env) (ies : Octets) : Prop where
  keys : installedKeys (after (handleFtAssocResponse env ies) s).trace = installedKeys s.trace
  roam : (after (handleFtAssocResponse env ies) s).roam.ftRoam = none
  failed : (after (handleFtAssocResponse env ies) s).state = .failed

theorem WifiIface.Awaits.refused {error : WifiError} (awaits : self.Awaits exchange)
    (refused : exchange.check ies = .error error) : self.Rejects env ies := by
  obtain ⟨ft, context⟩ := Option.isSome_iff_exists.mp awaits.ft
  have left : exec (completeFtRoam env ies) self = (.error error, self) := by
    rw [FtExchange.check, ← awaits.mac] at refused
    simp only [completeFtRoam, exec_get_bind, exec_liftM_bind, awaits.roam, context, refused, orThrow]
  have final : after (handleFtAssocResponse env ies) self =
      { self with roam.ftRoam := none, state := .failed } := by
    rw [after, handleFtAssocResponse, exec_tryCatch, left]
    rfl
  exact ⟨by rw [final], by rw [final], by rw [final]⟩

theorem WifiIface.Awaits.passed {ftie : Ftie} (awaits : self.Awaits exchange)
    (passed : exchange.check ies = .ok ftie) : ¬self.Rejects env ies := by
  obtain ⟨ft, context⟩ := Option.isSome_iff_exists.mp awaits.ft
  rw [FtExchange.check, ← awaits.mac] at passed
  have handed : Ends (handleFtAssocResponse env ies) self fun _ =>
      Over (HandedOver (installedKeys self.trace).length) := by
    refine Ends.tryCatch (R := fun _ => Over (HandedOver (installedKeys self.trace).length)) ?_
      (fun _ _ handed => handed) fun _ _ handed => handed
    refine Ends.get_bind (Ends.liftM_ok (orThrow_eq_ok.mpr awaits.roam)
      (Ends.liftM_ok (orThrow_eq_ok.mpr context) (Ends.liftM_ok rfl (Ends.liftM_ok rfl
        (Ends.liftM_ok rfl (Ends.liftM_ok passed ?_))))))
    refine (installFtKeys_handedOver _ _ _).bind (fun _ _ handed => handed) fun _ t handed => ?_
    refine Keeps.ends ?_ handed
    refine Keeps.bind (Keeps.modify fun _ handed => handed) fun _ =>
      Keeps.bind (tryOffloadRekey_grows (HandedOver.append · _)) fun _ =>
        Keeps.bind (Keeps.modify fun _ handed => handed.append _) fun _ =>
          armWowlanIfEnabled_kept
  intro rejects
  exact absurd handed (rejects.keys ▸ Nat.lt_irrefl _)

end

section Sample

def ftieBody (mic : Block 16) (anonce snonce : Block 32) (r1khId : MacAddr) (r0khId : Octets) : Octets :=
  [0, 3] ++ mic.val ++ anonce.val ++ snonce.val ++ [1, 6] ++ r1khId.val ++ [3, 2] ++ r0khId

def fieldAt (body : Octets) (start width : Nat) (fits : body.length = 94) (inside : start + width ≤ 94) :
    Block width :=
  ⟨(body.drop start).take width, by rw [List.length_take, List.length_drop]; omega⟩

def readFtie (body : Octets) : Option Ftie :=
  if fits : body.length = 94 then
    some ⟨fieldAt body 2 16 fits (by decide), fieldAt body 18 32 fits (by decide),
      fieldAt body 50 32 fits (by decide), some (body.drop 92), some (fieldAt body 84 6 fits (by decide)),
      none, none, none⟩
  else none

@[reducible] def roamElements : Elements :=
  { plainElements with
    findIe := fun ies id => ((elements ies).find? fun element => element.tag = id).map Element.value
    parseMdie := fun body =>
      if fits : body.length = 3 then some (⟨body.take 2, by simp [fits]⟩, body.getD 2 0) else none
    parseFtie := readFtie
    rsneFirstPmkid := fun body =>
      if fits : body.length = 18 then some ⟨body.drop 2, by simp [fits]⟩ else none
    parseFtAuth := fun frame => .ok ⟨2, 0, frame⟩ }

@[reducible] def roamCodec : EapolCodec :=
  { sampleCodec with
    rsneMatchIgnorePmkid := fun first second => (first.drop 2).take 2 == (second.drop 2).take 2 }

attribute [local instance] Core.closedTls idleSae idleOwe roamElements samplePrimitives roamCodec

def roamFtContext : FtContext :=
  ⟨filled 2 4, 1, [10, 11], ⟨filled 32 5, filled 16 6⟩, ⟨filled 32 7, filled 16 8⟩, []⟩

def roamTargetBss : BssInfo :=
  { homeBss .ftPsk with bssid := filled 6 3, mdie := some ⟨filled 2 4, 1⟩ }

def roamingIface : WifiIface :=
  { idleIface with
    link.ft := some roamFtContext
    roam.ftRoam := some ⟨roamTargetBss, filled 32 9, none, none, none⟩
    state := .authenticating }

def roamAuthResponse : Octets :=
  [54, 3, 4, 4, 1] ++ [55, 94] ++
    ftieBody (filled 16 0) (filled 32 12) (filled 32 9) (filled 6 3) [10, 11]

def roamExchange : FtExchange :=
  let pmkR1 := derivePmkR1 ⟨filled 32 5, filled 16 6⟩ (filled 6 3) (filled 6 1)
  ⟨filled 6 1, roamTargetBss, filled 32 12, filled 32 9, [10, 11], filled 6 3, pmkR1,
    deriveFtPtk pmkR1 (filled 32 9) (filled 32 12) (filled 6 3) (filled 6 1)⟩

def roamResponse (rsne : Octets) (anonce snonce : Block 32) (r0khId : Octets) : Octets :=
  let body (mic : Block 16) := ftieBody mic anonce snonce (filled 6 3) r0khId
  let mic := Primitives.cmacAes128 (FourWayState.kckOf roamExchange.ptk)
    ((filled 6 1).val ++ (filled 6 3).val ++ [6] ++ (rsne ++ ftieZeroedMic (body (filled 16 0))))
  rsne ++ [55, 94] ++ body mic

def waitingIface : WifiIface := after (handleFtAuthResponse willingEnv roamAuthResponse) roamingIface

def honestResponse : Octets :=
  roamResponse ([48, 18, 1, 0] ++ roamExchange.pmkR1.name.val) (filled 32 12) (filled 32 9) [10, 11]

def foreignResponse : Octets := roamResponse [48, 2, 1, 0] (filled 32 13) (filled 32 14) [15, 16]

theorem roamExchange_settled : roamingIface.ftExchange roamAuthResponse = some roamExchange := by
  decide +kernel

theorem waitingIface_inFlight : waitingIface.roam.ftRoam.isSome := by decide +kernel

end Sample

end Shuli.Wifi
