import Shuli.Wifi.Attempt

/-!
The SAE exchange of an attempt (`auth.rs`, `client/events.rs`): what an authentication frame asks
for, the commits and confirms that are sent for it, and the association that completes it.
-/

namespace Shuli.Wifi

open Fallible
open Shuli.Core (WifiError ErrorKind Tls)

/-- What the client does after an authentication frame; `wait` is the source's `Continue`. -/
inductive AuthAction
  | wait
  | sendConfirm (confirm : Octets)
  | sendCommitWithToken (token : Octets)
  | retryWithHnp
  | retryTemporarily
  | complete
  deriving DecidableEq, Repr

structure SaeFrame where
  bssid : MacAddr
  transaction : UInt16
  statusCode : UInt16
  body : Octets
  deriving DecidableEq, Repr

structure AuthFrame where
  sae : Option SaeFrame
  bytes : Octets
  deriving DecidableEq, Repr

def saeStatusAntiClogging : UInt16 := 76

def saeStatusUnknownPasswordIdentifier : UInt16 := 123

def saeStatusH2e : UInt16 := 126

def saeSyncMax : UInt8 := 3

def isTemporaryRejectStatus (status : UInt16) : Bool := [17, 30, 32, 33, 34, 35].contains status

section

variable [Sae]

def onSae {α : Type} (call : Sae.State → Except WifiError α × Sae.State) :
    Fallible Sae.State WifiError α := do
  let outcome := call (← get)
  modify fun _ => outcome.2
  outcome.1

def acceptSaeFrame (authSeq : UInt16) (payload : Octets) : Fallible Sae.State WifiError AuthAction := do
  if authSeq = 1 then
    if payload.length < 2 + 32 + 64 then
      let length := payload.length
      throw ⟨.authFailed, s!"SAE commit too short: {length} bytes"⟩
    let group := UInt16.ofNat ((payload.getD 0 0).toNat + 256 * (payload.getD 1 0).toNat)
    if group ≠ Sae.groupId (← get) then throw ⟨.authFailed, s!"unsupported SAE group {group}"⟩
    let confirm ← onSae fun sae => Sae.processCommitWithElements sae ((payload.drop 2).take 32)
      ((payload.drop 34).take 64) (payload.drop 98)
    return .sendConfirm confirm
  else if authSeq = 2 then
    onSae fun sae => Sae.processConfirm sae payload
    return .complete
  else return .wait

def processSaeFrame (authSeq status : UInt16) (payload : Octets) :
    Fallible Sae.State WifiError AuthAction := do
  let sae ← get
  if Sae.confirmed sae then return .wait
  else if authSeq = 1 ∧ status = saeStatusAntiClogging then
    let token ← Sae.parseAntiCloggingToken (Sae.isH2e sae) payload
    return .sendCommitWithToken token
  else if authSeq = 1 ∧ status = saeStatusUnknownPasswordIdentifier then
    throw ⟨.authFailed, "SAE auth failed: unknown password identifier"⟩
  else if authSeq = 2 ∧ status = 15 then
    throw ⟨.wrongPassword, "wrong password (SAE confirm rejected by AP)"⟩
  else if authSeq = 1 ∧ status = 127 then
    throw ⟨.authFailed, "SAE-PK required by AP but shuli does not implement SAE-PK"⟩
  else if authSeq = 1 ∧ isTemporaryRejectStatus status then return .retryTemporarily
  else if status = 0 ∨ authSeq = 1 ∧ status = saeStatusH2e then acceptSaeFrame authSeq payload
  else if authSeq = 1 ∧ Sae.isH2e sae ∧ Sae.hnpFallbackAllowed sae then return .retryWithHnp
  else throw ⟨.authFailed, s!"SAE auth failed: seq={authSeq} status={status}"⟩

end

variable [Tls] [Sae] [Owe] [Elements]

def authenticateSae (env : Env) (authData : Octets) : Iface Unit := do
  let self ← get
  request env (.authenticate self.link.network.ssid self.link.bssInfo.bssid self.link.bssInfo.freqMhz
    .sae authData [])

def sendSaeCommit (env : Env) (authData : Octets) : Iface Unit := orFail do
  authenticateSae env authData
  modify fun self => { self with
    auth.saeConfirmSent := false, auth.saeConfirmAuthData := []
    auth.saeCommitSent := true, auth.saeCommitAuthData := authData }

def sendSaeConfirm (env : Env) (authData : Octets) : Iface Unit := orFail do
  authenticateSae env authData
  modify fun self => { self with
    auth.saeCommitSent := false, auth.saeCommitAuthData := []
    auth.saeConfirmSent := true, auth.saeConfirmAuthData := authData }

def resetSync : Iface Unit := modify fun self => { self with auth.saeSync := 0 }

def confirmAuthData (sendConfirm : UInt16) (confirm : Octets) : Octets :=
  le16 2 ++ le16 0 ++ le16 sendConfirm ++ confirm

def restartSaeWithHnp (env : Env) : Iface Unit := do
  let self ← get
  match self.link.network.password with
  | none => failAuth ⟨.invalidConfig, "no password for HnP SAE restart"⟩
  | some password =>
    match Sae.newWithPasswordId password self.link.network.ssid self.mac self.link.bssInfo.bssid
        false false none env.random with
    | .error error => failAuth error
    | .ok method =>
      let (authData, method) := Sae.buildInitAuthMsg method env.random
      modify fun self => { self with auth.method := some method, auth.saeHnpAttempted := true }
      resetSync
      sendSaeCommit env authData

def SecurityType.saeIe : SecurityType → RsnIe
  | .ftSae => .ftSae
  | .ftSaeExtKey => .ftSaeExtKey
  | .saeExtKey => .saeExtKey
  | _ => .sae

def Link.saeAssociationIes (self : Link) : Except WifiError Octets :=
  let ies := self.ie self.bssInfo.security.saeIe none
  if self.bssInfo.security = .ftSae ∨ self.bssInfo.security = .ftSaeExtKey then self.appendFtMdie ies
  else .ok ies

def associateAfterSae (env : Env) : Iface Unit := do
  modify fun self => { self with auth.saeConfirmSent := false, auth.saeConfirmAuthData := [] }
  let self ← get
  orFail do
    let ies ← self.link.saeAssociationIes
    associate env ies true

def sendCommitWithToken (env : Env) (token : Octets) : Iface Unit := do
  let self ← get
  match self.auth.method with
  | none => pure ()
  | some method =>
    let outcome := Sae.buildCommitWithToken method token env.random
    modify fun self => { self with auth.method := some outcome.2 }
    match outcome.1 with
    | .error error => failAuth error
    | .ok authData =>
      resetSync
      sendSaeCommit env authData

def runAuthAction (env : Env) : AuthAction → Iface Unit
  | .wait => pure ()
  | .sendConfirm confirm => do
    resetSync
    sendSaeConfirm env (confirmAuthData 1 confirm)
  | .sendCommitWithToken token => sendCommitWithToken env token
  | .retryWithHnp => restartSaeWithHnp env
  | .retryTemporarily => do
    let self ← get
    if self.auth.saeSync < saeSyncMax then pure () else modify (·.setState .failed)
  | .complete => associateAfterSae env

def handleAuthFrame (env : Env) (frame : AuthFrame) : Iface Unit := do
  let self ← get
  match frame.sae, self.auth.method with
  | some sae, some method =>
    if sae.bssid = self.link.bssInfo.bssid then
      let outcome := exec (processSaeFrame sae.transaction sae.statusCode sae.body) method
      modify fun self => { self with auth.method := some outcome.2 }
      match outcome.1 with
      | .error error => failAuth error
      | .ok action => runAuthAction env action
  | _, _ => pure ()

def retransmitSae (env : Env) : Iface Unit := do
  modify fun self => { self with auth.saeSync := self.auth.saeSync + 1 }
  let self ← get
  if self.auth.saeCommitSent then sendSaeCommit env self.auth.saeCommitAuthData
  else
    match self.auth.method with
    | none => failAuth ⟨.saeFailed, "no SAE state for confirm retransmit"⟩
    | some method =>
      let outcome := Sae.retransmitConfirm method
      modify fun self => { self with auth.method := some outcome.2 }
      match outcome.1 with
      | .error error => failAuth error
      | .ok (sendConfirm, hash) => sendSaeConfirm env (confirmAuthData sendConfirm hash)

def WifiIface.isPsk4wayInProgress (self : WifiIface) : Bool :=
  self.link.fourway.isSome && self.link.pmksaInUse.isNone && self.link.bssInfo.security.isPsk

def wrongPassword (ssid : String) : WifiError := ⟨.wrongPassword, s!"wrong password for SSID '{ssid}'"⟩

def authTimeout [Primitives] (env : Env) : Iface Unit := do
  let self ← get
  let auth := self.auth
  if (auth.saeCommitSent ∨ auth.saeConfirmSent) ∧ auth.saeSync < saeSyncMax then retransmitSae env
  else if auth.saeCommitSent ∧ auth.method.any (fun sae => Sae.isH2e sae && Sae.hnpFallbackAllowed sae) ∧
      !auth.saeHnpAttempted then restartSaeWithHnp env
  else if self.isPsk4wayInProgress then failAuth (wrongPassword self.link.network.ssid)
  else if self.link.pmksaInUse.isSome then pmksaFallback env
  else modify (·.setState .failed)

end Shuli.Wifi
