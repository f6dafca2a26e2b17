import Shuli.Core.EapTls
import Shuli.Runs

/-!
The EAP peer (`eap.rs`): packet framing, the identity and notification answers, replay of a
cached response, and the treatment of the authenticator's final Success or Failure.
-/

namespace Shuli.Core

open Fallible

def codeRequest : UInt8 := 1

def codeResponse : UInt8 := 2

def codeSuccess : UInt8 := 3

def codeFailure : UInt8 := 4

def typeIdentity : UInt8 := 1

def typeNotification : UInt8 := 2

def typeNak : UInt8 := 3

def eapHdrLen : Nat := 4

structure EapPacket where
  code : UInt8
  identifier : UInt8
  type : Option UInt8
  body : Octets
  deriving DecidableEq, Repr

namespace EapPacket

def build (code identifier : UInt8) (type : Option UInt8) (body : Octets) : Octets :=
  let length := eapHdrLen + type.toList.length + body.length
  [code, identifier] ++ beOctets 2 length ++ type.toList ++ body

def parse (pdu : Octets) : Option EapPacket := do
  if pdu.length < eapHdrLen then failure
  let code := pdu.getD 0 0
  let identifier := pdu.getD 1 0
  let length := beNat ((pdu.drop 2).take 2)
  if length < eapHdrLen ∨ length > pdu.length then failure
  if code = codeSuccess ∨ code = codeFailure then
    if length ≠ eapHdrLen then failure
    return ⟨code, identifier, none, []⟩
  else if code = codeRequest ∨ code = codeResponse then
    if length < eapHdrLen + 1 then failure
    return ⟨code, identifier, some (pdu.getD 4 0), (pdu.take length).drop (eapHdrLen + 1)⟩
  else failure

def isSuccess (packet : EapPacket) : Bool := packet.code == codeSuccess

def isFailure (packet : EapPacket) : Bool := packet.code == codeFailure

end EapPacket

inductive EapAction
  | respond (packet : Octets)
  | success
  | failure
  | wait
  deriving DecidableEq, Repr

section

variable [Tls]

structure EapPeer where
  identity : String
  method : Option EapTlsMethod
  supportedTypes : List UInt8
  lastRequest : Option EapPacket
  lastResponse : Option Octets

namespace EapPeer

def new (identity : String) : EapPeer where
  identity := identity
  method := none
  supportedTypes := []
  lastRequest := none
  lastResponse := none

def setMethod (self : EapPeer) (method : EapTlsMethod) : EapPeer :=
  { self with supportedTypes := [typeTls], method := some method }

def msk (self : EapPeer) : Option Octets := self.method.bind EapTlsMethod.msk

def isStale (self : EapPeer) (packet : EapPacket) : Bool :=
  self.lastRequest.any fun request => request.identifier != packet.identifier

def askMethod (body : Octets) : Fallible EapPeer WifiError Octets := do
  match (← get).method with
  | none => throw (handshakeError "EAP Request without a Type")
  | some method =>
    let outcome := exec (EapTlsMethod.handleRequest body) method
    modify fun self => { self with method := some outcome.2 }
    outcome.1

def answer (packet : EapPacket) (type : UInt8) : Fallible EapPeer WifiError (Option Octets) := do
  let self ← get
  if type = typeIdentity then
    return some (EapPacket.build codeResponse packet.identifier (some typeIdentity) self.identity.toUTF8.toList)
  else if type = typeNotification then
    return some (EapPacket.build codeResponse packet.identifier (some typeNotification) [])
  else if type = typeNak then
    return none
  else if self.method.isSome ∧ type = typeTls then
    let body ← askMethod packet.body
    return some (EapPacket.build codeResponse packet.identifier (some type) body)
  else
    let body := self.supportedTypes.filter fun t => t != typeIdentity && t != typeNak
    return some (EapPacket.build codeResponse packet.identifier (some typeNak) body)

def respond (packet : EapPacket) : Fallible EapPeer WifiError EapAction := do
  match packet.type with
  | none => throw (handshakeError "EAP Request without a Type")
  | some type =>
    match ← answer packet type with
    | none => return .wait
    | some response =>
      modify fun self => { self with lastRequest := some packet, lastResponse := some response }
      return .respond response

def handleRequest (packet : EapPacket) : Fallible EapPeer WifiError EapAction := do
  let self ← get
  match self.lastResponse with
  | some response => if self.lastRequest = some packet then return .respond response else respond packet
  | none => respond packet

def handlePacket (packet : EapPacket) : Fallible EapPeer WifiError EapAction := do
  let self ← get
  if packet.isSuccess ∨ packet.isFailure then
    if self.isStale packet then return .wait
    else if packet.isSuccess then
      if self.method.any fun method => !method.successIndicationReceived then return .wait
      else return .success
    else return .failure
  else if packet.code ≠ codeRequest then return .wait
  else handleRequest packet

def feed (self : EapPeer) (packets : List EapPacket) : EapPeer :=
  runInputs (fun peer packet => (exec (handlePacket packet) peer).2) self packets

end EapPeer

end

end Shuli.Core
