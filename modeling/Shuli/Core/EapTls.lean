import Shuli.Octets
import Shuli.Fallible

/-!
The EAP-TLS method (`eap_tls.rs`): EAP-TLS framing, reassembly and fragmentation around a
TLS client connection, the exported MSK, and the TLS 1.3 protected success indication. The
TLS library is the parameter `Tls`: an oracle that consumes records, reports the handshaking
state, the protocol version and the application data, and exports keys.
-/

namespace Shuli.Core

open Fallible

inductive ErrorKind
  | config | nl80211 | io | interfaceNotFound | scanFailed | connectFailed | authFailed
  | wrongPassword | keyInstallFailed | saeFailed | handshakeFailed | ssidNotFound | configNotFound
  | invalidConfig | netlinkDecode | deprecated | roaming | noSupport
  deriving DecidableEq, Repr

def ErrorKind.display : ErrorKind → String
  | config => "config"
  | nl80211 => "nl80211"
  | io => "io"
  | interfaceNotFound => "interface-not-found"
  | scanFailed => "scan-failed"
  | connectFailed => "connect-failed"
  | authFailed => "auth-failed"
  | wrongPassword => "wrong-password"
  | keyInstallFailed => "key-install-failed"
  | saeFailed => "sae-failed"
  | handshakeFailed => "handshake-failed"
  | ssidNotFound => "ssid-not-found"
  | configNotFound => "config-not-found"
  | invalidConfig => "invalid-config"
  | netlinkDecode => "netlink-decode"
  | deprecated => "deprecated"
  | roaming => "roaming"
  | noSupport => "no-support"

structure WifiError where
  kind : ErrorKind
  msg : String
  deriving DecidableEq, Repr

def WifiError.display (error : WifiError) : String := error.kind.display ++ ": " ++ error.msg

structure EapConfig where
  identity : String
  caCert : Option String
  clientCert : Option String
  clientKey : Option String
  serverName : Option String
  deriving DecidableEq, Repr

inductive ProtocolVersion
  | tlsV1_2 | tlsV1_3
  deriving DecidableEq, Repr

/-- The TLS client library. An operation on a connection leaves a connection behind even when
it fails. -/
class Tls where
  /-- A client configuration built from the certificate files. -/
  ClientConfig : Type
  Conn : Type
  /-- Read and parse the files of the CA, the client certificate and the key. -/
  loadConfig : (caCert clientCert clientKey : String) → Except WifiError ClientConfig
  /-- Whether a text is a valid server name. -/
  checkServerName : String → Except WifiError Unit
  connect : ClientConfig → String → Except WifiError Conn
  /-- Offer received octets; the number consumed. -/
  readTls : Conn → Octets → Except WifiError Nat × Conn
  processNewPackets : Conn → Except WifiError Unit × Conn
  /-- All application data that is ready. -/
  readPlain : Conn → Except WifiError Octets × Conn
  /-- The records waiting to be sent. -/
  writeTls : Conn → Except WifiError Octets × Conn
  isHandshaking : Conn → Bool
  protocolVersion : Conn → Option ProtocolVersion
  /-- `EXPORTER_EAP_TLS_Key_Material` with the EAP type as context. -/
  exportKeyingMaterial : Conn → Except WifiError Octets

@[reducible] def closedTls : Tls where
  ClientConfig := Empty
  Conn := Empty
  loadConfig _ _ _ := .error ⟨.config, "no TLS"⟩
  checkServerName _ := .error ⟨.config, "no TLS"⟩
  connect config := nomatch config
  readTls conn := nomatch conn
  processNewPackets conn := nomatch conn
  readPlain conn := nomatch conn
  writeTls conn := nomatch conn
  isHandshaking conn := nomatch conn
  protocolVersion conn := nomatch conn
  exportKeyingMaterial conn := nomatch conn

def mskLen : Nat := 64

def typeTls : UInt8 := 13

def eapTlsFlagL : UInt8 := 0x80

def eapTlsFlagM : UInt8 := 0x40

def eapTlsFlagStart : UInt8 := 0x20

def handshakeError (msg : String) : WifiError := ⟨.handshakeFailed, msg⟩

def buildTlsMessage (data : Octets) : Octets :=
  if data.isEmpty then [0]
  else [eapTlsFlagL] ++ be32 (UInt32.ofNat data.length) ++ data

def parseTlsMessage (body : Octets) : Except WifiError (UInt8 × Octets) :=
  match body with
  | [] => .ok (0, [])
  | flags :: rest =>
    if flags &&& eapTlsFlagL ≠ 0 then
      if body.length < 5 then
        .error (handshakeError "EAP-TLS message with L bit but no length field")
      else .ok (flags, body.drop 5)
    else .ok (flags, rest)

section

variable [Tls]

structure EapTlsMethod where
  conn : Option Tls.Conn
  config : Tls.ClientConfig
  serverName : String
  rxBuf : Octets
  rxFragments : Octets
  rxExpectedLen : Option UInt32
  txQueue : Octets
  txOffset : Nat
  txTotal : Nat
  maxTlsFragment : Nat
  msk : Option Octets
  protectedSuccess : Bool

namespace EapTlsMethod

def new (config : Tls.ClientConfig) (serverName : String) : Except WifiError EapTlsMethod := do
  Tls.checkServerName serverName
  return {
    conn := none, config, serverName, rxBuf := [], rxFragments := [], rxExpectedLen := none,
    txQueue := [], txOffset := 0, txTotal := 0, maxTlsFragment := 1200, msk := none,
    protectedSuccess := false }

def required (value : Option String) (msg : String) : Except WifiError String :=
  match value with
  | some value => .ok value
  | none => .error ⟨.invalidConfig, msg⟩

def fromConfig (config : EapConfig) : Except WifiError EapTlsMethod := do
  let caCert ← required config.caCert "EAP: ca_cert required"
  let clientCert ← required config.clientCert "EAP-TLS: client_cert required"
  let clientKey ← required config.clientKey "EAP-TLS: client_key required"
  let serverName ← required config.serverName "EAP-TLS: server_name required"
  let config ← Tls.loadConfig caCert clientCert clientKey
  Tls.checkServerName serverName
  new config serverName

abbrev Method := Fallible EapTlsMethod WifiError

def nextTxFragment : Method Octets := do
  let self ← get
  if self.txQueue.isEmpty ∨ self.txOffset ≥ self.txQueue.length then
    return buildTlsMessage []
  let remaining := self.txQueue.length - self.txOffset
  let take := min remaining self.maxTlsFragment
  let first := self.txOffset = 0
  let more := take < remaining
  let flags := (if first then eapTlsFlagL else 0) ||| (if more then eapTlsFlagM else 0)
  let body := [flags] ++ (if first then be32 (UInt32.ofNat self.txTotal) else []) ++
    (self.txQueue.drop self.txOffset).take take
  if more then
    modify fun self => { self with txOffset := self.txOffset + take }
  else
    modify fun self => { self with txQueue := [], txOffset := 0, txTotal := 0 }
  return body

def queueTlsOutput (output : Octets) : Method Unit := do
  if output.isEmpty then return ()
  modify fun self => { self with txQueue := output, txOffset := 0, txTotal := output.length }

def tlsDataBeforeStart : WifiError := handshakeError "EAP-TLS data received before Start"

def onConn {α : Type} (call : Tls.Conn → Except WifiError α × Tls.Conn) : Method α := do
  match (← get).conn with
  | none => throw tlsDataBeforeStart
  | some conn =>
    modify fun self => { self with conn := some (call conn).2 }
    (call conn).1

def startConnection (flags : UInt8) : Method Unit := do
  let self ← get
  if flags &&& eapTlsFlagStart ≠ 0 ∧ self.conn.isNone then
    let conn ← Tls.connect self.config self.serverName
    modify fun self => { self with conn := some conn }
  if (← get).conn.isNone then throw tlsDataBeforeStart

def announceLength (flags : UInt8) (body : Octets) : Method Unit := do
  if flags &&& eapTlsFlagL ≠ 0 then
    if body.length < 5 then
      throw (handshakeError "EAP-TLS message with L bit but no length field")
    let len := beNat ((body.drop 1).take 4)
    if len > 65535 then
      throw (handshakeError "EAP-TLS message length exceeds the reassembly limit")
    if (← get).rxExpectedLen.any fun expected => expected.toNat != len then
      throw (handshakeError "EAP-TLS fragments announce different lengths")
    modify fun self => { self with rxExpectedLen := some (UInt32.ofNat len) }

def dropFragments : Method Unit :=
  modify fun self => { self with rxFragments := [], rxExpectedLen := none }

def addFragment (flags : UInt8) (data : Octets) : Method Bool := do
  let self ← get
  let limit := (self.rxExpectedLen.map UInt32.toNat).getD 65535
  if self.rxFragments.length + data.length > limit then
    dropFragments
    throw (handshakeError "EAP-TLS fragment exceeds the announced message length")
  let fragments := self.rxFragments ++ data
  modify fun self => { self with rxFragments := fragments }
  let last := flags &&& eapTlsFlagM = 0
  if last ∧ self.rxExpectedLen.all fun len => UInt32.ofNat fragments.length == len then
    modify fun self => { self with rxExpectedLen := none }
    return true
  if last then
    dropFragments
    throw (handshakeError
      "short EAP-TLS message did not reach its announced                      length")
  return false

/-- Hand the received octets to TLS record by record and watch for the protected success
indication. Every round consumes an octet, so the length of the buffer bounds the rounds. -/
def feedTls : Nat → Method Unit
  | 0 => return ()
  | bound + 1 => do
    let self ← get
    if self.rxBuf.isEmpty then return ()
    let used ← onConn fun conn => Tls.readTls conn self.rxBuf
    if used = 0 then return ()
    modify fun self => { self with rxBuf := self.rxBuf.drop used }
    onConn Tls.processNewPackets
    let plain ← onConn Tls.readPlain
    if plain = [0] then
      modify fun self => { self with protectedSuccess := true }
    feedTls bound

def exportMsk : Method Unit := do
  let self ← get
  match self.conn with
  | none => throw tlsDataBeforeStart
  | some conn =>
    if !Tls.isHandshaking conn ∧ self.msk.isNone then
      let material ← Tls.exportKeyingMaterial conn
      modify fun self => { self with msk := some (material.take mskLen) }

def handleRequest (body : Octets) : Method Octets := do
  let (flags, data) ← parseTlsMessage body
  startConnection flags
  if flags = 0 ∧ data.isEmpty then
    nextTxFragment
  else
    announceLength flags body
    if !(← addFragment flags data) then
      return buildTlsMessage []
    if !(← get).rxFragments.isEmpty then
      modify fun self => { self with rxBuf := self.rxBuf ++ self.rxFragments, rxFragments := [] }
      feedTls (← get).rxBuf.length
    let out ← onConn Tls.writeTls
    exportMsk
    queueTlsOutput out
    nextTxFragment

def version (self : EapTlsMethod) : Option ProtocolVersion := self.conn.bind Tls.protocolVersion

def successIndicationReceived (self : EapTlsMethod) : Bool :=
  match self.version with
  | some .tlsV1_3 => self.protectedSuccess
  | _ => true

end EapTlsMethod

end

end Shuli.Core
