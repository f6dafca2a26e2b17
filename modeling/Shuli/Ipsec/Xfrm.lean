import Shuli.Fallible
import Shuli.Ipsec.Sa
import Shuli.Ipsec.Selectors

/-!
The XFRM manager (`xfrm/mod.rs`, `policy.rs`, `state.rs`): the states and policies that it builds for a
Child SA, and the requests that install and remove them. The kernel is its two tables, searched as the
kernel searches them; what it may refuse, and what an update leaves of an SA, are parameters.
-/

namespace Shuli.Ipsec

def IpsecError.xfrm (msg : String) : IpsecError := ⟨.xfrm, msg⟩

namespace Xfrm

open Fallible

/-! Selectors and messages -/

inductive Direction
  | out | inward | forward
  deriving DecidableEq, Repr

structure Selector where
  source : IpAddr
  prefixLenS : UInt8
  destination : IpAddr
  prefixLenD : UInt8
  proto : UInt8
  sport : UInt16
  sportMask : UInt16
  dport : UInt16
  dportMask : UInt16
  deriving DecidableEq, Repr

structure XfrmMark where
  value : UInt32
  mask : UInt32
  deriving DecidableEq, Repr

structure XfrmInterface where
  name : String
  ifIndex : UInt32
  ifId : UInt32
  deriving DecidableEq, Repr

structure InstallSpec where
  interface : Option XfrmInterface
  ifId : UInt32
  reqid : UInt32
  localAddress : IpAddr
  remoteAddress : IpAddr
  mode : ChildMode
  lifetime : Duration
  priority : UInt32
  replayWindow : UInt32
  mark : Option UInt32
  markMask : UInt32
  forward : Bool
  natT : Bool
  deriving DecidableEq, Repr

namespace InstallSpec

def xfrmMark (spec : InstallSpec) : Option XfrmMark := spec.mark.map fun mark => ⟨mark, spec.markMask⟩

def xfrmIfId (spec : InstallSpec) : Option UInt32 := if spec.ifId ≠ 0 then some spec.ifId else none

end InstallSpec

def commonPrefixLen (start stop : IpAddr) : UInt8 :=
  match start, stop with
  | .v4 start, .v4 stop =>
    if start = stop then 32 else UInt8.ofNat (leadingZeros 32 (start ^^^ stop).toNat)
  | .v6 start, .v6 stop =>
    if start = stop then 128 else UInt8.ofNat (leadingZeros 128 (start ^^^ stop).toNat)
  | _, _ => 0

def portMask (startPort endPort : UInt16) : UInt16 := if startPort = endPort then 0xffff else 0

def selectorOf (source destination : TrafficSelector) : Selector where
  source := source.start
  prefixLenS := commonPrefixLen source.start source.stop
  destination := destination.start
  prefixLenD := commonPrefixLen destination.start destination.stop
  proto := source.protocol
  sport := source.startPort
  sportMask := portMask source.startPort source.endPort
  dport := destination.startPort
  dportMask := portMask destination.startPort destination.endPort

structure UserTemplate where
  source : IpAddr
  destination : IpAddr
  mode : ChildMode
  reqid : UInt32
  deriving DecidableEq, Repr

structure PolicyMessage where
  selector : Selector
  direction : Direction
  priority : UInt32
  template : UserTemplate
  ifId : Option UInt32
  mark : Option XfrmMark
  deriving DecidableEq, Repr

structure PolicyRecord where
  direction : Direction
  selector : Selector
  ifId : UInt32
  message : PolicyMessage
  deriving DecidableEq, Repr

def buildPolicy (direction : Direction) (source destination : TrafficSelector) (spec : InstallSpec) :
    Except IpsecError PolicyRecord :=
  if source.family ≠ destination.family then
    .error (.xfrm "policy selector addresses use different families")
  else
    let selector := selectorOf source destination
    let (templateSrc, templateDst) := match direction with
      | .out => (spec.localAddress, spec.remoteAddress)
      | .inward | .forward => (spec.remoteAddress, spec.localAddress)
    .ok {
      direction, selector, ifId := spec.ifId
      message := {
        selector, direction, priority := spec.priority
        template := ⟨templateSrc, templateDst, spec.mode, spec.reqid⟩
        ifId := spec.xfrmIfId, mark := spec.xfrmMark } }

inductive SaEncryption
  | aead (name : String) (keyLen icvLen : UInt32) (key : Octets)
  | cipher (name : String) (keyLen : UInt32) (key : Octets)
  deriving DecidableEq, Repr

structure SaIntegrity where
  name : String
  keyLen : UInt32
  truncLen : UInt32
  key : Octets
  deriving DecidableEq, Repr

structure ReplayEsn where
  bmpLen : UInt32
  replayWindow : UInt32
  deriving DecidableEq, Repr

structure SaMessage where
  source : IpAddr
  destination : IpAddr
  spi : UInt32
  mode : ChildMode
  reqid : UInt32
  replayWindow : UInt8
  hardSeconds : Nat
  selector : Selector
  encryption : SaEncryption
  ifId : Option UInt32
  integrity : Option SaIntegrity
  esn : Option ReplayEsn
  encap : Bool
  mark : Option XfrmMark
  deriving DecidableEq, Repr

def fullPrefix (address : IpAddr) : UInt8 := if address.isIpv4 then 32 else 128

def Selector.ofPrefixes (source : IpAddr) (prefixLenS : UInt8) (destination : IpAddr) (prefixLenD : UInt8) :
    Selector := ⟨source, prefixLenS, destination, prefixLenD, 0, 0, 0, 0, 0⟩

def tunnelSelector (child : ChildSaHandle) (outbound : Bool) (spec : InstallSpec) :
    Except IpsecError Selector :=
  let (source, destination) :=
    if outbound then (child.localSelectors, child.remoteSelectors)
    else (child.remoteSelectors, child.localSelectors)
  match source, destination with
  | [source], [destination] =>
    if source.family ≠ destination.family then
      .error (.xfrm "traffic selectors use different address families")
    else .ok (selectorOf source destination)
  | _, _ =>
    let wildcard : IpAddr := if spec.localAddress.isIpv4 then .v4 0 else .v6 0
    .ok (.ofPrefixes wildcard 0 wildcard 0)

def encryptionTransform (algorithm : EncryptionAlgorithm) (key : Octets) : SaEncryption :=
  if algorithm.isAead then .aead "rfc4106(gcm(aes))" (UInt32.ofNat (key.length * 8)) 128 key
  else .cipher "cbc(aes)" (UInt32.ofNat (key.length * 8)) key

def integrityTransform (algorithm : IntegrityAlgorithm) (key : Octets) : Except IpsecError SaIntegrity :=
  match algorithm with
  | .hmacSha2_256_128 => .ok ⟨"hmac(sha256)", UInt32.ofNat (key.length * 8), 128, key⟩
  | .hmacSha1_96 => .ok ⟨"hmac(sha1)", UInt32.ofNat (key.length * 8), 96, key⟩
  | .none => .error (.xfrm "cannot install an integrity transform for NONE")

def stateIntegrity : Option IntegrityAlgorithm → Option Octets → Except IpsecError (Option SaIntegrity)
  | some algorithm, some key => (integrityTransform algorithm key).map some
  | _, _ => .ok none

def stateSelector (child : ChildSaHandle) (outbound : Bool) (spec : InstallSpec) (source destination : IpAddr) :
    Except IpsecError Selector :=
  if spec.mode = .tunnel then tunnelSelector child outbound spec
  else .ok (.ofPrefixes source (fullPrefix source) destination (fullPrefix destination))

def buildState (child : ChildSaHandle) (spec : InstallSpec) (outbound : Bool) :
    Except IpsecError SaMessage := do
  let (source, destination, spi, key, authKey) :=
    if outbound then
      (spec.localAddress, spec.remoteAddress, child.remoteSpi, child.outboundKey,
        child.outboundIntegrityKey)
    else
      (spec.remoteAddress, spec.localAddress, child.localSpi, child.inboundKey,
        child.inboundIntegrityKey)
  let selector ← stateSelector child outbound spec source destination
  let integrity ← stateIntegrity child.integrity authKey
  let window := min spec.replayWindow 4096
  return {
    source, destination, spi, mode := spec.mode, reqid := spec.reqid
    replayWindow := if child.esn then 0 else (min spec.replayWindow 255).toUInt8
    hardSeconds := spec.lifetime / 1000000000, selector
    encryption := encryptionTransform child.encryption key
    ifId := spec.xfrmIfId, integrity
    esn := if child.esn then some ⟨max ((window + 31) / 32) 1, window⟩ else none
    encap := spec.natT, mark := spec.xfrmMark }

/-! The kernel -/

def markOf (mark : Option XfrmMark) : XfrmMark := mark.getD ⟨0, 0⟩

/-- The SA is what a lookup under `mark` finds at this destination and SPI. -/
def SaMessage.isAt (sa : SaMessage) (destination : IpAddr) (spi mark : UInt32) : Bool :=
  sa.destination == destination && sa.spi == spi && mark &&& (markOf sa.mark).mask == (markOf sa.mark).value

/-- What identifies a policy: its direction, selector, interface and mark. -/
structure PolicyKey where
  direction : Direction
  selector : Selector
  ifId : UInt32
  mark : XfrmMark
  deriving DecidableEq, Repr

def PolicyMessage.key (policy : PolicyMessage) : PolicyKey :=
  ⟨policy.direction, policy.selector, policy.ifId.getD 0, markOf policy.mark⟩

structure XfrmTables where
  sas : List SaMessage
  policies : List PolicyMessage
  deriving DecidableEq, Repr

inductive XfrmRequest
  | addSa (message : SaMessage)
  | updateSa (message : SaMessage)
  | deleteSa (destination : IpAddr) (spi : UInt32)
  | addPolicy (message : PolicyMessage)
  | updatePolicy (message : PolicyMessage)
  | deletePolicy (direction : Direction) (selector : Selector) (ifId : UInt32)
  deriving DecidableEq, Repr

/-- `EEXIST`, an object that is not there, or any other errno with its text. -/
inductive KernelError
  | alreadyThere
  | missing
  | refused (text : String)
  deriving DecidableEq, Repr

/-- How the kernel answers, request by request, and what an update leaves of an SA. -/
structure XfrmKernel where
  answer : Nat → Option String
  updated : SaMessage → SaMessage → SaMessage

namespace XfrmTables

def findSa (tables : XfrmTables) (destination : IpAddr) (spi mark : UInt32) : Bool :=
  tables.sas.any fun sa => sa.isAt destination spi mark

def findPolicy (tables : XfrmTables) (key : PolicyKey) : Bool :=
  tables.policies.any fun policy => policy.key == key

def serve (tables : XfrmTables) (kernel : XfrmKernel) : XfrmRequest → Except KernelError XfrmTables
  | .addSa message =>
    let mark := (markOf message.mark).value &&& (markOf message.mark).mask
    if tables.findSa message.destination message.spi mark then .error .alreadyThere
    else .ok { tables with sas := tables.sas ++ [message] }
  | .updateSa message =>
    let mark := (markOf message.mark).value &&& (markOf message.mark).mask
    if tables.findSa message.destination message.spi mark then
      .ok { tables with
        sas := tables.sas.map fun sa =>
          if sa.isAt message.destination message.spi mark then kernel.updated sa message else sa }
    else .error .missing
  | .deleteSa destination spi =>
    if tables.findSa destination spi 0 then
      .ok { tables with sas := tables.sas.filter fun sa => !sa.isAt destination spi 0 }
    else .error .missing
  | .addPolicy message =>
    if tables.findPolicy message.key then .error .alreadyThere
    else .ok { tables with policies := tables.policies ++ [message] }
  | .updatePolicy message =>
    if tables.findPolicy message.key then
      .ok { tables with
        policies := tables.policies.map fun policy => if policy.key = message.key then message else policy }
    else .ok { tables with policies := tables.policies ++ [message] }
  | .deletePolicy direction selector ifId =>
    let key : PolicyKey := ⟨direction, selector, ifId, ⟨0, 0⟩⟩
    if tables.findPolicy key then
      .ok { tables with policies := tables.policies.filter fun policy => policy.key ≠ key }
    else .error .missing

end XfrmTables

def KernelError.text : KernelError → String
  | .alreadyThere => "File exists (os error 17)"
  | .missing => "No such file or directory (os error 2)"
  | .refused text => text

def KernelError.toIpsec (error : KernelError) : IpsecError :=
  ⟨.netlink, "netlink request failed: " ++ error.text⟩

/-! The manager -/

structure SaRecord where
  source : IpAddr
  destination : IpAddr
  spi : UInt32
  ipv4 : Bool
  deriving DecidableEq, Repr

structure InstalledChildSa where
  ifId : UInt32
  reqid : UInt32
  localAddress : IpAddr
  remoteAddress : IpAddr
  localSpi : UInt32
  remoteSpi : UInt32
  localPolicies : List PolicyRecord
  remotePolicies : List PolicyRecord
  forwardPolicies : List PolicyRecord
  deriving DecidableEq, Repr

/-- The manager, with the kernel's tables and the requests made so far. -/
structure XfrmManager where
  tables : XfrmTables
  requests : Nat
  sas : List SaRecord
  policies : List PolicyRecord
  deriving DecidableEq, Repr

abbrev Managed := Fallible XfrmManager IpsecError

namespace XfrmManager

def start : XfrmManager := ⟨⟨[], []⟩, 0, [], []⟩

def submit (self : XfrmManager) (kernel : XfrmKernel) (request : XfrmRequest) :
    Except KernelError Unit × XfrmManager :=
  let next := { self with requests := self.requests + 1 }
  match kernel.answer self.requests with
  | some text => (.error (.refused text), next)
  | none =>
    match self.tables.serve kernel request with
    | .error error => (.error error, next)
    | .ok tables => (.ok (), { next with tables })

end XfrmManager

def requestOnce (kernel : XfrmKernel) (request : XfrmRequest) : Managed (Except KernelError Unit) := do
  let outcome := (← get).submit kernel request
  modify fun _ => outcome.2
  return outcome.1

def addOrUpdate (kernel : XfrmKernel) (add update : XfrmRequest) : Managed Unit := do
  match ← requestOnce kernel add with
  | .ok _ => return ()
  | .error .alreadyThere =>
    match ← requestOnce kernel update with
    | .ok _ => return ()
    | .error error => throw error.toIpsec
  | .error error => throw error.toIpsec

def addOrUpdateSa (kernel : XfrmKernel) (message : SaMessage) : Managed Unit :=
  addOrUpdate kernel (.addSa message) (.updateSa message)

def addPolicy (kernel : XfrmKernel) (record : PolicyRecord) : Managed Unit :=
  addOrUpdate kernel (.addPolicy record.message) (.updatePolicy record.message)

def deleteSaRequest (id : SaRecord) : XfrmRequest := .deleteSa id.destination id.spi

def deletePolicyRequest (record : PolicyRecord) : XfrmRequest :=
  .deletePolicy record.direction record.selector record.ifId

namespace XfrmManager

def deleteSa (self : XfrmManager) (kernel : XfrmKernel) (id : SaRecord) :
    Except KernelError Unit × XfrmManager :=
  match self.submit kernel (deleteSaRequest id) with
  | (.ok _, self) => (.ok (), { self with sas := self.sas.filter (· ≠ id) })
  | (.error error, self) => (.error error, self)

def rollbackPolicies (self : XfrmManager) (kernel : XfrmKernel) (installed : InstalledChildSa) :
    XfrmManager :=
  (installed.localPolicies ++ installed.remotePolicies ++ installed.forwardPolicies).foldl
    (fun self record => (self.submit kernel (deletePolicyRequest record)).2) self

end XfrmManager

def addOrRollback (kernel : XfrmKernel) (record : PolicyRecord) (installed : InstalledChildSa) : Managed Unit :=
  tryCatch (addPolicy kernel record) fun error => do
    modify fun self => self.rollbackPolicies kernel installed
    throw error

def installForward (kernel : XfrmKernel) (spec : InstallSpec) (localSide remoteSide : TrafficSelector)
    (installed : InstalledChildSa) : Managed InstalledChildSa := do
  if ¬(spec.forward ∧ spec.mode = .tunnel) then return installed
  let first ← buildPolicy .forward localSide remoteSide spec
  let second ← buildPolicy .forward remoteSide localSide spec
  addOrRollback kernel first installed
  let installed := { installed with forwardPolicies := installed.forwardPolicies ++ [first] }
  addOrRollback kernel second installed
  return { installed with forwardPolicies := installed.forwardPolicies ++ [second] }

def installPairs (kernel : XfrmKernel) (spec : InstallSpec) :
    List (TrafficSelector × TrafficSelector) → InstalledChildSa → Managed InstalledChildSa
  | [], installed => return installed
  | (localSide, remoteSide) :: pairs, installed => do
    let out ← buildPolicy .out localSide remoteSide spec
    let inward ← buildPolicy .inward remoteSide localSide spec
    addOrRollback kernel out installed
    let installed := { installed with localPolicies := installed.localPolicies ++ [out] }
    addOrRollback kernel inward installed
    let installed := { installed with remotePolicies := installed.remotePolicies ++ [inward] }
    let installed ← installForward kernel spec localSide remoteSide installed
    installPairs kernel spec pairs installed

def selectorPairs (child : ChildSaHandle) : List (TrafficSelector × TrafficSelector) :=
  child.localSelectors.flatMap fun localSide => child.remoteSelectors.map fun remoteSide =>
    (localSide, remoteSide)

def checkInstall (child : ChildSaHandle) (spec : InstallSpec) : Except IpsecError Unit :=
  if child.mode ≠ spec.mode then
    .error (.xfrm "Child SA mode does not match the install specification")
  else if spec.localAddress.isIpv4 ≠ spec.remoteAddress.isIpv4 then
    .error (.xfrm "local and remote underlay addresses use different families")
  else if spec.interface.any fun interface => interface.ifId ≠ spec.ifId then
    .error (.xfrm "XFRM interface if_id does not match the install specification")
  else .ok ()

def outboundRecord (localAddress remoteAddress : IpAddr) (remoteSpi : UInt32) : SaRecord :=
  ⟨localAddress, remoteAddress, remoteSpi, localAddress.isIpv4⟩

def inboundRecord (localAddress remoteAddress : IpAddr) (localSpi : UInt32) : SaRecord :=
  ⟨remoteAddress, localAddress, localSpi, localAddress.isIpv4⟩

namespace InstalledChildSa

def bare (child : ChildSaHandle) (spec : InstallSpec) : InstalledChildSa where
  ifId := spec.ifId
  reqid := spec.reqid
  localAddress := spec.localAddress
  remoteAddress := spec.remoteAddress
  localSpi := child.localSpi
  remoteSpi := child.remoteSpi
  localPolicies := []
  remotePolicies := []
  forwardPolicies := []

def outboundId (installed : InstalledChildSa) : SaRecord :=
  outboundRecord installed.localAddress installed.remoteAddress installed.remoteSpi

def inboundId (installed : InstalledChildSa) : SaRecord :=
  inboundRecord installed.localAddress installed.remoteAddress installed.localSpi

end InstalledChildSa

def insertSa (sas : List SaRecord) (id : SaRecord) : List SaRecord := if id ∈ sas then sas else sas ++ [id]

def install (kernel : XfrmKernel) (child : ChildSaHandle) (spec : InstallSpec) : Managed InstalledChildSa := do
  checkInstall child spec
  let outbound ← buildState child spec true
  let inbound ← buildState child spec false
  let outboundId := outboundRecord spec.localAddress spec.remoteAddress child.remoteSpi
  let inboundId := inboundRecord spec.localAddress spec.remoteAddress child.localSpi
  addOrUpdateSa kernel outbound
  tryCatch (addOrUpdateSa kernel inbound) fun error => do
    modify fun self => (self.deleteSa kernel outboundId).2
    throw error
  let installed ← tryCatch (installPairs kernel spec (selectorPairs child) (.bare child spec)) fun error => do
    modify fun self => (self.deleteSa kernel inboundId).2
    modify fun self => (self.deleteSa kernel outboundId).2
    throw error
  modify fun self => { self with
    sas := insertSa (insertSa self.sas inboundId) outboundId
    policies := self.policies ++
      (installed.localPolicies ++ installed.remotePolicies ++ installed.forwardPolicies) }
  return installed

namespace XfrmManager

def removePolicy (kernel : XfrmKernel) (outcome : Option IpsecError × XfrmManager) (policy : PolicyRecord) :
    Option IpsecError × XfrmManager :=
  match outcome.2.submit kernel (deletePolicyRequest policy) with
  | (.error error, self) => (outcome.1.or (some error.toIpsec), self)
  | (.ok _, self) => (outcome.1, { self with policies := self.policies.filter (· ≠ policy) })

def removeSa (kernel : XfrmKernel) (outcome : Option IpsecError × XfrmManager) (id : SaRecord) :
    Option IpsecError × XfrmManager :=
  match outcome.2.deleteSa kernel id with
  | (.error error, self) => (outcome.1.or (some error.toIpsec), self)
  | (.ok _, self) => (outcome.1, self)

def remove (self : XfrmManager) (kernel : XfrmKernel) (installed : InstalledChildSa) :
    Option IpsecError × XfrmManager :=
  let policies := installed.forwardPolicies ++ installed.remotePolicies ++ installed.localPolicies
  [installed.inboundId, installed.outboundId].foldl (removeSa kernel)
    (policies.foldl (removePolicy kernel) (none, self))

end XfrmManager

end Xfrm

end Shuli.Ipsec
