import Shuli.Lists
import Shuli.Wired.MkaPdu

/-!
The kernel MACsec device (`macsec.rs`): the desired configuration of transmit and receive SAs, and
the calls that hand it to the kernel. The netlink crates are the parameter `Kernel`.
-/

namespace Shuli.Wired

open Fallible
open Shuli.Core (WifiError)

def macsecErr (msg : String) : WifiError := ⟨.io, msg⟩

structure SaConfig where
  an : UInt8
  pn : Option UInt32
  active : Option Bool
  keyId : Octets
  key : Option Octets
  deriving DecidableEq, Repr

structure RxScConfig where
  sci : UInt64
  active : Option Bool
  saList : List SaConfig
  deriving DecidableEq, Repr

structure LinkConfig where
  baseIface : String
  name : String
  sci : Sci
  replayWindow : UInt32
  encrypt : Bool
  deriving DecidableEq, Repr

/-- A call of the device into the kernel, with the whole configuration that it hands over. -/
inductive KernelCall
  | apply (txSa : List SaConfig) (rxSc : List RxScConfig)
  | setEncodingSa (an : UInt8)
  deriving DecidableEq, Repr

/-- The kernel's answers: to the creation of the link, and to the calls of the device in their order,
each with the text of the error if it fails. -/
structure Kernel where
  createLink : LinkConfig → Except WifiError Unit
  answer : Nat → Option String

def Kernel.Obliging (kernel : Kernel) : Prop := ∀ place, kernel.answer place = none

/-- The SA lists of the desired configuration are set from the creation on. -/
structure MacsecDevice where
  link : LinkConfig
  txSa : List SaConfig
  rxSc : List RxScConfig
  calls : List KernelCall
  deriving DecidableEq, Repr

def keyidBytes (ki : KeyId) : Octets := ki.mi.val ++ be32 ki.kn

def sciBe (sci : Sci) : UInt64 := ofBe64 sci.val

abbrev Device := Fallible MacsecDevice WifiError

namespace MacsecDevice

def request (kernel : Kernel) (call : KernelCall) (context : String) : Device Unit := do
  let self ← get
  modify fun self => { self with calls := self.calls ++ [call] }
  match kernel.answer self.calls.length with
  | none => pure ()
  | some text => throw (macsecErr (context ++ ": " ++ text))

def apply (kernel : Kernel) : Device Unit := do
  let self ← get
  request kernel (.apply self.txSa self.rxSc) "macsec apply"

def setEncodingSa (kernel : Kernel) (an : UInt8) : Device Unit :=
  request kernel (.setEncodingSa an) "set MACsec encoding SA"

def create (kernel : Kernel) (link : LinkConfig) : Except WifiError MacsecDevice := do
  kernel.createLink link
  let (result, device) := exec (apply kernel) ⟨link, [], [], []⟩
  result.map fun _ => device

def forgetTxSaPn (an : UInt8) (self : MacsecDevice) : MacsecDevice :=
  { self with txSa := updateFirst (·.an == an) (fun sa => { sa with pn := none }) self.txSa }

def updateRxSas (sci : UInt64) (f : List SaConfig → List SaConfig) (self : MacsecDevice) :
    MacsecDevice :=
  { self with
    rxSc := updateFirst (·.sci == sci) (fun sc => { sc with saList := f sc.saList }) self.rxSc }

def forgetRxSaPn (sci : UInt64) (an : UInt8) (self : MacsecDevice) : MacsecDevice :=
  self.updateRxSas sci (updateFirst (·.an == an) fun sa => { sa with pn := none })

def removeRxSc (kernel : Kernel) (peerSci : Sci) : Device Unit := do
  modify fun self => { self with rxSc := self.rxSc.filter fun sc => sc.sci ≠ sciBe peerSci }
  apply kernel

def clearSas (kernel : Kernel) : Device Unit := do
  modify fun self => { self with txSa := [], rxSc := [] }
  apply kernel

def activateTxSa (an : UInt8) (self : MacsecDevice) : MacsecDevice :=
  { self with txSa := updateFirst (·.an == an) (fun sa => { sa with active := some true }) self.txSa }

def addTxSa (kernel : Kernel) (an : UInt8) (ki : KeyId) (sak : Octets) (active : Bool) :
    Device Unit := do
  let sa : SaConfig := ⟨an, some 1, some active, keyidBytes ki, some sak⟩
  modify fun self => { self with txSa := self.txSa ++ [sa] }
  apply kernel
  modify (forgetTxSaPn an)
  when active (setEncodingSa kernel an)

/-- Install the transmit SA and activate it on request. With the key that is configured, only the
active state can change. Another key is installed after the old SA has been deleted. -/
def installTxSa (kernel : Kernel) (an : UInt8) (ki : KeyId) (sak : Octets) (active : Bool) :
    Device Unit := do
  let self ← get
  match self.txSa.find? (·.an == an) with
  | none => addTxSa kernel an ki sak active
  | some sa =>
    if sa.keyId = keyidBytes ki then
      when active (modify (activateTxSa an))
      apply kernel
      when active (setEncodingSa kernel an)
    else
      modify fun self => { self with txSa := self.txSa.eraseP (·.an == an) }
      apply kernel
      addTxSa kernel an ki sak active

def setTxSaActive (kernel : Kernel) (an : UInt8) : Device Unit := do
  modify (activateTxSa an)
  apply kernel
  setEncodingSa kernel an

def openRxSc (sci : UInt64) (self : MacsecDevice) : MacsecDevice :=
  let rxSc := if self.rxSc.any (·.sci == sci) then self.rxSc else self.rxSc ++ [⟨sci, none, []⟩]
  { self with rxSc := updateFirst (·.sci == sci) (fun sc => { sc with active := some true }) rxSc }

def addRxSa (kernel : Kernel) (sci : UInt64) (an : UInt8) (ki : KeyId) (sak : Octets) :
    Device Unit := do
  let sa : SaConfig := ⟨an, some 1, some true, keyidBytes ki, some sak⟩
  modify (updateRxSas sci (· ++ [sa]))
  apply kernel
  modify (forgetRxSaPn sci an)

def installRxSa (kernel : Kernel) (peerSci : Sci) (an : UInt8) (ki : KeyId) (sak : Octets) :
    Device Unit := do
  let sci := sciBe peerSci
  modify (openRxSc sci)
  let self ← get
  let saList := ((self.rxSc.find? (·.sci == sci)).map (·.saList)).getD []
  match saList.find? (·.an == an) with
  | none => addRxSa kernel sci an ki sak
  | some sa =>
    if sa.keyId = keyidBytes ki then apply kernel
    else
      modify (updateRxSas sci (·.eraseP (·.an == an)))
      apply kernel
      addRxSa kernel sci an ki sak

end MacsecDevice

end Shuli.Wired
