import Shuli.Core.EapTls

/-!
Key derivation and message integrity of the Wi-Fi client (`crypto/kdf.rs`, `crypto/ft.rs` and
the free functions of `crypto/handshake4.rs`). HMAC, AES-CMAC and AES key wrap come from other
crates and are the parameter `Primitives`; the expansions, truncations and length checks around
them are modelled here.
-/

namespace Shuli.Wifi

open Shuli.Core (WifiError handshakeError)

class Primitives where
  hmacSha256 : (key data : Octets) → Block 32
  hmacSha1 : (key data : Octets) → Block 20
  sha256 : Octets → Block 32
  /-- PBKDF2 with HMAC-SHA1 and 4096 rounds. -/
  pbkdf2 : (password salt : Octets) → Block 32
  cmacAes128 : (key : Block 16) → (data : Octets) → Block 16
  /-- AES key unwrap into a buffer of the length of the key; the text of the crate's error. -/
  kwUnwrapKey : (kek : Block 16) → (wrapped : Octets) → Except String (Block (wrapped.length - 8))

abbrev MacAddr := Block 6

section

variable {width : Nat} (block : Nat → Block (width + 1))

def expandLoop (length : Nat) : (bound counter : Nat) → Octets → Octets
  | 0, _, result => result
  | bound + 1, counter, result =>
    if result.length < length then
      expandLoop length bound (counter + 1) (result ++ (block counter).val)
    else result

/-- The first `length` octets of the blocks from `counter` on. A block has an octet or more, so
`length` bounds the iterations. -/
def expand (counter length : Nat) : Octets := (expandLoop block length length counter []).take length

theorem expandLoop_length_le (length bound counter : Nat) (result : Octets)
    (enough : length ≤ result.length + bound) :
    length ≤ (expandLoop block length bound counter result).length := by
  induction bound generalizing counter result with
  | zero => simpa [expandLoop] using enough
  | succ bound ih =>
    rw [expandLoop]
    by_cases short : result.length < length
    · rw [if_pos short]
      apply ih
      rw [List.length_append, (block counter).property]
      omega
    · rw [if_neg short]
      omega

theorem expand_length (counter length : Nat) : (expand block counter length).length = length := by
  have reached := expandLoop_length_le block length length counter [] (by simp)
  rw [expand, List.length_take]
  omega

end

theorem mic_fits : 0 + 16 ≤ 32 := by decide

variable [Primitives]

def kdfBlock (key : Octets) (label : String) (context : Octets) (length counter : Nat) : Block 32 :=
  Primitives.hmacSha256 key (le16 (UInt16.ofNat counter) ++ asBytes label ++ context ++
    le16 (UInt16.ofNat (length * 8)))

def kdf (key : Octets) (label : String) (context : Octets) (length : Nat) : Block length :=
  ⟨expand (kdfBlock key label context length) 1 length, expand_length _ 1 length⟩

def prfSha1Block (key : Octets) (label : String) (context : Octets) (counter : Nat) : Block 20 :=
  Primitives.hmacSha1 key (asBytes label ++ [0x00] ++ context ++ [UInt8.ofNat counter])

def prfSha1 (key : Octets) (label : String) (context : Octets) (length : Nat) : Block length :=
  ⟨expand (prfSha1Block key label context) 0 length, expand_length _ 0 length⟩

def hmacSha256Mic (kck data : Octets) : Block 16 := (Primitives.hmacSha256 kck data).slice 0 16 mic_fits

def hmacSha1Mic (kck data : Octets) : Block 16 :=
  (Primitives.hmacSha1 kck data).slice 0 16 (by decide)

def aesCmac (kck : Block 16) (data : Octets) : Except WifiError (Block 16) :=
  .ok (Primitives.cmacAes128 kck data)

def aesKeyUnwrap (kek : Block 16) (wrapped : Octets) : Except WifiError Octets :=
  if wrapped.length < 16 ∨ wrapped.length % 8 ≠ 0 then
    .error (handshakeError "invalid wrapped key length")
  else
    match Primitives.kwUnwrapKey kek wrapped with
    | .ok out => .ok out.val
    | .error e => .error (handshakeError s!"key unwrap: {e}")

def pbkdf2Pmk (password ssid : String) : Block 32 := Primitives.pbkdf2 (asBytes password) (asBytes ssid)

def pmkidSha256 (pmk : Block 32) (aa spa : MacAddr) : Block 16 :=
  hmacSha256Mic pmk.val (asBytes "PMK Name" ++ aa.val ++ spa.val)

def pmkidSha1 (pmk : Block 32) (aa spa : MacAddr) : Block 16 :=
  hmacSha1Mic pmk.val (asBytes "PMK Name" ++ aa.val ++ spa.val)

structure PmkR0 where
  key : Block 32
  name : Block 16
  deriving DecidableEq, Repr

structure PmkR1 where
  key : Block 32
  name : Block 16
  deriving DecidableEq, Repr

def derivePmkR0 (xxkey : Block 32) (ssid : String) (mdid : Block 2) (r0khId : Octets)
    (s0khId : MacAddr) : PmkR0 :=
  let ssidOctets := asBytes ssid
  let context := [UInt8.ofNat ssidOctets.length] ++ ssidOctets ++ mdid.val ++
    [UInt8.ofNat r0khId.length] ++ r0khId ++ s0khId.val
  let keyData := kdf xxkey.val "FT-R0" context 48
  let salt := keyData.slice 32 16 (by decide)
  { key := keyData.slice 0 32 (by decide)
    name := (Primitives.sha256 (asBytes "FT-R0N" ++ salt.val)).slice 0 16 (by decide) }

def derivePmkR1 (pmkR0 : PmkR0) (r1khId s1khId : MacAddr) : PmkR1 where
  key := kdf pmkR0.key.val "FT-R1" (r1khId.val ++ s1khId.val) 32
  name := (Primitives.sha256 (asBytes "FT-R1N" ++ pmkR0.name.val ++ r1khId.val ++ s1khId.val)).slice 0 16
    (by decide)

def deriveFtPtk (pmkR1 : PmkR1) (snonce anonce : Block 32) (bssid staAddr : MacAddr) : Block 48 :=
  kdf pmkR1.key.val "FT-PTK" (snonce.val ++ anonce.val ++ bssid.val ++ staAddr.val) 48

def ftMic (kck : Block 16) (staAddr apAddr : MacAddr) (transactionSeqnum : UInt8) (elements : Octets) :
    Except WifiError (Block 16) :=
  aesCmac kck (staAddr.val ++ apAddr.val ++ [transactionSeqnum] ++ elements)

def elementIdFtie : UInt8 := 55

def ftieReassocRequest (kck : Block 16) (staAddr apAddr : MacAddr) (anonce snonce : Block 32)
    (r0khId : Octets) (r1khId : MacAddr) (rsne mdie : Octets) (rsnxe : Option Octets) :
    Except WifiError Octets := do
  let elemCount : UInt8 := if rsnxe.isSome then 4 else 3
  let used : UInt8 := if rsnxe.isSome then 1 else 0
  let bodyLen := 2 + 16 + 32 + 32 + (2 + 6) + (2 + r0khId.length)
  let head := [elementIdFtie, UInt8.ofNat bodyLen, used, elemCount]
  let tail := anonce.val ++ snonce.val ++ [1, 6] ++ r1khId.val ++
    [3, UInt8.ofNat r0khId.length] ++ r0khId
  let unsigned := head ++ List.replicate 16 0 ++ tail
  let mic ← ftMic kck staAddr apAddr 5 (rsne ++ mdie ++ unsigned ++ rsnxe.getD [])
  return head ++ mic.val ++ tail

def unwrapFtKey (kek : Block 16) (wrappedKey : Octets) : Except WifiError Octets :=
  match aesKeyUnwrap kek wrappedKey with
  | .ok key => .ok key
  | .error e =>
    let text := e.display
    .error (handshakeError s!"FT key unwrap failed: {text}")

end Shuli.Wifi
