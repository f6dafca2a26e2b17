import Shuli.Slices
import Shuli.Wired.MkaCodec

/-!
Safety of the MKPDU parser. The functions of `mka.rs` that read a frame are translated once more, here
with their offsets: every index, slice, array conversion and subtraction is checked, and the loop over
the parameter sets may only run as often as there are groups of four octets in the body. No check fails,
the loop is over in time, and the results are those of `MkaPdu.parse`.
-/

namespace Shuli.Wired

open Shuli.Core (WifiError handshakeError)

/-! The parser with offsets. -/

def readPeersAt (data : Slice) : (count index : Nat) → Checked WifiError (List PeerId)
  | 0, _ => return []
  | count + 1, index =>
    if index * 16 + 16 ≤ data.octets.length then do
      let chunk ← data.sub (index * 16) (index * 16 + 16)
      let mi ← chunk.block 0 12
      let mn ← chunk.block 12 4
      let rest ← readPeersAt data count (index + 1)
      return ⟨mi, ofBe32 mn.val⟩ :: rest
    else return []

def readSakUseAt (octet2 octet3 : UInt8) (data : Slice) : Checked WifiError SakUse := do
  let latestMi ← data.block 0 12
  let latestKn ← data.block 12 4
  let oldMi ← data.block 20 12
  let oldKn ← data.block 32 4
  let latestLlpn ← data.block 16 4
  let oldLlpn ← data.block 36 4
  return { latestAn := (octet2 >>> 6) &&& 0x03
           latestTx := octet2 &&& 0x20 != 0
           latestRx := octet2 &&& 0x10 != 0
           oldAn := (octet2 >>> 2) &&& 0x03
           oldTx := octet2 &&& 0x02 != 0
           oldRx := octet2 &&& 0x01 != 0
           plainTx := octet3 &&& 0x80 != 0
           plainRx := octet3 &&& 0x40 != 0
           delayProtect := octet3 &&& 0x10 != 0
           latestKi := ⟨latestMi, ofBe32 latestKn.val⟩
           latestLlpn := ofBe32 latestLlpn.val
           oldKi := ⟨oldMi, ofBe32 oldKn.val⟩
           oldLlpn := ofBe32 oldLlpn.val }

def suiteAt (data : Slice) : Checked WifiError (Option (Block 8) × UInt32) :=
  if 4 ≤ data.octets.length then do
    let kn ← data.block 0 4
    if 36 ≤ data.octets.length then do
      let suite ← data.block 4 8
      return (some suite, ofBe32 kn.val)
    else return (none, ofBe32 kn.val)
  else return (none, 0)

def wrappedSakAt (data : Slice) (start : Nat) : Checked WifiError Octets :=
  if data.octets.length = 0 then return []
  else if start ≤ data.octets.length then do
    let wrapped ← data.tail start
    return wrapped.octets
  else return []

def readDistSakAt (octet2 : UInt8) (data : Slice) : Checked WifiError DistSak := do
  let (cipherSuite, kn) ← suiteAt data
  let wrappedSak ← wrappedSakAt data (4 + (if cipherSuite.isSome then 8 else 0))
  return { an := (octet2 >>> 6) &&& 0x03
           confidentialityOffset := (octet2 >>> 4) &&& 0x03
           kn := kn
           cipherSuite := cipherSuite
           wrappedSak := wrappedSak }

def readSetAt (sets : ParameterSets) (type octet2 octet3 : UInt8) (data : Slice) :
    Checked WifiError ParameterSets :=
  if type = 1 then
    if data.octets.length % 16 = 0 then do
      let peers ← readPeersAt data (data.octets.length / 16) 0
      return { sets with livePeers := peers }
    else fail (handshakeError "invalid Live Peer List length")
  else if type = 2 then
    if data.octets.length % 16 = 0 then do
      let peers ← readPeersAt data (data.octets.length / 16) 0
      return { sets with potentialPeers := peers }
    else fail (handshakeError "invalid Potential Peer List length")
  else if type = 3 then
    if 40 ≤ data.octets.length then do
      let use ← readSakUseAt octet2 octet3 data
      return { sets with sakUse := some use }
    else return sets
  else if type = 4 then do
    let dist ← readDistSakAt octet2 data
    return { sets with distSak := some dist }
  else return sets

/-- One iteration of the loop: where the next set would start and what has been read so far, or nothing
where the body ends. -/
def setAt (body : Slice) (pos : Nat) (sets : ParameterSets) :
    Checked WifiError (Option (Nat × ParameterSets)) :=
  if pos + 4 ≤ body.octets.length then do
    let type ← body.index pos
    let octet2 ← body.index (pos + 1)
    let octet3 ← body.index (pos + 2)
    let octet4 ← body.index (pos + 3)
    let length := ParameterSets.length octet3 octet4
    if pos + 4 + length > body.octets.length then
      fail (handshakeError "truncated MKPDU parameter set")
    else
      let data ← body.sub (pos + 4) (pos + 4 + length)
      let sets ← readSetAt sets type octet2 octet3 data
      return some (pos + 4 + align4 length, sets)
  else return none

def setsAt (body : Slice) : (bound pos : Nat) → ParameterSets → Checked WifiError ParameterSets
  | 0, _, _ => .error .unfinished
  | bound + 1, pos, sets => do
    match ← setAt body pos sets with
    | some (next, sets) => setsAt body bound next sets
    | none => return sets

def basicAt (body : Slice) : Checked WifiError (MkaBasic × Nat) := do
  let version ← body.index 0
  let priority ← body.index 1
  let flags ← body.index 2
  let octet4 ← body.index 3
  let basicLen := ParameterSets.length flags octet4
  if basicLen < 28 ∨ 4 + basicLen > body.octets.length then
    fail (handshakeError "invalid Basic Parameter Set length")
  else
    let sci ← body.block 4 8
    let mi ← body.block 12 12
    let mn ← body.block 24 4
    let algoAgility ← body.block 28 4
    let ckn ← body.sub 32 (4 + basicLen)
    return ({ version := version
              priority := priority
              keyServer := flags &&& 0x80 != 0
              macsecDesired := flags &&& 0x40 != 0
              macsecCapability := (flags >>> 4) &&& 0x03
              sci := sci
              mi := mi
              mn := ofBe32 mn.val
              algoAgility := algoAgility
              ckn := ckn.octets }, basicLen)

def parseBodyAt (body : Slice) : Checked WifiError MkaPdu :=
  if body.octets.length < 32 then fail (handshakeError "MKPDU too short")
  else do
    let (basic, basicLen) ← basicAt body
    let sets ← setsAt body (body.octets.length / 4 + 1) (4 + align4 basicLen) .empty
    return ⟨basic, sets.livePeers, sets.potentialPeers, sets.sakUse, sets.distSak⟩

def parseAt [MkaCrypto] (eapol : Slice) (da sa : MacAddr) (ick : Octets) :
    Checked WifiError (Option MkaPdu) :=
  if eapol.octets.length < 4 then return none
  else do
    let type ← eapol.index 1
    if type ≠ eapolTypeMka then return none
    else
      let bodyLen ← eapol.u16 2
      if bodyLen.toNat < icvLen + 4 ∨ eapol.octets.length < 4 + bodyLen.toNat then
        fail (handshakeError "truncated EAPOL-MKA frame")
      else if bodyLen.toNat % 4 ≠ 0 then
        fail (handshakeError "EAPOL-MKA body length is not a multiple of 4")
      else
        let icvStart ← minus (4 + bodyLen.toNat) icvLen
        let signed ← eapol.sub 0 icvStart
        let icv ← eapol.tail icvStart
        -- `zip` stops at the end of the shorter side and reads nothing beyond it
        if verifyIcv ick da sa signed.octets icv.octets then do
          let body ← eapol.sub 4 icvStart
          let pdu ← parseBodyAt body
          return some pdu
        else fail (handshakeError "invalid MKPDU ICV")

/-! Checked reads as the octets that the parser takes. -/

section Reads

variable {buffer : Slice} {octets : Octets} {first width : Nat}

theorem readBlock_val (enough : width ≤ octets.length) : (readBlock width octets).val = octets.take width :=
  List.take_append_of_le_length enough

theorem block_read (inside : first + width ≤ buffer.octets.length) :
    (buffer.block first width : Checked WifiError (Block width)) =
      .ok (readBlock width (buffer.octets.drop first)) := by
  have enough : width ≤ (buffer.octets.drop first).length := by
    rw [List.length_drop]
    omega
  rw [Slice.block_eq inside]
  congr 1
  exact Subtype.ext (readBlock_val enough).symm

theorem readU32_eq (inside : first + 4 ≤ octets.length) :
    readU32 octets first = ofBe32 (readBlock 4 (octets.drop first)).val := by
  have enough : 4 ≤ (octets.drop first).length := by
    rw [List.length_drop]
    omega
  rw [readU32, readBlock_val enough]

theorem drop_eq_four {pos : Nat} (inside : pos + 4 ≤ octets.length) :
    octets.drop pos = octets.getD pos 0 :: octets.getD (pos + 1) 0 :: octets.getD (pos + 2) 0 ::
      octets.getD (pos + 3) 0 :: octets.drop (pos + 4) := by
  have next {place : Nat} (here : place < octets.length) :
      octets.drop place = octets.getD place 0 :: octets.drop (place + 1) := by
    rw [List.drop_eq_getElem_cons here, List.getD_eq_getElem?_getD, List.getElem?_eq_getElem here,
      Option.getD_some]
  rw [next (by omega : pos < _), next (by omega : pos + 1 < _), next (by omega : pos + 2 < _),
    next (by omega : pos + 3 < _)]

end Reads

/-! The parser with offsets agrees with the one without. -/

theorem readPeersAt_eq (data : Slice) (count index : Nat) :
    readPeersAt data count index = .ok (readPeers (data.octets.drop (index * 16)) count) := by
  induction count generalizing index with
  | zero => rfl
  | succ count ih =>
    have size : (data.octets.drop (index * 16)).length = data.octets.length - index * 16 :=
      List.length_drop
    rw [readPeersAt, readPeers]
    by_cases more : index * 16 + 16 ≤ data.octets.length
    · have chunk : (data.octets.drop (index * 16)).take 16 =
          (data.octets.take (index * 16 + 16)).drop (index * 16) := by
        rw [List.drop_take, Nat.add_sub_cancel_left]
      have whole : ((data.octets.drop (index * 16)).take 16).length = 16 := by
        rw [List.length_take]
        omega
      have full : ¬(data.octets.drop (index * 16)).length < 16 := by omega
      rw [if_pos more, if_neg full, Slice.sub_eq (by omega) more, ih (index + 1),
        show (index + 1) * 16 = index * 16 + 16 by omega, ← List.drop_drop, ← chunk]
      generalize data.octets.drop (index * 16) = here at full whole
      have mi : readBlock 12 ((here.take 16).drop 0) = readBlock 12 here := by
        apply Subtype.ext
        rw [List.drop_zero, readBlock_val (by omega), readBlock_val (by omega), List.take_take]
        rfl
      have mn : readBlock 4 ((here.take 16).drop 12) = readBlock 4 (here.drop 12) := by
        apply Subtype.ext
        rw [readBlock_val (by rw [List.length_drop]; omega), readBlock_val (by rw [List.length_drop]; omega),
          List.drop_take, List.take_take]
        rfl
      rw [readU32_eq (by omega), ← mi, ← mn]
      refine (Except.bind_eq_ok).mpr ⟨_, rfl, ?_⟩
      rw [block_read (by dsimp only; omega), block_read (by dsimp only; omega)]
      rfl
    · have short : (data.octets.drop (index * 16)).length < 16 := by omega
      rw [if_neg more, if_pos short]
      rfl

theorem readSakUseAt_eq {data : Slice} (octet2 octet3 : UInt8) (long : 40 ≤ data.octets.length) :
    readSakUseAt octet2 octet3 data = .ok (ParameterSets.readSakUse octet2 octet3 data.octets) := by
  unfold readSakUseAt ParameterSets.readSakUse
  rw [block_read (by omega), block_read (by omega), block_read (by omega), block_read (by omega),
    block_read (by omega), block_read (by omega), readU32_eq (by omega), readU32_eq (by omega),
    readU32_eq (by omega), readU32_eq (by omega)]
  rfl

theorem suiteAt_eq (data : Slice) : suiteAt data =
    .ok (if 36 ≤ data.octets.length then some (readBlock 8 (data.octets.drop 4)) else none,
      if 4 ≤ data.octets.length then readU32 data.octets 0 else 0) := by
  rw [suiteAt]
  by_cases numbered : 4 ≤ data.octets.length
  · have kn : readU32 data.octets 0 = ofBe32 (readBlock 4 (data.octets.drop 0)).val := readU32_eq numbered
    rw [if_pos numbered, if_pos numbered, kn, block_read (by omega)]
    refine Except.bind_eq_ok.mpr ⟨_, rfl, ?_⟩
    by_cases long : 36 ≤ data.octets.length
    · rw [if_pos long, if_pos long, block_read (by omega)]
      rfl
    · rw [if_neg long, if_neg long]
      rfl
  · have short : ¬36 ≤ data.octets.length := by omega
    rw [if_neg numbered, if_neg numbered, if_neg short]
    rfl

theorem wrappedSakAt_eq (data : Slice) (start : Nat) :
    wrappedSakAt data start = .ok (data.octets.drop start) := by
  rw [wrappedSakAt]
  by_cases inside : start ≤ data.octets.length
  · by_cases none : data.octets.length = 0
    · rw [List.length_eq_zero_iff.mp none, List.drop_nil]
      rfl
    · rw [if_neg none, if_pos inside, Slice.tail_eq inside]
      rfl
  · rw [if_neg inside, ite_self, List.drop_eq_nil_of_le (by omega)]
    rfl

theorem readDistSakAt_eq (octet2 : UInt8) (data : Slice) :
    readDistSakAt octet2 data = .ok (ParameterSets.readDistSak octet2 data.octets) := by
  rw [readDistSakAt, suiteAt_eq]
  refine Except.bind_eq_ok.mpr ⟨_, rfl, ?_⟩
  dsimp only
  rw [wrappedSakAt_eq]
  by_cases long : 36 ≤ data.octets.length
  · simp only [ParameterSets.readDistSak, if_pos long]
    rfl
  · simp only [ParameterSets.readDistSak, if_neg long]
    rfl

theorem readSetAt_agrees (sets : ParameterSets) (type octet2 octet3 : UInt8) (data : Slice) :
    Agrees (readSetAt sets type octet2 octet3 data) (sets.read type octet2 octet3 data.octets) id
      fun _ => True := by
  have peers : readPeersAt data (data.octets.length / 16) 0 =
      .ok (readPeers data.octets (data.octets.length / 16)) := by
    rw [readPeersAt_eq, List.drop_zero]
  refine Agrees.branch Iff.rfl (fun _ => ?_) fun _ => ?_
  · refine Agrees.branch Iff.rfl (fun _ => ?_) fun _ => Agrees.failed _
    exact Agrees.read peers (Agrees.ok rfl trivial)
  refine Agrees.branch Iff.rfl (fun _ => ?_) fun _ => ?_
  · refine Agrees.branch Iff.rfl (fun _ => ?_) fun _ => Agrees.failed _
    exact Agrees.read peers (Agrees.ok rfl trivial)
  refine Agrees.branch Iff.rfl (fun _ => ?_) fun _ => ?_
  · refine Agrees.branch Iff.rfl (fun long => ?_) fun _ => Agrees.ok rfl trivial
    exact Agrees.read (readSakUseAt_eq octet2 octet3 long) (Agrees.ok rfl trivial)
  refine Agrees.branch Iff.rfl (fun _ => ?_) fun _ => Agrees.ok rfl trivial
  exact Agrees.read (readDistSakAt_eq octet2 data) (Agrees.ok rfl trivial)

def ParameterSets.step (body : Octets) (pos : Nat) (sets : ParameterSets) :
    Except WifiError (Option (Nat × ParameterSets)) :=
  if pos + 4 ≤ body.length then
    let len := length (body.getD (pos + 2) 0) (body.getD (pos + 3) 0)
    if (body.drop (pos + 4)).length < len then .error (handshakeError "truncated MKPDU parameter set")
    else do
      let sets ← sets.read (body.getD pos 0) (body.getD (pos + 1) 0) (body.getD (pos + 2) 0)
        ((body.drop (pos + 4)).take len)
      .ok (some (pos + 4 + align4 len, sets))
  else .ok none

variable {sets : ParameterSets}

theorem ParameterSets.parse_step {body : Octets} {bound pos : Nat}
    (more : pos + 4 ≤ body.length) :
    parse (bound + 1) sets (body.drop pos) = (step body pos sets).bind fun
      | some (next, sets) => parse bound sets (body.drop next)
      | none => .ok sets := by
  rw [drop_eq_four more, parse, step]
  dsimp only
  split
  · rfl
  · generalize sets.read _ _ _ _ = taken
    cases taken with
    | error e => rfl
    | ok sets =>
      change parse bound sets _ = parse bound sets _
      rw [List.drop_drop]

theorem ParameterSets.parse_short {rest : Octets} {bound : Nat}
    (short : rest.length < 4) : parse bound sets rest = .ok sets := by
  unfold parse
  split
  · simp only [List.length_cons] at short
    omega
  · rfl

theorem setAt_agrees (body : Slice) (pos : Nat) (sets : ParameterSets) :
    Agrees (setAt body pos sets) (sets.step body.octets pos) id fun next =>
      ∀ place ∈ next, pos + 4 ≤ place.1 := by
  refine Agrees.branch Iff.rfl (fun more => ?_) fun _ => Agrees.ok rfl (fun _ mem => (by cases mem))
  refine Agrees.read (Slice.index_eq (by omega)) (Agrees.read (Slice.index_eq (by omega)) ?_)
  refine Agrees.read (Slice.index_eq (by omega)) (Agrees.read (Slice.index_eq (by omega)) ?_)
  generalize ParameterSets.length (body.octets.getD (pos + 2) 0) (body.octets.getD (pos + 3) 0) = len
  have left : (body.octets.drop (pos + 4)).length = body.octets.length - (pos + 4) := List.length_drop
  refine Agrees.branch (by rw [left]; omega) (fun _ => Agrees.failed _) fun fits => ?_
  refine Agrees.read (Slice.sub_eq (by omega) (by omega)) ?_
  rw [show (body.octets.drop (pos + 4)).take len = (body.octets.take (pos + 4 + len)).drop (pos + 4) by
    rw [List.drop_take, Nat.add_sub_cancel_left]]
  refine Agrees.bind (readSetAt_agrees sets _ _ _ ⟨_, _⟩) fun sets _ => Agrees.ok rfl ?_
  intro place next
  obtain rfl := Option.some.inj next
  exact Nat.le_add_right _ _

/-- The loop is over when it has run once for every four octets that are left. -/
theorem setsAt_agrees {body : Slice} {bound limit pos : Nat}
    (enough : (body.octets.length - pos) / 4 < bound) (cover : (body.octets.length - pos) / 4 ≤ limit) :
    Agrees (setsAt body bound pos sets) (ParameterSets.parse limit sets (body.octets.drop pos)) id
      fun _ => True := by
  induction bound generalizing pos limit sets with
  | zero => omega
  | succ bound ih =>
    have step := setAt_agrees body pos sets
    rw [setsAt]
    by_cases more : pos + 4 ≤ body.octets.length
    · obtain ⟨limit, rfl⟩ : ∃ left, limit = left + 1 := ⟨limit - 1, by omega⟩
      rw [ParameterSets.parse_step more]
      refine Agrees.bind step fun next further => ?_
      rcases next with _ | ⟨next, sets⟩
      · exact Agrees.ok rfl trivial
      · have further := further (next, sets) rfl
        exact ih (by dsimp only at further; omega) (by dsimp only at further; omega)
    · have short : (body.octets.drop pos).length < 4 := by
        rw [List.length_drop]
        omega
      have none : setAt body pos sets = .ok none := if_neg more
      rw [none]
      exact Agrees.ok (ParameterSets.parse_short short) trivial

def readBasic (body : Octets) : Except WifiError (MkaBasic × Nat) :=
  let flags := body.getD 2 0
  let basicLen := ParameterSets.length flags (body.getD 3 0)
  if basicLen < 28 ∨ body.length < 4 + basicLen then
    .error (handshakeError "invalid Basic Parameter Set length")
  else
    .ok ({ version := body.getD 0 0
           priority := body.getD 1 0
           keyServer := flags &&& 0x80 != 0
           macsecDesired := flags &&& 0x40 != 0
           macsecCapability := (flags >>> 4) &&& 0x03
           sci := readBlock 8 (body.drop 4)
           mi := readBlock 12 (body.drop 12)
           mn := readU32 body 24
           algoAgility := readBlock 4 (body.drop 28)
           ckn := (body.take (4 + basicLen)).drop 32 }, basicLen)

theorem parseBody_readBasic (body : Octets) : MkaPdu.parseBody body =
    if body.length < 32 then .error (handshakeError "MKPDU too short")
    else (readBasic body).bind fun (basic, basicLen) =>
      (ParameterSets.parse body.length .empty (body.drop (4 + align4 basicLen))).bind fun sets =>
        .ok ⟨basic, sets.livePeers, sets.potentialPeers, sets.sakUse, sets.distSak⟩ := by
  unfold MkaPdu.parseBody readBasic
  split
  · rfl
  · dsimp only
    split <;> rfl

theorem basicAt_agrees {body : Slice} (long : 32 ≤ body.octets.length) :
    Agrees (basicAt body) (readBasic body.octets) id fun _ => True := by
  refine Agrees.read (Slice.index_eq (by omega)) (Agrees.read (Slice.index_eq (by omega)) ?_)
  refine Agrees.read (Slice.index_eq (by omega)) (Agrees.read (Slice.index_eq (by omega)) ?_)
  rw [readBasic, readU32_eq (by omega)]
  generalize ParameterSets.length (body.octets.getD 2 0) (body.octets.getD 3 0) = basicLen
  refine Agrees.branch (by omega) (fun _ => Agrees.failed _) fun valid => ?_
  refine Agrees.read (block_read (by omega)) (Agrees.read (block_read (by omega)) ?_)
  refine Agrees.read (block_read (by omega)) (Agrees.read (block_read (by omega)) ?_)
  exact Agrees.read (Slice.sub_eq (by omega) (by omega)) (Agrees.ok rfl trivial)

theorem parseBodyAt_agrees (body : Slice) :
    Agrees (parseBodyAt body) (MkaPdu.parseBody body.octets) id fun _ => True := by
  rw [parseBody_readBasic]
  refine Agrees.branch Iff.rfl (fun _ => Agrees.failed _) fun long => ?_
  refine Agrees.bind (basicAt_agrees (by omega)) fun basic _ => ?_
  exact Agrees.bind (setsAt_agrees (by omega) (by omega)) fun sets _ => Agrees.ok rfl trivial

/-- For every frame, addresses and ICK: the parser reads inside of the frame, converts slices of the
right width, subtracts nothing greater and is over in time, with the result of `MkaPdu.parse`; and every
iteration of its loop goes on four octets or more behind the place where it started. -/
theorem parser_reads_inside [MkaCrypto] :
    (∀ (eapol : Octets) (da sa : MacAddr) (ick : Octets),
      Agrees (parseAt ⟨0, eapol⟩ da sa ick) (MkaPdu.parse eapol da sa ick) id fun _ => True) ∧
    ∀ (body : Slice) (pos : Nat) (sets : ParameterSets),
      Agrees (setAt body pos sets) (sets.step body.octets pos) id fun next =>
        ∀ place ∈ next, pos + 4 ≤ place.1 := by
  refine ⟨fun eapol da sa ick => ?_, setAt_agrees⟩
  unfold parseAt MkaPdu.parse
  by_cases short : eapol.length < 4
  · rw [if_pos short, if_pos (.inl short)]
    exact Agrees.ok rfl trivial
  rw [if_neg short]
  refine Agrees.read (Slice.index_eq (by dsimp only; omega)) ?_
  refine Agrees.branch (by simp [short]) (fun _ => Agrees.ok rfl trivial) fun _ => ?_
  refine Agrees.read (Slice.u16_eq (by dsimp only; omega)) ?_
  rw [show (eapol.take (2 + 2)).drop 2 = (eapol.drop 2).take 2 from List.drop_take]
  generalize ofBe16 ((eapol.drop 2).take 2) = bodyLen
  refine Agrees.branch Iff.rfl (fun _ => Agrees.failed _) fun complete => ?_
  refine Agrees.branch Iff.rfl (fun _ => Agrees.failed _) fun _ => ?_
  dsimp only at complete
  have least : icvLen ≤ 4 + bodyLen.toNat := by omega
  have start : 4 ≤ 4 + bodyLen.toNat - icvLen := by omega
  have stop : 4 + bodyLen.toNat - icvLen ≤ eapol.length := by omega
  refine Agrees.read (if_pos least) (Agrees.read (Slice.sub_eq (Nat.zero_le _) stop) ?_)
  refine Agrees.read (Slice.tail_eq stop) ?_
  refine Agrees.branch Iff.rfl (fun _ => ?_) fun _ => Agrees.failed _
  refine Agrees.read (Slice.sub_eq start stop) ?_
  have mapped (result : Except WifiError MkaPdu) :
      result.map some = result.bind fun pdu => .ok (some pdu) := by
    cases result <;> rfl
  rw [mapped]
  exact Agrees.bind (parseBodyAt_agrees ⟨_, _⟩) fun pdu _ => Agrees.ok rfl trivial

end Shuli.Wired
