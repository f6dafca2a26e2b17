import Shuli.Ipsec.Authentication
import Shuli.Ipsec.Handlers
import Shuli.Ipsec.Reflection
import Shuli.Ipsec.Sealed

/-!
The request window. RFC 7296 allows one request at a time in each direction, numbered from zero. The
liveness checks and the rekeys are sent by timers that do not look at the request that waits, the slot
is emptied by responses that were never matched with it, a request that cannot be sent uses up its
number, and the responder of an IKE SA begins with one. When the initiator's timers find the slot empty
and only the response to the waiting request comes in, the requests of a whole run stay in their window.
-/

namespace Shuli.Ipsec

open Fallible Shuli.Core

/-! A list of requests, each answered before the next -/

section

variable {α : Type}

/-- The requests are numbered from zero, and each but the last is answered. -/
structure Windowed (number : α → Nat) (answered : α → Prop) (requests : List α) : Prop where
  numbered : ∀ index request, requests[index]? = some request → number request = index
  answered : ∀ index request, requests[index]? = some request → index + 1 < requests.length →
    answered request

variable {number : α → Nat} {answered : α → Prop} {requests : List α}

theorem Windowed.nil : Windowed number answered [] where
  numbered := fun _ _ found => by cases found
  answered := fun _ _ found => by cases found

theorem Windowed.mono {later : α → Prop} (windowed : Windowed number answered requests)
    (imp : ∀ request, answered request → later request) : Windowed number later requests where
  numbered := windowed.numbered
  answered := fun index request found more => imp _ (windowed.answered index request found more)

theorem Windowed.of_short {other : α → Prop} (windowed : Windowed number answered requests)
    (short : requests.length ≤ 1) : Windowed number other requests where
  numbered := windowed.numbered
  answered := fun _ _ _ more => absurd more (by omega)

theorem Windowed.fresh (windowed : Windowed number answered requests) {request : α}
    (next : number request = requests.length) : request ∉ requests := by
  intro mem
  obtain ⟨index, bound, found⟩ := List.mem_iff_getElem.mp mem
  have same := windowed.numbered index request (List.getElem?_eq_some_iff.mpr ⟨bound, found⟩)
  omega

theorem Windowed.push (windowed : Windowed number answered requests) {request : α}
    (settled : ∀ earlier ∈ requests, answered earlier) (next : number request = requests.length) :
    Windowed number answered (requests ++ [request]) where
  numbered := by
    intro index other found
    rw [List.getElem?_append] at found
    split at found
    · exact windowed.numbered index other found
    · rw [List.getElem?_singleton] at found
      split at found
      · cases found
        omega
      · cases found
  answered := by
    intro index other found more
    rw [List.length_append, List.length_singleton] at more
    rw [List.getElem?_append_left (by omega)] at found
    exact settled other (List.mem_of_getElem? found)

theorem Windowed.settle (windowed : Windowed number answered requests) {last : α}
    (ends : requests.getLast? = some last) (done : answered last) :
    ∀ request ∈ requests, answered request := by
  intro request mem
  obtain ⟨index, bound, found⟩ := List.mem_iff_getElem.mp mem
  by_cases more : index + 1 < requests.length
  · exact windowed.answered index request (List.getElem?_eq_some_iff.mpr ⟨bound, found⟩) more
  · rw [List.getLast?_eq_getElem?, show requests.length - 1 = index by omega,
      List.getElem?_eq_getElem bound, found] at ends
    cases ends
    exact done

end

/-! The requests of a runner -/

/-- What the fixed header of a message tells of its exchange. -/
structure WireHeader where
  initiatorSpi : UInt64
  exchange : Option ExchangeType
  response : Bool
  messageId : UInt32
  deriving DecidableEq

def wireHeader (octets : Octets) : WireHeader where
  initiatorSpi := ofBe64 (slice octets 0 8)
  exchange := ExchangeType.fromU8 (octetAt octets 18)
  response := hasResponseFlag octets
  messageId := ofBe32 (slice octets 20 24)

def requestNumber (request : Octets) : Nat := (wireHeader request).messageId.toNat

theorem wireHeader_append (header : IkeHeader) (rest : Octets) :
    wireHeader (header.encode ++ rest) =
      ⟨header.initiatorSpi, some header.exchange, header.isResponse, header.messageId⟩ := by
  have reads := header.encode_reads rest
  rw [wireHeader, reads.initiatorSpi, reads.exchange, reads.messageId]
  rfl

theorem wireHeader_encoded {message : Message} {octets : Octets} (encoded : Message.encode message = .ok octets) :
    wireHeader octets = ⟨message.header.initiatorSpi, some message.header.exchange,
      message.header.isResponse, message.header.messageId⟩ := by
  simp only [Message.encode, Except.bind_eq_ok] at encoded
  obtain ⟨chain, -, result⟩ := encoded
  cases result
  exact wireHeader_append _ chain

def addRequest (requests : List Octets) (message : Octets) : List Octets :=
  if (wireHeader message).response ∨ message ∈ requests then requests else requests ++ [message]

def Ledger.requests (ledger : Ledger) : List Octets := ledger.sent.foldl addRequest []

theorem Ledger.requests_posts (ledger : Ledger) (message : Octets) :
    (ledger.posts message).requests = addRequest ledger.requests message := List.foldl_append

theorem addRequest_response {requests : List Octets} {message : Octets}
    (response : (wireHeader message).response = true) : addRequest requests message = requests :=
  if_pos (.inl response)

theorem addRequest_again {requests : List Octets} {message : Octets} (mem : message ∈ requests) :
    addRequest requests message = requests := if_pos (.inr mem)

theorem addRequest_new {requests : List Octets} {message : Octets}
    (request : (wireHeader message).response = false) (fresh : message ∉ requests) :
    addRequest requests message = requests ++ [message] :=
  if_neg (by simp [request, fresh])

theorem toNat_succ {count : UInt32} (left : count ≠ 0xffffffff) :
    (count + 1).toNat = count.toNat + 1 := by
  have bound : count.toNat ≠ 0xffffffff := fun same => left (UInt32.toNat_inj.mp same)
  have small := count.toNat_lt
  rw [UInt32.toNat_add, Nat.mod_eq_of_lt]
  · rfl
  · change count.toNat + 1 < 2 ^ 32
    omega

theorem IkeHeader.new_request (initiatorSpi responderSpi : UInt64) (exchange : ExchangeType) (messageId : UInt32) :
    (IkeHeader.new initiatorSpi responderSpi exchange flagInitiator messageId).isResponse = false :=
  show (flagInitiator &&& flagResponse != 0) = false by decide

theorem IkeHeader.new_response (initiatorSpi responderSpi : UInt64) (exchange : ExchangeType) (messageId : UInt32) :
    (IkeHeader.new initiatorSpi responderSpi exchange flagResponse messageId).isResponse = true :=
  show (flagResponse &&& flagResponse != 0) = true by decide

theorem IkeRuntime.headerFor_isResponse (ike : IkeRuntime) (exchange : ExchangeType) (messageId : UInt32)
    (request : Bool) : (ike.headerFor exchange messageId request).isResponse = !request := by
  change (((if ike.role = .initiator then flagInitiator else 0) |||
    (if request then 0 else flagResponse)) &&& flagResponse != 0) = !request
  cases ike.role <;> cases request <;> decide

section

variable [Crypto]

variable {env : Env} {payloads : List Payload} {message : Octets}

theorem Posted.header {ike : IkeRuntime} {header : IkeHeader} (posted : Posted env ike header payloads message) :
    wireHeader message =
      ⟨header.initiatorSpi, some header.exchange, header.isResponse, header.messageId⟩ := by
  obtain ⟨chain, iv, ciphertext, icv, parts⟩ := sealMessage_isSealed posted.made
  rw [parts.bytes]
  exact wireHeader_append _ _

def Ledger.opensMessage (ledger : Ledger) (message : Message) : Bool :=
  match ledger.ike with
  | some ike => (ike.openEncrypted message).isOk
  | none => false

/-- The message is the response to the request, protected by the IKE SA after IKE_SA_INIT. -/
def Ledger.answers (ledger : Ledger) (request : Octets) (response : Message) : Bool :=
  wireHeader request == ⟨response.header.initiatorSpi, some response.header.exchange, false,
    response.header.messageId⟩ && response.header.isResponse &&
    (response.header.exchange == .ikeSaInit || ledger.opensMessage response)

def Ledger.Answered (ledger : Ledger) (past : List Wake) (request : Octets) : Prop :=
  ∃ wake ∈ past, ∃ response, wake.Delivers response ∧ ledger.answers request response = true

def Wake.message? : Wake → Option Message
  | .datagram data _ => (Message.decode data).toOption
  | _ => none

variable {wake : Wake}

omit [Crypto] in
theorem Wake.delivers_iff {message : Message} :
    wake.Delivers message ↔ message ∈ wake.message? := by
  cases wake with
  | datagram data source =>
    cases decoded : Message.decode data with
    | ok other => simp [Wake.Delivers, message?, decoded, Except.toOption]
    | error e => simp [Wake.Delivers, message?, decoded, Except.toOption]
  | _ => simp [Wake.Delivers, message?]

instance (ledger : Ledger) (past : List Wake) (request : Octets) :
    Decidable (ledger.Answered past request) :=
  decidable_of_iff (∃ wake ∈ past, ∃ response ∈ wake.message?, ledger.answers request response = true)
    (by simp only [Ledger.Answered, Wake.delivers_iff])

/-- The requests sent so far are numbered from zero, each sent after the response to the one before. -/
def Ledger.InWindow (ledger : Ledger) (past : List Wake) : Prop :=
  Windowed requestNumber (ledger.Answered past) ledger.requests

/-! The invariant -/

variable {ledger : Ledger}

variable {request : Octets}

theorem Ledger.answers_eq_true {response : Message}
    (answers : ledger.answers request response = true) :
    (wireHeader request).response = false ∧ response.header.isResponse = true := by
  simp only [Ledger.answers, Bool.and_eq_true, beq_iff_eq] at answers
  exact ⟨by rw [answers.1.1], answers.1.2⟩

/-- Both books hold an IKE SA of one role that opens the same messages, or none. -/
def Ledger.SameSa (ledger next : Ledger) : Prop :=
  Option.Rel (fun ike other => other.role = ike.role ∧ other.openEncrypted = ike.openEncrypted)
    ledger.ike next.ike

theorem Ledger.SameSa.of_eq {ledger next : Ledger} (same : next.ike = ledger.ike) :
    ledger.SameSa next := by
  unfold SameSa
  rw [same]
  cases ledger.ike with
  | none => exact .none
  | some ike => exact .some ⟨rfl, rfl⟩

variable {ike other : IkeRuntime}

theorem Ledger.SameSa.of_some {ledger next : Ledger} (current : ledger.ike = some ike) (kept : next.ike = some other)
    (role : other.role = ike.role) (opens : other.openEncrypted = ike.openEncrypted) : ledger.SameSa next := by
  unfold SameSa
  rw [current, kept]
  exact .some ⟨role, opens⟩

theorem Ledger.SameSa.removes (ledger : Ledger) : ledger.SameSa ledger.removes := by
  change Option.Rel _ ledger.ike (ledger.ike.map fun ike => { ike with child := none })
  cases ledger.ike with
  | none => exact .none
  | some ike => exact .some ⟨rfl, rfl⟩

variable {past : List Wake}

/-- What was answered stays answered. -/
theorem Ledger.Answered.congr {ledger next : Ledger}
    (answered : ledger.Answered past request) (same : ledger.SameSa next) :
    next.Answered past request := by
  have opens (message : Message) : next.opensMessage message = ledger.opensMessage message := by
    unfold SameSa at same
    unfold opensMessage
    generalize ledger.ike = before at same
    generalize next.ike = after at same
    cases same with
    | none => rfl
    | some both => simp only [both.2]
  obtain ⟨wake, heard, response, delivers, answers⟩ := answered
  refine ⟨wake, heard, response, delivers, ?_⟩
  rw [Ledger.answers, opens]
  exact answers

theorem Ledger.Answered.of_none {ledger next : Ledger}
    (answered : ledger.Answered past request) (none : ledger.ike = none) : next.Answered past request := by
  obtain ⟨wake, heard, response, delivers, answers⟩ := answered
  refine ⟨wake, heard, response, delivers, ?_⟩
  simp only [Ledger.answers, opensMessage, none, Bool.or_false, Bool.and_eq_true, Bool.or_eq_true] at answers ⊢
  exact ⟨answers.1, .inl answers.2⟩

def Ledger.Initiates (ledger : Ledger) : Prop := ∃ ike, ledger.ike = some ike ∧ ike.role = .initiator

theorem Ledger.SameSa.initiates {ledger next : Ledger} (same : ledger.SameSa next)
    (initiates : next.Initiates) : ledger.Initiates := by
  obtain ⟨other, kept, role⟩ := initiates
  unfold SameSa at same
  rw [kept] at same
  generalize current : ledger.ike = before at same
  cases same with
  | some both => exact ⟨_, current, both.1.symm.trans role⟩

/-- The books of a runner whose requests stay in their window. -/
structure Ledger.Paced (ledger : Ledger) (past : List Wake) : Prop where
  windowed : ledger.InWindow past
  /-- a request in the slot is the last one, and the initiator's -/
  waiting : ∀ message, ledger.slot = some message → (wireHeader message).response = false →
    ledger.requests.getLast? = some message ∧ (ledger.ike.isSome → ledger.Initiates)
  settled : ledger.phase = .established → ledger.slot = none → ledger.Initiates →
    ∀ request ∈ ledger.requests, ledger.Answered past request
  counted : ledger.phase = .established ∨ (ledger.phase.inAuth ∧ ledger.slot.isSome) →
    ledger.Initiates → ledger.nextMessageId.toNat = ledger.requests.length
  opening : ledger.phase = .saInitSent → ledger.pendingSaInit.isSome →
    ledger.ike = none ∧ ledger.requests.length = 1
  early : ledger.ike = none → ledger.requests.length ≤ 1

theorem Ledger.Paced.mono {past later : List Wake} (paced : ledger.Paced past)
    (more : ∀ wake ∈ past, wake ∈ later) : ledger.Paced later := by
  have answered (request : Octets) (answered : ledger.Answered past request) :
      ledger.Answered later request := by
    obtain ⟨wake, heard, rest⟩ := answered
    exact ⟨wake, more wake heard, rest⟩
  exact { paced with
    windowed := paced.windowed.mono answered
    settled := fun phase empty initiates request mem =>
      answered request (paced.settled phase empty initiates request mem) }

/-- A move that makes no request: the slot stays as it is or is emptied. -/
theorem Ledger.Paced.keeps {ledger next : Ledger} (paced : ledger.Paced past)
    (same : ledger.SameSa next) (requests : next.requests = ledger.requests)
    (slot : next.slot = ledger.slot ∨ next.slot = none)
    (settled : next.phase = .established → next.slot = none → ledger.Initiates →
      ∀ request ∈ ledger.requests, ledger.Answered past request)
    (counted : next.phase = .established ∨ (next.phase.inAuth ∧ next.slot.isSome) →
      ledger.Initiates → next.nextMessageId.toNat = ledger.requests.length)
    (opening : next.phase = .saInitSent → next.pendingSaInit.isSome →
      ledger.phase = .saInitSent ∧ ledger.pendingSaInit.isSome) : next.Paced past := by
  have none_iff : next.ike = none ↔ ledger.ike = none := by
    unfold SameSa at same
    generalize ledger.ike = before at same
    generalize next.ike = after at same
    cases same <;> simp
  have initiates : ledger.Initiates → next.Initiates := by
    rintro ⟨ike, current, role⟩
    unfold SameSa at same
    rw [current] at same
    generalize kept : next.ike = after at same
    cases same with
    | some both => exact ⟨_, kept, both.1.trans role⟩
  refine ⟨?_, ?_, ?_, ?_, ?_, ?_⟩
  · rw [InWindow, requests]
    exact paced.windowed.mono fun _ answered => answered.congr same
  · intro message found request
    rcases slot with kept | empty
    · obtain ⟨last, side⟩ := paced.waiting message (kept.symm.trans found) request
      rw [requests]
      refine ⟨last, fun some => initiates (side ?_)⟩
      rw [Option.isSome_iff_ne_none] at some ⊢
      exact fun none => some (none_iff.mpr none)
    · cases empty.symm.trans found
  · intro phase empty side request mem
    rw [requests] at mem
    exact (settled phase empty (same.initiates side) request mem).congr same
  · intro place side
    rw [requests]
    exact counted place (same.initiates side)
  · intro phase pends
    rw [requests, none_iff]
    exact paced.opening (opening phase pends).1 (opening phase pends).2
  · intro none
    rw [requests]
    exact paced.early (none_iff.mp none)

theorem Ledger.Paced.stays {ledger next : Ledger} (paced : ledger.Paced past) (same : ledger.SameSa next)
    (requests : next.requests = ledger.requests) (slot : next.slot = ledger.slot) (phase : next.phase = ledger.phase)
    (count : next.nextMessageId = ledger.nextMessageId) (pending : next.pendingSaInit = ledger.pendingSaInit) :
    next.Paced past := by
  refine paced.keeps same requests (.inl slot) ?_ ?_ ?_
  · rw [phase, slot]
    exact paced.settled
  · rw [phase, slot, count]
    exact paced.counted
  · rw [phase, pending]
    exact And.intro

variable {exchange : ExchangeType}

variable {messageId : UInt32}

theorem Posted.windowed {requests : List Octets} {answered : Octets → Prop}
    (posted : Posted env other (ike.headerFor exchange messageId true) payloads message)
    (windowed : Windowed requestNumber answered requests) (number : messageId.toNat = requests.length)
    (settled : ∀ request ∈ requests, answered request) :
    addRequest requests message = requests ++ [message] ∧
      Windowed requestNumber answered (requests ++ [message]) := by
  have next : requestNumber message = requests.length := by
    rw [requestNumber, posted.header]
    exact number
  refine ⟨addRequest_new ?_ (windowed.fresh next), windowed.push settled next⟩
  rw [posted.header]
  exact ike.headerFor_isResponse _ _ true

/-- A new request is sent when all the others are answered. -/
theorem Ledger.Paced.asks {ledger next : Ledger} (paced : ledger.Paced past)
    (posted : Posted env other (ike.headerFor exchange messageId true) payloads message)
    (requests : next.requests = addRequest ledger.requests message) (slot : next.slot = some message)
    (number : messageId.toNat = ledger.requests.length) (initiates : next.Initiates)
    (settled : ∀ request ∈ ledger.requests, next.Answered past request)
    (count : next.nextMessageId.toNat = ledger.requests.length + 1) (phase : next.phase ≠ .saInitSent) :
    next.Paced past := by
  have before : Windowed _ (next.Answered past) ledger.requests :=
    ⟨paced.windowed.numbered, fun _ request found _ => settled request (List.mem_of_getElem? found)⟩
  obtain ⟨more, windowed⟩ := posted.windowed before number settled
  rw [more] at requests
  refine ⟨?_, ?_, ?_, ?_, ?_, ?_⟩
  · rw [InWindow, requests]
    exact windowed
  · intro other found _
    cases slot.symm.trans found
    rw [requests, List.getLast?_concat]
    exact ⟨rfl, fun _ => initiates⟩
  · intro _ empty
    cases slot.symm.trans empty
  · intro _ _
    rw [count, requests, List.length_append, List.length_singleton]
  · exact fun opens => absurd opens phase
  · intro none
    obtain ⟨ike, current, _⟩ := initiates
    cases none.symm.trans current

theorem Ledger.Paced.rests {ledger next : Ledger} (paced : ledger.Paced past) (same : ledger.SameSa next)
    (requests : next.requests = ledger.requests) (slot : next.slot = none) (phase : next.phase = .established)
    (settled : ledger.Initiates → ∀ request ∈ ledger.requests, ledger.Answered past request)
    (counted : ledger.Initiates → next.nextMessageId.toNat = ledger.requests.length) : next.Paced past :=
  paced.keeps same requests (.inr slot) (fun _ _ => settled) (fun _ => counted) fun opens => by
    cases phase.symm.trans opens

theorem Ledger.Paced.closes {ledger next : Ledger} (paced : ledger.Paced past)
    (same : ledger.SameSa next) (requests : next.requests = ledger.requests)
    (slot : next.slot = ledger.slot ∨ next.slot = none) (phase : next.phase = .closed) :
    next.Paced past := by
  refine paced.keeps same requests slot ?_ ?_ ?_
  · exact fun established => by cases phase.symm.trans established
  · rintro (established | ⟨inAuth | inAuth, _⟩)
    · cases phase.symm.trans established
    · cases phase.symm.trans inAuth
    · cases phase.symm.trans inAuth
  · exact fun opens => by cases phase.symm.trans opens

/-- A timer sends the next request of an initiator that waits for nothing. -/
theorem Ledger.Paced.timed {ledger next : Ledger} (paced : ledger.Paced past)
    (may : ledger.Initiates ∧ ledger.slot = none ∧ ledger.nextMessageId ≠ 0xffffffff)
    (phase : ledger.phase = .established)
    (posted : Posted env other (ike.headerFor exchange ledger.nextMessageId true) payloads message)
    (requests : next.requests = addRequest ledger.requests message) (slot : next.slot = some message)
    (same : next.ike = ledger.ike) (count : next.nextMessageId = ledger.nextMessageId + 1)
    (kept : next.phase = ledger.phase) : next.Paced past := by
  obtain ⟨initiates, empty, left⟩ := may
  have counted := paced.counted (.inl phase) initiates
  refine paced.asks posted requests slot counted ?_ ?_ ?_ ?_
  · unfold Initiates
    rwa [same]
  · exact fun request mem => (paced.settled phase empty initiates request mem).congr (.of_eq same)
  · rw [count, toNat_succ left, counted]
  · simp [kept, phase]

theorem Posted.requests {ike : IkeRuntime} {other : IkeRuntime}
    (posted : Posted env other (ike.headerFor exchange messageId false) payloads message) :
    (ledger.posts message).requests = ledger.requests := by
  rw [Ledger.requests_posts, addRequest_response]
  rw [posted.header]
  exact ike.headerFor_isResponse _ _ false

variable [Tls]

def Runner.isFree (self : Runner) : Bool :=
  self.ike.any (fun ike => ike.role == .initiator) && self.retransmit.isNone

def Runner.mayRequest (self : Runner) : Bool := self.isFree && self.nextMessageId != 0xffffffff

/-- The response to the waiting request, or a request that leaves the slot of the initiator alone. -/
def Runner.takesInTurn (self : Runner) (message : Message) : Bool :=
  if message.header.isResponse then
    self.phase == .init || self.phase == .closed ||
      (self.nextMessageId != 0xffffffff &&
        self.ledger.slot.any fun request => self.ledger.answers request message)
  else
    message.header.exchange == .ikeSaInit || message.header.exchange == .informational ||
      self.ike.all (fun ike => ike.role == .responder) ||
      (self.phase == .established && self.retransmit.isNone)

/-- The wake keeps the window: timers send when no request waits, and only its response is taken. -/
def Runner.inTurn (self : Runner) (input : Env × Wake) : Bool :=
  match input.2 with
  | .retransmitTimer => true
  | .dpdTimer =>
    self.phase != .established || (self.mayRequest && (self.ledger.probe input.1).isOk)
  | .rekeyTimer =>
    self.phase != .established || self.pendingRekey.isSome ||
      (self.mayRequest && (self.ledger.rekeyRequest input.1).isOk)
  | .datagram data _ =>
    match Message.decode data with
    | .error _ => true
    | .ok message => self.takesInTurn message

def InTurn (self : Runner) (input : Env × Wake) : Prop := self.inTurn input = true

instance (self : Runner) (input : Env × Wake) : Decidable (InTurn self input) :=
  inferInstanceAs (Decidable (_ = true))

/-! What the condition tells at each wake -/

variable {self : Runner}

theorem InTurn.takes {message : Message} (turn : InTurn self (env, wake)) (delivers : wake.Delivers message) :
    self.takesInTurn message = true := by
  obtain ⟨data, source, rfl, decoded⟩ := delivers
  simpa only [InTurn, Runner.inTurn, decoded] using turn

/-- The waiting request is the last one, and its response has come. -/
structure Ledger.Settles (ledger : Ledger) (past : List Wake) : Prop where
  waits : ledger.slot.isSome
  side : ledger.ike.isSome → ledger.Initiates
  settled : ∀ request ∈ ledger.requests, ledger.Answered past request

theorem InTurn.settles {message : Message} (turn : InTurn self (env, wake)) (heard : wake ∈ past)
    (paced : self.ledger.Paced past) (delivers : wake.Delivers message) (response : message.header.isResponse = true)
    (live : self.ledger.phase ≠ .init ∧ self.ledger.phase ≠ .closed) :
    self.ledger.Settles past ∧ self.ledger.nextMessageId ≠ 0xffffffff := by
  have takes := turn.takes delivers
  have started : self.phase ≠ .init := live.1
  have running : self.phase ≠ .closed := live.2
  simp only [Runner.takesInTurn, response, if_true, Bool.or_eq_true, Bool.and_eq_true, beq_iff_eq, started,
    running, false_or, bne_iff_ne, Option.any_eq_true] at takes
  obtain ⟨numbers, request, waits, answers⟩ := takes
  obtain ⟨last, side⟩ := paced.waiting request waits (Ledger.answers_eq_true answers).1
  exact ⟨⟨by rw [waits]; rfl, side, paced.windowed.settle last ⟨wake, heard, message, delivers, answers⟩⟩,
    numbers⟩

/-- A request that empties the slot comes to the responder, or finds the slot empty. -/
theorem InTurn.spares {message : Message} (turn : InTurn self (env, wake)) (delivers : wake.Delivers message)
    (request : message.header.isResponse = false)
    (exchange : message.header.exchange = .ikeAuth ∨ message.header.exchange = .createChildSa)
    (initiates : self.ledger.Initiates) :
    self.ledger.phase = .established ∧ self.ledger.slot = none := by
  have takes := turn.takes delivers
  obtain ⟨ike, current, role⟩ := initiates
  have held : self.ike = some ike := current
  have other : ¬(message.header.exchange = .ikeSaInit ∨ message.header.exchange = .informational) := by
    rcases exchange with found | found <;> simp [found]
  have empty : self.retransmit = none → self.ledger.slot = none := fun none => by
    simp [Runner.ledger, none]
  simp only [Runner.takesInTurn, request, if_false, Bool.or_eq_true, beq_iff_eq, other,
    false_or, held, Option.all_some, role, reduceCtorEq, Bool.and_eq_true, Option.isNone_iff_eq_none] at takes
  exact ⟨takes.1, empty takes.2⟩

omit [Crypto] in
theorem isFree_eq_true (free : self.isFree = true) :
    self.ledger.Initiates ∧ self.ledger.slot = none := by
  simp only [Runner.isFree, Bool.and_eq_true, Option.any_eq_true, beq_iff_eq,
    Option.isNone_iff_eq_none] at free
  exact ⟨free.1, by simp [Runner.ledger, free.2]⟩

omit [Crypto] in
theorem mayRequest_eq_true (may : self.mayRequest = true) :
    self.ledger.Initiates ∧ self.ledger.slot = none ∧ self.ledger.nextMessageId ≠ 0xffffffff := by
  rw [Runner.mayRequest, Bool.and_eq_true, bne_iff_ne] at may
  obtain ⟨initiates, empty⟩ := isFree_eq_true may.1
  exact ⟨initiates, empty, may.2⟩

theorem InTurn.probes (turn : InTurn self (env, wake))
    (timer : wake = .dpdTimer) (phase : self.ledger.phase = .established) :
    self.mayRequest = true ∧ ∃ message, self.ledger.probe env = .ok message := by
  have running : self.phase = .established := phase
  subst timer
  simp only [InTurn, Runner.inTurn, running, bne_self_eq_false, Bool.false_or, Bool.and_eq_true] at turn
  cases outcome : self.ledger.probe env with
  | ok message => exact ⟨turn.1, message, rfl⟩
  | error e => simp [outcome, Except.toBool] at turn

theorem InTurn.rekeys (turn : InTurn self (env, wake)) (timer : wake = .rekeyTimer)
    (phase : self.ledger.phase = .established) (idle : self.ledger.pendingRekey = none) :
    self.mayRequest = true ∧ ∃ request, self.ledger.rekeyRequest env = .ok request := by
  have running : self.phase = .established := phase
  have idle : self.pendingRekey = none := idle
  subst timer
  simp only [InTurn, Runner.inTurn, running, idle, bne_self_eq_false, Option.isSome_none, Bool.false_or,
    Bool.and_eq_true] at turn
  cases outcome : self.ledger.rekeyRequest env with
  | ok request => exact ⟨turn.1, request, rfl⟩
  | error e => simp [outcome, Except.toBool] at turn

theorem Move.paced {after : Ledger} (move : Move env wake self.ledger after) (heard : wake ∈ past)
    (paced : self.ledger.Paced past) (turn : InTurn self (env, wake)) : after.Paced past := by
  have same {next : Ledger} (kept : next.ike = self.ledger.ike) : self.ledger.SameSa next := .of_eq kept
  have answeredIn {message : Message} (delivers : wake.Delivers message)
      (response : message.header.isResponse = true) (phase : self.ledger.phase.inAuth) :
      self.ledger.Settles past ∧ self.ledger.nextMessageId ≠ 0xffffffff := by
    refine turn.settles heard paced delivers response ?_
    rcases phase with found | found <;> simp [found]
  have answeredEstablished {message : Message} (delivers : wake.Delivers message)
      (response : message.header.isResponse = true) (phase : self.ledger.phase = .established) :
      self.ledger.Settles past := by
    refine (turn.settles heard paced delivers response ?_).1
    simp [phase]
  have outside (phase : self.ledger.phase.inAuth) : self.ledger.phase ≠ .established := by
    rcases phase with found | found <;> simp [found]
  cases move with
  | quiet => exact paced
  | notified _ request fresh encoded =>
    refine paced.stays (same rfl) ?_ rfl rfl rfl rfl
    rw [Ledger.requests_posts, addRequest_response]
    rw [wireHeader_encoded encoded]
    exact IkeHeader.new_response _ _ _ _
  | createdResponder _ _ request exchange fresh answered =>
    have responded := answerSaInit_responded answered
    obtain ⟨payloads, encoded⟩ := responded.encoded
    have response := (congrArg WireHeader.response (wireHeader_encoded encoded)).trans
      (IkeHeader.new_response _ _ _ _)
    have unasked : (self.ledger.posts _).requests = self.ledger.requests :=
      (self.ledger.requests_posts _).trans (addRequest_response response)
    refine ⟨?_, ?_, ?_, ?_, ?_, ?_⟩
    · exact (congrArg (Windowed _ _) unasked).mpr (paced.windowed.of_short (paced.early fresh))
    · intro message found request
      cases found
      cases response.symm.trans request
    · exact fun established => by cases established
    · rintro - ⟨_, current, initiates⟩
      cases current
      cases responded.role.symm.trans initiates
    · exact fun opens => by cases opens
    · exact fun none => by cases none
  | saInitTaken _ _ _ phase _ _ kept =>
    refine paced.keeps (same rfl) rfl kept ?_ ?_ ?_
    · exact fun established => by cases phase.symm.trans established
    · rintro (established | ⟨inAuth | inAuth, _⟩)
      · cases phase.symm.trans established
      · cases phase.symm.trans inAuth
      · cases phase.symm.trans inAuth
    · exact fun _ none => by cases none
  | createdUnsent _ _ _ phase pends =>
    obtain ⟨fresh, one⟩ := paced.opening phase (by rw [pends]; rfl)
    refine ⟨paced.windowed.of_short (Nat.le_of_eq one), ?_, ?_, ?_, ?_, ?_⟩
    · exact fun _ found => by cases found
    · exact fun established => by cases phase.symm.trans established
    · rintro (established | ⟨_, waits⟩)
      · cases phase.symm.trans established
      · cases waits
    · exact fun _ none => by cases none
    · exact fun none => by cases none
  | createdInitiator delivers decoded response phase pends accepted posted inAuth =>
    obtain ⟨fresh, one⟩ := paced.opening phase (by rw [pends]; rfl)
    obtain ⟨settles, _⟩ := turn.settles heard paced ⟨_, _, delivers, decoded⟩ response (by simp [phase])
    refine paced.asks posted (Ledger.requests_posts _ _) rfl one.symm ⟨_, rfl, ?_⟩ ?_ ?_ ?_
    · exact (acceptSaInit_initiated accepted).role
    · exact fun request mem => (settles.settled request mem).of_none fresh
    · exact congrArg (· + 1) one.symm
    · rintro rfl
      rcases inAuth with found | found <;> cases found
  | authRequestFailed delivers request exchange =>
    refine paced.keeps (same rfl) rfl (.inr rfl) ?_ ?_ And.intro
    · intro established _ initiates
      exact paced.settled established (turn.spares delivers request (.inl exchange) initiates).2 initiates
    · rintro (established | ⟨_, waits⟩)
      · exact paced.counted (.inl established)
      · cases waits
  | authAnswered reads request exchange _ _ _ posted =>
    have spared := turn.spares reads.delivers request (.inl exchange)
    exact paced.rests (.of_some reads.current rfl rfl rfl) posted.requests rfl rfl
      (fun initiates => paced.settled (spared initiates).1 (spared initiates).2 initiates)
      fun initiates => paced.counted (.inl (spared initiates).1) initiates
  | authResponseFailed delivers response phase | eapUnsent delivers response phase =>
    refine paced.keeps (same rfl) rfl (.inr rfl) ?_ ?_ ?_
    · exact fun established => absurd established (outside phase)
    · rintro (established | ⟨_, waits⟩)
      · exact absurd established (outside phase)
      · cases waits
    · exact fun opens => by rcases phase with found | found <;> cases found.symm.trans opens
  | eapContinued reads response phase posted =>
    obtain ⟨settles, left⟩ := answeredIn reads.delivers response phase
    have initiates := settles.side (by rw [reads.current]; rfl)
    have counted := paced.counted (.inr ⟨phase, settles.waits⟩) initiates
    refine paced.asks posted (Ledger.requests_posts _ _) rfl counted initiates ?_ ?_ ?_
    · exact fun request mem => (settles.settled request mem).congr (same rfl)
    · exact (toNat_succ left).trans (congrArg (· + 1) counted)
    · rcases phase with found | found <;> exact fun opens => by cases found.symm.trans opens
  | authCompleted reads response phase =>
    obtain ⟨settles, _⟩ := answeredIn reads.delivers response phase
    exact paced.rests (.of_some reads.current rfl rfl rfl) rfl rfl rfl (fun _ => settles.settled)
      (paced.counted (.inr ⟨phase, settles.waits⟩))
  | informed reads request exchange posted => exact paced.stays (same rfl) posted.requests rfl rfl rfl rfl
  | deletedUnsent => exact paced.stays (.removes _) rfl rfl rfl rfl rfl
  | deleted _ _ _ _ _ posted => exact paced.stays (.removes _) posted.requests rfl rfl rfl rfl
  | answered delivers response _ phase | rekeyIgnored delivers response _ phase =>
    exact paced.rests (same rfl) rfl rfl phase
      (fun _ => (answeredEstablished delivers response phase).settled) (paced.counted (.inl phase))
  | rekeyAnswered reads request exchange _ _ posted =>
    have spared := turn.spares reads.delivers request (.inr exchange)
    exact paced.rests (.of_some reads.current rfl rfl rfl) posted.requests rfl rfl
      (fun initiates => paced.settled (spared initiates).1 (spared initiates).2 initiates)
      fun initiates => paced.counted (.inl (spared initiates).1) initiates
  | rekeyRefused reads response _ phase =>
    exact paced.rests (same rfl) rfl rfl phase
      (fun _ => (answeredEstablished reads.delivers response phase).settled) (paced.counted (.inl phase))
  | rekeyCompleted reads response _ phase =>
    exact paced.rests (.of_some reads.current rfl rfl rfl) rfl rfl rfl
      (fun _ => (answeredEstablished reads.delivers response phase).settled) (paced.counted (.inl phase))
  | retransmitted timer armed =>
    refine paced.stays (same rfl) ?_ rfl rfl rfl rfl
    rw [Ledger.requests_posts]
    cases response : (wireHeader _).response with
    | true => exact addRequest_response response
    | false => exact addRequest_again (List.mem_of_getLast? (paced.waiting _ armed response).1)
  | exhausted _ phase =>
    refine paced.keeps (same rfl) rfl (.inr rfl) (fun established => absurd established phase) ?_ And.intro
    rintro (established | ⟨_, waits⟩)
    · exact absurd established phase
    · cases waits
  | retransmitDead =>
    exact paced.closes (.removes _) rfl (.inr rfl) rfl
  | dpdDead => exact paced.closes (.removes _) rfl (.inl rfl) rfl
  | probeUnsent timer phase failed =>
    obtain ⟨_, message, made⟩ := turn.probes timer phase
    exact absurd made (failed message)
  | probed timer phase made =>
    obtain ⟨may, _⟩ := turn.probes timer phase
    obtain ⟨ike, current, posted⟩ := Ledger.probe_eq_ok.mp made
    exact paced.timed (mayRequest_eq_true may) phase posted (Ledger.requests_posts _ _) rfl rfl rfl rfl
  | rekeyIdle | rekeyPostponed => exact paced.stays (same rfl) rfl rfl rfl rfl rfl
  | rekeyUnsent timer phase idle failed =>
    obtain ⟨_, request, made⟩ := turn.rekeys timer phase idle
    exact absurd made (failed request)
  | rekeySent timer phase idle made =>
    obtain ⟨may, _⟩ := turn.rekeys timer phase idle
    obtain ⟨ike, _, _, _, _, _, _, _, _, _, posted⟩ := Ledger.rekeyRequest_eq_ok.mp made
    exact paced.timed (mayRequest_eq_true may) phase posted (Ledger.requests_posts _ _) rfl rfl rfl rfl

theorem step_paced (past : List (Env × Wake)) (self : Runner) (input : Env × Wake)
    (paced : self.ledger.Paced (past.map Prod.snd)) (turn : InTurn self input) :
    (self.step input).ledger.Paced ((past ++ [input]).map Prod.snd) := by
  rw [List.map_append]
  exact (step_move self input.1 input.2).paced (List.mem_append_right _ (List.mem_singleton_self _))
    (paced.mono fun _ mem => List.mem_append_left _ mem) turn

theorem Opens.paced {config : IpsecConfig} (opens : Opens config ledger) :
    ledger.Paced [] := by
  cases opens with
  | waiting =>
    refine ⟨Windowed.nil, ?_, ?_, ?_, ?_, ?_⟩
    · exact fun _ found => by cases found
    · exact fun established => by cases established
    · exact fun _ => by rintro ⟨_, none, _⟩; cases none
    · exact fun opens => by cases opens
    · exact fun _ => Nat.zero_le 1
  | @saInitSent _ pending encoded =>
    have header := wireHeader_encoded encoded
    have request : (wireHeader pending.realMessage1).response = false := by
      rw [header]
      exact IkeHeader.new_request _ _ _ _
    have one : addRequest [] pending.realMessage1 = [pending.realMessage1] :=
      addRequest_new request (List.not_mem_nil)
    refine ⟨?_, ?_, ?_, ?_, ?_, ?_⟩
    · refine (congrArg (Windowed _ _) one).mpr (Windowed.nil.push (fun _ mem => by cases mem) ?_)
      rw [requestNumber, header]
      rfl
    · intro message found _
      cases found
      exact ⟨congrArg List.getLast? one, fun none => by cases none⟩
    · exact fun established => by cases established
    · exact fun _ => by rintro ⟨_, none, _⟩; cases none
    · exact fun _ _ => ⟨rfl, congrArg List.length one⟩
    · exact fun _ => Nat.le_of_eq (congrArg List.length one)

theorem deleteRequest_eq_some {encrypted : Octets} (made : self.deleteRequest env = some encrypted) :
    self.ledger.phase = .established ∧ ∃ (ike : IkeRuntime) (payloads : List Payload),
      ike.sealPayloads env (ike.headerFor .informational self.ledger.nextMessageId true) payloads =
        .ok encrypted := by
  unfold Runner.deleteRequest at made
  split at made
  case isFalse => cases made
  case isTrue phase =>
    refine ⟨phase, ?_⟩
    obtain ⟨child, recorded, made⟩ := Option.bind_eq_some_iff.mp made
    obtain ⟨ike, current, _⟩ := Option.bind_eq_some_iff.mp recorded
    rw [Runner.sealPayloads_eq current, Runner.headerFor_eq current] at made
    generalize outcome : ike.sealPayloads env _ _ = result at made
    cases result with
    | error => cases made
    | ok message =>
      cases made
      exact ⟨ike, _, outcome⟩

theorem shutdownConnection_inWindow (paced : self.ledger.Paced past)
    (env : Env) (free : self.phase ≠ .established ∨ self.isFree = true) :
    (self.shutdownConnection env).ledger.InWindow past := by
  rw [Runner.shutdownConnection, Runner.ledger_setState]
  dsimp only
  split
  case h_1 encrypted _ made left =>
    obtain ⟨phase, ike, payloads, sealed⟩ := deleteRequest_eq_some made
    obtain ⟨initiates, empty⟩ := isFree_eq_true (free.resolve_left (not_not_intro phase))
    obtain ⟨more, windowed⟩ := Posted.windowed ⟨sealed, left⟩ paced.windowed
      (paced.counted (.inl phase) initiates) (paced.settled phase empty initiates)
    change (self.recordSent encrypted).ledger.InWindow past
    rw [Runner.ledger_recordSent, Ledger.InWindow, Ledger.requests_posts, more]
    exact windowed
  case h_2 => exact paced.windowed

/-- Along every run whose wakes keep the window the requests are numbered from zero, each sent after the
response to the one before; the Delete at the end is too when no request waits. -/
theorem requests_in_window (env : Env) (config : IpsecConfig) (inputs : List (Env × Wake))
    (admitted : Admitted Runner.step InTurn (Runner.start env config) inputs) (last : Env) :
    let self := runInputs Runner.step (Runner.start env config) inputs
    self.ledger.InWindow (inputs.map Prod.snd) ∧
      (self.phase ≠ .established ∨ self.isFree = true →
        (self.shutdownConnection last).ledger.InWindow (inputs.map Prod.snd)) := by
  have paced := run_history (I := fun past self => self.ledger.Paced (past.map Prod.snd)) step_paced []
    (start_opens env config).paced admitted
  exact ⟨paced.windowed, shutdownConnection_inWindow paced last⟩

end

section

attribute [local instance] checksumCrypto closedTls

def connectingInputs : List (Env × Wake) :=
  [fromHost 2 11 (lastSent responderKeyed), fromHost 2 12 (lastSent responderUp)]

theorem requests_in_window_initiator :
    let self := (runInputs Runner.step initiator connectingInputs).shutdownConnection (sampleEnv 13)
    self.ledger.InWindow (connectingInputs.map Prod.snd) ∧
      self.ledger.requests.map requestNumber = [0, 1, 2] := by
  have admitted : Admitted Runner.step InTurn initiator connectingInputs ∧
      (runInputs Runner.step initiator connectingInputs).isFree = true ∧
      ((runInputs Runner.step initiator connectingInputs).shutdownConnection
        (sampleEnv 13)).ledger.requests.map requestNumber = [0, 1, 2] := by
    decide +kernel
  exact ⟨(requests_in_window (sampleEnv 10) (sampleConfig 1 2 true [1, 2, 3]) _ admitted.1
    (sampleEnv 13)).2 (.inr admitted.2.1), admitted.2.2⟩

def impatientInputs : List (Env × Wake) :=
  connectingInputs ++ [(sampleEnv 13, .dpdTimer), (sampleEnv 14, .rekeyTimer)]

/-- The rekey does not wait for the answer to the liveness check, and the first request of a responder
has the number one. -/
theorem requests_outside_window :
    ¬(runInputs Runner.step initiator impatientInputs).ledger.InWindow
        (impatientInputs.map Prod.snd) ∧
      (responderUp.step (sampleEnv 23, .dpdTimer)).ledger.requests.map requestNumber = [1] := by
  have found : ∃ request,
      (runInputs Runner.step initiator impatientInputs).ledger.requests[2]? = some request ∧
      2 + 1 < (runInputs Runner.step initiator impatientInputs).ledger.requests.length ∧
      ¬(runInputs Runner.step initiator impatientInputs).ledger.Answered
        (impatientInputs.map Prod.snd) request := by
    refine ⟨((runInputs Runner.step initiator impatientInputs).ledger.requests[2]?).getD [], ?_⟩
    decide +kernel
  obtain ⟨request, third, more, unanswered⟩ := found
  refine ⟨fun windowed => unanswered (windowed.answered 2 request third more), ?_⟩
  decide +kernel

end

end Shuli.Ipsec
