import Mathlib.Logic.Function.Basic
import Shuli.Runs
import Shuli.Wired.MkaSession

/-!
A group of MKA participants on one segment. Every frame that a participant has sent may reach each
participant at any later time, any number of times or never, and nothing else reaches them. Each half
of `run` meets its own random numbers, socket and kernel.
-/

namespace Shuli.Wired

open Fallible

variable {ι : Type}

/-- The clock, the participants, which of them wait for a frame, and what was sent, in order. -/
structure MkaGroup (ι : Type) where
  now : Instant
  session : ι → MkaSession
  waiting : ι → Bool
  log : List (ι × Transmission)

/-- One step of the schedule. `run` may be started again while it waits. A participant that waits is
handed a frame by its place in the log, or times out. -/
inductive GroupInput (ι : Type)
  | advance (elapsed : Nat)
  | begin (i : ι) (env : MkaEnv)
  | finish (i : ι) (env : MkaEnv) (place : Option Nat)

namespace MkaGroup

def delivered (group : MkaGroup ι) (place : Option Nat) : Option (ι × Transmission) :=
  place.bind (group.log[·]?)

def frameAt (group : MkaGroup ι) (place : Option Nat) : Option EapolFrame :=
  (group.delivered place).map fun sent => sent.2.frame.received

variable [MkaCrypto]

/-- The participants are new ones of one CA with SCIs of their own. -/
structure Started (cak ckn : Octets) (group : MkaGroup ι) : Prop where
  fresh : ∀ i, ∃ ifaceName config socket randomMi, config.cak = cak ∧ config.ckn = ckn ∧
    MkaSession.new ifaceName config socket randomMi group.now = .ok (group.session i)
  idle : ∀ i, group.waiting i = false
  silent : group.log = []
  distinct : ∀ i j, (group.session i).actorSci = (group.session j).actorSci → i = j

def heard (group : MkaGroup ι) (i : ι) (place : Option Nat) : Option MkaPdu :=
  (group.frameAt place).bind (group.session i).receivedPdu

variable [DecidableEq ι]

def act {α : Type} (group : MkaGroup ι) (i : ι) (operation : Session α)
    (waits : Except Core.WifiError α → Bool) : MkaGroup ι :=
  let before := group.session i
  let outcome := exec operation before
  { group with
    session := Function.update group.session i outcome.2
    waiting := Function.update group.waiting i (waits outcome.1)
    log := group.log ++ (outcome.2.outbox.drop before.outbox.length).map fun sent => (i, sent) }

section

variable {α : Type} {group : MkaGroup ι} {i j : ι} {operation : Session α}
  {waits : Except Core.WifiError α → Bool}

omit [MkaCrypto] in
theorem act_session_self :
    (group.act i operation waits).session i = after operation (group.session i) :=
  Function.update_self ..

omit [MkaCrypto] in
theorem act_session_other (other : j ≠ i) :
    (group.act i operation waits).session j = group.session j :=
  Function.update_of_ne other ..

omit [MkaCrypto] in
theorem act_waiting_self :
    (group.act i operation waits).waiting i = waits (exec operation (group.session i)).1 :=
  Function.update_self ..

omit [MkaCrypto] in
theorem act_waiting_other (other : j ≠ i) :
    (group.act i operation waits).waiting j = group.waiting j :=
  Function.update_of_ne other ..

end

def step (group : MkaGroup ι) : GroupInput ι → MkaGroup ι
  | .advance elapsed => { group with now := group.now + elapsed }
  | .begin i env => group.act i (beginRun env group.now) fun
    | .ok _ => true
    | .error _ => false
  | .finish i env place =>
    if group.waiting i then
      group.act i (finishRun env group.now (group.frameAt place)) fun _ => false
    else group

end MkaGroup

end Shuli.Wired
