import Mathlib.Logic.Relation
import Shuli.Wired.MkaSession

/-!
What a half of `run` can do to a participant, said once: each half is a sequence of the acts below,
whether or not it fails, and at most one MKPDU sent at its end. Invariants of the participants are
proved act by act.
-/

namespace Shuli.Wired

open Fallible MkaSession
open Relation (ReflTransGen)

def MkaSession.operated (operation : Device Unit) (self : MkaSession) : MkaSession :=
  { self with macsec := self.macsec.map (after operation) }

def Peer.standing (peer : Peer) : Peer := { peer with rxReady := false, rxInstalled := false }

def MkaSession.standings (self : MkaSession) : List Peer := self.peers.map Peer.standing

def MkaSession.remarked (f : Peer → Bool) (self : MkaSession) : MkaSession :=
  { self with peers := self.peers.map fun peer => { peer with rxInstalled := f peer } }

def installOwnSak (env : MkaEnv) (scis : List Sci) (an : UInt8) (ki : KeyId) (sak : Octets) :
    Device Unit := do
  MacsecDevice.installTxSa env.kernel an ki sak false
  installRxSas env scis an ki sak

def installClientSak (env : MkaEnv) (scis : List Sci) (an : UInt8) (ki : KeyId) (sak : Octets) :
    Device Unit := do
  installRxSas env scis an ki sak
  MacsecDevice.installTxSa env.kernel an ki sak false

def MkaSession.generated (env : MkaEnv) (now : Instant) (sak wrapped : Octets) (self : MkaSession) :
    MkaSession :=
  let kn := self.nextKn
  let next := adoptOwnSak now kn sak wrapped { self with nextKn := nextCounter kn }
  next.operated (installOwnSak env (livePeerScis next.peers) next.lan ⟨next.mi, kn⟩ sak)

def MkaSession.memberScis (self : MkaSession) (sender : Peer) : List Sci :=
  let live := livePeerScis self.peers
  if live.contains sender.sci then live else live ++ [sender.sci]

def MkaSession.adopted (env : MkaEnv) (sender : Peer) (dist : DistSak) (sak : Octets)
    (self : MkaSession) : MkaSession :=
  let next := adoptDistributedSak ⟨sender.mi, dist.kn⟩ dist.an sak self
  next.operated (installClientSak env (next.memberScis sender) dist.an ⟨sender.mi, dist.kn⟩ sak)

def MkaSession.transmitting (env : MkaEnv) (self : MkaSession) : MkaSession :=
  { self with ltx := true }.operated (MacsecDevice.setTxSaActive env.kernel self.lan)

theorem exec_withMacsec (operation : Device Unit) (s : MkaSession) :
    (exec (withMacsec operation) s).2 = s.operated operation := by
  unfold withMacsec
  rw [exec_get_bind]
  rcases found : s.macsec with _ | device
  · rw [exec_pure, MkaSession.operated, found, Option.map_none, ← found]
  · rw [MkaSession.operated, found]
    rfl

section

variable {α : Type} {env : MkaEnv} {s : MkaSession} {R : MkaSession → Prop}

theorem ends_withMacsec_bind {operation : Device Unit} {f : Unit → Session α} (operated : R (s.operated operation))
    (rest : Ends (f ()) (s.operated operation) fun _ => R) :
    Ends (withMacsec operation >>= f) s fun _ => R := by
  apply Ends.bind (R := fun _ t => t = s.operated operation)
  · exact exec_withMacsec operation s
  · rintro e t rfl
    exact operated
  · rintro ⟨⟩ t rfl
    exact rest

theorem withMacsec_keeps {I : MkaSession → Prop} {operation : Device Unit}
    (keep : ∀ s, I s → I (s.operated operation)) : Keeps I (withMacsec operation) := by
  intro s before
  rw [exec_withMacsec]
  exact keep s before

theorem request_exec {kernel : Kernel} (obliging : kernel.Obliging) (call : KernelCall)
    (context : String) (device : MacsecDevice) : exec (MacsecDevice.request kernel call context) device =
      (.ok (), { device with calls := device.calls ++ [call] }) := by
  rw [MacsecDevice.request, exec_get_bind, obliging]
  rfl

theorem setTxSaActive_exec {kernel : Kernel} (obliging : kernel.Obliging) (an : UInt8)
    (device : MacsecDevice) : (exec (MacsecDevice.setTxSaActive kernel an) device).1 = .ok () := by
  rw [MacsecDevice.setTxSaActive, exec_modify_bind, MacsecDevice.apply, exec_bind, exec_get_bind,
    request_exec obliging]
  exact congrArg Prod.fst (request_exec obliging _ _ _)

/-- The transmission has started, also where the kernel refused; otherwise an MKPDU is due. -/
theorem startTransmission_ends : Ends (startTransmission env) s
    (orElse (fun _ t => t = { s.transmitting env with needSend := true })
      fun _ t => t = s.transmitting env ∧ ¬env.kernel.Obliging) := by
  apply Ends.modify_bind
  apply Ends.bind (R := fun result t => t = s.transmitting env ∧
    ∀ e, result = .error e → ¬env.kernel.Obliging)
  · apply Ends.get_bind
    refine ⟨exec_withMacsec _ _, fun e failed obliging => ?_⟩
    rw [withMacsec, exec_get_bind] at failed
    rcases found : s.macsec with _ | device
    · rw [found] at failed
      cases failed
    · rw [found] at failed
      rw [exec_modify_bind, setTxSaActive_exec obliging] at failed
      cases failed
  · exact fun e t ended => ⟨ended.1, ended.2 e rfl⟩
  · rintro ⟨⟩ t ⟨rfl, -⟩
    exact rfl

/-- What the key server does once it has taken a report. -/
theorem afterReport_ends
    (served : s.allReady → s.ltx = false → R { (s.transmitting env).stopDistributing with needSend := true })
    (refused : ¬env.kernel.Obliging → R (s.transmitting env)) (stopped : R s.stopDistributing) :
    Ends (do
      let self ← get
      when (self.allReady ∧ ¬self.ltx) (startTransmission env)
      modify stopDistributing : Session PUnit) s fun _ => R := by
  apply Ends.get_bind
  by_cases start : s.allReady ∧ ¬s.ltx
  · rw [when, if_pos start]
    apply Ends.bind startTransmission_ends
    · rintro e t ⟨rfl, failed⟩
      exact refused failed
    · rintro ⟨⟩ t rfl
      exact served start.1 (Bool.eq_false_iff.mpr start.2)
  · rw [when, if_neg start]
    exact stopped

theorem dropUnsecureSak_keeps {I : MkaSession → Prop}
    (clear : ∀ s, s.hasLivePeer = false → I s → I (s.operated (MacsecDevice.clearSas env.kernel)))
    (forget : ∀ s, s.hasLivePeer = false → I s → I s.forgetSak) : Keeps I (dropUnsecureSak env) := by
  apply Keeps.of_ends
  intro s before
  apply Ends.get_bind
  apply Ends.ite
  · exact fun _ => before
  · intro dropping
    have alone : s.hasLivePeer = false := by
      rw [not_or] at dropping
      exact Bool.not_eq_true _ ▸ dropping.2
    have cleared := clear s alone before
    apply ends_withMacsec_bind cleared
    exact forget _ alone cleared

theorem markInstalled_eq (scis : List Sci) (s : MkaSession) : s.markInstalled scis =
    s.remarked fun peer => peer.live && scis.contains peer.sci || peer.rxInstalled := by
  rw [markInstalled, remarked]
  congr 2
  funext peer
  by_cases chosen : peer.live && scis.contains peer.sci
  · rw [if_pos chosen, chosen, Bool.true_or]
  · rw [if_neg chosen, Bool.eq_false_iff.mpr chosen, Bool.false_or]

theorem markPending_eq (scis : List Sci) (s : MkaSession) : s.markPending scis =
    s.remarked fun peer => scis.contains peer.sci || peer.rxInstalled := by
  rw [markPending, remarked]
  congr 2
  funext peer
  by_cases chosen : scis.contains peer.sci
  · rw [if_pos chosen, chosen, Bool.true_or]
  · rw [if_neg chosen, Bool.eq_false_iff.mpr chosen, Bool.false_or]

/-- What follows an installation keeps the invariant. -/
structure Settles (env : MkaEnv) (I : MkaSession → Prop) : Prop where
  remark : ∀ s f, I s → I (s.remarked f)
  ask : ∀ s, I s → I { s with needSend := true }
  install : ∀ s ki sak scis, s.lki = some ki → s.sak = some sak → I s →
    I (s.operated (installRxSas env scis s.lan ki sak))

section Settles

variable {I : MkaSession → Prop} (settles : Settles env I)

include settles

theorem Settles.afterInstall (scis : List Sci) : Keeps I (do
    modify fun self => if self.macsec.isSome then self.markInstalled scis else self
    modify fun self => { self with needSend := true } : Session PUnit) := by
  apply Keeps.bind
  · apply Keeps.modify
    intro s before
    by_cases present : s.macsec.isSome
    · rw [if_pos present, markInstalled_eq]
      exact settles.remark s _ before
    · rw [if_neg present]
      exact before
  · exact fun _ => Keeps.modify settles.ask

theorem Settles.installRxSasForLivePeers : Keeps I (installRxSasForLivePeers env) := by
  apply Keeps.of_ends
  intro s before
  apply Ends.get_bind
  split
  · rename_i ki sak current held
    apply Ends.ite
    · exact fun _ => before
    · intro _
      have installed := settles.install s ki sak (pendingRxScis s.peers) current held before
      apply ends_withMacsec_bind installed
      have marked := settles.remark _ (fun peer =>
        (pendingRxScis s.peers).contains peer.sci || peer.rxInstalled) installed
      rw [← markPending_eq] at marked
      exact marked
  · exact before

end Settles

def MkaSession.wantsSak (self : MkaSession) (pdu : MkaPdu) (sender : Peer) : Bool :=
  pdu.distSak.any fun dist => sender.live && sender.keyServer && self.isElectedKeyServer sender.sci &&
    !self.isKeyServer && dist.wrappedSak != [] && self.lki != some ⟨sender.mi, dist.kn⟩

/-- What follows the reports of a message keeps `I`, but for the adoption of a distributed SAK. -/
structure Adopts (now : Instant) (I : MkaSession → Prop) : Prop where
  device : ∀ s device, I s → I { s with macsec := device }
  count : ∀ s kn, I s → I { s with nextKn := kn }
  own : ∀ s kn sak wrapped, I s → I (s.adoptOwnSak now kn sak wrapped)
  remark : ∀ s f, I s → I (s.remarked f)
  ask : ∀ s, I s → I { s with needSend := true }

namespace Adopts

variable {now : Instant} {I : MkaSession → Prop} {s : MkaSession} (adopts : Adopts now I)

include adopts

theorem settles (env : MkaEnv) : Settles env I where
  remark := adopts.remark
  ask := adopts.ask
  install s _ _ _ _ _ before := adopts.device s _ before

theorem operate (operation : Device Unit) : Keeps I (withMacsec operation) :=
  withMacsec_keeps fun s before => adopts.device s _ before

variable [MkaCrypto]

theorem ensureSak : Keeps I (ensureSak env now) := by
  refine Keeps.get_bind fun _ _ => Keeps.when fun _ => ?_
  refine Keeps.liftM_bind fun sak _ => Keeps.get_bind fun t _ => ?_
  refine Keeps.bind (Keeps.modify fun s before => adopts.count s _ before) fun _ => ?_
  refine Keeps.liftM_bind fun wrapped _ => ?_
  refine Keeps.bind (Keeps.modify fun s before => adopts.own s _ _ _ before) fun _ => ?_
  refine Keeps.get_bind fun _ _ => Keeps.bind (adopts.operate _) fun _ => ?_
  exact (adopts.settles env).afterInstall _

theorem handleDistSak {pdu : MkaPdu} {sender : Peer} (before : I s)
    (adopt : s.wantsSak pdu sender → ∀ ki an sak, I (s.adoptDistributedSak ki an sak)) :
    Ends (handleDistSak env pdu sender) s fun _ => I := by
  apply Ends.get_bind
  split
  · exact before
  · rename_i dist present
    refine Ends.ite (fun offered => ?_) fun _ => before
    refine Ends.ite (fun _ => before) fun _ => Ends.ite (fun _ => before) fun other => ?_
    split
    · exact before
    · refine Ends.ite (fun _ => before) fun _ => ?_
      obtain ⟨live, server, elected, client, wrapped⟩ := offered
      have wanted : s.wantsSak pdu sender := by
        simp [wantsSak, present, live, server, elected, client, wrapped, other]
      apply Ends.bind (R := fun _ => I)
      · apply Ends.modify_bind
        apply Ends.get_bind
        have adopted := adopt wanted ⟨sender.mi, dist.kn⟩ dist.an
        refine Keeps.ends (Keeps.bind (adopts.operate _) fun _ => ?_) (adopted _)
        exact (adopts.settles env).afterInstall _
      · exact fun _ _ kept => kept
      · exact fun _ _ kept => kept

theorem handleSaks {pdu : MkaPdu} {sender : Peer}
    (use : Ends (handleSakUse env pdu sender) s fun _ t => I t ∧
      (t.wantsSak pdu sender → ∀ ki an sak, I (t.adoptDistributedSak ki an sak))) :
    Ends (handleSaks env now pdu sender) s fun _ => I := by
  apply Ends.bind use
  · exact fun _ _ kept => kept.1
  · intro _ t ⟨before, adopt⟩
    apply Ends.bind (adopts.handleDistSak before adopt)
    · exact fun _ _ kept => kept
    · intro goesOn u before
      refine Ends.ite (fun _ => ?_) fun _ => before
      refine Keeps.ends (Keeps.get_bind fun _ _ => ?_) before
      exact Keeps.bind (Keeps.when fun _ => adopts.ensureSak) fun _ =>
        (adopts.settles env).installRxSasForLivePeers

end Adopts

section

variable {now : Instant} {origin s : MkaSession}

/-- At most one SAK is generated in a half: either none has been, or no other one is due. -/
def AtMostOneSak (now : Instant) (origin s : MkaSession) : Prop :=
  s.nextKn = origin.nextKn ∨ (s.lki.any fun ki => ki.mi == s.mi) ∧ s.lastSakTime = some now ∨
    s.hasLivePeer = false

theorem AtMostOneSak.first (once : AtMostOneSak now origin s) (due : s.sakIsDue now) :
    s.nextKn = origin.nextKn := by
  rcases once with unused | ⟨ours, time⟩ | alone
  · exact unused
  · have early : ¬secs mkaLifeSecs ≤ now - now := by
      rw [Nat.sub_self]
      decide
    rw [sakIsDue, ours, time] at due
    simp only [Option.all_some, decide_eq_false early, Bool.and_false, Bool.not_true, Bool.or_false,
      Bool.false_eq_true] at due
  · simp [sakIsDue, alone] at due

theorem AtMostOneSak.expirePeers (once : AtMostOneSak now origin s) :
    AtMostOneSak now origin (s.expirePeers now) := by
  unfold MkaSession.expirePeers
  simp only
  split
  · exact once
  · rcases once with unused | ours | alone
    · exact .inl unused
    · exact .inr (.inl ours)
    · refine .inr (.inr ?_)
      simp only [hasLivePeer, List.any_eq_false] at alone ⊢
      exact fun peer mem => alone peer (List.mem_of_mem_filter mem)

theorem remarked_hasLivePeer (f : Peer → Bool) : (s.remarked f).hasLivePeer = s.hasLivePeer := by
  simp [remarked, hasLivePeer, Function.comp_def]

theorem meetPeer_nextKn {pdu : MkaPdu} : (s.meetPeer now pdu).nextKn = s.nextKn := by
  simp only [meetPeer, electKeyServer, learnPeers, markLive, notePeer]

theorem noteReport_standings {use : SakUse} {mi : Mi} :
    (s.noteReport use mi).standings = s.standings := by
  have same (peers : List Peer) : (updateFirst (·.mi == mi)
      (fun peer => { peer with rxReady := use.latestRx }) peers).map Peer.standing =
        peers.map Peer.standing := by
    induction peers with
    | nil => rfl
    | cons peer peers ih =>
      rw [updateFirst]
      split
      · rfl
      · rw [List.map_cons, List.map_cons, ih]
  exact same s.peers

end

end

section

variable [MkaCrypto]

/-- The MKPDU of a frame is taken in by `origin`: it is of another MI, passes the checks and meets no
collision. -/
structure TakenIn (origin : MkaSession) (frame : Option EapolFrame) (pdu : MkaPdu) : Prop where
  received : ∃ f, frame = some f ∧ origin.receivedPdu f = some pdu
  foreign : pdu.basic.mi ≠ origin.mi
  heeded : origin.heeds pdu
  distinct : ¬origin.collides pdu

/-- What a half makes of its frame first: an MI collision resets the participant, an MKPDU that is taken
in changes the peer list. -/
def MkaSession.opening (env : MkaEnv) (now : Instant) (frame : Option EapolFrame) (origin : MkaSession) :
    MkaSession :=
  match frame.bind origin.receivedPdu with
  | none => origin
  | some pdu =>
    if pdu.basic.mi = origin.mi ∨ origin.heeds pdu ∧ origin.collides pdu then
      { origin.resetMi env.randomMi with needSend := true }
    else if origin.heeds pdu then origin.meetPeer now pdu
    else origin

/-- The cases of the opening. -/
theorem opening_cases {env : MkaEnv} {now : Instant} {origin : MkaSession} {frame : Option EapolFrame}
    {P : MkaSession → Prop} (still : P origin)
    (reset : ∀ f pdu, frame = some f → origin.receivedPdu f = some pdu →
      pdu.basic.mi = origin.mi ∨ origin.heeds pdu ∧ origin.collides pdu →
      P { origin.resetMi env.randomMi with needSend := true })
    (meet : ∀ pdu, TakenIn origin frame pdu → P (origin.meetPeer now pdu)) :
    P (origin.opening env now frame) := by
  unfold opening
  split
  · exact still
  · rename_i pdu found
    obtain ⟨f, handed, received⟩ := Option.bind_eq_some_iff.mp found
    by_cases collision : pdu.basic.mi = origin.mi ∨ origin.heeds pdu ∧ origin.collides pdu
    · rw [if_pos collision]
      exact reset f pdu handed received collision
    · rw [if_neg collision]
      by_cases heeded : origin.heeds pdu
      · rw [if_pos heeded]
        exact meet pdu ⟨⟨f, handed, received⟩, fun same => collision (.inl same), heeded,
          fun collides => collision (.inr ⟨heeded, collides⟩)⟩
      · rw [if_neg heeded]
        exact still

theorem opening_of_taken {env : MkaEnv} {now : Instant} {origin : MkaSession}
    {frame : Option EapolFrame} {pdu : MkaPdu} (taken : TakenIn origin frame pdu) :
    origin.opening env now frame = origin.meetPeer now pdu := by
  obtain ⟨⟨f, rfl, received⟩, foreign, heeded, distinct⟩ := taken
  have passed : ¬(pdu.basic.mi = origin.mi ∨ origin.heeds pdu ∧ origin.collides pdu) := by
    rintro (same | ⟨-, collides⟩)
    · exact foreign same
    · exact distinct collides
  rw [opening, Option.bind_some, received]
  dsimp only
  rw [if_neg passed, if_pos heeded]

/-- The acts that follow in a half that starts in `origin` and is handed `frame`. -/
inductive Act (env : MkaEnv) (now : Instant) (origin : MkaSession) (frame : Option EapolFrame) :
    MkaSession → MkaSession → Prop
  | create {s : MkaSession} {device : MacsecDevice} (missing : s.macsec = none)
      (created : MacsecDevice.create env.kernel
        ⟨s.ifaceName, s.macsecIface, s.actorSci, s.replayWindow, s.encrypt⟩ = .ok device) :
      Act env now origin frame s { s with macsec := some device }
  | expire {s : MkaSession} : Act env now origin frame s (s.expirePeers now)
  | removeRxScs {s : MkaSession} (scis : List Sci) : Act env now origin frame s
      (s.operated (scis.forM fun sci => MacsecDevice.removeRxSc env.kernel sci))
  | clear {s : MkaSession} (alone : s.hasLivePeer = false) :
      Act env now origin frame s (s.operated (MacsecDevice.clearSas env.kernel))
  | forget {s : MkaSession} (alone : s.hasLivePeer = false) :
      Act env now origin frame s s.forgetSak
  | report {pdu : MkaPdu} {use : SakUse} (taken : TakenIn origin frame pdu)
      (present : pdu.sakUse = some use) (current : (origin.meetPeer now pdu).lki = some use.latestKi)
      (server : (origin.meetPeer now pdu).isKeyServer) : Act env now origin frame
        (origin.meetPeer now pdu) ((origin.meetPeer now pdu).noteReport use pdu.basic.mi)
  | serve {pdu : MkaPdu} {use : SakUse} (taken : TakenIn origin frame pdu)
      (present : pdu.sakUse = some use) (current : (origin.meetPeer now pdu).lki = some use.latestKi)
      (server : (origin.meetPeer now pdu).isKeyServer)
      (ready : ((origin.meetPeer now pdu).noteReport use pdu.basic.mi).allReady)
      (idle : ((origin.meetPeer now pdu).noteReport use pdu.basic.mi).ltx = false) :
      Act env now origin frame ((origin.meetPeer now pdu).noteReport use pdu.basic.mi)
        (((origin.meetPeer now pdu).noteReport use pdu.basic.mi).transmitting env).stopDistributing
  | serveFailed {pdu : MkaPdu} {use : SakUse} (refused : ¬env.kernel.Obliging)
      (taken : TakenIn origin frame pdu)
      (present : pdu.sakUse = some use) (current : (origin.meetPeer now pdu).lki = some use.latestKi)
      (server : (origin.meetPeer now pdu).isKeyServer) :
      Act env now origin frame ((origin.meetPeer now pdu).noteReport use pdu.basic.mi)
        (((origin.meetPeer now pdu).noteReport use pdu.basic.mi).transmitting env)
  | stop {s : MkaSession} (server : s.isKeyServer) :
      Act env now origin frame s s.stopDistributing
  | follow {pdu : MkaPdu} {use : SakUse} {sender : Peer} (taken : TakenIn origin frame pdu)
      (present : pdu.sakUse = some use) (current : (origin.meetPeer now pdu).lki = some use.latestKi)
      (known : (origin.meetPeer now pdu).findPeer pdu.basic.mi = some sender)
      (client : (origin.meetPeer now pdu).isKeyServer = false) (server : sender.keyServer)
      (elected : (origin.meetPeer now pdu).isElectedKeyServer sender.sci) (signal : use.latestTx)
      (idle : (origin.meetPeer now pdu).ltx = false) :
      Act env now origin frame (origin.meetPeer now pdu)
        ((origin.meetPeer now pdu).transmitting env)
  | adopt {s : MkaSession} {pdu : MkaPdu} {dist : DistSak} {sender : Peer} {sak : Octets}
      (taken : TakenIn origin frame pdu) (present : pdu.distSak = some dist)
      (met : s.standings = (origin.meetPeer now pdu).standings)
      (known : (origin.meetPeer now pdu).findPeer pdu.basic.mi = some sender) (live : sender.live)
      (server : sender.keyServer) (elected : s.isElectedKeyServer sender.sci)
      (client : s.isKeyServer = false) (other : s.lki ≠ some ⟨sender.mi, dist.kn⟩)
      (unwrapped : unwrapKey s.kek dist.wrappedSak = .ok sak) :
      Act env now origin frame s (s.adopted env sender dist sak)
  | count {s : MkaSession} (due : s.sakIsDue now) (first : s.nextKn = origin.nextKn) :
      Act env now origin frame s { s with nextKn := nextCounter s.nextKn }
  | generate {s : MkaSession} {sak : Block 16} {wrapped : Octets} (due : s.sakIsDue now)
      (first : s.nextKn = origin.nextKn) (drawn : env.randomSak = .ok sak)
      (wrap : wrapKey s.kek sak.val = .ok wrapped) :
      Act env now origin frame s (s.generated env now sak.val wrapped)
  | installPending {s : MkaSession} {ki : KeyId} {sak : Octets} (scis : List Sci)
      (current : s.lki = some ki) (held : s.sak = some sak) :
      Act env now origin frame s (s.operated (installRxSas env scis s.lan ki sak))
  | remark {s : MkaSession} (f : Peer → Bool) : Act env now origin frame s (s.remarked f)
  | ask {s : MkaSession} : Act env now origin frame s { s with needSend := true }

/-- `s` comes from `origin` by the opening and acts of the half. -/
abbrev Reaches (env : MkaEnv) (now : Instant) (origin : MkaSession) (frame : Option EapolFrame) :
    MkaSession → Prop :=
  ReflTransGen (Act env now origin frame) (origin.opening env now frame)

/-- `t` is `s`, or `s` after it sent an MKPDU. -/
def Sends (env : MkaEnv) (now : Instant) (s t : MkaSession) : Prop :=
  t = s ∨ ∃ payload, s.mkpdu.buildEapol paeGroupAddr s.mac s.ick = .ok payload ∧
    env.sendFrame = .ok () ∧ t = s.noteSent now payload

/-- `t` is what the half that starts in `origin` leaves: the opening, acts, and perhaps an MKPDU. -/
def Half (env : MkaEnv) (now : Instant) (origin : MkaSession) (frame : Option EapolFrame)
    (t : MkaSession) : Prop :=
  ∃ s, Reaches env now origin frame s ∧ Sends env now s t

section

variable {env : MkaEnv} {now : Instant} {origin s : MkaSession} {frame : Option EapolFrame}
  {I : MkaSession → Prop}

theorem Reaches.invariant (reached : Reaches env now origin frame s)
    (keep : ∀ s t, Act env now origin frame s t → I s → I t) (start : I (origin.opening env now frame)) : I s := by
  induction reached with
  | refl => exact start
  | tail _ last ih => exact keep _ _ last ih

theorem Half.invariant (half : Half env now origin frame s) (keep : ∀ s t, Act env now origin frame s t → I s → I t)
    (send : ∀ s payload, I s → I (s.noteSent now payload)) (start : I (origin.opening env now frame)) : I s := by
  obtain ⟨t, reached, rfl | ⟨payload, -, -, rfl⟩⟩ := half
  · exact reached.invariant keep start
  · exact send t payload (reached.invariant keep start)

end

section

variable {env : MkaEnv} {now : Instant} {origin s : MkaSession} {frame : Option EapolFrame}

theorem reaches_meetPeer {pdu : MkaPdu} (taken : TakenIn origin frame pdu) :
    Reaches env now origin frame (origin.meetPeer now pdu) := by
  rw [← opening_of_taken taken]

theorem ensureMacsec_reaches : Keeps (Reaches env now origin frame) (ensureMacsec env) := by
  apply Keeps.of_ends
  intro s reached
  apply Ends.get_bind
  apply Ends.ite
  · exact fun _ => reached
  · intro missing
    apply Ends.liftM_bind
    · exact fun _ _ => reached
    · intro device created
      have absent : s.macsec = none := by simpa using missing
      exact reached.tail (.create absent created)

theorem dropUnsecureSak_reaches : Keeps (Reaches env now origin frame) (dropUnsecureSak env) :=
  dropUnsecureSak_keeps (fun _ alone reached => reached.tail (.clear alone))
    fun _ alone reached => reached.tail (.forget alone)

theorem sendMkpdu_sends : Ends (sendMkpdu env now) s fun _ => Sends env now s := by
  apply Ends.get_bind
  apply Ends.liftM_bind
  · exact fun _ _ => .inl rfl
  · intro payload built
    apply Ends.liftM_bind
    · exact fun _ _ => .inl rfl
    · rintro ⟨⟩ accepted
      exact .inr ⟨payload, built, accepted, rfl⟩

/-- The same of a state that the half reaches. -/
def Paced (env : MkaEnv) (now : Instant) (origin : MkaSession) (frame : Option EapolFrame)
    (s : MkaSession) : Prop :=
  Reaches env now origin frame s ∧ AtMostOneSak now origin s

theorem paced_settles : Settles env (Paced env now origin frame) where
  remark s f paced := by
    refine ⟨paced.1.tail (.remark f), ?_⟩
    rw [AtMostOneSak, remarked_hasLivePeer]
    exact paced.2
  ask _ paced := ⟨paced.1.tail .ask, paced.2⟩
  install _ _ _ scis current held paced := ⟨paced.1.tail (.installPending scis current held), paced.2⟩

theorem dropUnsecureSak_paced : Keeps (Paced env now origin frame) (dropUnsecureSak env) := by
  apply dropUnsecureSak_keeps
  · exact fun s alone paced => ⟨paced.1.tail (.clear alone), paced.2⟩
  · intro s alone paced
    refine ⟨paced.1.tail (.forget alone), .inr (.inr ?_)⟩
    rw [← alone]
    simp [forgetSak, hasLivePeer, Function.comp_def]

theorem generateSak_paced (due : s.sakIsDue now) (first : s.nextKn = origin.nextKn)
    (reached : Reaches env now origin frame s) : Ends (generateSak env now) s
      (orElse (fun _ => Paced env now origin frame) fun _ => Reaches env now origin frame) := by
  apply Ends.liftM_bind
  · exact fun _ _ => reached
  · intro sak drawn
    have random := Except.mapError_eq_ok.mp drawn
    apply Ends.get_bind
    apply Ends.modify_bind
    apply Ends.liftM_bind
    · exact fun _ _ => reached.tail (.count due first)
    · intro wrapped wrap
      apply Ends.modify_bind
      apply Ends.get_bind
      have made := reached.tail (Act.generate due first random wrap)
      have once : AtMostOneSak now origin (s.generated env now sak.val wrapped) :=
        .inr (.inl ⟨by simp [generated, adoptOwnSak, operated], rfl⟩)
      apply Ends.mono (R := fun _ => Paced env now origin frame)
      · apply ends_withMacsec_bind ⟨made, once⟩
        exact (paced_settles.afterInstall _).ends ⟨made, once⟩
      · rintro (e | ⟨⟩) t paced
        · exact paced.1
        · exact paced

theorem ensureSak_paced (paced : Paced env now origin frame s) : Ends (ensureSak env now) s
    (orElse (fun _ => Paced env now origin frame) fun _ => Reaches env now origin frame) := by
  apply Ends.ite
  · exact fun due => generateSak_paced due (paced.2.first due) paced.1
  · exact fun _ => paced

section

variable {pdu : MkaPdu} {sender : Peer}

/-- What the SAK Use set of a message leaves: the peer list is the one of the message, and no SAK has
been generated. -/
structure Met (env : MkaEnv) (now : Instant) (origin : MkaSession) (frame : Option EapolFrame)
    (pdu : MkaPdu) (s : MkaSession) : Prop where
  reached : Reaches env now origin frame s
  standings : s.standings = (origin.meetPeer now pdu).standings
  nextKn : s.nextKn = origin.nextKn

variable (taken : TakenIn origin frame pdu)
  (known : (origin.meetPeer now pdu).findPeer pdu.basic.mi = some sender)

theorem Met.alike {t : MkaSession} (met : Met env now origin frame pdu s) (reached : Reaches env now origin frame t)
    (standings : t.standings = s.standings) (nextKn : t.nextKn = s.nextKn) : Met env now origin frame pdu t :=
  ⟨reached, standings.trans met.standings, nextKn.trans met.nextKn⟩

/-- What the key server does with a report. -/
theorem report_met {use : SakUse} (taken : TakenIn origin frame pdu) (present : pdu.sakUse = some use)
    (current : (origin.meetPeer now pdu).lki = some use.latestKi) (server : (origin.meetPeer now pdu).isKeyServer) :
    Ends (do
      modify (noteReport use pdu.basic.mi)
      let self ← get
      when (self.allReady ∧ ¬self.ltx) (startTransmission env)
      modify stopDistributing : Session PUnit) (origin.meetPeer now pdu)
      fun _ => Met env now origin frame pdu := by
  have kept (s : MkaSession) : (s.noteReport use pdu.basic.mi).nextKn = s.nextKn := rfl
  have reported : Met env now origin frame pdu ((origin.meetPeer now pdu).noteReport use pdu.basic.mi) :=
    ⟨(reaches_meetPeer taken).tail (.report taken present current server), noteReport_standings,
      (kept _).trans meetPeer_nextKn⟩
  have serve (ready) (idle) : Act env now origin frame _ _ :=
    .serve taken present current server ready idle
  have failed (refused : ¬env.kernel.Obliging) := Act.serveFailed refused taken present current server
  have stop : Act env now origin frame ((origin.meetPeer now pdu).noteReport use pdu.basic.mi) _ :=
    .stop server
  apply Ends.modify_bind
  generalize (origin.meetPeer now pdu).noteReport use pdu.basic.mi = s at reported serve failed stop
  apply afterReport_ends
  · exact fun ready idle => reported.alike ((reported.reached.tail (serve ready idle)).tail .ask) rfl rfl
  · exact fun refused => reported.alike (reported.reached.tail (failed refused)) rfl rfl
  · exact reported.alike (reported.reached.tail stop) rfl rfl

include taken known

theorem handleSakUse_met : Ends (handleSakUse env pdu sender) (origin.meetPeer now pdu)
    fun _ => Met env now origin frame pdu := by
  have named := findPeer_mi known
  have met : Met env now origin frame pdu (origin.meetPeer now pdu) :=
    ⟨reaches_meetPeer taken, rfl, meetPeer_nextKn⟩
  apply Ends.get_bind
  split
  · exact met
  · rename_i use present
    apply Ends.ite
    · exact fun _ => met
    · intro matching
      have current : (origin.meetPeer now pdu).lki = some use.latestKi := by
        simpa [sakUseMatches] using matching
      apply Ends.ite
      · rintro ⟨server, -⟩
        rw [named]
        exact report_met taken present current server
      · intro _
        apply Ends.ite
        · rintro ⟨client, server, elected, signal, idle⟩
          have started := met.reached.tail (Act.follow taken present current known
            (Bool.eq_false_iff.mpr client) server elected signal (Bool.eq_false_iff.mpr idle))
          apply startTransmission_ends.mono
          generalize origin.meetPeer now pdu = s at met started
          rintro (e | ⟨⟩) t ended
          · rw [ended.1]
            exact met.alike started rfl rfl
          · rw [show t = _ from ended]
            exact met.alike (started.tail .ask) rfl rfl
        · exact fun _ => met

theorem handleDistSak_paced {s : MkaSession} (met : Met env now origin frame pdu s) :
    Ends (handleDistSak env pdu sender) s fun _ => Paced env now origin frame := by
  have paced : Paced env now origin frame s := ⟨met.reached, .inl met.nextKn⟩
  apply Ends.get_bind
  split
  · exact paced
  · rename_i dist present
    apply Ends.ite
    · rintro ⟨live, server, elected, client, -⟩
      apply Ends.ite
      · exact fun _ => paced
      · intro _
        apply Ends.ite
        · exact fun _ => paced
        · intro other
          split
          · exact paced
          · rename_i sak unwrapped
            apply Ends.ite
            · exact fun _ => paced
            · intro _
              have made : Paced env now origin frame (s.adopted env sender dist sak) :=
                ⟨met.reached.tail (.adopt taken present met.standings known live server elected
                  (Bool.eq_false_iff.mpr client) other unwrapped), .inl met.nextKn⟩
              apply Ends.bind (R := fun _ => Paced env now origin frame)
              · apply Ends.modify_bind
                apply ends_withMacsec_bind made
                exact (paced_settles.afterInstall _).ends made
              · exact fun _ _ paced => paced
              · exact fun _ _ paced => paced
    · exact fun _ => paced

theorem handleSaks_paced : Ends (handleSaks env now pdu sender) (origin.meetPeer now pdu)
    (orElse (fun _ => Paced env now origin frame) fun _ => Reaches env now origin frame) := by
  apply Ends.bind (handleSakUse_met taken known)
  · exact fun _ _ met => met.reached
  · intro _ s met
    apply Ends.bind (handleDistSak_paced taken known met)
    · exact fun _ _ paced => paced.1
    · intro goesOn s paced
      apply Ends.ite
      · intro _
        apply Ends.get_bind
        apply Ends.bind (R := orElse (fun _ => Paced env now origin frame) fun _ =>
          Reaches env now origin frame)
        · apply Ends.ite
          · exact fun _ => ensureSak_paced paced
          · exact fun _ => paced
        · exact fun _ _ reached => reached
        · intro _ s paced
          apply (paced_settles.installRxSasForLivePeers.ends paced).mono
          rintro (e | ⟨⟩) t paced
          · exact paced.1
          · exact paced
      · exact fun _ => paced

end

theorem handleFrame_paced {f : EapolFrame} : Ends (handleFrame env now f) origin
    (orElse (fun _ => Paced env now origin (some f)) fun _ => Reaches env now origin (some f)) := by
  have opened {s : MkaSession} (opening : origin.opening env now (some f) = s)
      (nextKn : s.nextKn = origin.nextKn) : Paced env now origin (some f) s :=
    ⟨by rw [← opening], .inl nextKn⟩
  have start (opening : origin.opening env now (some f) = origin) := opened opening rfl
  apply Ends.get_bind
  split
  · rename_i unread
    apply start
    rw [opening, Option.bind_some, unread]
  · rename_i pdu received
    have opens : origin.opening env now (some f) =
        if pdu.basic.mi = origin.mi ∨ origin.heeds pdu ∧ origin.collides pdu then
          { origin.resetMi env.randomMi with needSend := true }
        else if origin.heeds pdu then origin.meetPeer now pdu
        else origin := by
      rw [opening, Option.bind_some, received]
    apply Ends.ite
    · intro same
      rw [if_pos (.inl same)] at opens
      exact opened opens rfl
    · intro foreign
      apply Ends.ite
      · intro heeded
        apply Ends.ite
        · intro collision
          rw [if_pos (.inr ⟨heeded, collision⟩)] at opens
          exact opened opens rfl
        · intro distinct
          have taken : TakenIn origin (some f) pdu := ⟨⟨f, rfl, received⟩, foreign, heeded, distinct⟩
          apply Ends.modify_bind
          apply Ends.get_bind
          split
          · exact ⟨reaches_meetPeer taken, .inl meetPeer_nextKn⟩
          · rename_i sender known
            exact handleSaks_paced taken known
      · intro unheeded
        rw [if_neg (fun collision => collision.elim foreign fun both => unheeded both.1),
          if_neg unheeded] at opens
        exact start opens

theorem Half.of_reaches (reached : Reaches env now origin frame s) : Half env now origin frame s :=
  ⟨s, reached, .inl rfl⟩

theorem send_half {due : MkaSession → Prop} [DecidablePred due] (reached : Reaches env now origin frame s) :
    Ends (do
      let self ← get
      when (due self) (sendMkpdu env now) : Session Unit) s fun _ => Half env now origin frame := by
  apply Ends.get_bind
  apply Ends.ite
  · intro _
    apply sendMkpdu_sends.mono
    exact fun _ t sends => ⟨s, reached, sends⟩
  · exact fun _ => .of_reaches reached

/-- The first half of `run` is a sequence of acts. -/
theorem beginRun_half : Half env now origin none (after (beginRun env now) origin) := by
  apply Ends.bind (R := fun _ => Reaches env now origin none) (Q := fun _ => Half env now origin none)
  · exact ensureMacsec_reaches.ends .refl
  · exact fun _ _ reached => .of_reaches reached
  · intro _ s reached
    apply Ends.get_bind
    apply Ends.modify_bind
    have expired := reached.tail (Act.expire (s := s))
    have removed := expired.tail (Act.removeRxScs (s.expiredScis now))
    apply Ends.bind (R := fun _ t => Reaches env now origin none t)
    · have operated := exec_withMacsec
        ((s.expiredScis now).forM fun sci => MacsecDevice.removeRxSc env.kernel sci) (s.expirePeers now)
      rw [← operated] at removed
      exact removed
    · exact fun _ _ reached => .of_reaches reached
    · intro _ t reached
      apply Ends.bind (dropUnsecureSak_reaches.ends reached)
      · exact fun _ _ reached => .of_reaches reached
      · exact fun _ _ reached => send_half reached

/-- The second half of `run` is a sequence of acts. -/
theorem finishRun_half : Half env now origin frame (after (finishRun env now frame) origin) := by
  apply Ends.bind (Q := fun _ => Half env now origin frame)
    (R := orElse (fun _ => Paced env now origin frame) fun _ => Reaches env now origin frame)
  · cases frame with
    | none => exact ⟨.refl, .inl rfl⟩
    | some f => exact handleFrame_paced
  · exact fun _ _ reached => .of_reaches reached
  · rintro ⟨⟩ s paced
    apply Ends.modify_bind
    have expired : Paced env now origin frame (s.expirePeers now) :=
      ⟨paced.1.tail .expire, paced.2.expirePeers⟩
    apply Ends.bind (dropUnsecureSak_paced.ends expired)
    · exact fun _ _ paced => .of_reaches paced.1
    · intro _ t paced
      apply Ends.get_bind
      apply Ends.bind (R := orElse (fun _ => Paced env now origin frame) fun _ =>
        Reaches env now origin frame)
      · apply Ends.ite
        · exact fun _ => ensureSak_paced paced
        · exact fun _ => paced
      · exact fun _ _ reached => .of_reaches reached
      · intro _ u paced
        apply Ends.get_bind
        apply Ends.bind (R := fun _ => Half env now origin frame)
        · apply Ends.ite
          · intro _
            apply sendMkpdu_sends.mono
            exact fun _ t sends => ⟨u, paced.1, sends⟩
          · exact fun _ => .of_reaches paced.1
        · exact fun _ _ half => half
        · exact fun _ _ half => half

end

end

end Shuli.Wired
