import Shuli.Fallible
import Shuli.Ipsec.Selectors

/-!
What narrowing does to the packets that traffic selectors admit. The narrowed selectors admit what both
lists admit, so narrowing a second time by the list that was asked for changes nothing of it.
-/

namespace Shuli.Ipsec

/-- One end of a packet lies in the ranges of a traffic selector; protocol 0 is any protocol. -/
def TrafficSelector.Admits (selector : TrafficSelector) (address : IpAddr) (port : UInt16)
    (protocol : UInt8) : Prop :=
  (Ipsec.family address = selector.family ∧ selector.start ≤ address ∧ address ≤ selector.stop) ∧
    (selector.startPort ≤ port ∧ port ≤ selector.endPort) ∧
    (selector.protocol = 0 ∨ selector.protocol = protocol)

instance (selector : TrafficSelector) (address : IpAddr) (port : UInt16) (protocol : UInt8) :
    Decidable (selector.Admits address port protocol) :=
  inferInstanceAs (Decidable ((_ ∧ _ ∧ _) ∧ (_ ∧ _) ∧ (_ ∨ _)))

def AdmittedBy (selectors : List TrafficSelector) (address : IpAddr) (port : UInt16) (protocol : UInt8) : Prop :=
  ∃ selector ∈ selectors, selector.Admits address port protocol

namespace TrafficSelector

variable {left right both : TrafficSelector}

theorem protocolMeet_eq_some {first second meet : UInt8} (met : protocolMeet first second = some meet)
    (protocol : UInt8) :
    (meet = 0 ∨ meet = protocol) ↔ (first = 0 ∨ first = protocol) ∧ (second = 0 ∨ second = protocol) := by
  unfold protocolMeet at met
  split_ifs at met with none other same
  all_goals
    cases met
    subst_vars
    simp

theorem protocolMeet_eq_none {first second : UInt8} (apart : protocolMeet first second = none)
    (protocol : UInt8) : ¬((first = 0 ∨ first = protocol) ∧ (second = 0 ∨ second = protocol)) := by
  unfold protocolMeet at apart
  split_ifs at apart with none other same
  rintro ⟨rfl | rfl, rfl | rfl⟩ <;> contradiction

theorem protocolMeet_eq_self {first second meet : UInt8} (met : protocolMeet first second = some meet) :
    protocolMeet meet first = some meet ∧ protocolMeet meet second = some meet := by
  unfold protocolMeet at met
  split_ifs at met with none other same
  all_goals
    cases met
    subst_vars
    simp +contextual [protocolMeet]

variable {first second : UInt16}

theorem max_port_of_le (below : second ≤ first) : max first second = first := by
  change (if first ≤ second then second else first) = first
  split
  · exact UInt16.le_antisymm below ‹_›
  · rfl

theorem min_port_of_le (below : first ≤ second) : min first second = first :=
  if_pos below

theorem max_port_le {first second port : UInt16} : max first second ≤ port ↔ first ≤ port ∧ second ≤ port := by
  change (if first ≤ second then second else first) ≤ port ↔ _
  split <;> simp only [UInt16.le_iff_toNat_le] at * <;> omega

theorem le_min_port {first second port : UInt16} : port ≤ min first second ↔ port ≤ first ∧ port ≤ second := by
  change port ≤ (if first ≤ second then first else second) ↔ _
  split <;> simp only [UInt16.le_iff_toNat_le] at * <;> omega

theorem not_gt_port : ¬first > second ↔ first ≤ second := by
  simp only [UInt16.lt_iff_toNat_lt, UInt16.le_iff_toNat_le, not_lt]

theorem guard_eq_some {α : Type} {c : Prop} [Decidable c] {f : PUnit → Option α} {x : Option α} {a : α} :
    (if c then (failure : Option PUnit).bind f else x) = some a ↔ ¬c ∧ x = some a := by
  by_cases h : c <;> simp [h]

theorem intersection_eq_some :
    left.intersection right = some both ↔ left.family = right.family ∧
      protocolMeet left.protocol right.protocol = some both.protocol ∧
      both.start = max left.start right.start ∧ both.stop = min left.stop right.stop ∧
      both.startPort = max left.startPort right.startPort ∧ both.endPort = min left.endPort right.endPort ∧
      both.start ≤ both.stop ∧ both.startPort ≤ both.endPort := by
  obtain ⟨start, stop, protocol, startPort, endPort⟩ := both
  simp only [intersection, guard_eq_some, Option.bind_eq_bind, Option.bind_eq_some_iff, Option.pure_def,
    Option.some.injEq, mk.injEq, not_not, not_gt_port, not_lt]
  constructor
  · rintro ⟨families, meet, met, range, ports, rfl, rfl, rfl, rfl, rfl⟩
    exact ⟨families, met, rfl, rfl, rfl, rfl, range, ports⟩
  · rintro ⟨families, met, rfl, rfl, rfl, rfl, range, ports⟩
    exact ⟨families, protocol, met, range, ports, rfl, rfl, rfl, rfl, rfl⟩

theorem family_eq_of_start {selector : TrafficSelector} (first : selector.start = max left.start right.start)
    (same : left.family = right.family) : selector.family = left.family := by
  unfold family at same ⊢
  rw [first]
  rcases max_choice left.start right.start with chosen | chosen <;> rw [chosen]
  exact same.symm

theorem admits_of_intersection (overlap : left.intersection right = some both) (address : IpAddr) (port : UInt16)
    (protocol : UInt8) :
    both.Admits address port protocol ↔ left.Admits address port protocol ∧ right.Admits address port protocol := by
  obtain ⟨families, met, start, stop, startPort, endPort, _, _⟩ := intersection_eq_some.mp overlap
  unfold Admits
  rw [family_eq_of_start start families, start, stop, startPort, endPort, max_le_iff, le_min_iff, max_port_le,
    le_min_port, protocolMeet_eq_some met, families]
  tauto

theorem not_admits_of_apart (apart : left.intersection right = none) (address : IpAddr) (port : UInt16)
    (protocol : UInt8) : ¬(left.Admits address port protocol ∧ right.Admits address port protocol) := by
  rintro ⟨⟨⟨family, first, last⟩, ⟨firstPort, lastPort⟩, any⟩,
    ⟨family', first', last'⟩, ⟨firstPort', lastPort'⟩, any'⟩
  cases met : protocolMeet left.protocol right.protocol with
  | none => exact protocolMeet_eq_none met protocol ⟨any, any'⟩
  | some meet =>
    have overlap : left.intersection right = some ⟨max left.start right.start, min left.stop right.stop, meet,
        max left.startPort right.startPort, min left.endPort right.endPort⟩ :=
      intersection_eq_some.mpr ⟨family.symm.trans family', met, rfl, rfl, rfl, rfl,
        (max_le first first').trans (le_min last last'),
        UInt16.le_trans (max_port_le.mpr ⟨firstPort, firstPort'⟩) (le_min_port.mpr ⟨lastPort, lastPort'⟩)⟩
    rw [apart] at overlap
    cases overlap

/-- What was cut down to a selector overlaps with it whole. -/
theorem intersection_again (overlap : left.intersection right = some both) :
    both.intersection left = some both ∧ both.intersection right = some both := by
  obtain ⟨families, met, start, stop, startPort, endPort, range, ports⟩ := intersection_eq_some.mp overlap
  have family := family_eq_of_start start families
  have meets := protocolMeet_eq_self met
  have portLe := max_port_le.mp (UInt16.le_of_eq startPort.symm)
  have lePort := le_min_port.mp (UInt16.le_of_eq endPort)
  constructor
  · refine intersection_eq_some.mpr ⟨family, meets.1, ?_, ?_, (max_port_of_le portLe.1).symm,
      (min_port_of_le lePort.1).symm, range, ports⟩
    · exact (max_eq_left (start ▸ le_max_left ..)).symm
    · exact (min_eq_left (stop ▸ min_le_left ..)).symm
  · refine intersection_eq_some.mpr ⟨family.trans families, meets.2, ?_, ?_, (max_port_of_le portLe.2).symm,
      (min_port_of_le lePort.2).symm, range, ports⟩
    · exact (max_eq_left (start ▸ le_max_right ..)).symm
    · exact (min_eq_left (stop ▸ min_le_right ..)).symm

theorem admits_iff_contains {selector : TrafficSelector} {address : IpAddr} {port : UInt16} {protocol : UInt8} :
    selector.Admits address port protocol ↔ selector.contains address = true ∧
      (selector.startPort ≤ port ∧ port ≤ selector.endPort) ∧
      (selector.protocol = 0 ∨ selector.protocol = protocol) := by
  simp only [Admits, contains, family, Bool.and_eq_true, beq_iff_eq, decide_eq_true_eq, and_assoc]

theorem isSubsetOf_of_intersection (overlap : left.intersection right = some both) :
    both.isSubsetOf right = true := by
  obtain ⟨families, met, start, stop, startPort, endPort, _, _⟩ := intersection_eq_some.mp overlap
  have family := (family_eq_of_start start families).trans families
  have protocols : right.protocol = 0 ∨ both.protocol = right.protocol := by
    rcases ((protocolMeet_eq_some met both.protocol).mp (.inr rfl)).2 with any | same
    · exact .inl any
    · exact .inr same.symm
  have ports := (max_port_le.mp (UInt16.le_of_eq startPort.symm)).2
  have ports' := (le_min_port.mp (UInt16.le_of_eq endPort)).2
  have first : both.start ≥ right.start := start ▸ le_max_right ..
  have last : both.stop ≤ right.stop := stop ▸ min_le_right ..
  simp [isSubsetOf, family, protocols, first, last, ports, ports']

theorem admits_start (overlap : left.intersection right = some both) :
    both.Admits both.start both.startPort both.protocol := by
  obtain ⟨_, _, _, _, _, _, range, ports⟩ := intersection_eq_some.mp overlap
  exact ⟨⟨rfl, le_refl _, range⟩, ⟨UInt16.le_refl _, ports⟩, .inr rfl⟩

end TrafficSelector

/-! Lists -/

theorem mem_pushIntersection {selector allowed other : TrafficSelector} {selected : List TrafficSelector} :
    other ∈ pushIntersection selector selected allowed ↔
      other ∈ selected ∨ selector.intersection allowed = some other := by
  unfold pushIntersection
  cases overlap : selector.intersection allowed with
  | none => simp
  | some both =>
    by_cases listed : both ∈ selected
    · simp only [listed, Option.some.injEq]
      exact ⟨.inl, fun either => either.elim id (· ▸ listed)⟩
    · simp [listed, eq_comm]

theorem mem_foldl_pushIntersection {selector other : TrafficSelector} {configured selected : List TrafficSelector} :
    other ∈ configured.foldl (pushIntersection selector) selected ↔
      other ∈ selected ∨ ∃ allowed ∈ configured, selector.intersection allowed = some other := by
  induction configured generalizing selected with
  | nil => simp
  | cons allowed configured ih => simp [ih, mem_pushIntersection, or_assoc]

variable {requested configured selected : List TrafficSelector}

theorem mem_foldl_narrow {other : TrafficSelector} :
    other ∈ requested.foldl (fun selected selector => configured.foldl (pushIntersection selector) selected)
        selected ↔
      other ∈ selected ∨ ∃ selector ∈ requested, ∃ allowed ∈ configured,
        selector.intersection allowed = some other := by
  induction requested generalizing selected with
  | nil => simp
  | cons selector requested ih => simp [ih, mem_foldl_pushIntersection, or_assoc]

theorem nodup_pushIntersection {selector allowed : TrafficSelector} {selected : List TrafficSelector}
    (distinct : selected.Nodup) : (pushIntersection selector selected allowed).Nodup := by
  unfold pushIntersection
  split
  · split_ifs with listed
    · exact distinct
    · refine List.nodup_append.mpr ⟨distinct, by simp, ?_⟩
      rintro one found other new rfl
      exact listed (List.mem_singleton.mp new ▸ found)
  · exact distinct

theorem nodup_foldl_narrow (distinct : selected.Nodup) :
    (requested.foldl (fun selected selector => configured.foldl (pushIntersection selector) selected)
      selected).Nodup :=
  List.foldlRecOn requested _ distinct fun _ kept _ _ =>
    List.foldlRecOn configured _ kept fun _ kept _ _ => nodup_pushIntersection kept

theorem narrow_eq_ok :
    narrow requested configured = .ok selected ↔
      requested.foldl (fun selected selector => configured.foldl (pushIntersection selector) selected) [] =
        selected ∧ selected ≠ [] := by
  unfold narrow
  generalize requested.foldl _ [] = found
  cases found with
  | nil => simp
  | cons first rest =>
    simp only [List.isEmpty_cons, Bool.false_eq_true, if_false, Except.ok.injEq, iff_self_and]
    rintro rfl
    exact List.cons_ne_nil first rest

theorem mem_narrow (narrowed : narrow requested configured = .ok selected) (other : TrafficSelector) :
    other ∈ selected ↔ ∃ selector ∈ requested, ∃ allowed ∈ configured,
      selector.intersection allowed = some other := by
  obtain ⟨rfl, _⟩ := narrow_eq_ok.mp narrowed
  simp [mem_foldl_narrow]

theorem narrow_eq_ok_of_overlap {requested configured : List TrafficSelector} {selector allowed both : TrafficSelector}
    (asked : selector ∈ requested) (known : allowed ∈ configured)
    (overlap : selector.intersection allowed = some both) : ∃ selected, narrow requested configured = .ok selected := by
  have member := (@mem_foldl_narrow requested configured [] both).mpr
    (.inr ⟨selector, asked, allowed, known, overlap⟩)
  exact ⟨_, narrow_eq_ok.mpr ⟨rfl, List.ne_nil_of_mem member⟩⟩

/-- The narrowed selectors admit what both lists admit. -/
theorem admittedBy_narrow
    (narrowed : narrow requested configured = .ok selected) (address : IpAddr) (port : UInt16) (protocol : UInt8) :
    AdmittedBy selected address port protocol ↔
      AdmittedBy requested address port protocol ∧ AdmittedBy configured address port protocol := by
  constructor
  · rintro ⟨both, listed, admits⟩
    obtain ⟨selector, asked, allowed, known, overlap⟩ := (mem_narrow narrowed both).mp listed
    obtain ⟨left, right⟩ := (TrafficSelector.admits_of_intersection overlap ..).mp admits
    exact ⟨⟨selector, asked, left⟩, allowed, known, right⟩
  · rintro ⟨⟨selector, asked, left⟩, allowed, known, right⟩
    cases overlap : selector.intersection allowed with
    | none => exact absurd ⟨left, right⟩ (TrafficSelector.not_admits_of_apart overlap address port protocol)
    | some both =>
      exact ⟨both, (mem_narrow narrowed both).mpr ⟨selector, asked, allowed, known, overlap⟩,
        (TrafficSelector.admits_of_intersection overlap ..).mpr ⟨left, right⟩⟩

theorem intersection_of_narrow_error {requested configured : List TrafficSelector} {error : IpsecError}
    (failed : narrow requested configured = .error error) {selector allowed : TrafficSelector}
    (asked : selector ∈ requested) (known : allowed ∈ configured) : selector.intersection allowed = none := by
  cases overlap : selector.intersection allowed with
  | none => rfl
  | some both =>
    obtain ⟨selected, narrowed⟩ := narrow_eq_ok_of_overlap asked known overlap
    rw [failed] at narrowed
    cases narrowed

/-- Narrowing is the intersection of what the two lists admit: it lists each overlap once, each inside a
configured selector, and fails when the two admit nothing in common. -/
theorem narrow_is_intersection (requested configured : List TrafficSelector) :
    match narrow requested configured with
    | .ok selected =>
      (∀ address port protocol, AdmittedBy selected address port protocol ↔
        AdmittedBy requested address port protocol ∧ AdmittedBy configured address port protocol) ∧
      (∃ address port protocol, AdmittedBy selected address port protocol) ∧ selected.Nodup ∧
      ∀ selector ∈ selected, ∃ allowed ∈ configured, selector.isSubsetOf allowed = true
    | .error _ => ∀ address port protocol,
        ¬(AdmittedBy requested address port protocol ∧ AdmittedBy configured address port protocol) := by
  cases narrowed : narrow requested configured with
  | ok selected =>
    obtain ⟨found, some⟩ := narrow_eq_ok.mp narrowed
    refine ⟨admittedBy_narrow narrowed, ?_, found ▸ nodup_foldl_narrow List.nodup_nil, fun selector listed => ?_⟩
    · obtain ⟨both, listed⟩ := List.exists_mem_of_ne_nil _ some
      obtain ⟨_, _, _, _, overlap⟩ := (mem_narrow narrowed both).mp listed
      exact ⟨both.start, both.startPort, both.protocol, both, listed, TrafficSelector.admits_start overlap⟩
    · obtain ⟨_, _, allowed, known, overlap⟩ := (mem_narrow narrowed selector).mp listed
      exact ⟨allowed, known, TrafficSelector.isSubsetOf_of_intersection overlap⟩
  | error error =>
    rintro address port protocol ⟨⟨selector, asked, left⟩, allowed, known, right⟩
    exact TrafficSelector.not_admits_of_apart (intersection_of_narrow_error narrowed asked known) address port
      protocol ⟨left, right⟩

theorem narrow_again (narrowed : narrow requested configured = .ok selected) :
    ∃ again, narrow selected requested = .ok again ∧ ∀ address port protocol,
      AdmittedBy again address port protocol ↔ AdmittedBy selected address port protocol := by
  obtain ⟨both, listed⟩ := List.exists_mem_of_ne_nil _ (narrow_eq_ok.mp narrowed).2
  obtain ⟨selector, asked, allowed, known, overlap⟩ := (mem_narrow narrowed both).mp listed
  obtain ⟨again, narrowedAgain⟩ :=
    narrow_eq_ok_of_overlap listed asked (TrafficSelector.intersection_again overlap).1
  refine ⟨again, narrowedAgain, fun address port protocol => ?_⟩
  rw [admittedBy_narrow narrowedAgain, admittedBy_narrow narrowed]
  tauto

variable {payloads : List Payload}

theorem tsFromPayloads_eq_ok {initiator responder : List TrafficSelector} :
    tsFromPayloads payloads = .ok (initiator, responder) ↔
      tsOfSide true payloads = initiator ∧ tsOfSide false payloads = responder ∧ initiator ≠ [] ∧ responder ≠ [] := by
  unfold tsFromPayloads
  generalize tsOfSide true payloads = one
  generalize tsOfSide false payloads = other
  simp only [List.isEmpty_iff]
  split <;> rename_i empty
  · simp only [reduceCtorEq, false_iff]
    rintro ⟨rfl, rfl, some, some'⟩
    exact empty.elim some some'
  · rw [not_or] at empty
    simp only [Except.ok.injEq, Prod.mk.injEq]
    constructor
    · rintro ⟨rfl, rfl⟩
      exact ⟨rfl, rfl, empty⟩
    · rintro ⟨rfl, rfl, _⟩
      exact ⟨rfl, rfl⟩

variable {localSide remoteSide : List TrafficSelector}

theorem narrowRequestSelectors_eq_ok {configured : TrafficSelectorPair} :
    narrowRequestSelectors configured payloads = .ok (localSide, remoteSide) ↔ ∃ peerLocal peerRemote,
      tsFromPayloads payloads = .ok (peerLocal, peerRemote) ∧
      narrow peerRemote configured.localSide = .ok localSide ∧
      narrow peerLocal configured.remoteSide = .ok remoteSide := by
  simp only [narrowRequestSelectors, Except.bind_eq_ok, Prod.exists]
  constructor
  · rintro ⟨peerLocal, peerRemote, read, _, first, _, second, same⟩
    cases same
    exact ⟨peerLocal, peerRemote, read, first, second⟩
  · rintro ⟨peerLocal, peerRemote, read, first, second⟩
    exact ⟨peerLocal, peerRemote, read, _, first, _, second, rfl⟩

theorem narrowResponseSelectors_eq_ok {configured : TrafficSelectorPair} :
    narrowResponseSelectors configured payloads = .ok (localSide, remoteSide) ↔ ∃ selectedLocal selectedRemote,
      tsFromPayloads payloads = .ok (selectedLocal, selectedRemote) ∧
      narrow selectedLocal configured.localSide = .ok localSide ∧
      narrow selectedRemote configured.remoteSide = .ok remoteSide := by
  simp only [narrowResponseSelectors, Except.bind_eq_ok, Prod.exists]
  constructor
  · rintro ⟨selectedLocal, selectedRemote, read, _, first, _, second, same⟩
    cases same
    exact ⟨selectedLocal, selectedRemote, read, first, second⟩
  · rintro ⟨selectedLocal, selectedRemote, read, first, second⟩
    exact ⟨selectedLocal, selectedRemote, read, _, first, _, second, rfl⟩

/-- What one side asks for with its own selectors and the other grants is narrowed again to what admits the
same packets on both sides. -/
theorem narrowResponse_of_request {own other : TrafficSelectorPair} {request response : List Payload}
    (asked : tsOfSide true request = own.localSide) (asked' : tsOfSide false request = own.remoteSide)
    (granted : tsOfSide true response = remoteSide) (granted' : tsOfSide false response = localSide)
    (narrowed : narrowRequestSelectors other request = .ok (localSide, remoteSide)) :
    ∃ nearSide farSide, narrowResponseSelectors own response = .ok (nearSide, farSide) ∧
      (∀ address port protocol,
        AdmittedBy nearSide address port protocol ↔ AdmittedBy remoteSide address port protocol) ∧
      ∀ address port protocol,
        AdmittedBy farSide address port protocol ↔ AdmittedBy localSide address port protocol := by
  obtain ⟨peerLocal, peerRemote, read, first, second⟩ := narrowRequestSelectors_eq_ok.mp narrowed
  obtain ⟨rfl, rfl, _⟩ := tsFromPayloads_eq_ok.mp read
  rw [asked'] at first
  rw [asked] at second
  obtain ⟨nearSide, near, sameNear⟩ := narrow_again second
  obtain ⟨farSide, far, sameFar⟩ := narrow_again first
  refine ⟨nearSide, farSide, narrowResponseSelectors_eq_ok.mpr ⟨remoteSide, localSide, ?_, near, far⟩, sameNear,
    sameFar⟩
  exact tsFromPayloads_eq_ok.mpr ⟨granted, granted', (narrow_eq_ok.mp second).2, (narrow_eq_ok.mp first).2⟩

end Shuli.Ipsec
