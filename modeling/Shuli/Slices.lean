import Shuli.Octets

/-!
Reading a buffer by offsets. A slice knows its place in the buffer and refuses to be read outside of
its octets; a computation on slices ends with a value, with an error of its own, or with a fault that
a checked language turns into a panic. `Agrees` compares such a computation with a plain function that
cannot fault. Regions record where the parts of a value stand.
-/

namespace Shuli

/-- How a computation on slices ends without a value. -/
inductive Fault (E : Type)
  /-- an index or a slice out of bounds -/
  | panicked
  /-- a loop that was not over within its bound -/
  | unfinished
  | failed (error : E)
  deriving DecidableEq, Repr

abbrev Checked (E α : Type) := Except (Fault E) α

def minus {E : Type} (a b : Nat) : Checked E Nat := if b ≤ a then .ok (a - b) else .error .panicked

def fail {E α : Type} (error : E) : Checked E α := .error (.failed error)

/-- Where a structure stands in a buffer, and where its parts do. -/
inductive Region
  | mk (start stop : Nat) (parts : List Region)

namespace Region

def start : Region → Nat
  | mk start _ _ => start

def stop : Region → Nat
  | mk _ stop _ => stop

def parts : Region → List Region
  | mk _ _ parts => parts

end Region

/-- The regions stand one behind the other between two places, and so do the parts of each one
between its own ends. -/
inductive Tiled : Nat → Nat → List Region → Prop
  | nil {first last : Nat} (order : first ≤ last) : Tiled first last []
  | cons {first last start stop : Nat} {parts rest : List Region} (behind : first ≤ start)
      (inside : Tiled start stop parts) (tail : Tiled stop last rest) :
      Tiled first last (.mk start stop parts :: rest)

/-- The parts of the region stand inside of it, at every depth. -/
def Region.Nested (region : Region) : Prop := Tiled region.start region.stop region.parts

namespace Tiled

variable {first last : Nat} {regions : List Region}

theorem order (tiled : Tiled first last regions) : first ≤ last := by
  induction tiled with
  | nil order => exact order
  | cons behind _ _ inside tail => omega

theorem widen {before : Nat} (tiled : Tiled first last regions) (earlier : before ≤ first) :
    Tiled before last regions := by
  cases tiled with
  | nil order => exact .nil (earlier.trans order)
  | cons behind inside tail => exact .cons (earlier.trans behind) inside tail

theorem within (tiled : Tiled first last regions) :
    ∀ region ∈ regions, first ≤ region.start ∧ region.stop ≤ last ∧ region.Nested := by
  induction tiled with
  | nil _ => exact fun _ member => (nomatch member)
  | @cons first last start stop parts rest behind inside tail _ ih =>
    intro region member
    rcases List.mem_cons.mp member with rfl | later
    · exact ⟨behind, tail.order, inside⟩
    · obtain ⟨start', stop', nested⟩ := ih region later
      have order := inside.order
      exact ⟨by omega, stop', nested⟩

theorem pairwise (tiled : Tiled first last regions) :
    regions.Pairwise fun left right => left.stop ≤ right.start := by
  induction tiled with
  | nil _ => exact .nil
  | cons _ _ tail _ ih =>
    exact .cons (fun region member => (tail.within region member).1) ih

end Tiled

structure Slice where
  base : Nat
  octets : Octets
  deriving DecidableEq, Repr

namespace Slice

variable {E : Type} (slice : Slice)

def index (index : Nat) : Checked E UInt8 :=
  match slice.octets[index]? with
  | some octet => .ok octet
  | none => .error .panicked

def sub (first last : Nat) : Checked E Slice :=
  if first ≤ last ∧ last ≤ slice.octets.length then
    .ok ⟨slice.base + first, (slice.octets.take last).drop first⟩
  else .error .panicked

def tail (first : Nat) : Checked E Slice := slice.sub first slice.octets.length

def u16 (index : Nat) : Checked E UInt16 := do
  let high ← slice.index index
  let low ← slice.index (index + 1)
  return ofBe16 [high, low]

def array (width : Nat) : Checked E (Block width) :=
  if fits : slice.octets.length = width then .ok ⟨slice.octets, fits⟩ else .error .panicked

def block (first width : Nat) : Checked E (Block width) := do
  let part ← slice.sub first (first + width)
  part.array width

def region (first last : Nat) (parts : List Region) : Region :=
  .mk (slice.base + first) (slice.base + last) parts

variable {slice}

theorem index_eq {index : Nat} (inside : index < slice.octets.length) :
    slice.index index = (.ok (slice.octets.getD index 0) : Checked E UInt8) := by
  simp [Slice.index, List.getElem?_eq_getElem inside]

theorem sub_eq {first last : Nat} (order : first ≤ last) (inside : last ≤ slice.octets.length) :
    slice.sub first last =
      (.ok ⟨slice.base + first, (slice.octets.take last).drop first⟩ : Checked E Slice) :=
  if_pos ⟨order, inside⟩

theorem tail_eq {first : Nat} (inside : first ≤ slice.octets.length) :
    slice.tail first = (.ok ⟨slice.base + first, slice.octets.drop first⟩ : Checked E Slice) := by
  rw [Slice.tail, sub_eq inside le_rfl, List.take_length]

theorem u16_eq {index : Nat} (inside : index + 2 ≤ slice.octets.length) :
    slice.u16 index =
      (.ok (ofBe16 ((slice.octets.take (index + 2)).drop index)) : Checked E UInt16) := by
  have first : index < slice.octets.length := by omega
  have second : index + 1 < slice.octets.length := by omega
  have two : (slice.octets.take (index + 2)).drop index =
      [slice.octets.getD index 0, slice.octets.getD (index + 1) 0] := by
    rw [List.drop_take, Nat.add_sub_cancel_left, List.drop_eq_getElem_cons first,
      List.drop_eq_getElem_cons second]
    simp only [List.take_succ_cons, List.take_zero, List.getD_eq_getElem?_getD,
      List.getElem?_eq_getElem first, List.getElem?_eq_getElem second, Option.getD_some]
  rw [u16, index_eq first, index_eq second, two]
  rfl

theorem block_eq {first width : Nat} (inside : first + width ≤ slice.octets.length) :
    slice.block first width = (.ok ⟨(slice.octets.drop first).take width, by
      rw [List.length_take, List.length_drop]
      omega⟩ : Checked E (Block width)) := by
  have whole : ((slice.octets.take (first + width)).drop first).length = width := by
    rw [List.length_drop, List.length_take]
    omega
  rw [block, sub_eq (Nat.le_add_right _ _) inside]
  change array _ width = _
  rw [array, dif_pos whole]
  simp only [List.drop_take, Nat.add_sub_cancel_left]

end Slice

/-- The checked computation neither panics nor stops early, fails where the plain one does, and
otherwise returns its value, and `P` holds of what it returns. -/
def Agrees {E α β : Type} (checked : Checked E β) (plain : Except E α) (erase : β → α)
    (P : β → Prop) : Prop :=
  match checked with
  | .ok value => plain = .ok (erase value) ∧ P value
  | .error (.failed error) => plain = .error error
  | .error _ => False

namespace Agrees

variable {E α β γ δ : Type} {plain : Except E α} {checked : Checked E β} {erase : β → α} {P : β → Prop}

theorem ok {value : β} (same : plain = .ok (erase value)) (holds : P value) :
    Agrees (.ok value) plain erase P := ⟨same, holds⟩

theorem failed (error : E) : Agrees (fail error) (.error error) erase P := rfl

theorem mono {Q : β → Prop} (agrees : Agrees checked plain erase P) (weaker : ∀ value, P value → Q value) :
    Agrees checked plain erase Q := by
  match checked, agrees with
  | .ok value, ⟨same, holds⟩ => exact ⟨same, weaker value holds⟩
  | .error (.failed _), same => exact same

theorem read {value : γ} {checked : Checked E γ} {f : γ → Checked E β} (inside : checked = .ok value)
    (next : Agrees (f value) plain erase P) : Agrees (checked >>= f) plain erase P := by
  rw [inside]
  exact next

theorem guard {c d : Prop} [Decidable c] [Decidable d] {error : E} {f : PUnit → Except E α}
    (same : c ↔ d) (next : ¬c → Agrees checked plain erase P) :
    Agrees (if c then fail error else checked)
      (if d then (throw error : Except E PUnit) >>= f else plain) erase P := by
  by_cases holds : c
  · rw [if_pos holds, if_pos (same.mp holds)]
    exact rfl
  · rw [if_neg holds, if_neg (fun other => holds (same.mpr other))]
    exact next holds

theorem branch {c d : Prop} [Decidable c] [Decidable d] {checked' : Checked E β} {plain' : Except E α} (same : c ↔ d)
    (yes : c → Agrees checked plain erase P) (no : ¬c → Agrees checked' plain' erase P) :
    Agrees (if c then checked else checked') (if d then plain else plain') erase P := by
  by_cases holds : c
  · rw [if_pos holds, if_pos (same.mp holds)]
    exact yes holds
  · rw [if_neg holds, if_neg (fun other => holds (same.mpr other))]
    exact no holds

theorem bind {f : β → Checked E δ} {g : α → Except E γ} {erase' : δ → γ} {Q : δ → Prop}
    (first : Agrees checked plain erase P) (next : ∀ value, P value → Agrees (f value) (g (erase value)) erase' Q) :
    Agrees (checked >>= f) (plain >>= g) erase' Q := by
  match checked, first with
  | .ok value, ⟨same, holds⟩ =>
    rw [same]
    exact next value holds
  | .error (.failed error), same =>
    rw [same]
    exact rfl

end Agrees

end Shuli
